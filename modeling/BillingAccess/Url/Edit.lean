/-
Adding segments to the path of a URL, and pairs to its query.
-/
import BillingAccess.Url.Reader

namespace BillingAccess.Url

/-- Segments without an empty one at the end, unless it is the only one. -/
def dropEmptyEnd (path : List String) : List String :=
  if 2 ≤ path.length ∧ path.getLast? = some "" then path.dropLast else path

/-- Adds a segment.  The two places are skipped; tabs and line ends are dropped,
and if a place is left then, it counts.  A path of one empty segment makes room. -/
def pushSegment (scheme : String) (path : List String) (segment : String) : List String :=
  if segment = "." ∨ segment = ".." then path
  else
    let file := scheme == "file"
    let front := if path = [""] then [] else path
    let clean := segment.toList.filter fun c => !(c == '\t' || c == '\n' || c == '\r')
    let pushed :=
      if clean = "..".toList ∨ clean = ".".toList then walk file front [clean]
      else
        let escaped := fun c => Percent.inSegment c || (isSpecial scheme && c == '\\')
        front ++ [String.ofList (Percent.encode escaped clean)]
    if file then settleFile pushed else pushed

/-- The URL with segments added to its path, if its path has segments. -/
def withSegments? (url : Url) (added : List String) : Option Url :=
  match url.path with
  | .whole _ => none
  | .parts path =>
      some { url with path := .parts (added.foldl (pushSegment url.scheme) (dropEmptyEnd path)) }

/-- The URL with pairs added to its query. -/
def appendPairs (url : Url) (pairs : List (String × String)) : Url :=
  if pairs = [] then url
  else
    let added := Form.encode pairs
    { url with
      query := some (match url.query with
        | none | some "" => added
        | some query => query ++ "&" ++ added) }

end BillingAccess.Url
