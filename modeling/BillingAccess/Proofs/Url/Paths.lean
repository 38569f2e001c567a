/-
Paths of texts that go on behind a slash.

A piece that other pieces follow has the same effect whatever they are, so the
path of a longer text is that of the shorter one with more segments, apart from
an empty one at its end.
-/
import BillingAccess.Proofs.Url.Link

namespace BillingAccess.Url

theorem cutSlashes_ne_nil (special : Bool) (text : List Char) : cutSlashes special text ≠ [] := by
  induction text with
  | nil => exact List.cons_ne_nil _ _
  | cons c rest ih =>
      rw [cutSlashes]
      split
      · exact List.cons_ne_nil _ _
      · split
        · exact List.cons_ne_nil _ _
        · exact List.cons_ne_nil _ _

theorem cutSlashes_slash (special : Bool) (rest : List Char) :
    cutSlashes special ('/' :: rest) = [] :: cutSlashes special rest :=
  if_pos rfl

theorem cutSlashes_append (special : Bool) (front rest : List Char) :
    cutSlashes special (front ++ '/' :: rest) =
      cutSlashes special front ++ cutSlashes special rest := by
  induction front with
  | nil => exact cutSlashes_slash special rest
  | cons c front ih =>
      rw [List.cons_append, cutSlashes, cutSlashes, ih]
      split
      · rfl
      · obtain ⟨piece, pieces, hpieces⟩ :=
          List.exists_cons_of_ne_nil (cutSlashes_ne_nil special front)
        rw [hpieces]
        rfl

/-- What is put behind the text of a URL: nothing, or ordinary pieces behind slashes. -/
inductive Tail : List Char → List (List Char) → Prop
  | none : Tail [] []
  | slash {rest : List Char} {pieces : List (List Char)}
      (cut : ∀ special, cutSlashes special rest = pieces)
      (ordinary : ∀ piece ∈ pieces, Ordinary piece) : Tail ('/' :: rest) pieces

theorem ordinary_nil : Ordinary [] := by
  decide

theorem FromRoot.tail {link : String} (h : FromRoot link) :
    Tail link.toList (linkPieces link) := by
  rw [h.slash]
  exact .slash h.pieces fun piece hpiece => (h.ordinary piece hpiece).2

theorem cutSlashes_replicate (special : Bool) (n : Nat) :
    cutSlashes special (List.replicate n '/') = List.replicate (n + 1) [] := by
  induction n with
  | zero => rfl
  | succ n ih =>
      rw [List.replicate_succ, cutSlashes_slash, ih]
      rfl

theorem Tail.replicate (n : Nat) : Tail (List.replicate n '/') (List.replicate n []) := by
  cases n with
  | zero => exact .none
  | succ n =>
      refine .slash (fun special => cutSlashes_replicate special n) fun piece hpiece => ?_
      rw [List.eq_of_mem_replicate hpiece]
      exact ordinary_nil

theorem Tail.cutSlashes_append {tail : List Char} {pieces : List (List Char)} (h : Tail tail pieces)
    (special : Bool) (front : List Char) :
    cutSlashes special (front ++ tail) = cutSlashes special front ++ pieces := by
  cases h with
  | none => rw [List.append_nil, List.append_nil]
  | slash cut _ => rw [Url.cutSlashes_append, cut]

/-- Where a piece leads that is not the last. -/
def enter (file : Bool) (path : List String) (piece : List Char) : List String :=
  if isUp piece then shorten file path
  else if isHere piece then path
  else path ++ [segmentOf file path piece]

theorem walk_append (file : Bool) (path : List String) (front : List (List Char))
    {rest : List (List Char)} (h : rest ≠ []) :
    walk file path (front ++ rest) = walk file (front.foldl (enter file) path) rest := by
  induction front generalizing path with
  | nil => rfl
  | cons piece front ih =>
      have hnext : front ++ rest ≠ [] := List.append_ne_nil_of_right_ne_nil front h
      rw [List.foldl_cons, ← ih, List.cons_append, enter, walk]
      · split
        · rfl
        · split
          · rfl
          · rfl
      · exact hnext

/-- The last piece has the effect of any other, or leaves an empty segment besides. -/
theorem walk_eq_or (file : Bool) (path : List String) (pieces : List (List Char)) :
    walk file path pieces = pieces.foldl (enter file) path ∨
      walk file path pieces = pieces.foldl (enter file) path ++ [""] := by
  rcases List.eq_nil_or_concat pieces with rfl | ⟨front, last, rfl⟩
  · exact .inl rfl
  · rw [List.concat_eq_append, walk_append file path front (List.cons_ne_nil last []),
      List.foldl_append, List.foldl_cons, List.foldl_nil, walk, enter]
    split
    · exact .inr rfl
    · split
      · exact .inr rfl
      · exact .inl rfl

/-- The segments of a link are added to what a path has come to. -/
theorem FromRoot.walk_append {link : String} (h : FromRoot link) (file special : Bool)
    (front : List Char) :
    walk file [] (cutSlashes special (front ++ link.toList)) =
      (cutSlashes special front).foldl (enter file) [] ++ linkSegments link := by
  rw [h.tail.cutSlashes_append, Url.walk_append file [] _ h.nonempty]
  exact walk_ordinary (fun piece hpiece => (h.ordinary piece hpiece).2) file _

/-- The path without its first slash. -/
def dropSlash (special : Bool) : List Char → List Char
  | [] => []
  | c :: rest => if isSlash special c then rest else c :: rest

theorem dropSlash_append (special : Bool) {front : List Char} (h : front ≠ []) (rest : List Char) :
    dropSlash special (front ++ rest) = dropSlash special front ++ rest := by
  obtain ⟨c, front, rfl⟩ := List.exists_cons_of_ne_nil h
  rw [List.cons_append, dropSlash, dropSlash]
  split
  · rfl
  · rfl

/-- Behind whatever text, the path ends in the segments of the link. -/
theorem FromRoot.exists_walk {link : String} (h : FromRoot link) (file special : Bool)
    (front : List Char) :
    ∃ path, walk file [] (cutSlashes special (dropSlash special (front ++ link.toList))) =
      path ++ linkSegments link := by
  by_cases hfront : front = []
  · have hroot : dropSlash special link.toList = link.toList.tail := by
      rw [h.slash]
      rfl
    rw [hfront, List.nil_append, hroot]
    exact ⟨[], h.walk_eq file special []⟩
  · rw [dropSlash_append special hfront]
    exact ⟨_, h.walk_append file special _⟩

theorem rootedPath_eq (special : Bool) {text : List Char} (h : text ≠ []) :
    rootedPath special text = walk false [] (cutSlashes special (dropSlash special text)) := by
  obtain ⟨c, rest, rfl⟩ := List.exists_cons_of_ne_nil h
  rfl

/-- The path starts with a drive. -/
def startsAtDrive (path : List String) : Bool :=
  path.head?.any fun first => isDrive false first.toList

theorem isDrive_false_of_loose {piece : List Char} (h : isDrive true piece = false) :
    isDrive false piece = false := by
  unfold isDrive at h ⊢
  split at h
  · simp_all
  · rfl

theorem startsAtDrive_ordinary {pieces : List (List Char)}
    (h : ∀ piece ∈ pieces, Ordinary piece) : startsAtDrive (pieces.map String.ofList) = false := by
  cases pieces with
  | nil => rfl
  | cons piece rest =>
      rw [List.map_cons, startsAtDrive, List.head?_cons, Option.any_some, String.toList_ofList]
      exact isDrive_false_of_loose (h piece List.mem_cons_self).not_drive

/-- What ordinary pieces lead to starts with a drive exactly if what they are
put behind does. -/
theorem startsAtDrive_walk {tail : List Char} {pieces : List (List Char)} (h : Tail tail pieces)
    (front : List (List Char)) :
    startsAtDrive (walk true [] (front ++ pieces)) =
      startsAtDrive (front.foldl (enter true) []) := by
  cases h with
  | none =>
      rw [List.append_nil]
      rcases walk_eq_or true [] front with hwalk | hwalk <;> rw [hwalk]
      cases front.foldl (enter true) [] <;> rfl
  | slash cut ordinary =>
      have hpieces : pieces ≠ [] := cut true ▸ cutSlashes_ne_nil true _
      rw [walk_append true [] front hpieces, walk_ordinary ordinary]
      cases front.foldl (enter true) [] with
      | cons first path => rfl
      | nil => exact startsAtDrive_ordinary ordinary

/-- Whether a path starts with a drive is settled before its tail. -/
theorem startsAtDrive_dropSlash {tail tail' : List Char} {pieces pieces' : List (List Char)}
    (h : Tail tail pieces) (h' : Tail tail' pieces') (front : List Char) :
    startsAtDrive (walk true [] (cutSlashes true (dropSlash true (front ++ tail)))) =
      startsAtDrive (walk true [] (cutSlashes true (dropSlash true (front ++ tail')))) := by
  have hbare {tail : List Char} {pieces : List (List Char)} (h : Tail tail pieces) :
      startsAtDrive (walk true [] (cutSlashes true (dropSlash true tail))) = false := by
    cases h with
    | none => rfl
    | @slash rest _ cut ordinary =>
        have hdrop : dropSlash true ('/' :: rest) = rest := rfl
        rw [hdrop, cut, walk_ordinary ordinary]
        exact startsAtDrive_ordinary ordinary
  by_cases hfront : front = []
  · rw [hfront, List.nil_append, List.nil_append, hbare h, hbare h']
  · rw [dropSlash_append true hfront, dropSlash_append true hfront, h.cutSlashes_append,
      h'.cutSlashes_append, startsAtDrive_walk h, startsAtDrive_walk h']

theorem Path.text_append (front rest : List String) :
    (Path.parts (front ++ rest)).text = (Path.parts front).text ++ (Path.parts rest).text := by
  rw [Path.text, List.map_append, String.join_append]
  rfl

/-- A link that nothing is escaped in, and that is the text of its segments. -/
structure PagePath (link : String) : Prop extends FromRoot link where
  spelled : (Path.parts (linkSegments link)).text = link
  unescaped : Percent.encode Percent.control link.toList = link.toList
  visible : ∀ c ∈ link.toList, 0x20 < c.toNat

/-- The text of the path ends in the link. -/
def Path.EndsIn (path : Path) (link : String) : Prop :=
  ∃ front, path.text = front ++ link

theorem Path.endsIn_iff (path : Path) (link : String) :
    path.EndsIn link ↔ link.toList <:+ path.text.toList := by
  constructor
  · rintro ⟨front, htext⟩
    exact ⟨front.toList, by rw [htext, String.toList_append]⟩
  · rintro ⟨front, htext⟩
    refine ⟨String.ofList front, String.toList_inj.mp ?_⟩
    rw [String.toList_append, String.toList_ofList, htext]

instance (path : Path) (link : String) : Decidable (path.EndsIn link) :=
  decidable_of_iff _ (path.endsIn_iff link).symm

namespace PagePath

variable {link : String} (h : PagePath link)

include h

theorem endsIn_append (front : List String) :
    (Path.parts (front ++ linkSegments link)).EndsIn link :=
  ⟨_, by rw [Path.text_append, h.spelled]⟩

theorem endsIn_settleFile (front : List String) :
    (Path.parts (settleFile (front ++ linkSegments link))).EndsIn link := by
  induction front with
  | nil =>
      rw [List.nil_append, settleFile_of_rooted h.rooted]
      exact h.endsIn_append []
  | cons first front ih =>
      by_cases hfirst : first = ""
      · subst hfirst
        exact ih
      · have hrooted : Rooted (first :: front ++ linkSegments link) := hfirst
        rw [settleFile_of_rooted hrooted]
        exact h.endsIn_append (first :: front)

theorem endsIn_rootedPath (special : Bool) (front : List Char) :
    (Path.parts (rootedPath special (front ++ link.toList))).EndsIn link := by
  have hlink : link.toList ≠ [] := h.slash ▸ List.cons_ne_nil _ _
  obtain ⟨path, hwalk⟩ := h.exists_walk false special front
  rw [rootedPath_eq special (List.append_ne_nil_of_right_ne_nil front hlink), hwalk]
  exact h.endsIn_append path

theorem endsIn_filePath (front : List Char) :
    (Path.parts (settleFile
      (walk true [] (cutSlashes true (dropSlash true (front ++ link.toList)))))).EndsIn link := by
  obtain ⟨path, hwalk⟩ := h.exists_walk true true front
  rw [hwalk]
  exact h.endsIn_settleFile path

theorem endsIn_whole (front : List Char) :
    (Path.whole (String.ofList (Percent.encode Percent.control (front ++ link.toList)))).EndsIn
      link := by
  refine ⟨String.ofList (Percent.encode Percent.control front), String.toList_inj.mp ?_⟩
  rw [Path.text, String.toList_append, String.toList_ofList, String.toList_ofList, Percent.encode,
    List.flatMap_append]
  exact congrArg _ h.unescaped

end PagePath

end BillingAccess.Url
