/-
Links that name a path from the root, read on a page.

Such a link keeps the scheme and the authority of the page and puts its own
segments in place of the path.  A page among files also keeps the drive that
its path starts with.
-/
import BillingAccess.Proofs.Url.Segment

namespace BillingAccess.Url

/-- A piece that is taken as it stands: it is no place and no drive, and nothing
in it is escaped. -/
structure Ordinary (piece : List Char) : Prop where
  not_up : isUp piece = false
  not_here : isHere piece = false
  not_drive : isDrive true piece = false
  plain : Percent.encode Percent.inPath piece = piece

instance (piece : List Char) : Decidable (Ordinary piece) :=
  decidable_of_iff
    (isUp piece = false ∧ isHere piece = false ∧ isDrive true piece = false ∧
      Percent.encode Percent.inPath piece = piece)
    ⟨fun ⟨hup, hhere, hdrive, hplain⟩ => ⟨hup, hhere, hdrive, hplain⟩,
      fun ⟨hup, hhere, hdrive, hplain⟩ => ⟨hup, hhere, hdrive, hplain⟩⟩

theorem Ordinary.segmentOf_eq {piece : List Char} (h : Ordinary piece) (file : Bool)
    (path : List String) : segmentOf file path piece = String.ofList piece := by
  unfold segmentOf
  rw [h.not_drive, Bool.and_false, h.plain]

theorem walk_cons_cons (file : Bool) (path : List String) (piece next : List Char)
    (rest : List (List Char)) (h : Ordinary piece) :
    walk file path (piece :: next :: rest) =
      walk file (path ++ [String.ofList piece]) (next :: rest) := by
  rw [walk, h.not_up, h.not_here, h.segmentOf_eq]
  · rfl
  · intro hnil
    cases hnil

/-- A walk along ordinary pieces adds them one by one. -/
theorem walk_ordinary {pieces : List (List Char)} (h : ∀ piece ∈ pieces, Ordinary piece)
    (file : Bool) (path : List String) :
    walk file path pieces = path ++ pieces.map String.ofList := by
  induction pieces generalizing path with
  | nil => rw [walk, List.map_nil, List.append_nil]
  | cons piece rest ih =>
      obtain ⟨hpiece, hrest⟩ := List.forall_mem_cons.mp h
      cases rest with
      | nil =>
          rw [walk, hpiece.not_up, hpiece.not_here, hpiece.segmentOf_eq]
          rfl
      | cons next rest =>
          rw [walk_cons_cons file path piece next rest hpiece, ih hrest, List.append_assoc]
          rfl

/-- The pieces behind the slashes of a link. -/
def linkPieces (link : String) : List (List Char) :=
  (link.toList.splitOn '/').tail

/-- The segments that a link from the root names. -/
def linkSegments (link : String) : List String :=
  (linkPieces link).map String.ofList

/-- A link that is one slash and ordinary pieces, none of them empty. -/
structure FromRoot (link : String) : Prop where
  reference : Reference.ofText link.toList = ⟨link.toList, none, none⟩
  unschemed : splitScheme? link.toList = none
  slash : link.toList = '/' :: link.toList.tail
  one_slash : (link.toList.takeWhile fun c => c == '/' || c == '\\').length = 1
  not_drive : startsWithDrive link.toList.tail = false
  pieces : ∀ special, cutSlashes special link.toList.tail = linkPieces link
  nonempty : linkPieces link ≠ []
  ordinary : ∀ piece ∈ linkPieces link, piece ≠ [] ∧ Ordinary piece

instance (link : String) : Decidable (FromRoot link) :=
  decidable_of_iff
    (Reference.ofText link.toList = ⟨link.toList, none, none⟩ ∧
      splitScheme? link.toList = none ∧
      link.toList = '/' :: link.toList.tail ∧
      (link.toList.takeWhile fun c => c == '/' || c == '\\').length = 1 ∧
      startsWithDrive link.toList.tail = false ∧
      (∀ special, cutSlashes special link.toList.tail = linkPieces link) ∧
      linkPieces link ≠ [] ∧
      ∀ piece ∈ linkPieces link, piece ≠ [] ∧ Ordinary piece)
    ⟨fun ⟨a, b, c, d, e, f, g, h⟩ => ⟨a, b, c, d, e, f, g, h⟩,
      fun ⟨a, b, c, d, e, f, g, h⟩ => ⟨a, b, c, d, e, f, g, h⟩⟩

/-- The drive of a page among files. -/
def keptDrive (base : Url) : List String :=
  if base.scheme = "file" then
    base.segments.take 1 |>.filter fun first => isDrive false first.toList
  else []

theorem keptDrive_nonempty (base : Url) : ∀ drive ∈ base.keptDrive, drive ≠ "" := by
  intro drive hdrive
  rw [keptDrive] at hdrive
  split at hdrive
  case isTrue =>
    rintro rfl
    exact absurd (List.mem_filter.mp hdrive).2 (by decide)
  case isFalse => exact absurd hdrive List.not_mem_nil

theorem rooted_append {front rest : List String} (hfront : ∀ segment ∈ front, segment ≠ "")
    (hrest : Rooted rest) : Rooted (front ++ rest) := by
  cases front with
  | nil => exact hrest
  | cons first front => exact hfront first List.mem_cons_self

/-- The two are asked for at the same place. -/
structure SameAuthority (url other : Url) : Prop where
  scheme : url.scheme = other.scheme
  username : url.username = other.username
  password : url.password = other.password
  host : url.host = other.host
  port : url.port = other.port

theorem readFile_slash (base : Url) {c : Char} {after : List Char} (h : isSlash true c = false) :
    readFile (some base) ⟨'/' :: c :: after, none, none⟩ =
      readFile.fromRoot ⟨'/' :: c :: after, none, none⟩ (some base) (c :: after) := by
  have hfirst : isSlash true '/' = true := rfl
  unfold readFile
  simp only [hfirst, h]
  rfl

namespace FromRoot

variable {link : String} (h : FromRoot link) {base : Url} {path : List String}

include h

theorem exists_cons : ∃ c after, link.toList = '/' :: c :: after ∧ isSlash true c = false := by
  have hslash := h.slash
  have hone := h.one_slash
  cases hrest : link.toList.tail with
  | nil =>
      have hpieces := h.pieces true
      rw [hrest] at hpieces
      have hempty : [] ∈ linkPieces link := hpieces ▸ List.mem_singleton_self []
      exact absurd rfl (h.ordinary [] hempty).1
  | cons c after =>
      rw [hrest] at hslash
      refine ⟨c, after, hslash, ?_⟩
      rw [hslash] at hone
      by_contra hc
      rw [Bool.not_eq_false, isSlash, Bool.true_and] at hc
      simp [hc] at hone

theorem walk_eq (file special : Bool) (path : List String) :
    walk file path (cutSlashes special link.toList.tail) = path ++ linkSegments link := by
  rw [h.pieces]
  exact walk_ordinary (fun piece hpiece => (h.ordinary piece hpiece).2) file path

theorem linkSegments_nonempty : ∀ segment ∈ linkSegments link, segment ≠ "" := by
  intro segment hsegment
  obtain ⟨piece, hpiece, rfl⟩ := List.mem_map.mp hsegment
  intro hempty
  exact (h.ordinary piece hpiece).1 (String.ofList_eq_empty_iff.mp hempty)

theorem rooted : Rooted (linkSegments link) := by
  have hnonempty := h.linkSegments_nonempty
  cases hsegments : linkSegments link with
  | nil => exact absurd (List.map_eq_nil_iff.mp hsegments) h.nonempty
  | cons first rest => exact hnonempty first (hsegments ▸ List.mem_cons_self)

theorem rooted_path (base : Url) : Rooted (base.keptDrive ++ linkSegments link) :=
  rooted_append (keptDrive_nonempty base) h.rooted

theorem join_eq (base : Url) :
    base.join link =
      match base.path with
      | .whole _ => .error .baseWithoutParts
      | .parts _ =>
          if base.scheme = "file" then readFile (some base) ⟨link.toList, none, none⟩
          else readRelative base ⟨link.toList, none, none⟩ := by
  obtain ⟨c, after, hlink, -⟩ := h.exists_cons
  have hbody : ¬(link.toList = [] ∧ (none : Option (List Char)) = none ∧
      (none : Option (List Char)).isSome = true) := by
    rw [hlink]
    exact fun hempty => List.cons_ne_nil _ _ hempty.1
  rw [join, readFrom, h.reference]
  simp only [h.unschemed]
  rw [readUnschemed]
  exact if_neg hbody

/-- On a page without segments the link leads nowhere. -/
theorem join_whole {text : String} (hbase : base.path = .whole text) :
    base.join link = .error .baseWithoutParts := by
  rw [h.join_eq, hbase]

/-- The link keeps everything in front of the path. -/
theorem join_of_not_file (hbase : base.path = .parts path) (hscheme : base.scheme ≠ "file") :
    base.join link =
      .ok { base with path := .parts (linkSegments link), query := none, fragment := none } := by
  obtain ⟨c, after, hlink, -⟩ := h.exists_cons
  have hwalk := h.walk_eq false (isSpecial base.scheme) []
  have hone := h.one_slash
  rw [h.join_eq, hbase]
  simp only [if_neg hscheme]
  rw [hlink] at hwalk hone ⊢
  rw [List.tail_cons] at hwalk
  rw [readRelative]
  simp only [hone, hwalk]
  rfl

/-- Among files the link also keeps the drive, and then no host. -/
theorem join_of_file (hbase : base.path = .parts path) (hscheme : base.scheme = "file") :
    base.join link =
      .ok { emptyFile with
        host := if base.keptDrive = [] then base.host else some (.named "")
        path := .parts (base.keptDrive ++ linkSegments link) } := by
  obtain ⟨c, after, hlink, hc⟩ := h.exists_cons
  have hwalk := h.walk_eq true true base.keptDrive
  have hdrive := h.not_drive
  rw [h.join_eq, hbase]
  simp only [if_pos hscheme]
  rw [hlink] at hwalk hdrive ⊢
  rw [List.tail_cons] at hwalk hdrive
  rw [readFile_slash base hc, readFile.fromRoot]
  simp only [hdrive]
  rw [if_neg Bool.false_ne_true]
  have hkept : base.keptDrive =
      (base.segments.take 1 |>.filter fun first => isDrive false first.toList) := by
    rw [keptDrive, if_pos hscheme]
  rw [← hkept, hwalk, settleFile_of_rooted (h.rooted_path base)]
  rfl

/-- On a page with segments the link leads to a path of its own.  A file has no
host to keep once there is a drive. -/
theorem exists_join (hbase : base.path = .parts path) :
    ∃ url, base.join link = .ok url ∧
      url.path = .parts (base.keptDrive ++ linkSegments link) ∧ url.scheme = base.scheme ∧
      (base.scheme ≠ "file" → SameAuthority url base) := by
  by_cases hscheme : base.scheme = "file"
  · exact ⟨_, h.join_of_file hbase hscheme, rfl, hscheme.symm, fun hother => absurd hscheme hother⟩
  · refine ⟨_, h.join_of_not_file hbase hscheme, ?_, rfl, fun _ => ⟨rfl, rfl, rfl, rfl, rfl⟩⟩
    rw [keptDrive, if_neg hscheme, List.nil_append]

/-- The link has no query, and it leaves none of the page. -/
theorem join_query {url : Url} (hbase : base.path = .parts path)
    (hjoin : base.join link = .ok url) : url.query = none := by
  by_cases hscheme : base.scheme = "file"
  · rw [h.join_of_file hbase hscheme] at hjoin
    cases hjoin
    rfl
  · rw [h.join_of_not_file hbase hscheme] at hjoin
    cases hjoin
    rfl

theorem dropEmptyEnd_path (base : Url) :
    dropEmptyEnd (base.keptDrive ++ linkSegments link) = base.keptDrive ++ linkSegments link := by
  refine if_neg fun hend => ?_
  have hmem := List.mem_of_getLast? hend.2
  rcases List.mem_append.mp hmem with hdrive | hsegment
  · exact keptDrive_nonempty base "" hdrive rfl
  · exact h.linkSegments_nonempty "" hsegment rfl

end FromRoot

end BillingAccess.Url
