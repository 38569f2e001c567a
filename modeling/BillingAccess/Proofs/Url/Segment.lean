/-
Segments that are added to the path of a URL.

A text becomes one segment that stands for it exactly if it is neither of the
two places and holds no tab and no line end.  Added to a path that does not
start with an empty segment, such texts extend it one by one.  In all other
cases the path ends up shorter than that, or with a segment of another text;
the proof counts segments, of which no text adds more than one.
-/
import BillingAccess.Proofs.Url.Percent
import BillingAccess.Url.Edit
import Mathlib.Data.List.Forall2

namespace BillingAccess.Url

/-- A text without its tabs and line ends. -/
def clean (text : String) : List Char :=
  text.toList.filter fun c => !(c == '\t' || c == '\n' || c == '\r')

/-- The segment for characters in a URL of that scheme. -/
def segmentFor (scheme : String) (text : List Char) : String :=
  String.ofList (Percent.encode
    (fun c => Percent.inSegment c || (isSpecial scheme && c == '\\')) text)

/-- A text that a segment can be added for: it is no place, and it holds no tab
and no line end. -/
structure Plain (text : String) : Prop where
  not_here : text ≠ "."
  not_up : text ≠ ".."
  unbroken : ∀ c ∈ text.toList, c ≠ '\t' ∧ c ≠ '\n' ∧ c ≠ '\r'

/-- The segment is one segment, and decodes to the text. -/
structure StandsFor (segment text : String) : Prop where
  decoded : Percent.decode segment.toList = Utf8.ofString text
  whole : '/' ∉ segment.toList

theorem clean_eq_iff (text : String) :
    clean text = text.toList ↔ ∀ c ∈ text.toList, c ≠ '\t' ∧ c ≠ '\n' ∧ c ≠ '\r' := by
  rw [clean, List.filter_eq_self]
  simp [and_assoc]

theorem encode_injective {s t : List Char} (h : Utf8.encode s = Utf8.encode t) : s = t := by
  have hread := congrArg Utf8.decode? h
  rw [Utf8.decode?_encode, Utf8.decode?_encode] at hread
  exact Option.some.inj hread

/-- No segment stands for two texts. -/
theorem StandsFor.inj {segment s t : String} (hs : StandsFor segment s)
    (ht : StandsFor segment t) : s = t :=
  String.toList_inj.mp (encode_injective (hs.decoded.symm.trans ht.decoded))

theorem decode_segmentFor (scheme : String) (text : List Char) :
    Percent.decode (segmentFor scheme text).toList = Utf8.encode text := by
  rw [segmentFor, String.toList_ofList]
  exact Percent.decode_encode (by rw [Bool.or_eq_true]; exact Or.inl (by decide)) text

theorem slash_not_mem_segmentFor (scheme : String) (text : List Char) :
    '/' ∉ (segmentFor scheme text).toList := by
  rw [segmentFor, String.toList_ofList]
  refine Percent.not_mem_encode ?_ ⟨by decide, by decide⟩ text
  rw [Bool.or_eq_true]
  exact Or.inl (by decide)

theorem segmentFor_standsFor (scheme text : String) :
    StandsFor (segmentFor scheme text.toList) text :=
  ⟨decode_segmentFor scheme text.toList, slash_not_mem_segmentFor scheme text.toList⟩

/-- What the places are written as. -/
def IsPlace (text : List Char) : Prop :=
  text = "..".toList ∨ text = ".".toList

instance (text : List Char) : Decidable (IsPlace text) :=
  inferInstanceAs (Decidable (_ ∨ _))

/-- The path of a file is settled, others stay as they are. -/
def settle (scheme : String) (path : List String) : List String :=
  if scheme == "file" then settleFile path else path

theorem pushSegment_eq (scheme : String) (path : List String) (text : String) :
    pushSegment scheme path text =
      if text = "." ∨ text = ".." then path
      else
        settle scheme
          (if IsPlace (clean text) then
            walk (scheme == "file") (if path = [""] then [] else path) [clean text]
          else (if path = [""] then [] else path) ++ [segmentFor scheme (clean text)]) :=
  rfl

/-- A path that neither is empty nor starts with an empty segment. -/
def Rooted : List String → Prop
  | [] => False
  | first :: _ => first ≠ ""

theorem Rooted.append {path : List String} (h : Rooted path) (more : List String) :
    Rooted (path ++ more) := by
  cases path with
  | nil => exact h.elim
  | cons first rest => exact h

theorem settleFile_of_rooted {path : List String} (h : Rooted path) : settleFile path = path := by
  cases path with
  | nil => exact h.elim
  | cons first rest =>
      have hfirst : ¬first = "" := h
      have hkept : (first :: rest).dropWhile (· == "") = first :: rest :=
        List.dropWhile_cons_of_neg (by simpa using hfirst)
      rw [settleFile, hkept]

theorem settle_of_rooted {path : List String} (scheme : String) (h : Rooted path) :
    settle scheme path = path := by
  rw [settle, settleFile_of_rooted h, ite_self]

theorem length_settleFile_le {path : List String} (h : path ≠ []) :
    (settleFile path).length ≤ path.length := by
  have hdropped := (path.dropWhile_suffix (· == "")).length_le
  have hpositive := List.length_pos_iff.mpr h
  rw [settleFile]
  split
  · exact hpositive
  · exact hdropped

theorem length_settle_le (scheme : String) {path : List String} (h : path ≠ []) :
    (settle scheme path).length ≤ path.length := by
  rw [settle]
  split
  · exact length_settleFile_le h
  · exact Nat.le_refl _

/-- Settling either leaves the added segment where it is or costs as much. -/
theorem settle_append_cases (scheme : String) (path : List String) (segment : String) :
    (settle scheme (path ++ [segment])).length ≤ path.length ∨
      settle scheme (path ++ [segment]) = path ++ [segment] := by
  rw [settle]
  split
  case isFalse => exact Or.inr rfl
  case isTrue =>
    cases path with
    | nil =>
        right
        by_cases hempty : segment = ""
        · rw [hempty]
          rfl
        · exact settleFile_of_rooted hempty
    | cons first rest =>
        by_cases hempty : first = ""
        · left
          have hdrop :
              settleFile (first :: rest ++ [segment]) = settleFile (rest ++ [segment]) := by
            rw [hempty]
            rfl
          have hle := length_settleFile_le (List.append_ne_nil_of_right_ne_nil rest
            (List.cons_ne_nil segment []))
          rw [hdrop]
          simpa using hle
        · exact Or.inr (settleFile_of_rooted hempty)

/-- What a text is added as, if a segment is added for it. -/
inductive AddedFor (scheme text : String) : String → Prop
  | segment (hhere : text ≠ ".") (hup : text ≠ "..") :
      AddedFor scheme text (segmentFor scheme (clean text))
  | place (h : IsPlace (clean text)) : AddedFor scheme text ""

theorem isPlace_cases {text : List Char} (h : IsPlace text) :
    isUp text = true ∨ isUp text = false ∧ isHere text = true := by
  rcases h with rfl | rfl <;> decide

/-- A place ends a path with an empty segment, perhaps one further up. -/
theorem walk_place (file : Bool) (path : List String) {text : List Char} (h : IsPlace text) :
    ∃ front, walk file path [text] = front ++ [""] ∧
      (front = path ∨ front.length < path.length) := by
  rw [walk]
  rcases isPlace_cases h with hup | ⟨hup, hhere⟩
  · refine ⟨shorten file path, by rw [if_pos hup], ?_⟩
    rw [shorten]
    split
    · exact Or.inl rfl
    · cases path with
      | nil => exact Or.inl rfl
      | cons first rest =>
          right
          rw [List.length_dropLast]
          exact Nat.sub_one_lt (Nat.succ_ne_zero _)
  · refine ⟨path, ?_, Or.inl rfl⟩
    rw [if_neg (by rw [hup]; exact Bool.false_ne_true), if_pos hhere]

/-- The path that a segment is added to. -/
def roomIn (path : List String) : List String :=
  if path = [""] then [] else path

theorem exists_pushed (scheme : String) (path : List String) {text : String}
    (hhere : text ≠ ".") (hup : text ≠ "..") :
    ∃ front segment, pushSegment scheme path text = settle scheme (front ++ [segment]) ∧
      (front = roomIn path ∨ front.length < (roomIn path).length) ∧
      AddedFor scheme text segment := by
  rw [pushSegment_eq, if_neg (not_or.mpr ⟨hhere, hup⟩)]
  by_cases hplace : IsPlace (clean text)
  · obtain ⟨front, hwalk, hfront⟩ := walk_place (scheme == "file") (roomIn path) hplace
    refine ⟨front, "", ?_, hfront, .place hplace⟩
    rw [if_pos hplace, ← hwalk, roomIn]
  · refine ⟨roomIn path, _, ?_, Or.inl rfl, .segment hhere hup⟩
    rw [if_neg hplace, roomIn]

/-- A text adds one segment at most. -/
theorem pushSegment_cases (scheme : String) (path : List String) (text : String) :
    (pushSegment scheme path text).length ≤ path.length ∨
      ∃ segment, pushSegment scheme path text = path ++ [segment] ∧
        AddedFor scheme text segment := by
  by_cases hskipped : text = "." ∨ text = ".."
  · rw [pushSegment_eq, if_pos hskipped]
    exact Or.inl (Nat.le_refl _)
  obtain ⟨hhere, hup⟩ := not_or.mp hskipped
  obtain ⟨front, segment, hpushed, hfront, hadded⟩ := exists_pushed scheme path hhere hup
  have hlength : (pushSegment scheme path text).length ≤ front.length + 1 := by
    have hsettled := length_settle_le scheme
      (List.append_ne_nil_of_right_ne_nil front (List.cons_ne_nil segment []))
    rwa [← hpushed, List.length_append, List.length_singleton] at hsettled
  by_cases hroom : path = [""]
  · -- the new segment takes the place of the empty one
    left
    rw [roomIn, if_pos hroom] at hfront
    have hempty : front.length = 0 := by
      rcases hfront with rfl | hshort
      · rfl
      · exact absurd hshort (Nat.not_lt_zero _)
    rw [hempty] at hlength
    rwa [hroom] at hlength ⊢
  · rw [roomIn, if_neg hroom] at hfront
    rcases hfront with rfl | hshort
    · rw [hpushed]
      exact (settle_append_cases scheme front segment).imp_right fun hsame =>
        ⟨segment, hsame, hadded⟩
    · exact Or.inl (Nat.le_trans hlength hshort)

theorem pushSegment_plain (scheme : String) {path : List String} (hpath : Rooted path)
    {text : String} (h : Plain text) :
    pushSegment scheme path text = path ++ [segmentFor scheme text.toList] := by
  have hclean : clean text = text.toList := (clean_eq_iff text).mpr h.unbroken
  have hplace : ¬IsPlace (clean text) := by
    rw [hclean]
    rintro (hup | hhere)
    · exact h.not_up (String.toList_inj.mp hup)
    · exact h.not_here (String.toList_inj.mp hhere)
  have hroom : path ≠ [""] := by
    rintro rfl
    exact hpath rfl
  rw [pushSegment_eq, if_neg (not_or.mpr ⟨h.not_here, h.not_up⟩), if_neg hplace, if_neg hroom,
    hclean]
  exact settle_of_rooted scheme (hpath.append _)

/-- What is added for a text stands for it only if the text is plain. -/
theorem AddedFor.plain {scheme text segment : String} (h : AddedFor scheme text segment)
    (hstands : StandsFor segment text) : Plain text := by
  cases h with
  | segment hhere hup =>
      have hbytes := hstands.decoded
      rw [decode_segmentFor] at hbytes
      exact ⟨hhere, hup, (clean_eq_iff text).mp (encode_injective hbytes)⟩
  | place hplace =>
      have hempty : text.toList = [] := encode_injective hstands.decoded.symm
      rw [clean, hempty] at hplace
      exact absurd hplace (by decide)

/-- The path with a segment added for each text. -/
def pushAll (scheme : String) (path texts : List String) : List String :=
  texts.foldl (pushSegment scheme) path

theorem length_pushAll_le (scheme : String) (path texts : List String) :
    (pushAll scheme path texts).length ≤ path.length + texts.length := by
  induction texts generalizing path with
  | nil => exact Nat.le_refl _
  | cons text texts ih =>
      have hrest := ih (pushSegment scheme path text)
      have hfirst : (pushSegment scheme path text).length ≤ path.length + 1 := by
        rcases pushSegment_cases scheme path text with hshort | ⟨segment, hsame, -⟩
        · exact Nat.le_succ_of_le hshort
        · exact Nat.le_of_eq (by rw [hsame, List.length_append, List.length_singleton])
      rw [pushAll, List.foldl_cons, List.length_cons]
      rw [pushAll] at hrest
      omega

/-- If there is a segment for each text, then each was added for its text. -/
theorem exists_added_of_length {scheme : String} {path texts : List String}
    (h : (pushAll scheme path texts).length = path.length + texts.length) :
    ∃ added, pushAll scheme path texts = path ++ added ∧
      List.Forall₂ (fun segment text => AddedFor scheme text segment) added texts := by
  induction texts generalizing path with
  | nil => exact ⟨[], (List.append_nil path).symm, .nil⟩
  | cons text texts ih =>
      have hle := length_pushAll_le scheme (pushSegment scheme path text) texts
      have hstep : pushAll scheme path (text :: texts) =
          pushAll scheme (pushSegment scheme path text) texts := rfl
      rw [hstep, List.length_cons] at h
      rcases pushSegment_cases scheme path text with hshort | ⟨segment, hsame, hadded⟩
      · omega
      · rw [hsame] at h hstep
        have hfull : (pushAll scheme (path ++ [segment]) texts).length =
            (path ++ [segment]).length + texts.length := by
          rw [h, List.length_append, List.length_singleton]
          omega
        obtain ⟨added, hpath, hall⟩ := ih hfull
        refine ⟨segment :: added, ?_, .cons hadded hall⟩
        rw [hstep, hpath, List.append_assoc, List.singleton_append]

theorem pushAll_plain (scheme : String) {path texts : List String} (hpath : Rooted path)
    (h : ∀ text ∈ texts, Plain text) :
    pushAll scheme path texts = path ++ texts.map fun text => segmentFor scheme text.toList := by
  induction texts generalizing path with
  | nil => exact (List.append_nil path).symm
  | cons text texts ih =>
      obtain ⟨htext, htexts⟩ := List.forall_mem_cons.mp h
      rw [pushAll, List.foldl_cons, pushSegment_plain scheme hpath htext]
      have hrest := ih (hpath.append [segmentFor scheme text.toList]) htexts
      rw [pushAll] at hrest
      rw [hrest, List.append_assoc, List.singleton_append, List.map_cons]

theorem forall_of_forall₂ {α β : Type} {P : β → Prop} {as : List α} {bs : List β}
    (h : List.Forall₂ (fun _ b => P b) as bs) : ∀ b ∈ bs, P b := by
  induction h with
  | nil => exact nofun
  | cons hb _ ih => exact List.forall_mem_cons.mpr ⟨hb, ih⟩

/-- The texts become segments that stand for them exactly if they are plain. -/
theorem pushAll_standsFor_iff (scheme : String) {path : List String} (hpath : Rooted path)
    (texts : List String) :
    (∃ added, pushAll scheme path texts = path ++ added ∧
      List.Forall₂ StandsFor added texts) ↔ ∀ text ∈ texts, Plain text := by
  constructor
  · rintro ⟨added, hall, hstand⟩
    have hlength : (pushAll scheme path texts).length = path.length + texts.length := by
      rw [hall, List.length_append, hstand.length_eq]
    obtain ⟨same, hsame, hadded⟩ := exists_added_of_length hlength
    rw [hall] at hsame
    obtain rfl := List.append_cancel_left hsame
    exact forall_of_forall₂ (hadded.mp (fun _ _ hadded => hadded.plain) hstand)
  · intro h
    refine ⟨_, pushAll_plain scheme hpath h, ?_⟩
    rw [List.forall₂_map_left_iff, List.forall₂_same]
    exact fun text _ => segmentFor_standsFor scheme text

end BillingAccess.Url
