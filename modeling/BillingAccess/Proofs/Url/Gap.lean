/-
Gaps behind the texts of URLs.

A gap at the end of a text is cut off, and one that something else stands behind
is not.  Once a path has begun, a gap is one more character of it: whether it is
there has no say in where the URL leads.  Only a drive that is the whole path of
a file is none with a gap behind it, and the name of the host counts again.
-/
import BillingAccess.Proofs.Url.Extension
import BillingAccess.Proofs.Url.Host

namespace BillingAccess.Url

variable {scheme : String} {ref ref' : Reference} {special : Bool}
  {text front path rest gap gap' : List Char} {url : Url}

theorem isSlash_of_gap {c : Char} (h : IsGap c) (special : Bool) : isSlash special c = false := by
  cases special with
  | false => simpa using h.all (p := fun c => !isSlash false c) (by decide)
  | true => simpa using h.all (p := fun c => !isSlash true c) (by decide)

/-- There may be no gap at all. -/
theorem gap_nil : ∀ c ∈ ([] : List Char), IsGap c :=
  nofun

theorem unslashed_gap (hgap : ∀ c ∈ gap, IsGap c) (special : Bool) : Unslashed special gap :=
  fun c hc => isSlash_of_gap (hgap c hc) special

theorem Unslashed.append (h : Unslashed special front) (h' : Unslashed special rest) :
    Unslashed special (front ++ rest) :=
  fun c hc => (List.mem_append.mp hc).elim (h c) (h' c)

theorem Opens.append_of_ne_nil (h : Opens special path) (hnonempty : path ≠ [])
    (rest : List Char) : Opens special (path ++ rest) := by
  obtain ⟨c, path, rfl⟩ := List.exists_cons_of_ne_nil hnonempty
  exact h

theorem getLast?_gap (hgap : ∀ c ∈ gap, IsGap c) (hnonempty : gap ≠ []) (text : List Char) :
    ∃ c, IsGap c ∧ (text ++ gap).getLast? = some c := by
  obtain ⟨front, c, rfl⟩ := (List.eq_nil_or_concat gap).resolve_left hnonempty
  rw [List.concat_eq_append] at hgap ⊢
  refine ⟨c, hgap c (List.mem_append_right front (List.mem_singleton_self c)), ?_⟩
  rw [← List.append_assoc, List.getLast?_concat]

theorem hasAuthority_gap (hgap : ∀ c ∈ gap, IsGap c) (special : Bool) (text : List Char) :
    hasAuthority special (text ++ gap) = hasAuthority special text := by
  cases gap with
  | nil => rw [List.append_nil]
  | cons c gap =>
      have hc := isSlash_of_gap (hgap c List.mem_cons_self) special
      cases text with
      | nil =>
          cases gap with
          | nil => rfl
          | cons d gap =>
              rw [List.nil_append, hasAuthority, hc]
              rfl
      | cons a text =>
          cases text with
          | cons b after => rfl
          | nil =>
              rw [List.singleton_append, hasAuthority, hc, Bool.and_false]
              rfl

/-- What stands where the name of a host is read, if there is room for one. -/
def authorityOf? (scheme : String) (text : List Char) : Option (List Char) :=
  if scheme ≠ "file" ∧ isSpecial scheme = true then some (text.dropWhile isLeading)
  else if hasAuthority (scheme == "file") text then some (text.drop 2)
  else none

theorem authorityOf?_gap (hgap : ∀ c ∈ gap, IsGap c) (scheme : String) (text : List Char) :
    authorityOf? scheme (text ++ gap) = (authorityOf? scheme text).map (· ++ gap) := by
  have hhead : ∀ c ∈ gap.head?, isLeading c = false := fun c hc =>
    isSlash_of_gap (hgap c (List.mem_of_mem_head? hc)) true
  rw [authorityOf?, authorityOf?, dropWhile_append_of_head hhead, hasAuthority_gap hgap]
  split
  case isTrue => rfl
  case isFalse =>
    split
    case isTrue h =>
      rw [List.drop_append_of_le_length (length_of_hasAuthority h)]
      rfl
    case isFalse => rfl

theorem readSchemed_authority (h : authorityOf? scheme text = some rest) (ref : Reference) :
    readSchemed none scheme ref text =
      if scheme = "file" then readFileAuthority ref rest else readAuthority scheme ref rest := by
  rw [readSchemed_none]
  rw [authorityOf?] at h
  by_cases hfile : scheme = "file"
  · rw [if_neg (fun hother => hother.1 hfile), beq_iff_eq.mpr hfile] at h
    rw [if_pos hfile, if_pos hfile]
    split at h
    case isTrue hauthority =>
      obtain rfl := Option.some.inj h
      exact readFile_of_hasAuthority hauthority ref
    case isFalse => cases h
  · rw [beq_eq_false_iff_ne.mpr hfile] at h
    rw [if_neg hfile, if_neg hfile]
    by_cases hspecial : isSpecial scheme = true
    · rw [if_pos ⟨hfile, hspecial⟩] at h
      obtain rfl := Option.some.inj h
      rw [if_pos hspecial]
    · rw [if_neg (fun hother => hspecial hother.2)] at h
      rw [if_neg hspecial]
      split at h
      case isTrue hauthority =>
        obtain rfl := Option.some.inj h
        exact readOther_of_hasAuthority hauthority
      case isFalse => cases h

/-- Without an authority a text leads nowhere in particular. -/
theorem exists_readSchemed_plain (h : authorityOf? scheme text = none) (ref : Reference) :
    ∃ url, readSchemed none scheme ref text = .ok url ∧ SameOrigin url { scheme := scheme } := by
  rw [authorityOf?] at h
  split at h
  case isTrue => cases h
  case isFalse hother =>
    split at h
    case isTrue => cases h
    case isFalse hnone =>
      have hhostless : Hostless scheme := by
        by_cases hfile : scheme = "file"
        · exact .inl hfile
        · exact .inr (Bool.eq_false_iff.mpr fun hspecial => hother ⟨hfile, hspecial⟩)
      obtain ⟨url, hread, horigin, -⟩ :=
        continuesTo_plain hhostless (Bool.eq_false_iff.mpr hnone) ref
      exact ⟨url, hread, horigin⟩

/-- What stands behind the name of a host: its port, and the path. -/
def behindHost (special : Bool) (text : List Char) : List Char :=
  (cutHost special false (cutUser special text).2).2

/-- There is a slash of any kind. -/
def Slashed (text : List Char) : Prop :=
  '/' ∈ text ∨ '\\' ∈ text

instance (text : List Char) : Decidable (Slashed text) :=
  inferInstanceAs (Decidable (_ ∨ _))

/-- The name of the host is over, if there is one, and a path has begun.  It
begins at a slash, and at a backslash behind a port. -/
def PathBegun (scheme : String) (text : List Char) : Prop :=
  ∀ rest ∈ authorityOf? scheme text, Slashed (behindHost (isSpecial scheme) rest)

instance (scheme : String) (text : List Char) : Decidable (PathBegun scheme text) :=
  inferInstanceAs (Decidable (∀ rest ∈ authorityOf? scheme text, _))

theorem behindHost_append (hfront : Unslashed special front) (hpath : Opens special path) :
    behindHost special (front ++ path) = behindHost special front ++ path := by
  rw [behindHost, cutUser_append hfront hpath, cutHost_append (cutUser_unslashed hfront) hpath]
  rfl

theorem cutHost_suffix (special inside : Bool) (text : List Char) :
    (cutHost special inside text).2 <:+ text := by
  induction text generalizing inside with
  | nil => exact List.suffix_rfl
  | cons c text ih =>
      rw [cutHost]
      split
      · exact List.suffix_rfl
      · exact (ih _).trans (List.suffix_cons c text)

theorem behindHost_unslashed (hfront : Unslashed special front) :
    Unslashed special (behindHost special front) :=
  fun c hc => cutUser_unslashed hfront c ((cutHost_suffix special false _).mem hc)

/-- The path has begun with a slash, or behind the port. -/
theorem exists_begun (h : Slashed (behindHost special rest)) :
    ∃ front path, rest = front ++ path ∧ Unslashed special front ∧ Opens special path ∧
      (path ≠ [] ∨ path = [] ∧ special = false ∧ '\\' ∈ behindHost special front) := by
  obtain ⟨front, path, rfl, hfront, hpath⟩ := exists_unslashed special rest
  refine ⟨front, path, rfl, hfront, hpath, ?_⟩
  by_cases hnil : path = []
  · subst hnil
    rw [List.append_nil] at h
    rcases h with hslash | hback
    · cases behindHost_unslashed hfront _ hslash
    · have hspecial := behindHost_unslashed hfront _ hback
      exact .inr ⟨rfl, by simpa [isSlash] using hspecial, hback⟩
  · exact .inl hnil

/-- Where no path has begun there is no slash. -/
theorem unslashed_of_not_begun (h : ¬Slashed (behindHost special rest)) :
    Unslashed special rest := by
  obtain ⟨front, path, rfl, hfront, hpath⟩ := exists_unslashed special rest
  cases path with
  | nil => rwa [List.append_nil]
  | cons c path =>
      rw [behindHost_append hfront hpath] at h
      have hmem : c ∈ behindHost special front ++ c :: path :=
        List.mem_append_right _ List.mem_cons_self
      rcases isSlash_cases (hpath c rfl) with rfl | rfl
      · exact absurd (.inl hmem) h
      · exact absurd (.inr hmem) h

theorem readAuthority_unslashed (h : Unslashed (isSpecial scheme) front) (ref : Reference) :
    readAuthority scheme ref front =
      if cutUser (isSpecial scheme) front = (some [], []) ∧ Followed ref [] then .error .emptyHost
      else
        (readFront scheme (cutUser (isSpecial scheme) front).1
          (cutUser (isSpecial scheme) front).2).map fun (url, rest) =>
            url.withPath ref (rootedPath (isSpecial scheme) rest) := by
  have hread : readAuthority scheme ref (front ++ []) = _ :=
    readAuthority_append_eq h (Tail.none.opens _)
  simpa only [List.append_nil] using hread

theorem cutUser_gap (hfront : Unslashed special front) (hgap : ∀ c ∈ gap, IsGap c) :
    cutUser special (front ++ gap) =
      ((cutUser special front).1, (cutUser special front).2 ++ gap) := by
  have hat : '@' ∉ gap := fun hmem => absurd (hgap '@' hmem) (by decide)
  have hkept : ∀ c ∈ gap.reverse, (c != '@') = true := fun c hc =>
    bne_iff_ne.mpr fun hsame => hat (hsame ▸ List.mem_reverse.mp hc)
  have hall := hfront.append (unslashed_gap hgap special)
  have hcontains : (front ++ gap).contains '@' = front.contains '@' := by
    rw [Bool.eq_iff_iff, List.contains_iff_mem, List.contains_iff_mem, List.mem_append,
      or_iff_left hat]
  rw [cutUser, cutUser, takeWhile_unslashed hall, takeWhile_unslashed hfront,
    dropWhile_unslashed hall, dropWhile_unslashed hfront, hcontains]
  dsimp only
  split
  case isFalse => rfl
  case isTrue =>
    have hafter : ((front ++ gap).reverse.takeWhile (· != '@')).reverse =
        (front.reverse.takeWhile (· != '@')).reverse ++ gap := by
      rw [List.reverse_append, List.takeWhile_append_of_pos hkept, List.reverse_append,
        List.reverse_reverse]
    have hlength : (front ++ gap).length -
        ((front.reverse.takeWhile (· != '@')).reverse ++ gap).length =
          front.length - (front.reverse.takeWhile (· != '@')).reverse.length := by
      rw [List.length_append, List.length_append, Nat.add_sub_add_right]
    rw [hafter, hlength, List.append_nil, List.append_nil, List.take_append_of_le_length (by omega)]

/-- Once there is a port, what follows does not change where the name ends. -/
theorem cutHost_append_of_ne_nil {inside : Bool} (h : (cutHost special inside text).2 ≠ [])
    (tail : List Char) :
    cutHost special inside (text ++ tail) =
      ((cutHost special inside text).1, (cutHost special inside text).2 ++ tail) := by
  induction text generalizing inside with
  | nil => exact absurd rfl h
  | cons c text ih =>
      rw [cutHost] at h
      rw [List.cons_append, cutHost, cutHost]
      split
      case isTrue => rfl
      case isFalse hgoes =>
        rw [if_neg hgoes] at h
        rw [ih h]

/-- A backslash ends a port, whatever follows it. -/
theorem readPort_append_of_mem (scheme : String) (h : '\\' ∈ text) (tail : List Char) :
    readPort scheme (text ++ tail) =
      (readPort scheme text).map fun (port, rest) => (port, rest ++ tail) := by
  obtain ⟨front, rest, rfl⟩ := List.append_of_mem h
  have hstop (rest : List Char) : ∀ c ∈ ('\\' :: rest).head?, c.isDigit = false := by
    rintro c ⟨⟩
    rfl
  rw [List.append_assoc, List.cons_append, readPort, readPort, takeWhile_append_of_head (hstop _),
    takeWhile_append_of_head (hstop _), dropWhile_append_of_head (hstop _),
    dropWhile_append_of_head (hstop _)]
  dsimp only
  split
  · rfl
  · cases front.dropWhile Char.isDigit with
    | nil => rfl
    | cons c more =>
        rw [List.cons_append, List.cons_append]
        dsimp only
        split
        · rfl
        · simp [Except.map]

theorem readFront_append_of_mem {user : Option (List Char)}
    (hfront : Unslashed (isSpecial scheme) front)
    (h : '\\' ∈ (cutHost (isSpecial scheme) false front).2) (tail : List Char) :
    readFront scheme user (front ++ tail) =
      (readFront scheme user front).map fun (url, rest) => (url, rest ++ tail) := by
  rcases cutHost_rest hfront false with hnil | ⟨port, hcolon⟩
  · rw [hnil] at h
    cases h
  · have hcut := cutHost_append_of_ne_nil (List.ne_nil_of_mem h) tail
    rw [hcolon] at h hcut
    have hmem : '\\' ∈ port := (List.mem_cons.mp h).resolve_left (by decide)
    exact readFront_append_of hcolon hcut Iff.rfl (readPort_append_of_mem scheme hmem tail)

/-- Behind a path that has begun a gap does not count for the authority. -/
theorem exists_readAuthority_gap (hgap : ∀ c ∈ gap, IsGap c) (hgap' : ∀ c ∈ gap', IsGap c)
    (hbegun : Slashed (behindHost (isSpecial scheme) rest))
    (h : readAuthority scheme ref (rest ++ gap) = .ok url) :
    ∃ other, readAuthority scheme ref' (rest ++ gap') = .ok other ∧ SameOrigin other url := by
  obtain ⟨front, path, rfl, hfront, hopens, hslash | ⟨rfl, -, hport⟩⟩ := exists_begun hbegun
  · have hmore : path ++ gap ≠ [] := List.append_ne_nil_of_left_ne_nil hslash gap
    rw [List.append_assoc] at h ⊢
    obtain ⟨left, hread⟩ := readAuthority_append hfront (hopens.append_of_ne_nil hslash gap)
      (hopens.append_of_ne_nil hslash gap') (fun _ _ => .inl hmore) h
    exact ⟨_, hread, .withPath url ref' _⟩
  · have hread (ref : Reference) {gap : List Char} (hgap : ∀ c ∈ gap, IsGap c) :
        readAuthority scheme ref (front ++ gap) =
          (readFront scheme (cutUser (isSpecial scheme) front).1
            (cutUser (isSpecial scheme) front).2).map fun (url, rest) =>
              url.withPath ref (rootedPath (isSpecial scheme) (rest ++ gap)) := by
      have hnamed : (cutUser (isSpecial scheme) front).2 ++ gap ≠ [] := by
        refine List.append_ne_nil_of_left_ne_nil (fun hnil => ?_) gap
        rw [behindHost, hnil] at hport
        cases hport
      rw [readAuthority_unslashed (hfront.append (unslashed_gap hgap _)), cutUser_gap hfront hgap,
        if_neg (fun hcut => hnamed (Prod.mk.inj hcut.1).2),
        readFront_append_of_mem (cutUser_unslashed hfront) hport]
      cases readFront scheme (cutUser (isSpecial scheme) front).1
        (cutUser (isSpecial scheme) front).2 <;> rfl
    rw [List.append_nil, hread ref hgap] at h
    rw [List.append_nil, hread ref' hgap']
    cases hfound : readFront scheme (cutUser (isSpecial scheme) front).1
      (cutUser (isSpecial scheme) front).2 with
    | error fault =>
        rw [hfound] at h
        cases h
    | ok read =>
        rw [hfound] at h
        obtain rfl := Except.ok.inj h
        exact ⟨_, rfl, rfl, rfl, rfl⟩

theorem cutSlashes_unslashed (h : Unslashed special text) : cutSlashes special text = [text] := by
  induction text with
  | nil => rfl
  | cons c text ih =>
      obtain ⟨hc, hrest⟩ := List.forall_mem_cons.mp h
      rw [cutSlashes, hc, ih hrest]
      rfl

/-- The gap is a part of the last piece. -/
theorem exists_cutSlashes_gap (hgap : ∀ c ∈ gap, IsGap c) (special : Bool) (text : List Char) :
    ∃ front last, cutSlashes special text = front ++ [last] ∧
      cutSlashes special (text ++ gap) = front ++ [last ++ gap] := by
  induction text with
  | nil => exact ⟨[], [], rfl, cutSlashes_unslashed (unslashed_gap hgap special)⟩
  | cons c text ih =>
      obtain ⟨front, last, htext, hmore⟩ := ih
      rw [List.cons_append, cutSlashes, cutSlashes, htext, hmore]
      split
      · exact ⟨[] :: front, last, rfl, rfl⟩
      · cases front with
        | nil => exact ⟨[], c :: last, rfl, rfl⟩
        | cons piece front => exact ⟨(c :: piece) :: front, last, rfl, rfl⟩

/-- A piece with a gap at its end is a name: no place and no drive. -/
structure Named (piece : List Char) : Prop where
  not_up : isUp piece = false
  not_here : isHere piece = false
  not_drive : isDrive true piece = false
  unlettered : isDrive false (Percent.encode Percent.inPath piece) = false

theorem isDrive_of_length {loose : Bool} (h : 2 < text.length) : isDrive loose text = false := by
  unfold isDrive
  split
  · exact absurd h (Nat.lt_irrefl 2)
  · rfl

theorem named_of_gap {c : Char} (h : IsGap c) (hlast : text.getLast? = some c) : Named text := by
  have hlower : (text.map Char.toLower).getLast? = some c := by
    rw [List.getLast?_map, hlast, Option.map_some, h.toLower_eq]
  have hnone {texts : List (List Char)}
      (hvisible : texts.all fun other => other.getLast?.all (0x20 < ·.toNat)) :
      texts.contains (text.map Char.toLower) = false := by
    rw [Bool.eq_false_iff, ne_eq, List.contains_iff_mem]
    intro hmem
    have hend := List.all_eq_true.mp hvisible _ hmem
    rw [hlower, Option.all_some, decide_eq_true_eq] at hend
    exact h.ne_of_visible hend rfl
  constructor
  · exact hnone (by decide)
  · exact hnone (by decide)
  · unfold isDrive
    split
    case h_1 a b =>
      obtain rfl : b = c := Option.some.inj hlast
      rw [beq_eq_false_iff_ne.mpr (h.ne_of_visible (by decide)),
        beq_eq_false_iff_ne.mpr (h.ne_of_visible (by decide)), Bool.and_false, Bool.or_false,
        Bool.and_false]
    case h_2 => rfl
  · have hescaped : Percent.inPath c = true := h.all (by decide)
    obtain ⟨front, hfront⟩ := List.getLast?_eq_some_iff.mp hlast
    have hchar :
        Percent.encodeChar Percent.inPath c = Percent.encodeByte (UInt8.ofNat c.toNat) := by
      rw [Percent.encodeChar, hescaped, Bool.not_true, Bool.and_false, encodeChar_gap h]
      exact List.append_nil _
    apply isDrive_of_length
    rw [hfront, Percent.encode, List.flatMap_append, List.flatMap_singleton, hchar,
      List.length_append, Percent.encodeByte]
    exact Nat.lt_add_left _ (by decide : 2 < 3)

theorem Named.enter_eq (h : Named text) (path : List String) :
    enter true path text = path ++ [String.ofList (Percent.encode Percent.inPath text)] := by
  rw [enter, h.not_up, h.not_here]
  unfold segmentOf
  rw [h.not_drive, Bool.and_false]
  rfl

/-- The path is a drive and nothing else. -/
def IsDriveAlone (path : List String) : Prop :=
  path.length = 1 ∧ startsAtDrive path = true

instance (path : List String) : Decidable (IsDriveAlone path) :=
  inferInstanceAs (Decidable (_ ∧ _))

/-- A further piece does not change what a path starts with, once it has begun. -/
theorem startsAtDrive_enter (first : String) (path : List String) (piece : List Char) :
    startsAtDrive (enter true (first :: path) piece) = startsAtDrive (first :: path) := by
  rw [enter]
  split
  · rw [shorten]
    split
    · rfl
    · rename_i hdrive
      cases path with
      | cons second path => rfl
      | nil =>
          have hfirst : isDrive false first.toList = false := by simpa using hdrive
          rw [startsAtDrive, startsAtDrive, List.head?_cons, Option.any_some, hfirst]
          rfl
  · split
    · rfl
    · rfl

theorem startsAtDrive_walk_eq (pieces : List (List Char)) :
    startsAtDrive (walk true [] pieces) = startsAtDrive (pieces.foldl (enter true) []) := by
  have hfold := startsAtDrive_walk .none pieces
  rwa [List.append_nil] at hfold

theorem Named.startsAtDrive_eq (h : Named text) : startsAtDrive (enter true [] text) = false := by
  rw [h.enter_eq, List.nil_append, startsAtDrive, List.head?_cons, Option.any_some,
    String.toList_ofList]
  exact h.unlettered

/-- A gap makes a difference only to a drive that is the whole path. -/
theorem startsAtDrive_gap (hgap : ∀ c ∈ gap, IsGap c)
    (halone : ¬IsDriveAlone (walk true [] (cutSlashes true text))) :
    startsAtDrive (walk true [] (cutSlashes true (text ++ gap))) =
      startsAtDrive (walk true [] (cutSlashes true text)) := by
  by_cases hnonempty : gap = []
  · rw [hnonempty, List.append_nil]
  obtain ⟨front, last, htext, hmore⟩ := exists_cutSlashes_gap hgap true text
  obtain ⟨c, hc, hlast⟩ := getLast?_gap hgap hnonempty last
  rw [hmore, startsAtDrive_walk_eq, List.foldl_append]
  cases hpath : front.foldl (enter true) [] with
  | cons first path =>
      rw [htext, startsAtDrive_walk_eq, List.foldl_append, hpath, List.foldl_cons, List.foldl_nil,
        startsAtDrive_enter, List.foldl_cons, List.foldl_nil, startsAtDrive_enter]
  | nil =>
      rw [htext, walk_append true [] front (List.cons_ne_nil last []), hpath] at halone ⊢
      have hlength : (walk true [] [last]).length = 1 := by
        rw [walk]
        split
        · rfl
        · split
          · rfl
          · rfl
      have hnone : startsAtDrive (walk true [] [last]) = false :=
        Bool.eq_false_iff.mpr fun hdrive => halone ⟨hlength, hdrive⟩
      rw [hnone]
      exact (named_of_gap hc hlast).startsAtDrive_eq

theorem not_isDriveAlone_cons (first : String) (path : List String) (last : List Char) :
    ¬IsDriveAlone (walk true (first :: path) [last]) := by
  rintro ⟨hlength, hdrive⟩
  rw [walk] at hlength hdrive
  split at hlength
  case isTrue hup =>
    rw [List.length_append, List.length_singleton, Nat.add_eq_right, List.length_eq_zero_iff]
      at hlength
    rw [if_pos hup, hlength] at hdrive
    cases hdrive
  case isFalse =>
    split at hlength
    · simp at hlength
    · simp at hlength

/-- With a gap behind it no drive is the whole path. -/
theorem startsAtDrive_gap_of_alone (hgap : ∀ c ∈ gap, IsGap c) (hnonempty : gap ≠ [])
    (halone : IsDriveAlone (walk true [] (cutSlashes true text))) :
    startsAtDrive (walk true [] (cutSlashes true (text ++ gap))) = false := by
  obtain ⟨front, last, htext, hmore⟩ := exists_cutSlashes_gap hgap true text
  obtain ⟨c, hc, hlast⟩ := getLast?_gap hgap hnonempty last
  rw [hmore, startsAtDrive_walk_eq, List.foldl_append]
  cases hpath : front.foldl (enter true) [] with
  | cons first path =>
      rw [htext, walk_append true [] front (List.cons_ne_nil last []), hpath] at halone
      exact absurd halone (not_isDriveAlone_cons first path last)
  | nil => exact (named_of_gap hc hlast).startsAtDrive_eq

/-- A drive is the whole path of a file on a host: together with the drive the
host does not count. -/
def DriveOnHost (text : List Char) : Prop :=
  let host := text.takeWhile (!isSlash true ·)
  isDrive true host = false ∧ readFileHost host ≠ .ok (.named "") ∧
    IsDriveAlone (walk true []
      (cutSlashes true (dropSlash true (text.dropWhile (!isSlash true ·)))))

instance (text : List Char) : Decidable (DriveOnHost text) :=
  inferInstanceAs (Decidable (_ ∧ _))

theorem driveOnHost_append_iff (hfront : Unslashed true front) (hpath : Opens true path) :
    DriveOnHost (front ++ path) ↔
      isDrive true front = false ∧ readFileHost front ≠ .ok (.named "") ∧
        IsDriveAlone (walk true [] (cutSlashes true (dropSlash true path))) := by
  rw [DriveOnHost, takeWhile_append_of_head hpath.head_slash, takeWhile_unslashed hfront,
    dropWhile_append_of_head hpath.head_slash, dropWhile_unslashed hfront, List.nil_append]

theorem exists_readFileAuthority_gap (hgap : ∀ c ∈ gap, IsGap c) (hgap' : ∀ c ∈ gap', IsGap c)
    (hbegun : Slashed (behindHost true rest))
    (h : readFileAuthority ref (rest ++ gap) = .ok url) :
    ∃ other, readFileAuthority ref' (rest ++ gap') = .ok other ∧
      (¬DriveOnHost rest → SameOrigin other url) := by
  obtain ⟨front, path, rfl, hfront, hopens, hpath⟩ := exists_begun hbegun
  have hslash : path ≠ [] := hpath.resolve_right fun hport => Bool.noConfusion hport.2.1
  have hread (ref : Reference) (gap : List Char) :=
    readFileAuthority_append hfront (hopens.append_of_ne_nil hslash gap) ref
  rw [List.append_assoc, hread ref gap] at h
  rw [List.append_assoc, hread ref' gap']
  split at h
  case isTrue hdrive =>
    obtain rfl := Except.ok.inj h
    exact ⟨_, if_pos hdrive, fun _ => sameOrigin_filePage (.inl rfl)⟩
  case isFalse hdrive =>
    rw [if_neg hdrive]
    cases hhost : readFileHost front with
    | error fault =>
        rw [hhost] at h
        cases h
    | ok host =>
        rw [hhost] at h
        obtain rfl := Except.ok.inj h
        refine ⟨_, rfl, fun hnone => sameOrigin_filePage ?_⟩
        rw [driveOnHost_append_iff hfront hopens] at hnone
        by_cases hempty : host = .named ""
        · exact .inl hempty
        · have halone : ¬IsDriveAlone (walk true [] (cutSlashes true (dropSlash true path))) :=
            fun halone => hnone ⟨Bool.eq_false_iff.mpr hdrive,
              fun hsame => hempty (Except.ok.inj (hhost.symm.trans hsame)), halone⟩
          right
          rw [dropSlash_append true hslash, dropSlash_append true hslash,
            startsAtDrive_gap hgap halone, startsAtDrive_gap hgap' halone]

/-- The name of a host does not count any more once a gap is cut off. -/
def HidesHost (scheme : String) (text : List Char) : Prop :=
  scheme = "file" ∧ ∃ rest ∈ authorityOf? scheme text, DriveOnHost rest

instance (scheme : String) (text : List Char) : Decidable (HidesHost scheme text) :=
  inferInstanceAs (Decidable (_ ∧ _))

/-- Once a path has begun, a gap can come and go. -/
theorem exists_readSchemed_gap (hgap : ∀ c ∈ gap, IsGap c) (hgap' : ∀ c ∈ gap', IsGap c)
    (hbegun : PathBegun scheme text) (h : readSchemed none scheme ref (text ++ gap) = .ok url) :
    ∃ other, readSchemed none scheme ref' (text ++ gap') = .ok other ∧
      (¬HidesHost scheme text → SameOrigin other url) := by
  cases hrest : authorityOf? scheme text with
  | none =>
      have hnone {gap : List Char} (hgap : ∀ c ∈ gap, IsGap c) :
          authorityOf? scheme (text ++ gap) = none := by
        rw [authorityOf?_gap hgap, hrest]
        rfl
      obtain ⟨same, hsame, horigin⟩ := exists_readSchemed_plain (hnone hgap) ref
      obtain rfl := Except.ok.inj (hsame.symm.trans h)
      obtain ⟨other, hother, horigin'⟩ := exists_readSchemed_plain (hnone hgap') ref'
      exact ⟨other, hother, fun _ => horigin'.trans horigin.symm⟩
  | some rest =>
      have hsome {gap : List Char} (hgap : ∀ c ∈ gap, IsGap c) :
          authorityOf? scheme (text ++ gap) = some (rest ++ gap) := by
        rw [authorityOf?_gap hgap, hrest]
        rfl
      rw [readSchemed_authority (hsome hgap)] at h
      rw [readSchemed_authority (hsome hgap')]
      by_cases hfile : scheme = "file"
      · rw [if_pos hfile] at h ⊢
        have hslash := hbegun rest hrest
        rw [hfile] at hslash
        obtain ⟨other, hother, horigin⟩ := exists_readFileAuthority_gap hgap hgap' hslash h
        exact ⟨other, hother, fun hshown => horigin fun hdrive =>
          hshown ⟨hfile, rest, hrest, hdrive⟩⟩
      · rw [if_neg hfile] at h ⊢
        obtain ⟨other, hother, horigin⟩ :=
          exists_readAuthority_gap hgap hgap' (hbegun rest hrest) h
        exact ⟨other, hother, fun _ => horigin⟩

end BillingAccess.Url
