/-
Links behind the texts of URLs.

The slashes at the end of a text can be left out, and a link can be put there
in their place.  A gap at the end is dropped by itself but not in front of a
slash, which makes no difference once a path has begun.  What stands behind a
mark is no path; texts with one, and those that a link would give the name of a
host, are left aside.
-/
import BillingAccess.Proofs.Text.Trimmed
import BillingAccess.Proofs.Url.Hollow

namespace BillingAccess.Url

variable {scheme : String} {text rest tail : List Char} {url : Url}

/-- No blank and no control character of ASCII. -/
def IsVisible (c : Char) : Prop :=
  0x20 < c.toNat

instance (c : Char) : Decidable (IsVisible c) :=
  inferInstanceAs (Decidable (_ < _))

/-- The text without blanks in front, tabs and line ends. -/
def cleanStart (text : List Char) : List Char :=
  (text.dropWhile fun c => c.toNat ≤ 0x20).filter fun c => !(c == '\t' || c == '\n' || c == '\r')

theorem IsVisible.not_blank {c : Char} (h : IsVisible c) : decide (c.toNat ≤ 0x20) = false :=
  decide_eq_false (Nat.not_le.mpr h)

theorem filter_visible (h : ∀ c ∈ tail, IsVisible c) :
    tail.filter (fun c => !(c == '\t' || c == '\n' || c == '\r')) = tail := by
  refine List.filter_eq_self.mpr fun c hc => ?_
  have hvisible := h c hc
  rw [Bool.not_eq_true', Bool.or_eq_false_iff, Bool.or_eq_false_iff, beq_eq_false_iff_ne,
    beq_eq_false_iff_ne, beq_eq_false_iff_ne]
  refine ⟨⟨?_, ?_⟩, ?_⟩
  all_goals
    rintro rfl
    exact absurd hvisible (by decide)

/-- No blank is dropped in front of what is visible. -/
theorem cleaned_append (text : List Char) (htail : ∀ c ∈ tail, IsVisible c)
    (hnonempty : tail ≠ []) : cleaned (text ++ tail) = cleanStart text ++ tail := by
  have hhead : ∀ c ∈ tail.head?, decide (c.toNat ≤ 0x20) = false :=
    fun c hc => (htail c (List.mem_of_mem_head? hc)).not_blank
  have hlast (front : List Char) :
      ∀ c ∈ (front ++ tail).reverse.head?, decide (c.toNat ≤ 0x20) = false := by
    intro c hc
    rw [List.head?_reverse, List.getLast?_append_of_ne_nil _ hnonempty] at hc
    exact (htail c (List.mem_of_getLast? hc)).not_blank
  have hend (front : List Char) :
      (front ++ tail).reverse.dropWhile (fun c => c.toNat ≤ 0x20) = (front ++ tail).reverse := by
    rw [← List.nil_append (front ++ tail).reverse, dropWhile_append_of_head (hlast front)]
    rfl
  rw [cleaned, Text.trimBy, dropWhile_append_of_head hhead, hend, List.reverse_reverse,
    List.filter_append, filter_visible htail]
  rfl

/-- What is dropped at the end, tabs and line ends apart. -/
theorem exists_gap (text : List Char) :
    ∃ gap, (∀ c ∈ gap, IsGap c) ∧ cleanStart text = cleaned text ++ gap := by
  rw [cleanStart, cleaned, Text.trimBy]
  generalize text.dropWhile _ = start
  generalize (fun c : Char => !(c == '\t' || c == '\n' || c == '\r')) = keep
  refine ⟨(start.reverse.takeWhile fun c => c.toNat ≤ 0x20).reverse.filter keep, ?_, ?_⟩
  · intro c hc
    have hmem := List.mem_reverse.mp (List.mem_of_mem_filter hc)
    simpa [IsGap] using List.mem_takeWhile_imp hmem
  · rw [← List.filter_append, ← List.reverse_append, List.takeWhile_append_dropWhile,
      List.reverse_reverse]

/-- The text ends in no gap, tabs and line ends apart, which are dropped everywhere. -/
def Kept (text : List Char) : Prop :=
  cleaned text = cleanStart text

instance (text : List Char) : Decidable (Kept text) :=
  inferInstanceAs (Decidable (_ = _))

theorem ofText_eq (text : List Char) :
    Reference.ofText text =
      ⟨(cutAt '?' (cutAt '#' (cleaned text)).1).1, (cutAt '?' (cutAt '#' (cleaned text)).1).2,
        (cutAt '#' (cleaned text)).2⟩ :=
  rfl

/-- There is neither a query nor a fragment. -/
def Unmarked (text : List Char) : Prop :=
  '?' ∉ text ∧ '#' ∉ text

instance (text : List Char) : Decidable (Unmarked text) :=
  inferInstanceAs (Decidable (_ ∧ _))

theorem not_followed (body : List Char) : ¬Followed ⟨body, none, none⟩ [] := by
  rintro (hnil | hquery | hfragment)
  · exact hnil rfl
  · cases hquery
  · cases hfragment

theorem Unmarked.append (h : Unmarked text) (htail : Unmarked tail) : Unmarked (text ++ tail) :=
  ⟨fun hmem => (List.mem_append.mp hmem).elim h.1 htail.1,
    fun hmem => (List.mem_append.mp hmem).elim h.2 htail.2⟩

theorem Unmarked.ofText_eq (h : Unmarked text) :
    Reference.ofText text = ⟨cleaned text, none, none⟩ := by
  obtain ⟨hquestion, hnumber⟩ := h
  rw [← mem_cleaned_iff (.inl rfl)] at hquestion
  rw [← mem_cleaned_iff (.inr rfl)] at hnumber
  rw [Url.ofText_eq, cutAt_of_not_mem hnumber, cutAt_of_not_mem hquestion]

theorem cutAt_append_cons {mark : Char} {front : List Char} (h : mark ∉ front)
    (rest : List Char) : cutAt mark (front ++ mark :: rest) = (front, some rest) := by
  have hkept : ∀ c ∈ front, (c != mark) = true := fun c hc =>
    bne_iff_ne.mpr fun hsame => h (hsame ▸ hc)
  have hstop : ∀ c ∈ (mark :: rest).head?, (c != mark) = false := by
    rintro c ⟨⟩
    exact bne_self_eq_false' _
  rw [cutAt, dropWhile_append_of_head hstop, takeWhile_append_of_head hstop,
    List.dropWhile_eq_nil_iff.mpr hkept, List.takeWhile_eq_self_iff.mpr hkept]
  rfl

/-- What stands behind a mark does not count for what stands before it. -/
theorem cutAt_append {mark : Char} (h : mark ∈ text) (tail : List Char) :
    (cutAt mark (text ++ tail)).1 = (cutAt mark text).1 ∧
      (cutAt mark (text ++ tail)).2.isSome = (cutAt mark text).2.isSome := by
  obtain ⟨front, rest, rfl, hfront⟩ := List.eq_append_cons_of_mem h
  rw [List.append_assoc, List.cons_append, cutAt_append_cons hfront, cutAt_append_cons hfront]
  exact ⟨rfl, rfl⟩

/-- What is put behind a mark neither changes what is read before it nor
whether there is an ending. -/
theorem ofText_append_marked {longer : List Char} (hlonger : cleaned longer = cleaned text ++ tail)
    (hnumber : '#' ∉ tail) (h : ¬Unmarked text) :
    (Reference.ofText longer).body = (Reference.ofText text).body ∧
      (Followed (.ofText longer) [] ↔ Followed (.ofText text) []) := by
  rw [Followed, Followed, ofText_eq, ofText_eq, hlonger]
  rw [Unmarked, ← mem_cleaned_iff (.inl rfl), ← mem_cleaned_iff (.inr rfl)] at h
  by_cases hmem : '#' ∈ cleaned text
  · obtain ⟨hfront, hsome⟩ := cutAt_append hmem tail
    rw [hfront, hsome]
    exact ⟨rfl, Iff.rfl⟩
  · have hquestion : '?' ∈ cleaned text := by tauto
    have hall : '#' ∉ cleaned text ++ tail := fun hc =>
      (List.mem_append.mp hc).elim hmem hnumber
    obtain ⟨hfront, hsome⟩ := cutAt_append hquestion tail
    rw [cutAt_of_not_mem hmem, cutAt_of_not_mem hall]
    dsimp only
    rw [hfront, hsome]
    exact ⟨rfl, Iff.rfl⟩

/-- A slash or a gap ends a scheme. -/
theorem splitScheme?_append (htail : ∀ c ∈ tail.head?, c = '/' ∨ IsGap c) :
    splitScheme? (text ++ tail) =
      (splitScheme? text).map fun (scheme, rest) => (scheme, rest ++ tail) := by
  have hbreaks : ∀ c ∈ tail.head?,
      (c.isAlphanum || c == '+' || c == '-' || c == '.' || c == ':') = false := by
    intro c hc
    rcases htail c hc with rfl | hgap
    · rfl
    · simpa using hgap.all (p := fun c =>
        !(c.isAlphanum || c == '+' || c == '-' || c == '.' || c == ':')) (by decide)
  have hstop : ∀ c ∈ tail.head?,
      (c.isAlphanum || c == '+' || c == '-' || c == '.') = false := fun c hc =>
    (Bool.or_eq_false_iff.mp (hbreaks c hc)).1
  cases text with
  | nil =>
      cases tail with
      | nil => rfl
      | cons c tail =>
          have halpha : c.isAlpha = false := by
            have hc := hstop c rfl
            simp only [Bool.or_eq_false_iff, Char.isAlphanum] at hc
            exact hc.1.1.1.1
          have hnone : splitScheme? (c :: tail) = none := by
            rw [splitScheme?, halpha]
            rfl
          rw [List.nil_append, hnone]
          rfl
  | cons c rest =>
      rw [List.cons_append, splitScheme?, splitScheme?]
      split
      · dsimp only
        rw [dropWhile_append_of_head hstop, takeWhile_append_of_head hstop]
        cases rest.dropWhile _ with
        | nil =>
            cases tail with
            | nil => rfl
            | cons d tail =>
                have hd : d ≠ ':' := beq_eq_false_iff_ne.mp
                  (Bool.or_eq_false_iff.mp (hbreaks d rfl)).2
                simp [hd]
        | cons d after =>
            by_cases hd : d = ':'
            · rw [hd]
              rfl
            · simp [hd]
      · rfl

theorem parse_ofList (text : List Char) :
    parse (String.ofList text) =
      match splitScheme? (Reference.ofText text).body with
      | some (scheme, rest) => readSchemed none scheme (.ofText text) rest
      | none => .error .noBase := by
  rw [parse, readFrom, String.toList_ofList]
  rfl

/-- A text without marks is read behind its scheme. -/
theorem Unmarked.parse_eq (h : Unmarked text) {front : List Char}
    (hcleaned : cleaned text = front ++ tail) (htail : ∀ c ∈ tail.head?, c = '/' ∨ IsGap c) :
    parse (String.ofList text) =
      match splitScheme? front with
      | some (scheme, rest) => readSchemed none scheme ⟨front ++ tail, none, none⟩ (rest ++ tail)
      | none => .error .noBase := by
  rw [parse_ofList, h.ofText_eq, hcleaned, splitScheme?_append htail]
  cases splitScheme? front <;> rfl

theorem Unmarked.parse_of_split (h : Unmarked text)
    (hsplit : splitScheme? (cleaned text) = some (scheme, rest)) :
    parse (String.ofList text) = readSchemed none scheme ⟨cleaned text, none, none⟩ rest := by
  rw [parse_ofList, h.ofText_eq, hsplit]

theorem Unmarked.exists_split (h : Unmarked text) (hread : parse (String.ofList text) = .ok url) :
    ∃ scheme rest, splitScheme? (cleaned text) = some (scheme, rest) ∧
      readSchemed none scheme ⟨cleaned text, none, none⟩ rest = .ok url := by
  cases hsplit : splitScheme? (cleaned text) with
  | none =>
      rw [parse_ofList, h.ofText_eq, hsplit] at hread
      cases hread
  | some split =>
      rw [h.parse_of_split hsplit] at hread
      exact ⟨split.1, split.2, rfl, hread⟩

/-- The text without slashes at its end. -/
def trimmed (text : String) : List Char :=
  Text.trimEndBy (· == '/') text.toList

theorem exists_trimmed (text : String) :
    ∃ n, text.toList = trimmed text ++ List.replicate n '/' :=
  Text.exists_trimEndBy '/' text.toList

theorem mem_replicate_slash {n : Nat} {c : Char} (h : c ∈ List.replicate n '/') :
    IsVisible c ∧ c ≠ '?' ∧ c ≠ '#' := by
  rw [List.eq_of_mem_replicate h]
  decide

theorem head?_replicate_slash (n : Nat) : ∀ c ∈ (List.replicate n '/').head?, c = '/' :=
  fun _ hc => List.eq_of_mem_replicate (List.mem_of_mem_head? hc)

theorem unmarked_trimmed_iff (text : String) :
    Unmarked (trimmed text) ↔ Unmarked text.toList := by
  obtain ⟨n, htext⟩ := exists_trimmed text
  rw [htext]
  constructor
  · intro h
    exact h.append ⟨fun hc => (mem_replicate_slash hc).2.1 rfl,
      fun hc => (mem_replicate_slash hc).2.2 rfl⟩
  · intro h
    exact ⟨fun hc => h.1 (List.mem_append_left _ hc), fun hc => h.2 (List.mem_append_left _ hc)⟩

/-- A gap at the end of the text is no part of an authority: there is none, or
it stands behind a mark, or a path has begun in front of it. -/
def GapApart (text : List Char) : Prop :=
  Kept text ∨ ¬Unmarked text ∨
    ∀ split ∈ splitScheme? (cleaned text),
      PathBegun split.1 split.2 ∧ ¬HidesHost split.1 split.2

instance (text : List Char) : Decidable (GapApart text) :=
  inferInstanceAs (Decidable (_ ∨ _ ∨ ∀ split ∈ splitScheme? (cleaned text), _))

/-- Without the slashes at its end the text names a user and no host: all that
there was of the name is a gap in front of them. -/
structure LosesHost (text : String) : Prop where
  slashed : trimmed text ≠ text.toList
  gapped : ¬Kept (trimmed text)
  unmarked : Unmarked (trimmed text)
  hollow : ∃ split ∈ splitScheme? (cleaned (trimmed text)), Hollow split.1 split.2

instance (text : String) : Decidable (LosesHost text) :=
  decidable_of_iff
    (trimmed text ≠ text.toList ∧ ¬Kept (trimmed text) ∧ Unmarked (trimmed text) ∧
      ∃ split ∈ splitScheme? (cleaned (trimmed text)), Hollow split.1 split.2)
    ⟨fun ⟨slashed, gapped, unmarked, hollow⟩ => ⟨slashed, gapped, unmarked, hollow⟩,
      fun ⟨slashed, gapped, unmarked, hollow⟩ => ⟨slashed, gapped, unmarked, hollow⟩⟩

/-- A gap in front of slashes at the end is kept with them. -/
theorem exists_cleaned {text : String} {gap : List Char} (h : trimmed text ≠ text.toList)
    (hstart : cleanStart (trimmed text) = cleaned (trimmed text) ++ gap) :
    ∃ n, cleaned text.toList = cleaned (trimmed text) ++ (gap ++ List.replicate n '/') := by
  obtain ⟨n, htext⟩ := exists_trimmed text
  refine ⟨n, ?_⟩
  cases n with
  | zero =>
      rw [List.replicate_zero, List.append_nil] at htext
      exact absurd htext.symm h
  | succ n =>
      have hvisible : ∀ c ∈ List.replicate (n + 1) '/', IsVisible c :=
        fun c hc => (mem_replicate_slash hc).1
      rw [htext, cleaned_append (trimmed text) hvisible (List.cons_ne_nil _ _), hstart,
        List.append_assoc]

theorem kept_iff {gap : List Char} (h : cleanStart text = cleaned text ++ gap) :
    Kept text ↔ gap = [] := by
  rw [Kept, h, List.self_eq_append_right]

theorem head?_gap_append {gap : List Char} (hgap : ∀ c ∈ gap, IsGap c)
    (htail : ∀ c ∈ tail.head?, c = '/') : ∀ c ∈ (gap ++ tail).head?, c = '/' ∨ IsGap c := by
  cases gap with
  | nil => exact fun c hc => .inl (htail c hc)
  | cons d gap =>
      rintro c ⟨⟩
      exact .inr (hgap d List.mem_cons_self)

/-- Slashes at the end are read behind the gap. -/
theorem exists_split_slashed {text : String} {gap : List Char} (hunmarked : Unmarked text.toList)
    (hslashed : trimmed text ≠ text.toList) (hgap : ∀ c ∈ gap, IsGap c)
    (hstart : cleanStart (trimmed text) = cleaned (trimmed text) ++ gap) (h : parse text = .ok url) :
    ∃ scheme rest ref n, splitScheme? (cleaned (trimmed text)) = some (scheme, rest) ∧
      readSchemed none scheme ref (rest ++ gap ++ List.replicate n '/') = .ok url := by
  obtain ⟨n, hcleaned⟩ := exists_cleaned hslashed hstart
  have hhead := head?_gap_append hgap (head?_replicate_slash n)
  rw [← String.ofList_toList (s := text), hunmarked.parse_eq hcleaned hhead] at h
  cases hsplit : splitScheme? (cleaned (trimmed text)) with
  | none =>
      rw [hsplit] at h
      cases h
  | some split =>
      rw [hsplit] at h
      dsimp only at h
      rw [← List.append_assoc split.2] at h
      exact ⟨split.1, split.2, _, n, rfl, h⟩

/-- Behind a mark the end of a text is no part of a path. -/
theorem exists_parse_marked {text : String} (hslashed : trimmed text ≠ text.toList)
    (hmarks : ¬Unmarked (trimmed text)) (h : parse text = .ok url) :
    ∃ other, parse (String.ofList (trimmed text)) = .ok other ∧ SameOrigin other url := by
  obtain ⟨gap, hgap, hstart⟩ := exists_gap (trimmed text)
  obtain ⟨n, hcleaned⟩ := exists_cleaned hslashed hstart
  have hnumber : '#' ∉ gap ++ List.replicate n '/' := by
    rw [List.mem_append, not_or]
    exact ⟨fun hmem => absurd (hgap '#' hmem) (by decide),
      fun hmem => (mem_replicate_slash hmem).2.2 rfl⟩
  obtain ⟨hbody, hfollowed⟩ := ofText_append_marked hcleaned hnumber hmarks
  rw [← String.ofList_toList (s := text), parse_ofList, hbody] at h
  rw [parse_ofList]
  cases hsplit : splitScheme? (Reference.ofText (trimmed text)).body with
  | none =>
      rw [hsplit] at h
      cases h
  | some split =>
      rw [hsplit] at h
      obtain ⟨other, hother, hcontinues⟩ := continuesTo_ending hfollowed.symm h
      exact ⟨other, hother, hcontinues.origin⟩

/-- A URL is still one without the slashes at its end, unless it loses its host.
It leads to the same peer if no gap in front of them belongs to the authority. -/
theorem exists_parse_trimmed {text : String} (hfull : ¬LosesHost text) (h : parse text = .ok url) :
    ∃ other, parse (String.ofList (trimmed text)) = .ok other ∧ Resembles other url ∧
      (trimmed text = text.toList ∨ GapApart (trimmed text) → SameOrigin other url) := by
  by_cases hslashed : trimmed text = text.toList
  · rw [hslashed, String.ofList_toList]
    have horigin : SameOrigin url url := ⟨rfl, rfl, rfl⟩
    exact ⟨url, h, horigin.resembles (hasParts_parse h), fun _ => horigin⟩
  by_cases hmarks : Unmarked (trimmed text)
  case neg =>
    obtain ⟨other, hother, horigin⟩ := exists_parse_marked hslashed hmarks h
    exact ⟨other, hother, horigin.resembles (hasParts_parse hother), fun _ => horigin⟩
  case pos =>
    obtain ⟨gap, hgap, hstart⟩ := exists_gap (trimmed text)
    obtain ⟨scheme, rest, ref, n, hsplit, hread⟩ :=
      exists_split_slashed ((unmarked_trimmed_iff text).mp hmarks) hslashed hgap hstart h
    have hhost : gap ≠ [] → ¬Hollow scheme rest := fun hgapped hhollow =>
      hfull ⟨hslashed, fun hkept => hgapped ((kept_iff hstart).mp hkept), hmarks, _, hsplit,
        hhollow⟩
    obtain ⟨other, hother, hresembles, horigin⟩ :=
      exists_readSchemed_trimmed hgap (not_followed (cleaned (trimmed text))) hhost hread
    refine ⟨other, (hmarks.parse_of_split hsplit).trans hother, hresembles, fun hapart => ?_⟩
    apply horigin
    rcases hapart.resolve_left hslashed with hkept | hmarked | hbegun
    · exact .inl ((kept_iff hstart).mp hkept)
    · exact absurd hmarks hmarked
    · exact .inr (hbegun _ hsplit)

/-- Without the slashes at its end a URL that loses its host is none. -/
theorem LosesHost.parse_trimmed {text : String} (hloses : LosesHost text)
    (h : parse text = .ok url) :
    parse (String.ofList (trimmed text)) = .error .emptyHost := by
  obtain ⟨gap, hgap, hstart⟩ := exists_gap (trimmed text)
  obtain ⟨scheme, rest, ref, n, hsplit, hread⟩ := exists_split_slashed
    ((unmarked_trimmed_iff text).mp hloses.unmarked) hloses.slashed hgap hstart h
  obtain ⟨split, hsame, hhollow⟩ := hloses.hollow
  obtain rfl := Option.some.inj (hsplit.symm.trans hsame)
  have hended := not_followed (cleaned (trimmed text))
  obtain ⟨whole, hwhole, -⟩ := continuesTo_of_slashes hended hread
  rw [hloses.unmarked.parse_of_split hsplit]
  exact readSchemed_hollow hgap (fun hnil => hloses.gapped ((kept_iff hstart).mpr hnil)) hhollow
    hwhole

/-- A text whose end is read in the same way when a link is put there in place
of the slashes: it does not end in what the link would finish, and if there are
no slashes, no gap becomes a part of the authority. -/
structure Sturdy (text : String) : Prop where
  finished : ∀ split ∈ splitScheme? (cleanStart (trimmed text)), ¬Unfinished split.1 split.2
  apart : trimmed text = text.toList → GapApart (trimmed text)

instance (text : String) : Decidable (Sturdy text) :=
  decidable_of_iff
    ((∀ split ∈ splitScheme? (cleanStart (trimmed text)), ¬Unfinished split.1 split.2) ∧
      (trimmed text = text.toList → GapApart (trimmed text)))
    ⟨fun ⟨finished, apart⟩ => ⟨finished, apart⟩, fun ⟨finished, apart⟩ => ⟨finished, apart⟩⟩

/-- The slashes at the end are read behind the gap, and without slashes it makes
no difference that there is one. -/
theorem exists_readSchemed_slashes {text : String} {gap : List Char}
    (hunmarked : Unmarked text.toList) (hgap : ∀ c ∈ gap, IsGap c)
    (hstart : cleanStart (trimmed text) = cleaned (trimmed text) ++ gap)
    (hapart : trimmed text = text.toList → GapApart (trimmed text)) (h : parse text = .ok url) :
    ∃ scheme rest ref n whole, splitScheme? (cleaned (trimmed text)) = some (scheme, rest) ∧
      readSchemed none scheme ref (rest ++ gap ++ List.replicate n '/') = .ok whole ∧
      SameOrigin whole url := by
  by_cases hslashed : trimmed text = text.toList
  · rw [← String.ofList_toList (s := text), ← hslashed] at h
    rw [← hslashed] at hunmarked
    obtain ⟨scheme, rest, hsplit, hread⟩ := hunmarked.exists_split h
    obtain ⟨ref, whole, hwhole, horigin⟩ : ∃ ref whole,
        readSchemed none scheme ref (rest ++ gap) = .ok whole ∧ SameOrigin whole url := by
      rcases hapart hslashed with hkept | hmarked | hbegun
      · rw [(kept_iff hstart).mp hkept, List.append_nil]
        exact ⟨_, url, hread, rfl, rfl, rfl⟩
      · exact absurd hunmarked hmarked
      · obtain ⟨hpath, hshown⟩ := hbegun _ hsplit
        rw [← List.append_nil rest] at hread
        obtain ⟨whole, hwhole, horigin⟩ := exists_readSchemed_gap gap_nil hgap hpath hread
        exact ⟨⟨cleaned (trimmed text), none, none⟩, whole, hwhole, horigin hshown⟩
    exact ⟨scheme, rest, ref, 0, whole, hsplit, by rwa [List.replicate_zero, List.append_nil],
      horigin⟩
  · obtain ⟨scheme, rest, ref, n, hsplit, hread⟩ :=
      exists_split_slashed hunmarked hslashed hgap hstart h
    exact ⟨scheme, rest, ref, n, url, hsplit, hread, rfl, rfl, rfl⟩

theorem PagePath.unmarked {link : String} (hlink : PagePath link) : Unmarked link.toList := by
  refine ofText_unmarked_iff.mp ?_
  rw [hlink.reference]
  exact ⟨rfl, rfl⟩

/-- A gap is kept in front of a link. -/
theorem cleaned_append_link {link : String} (hlink : PagePath link) (text : List Char) :
    cleaned (text ++ link.toList) = cleanStart text ++ link.toList :=
  cleaned_append text hlink.visible (hlink.slash ▸ List.cons_ne_nil _ _)

theorem ofList_append_link (text : List Char) (link : String) :
    String.ofList text ++ link = String.ofList (text ++ link.toList) := by
  rw [String.ofList_append, String.ofList_toList]

/-- Behind a text without marks a link is read behind the scheme. -/
theorem Unmarked.parse_link {link : String} (h : Unmarked text) (hlink : PagePath link) :
    parse (String.ofList text ++ link) =
      match splitScheme? (cleanStart text) with
      | some (scheme, rest) =>
          readSchemed none scheme ⟨cleanStart text ++ link.toList, none, none⟩ (rest ++ link.toList)
      | none => .error .noBase := by
  rw [ofList_append_link]
  refine (h.append hlink.unmarked).parse_eq (cleaned_append_link hlink text) ?_
  rw [hlink.slash]
  rintro c ⟨⟩
  exact .inl rfl

/-- The gap stands behind what follows the scheme. -/
theorem splitScheme?_cleanStart {gap : List Char} (hgap : ∀ c ∈ gap, IsGap c)
    (hstart : cleanStart text = cleaned text ++ gap) :
    splitScheme? (cleanStart text) =
      (splitScheme? (cleaned text)).map fun (scheme, rest) => (scheme, rest ++ gap) := by
  rw [hstart, splitScheme?_append fun c hc => .inr (hgap c (List.mem_of_mem_head? hc))]

/-- Behind a URL without marks a link leads to the same peer, to a path that ends in it. -/
theorem exists_parse_link {text : String} (hunmarked : Unmarked text.toList)
    (hsturdy : Sturdy text) (h : parse text = .ok url) {link : String} (hlink : PagePath link) :
    ∃ page, parse (String.ofList (trimmed text) ++ link) = .ok page ∧ SameOrigin page url ∧
      page.path.EndsIn link := by
  obtain ⟨gap, hgap, hstart⟩ := exists_gap (trimmed text)
  obtain ⟨scheme, rest, ref, n, whole, hsplit, hwhole, horigin⟩ :=
    exists_readSchemed_slashes hunmarked hgap hstart hsturdy.apart h
  have hsplitStart := splitScheme?_cleanStart hgap hstart
  rw [hsplit, Option.map_some] at hsplitStart
  have hfinished := hsturdy.finished _ hsplitStart
  obtain ⟨page, hpage, hcontinues⟩ := continuesTo_link hfinished hwhole hlink
  refine ⟨page, ?_, hcontinues.origin.trans horigin, hcontinues.path link hlink rfl⟩
  rw [((unmarked_trimmed_iff text).mpr hunmarked).parse_link hlink, hsplitStart]
  exact hpage

end BillingAccess.Url
