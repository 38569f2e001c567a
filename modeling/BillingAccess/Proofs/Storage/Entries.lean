/-
The entries of a session file: what is put is found again, and entries survive
being written and read.
-/
import BillingAccess.Proofs.Json.Dictionary
import BillingAccess.Proofs.Json.Members
import BillingAccess.Storage.SessionFile

namespace BillingAccess.Entries

variable {entries : Entries} {key other value : String}

theorem get?_put_same (entries : Entries) (key value : String) :
    (entries.put key value).get? key = some value := by
  rw [put, get?]
  induction entries with
  | nil => simp [Json.insertSorted]
  | cons entry rest ih =>
      rw [Json.insertSorted]
      by_cases hsame : key = entry.1
      · rw [if_pos hsame, List.lookup_cons_self]
      · rw [if_neg hsame]
        by_cases hless : key < entry.1
        · rw [if_pos hless, List.lookup_cons_self]
        · rw [if_neg hless, List.lookup_cons, beq_false_of_ne hsame]
          exact ih

theorem get?_put_other (entries : Entries) (value : String) (h : other ≠ key) :
    (entries.put key value).get? other = entries.get? other := by
  rw [put, get?, get?]
  induction entries with
  | nil =>
      rw [Json.insertSorted, List.lookup_cons, beq_false_of_ne h]
  | cons entry rest ih =>
      rw [Json.insertSorted]
      by_cases hsame : key = entry.1
      · rw [if_pos hsame, List.lookup_cons, List.lookup_cons, ← hsame, beq_false_of_ne h]
      · rw [if_neg hsame]
        by_cases hless : key < entry.1
        · rw [if_pos hless, List.lookup_cons, beq_false_of_ne h]
        · rw [if_neg hless, List.lookup_cons, List.lookup_cons, ih]

theorem get?_erase_same (entries : Entries) (key : String) :
    (entries.erase key).get? key = none := by
  rw [erase, get?]
  induction entries with
  | nil => rfl
  | cons entry rest ih =>
      by_cases hsame : entry.1 = key
      · rw [List.filter_cons_of_neg (by simpa using hsame)]
        exact ih
      · rw [List.filter_cons_of_pos (by simpa using hsame), List.lookup_cons,
          beq_false_of_ne (Ne.symm hsame)]
        exact ih

theorem get?_erase_other (entries : Entries) (h : other ≠ key) :
    (entries.erase key).get? other = entries.get? other := by
  rw [erase, get?, get?]
  induction entries with
  | nil => rfl
  | cons entry rest ih =>
      by_cases hsame : entry.1 = key
      · rw [List.filter_cons_of_neg (by simpa using hsame), ih, List.lookup_cons, hsame,
          beq_false_of_ne h]
      · rw [List.filter_cons_of_pos (by simpa using hsame), List.lookup_cons,
          List.lookup_cons, ih]

/-- Only what is there is taken away. -/
theorem erase_of_none (h : entries.get? key = none) : entries.erase key = entries := by
  rw [get?, List.lookup_eq_none_iff] at h
  refine List.filter_eq_self.mpr fun entry hentry => ?_
  have hother := h entry hentry
  rwa [bne_comm] at hother

theorem erase_ne_self (h : entries.get? key = some value) :
    entries.erase key ≠ entries := by
  intro hsame
  have hnone := get?_erase_same entries key
  rw [hsame, h] at hnone
  contradiction

theorem erase_erase (entries : Entries) (key : String) :
    (entries.erase key).erase key = entries.erase key :=
  erase_of_none (get?_erase_same entries key)

theorem erase_comm (entries : Entries) (key other : String) :
    (entries.erase key).erase other = (entries.erase other).erase key := by
  rw [erase, erase, erase, erase, List.filter_filter, List.filter_filter]
  simp only [Bool.and_comm]

theorem erase_sublist (entries : Entries) (key : String) :
    (entries.erase key).Sublist entries :=
  List.filter_sublist

/-- By key, each key once. -/
def Sorted (entries : Entries) : Prop :=
  entries.Pairwise fun entry later => entry.1 < later.1

theorem mem_put {entry : String × String} (h : entry ∈ entries.put key value) :
    entry = (key, value) ∨ entry ∈ entries := by
  rw [put] at h
  induction entries with
  | nil => exact Or.inl (List.mem_singleton.mp h)
  | cons first rest ih =>
      rw [Json.insertSorted] at h
      by_cases hsame : key = first.1
      · rw [if_pos hsame] at h
        rcases List.mem_cons.mp h with hnew | hold
        · exact Or.inl hnew
        · exact Or.inr (List.mem_cons_of_mem first hold)
      · rw [if_neg hsame] at h
        by_cases hless : key < first.1
        · rw [if_pos hless] at h
          exact List.mem_cons.mp h
        · rw [if_neg hless] at h
          rcases List.mem_cons.mp h with hfirst | hlater
          · exact Or.inr (List.mem_cons.mpr (Or.inl hfirst))
          · rcases ih hlater with hnew | hold
            · exact Or.inl hnew
            · exact Or.inr (List.mem_cons_of_mem first hold)

theorem Sorted.put (h : entries.Sorted) (key value : String) : (entries.put key value).Sorted := by
  induction entries with
  | nil => exact List.pairwise_singleton _ _
  | cons first rest ih =>
      obtain ⟨hfirst, hrest⟩ := List.pairwise_cons.mp h
      rw [Entries.put, Json.insertSorted]
      by_cases hsame : key = first.1
      · rw [if_pos hsame, hsame]
        exact List.pairwise_cons.mpr ⟨hfirst, hrest⟩
      · rw [if_neg hsame]
        by_cases hless : key < first.1
        · rw [if_pos hless]
          refine List.pairwise_cons.mpr ⟨?_, h⟩
          intro entry hentry
          rcases List.mem_cons.mp hentry with rfl | hlater
          · exact hless
          · exact String.lt_trans hless (hfirst entry hlater)
        · rw [if_neg hless]
          refine List.pairwise_cons.mpr ⟨?_, ih hrest⟩
          intro entry hentry
          rcases mem_put hentry with rfl | hlater
          · exact String.not_le.mp fun hle => hsame (String.le_antisymm hle hless)
          · exact hfirst entry hlater

theorem Sorted.erase (h : entries.Sorted) (key : String) : (entries.erase key).Sorted :=
  List.Pairwise.filter _ h

theorem sorted_foldl_put (members : List (String × String)) {kept : Entries}
    (h : kept.Sorted) :
    Sorted (members.foldl (fun sorted entry => Entries.put sorted entry.1 entry.2) kept) := by
  induction members generalizing kept with
  | nil => exact h
  | cons entry rest ih => exact ih (h.put entry.1 entry.2)

theorem sorted_sortMembers (members : List (String × String)) :
    Sorted (Json.sortMembers members) :=
  sorted_foldl_put members List.Pairwise.nil

theorem get?_foldl_put (members : List (String × String)) (kept : Entries) (key : String) :
    (members.foldl (fun sorted entry => Entries.put sorted entry.1 entry.2) kept).get? key =
      (members.reverse.lookup key).or (kept.get? key) := by
  induction members generalizing kept with
  | nil => rfl
  | cons entry rest ih =>
      rw [List.foldl_cons, ih, List.reverse_cons, List.lookup_append, Option.or_assoc]
      congr 1
      by_cases hsame : key = entry.1
      · rw [hsame, get?_put_same, List.lookup_cons_self, Option.some_or]
      · rw [get?_put_other _ _ hsame, List.lookup_cons, beq_false_of_ne hsame, List.lookup_nil,
          Option.none_or]

/-- Of one name the last member stays. -/
theorem get?_sortMembers (members : List (String × String)) (key : String) :
    Entries.get? (Json.sortMembers members) key = members.reverse.lookup key := by
  have hfold := get?_foldl_put members [] key
  exact hfold.trans Option.or_none

/-- Entries are read back from the text of their file. -/
theorem ofText?_toText (h : entries.Sorted) : ofText? entries.toText = some entries := by
  have hbrace : Text.isBlankText entries.toText = false := by
    rw [Text.isBlankText, toText, Json.Value.pretty, String.toList_ofList]
    cases entries with
    | nil => rfl
    | cons entry rest => rfl
  have hread : Json.decodeText codec.read entries.toText.toList = .ok entries :=
    (Json.decodeText_dictionary entries).trans (congrArg Except.ok (Json.sortMembers_of_sorted h))
  rw [ofText?, hbrace, hread]
  rfl

/-- The text is an object of texts, member by member. -/
def Spells (text : String) (members : List (String × String)) : Prop :=
  Json.Document.ofText text.toList = ⟨.object (Json.textDrafts members) none, false⟩

/-- What is written for entries spells them. -/
theorem spells_toText (entries : Entries) : Spells entries.toText entries :=
  Json.ofText_dictionary entries

theorem ofText?_of_blank {text : String} (h : Text.isBlankText text) : ofText? text = some [] := by
  rw [ofText?, if_pos h]

theorem digit?_of_isBlank {c : Char} (h : Text.isBlank c = true) : Decimal.digit? c = none := by
  rw [Decimal.digit?, if_neg]
  intro hdigit
  have hrange : 48 ≤ c.toNat ∧ c.toNat ≤ 57 := hdigit
  simp only [Text.isBlank, Bool.or_eq_true, Bool.and_eq_true, decide_eq_true_eq, beq_iff_eq] at h
  omega

/-- Blanks alone spell no value.  Not all of them may stand between tokens. -/
theorem exists_readValue_of_blank {text : List Char} (h : ∀ c ∈ text, Text.isBlank c = true)
    (fuel depth : Nat) : ∃ flaw, (Json.readValue (fuel + 1) depth text).1 = .flawed flaw := by
  have hskip : ∀ c ∈ Json.skipSpace text, Text.isBlank c = true :=
    fun c hc => h c ((List.dropWhile_suffix Json.isSpace).subset hc)
  rw [Json.readValue]
  generalize Json.skipSpace text = rest at hskip
  cases rest with
  | nil => exact ⟨_, rfl⟩
  | cons c rest =>
      have hc : Text.isBlank c = true := hskip c List.mem_cons_self
      split
      case h_1 => contradiction
      case h_9 =>
        rename_i heq
        obtain ⟨rfl, rfl⟩ := List.cons.inj heq
        rw [digit?_of_isBlank hc]
        exact ⟨_, rfl⟩
      -- what else begins a value is no blank
      all_goals
        rename_i heq
        cases heq
        contradiction

theorem not_isBlankText_of_spells {text : String} {members : List (String × String)}
    (h : Spells text members) : Text.isBlankText text = false := by
  rw [Bool.eq_false_iff]
  intro hblank
  have hblanks : ∀ c ∈ text.toList, Text.isBlank c = true := List.all_eq_true.mp hblank
  have hroot : (Json.readValue (3 * text.toList.length + 3) Json.greatestDepth text.toList).1 =
      .object (Json.textDrafts members) none := congrArg Json.Document.root h
  obtain ⟨flaw, hflawed⟩ := exists_readValue_of_blank hblanks (3 * text.toList.length + 2)
    Json.greatestDepth
  rw [hflawed] at hroot
  contradiction

theorem ofText?_of_spells {text : String} {members : List (String × String)}
    (h : Spells text members) : ofText? text = some (Json.sortMembers members) := by
  rw [ofText?, not_isBlankText_of_spells h, if_neg Bool.false_ne_true, Json.decodeText, h]
  simp only [Json.Document.decode, codec, Json.Codec.dictionary, Json.readEntries_textDrafts]
  rfl

/-- What is read is sorted. -/
theorem sorted_of_read {draft : Json.Draft} (h : codec.read draft = .ok entries) :
    entries.Sorted := by
  cases draft with
  | object members ending =>
      cases hread : Json.Codec.readEntries .text ending members with
      | error cause =>
          simp only [codec, Json.Codec.dictionary, hread, Except.map] at h
          contradiction
      | ok members =>
          simp only [codec, Json.Codec.dictionary, hread, Except.map] at h
          obtain rfl := Except.ok.inj h
          exact sorted_sortMembers members
  | _ => contradiction

theorem sorted_of_ofText? {text : String} (h : ofText? text = some entries) :
    entries.Sorted := by
  rw [ofText?] at h
  split at h
  · obtain rfl := Option.some.inj h
    exact List.Pairwise.nil
  · rw [Json.decodeText, Json.Document.decode] at h
    cases hread : codec.read (Json.Document.ofText text.toList).root with
    | error cause =>
        simp only [hread, bind, Except.bind, Except.toOption] at h
        contradiction
    | ok found =>
        simp only [hread, bind, Except.bind] at h
        split at h
        · contradiction
        · obtain rfl := Option.some.inj h
          exact sorted_of_read hread

end BillingAccess.Entries
