/-
A dictionary of texts is read back from its JSON text.

The reader is followed member by member; every member costs it one unit of its
fuel, and the text of a member is longer than that.
-/
import BillingAccess.Json.Record
import BillingAccess.Proofs.Json.Quoted

namespace BillingAccess.Json

/-- The draft of a dictionary of texts, member by member. -/
def textDrafts (entries : List (String × String)) : List (Except Cause String × Draft) :=
  entries.map fun entry => (.ok entry.1, .text entry.2)

/-- The members as they are printed. -/
def textMembers (entries : List (String × String)) : List (String × Value) :=
  entries.map fun entry => (entry.1, .text entry.2)

theorem skipSpace_newLine (depth : Nat) (text : List Char) :
    skipSpace (newLine depth ++ text) = skipSpace text := by
  have hblanks (n : Nat) : skipSpace (List.replicate n ' ' ++ text) = skipSpace text := by
    induction n with
    | zero => rfl
    | succ n ih => rw [List.replicate_succ, ← ih]; rfl
  exact hblanks (2 * depth)

theorem readValue_text (fuel depth : Nat) (s : String) (after : List Char) :
    readValue (fuel + 1) depth (' ' :: (quote s ++ after)) = (.text s, some after) := by
  have hskip : skipSpace (' ' :: (quote s ++ after)) =
      '"' :: (s.toList.flatMap escapeChar ++ '"' :: after) := by
    rw [quote, List.cons_append, List.append_assoc]
    rfl
  rw [readValue, hskip]
  simp only [readTextValue, readText_quoted]

theorem readMemberValue_text (fuel depth : Nat) (s : String) (after : List Char) :
    readMemberValue (fuel + 2) depth (':' :: ' ' :: (quote s ++ after)) =
      (.text s, some after) := by
  have hskip : skipSpace (':' :: ' ' :: (quote s ++ after)) =
      ':' :: ' ' :: (quote s ++ after) := rfl
  rw [readMemberValue, hskip]
  exact readValue_text fuel depth s after

/-- The text of a member before what follows it. -/
def memberText (entry : String × String) (rest : List Char) : List Char :=
  newLine 1 ++ quote entry.1 ++ ':' :: ' ' :: (quote entry.2 ++ rest)

theorem skipSpace_memberText (entry : String × String) (rest : List Char) :
    skipSpace (memberText entry rest) =
      '"' :: (entry.1.toList.flatMap escapeChar ++
        '"' :: ':' :: ' ' :: (quote entry.2 ++ rest)) := by
  rw [memberText, List.append_assoc, skipSpace_newLine, quote, List.cons_append,
    List.append_assoc]
  rfl

/-- The members after the first, and the closing brace, before what follows. -/
def membersText (rest : List (String × String)) (after : List Char) : List Char :=
  prettyMembers 0 (textMembers rest) ++ after

theorem membersText_cons (entry : String × String) (rest : List (String × String))
    (after : List Char) :
    membersText (entry :: rest) after = ',' :: memberText entry (membersText rest after) := by
  simp only [membersText, textMembers, List.map_cons, prettyMembers, Value.writePretty, memberText,
    List.cons_append, List.append_assoc, Nat.zero_add]

theorem writePretty_cons (entry : String × String) (rest : List (String × String))
    (after : List Char) :
    (Value.object (textMembers (entry :: rest))).writePretty 0 ++ after =
      '{' :: memberText entry (membersText rest after) := by
  simp only [membersText, textMembers, List.map_cons, Value.writePretty, memberText,
    List.cons_append, List.append_assoc, Nat.zero_add]

theorem readMember_memberText {fuel : Nat} (depth : Nat) (entry : String × String)
    (rest : List (String × String)) (hfuel : rest.length + 3 ≤ fuel) (after : List Char) :
    readMember fuel depth (memberText entry (membersText rest after)) =
      (textDrafts (entry :: rest), none, some after) := by
  obtain ⟨fuel, rfl⟩ : ∃ spare, fuel = spare + 3 := ⟨fuel - 3, by omega⟩
  induction rest generalizing fuel entry with
  | nil =>
      have hend : skipSpace (membersText [] after) = '}' :: after :=
        skipSpace_newLine 0 ('}' :: after)
      rw [readMember, skipSpace_memberText]
      simp only [readText_quoted, readMemberValue_text, hend]
      rfl
  | cons next rest ih =>
      obtain ⟨fuel, rfl⟩ : ∃ spare, fuel = spare + 1 := by
        rw [List.length_cons] at hfuel
        exact ⟨fuel - 1, by omega⟩
      have hcomma : skipSpace (membersText (next :: rest) after) =
          ',' :: memberText next (membersText rest after) := by
        rw [membersText_cons]
        rfl
      have hrest := ih next fuel (by rw [List.length_cons] at hfuel; omega)
      rw [readMember, skipSpace_memberText]
      simp only [readText_quoted, readMemberValue_text, hcomma, hrest]
      rfl

theorem readMembers_memberText {fuel : Nat} (depth : Nat) (entry : String × String)
    (rest : List (String × String)) (hfuel : rest.length + 4 ≤ fuel) (after : List Char) :
    readMembers fuel depth (memberText entry (membersText rest after)) =
      (textDrafts (entry :: rest), none, some after) := by
  obtain ⟨fuel, rfl⟩ : ∃ spare, fuel = spare + 2 := ⟨fuel - 2, by omega⟩
  have hmember := readMember_memberText depth entry rest
    (show rest.length + 3 ≤ fuel + 1 by omega) after
  rw [readMember, skipSpace_memberText] at hmember
  rw [readMembers, skipSpace_memberText]
  -- the blanks before the name have been skipped already
  change readMember (fuel + 1) depth ('"' :: _) = _
  rw [readMember]
  exact hmember

theorem readValue_dictionary {fuel : Nat} (depth : Nat) (entries : List (String × String))
    (hfuel : entries.length + 4 ≤ fuel) (hdepth : depth ≠ 0) (after : List Char) :
    readValue fuel depth ((Value.object (textMembers entries)).writePretty 0 ++ after) =
      (.object (textDrafts entries) none, some after) := by
  obtain ⟨fuel, rfl⟩ : ∃ spare, fuel = spare + 2 := ⟨fuel - 2, by omega⟩
  cases entries with
  | nil =>
      have hskip : skipSpace ('{' :: '}' :: after) = '{' :: '}' :: after := rfl
      have hmembers : readMembers (fuel + 1) (depth - 1) ('}' :: after) =
          ([], none, some after) := by
        have hend : skipSpace ('}' :: after) = '}' :: after := rfl
        rw [readMembers, hend]
        rfl
      change readValue (fuel + 2) depth ('{' :: '}' :: after) = _
      rw [readValue, hskip]
      simp only [if_neg hdepth, hmembers]
      rfl
  | cons entry rest =>
      have hskip : skipSpace ('{' :: memberText entry (membersText rest after)) =
          '{' :: memberText entry (membersText rest after) := rfl
      have hmembers := readMembers_memberText (depth - 1) entry rest
        (show rest.length + 4 ≤ fuel + 1 by rw [List.length_cons] at hfuel; omega) after
      rw [writePretty_cons, readValue, hskip]
      simp only [if_neg hdepth, hmembers]

theorem readEntries_textDrafts (entries : List (String × String)) :
    Codec.readEntries .text none (textDrafts entries) = .ok entries := by
  induction entries with
  | nil => rfl
  | cons entry rest ih =>
      change (do
        return (entry.1, entry.2) :: (← Codec.readEntries .text none (textDrafts rest))) = _
      rw [ih]
      rfl

theorem length_le_membersText (rest : List (String × String)) :
    rest.length ≤ (membersText rest []).length := by
  induction rest with
  | nil => exact Nat.zero_le _
  | cons entry rest ih =>
      rw [membersText_cons, memberText]
      simp only [List.length_cons, List.length_append]
      omega

theorem length_lt_writePretty (entries : List (String × String)) :
    entries.length < ((Value.object (textMembers entries)).writePretty 0).length := by
  cases entries with
  | nil => decide
  | cons entry rest =>
      have hrest := length_le_membersText rest
      rw [← List.append_nil ((Value.object (textMembers (entry :: rest))).writePretty 0),
        writePretty_cons, memberText]
      simp only [List.length_cons, List.length_append]
      omega

/-- The text of a dictionary of texts is the object of its entries. -/
theorem ofText_dictionary (entries : List (String × String)) :
    Document.ofText ((Codec.dictionary .text).write entries).pretty.toList =
      ⟨.object (textDrafts entries) none, false⟩ := by
  have hprint : ((Codec.dictionary .text).write entries).pretty.toList =
      (Value.object (textMembers entries)).writePretty 0 := String.toList_ofList
  have hlength := length_lt_writePretty entries
  have hread := readValue_dictionary greatestDepth entries
    (show entries.length + 4 ≤
      3 * ((Value.object (textMembers entries)).writePretty 0).length + 3 by omega)
    (by decide) []
  rw [List.append_nil] at hread
  rw [hprint, Document.ofText, hread]
  rfl

/-- A dictionary of texts is read back from its text, sorted by name. -/
theorem decodeText_dictionary (entries : List (String × String)) :
    decodeText (Codec.dictionary .text).read
        ((Codec.dictionary .text).write entries).pretty.toList =
      .ok (sortMembers entries) := by
  rw [decodeText, ofText_dictionary]
  simp only [Document.decode, Codec.dictionary, readEntries_textDrafts]
  rfl

end BillingAccess.Json
