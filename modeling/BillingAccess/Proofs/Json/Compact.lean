/-
A value is read back from its text on one line.

This holds of values without doubles, whose whole numbers fit 64 bits, and
that are nested no deeper than the reader goes.  The induction is on how such
a value is built; what follows its text stays arbitrary, as far as it does not
go on with a numeral.  No value costs the reader more than three units of its
fuel for each character.
-/
import BillingAccess.Json.Record
import BillingAccess.Proofs.Json.Numeral
import BillingAccess.Proofs.Json.Quoted

namespace BillingAccess.Json

open BillingAccess.Decimal

/-- Values that texts hold without loss, nested at most so deep. -/
inductive Value.Lossless : Nat → Value → Prop
  | null {depth : Nat} : Lossless depth .null
  | bool {depth : Nat} (b : Bool) : Lossless depth (.bool b)
  | whole {depth : Nat} {n : Int} (hleast : Int64.minValue.toInt ≤ n)
      (hgreatest : n ≤ greatest64) : Lossless depth (.number (.whole n))
  | text {depth : Nat} (s : String) : Lossless depth (.text s)
  | list {depth : Nat} {items : List Value} (hitems : ∀ v ∈ items, Lossless depth v) :
      Lossless (depth + 1) (.list items)
  | object {depth : Nat} {members : List (String × Value)}
      (hmembers : ∀ m ∈ members, Lossless depth m.2) : Lossless (depth + 1) (.object members)

/-- The reader takes the value off its text and stops right behind it. -/
def Value.ReadBack (depth : Nat) (v : Value) : Prop :=
  ∀ fuel after, 3 * v.write.length ≤ fuel → EndsNumeral after →
    readValue fuel depth (v.write ++ after) = (.ofValue v, some after)

theorem endsNumeral_cons {c : Char} (h : digit? c = none ∧ c ≠ '.' ∧ c ≠ 'e' ∧ c ≠ 'E')
    (rest : List Char) : EndsNumeral (c :: rest) := by
  intro d hd
  obtain rfl := Option.some.inj hd
  exact h

theorem skipSpace_quote (s : String) (rest : List Char) :
    skipSpace (quote s ++ rest) = '"' :: (s.toList.flatMap escapeChar ++ '"' :: rest) := by
  rw [quote, List.cons_append, List.append_assoc]
  rfl

/-- A text that is not empty comes with fuel for two steps. -/
theorem exists_spare {text : List Char} {fuel : Nat} (htext : text ≠ [])
    (hfuel : 3 * text.length ≤ fuel) : ∃ spare, fuel = spare + 2 := by
  have hlength := List.length_pos_iff.mpr htext
  exact ⟨fuel - 2, by omega⟩

theorem Value.readBack_null (depth : Nat) : Value.null.ReadBack depth := by
  intro fuel after hfuel _
  obtain ⟨fuel, rfl⟩ := exists_spare (by decide) hfuel
  have hskip : skipSpace (Value.null.write ++ after) = 'n' :: 'u' :: 'l' :: 'l' :: after := rfl
  rw [readValue, hskip]
  rfl

theorem Value.readBack_bool (depth : Nat) (b : Bool) : (Value.bool b).ReadBack depth := by
  intro fuel after hfuel _
  cases b with
  | true =>
      obtain ⟨fuel, rfl⟩ := exists_spare (by decide) hfuel
      have hskip : skipSpace ((Value.bool true).write ++ after) =
          't' :: 'r' :: 'u' :: 'e' :: after := rfl
      rw [readValue, hskip]
      rfl
  | false =>
      obtain ⟨fuel, rfl⟩ := exists_spare (by decide) hfuel
      have hskip : skipSpace ((Value.bool false).write ++ after) =
          'f' :: 'a' :: 'l' :: 's' :: 'e' :: after := rfl
      rw [readValue, hskip]
      rfl

theorem Value.readBack_text (depth : Nat) (s : String) : (Value.text s).ReadBack depth := by
  intro fuel after hfuel _
  obtain ⟨fuel, rfl⟩ := exists_spare (List.cons_ne_nil _ _) hfuel
  rw [Value.write, readValue, skipSpace_quote]
  simp only [readTextValue, readText_quoted]
  rfl

theorem writeInt_ne_nil (n : Int) : writeInt n ≠ [] := by
  cases n with
  | ofNat n => exact writeNat_ne_nil n
  | negSucc n => exact List.cons_ne_nil _ _

theorem Value.readBack_whole (depth : Nat) {n : Int} (hleast : Int64.minValue.toInt ≤ n)
    (hgreatest : n ≤ greatest64) : (Value.number (.whole n)).ReadBack depth := by
  intro fuel after hfuel hafter
  obtain ⟨fuel, rfl⟩ := exists_spare (writeInt_ne_nil n) hfuel
  exact readValue_writeInt (fuel + 1) depth hleast hgreatest hafter

/-- A text on one line starts neither with a blank nor with the end of a list. -/
theorem Value.Lossless.exists_write {depth : Nat} {v : Value} (h : v.Lossless depth) :
    ∃ c rest, v.write = c :: rest ∧ isSpace c = false ∧ c ≠ ']' := by
  cases h with
  | null => exact ⟨'n', _, rfl, by decide, by decide⟩
  | bool b =>
      cases b with
      | true => exact ⟨'t', _, rfl, by decide, by decide⟩
      | false => exact ⟨'f', _, rfl, by decide, by decide⟩
  | @whole _ n _ _ =>
      cases n with
      | ofNat n =>
          obtain ⟨digits, hdigits⟩ := exists_places n
          obtain ⟨d, digits, rfl⟩ := List.exists_cons_of_ne_nil hdigits.ne_nil
          have hd := hdigits.small d List.mem_cons_self
          refine ⟨digit d, digits.map digit, ?_, ?_⟩
          · rw [Value.write, Number.write, writeInt, hdigits.written, List.map_cons]
          · interval_cases d <;> decide
      | negSucc n => exact ⟨'-', _, rfl, by decide, by decide⟩
  | text s => exact ⟨'"', _, rfl, by decide, by decide⟩
  | @list _ items _ => cases items <;> exact ⟨'[', _, rfl, by decide, by decide⟩
  | @object _ members _ => cases members <;> exact ⟨'\x7b', _, rfl, by decide, by decide⟩

theorem endsNumeral_writeItems (items : List Value) (after : List Char) :
    EndsNumeral (writeItems items ++ after) := by
  cases items <;> exact endsNumeral_cons (by decide) _

theorem readItem_write {depth : Nat} {v : Value} {rest : List Value}
    (hitems : ∀ w ∈ v :: rest, w.ReadBack depth) {fuel : Nat}
    (hfuel : 3 * (v.write ++ writeItems rest).length < fuel) (after : List Char) :
    readItem fuel depth (v.write ++ (writeItems rest ++ after)) =
      (Draft.ofValues (v :: rest), none, some after) := by
  obtain ⟨fuel, rfl⟩ : ∃ spare, fuel = spare + 1 := ⟨fuel - 1, by omega⟩
  rw [List.length_append] at hfuel
  have hvalue := hitems v List.mem_cons_self fuel (writeItems rest ++ after) (by omega)
    (endsNumeral_writeItems rest after)
  induction rest generalizing v fuel with
  | nil =>
      have hend : skipSpace (writeItems [] ++ after) = ']' :: after := rfl
      rw [readItem, hvalue]
      simp only [hend]
      rfl
  | cons w rest ih =>
      have hcomma : skipSpace (writeItems (w :: rest) ++ after) =
          ',' :: (w.write ++ (writeItems rest ++ after)) := by
        rw [← List.append_assoc]
        rfl
      rw [writeItems, List.length_cons, List.length_append] at hfuel
      obtain ⟨fuel, rfl⟩ : ∃ spare, fuel = spare + 1 := ⟨fuel - 1, by omega⟩
      have hrest := ih (fun u hu => hitems u (List.mem_cons_of_mem _ hu)) fuel (by omega)
        (hitems w (by simp) fuel (writeItems rest ++ after) (by omega)
          (endsNumeral_writeItems rest after))
      rw [readItem, hvalue]
      simp only [hcomma, hrest]
      rfl

theorem Value.readBack_list {nested depth : Nat} {items : List Value}
    (hlossless : ∀ v ∈ items, v.Lossless nested) (hitems : ∀ v ∈ items, v.ReadBack depth) :
    (Value.list items).ReadBack (depth + 1) := by
  intro fuel after hfuel _
  cases items with
  | nil =>
      obtain ⟨fuel, rfl⟩ := exists_spare (by decide) hfuel
      have hskip : skipSpace ((Value.list []).write ++ after) = '[' :: ']' :: after := rfl
      have hend : skipSpace (']' :: after) = ']' :: after := rfl
      have hread : readItems (fuel + 1) depth (']' :: after) = ([], none, some after) := by
        rw [readItems, hend]
        rfl
      rw [readValue, hskip]
      simp only [Nat.add_sub_cancel, hread, if_neg (Nat.succ_ne_zero depth)]
      rfl
  | cons v rest =>
      rw [Value.write, List.length_cons] at hfuel
      obtain ⟨fuel, rfl⟩ : ∃ spare, fuel = spare + 2 := ⟨fuel - 2, by omega⟩
      obtain ⟨c, text, hwrite, hspace, hbracket⟩ :=
        (hlossless v List.mem_cons_self).exists_write
      have hbound : 3 * (v.write ++ writeItems rest).length < fuel := by omega
      have hitem := readItem_write hitems hbound after
      have hskip : skipSpace ((Value.list (v :: rest)).write ++ after) =
          '[' :: (v.write ++ (writeItems rest ++ after)) := by
        rw [← List.append_assoc]
        rfl
      have hread : readItems (fuel + 1) depth (v.write ++ (writeItems rest ++ after)) =
          (Draft.ofValues (v :: rest), none, some after) := by
        have hstart : skipSpace (v.write ++ (writeItems rest ++ after)) =
            v.write ++ (writeItems rest ++ after) := by
          rw [hwrite, List.cons_append, skipSpace, List.dropWhile_cons_of_neg (by simp [hspace])]
        rw [readItems, hstart, ← hitem, hwrite, List.cons_append]
        simp [hbracket]
      rw [readValue, hskip]
      simp only [Nat.add_sub_cancel, hread, if_neg (Nat.succ_ne_zero depth)]
      rfl

theorem endsNumeral_writeMembers (members : List (String × Value)) (after : List Char) :
    EndsNumeral (writeMembers members ++ after) := by
  cases members <;> exact endsNumeral_cons (by decide) _

/-- A member on one line. -/
def memberLine (member : String × Value) : List Char :=
  quote member.1 ++ ':' :: member.2.write

theorem readMemberValue_write (fuel depth : Nat) (v : Value) (after : List Char) :
    readMemberValue (fuel + 1) depth (':' :: (v.write ++ after)) =
      readValue fuel depth (v.write ++ after) := by
  have hskip : skipSpace (':' :: (v.write ++ after)) = ':' :: (v.write ++ after) := rfl
  rw [readMemberValue, hskip]
  rfl

theorem memberLine_append (member : String × Value) (after : List Char) :
    memberLine member ++ after =
      '"' :: (member.1.toList.flatMap escapeChar ++
        '"' :: ':' :: (member.2.write ++ after)) := by
  simp only [memberLine, quote, List.cons_append, List.append_assoc, List.nil_append]

theorem skipSpace_memberLine (member : String × Value) (after : List Char) :
    skipSpace (memberLine member ++ after) = memberLine member ++ after := by
  rw [memberLine_append]
  rfl

theorem length_memberLine (member : String × Value) :
    member.2.write.length + 3 ≤ (memberLine member).length := by
  simp only [memberLine, quote, List.length_append, List.length_cons]
  omega

theorem readMember_write {depth : Nat} {member : String × Value}
    {rest : List (String × Value)} (hmembers : ∀ m ∈ member :: rest, m.2.ReadBack depth)
    {fuel : Nat} (hfuel : 3 * (memberLine member ++ writeMembers rest).length ≤ fuel)
    (after : List Char) :
    readMember fuel depth (memberLine member ++ (writeMembers rest ++ after)) =
      (Draft.ofMembers (member :: rest), none, some after) := by
  rw [List.length_append] at hfuel
  induction rest generalizing member fuel with
  | nil =>
      have hline := length_memberLine member
      obtain ⟨fuel, rfl⟩ : ∃ spare, fuel = spare + 2 := ⟨fuel - 2, by omega⟩
      have hvalue := hmembers member List.mem_cons_self fuel (writeMembers [] ++ after)
        (by omega) (endsNumeral_writeMembers [] after)
      have hend : skipSpace (writeMembers [] ++ after) = '\x7d' :: after := rfl
      rw [readMember, skipSpace_memberLine, memberLine_append]
      simp only [readText_quoted, readMemberValue_write, hvalue, hend]
      rfl
  | cons next rest ih =>
      have hline := length_memberLine member
      have hcomma : skipSpace (writeMembers (next :: rest) ++ after) =
          ',' :: (memberLine next ++ (writeMembers rest ++ after)) := by
        rw [← List.append_assoc, memberLine, List.append_assoc (quote next.1)]
        rfl
      have hlength : (writeMembers (next :: rest)).length =
          (memberLine next).length + (writeMembers rest).length + 1 := by
        rw [writeMembers, memberLine]
        simp only [List.length_cons, List.length_append]
        omega
      obtain ⟨fuel, rfl⟩ : ∃ spare, fuel = spare + 2 := ⟨fuel - 2, by omega⟩
      have hvalue := hmembers member List.mem_cons_self fuel
        (writeMembers (next :: rest) ++ after) (by omega) (endsNumeral_writeMembers _ after)
      have hlater : ∀ m ∈ next :: rest, m.2.ReadBack depth := fun m hm =>
        hmembers m (List.mem_cons_of_mem _ hm)
      have hbound : 3 * ((memberLine next).length + (writeMembers rest).length) ≤ fuel + 1 := by
        omega
      have hrest := ih hlater hbound
      rw [readMember, skipSpace_memberLine, memberLine_append]
      simp only [readText_quoted, readMemberValue_write, hvalue, hcomma, hrest]
      rfl

theorem Value.readBack_object {depth : Nat} {members : List (String × Value)}
    (hmembers : ∀ m ∈ members, m.2.ReadBack depth) :
    (Value.object members).ReadBack (depth + 1) := by
  intro fuel after hfuel _
  cases members with
  | nil =>
      obtain ⟨fuel, rfl⟩ := exists_spare (by decide) hfuel
      have hskip : skipSpace ((Value.object []).write ++ after) = '\x7b' :: '\x7d' :: after := rfl
      have hend : skipSpace ('\x7d' :: after) = '\x7d' :: after := rfl
      have hread : readMembers (fuel + 1) depth ('\x7d' :: after) = ([], none, some after) := by
        rw [readMembers, hend]
        rfl
      rw [readValue, hskip]
      simp only [Nat.add_sub_cancel, hread, if_neg (Nat.succ_ne_zero depth)]
      rfl
  | cons member rest =>
      have hwrite : (Value.object (member :: rest)).write =
          '\x7b' :: (memberLine member ++ writeMembers rest) := by
        rw [memberLine, List.append_assoc]
        rfl
      rw [hwrite, List.length_cons] at hfuel
      obtain ⟨fuel, rfl⟩ : ∃ spare, fuel = spare + 2 := ⟨fuel - 2, by omega⟩
      have hbound : 3 * (memberLine member ++ writeMembers rest).length ≤ fuel := by omega
      have hmember := readMember_write hmembers hbound after
      have hskip : skipSpace ((Value.object (member :: rest)).write ++ after) =
          '\x7b' :: (memberLine member ++ (writeMembers rest ++ after)) := by
        rw [hwrite, List.cons_append, List.append_assoc]
        rfl
      have hread :
          readMembers (fuel + 1) depth (memberLine member ++ (writeMembers rest ++ after)) =
            (Draft.ofMembers (member :: rest), none, some after) := by
        rw [readMembers, skipSpace_memberLine, ← hmember, memberLine_append]
        rfl
      rw [readValue, hskip]
      simp only [Nat.add_sub_cancel, hread, if_neg (Nat.succ_ne_zero depth)]
      rfl

/-- What a value is built from is read back, and so is the value. -/
theorem Value.Lossless.readBack {depth : Nat} {v : Value} (h : v.Lossless depth)
    {room : Nat} (hroom : depth ≤ room) : v.ReadBack room := by
  induction h generalizing room with
  | null => exact readBack_null room
  | bool b => exact readBack_bool room b
  | whole hleast hgreatest => exact readBack_whole room hleast hgreatest
  | text s => exact readBack_text room s
  | list hitems ih =>
      obtain ⟨room, rfl⟩ : ∃ smaller, room = smaller + 1 := ⟨room - 1, by omega⟩
      exact readBack_list hitems fun v hv => ih v hv (by omega)
  | object hmembers ih =>
      obtain ⟨room, rfl⟩ : ∃ smaller, room = smaller + 1 := ⟨room - 1, by omega⟩
      exact readBack_object fun m hm => ih m hm (by omega)

theorem ofText_compact {depth : Nat} {v : Value} (h : v.Lossless depth)
    (hdepth : depth ≤ greatestDepth) :
    Document.ofText v.compact.toList = ⟨.ofValue v, false⟩ := by
  have hprint : v.compact.toList = v.write := String.toList_ofList
  have hread := h.readBack hdepth (3 * v.write.length + 3) []
    (Nat.le_add_right _ 3) nofun
  rw [List.append_nil] at hread
  rw [hprint, Document.ofText, hread]
  rfl

/-- Reading a text on one line is reading the value that it was written for. -/
theorem decodeText_compact {α : Type} {depth : Nat} {v : Value} (h : v.Lossless depth)
    (hdepth : depth ≤ greatestDepth) (read : Draft → Except Cause α) :
    decodeText read v.compact.toList = read (.ofValue v) := by
  rw [decodeText, ofText_compact h hdepth, Document.decode]
  simp

end BillingAccess.Json
