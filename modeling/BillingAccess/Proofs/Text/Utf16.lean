/-
A text is read back from its units.

A character is one unit, or two halves that nothing else is written as, so what
follows a character has no say in how it is read.
-/
import BillingAccess.Proofs.Text.Utf8
import BillingAccess.Text.Utf16

namespace BillingAccess.Utf16

/-- The units of a character. -/
def unitsOf (c : Char) : List Nat :=
  if c.toNat < 0x10000 then [c.toNat]
  else [0xD800 + (c.toNat - 0x10000) / 0x400, 0xDC00 + (c.toNat - 0x10000) % 0x400]

/-- The bytes of a unit. -/
def Order.bytesOf (order : Order) (unit : Nat) : List UInt8 :=
  match order with
  | .little => [UInt8.ofNat (unit % 256), UInt8.ofNat (unit / 256)]
  | .big => [UInt8.ofNat (unit / 256), UInt8.ofNat (unit % 256)]

/-- The bytes of a text. -/
def encode (order : Order) (text : List Char) : List UInt8 :=
  (text.flatMap unitsOf).flatMap order.bytesOf

theorem unitsOf_lt (c : Char) : ∀ unit ∈ unitsOf c, unit < 0x10000 := by
  have hvalid : c.toNat < 0xD800 ∨ 0xDFFF < c.toNat ∧ c.toNat < 0x110000 := c.valid
  rw [unitsOf]
  split
  case isTrue hone =>
    intro unit hunit
    rwa [List.mem_singleton.mp hunit]
  case isFalse =>
    simp only [List.forall_mem_cons]
    exact ⟨by omega, by omega, List.forall_mem_nil _⟩

/-- Two bytes are read as the unit that they were written for. -/
theorem Order.exists_bytesOf (order : Order) {unit : Nat} (h : unit < 0x10000) :
    ∃ a b, order.bytesOf unit = [a, b] ∧ order.unit a b = unit := by
  have hlow : (UInt8.ofNat (unit % 256)).toNat = unit % 256 := Utf8.toNat_ofNat (by omega)
  have hhigh : (UInt8.ofNat (unit / 256)).toNat = unit / 256 := Utf8.toNat_ofNat (by omega)
  cases order with
  | little =>
      refine ⟨_, _, rfl, ?_⟩
      rw [Order.unit, hlow, hhigh, Nat.div_add_mod']
  | big =>
      refine ⟨_, _, rfl, ?_⟩
      rw [Order.unit, hlow, hhigh, Nat.div_add_mod']

theorem Order.units_bytesOf (order : Order) {units : List Nat}
    (h : ∀ unit ∈ units, unit < 0x10000) :
    order.units (units.flatMap order.bytesOf) = (units, false) := by
  induction units with
  | nil => rfl
  | cons unit rest ih =>
      rw [List.forall_mem_cons] at h
      obtain ⟨a, b, hbytes, hunit⟩ := order.exists_bytesOf h.1
      rw [List.flatMap_cons, hbytes, List.cons_append, List.singleton_append, Order.units, ih h.2,
        hunit]

theorem ofUnits_alone {unit : Nat} (hlead : leads unit = false) (htrail : trails unit = false)
    (rest : List Nat) : ofUnits false (unit :: rest) = Char.ofNat unit :: ofUnits false rest := by
  cases rest with
  | nil => simp [ofUnits, alone, hlead, htrail]
  | cons next rest => simp [ofUnits, alone, hlead, htrail]

theorem ofUnits_halves {lead trail : Nat} (hlead : leads lead = true) (htrail : trails trail = true)
    (rest : List Nat) :
    ofUnits false (lead :: trail :: rest) = whole lead trail :: ofUnits false rest := by
  rw [ofUnits, if_pos hlead, if_pos htrail]

theorem ofUnits_unitsOf (c : Char) (rest : List Nat) :
    ofUnits false (unitsOf c ++ rest) = c :: ofUnits false rest := by
  have hvalid : c.toNat < 0xD800 ∨ 0xDFFF < c.toNat ∧ c.toNat < 0x110000 := c.valid
  have hchar : Char.ofNat c.toNat = c := Char.ofNat_toNat c
  rw [unitsOf]
  split
  case isTrue hone =>
    have hlead : leads c.toNat = false := by
      rw [leads, Bool.and_eq_false_iff, decide_eq_false_iff_not, decide_eq_false_iff_not]
      omega
    have htrail : trails c.toNat = false := by
      rw [trails, Bool.and_eq_false_iff, decide_eq_false_iff_not, decide_eq_false_iff_not]
      omega
    rw [List.singleton_append, ofUnits_alone hlead htrail, hchar]
  case isFalse =>
    have hlead : leads (0xD800 + (c.toNat - 0x10000) / 0x400) = true := by
      rw [leads, Bool.and_eq_true, decide_eq_true_eq, decide_eq_true_eq]
      omega
    have htrail : trails (0xDC00 + (c.toNat - 0x10000) % 0x400) = true := by
      rw [trails, Bool.and_eq_true, decide_eq_true_eq, decide_eq_true_eq]
      omega
    have hsum : 0x10000 + (c.toNat - 0x10000) / 0x400 * 0x400 + (c.toNat - 0x10000) % 0x400 =
        c.toNat := by
      omega
    rw [List.cons_append, List.singleton_append, ofUnits_halves hlead htrail, whole,
      Nat.add_sub_cancel_left, Nat.add_sub_cancel_left, hsum, hchar]

/-- Where no character is broken, nothing is replaced. -/
theorem decodeLossy_encode (order : Order) (text : List Char) :
    decodeLossy order (encode order text) = text := by
  have hunits : ∀ unit ∈ text.flatMap unitsOf, unit < 0x10000 := by
    intro unit hunit
    obtain ⟨c, -, hc⟩ := List.mem_flatMap.mp hunit
    exact unitsOf_lt c unit hc
  rw [decodeLossy, encode, order.units_bytesOf hunits]
  induction text with
  | nil => rfl
  | cons c rest ih =>
      rw [List.flatMap_cons] at hunits ⊢
      have hrest := ih fun unit hunit => hunits unit (List.mem_append_right _ hunit)
      dsimp only at hrest ⊢
      rw [ofUnits_unitsOf, hrest]

end BillingAccess.Utf16
