/-
Which tokens name a user, and whom they name.

Only the part between the first two points of a token is looked at.  It has to
be a text of bytes that spell an object, in one of the alphabets, with any
number of padding signs; how it was written makes no difference.
-/
import BillingAccess.Proofs.Action
import BillingAccess.Proofs.Base64
import BillingAccess.Proofs.Text.Trimmed
import BillingAccess.SignIn.Identity

namespace BillingAccess.SignIn

open BillingAccess.Json

/-- The segment is a text of the bytes, with any number of padding signs. -/
def Carries (segment : List Char) (bytes : List UInt8) : Prop :=
  ∃ alphabet n, segment = (Base64.encode alphabet bytes).toList ++ List.replicate n '='

theorem Carries.decode {segment : List Char} {bytes : List UInt8} (h : Carries segment bytes) :
    decodeSegment? segment = some bytes := by
  obtain ⟨alphabet, n, rfl⟩ := h
  rw [decodeSegment?,
    Text.trimEndBy_append_replicate (Base64.padding_not_mem_encode alphabet bytes) n]
  have hread := Base64.decode?_encode alphabet bytes
  cases hurl : Base64.decode? .urlSafe (Base64.encode alphabet bytes).toList with
  | some others => rw [Base64.decode?_agree hurl hread, Option.some_or]
  | none =>
      -- The alphabet for URLs comes first, so it is not the one of this text.
      cases alphabet with
      | urlSafe =>
          rw [hurl] at hread
          cases hread
      | standard => rw [hread, Option.none_or]

theorem decodeSegment?_eq_some_iff {segment : List Char} {bytes : List UInt8} :
    decodeSegment? segment = some bytes ↔ Carries segment bytes := by
  constructor
  · intro h
    obtain ⟨n, hn⟩ := Text.exists_trimEndBy '=' segment
    rcases Option.or_eq_some_iff.mp h with h | ⟨-, h⟩
    · exact ⟨.urlSafe, n, by rw [← Base64.decode?_eq_some_iff.mp h, ← hn]⟩
    · exact ⟨.standard, n, by rw [← Base64.decode?_eq_some_iff.mp h, ← hn]⟩
  · exact Carries.decode

/-- The bytes spell a JSON object. -/
def SpellsObject (bytes : List UInt8) : Prop :=
  ∃ text members, Utf8.decode? bytes = some text ∧
    decodeText Draft.value text = .ok (.object members)

theorem isSome_ofClaims?_iff (claims : Value) :
    (Identity.ofClaims? claims).isSome ↔ ∃ members, claims = .object members := by
  cases claims with
  | object members => exact iff_of_true rfl ⟨members, rfl⟩
  | _ => exact iff_of_false Bool.false_ne_true nofun

theorem ofPayload?_eq (bytes : List UInt8) :
    Identity.ofPayload? bytes =
      ((Utf8.decode? bytes).bind fun text => (decodeText Draft.value text).toOption).bind
        Identity.ofClaims? :=
  (Option.bind_assoc _ _ _).symm

theorem isSome_ofPayload?_iff (bytes : List UInt8) :
    (Identity.ofPayload? bytes).isSome ↔ SpellsObject bytes := by
  rw [Option.isSome_iff_exists]
  constructor
  · rintro ⟨identity, h⟩
    obtain ⟨text, htext, h⟩ := Option.bind_eq_some_iff.mp h
    obtain ⟨claims, hclaims, h⟩ := Option.bind_eq_some_iff.mp h
    obtain ⟨members, rfl⟩ :=
      (isSome_ofClaims?_iff claims).mp (Option.isSome_iff_exists.mpr ⟨identity, h⟩)
    exact ⟨text, members, htext, Action.eq_ok_of_toOption hclaims⟩
  · rintro ⟨text, members, htext, hclaims⟩
    obtain ⟨identity, h⟩ :=
      Option.isSome_iff_exists.mp ((isSome_ofClaims?_iff _).mpr ⟨members, rfl⟩)
    refine ⟨identity, ?_⟩
    rw [ofPayload?_eq, htext, Option.bind_some, hclaims]
    exact h

/-- The payload stands between the first two points of the token, and `rest`
behind the second one. -/
def Encloses (token : String) (payload rest : List Char) : Prop :=
  ∃ header, token.toList = header ++ '.' :: (payload ++ '.' :: rest) ∧
    '.' ∉ header ∧ '.' ∉ payload

theorem Encloses.ofToken? {token : String} {payload rest : List Char}
    (h : Encloses token payload rest) :
    Identity.ofToken? token = (decodeSegment? payload).bind Identity.ofPayload? := by
  obtain ⟨header, htoken, hheader, hpayload⟩ := h
  obtain ⟨third, more, hrest⟩ := List.exists_cons_of_ne_nil (List.splitOn_ne_nil '.' rest)
  rw [Identity.ofToken?, tokenParts, htoken, List.splitOn_append_cons_self_of_not_mem hheader,
    List.splitOn_append_cons_self_of_not_mem hpayload, hrest]

theorem exists_encloses_of_isSome {token : String} (h : (Identity.ofToken? token).isSome) :
    ∃ payload rest, Encloses token payload rest := by
  by_cases hfirst : '.' ∈ token.toList
  · obtain ⟨header, more, htoken, hheader⟩ := List.eq_append_cons_of_mem hfirst
    by_cases hsecond : '.' ∈ more
    · obtain ⟨payload, rest, hmore, hpayload⟩ := List.eq_append_cons_of_mem hsecond
      exact ⟨payload, rest, header, hmore ▸ htoken, hheader, hpayload⟩
    · rw [Identity.ofToken?, tokenParts, htoken, List.splitOn_append_cons_self_of_not_mem hheader,
        List.splitOn_eq_singleton hsecond] at h
      cases h
  · rw [Identity.ofToken?, tokenParts, List.splitOn_eq_singleton hfirst] at h
    cases h

/-- A token names a user exactly if the part between its first two points is
base64 of bytes that spell an object.  What stands behind the second point is
not looked at, so there may be more parts. -/
theorem token_names_user_iff (token : String) :
    (Identity.ofToken? token).isSome ↔
      ∃ payload rest bytes, Encloses token payload rest ∧ Carries payload bytes ∧
        SpellsObject bytes := by
  constructor
  · intro h
    obtain ⟨payload, rest, hencloses⟩ := exists_encloses_of_isSome h
    rw [hencloses.ofToken?] at h
    obtain ⟨identity, h⟩ := Option.isSome_iff_exists.mp h
    obtain ⟨bytes, hbytes, h⟩ := Option.bind_eq_some_iff.mp h
    exact ⟨payload, rest, bytes, hencloses, decodeSegment?_eq_some_iff.mp hbytes,
      (isSome_ofPayload?_iff bytes).mp (Option.isSome_iff_exists.mpr ⟨identity, h⟩)⟩
  · rintro ⟨payload, rest, bytes, hencloses, hcarries, hobject⟩
    rw [hencloses.ofToken?, hcarries.decode, Option.bind_some]
    exact (isSome_ofPayload?_iff bytes).mpr hobject

/-- Four parts, the second of which spells an object. -/
def fourParts : String := "h.eyJzdWIiOiJ1MSJ9.s.x"

theorem count_points_of_encloses {token : String} {payload rest : List Char}
    (h : Encloses token payload rest) : token.toList.count '.' = rest.count '.' + 2 := by
  obtain ⟨header, htoken, hheader, hpayload⟩ := h
  rw [htoken, List.count_append, List.count_eq_zero_of_not_mem hheader, List.count_cons_self,
    List.count_append, List.count_eq_zero_of_not_mem hpayload, List.count_cons_self]
  omega

/-- A fourth part does not keep a token from naming a user. -/
theorem four_parts_name_user :
    Identity.ofToken? fourParts = some ⟨"", none, none, "u1"⟩ ∧
      ¬∃ payload signature, Encloses fourParts payload signature ∧ '.' ∉ signature := by
  refine ⟨by decide +kernel, ?_⟩
  rintro ⟨payload, signature, hencloses, hsignature⟩
  have hpoints := count_points_of_encloses hencloses
  rw [List.count_eq_zero_of_not_mem hsignature] at hpoints
  exact absurd hpoints (by decide +kernel)

theorem carries_encode (form : Base64.Form) (bytes : List UInt8) :
    Carries (form.encode bytes).toList bytes := by
  obtain ⟨n, hn⟩ := form.exists_toList_encode bytes
  exact ⟨form.alphabet, n, hn⟩

theorem point_not_mem_encode (form : Base64.Form) (bytes : List UInt8) :
    '.' ∉ (form.encode bytes).toList := by
  obtain ⟨n, hn⟩ := form.exists_toList_encode bytes
  rw [hn, List.mem_append, not_or]
  constructor
  · exact Base64.not_mem_encode (by cases form.alphabet <;> decide) bytes
  · intro hpoint
    exact absurd (List.eq_of_mem_replicate hpoint) (by decide)

/-- Bytes are read back from each of their four texts, and a token with such a
text in its second part names whom the object in the bytes names. -/
theorem payload_read_in_every_form (form : Base64.Form) (bytes : List UInt8) {header : String}
    (hheader : '.' ∉ header.toList) (signature : String) :
    decodeSegment? (form.encode bytes).toList = some bytes ∧
      decodeSegment? (Base64.encode .urlSafe bytes).toList = some bytes ∧
      Identity.ofToken? (header ++ "." ++ form.encode bytes ++ "." ++ signature) =
        ((Utf8.decode? bytes).bind fun text => (decodeText Draft.value text).toOption).bind
          Identity.ofClaims? ∧
      ((Identity.ofToken? (header ++ "." ++ form.encode bytes ++ "." ++ signature)).isSome ↔
        SpellsObject bytes) := by
  have hencloses : Encloses (header ++ "." ++ form.encode bytes ++ "." ++ signature)
      (form.encode bytes).toList signature.toList := by
    refine ⟨header.toList, ?_, hheader, point_not_mem_encode form bytes⟩
    simp
  have hread := (carries_encode form bytes).decode
  have htoken : Identity.ofToken? (header ++ "." ++ form.encode bytes ++ "." ++ signature) =
      Identity.ofPayload? bytes := by
    rw [hencloses.ofToken?, hread, Option.bind_some]
  refine ⟨hread, (carries_encode ⟨.urlSafe, false⟩ bytes).decode, ?_, ?_⟩
  · rw [htoken, ofPayload?_eq]
  · rw [htoken, isSome_ofPayload?_iff]

/-- A payload that shows both signs of the standard alphabet and is padded. -/
theorem padded_payload_read :
    '.' ∉ "h".toList ∧
      Identity.ofToken? "h.eyJzdWIiOiI/Pz8+Pj4ifQ==.s" = some ⟨"", none, none, "???>>>"⟩ := by
  have hheader : '.' ∉ "h".toList := by decide +kernel
  have htoken := (payload_read_in_every_form ⟨.standard, true⟩
    (Utf8.ofString "\x7b\"sub\":\"???>>>\"\x7d") hheader "s").2.2.1
  have htext : Base64.Form.encode ⟨.standard, true⟩
      (Utf8.ofString "\x7b\"sub\":\"???>>>\"\x7d") = "eyJzdWIiOiI/Pz8+Pj4ifQ==" := by
    decide +kernel
  rw [htext] at htoken
  refine ⟨hheader, Eq.trans ?_ (htoken.trans ?_)⟩
  · exact congrArg Identity.ofToken? (by decide +kernel)
  · decide +kernel

end BillingAccess.SignIn
