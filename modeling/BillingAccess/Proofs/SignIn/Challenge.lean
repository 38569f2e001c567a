/-
What a challenge tells of its verifier.

It is the digest of the verifier, and nothing but the digest: the thirty-two
bytes are read back from its forty-three symbols, and from no other text.
-/
import BillingAccess.Proofs.Sha256
import BillingAccess.SignIn.Pkce

namespace BillingAccess.SignIn

open BillingAccess.Base64

/-- A letter, a digit, a hyphen or an underscore. -/
def IsUrlSafe (c : Char) : Prop :=
  c.isAlphanum = true ∨ c = '-' ∨ c = '_'

instance (c : Char) : Decidable (IsUrlSafe c) :=
  inferInstanceAs (Decidable (_ ∨ _))

theorem isUrlSafe_symbol {n : Nat} (h : n < 64) : IsUrlSafe (Alphabet.urlSafe.symbol n) := by
  have all : ∀ m ∈ List.range 64, IsUrlSafe (Alphabet.urlSafe.symbol m) := by decide
  exact all n (List.mem_range.mpr h)

theorem isUrlSafe_of_mem_encode {bytes : List UInt8} {c : Char}
    (h : c ∈ (encode .urlSafe bytes).toList) : IsUrlSafe c := by
  obtain ⟨n, hn, rfl⟩ := exists_value_of_mem_encode h
  exact isUrlSafe_symbol hn

/-- The digest of a verifier, whose message is its bytes. -/
def verifierDigest (verifier : String) : List UInt8 :=
  Sha256.digest (Utf8.ofString verifier)

theorem length_challenge (verifier : String) : (challenge verifier).length = 43 := by
  rw [challenge, encode, String.length_ofList, List.length_map, length_sextets,
    Sha256.length_digest]

/-- Texts tell apart all that they spell. -/
theorem challenge_eq_iff (verifier other : String) :
    challenge verifier = challenge other ↔ verifierDigest verifier = verifierDigest other := by
  constructor
  · intro hsame
    have hread := decode?_encode .urlSafe (verifierDigest verifier)
    change decode? .urlSafe (challenge verifier).toList = _ at hread
    rw [hsame] at hread
    exact Option.some.inj (hread.symm.trans (decode?_encode .urlSafe (verifierDigest other)))
  · intro hsame
    exact congrArg (encode .urlSafe) hsame

/-- A text of forty-three symbols, without padding, that spells the digest of a
verifier and is the only one that does. -/
structure SpellsDigest (verifier text : String) : Prop where
  length : text.length = 43
  urlSafe : ∀ c ∈ text.toList, IsUrlSafe c
  others : ∀ c ∈ ['+', '/', '='], c ∉ text.toList
  decoded : decode? .urlSafe text.toList = some (verifierDigest verifier)
  unique : ∀ spelled, decode? .urlSafe spelled = some (verifierDigest verifier) →
    spelled = text.toList
  bytes : (verifierDigest verifier).length = 32
  blocks : ∃ blocks, Sha256.BlocksOf (Utf8.ofString verifier) blocks ∧
    verifierDigest verifier = (blocks.foldl Sha256.Chain.compress .initial).bytes

/-- Every challenge spells the digest of its verifier, so two verifiers have the
same challenge exactly if they have the same digest. -/
theorem challenge_spells_digest (verifier : String) :
    SpellsDigest verifier (challenge verifier) ∧
      ∀ other, challenge verifier = challenge other ↔
        verifierDigest verifier = verifierDigest other := by
  refine ⟨?_, challenge_eq_iff verifier⟩
  have hsafe : ∀ c ∈ (challenge verifier).toList, IsUrlSafe c := fun _ => isUrlSafe_of_mem_encode
  constructor
  case length => exact length_challenge verifier
  case urlSafe => exact hsafe
  case others =>
    intro c hc hmem
    have hunsafe : ¬IsUrlSafe c := by
      simp only [List.mem_cons, List.not_mem_nil, or_false] at hc
      rcases hc with rfl | rfl | rfl <;> decide
    exact hunsafe (hsafe c hmem)
  case decoded => exact decode?_encode .urlSafe _
  case unique => exact fun _ => decode?_eq_some_iff.mp
  case bytes => exact Sha256.length_digest _
  case blocks => exact Sha256.exists_blocksOf _

example : challenge "dBjftJeZ4CVP-mB92K27uhbUJU1p1r_wW1gFWFOEjXk" =
    "E9Melhoa2OwvFrEMTJguCHaoeK1t8URWbuGJSstw-cM" := by
  decide +kernel

end BillingAccess.SignIn
