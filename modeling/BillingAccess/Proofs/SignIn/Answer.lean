/-
What the token endpoint grants, answer by answer.

A grant takes an answer of success whose body spells a token and no error.  An
error counts even beside a token, what is empty counts as absent, and a body of
blanks spells nothing.  Every outcome of a request yields exactly one grant or
fault.
-/
import BillingAccess.Proofs.SignIn.Course

namespace BillingAccess.SignIn

/-- A body spells an answer. -/
structure Says (body : List UInt8) (answer : TokenAnswer) : Prop where
  filled : Text.isBlankText (bodyText body) = false
  spelled : Json.decodeText TokenAnswer.record.codec.read (bodyText body).toList = .ok answer

/-- There is a text, and it is not empty. -/
def Filled (text : Option String) (value : String) : Prop :=
  text = some value ∧ value ≠ ""

/-- There is no text, or an empty one. -/
def Vacant (text : Option String) : Prop :=
  ∀ value, text = some value → value = ""

theorem filter_of_filled {text : Option String} {value : String} (h : Filled text value) :
    text.filter (· ≠ "") = some value := by
  obtain ⟨rfl, hvalue⟩ := h
  simp [hvalue]

theorem filter_of_vacant {text : Option String} (h : Vacant text) :
    text.filter (· ≠ "") = none := by
  cases text with
  | none => rfl
  | some value => simp [h value rfl]

theorem vacant_or_filled (text : Option String) : Vacant text ∨ ∃ value, Filled text value := by
  cases text with
  | none => exact Or.inl nofun
  | some value =>
      by_cases hvalue : value = ""
      · exact Or.inl fun _ h => (Option.some.inj h).symm.trans hvalue
      · exact Or.inr ⟨value, rfl, hvalue⟩

/-- What comes of a request for tokens yields a grant, or a fault. -/
inductive Yields : Outcome → Except Fault Grant → Prop
  | granted {status : Nat} {body : List UInt8} {answer : TokenAnswer} {token : String}
      (hstatus : 200 ≤ status ∧ status < 300) (hbody : Says body answer)
      (herror : Vacant answer.error) (htoken : Filled answer.accessToken token) :
      Yields (.answered status (some body))
        (.ok ⟨token, answer.refreshToken.filter (· ≠ ""), answer.expiresIn⟩)
  | provider {status : Nat} {body : List UInt8} {answer : TokenAnswer} {error : String}
      (hstatus : 200 ≤ status ∧ status < 300) (hbody : Says body answer)
      (herror : Filled answer.error error) :
      Yields (.answered status (some body)) (.error (.signIn (.provider error
        ((answer.errorDescription.filter (· ≠ "")).getD error))))
  | tokenless {status : Nat} {body : List UInt8} {answer : TokenAnswer}
      (hstatus : 200 ≤ status ∧ status < 300) (hbody : Says body answer)
      (herror : Vacant answer.error) (htoken : Vacant answer.accessToken) :
      Yields (.answered status (some body)) (.error (.signIn .missingAccessToken))
  | blank {status : Nat} {body : List UInt8} (hstatus : 200 ≤ status ∧ status < 300)
      (hblank : Text.isBlankText (bodyText body) = true) :
      Yields (.answered status (some body)) (.error (.signIn .missingAccessToken))
  | malformed {status : Nat} {body : List UInt8} {cause : Json.Cause}
      (hstatus : 200 ≤ status ∧ status < 300)
      (hfilled : Text.isBlankText (bodyText body) = false)
      (hcause : Json.decodeText TokenAnswer.record.codec.read (bodyText body).toList =
        .error cause) :
      Yields (.answered status (some body)) (.error (.json cause))
  | unreadable {status : Nat} (hstatus : 200 ≤ status ∧ status < 300) :
      Yields (.answered status none) (.error (.transport .brokenBody))
  | refused {status : Nat} {body : Option (List UInt8)}
      (hstatus : ¬(200 ≤ status ∧ status < 300)) :
      Yields (.answered status body)
        (.error (.signIn (.exchangeRefused status ((body.map bodyText).getD ""))))
  | failed {fault : TransportFault} : Yields (.failed fault) (.error (.transport fault))
  /-- An HTTP client that the caller has chosen stops waiting. -/
  | unanswered : Yields .unanswered (.error (.transport .brokenBody))

theorem isSuccess_iff (status : Nat) : isSuccess status = true ↔ 200 ≤ status ∧ status < 300 := by
  rw [isSuccess, Bool.and_eq_true, decide_eq_true_eq, decide_eq_true_eq]

theorem ofText_of_blank {text : String} (h : Text.isBlankText text = true) :
    Grant.ofText text = .error (.signIn .missingAccessToken) := by
  rw [Grant.ofText, if_pos h]
  rfl

theorem ofText_of_filled {text : String} (h : Text.isBlankText text = false) :
    Grant.ofText text =
      match Json.decodeText TokenAnswer.record.codec.read text.toList with
      | .ok answer => (Grant.ofAnswer answer).mapError Fault.signIn
      | .error cause => .error (.json cause) := by
  rw [Grant.ofText, if_neg (by rw [h]; exact Bool.false_ne_true)]
  cases Json.decodeText TokenAnswer.record.codec.read text.toList <;> rfl

theorem Says.ofText {body : List UInt8} {answer : TokenAnswer} (h : Says body answer) :
    Grant.ofText (bodyText body) = (Grant.ofAnswer answer).mapError Fault.signIn := by
  rw [ofText_of_filled h.filled, h.spelled]

theorem ofAnswer_of_error {answer : TokenAnswer} {error : String}
    (h : Filled answer.error error) :
    Grant.ofAnswer answer =
      .error (.provider error ((answer.errorDescription.filter (· ≠ "")).getD error)) := by
  rw [Grant.ofAnswer, filter_of_filled h]

theorem ofAnswer_of_token {answer : TokenAnswer} {token : String} (herror : Vacant answer.error)
    (htoken : Filled answer.accessToken token) :
    Grant.ofAnswer answer =
      .ok ⟨token, answer.refreshToken.filter (· ≠ ""), answer.expiresIn⟩ := by
  rw [Grant.ofAnswer, filter_of_vacant herror, filter_of_filled htoken]

theorem ofAnswer_of_tokenless {answer : TokenAnswer} (herror : Vacant answer.error)
    (htoken : Vacant answer.accessToken) :
    Grant.ofAnswer answer = .error .missingAccessToken := by
  rw [Grant.ofAnswer, filter_of_vacant herror, filter_of_vacant htoken]

theorem ofOutcome_of_success {status : Nat} (h : 200 ≤ status ∧ status < 300)
    (body : List UInt8) :
    Grant.ofOutcome (.answered status (some body)) = Grant.ofText (bodyText body) := by
  rw [Grant.ofOutcome, if_pos ((isSuccess_iff status).mpr h)]

theorem ofOutcome_of_refused {status : Nat} (h : ¬(200 ≤ status ∧ status < 300))
    (body : Option (List UInt8)) :
    Grant.ofOutcome (.answered status body) =
      .error (.signIn (.exchangeRefused status ((body.map bodyText).getD ""))) :=
  if_neg (mt (isSuccess_iff status).mp h)

theorem Yields.eq_ofOutcome {outcome : Outcome} {yielded : Except Fault Grant}
    (h : Yields outcome yielded) : yielded = Grant.ofOutcome outcome := by
  cases h with
  | granted hstatus hbody herror htoken =>
      rw [ofOutcome_of_success hstatus, hbody.ofText, ofAnswer_of_token herror htoken]
      rfl
  | provider hstatus hbody herror =>
      rw [ofOutcome_of_success hstatus, hbody.ofText, ofAnswer_of_error herror]
      rfl
  | tokenless hstatus hbody herror htoken =>
      rw [ofOutcome_of_success hstatus, hbody.ofText, ofAnswer_of_tokenless herror htoken]
      rfl
  | blank hstatus hblank => rw [ofOutcome_of_success hstatus, ofText_of_blank hblank]
  | malformed hstatus hfilled hcause =>
      rw [ofOutcome_of_success hstatus, ofText_of_filled hfilled, hcause]
  | unreadable hstatus => rw [Grant.ofOutcome, if_pos ((isSuccess_iff _).mpr hstatus)]
  | refused hstatus => rw [ofOutcome_of_refused hstatus]
  | failed => rfl
  | unanswered => rfl

theorem yields_answer {status : Nat} (hstatus : 200 ≤ status ∧ status < 300) {body : List UInt8}
    {answer : TokenAnswer} (hbody : Says body answer) :
    ∃ yielded, Yields (.answered status (some body)) yielded := by
  rcases vacant_or_filled answer.error with herror | ⟨error, herror⟩
  · rcases vacant_or_filled answer.accessToken with htoken | ⟨token, htoken⟩
    · exact ⟨_, .tokenless hstatus hbody herror htoken⟩
    · exact ⟨_, .granted hstatus hbody herror htoken⟩
  · exact ⟨_, .provider hstatus hbody herror⟩

theorem yields_body {status : Nat} (hstatus : 200 ≤ status ∧ status < 300) (body : List UInt8) :
    ∃ yielded, Yields (.answered status (some body)) yielded := by
  cases hblank : Text.isBlankText (bodyText body) with
  | true => exact ⟨_, .blank hstatus hblank⟩
  | false =>
      cases hdecode : Json.decodeText TokenAnswer.record.codec.read (bodyText body).toList with
      | error cause => exact ⟨_, .malformed hstatus hblank hdecode⟩
      | ok answer => exact yields_answer hstatus ⟨hblank, hdecode⟩

theorem exists_yields (outcome : Outcome) : ∃ yielded, Yields outcome yielded := by
  cases outcome with
  | failed fault => exact ⟨_, .failed⟩
  | unanswered => exact ⟨_, .unanswered⟩
  | answered status body =>
      by_cases hstatus : 200 ≤ status ∧ status < 300
      · cases body with
        | none => exact ⟨_, .unreadable hstatus⟩
        | some body => exact yields_body hstatus body
      · exact ⟨_, .refused hstatus⟩

/-- Every outcome yields one grant or fault, and no other. -/
theorem yields_iff (outcome : Outcome) (yielded : Except Fault Grant) :
    Yields outcome yielded ↔ yielded = Grant.ofOutcome outcome := by
  constructor
  · exact Yields.eq_ofOutcome
  · rintro rfl
    obtain ⟨yielded, h⟩ := exists_yields outcome
    rwa [← h.eq_ofOutcome]

theorem yields_ok_iff (outcome : Outcome) (grant : Grant) :
    Yields outcome (.ok grant) ↔ (Grant.ofOutcome outcome).toOption = some grant := by
  rw [yields_iff]
  cases Grant.ofOutcome outcome with
  | ok other => simp [Except.toOption, eq_comm]
  | error fault => simp [Except.toOption]

theorem Yields.unique {outcome : Outcome} {first second : Except Fault Grant}
    (h : Yields outcome first) (h' : Yields outcome second) : first = second :=
  h.eq_ofOutcome.trans h'.eq_ofOutcome.symm

/-- What a request yields is its result. -/
theorem Yields.exists_runFrom_requestGrant {σ : Type} {app : Application}
    {form : List (String × String)} {w : World σ} {yielded : Except Fault Grant}
    (h : Yields (w.network.outcome (tokenRequest app form)) yielded) :
    ∃ network attempt, (requestGrant app form).runFrom w =
        (yielded, { w with attempts := w.attempts ++ [attempt], network := network }) ∧
      attempt.request = tokenRequest app form := by
  rw [h.eq_ofOutcome]
  exact SignIn.exists_runFrom_requestGrant app form w

end BillingAccess.SignIn
