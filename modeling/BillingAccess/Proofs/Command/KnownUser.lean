/-
For whom the billing commands act.

A command that asks about a user finds out who that is before it makes a
client, and the client before it asks.  The user is the one that is named, or
else the subject of a token that the session still holds; a token of the
settings is shown to the interface, and it names nobody.  So without a user no
question leaves the program, and the one question that may leave it is about
that user.
-/
import BillingAccess.Command.Run
import BillingAccess.Proofs.Client.Parameters
import BillingAccess.Proofs.Command.Steps

namespace BillingAccess.Command

open BillingAccess.Action BillingAccess.Billing SignIn

/-- The user for whom a command acts: the one that is named, or else the subject
of the token that the session holds and that has not expired.  An empty name
names nobody, and an empty subject is none. -/
inductive ActsFor (named : Option String) (slots : Slots) (now : Int64) : String → Prop
  | named {user : String} (hnamed : named = some user) (hfilled : user ≠ "") :
      ActsFor named slots now user
  | signedIn {token : String} {identity : Identity} (hunnamed : named = none ∨ named = some "")
      (htoken : Session.storedToken slots now = some token)
      (hidentity : Identity.ofToken? token = some identity)
      (hsubject : identity.subject ≠ "") : ActsFor named slots now identity.subject

section

variable {named : Option String} {w : World Vault} {user : String}

theorem run_currentUser_vault (w : World Vault) :
    (currentUser.run w).1 =
      (Session.storedToken w.store.readable w.now).bind Identity.ofToken? := by
  have htoken : (SignIn.accessToken.run w).1 = Session.storedToken w.store.readable w.now := by
    rw [SignIn.accessToken, run_bind, World.run_readClock]
    exact congrArg Prod.fst (Session.run_accessToken_vault w.now w.store)
  rw [← htoken]
  rfl

theorem filter_eq_none_of_unnamed (h : named = none ∨ named = some "") :
    named.filter (· ≠ "") = none := by
  rcases h with rfl | rfl <;> rfl

theorem resolveUser_of_actsFor (h : ActsFor named w.store.readable w.now user) :
    ((resolveUser named).runFrom w).1 = .ok user := by
  rw [resolveUser]
  cases h with
  | named hnamed hfilled =>
      rw [hnamed, Option.filter_some_pos (by simpa using hfilled)]
      rfl
  | @signedIn token identity hunnamed htoken hidentity hsubject =>
      have hcurrent := run_currentUser_vault w
      rw [htoken, Option.bind_some, hidentity] at hcurrent
      rw [filter_eq_none_of_unnamed hunnamed, runFrom_bind, runFrom_always, hcurrent]
      simp only [Option.map_some]
      rw [Option.filter_some_pos (by simpa using hsubject)]
      rfl

theorem resolveUser_of_nobody (h : ∀ user, ¬ActsFor named w.store.readable w.now user) :
    ((resolveUser named).runFrom w).1 = .error (.settings .noUser) := by
  have hunnamed : named = none ∨ named = some "" := by
    cases named with
    | none => exact .inl rfl
    | some user =>
        exact .inr (congrArg some (of_not_not fun hfilled => h user (.named rfl hfilled)))
  have hsubject : ((currentUser.run w).1.map Identity.subject).filter (· ≠ "") = none := by
    rw [run_currentUser_vault, Option.filter_eq_none_iff]
    intro subject hsubject hfilled
    obtain ⟨identity, hcurrent, rfl⟩ := Option.map_eq_some_iff.mp hsubject
    obtain ⟨token, htoken, hidentity⟩ := Option.bind_eq_some_iff.mp hcurrent
    exact h _ (.signedIn hunnamed htoken hidentity (by simpa using hfilled))
  rw [resolveUser, filter_eq_none_of_unnamed hunnamed]
  simp only [runFrom_bind, runFrom_always, hsubject]
  rfl

theorem resolveUser_silent (named : Option String) :
    Keeps (Silent Eq) (resolveUser (σ := Vault) named) := by
  rw [resolveUser]
  cases named.filter (· ≠ "") with
  | some user => exact Keeps.pure user
  | none =>
      refine Keeps.bind (currentUser_silent Session.read_keeps_vault) fun identity => ?_
      cases (identity.map Identity.subject).filter (· ≠ "") with
      | some subject => exact Keeps.pure subject
      | none => exact Keeps.throw _

theorem client_silent (settings : Settings) :
    Keeps (Silent Eq) (settings.client (σ := Vault)) := by
  rw [Settings.client]
  cases settings.commerce.token with
  | some token => exact Keeps.ofExcept _
  | none =>
      refine Keeps.bind readClock_silent fun now => ?_
      refine Keeps.bind (readStore_silent ?_) fun token => Keeps.ofExcept _
      exact Session.accessToken_keeps Session.read_keeps_vault now

variable {setting : Setting} {vault : Vault}

/-- Opening the session, finding the user and making a client ask nothing. -/
theorem openFor_attempts
    (hopen : setting.settings.storage.openIn setting.environment w.store = .ok vault)
    (named : Option String) :
    ((openFor setting named).runFrom w).2.attempts = w.attempts := by
  have hsilent : Keeps (Silent Eq) (resolveUser named >>= fun user =>
      setting.settings.client >>= fun client => pure (user, client) : Step _) :=
    Keeps.bind (resolveUser_silent named) fun user =>
      Keeps.bind (client_silent setting.settings) fun client => Keeps.pure _
  rw [openFor, runFrom_bind_of_ok (runFrom_openSession hopen)]
  exact (hsilent { w with store := vault }).attempts

theorem openFor_of_nobody
    (hopen : setting.settings.storage.openIn setting.environment w.store = .ok vault)
    (h : ∀ user, ¬ActsFor named vault.readable w.now user) :
    ((openFor setting named).runFrom w).1 = .error (.settings .noUser) := by
  have hnobody := resolveUser_of_nobody (w := { w with store := vault }) h
  rw [openFor, runFrom_bind_of_ok (runFrom_openSession hopen)]
  exact congrArg Prod.fst (runFrom_bind_of_error (Prod.ext hnobody rfl))

theorem user_of_openFor
    (hopen : setting.settings.storage.openIn setting.environment w.store = .ok vault)
    (h : ActsFor named vault.readable w.now user) {found : String × Client} {w' : World Vault}
    (hfound : (openFor setting named).runFrom w = (.ok found, w')) : found.1 = user := by
  rw [openFor, runFrom_bind_of_ok (runFrom_openSession hopen)] at hfound
  obtain ⟨other, w₁, hresolved, hclient⟩ := exists_of_runFrom_bind hfound
  obtain ⟨client, w₂, -, hpair⟩ := exists_of_runFrom_bind hclient
  obtain rfl := Except.ok.inj (congrArg Prod.fst hpair)
  have huser := resolveUser_of_actsFor (w := { w with store := vault }) h
  rw [hresolved] at huser
  exact Except.ok.inj huser

end

/-- What a command asks about a user. -/
inductive Question
  | balance (currency : String)
  | subscriptions
  | transactions (query : TransactionQuery)
  | usage
  | invoices (page : Page)

namespace Question

/-- The command that asks it. -/
def command (question : Question) (named : Option String) (json : Bool) : Command :=
  match question with
  | balance currency => .balance named currency json
  | subscriptions => .subscriptions named json
  | transactions query => .transactions named query json
  | usage => .usage named json
  | invoices page => .invoices named page json

/-- Where the answer is looked for. -/
def endpoint (question : Question) (user : String) : Endpoint :=
  match question with
  | balance currency => .balance user currency
  | subscriptions => .userSubscriptions user
  | transactions query => .transactions user query
  | usage => .usage user
  | invoices page => .invoices user page

/-- The name under which the user is sent. -/
def parameter : Question → String
  | subscriptions => "userId"
  | balance _ | transactions _ | usage | invoices _ => "user"

theorem method_call (question : Question) (user : String) :
    (question.endpoint user).call.method = .get := by
  cases question <;> simp [endpoint, Endpoint.call, Call.get]

/-- No parameter with another name counts. -/
theorem filter_eq_nil {pairs : List (String × String)} {name other : String}
    (hnames : (pairs.map Prod.fst).Sublist [name]) (hother : name ≠ other) :
    pairs.filter (·.1 == other) = [] := by
  refine List.filter_eq_nil_iff.mpr fun pair hpair hsame => ?_
  have hname := List.mem_singleton.mp (hnames.subset (List.mem_map_of_mem hpair))
  exact hother (hname.symm.trans (beq_iff_eq.mp hsame))

/-- The user is sent once under that name. -/
theorem parameters_about (question : Question) (user : String) :
    (question.endpoint user).parameters.filter (·.1 == question.parameter) =
      [(question.parameter, user)] := by
  have hcount (name : String) (hname : name ≠ "user") (count : Option UInt32) :
      (Endpoint.countParameter name count).filter (·.1 == "user") = [] :=
    filter_eq_nil (Endpoint.countParameter_names name count) hname
  have htext (name : String) (hname : name ≠ "user") (text : Option String) :
      (Endpoint.textParameter name text).filter (·.1 == "user") = [] :=
    filter_eq_nil (Endpoint.textParameter_names name text) hname
  cases question with
  | transactions query => simp [endpoint, parameter, Endpoint.parameters, hcount, htext]
  | invoices page => simp [endpoint, parameter, Endpoint.parameters, hcount]
  | balance _ | subscriptions | usage => rfl

theorem attempts_bind_silent {α β : Type} {ask : Step α} {next : α → Step β}
    (h : ∀ a, Keeps (Silent Eq) (next a)) (w : World Vault) :
    ((ask >>= next).runFrom w).2.attempts = (ask.run.run w).2.attempts := by
  rcases hask : ask.runFrom w with ⟨fault | a, w'⟩
  · rw [runFrom_bind_of_error hask]
    exact congrArg (·.2.attempts) hask.symm
  · rw [runFrom_bind_of_ok hask, (h a w').attempts]
    exact congrArg (·.2.attempts) hask.symm

theorem attempts_always_bind_silent {α β : Type} {ask : StateM (World Vault) α}
    {next : α → Step β} (h : ∀ a, Keeps (Silent Eq) (next a)) (w : World Vault) :
    ((always ask >>= next).runFrom w).2.attempts = (ask.run w).2.attempts :=
  attempts_bind_silent h w

/-- A command asks its question once it knows the user and has a client, and
then shows the answer. -/
theorem exists_run_eq (question : Question) (setting : Setting) (named : Option String)
    (json : Bool) : ∃ rest : String × Client → Step Unit,
      run setting (question.command named json) = openFor setting named >>= rest ∧
      ∀ user client w, ((rest (user, client)).runFrom w).2.attempts =
        (client.worldAfter w (question.endpoint user)).attempts := by
  cases question with
  | balance currency =>
      refine ⟨_, rfl, fun user client w => ?_⟩
      dsimp only [endpoint, Client.worldAfter]
      rw [attempts_bind_silent]
      exact fun _ => present_silent json _ _
  | subscriptions =>
      refine ⟨_, rfl, fun user client w => ?_⟩
      dsimp only [endpoint, Client.worldAfter]
      rw [attempts_always_bind_silent]
      exact fun _ => presentList_silent json _ _ _ _
  | transactions query =>
      refine ⟨_, rfl, fun user client w => ?_⟩
      dsimp only [endpoint, Client.worldAfter]
      rw [attempts_bind_silent]
      exact fun _ => presentList_silent json _ _ _ _
  | usage =>
      refine ⟨_, rfl, fun user client w => ?_⟩
      dsimp only [endpoint, Client.worldAfter]
      rw [attempts_always_bind_silent]
      exact fun _ => present_silent json _ _
  | invoices page =>
      refine ⟨_, rfl, fun user client w => ?_⟩
      dsimp only [endpoint, Client.worldAfter]
      rw [attempts_always_bind_silent]
      exact fun _ => presentList_silent json _ _ _ _

end Question

/-- The request is a GET, and one of its parameters has the name and names the
user; no other has the name. -/
structure AsksAbout (parameter user : String) (request : Request) : Prop where
  method : request.method = .get
  query : ∃ url, request.address = .ok url ∧
    url.queryPairs.filter (·.1 == parameter) = [(parameter, user)]

theorem asksAbout_requestOf {client : Client} {question : Question} {user : String} {url : Url}
    (h : client.resolve (question.endpoint user).call = .ok url) :
    AsksAbout question.parameter user (client.requestOf (question.endpoint user).call url) where
  method := question.method_call user
  query := by
    have hlink := Endpoint.fromRoot_of_mem_paths _ (question.endpoint user).call_path_mem
    have hquery := Client.says_of_resolve hlink h
    refine ⟨url, rfl, ?_⟩
    rw [hquery.said, Endpoint.call_params]
    exact question.parameters_about user

/-- A command that has nobody to act for says so and makes no request.  One that
acts for a user makes at most one, which asks about that user, whatever token
the settings have. -/
theorem acts_for_known_user (setting : Setting) (question : Question) (named : Option String)
    (json : Bool) {w : World Vault} {vault : Vault}
    (hopen : setting.settings.storage.openIn setting.environment w.store = .ok vault) :
    let outcome := (run setting (question.command named json)).runFrom w
    ((∀ user, ¬ActsFor named vault.readable w.now user) →
      outcome.1 = .error (.settings .noUser) ∧ outcome.2.attempts = w.attempts) ∧
    ∀ user, ActsFor named vault.readable w.now user →
      ∃ made, outcome.2.attempts = w.attempts ++ made ∧ made.length ≤ 1 ∧
        ∀ attempt ∈ made, AsksAbout question.parameter user attempt.request := by
  intro outcome
  obtain ⟨rest, hrun, hrest⟩ := question.exists_run_eq setting named json
  have hbefore := openFor_attempts hopen named
  have houtcome : outcome = (openFor setting named >>= rest).runFrom w := by
    rw [← hrun]
  constructor
  · intro hnobody
    have hfault := openFor_of_nobody hopen hnobody
    rw [houtcome, runFrom_bind_of_error (Prod.ext hfault rfl)]
    exact ⟨rfl, hbefore⟩
  · intro user huser
    rcases hfound : (openFor setting named).runFrom w with ⟨fault | ⟨found, client⟩, w'⟩ <;>
      rw [hfound] at hbefore
    · rw [houtcome, runFrom_bind_of_error hfound]
      refine ⟨[], ?_, Nat.zero_le 1, fun _ hmem => absurd hmem List.not_mem_nil⟩
      rw [List.append_nil, hbefore]
    · obtain rfl : found = user := user_of_openFor hopen huser hfound
      obtain ⟨made, hattempts, hlength, hmade⟩ :=
        (client.worldAfter_askedOnce (question.endpoint found) w').exists_made
      rw [houtcome, runFrom_bind_of_ok hfound]
      refine ⟨made, ?_, hlength, fun attempt hattempt => ?_⟩
      · rw [hrest, hattempts, hbefore]
      · obtain ⟨url, hresolve, hrequest⟩ := hmade attempt hattempt
        rw [hrequest]
        exact asksAbout_requestOf hresolve

example : (Fault.settings .noUser).message =
    "Configuration error: Not logged in. Run `hanzo-commerce login` or pass --user" :=
  rfl

/-- A keyring with a session: the token of a user, which expires at 60. -/
def userKeyring : Keyring where
  secrets := [
    ⟨Keyring.defaultService, Slot.accessToken.key,
      "h.eyJzdWIiOiJ1MSIsImVtYWlsIjoiYUBiLmMifQ.s"⟩,
    ⟨Keyring.defaultService, Slot.expiresAt.key, "60"⟩]

def keyringWorld (now : Int64) : World Vault where
  store := { keyring := userKeyring }
  now := now
  random := { byte := fun _ => 0 }
  network := { reply := fun _ => .silence }

/-- With a token in the settings the command still acts for the user of the
session, and for nobody once that has expired. -/
theorem session_user_asked_about :
    let setting : Setting := { settings := {
      commerce := { baseUrl := "http://api.test", token := some "fixed" }
      storage := { backend := "keyring" } } }
    let command := Question.subscriptions.command (some "") true
    (∃ attempt, ((run setting command).runFrom (keyringWorld 59)).2.attempts = [attempt] ∧
      AsksAbout "userId" "u1" attempt.request) ∧
    ((run setting command).runFrom (keyringWorld 60)).1 = .error (.settings .noUser) ∧
    ((run setting command).runFrom (keyringWorld 60)).2.attempts = [] := by
  intro setting command
  let vault : Vault := ⟨.keyring Keyring.defaultService, {}, userKeyring⟩
  have hopen (now : Int64) : setting.settings.storage.openIn setting.environment
      (keyringWorld now).store = .ok vault :=
    rfl
  constructor
  · have hidentity : Identity.ofToken? "h.eyJzdWIiOiJ1MSIsImVtYWlsIjoiYUBiLmMifQ.s" =
        some ⟨"a@b.c", none, none, "u1"⟩ := by
      decide +kernel
    have htoken : Session.storedToken vault.readable 59 =
        some "h.eyJzdWIiOiJ1MSIsImVtYWlsIjoiYUBiLmMifQ.s" := by
      decide +kernel
    have huser : ActsFor (some "") vault.readable 59 "u1" :=
      .signedIn (.inr rfl) htoken hidentity (by decide)
    obtain ⟨made, hattempts, -, hmade⟩ :=
      (acts_for_known_user setting .subscriptions (some "") true (hopen 59)).2 "u1" huser
    have hone : ((run setting command).runFrom (keyringWorld 59)).2.attempts.length = 1 := by
      decide +kernel
    obtain ⟨attempt, hattempt⟩ := List.length_eq_one_iff.mp hone
    refine ⟨attempt, hattempt, hmade attempt ?_⟩
    have hmem : attempt ∈ [] ++ made :=
      hattempts ▸ hattempt ▸ List.mem_singleton_self attempt
    exact hmem
  · refine (acts_for_known_user setting .subscriptions (some "") true (hopen 60)).1 ?_
    intro user huser
    cases huser with
    | named hnamed hfilled => exact hfilled (Option.some.inj hnamed).symm
    | signedIn _ htoken _ _ =>
        have hexpired : Session.storedToken vault.readable 60 = none := by decide +kernel
        cases hexpired.symm.trans htoken

end BillingAccess.Command
