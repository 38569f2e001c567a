/-
Where a sign-in stands after a course of operations.

What comes of each operation says where the sign-in stands after it, whatever
the store does, with one exception: a refresh whose tokens are granted but
cannot be kept fails and leaves the sign-in where it stood.
-/
import BillingAccess.Proofs.SignIn.Delivery

namespace BillingAccess.SignIn

open BillingAccess.Action Session

variable {σ α β : Type}

/-- The sign-in stands where it stood, and nothing has been heard. -/
structure Still (w w' : World σ) : Prop where
  stage : w'.stage = w.stage
  network : w'.network = w.network

instance : Std.Refl (Still (σ := σ)) := ⟨fun _ => ⟨rfl, rfl⟩⟩

instance : IsTrans (World σ) Still :=
  ⟨fun _ _ _ h h' => ⟨h'.stage.trans h.stage, h'.network.trans h.network⟩⟩

theorem onStore_still (action : Action σ α) : Keeps Still (World.onStore action) :=
  fun _ => ⟨rfl, rfl⟩

theorem readStore_still (reading : StateM σ α) : Keeps Still (always (World.readStore reading)) :=
  fun _ => ⟨rfl, rfl⟩

theorem readClock_still : Keeps Still (always (World.readClock (σ := σ))) := by
  intro w
  rw [runFrom_always, World.run_readClock]
  exact ⟨rfl, rfl⟩

/-- A request leaves the stage as it is, whatever is heard. -/
theorem requestGrant_stage (app : Application) (form : List (String × String)) (w : World σ) :
    ((requestGrant app form).runFrom w).2.stage = w.stage := by
  obtain ⟨network, attempt, hrun, -⟩ := exists_runFrom_requestGrant app form w
  rw [hrun]

/-- The action leads to the stage if it succeeds, and else leaves it as it was. -/
def Reaches (stage : Stage) (action : Action (World σ) α) : Prop :=
  ∀ w, (action.runFrom w).2.stage = if (action.runFrom w).1.isOk then stage else w.stage

namespace Reaches

variable {stage : Stage}

theorem bind {first : Action (World σ) α} {next : α → Action (World σ) β}
    (hfirst : Keeps Still first) (hnext : ∀ a, Reaches stage (next a)) :
    Reaches stage (first >>= next) := by
  intro w
  have hstill := hfirst w
  rcases h : first.runFrom w with ⟨fault | a, w'⟩ <;> rw [h] at hstill
  · rw [runFrom_bind_of_error h]
    exact hstill.stage
  · rw [runFrom_bind_of_ok h, hnext a w', hstill.stage]

theorem setStage : Reaches stage (always (World.setStage (σ := σ) stage)) :=
  fun _ => rfl

/-- What cannot fail may follow. -/
theorem andThen {first : Action (World σ) α} {next : α → Action (World σ) β}
    (hfirst : Reaches stage first) (hnext : ∀ a, Keeps Still (next a))
    (hok : ∀ a w, ((next a).runFrom w).1.isOk) : Reaches stage (first >>= next) := by
  intro w
  have hreached := hfirst w
  rcases h : first.runFrom w with ⟨fault | a, w'⟩ <;> rw [h] at hreached
  · rw [runFrom_bind_of_error h]
    exact hreached
  · rw [runFrom_bind_of_ok h, (hnext a w').stage, hreached, if_pos (hok a w')]
    rfl

end Reaches

variable [TokenStore σ]

theorem storeGrant_still (grant : Grant) : Keeps Still (storeGrant (σ := σ) grant) :=
  Keeps.bind readClock_still fun _ => onStore_still _

theorem currentUser_still : Keeps Still (always (currentUser (σ := σ))) := by
  rw [currentUser, SignIn.accessToken, bind_assoc, always_bind]
  refine Keeps.bind readClock_still fun now => ?_
  rw [always_bind]
  exact Keeps.bind (readStore_still _) fun _ => Keeps.pure _

theorem accessToken_still : Keeps Still (always (SignIn.accessToken (σ := σ))) := by
  rw [SignIn.accessToken, always_bind]
  exact Keeps.bind readClock_still fun _ => readStore_still _

theorem start_reaches (app : Application) : Reaches .authorizing (start (σ := σ) app) := by
  refine Reaches.bind (fun _ => ⟨rfl, rfl⟩) fun pkce => ?_
  refine Reaches.bind (onStore_still _) fun _ => ?_
  refine Reaches.bind (Keeps.ofExcept _) fun url => ?_
  exact Reaches.setStage.andThen (fun _ => Keeps.pure _) fun _ _ => rfl

theorem logout_reaches : Reaches .idle (logout (σ := σ)) :=
  Reaches.bind (onStore_still _) fun _ => Reaches.setStage

/-- A callback ends in success or in failure. -/
theorem handleCallback_stage (app : Application) (url : Url) (w : World σ) :
    ((handleCallback app url).runFrom w).2.stage =
      if ((handleCallback app url).runFrom w).1.isOk then .authenticated else .failed := by
  rw [runFrom_handleCallback]
  cases ((processCallback app (Callback.ofUrl url)).runFrom
    { w with stage := .callbackPending }).1 with
  | ok user => rfl
  | error fault => rfl

/-- Without a refresh token nothing is asked for. -/
theorem runFrom_refresh_of_none (app : Application) {w : World σ}
    (h : (refreshToken.run w.store).1 = none) :
    ((refresh app).runFrom w).1 = .error (.signIn .missingRefreshToken) ∧
      Still w ((refresh app).runFrom w).2 := by
  have hread := runFrom_always (World.readStore (refreshToken (σ := σ))) w
  have hnone : ((World.readStore (refreshToken (σ := σ))).run w).1 = none := h
  rw [hnone] at hread
  rw [refresh, runFrom_bind_of_ok hread]
  exact ⟨rfl, readStore_still (refreshToken (σ := σ)) w⟩

/-- A refresh that is granted nothing ends in failure, and one whose tokens
cannot be kept leaves the stage. -/
theorem refresh_stage (app : Application) {w : World σ} {token : String}
    (h : (refreshToken.run w.store).1 = some token) :
    ((refresh app).runFrom w).2.stage =
      if ((refresh app).runFrom w).1.isOk then .authenticated
      else if (granted w ((refresh app).runFrom w).2).isSome then w.stage
      else .failed := by
  obtain ⟨first, hfirst⟩ :
      ∃ first, ((World.readStore (refreshToken (σ := σ))).run w).2 = first := ⟨_, rfl⟩
  have hread := runFrom_always (World.readStore (refreshToken (σ := σ))) w
  have hsome : ((World.readStore (refreshToken (σ := σ))).run w).1 = some token := h
  have hstill := readStore_still (refreshToken (σ := σ)) w
  rw [hread, hfirst] at hstill
  rw [hsome, hfirst] at hread
  obtain ⟨outcome, sent, attempt, hrun, hsent⟩ :=
    exists_requested app (refreshForm app token) first
  have hstage := requestGrant_stage app (refreshForm app token) first
  rw [hrun] at hstage
  -- What was granted is in the answer; nothing is heard after it.
  have hheard : ∀ later : World σ, later.network = sent.network →
      granted w later = (Grant.ofOutcome outcome).toOption := by
    intro later hnetwork
    rw [granted, ← hstill.network, hnetwork]
    exact hsent.granted.symm
  rw [refresh, runFrom_bind_of_ok hread]
  simp only [runFrom_bind_of_ok (runFrom_outcome _ _), hrun]
  cases hgrant : Grant.ofOutcome outcome with
  | error fault =>
      have hnone := hheard ((World.setStage .failed).run sent).2 rfl
      rw [hgrant] at hnone
      rw [runFrom_bind_of_ok (runFrom_always _ sent)]
      change Stage.failed =
        if (granted w ((World.setStage .failed).run sent).2).isSome then _ else _
      rw [hnone]
      rfl
  | ok grant =>
      have hstored := storeGrant_still grant sent
      simp only
      rcases hstore : (storeGrant grant).runFrom sent with ⟨fault | _, stored⟩ <;>
        rw [hstore] at hstored
      · have hgranted := hheard stored hstored.network
        rw [hgrant] at hgranted
        rw [runFrom_bind_of_error hstore, hgranted]
        exact hstored.stage.trans (hstage.trans hstill.stage)
      · rw [runFrom_bind_of_ok hstore, runFrom_bind_of_ok (runFrom_always _ stored)]
        exact (currentUser_still _).stage

/-- The world that a course leads to. -/
def worldAfter (app : Application) : World σ → List Operation → World σ
  | w, [] => w
  | w, operation :: rest => worldAfter app (operation.event app w).after rest

namespace Event

/-- A refresh token can be read when the operation begins. -/
def canRefresh (event : Event σ) : Bool :=
  (refreshToken.run event.before.store).1.isSome

/-- Where a sign-in stands after an operation, if its result alone decides. -/
def outcomeStage (event : Event σ) (stage : Stage) : Stage :=
  match event.operation with
  | .start => if event.result.isOk then .authorizing else stage
  | .callback _ => if event.result.isOk then .authenticated else .failed
  | .refresh =>
      if event.canRefresh then if event.result.isOk then .authenticated else .failed else stage
  | .logout => if event.result.isOk then .idle else stage
  | .currentUser | .accessToken => stage

/-- A refresh has failed although it was granted tokens: they could not be kept. -/
def losesGrant (event : Event σ) : Bool :=
  event.operation = .refresh ∧ event.result.isOk = false ∧
    (granted event.before event.after).isSome

/-- Where a sign-in stands after an operation. -/
def stageAfter (event : Event σ) (stage : Stage) : Stage :=
  if event.losesGrant then stage else event.outcomeStage stage

end Event

theorem refresh_event_stage (app : Application) (w : World σ) :
    (Operation.refresh.event app w).after.stage =
      (Operation.refresh.event app w).stageAfter w.stage := by
  rw [Event.stageAfter, Event.losesGrant, Event.outcomeStage, Event.canRefresh]
  simp only [Operation.event, Operation.act, runFrom_map, isOk_map, true_and]
  cases hheld : (refreshToken.run w.store).1 with
  | none =>
      obtain ⟨-, hstill⟩ := runFrom_refresh_of_none app hheld
      rw [granted_of_network hstill.network, hstill.stage]
      simp
  | some token =>
      rw [refresh_stage app hheld]
      cases ((refresh app).runFrom w).1.isOk <;>
        cases (granted w ((refresh app).runFrom w).2).isSome <;> rfl

/-- After each operation a sign-in stands where its outcome says. -/
theorem event_stage (app : Application) (operation : Operation) (w : World σ) :
    (operation.event app w).after.stage = (operation.event app w).stageAfter w.stage := by
  by_cases hrefresh : operation = .refresh
  · subst hrefresh
    exact refresh_event_stage app w
  · have hkept : (operation.event app w).losesGrant = false := by
      rw [Event.losesGrant, decide_eq_false]
      exact fun hloses => hrefresh hloses.1
    rw [Event.stageAfter, hkept, if_neg Bool.false_ne_true, Event.outcomeStage]
    simp only [Operation.event, Operation.act]
    cases operation with
    | refresh => contradiction
    | start =>
        simp only [runFrom_map, isOk_map]
        exact start_reaches app w
    | callback url =>
        simp only [runFrom_map, isOk_map]
        exact handleCallback_stage app url w
    | logout =>
        simp only [runFrom_map, isOk_map]
        exact logout_reaches w
    | currentUser => exact (currentUser_still.map Answer.user w).stage
    | accessToken => exact (accessToken_still.map Answer.token w).stage

/-- Nothing is lost without a refresh token that was sent. -/
theorem canRefresh_of_losesGrant (app : Application) {operation : Operation} {w : World σ}
    (h : (operation.event app w).losesGrant) : (operation.event app w).canRefresh := by
  obtain ⟨hrefresh, -, hgranted⟩ := of_decide_eq_true h
  obtain rfl : operation = .refresh := hrefresh
  simp only [Operation.event, Operation.act, runFrom_map] at hgranted
  cases hheld : (refreshToken.run w.store).1 with
  | none =>
      rw [granted_of_network (runFrom_refresh_of_none app hheld).2.network] at hgranted
      contradiction
  | some token =>
      rw [Event.canRefresh]
      exact congrArg Option.isSome hheld

/-- An operation leaves a sign-in where its result says, unless it is a refresh
that loses its grant and the sign-in had not failed before. -/
theorem event_stage_eq_outcomeStage_iff (app : Application) (operation : Operation)
    (w : World σ) :
    (operation.event app w).after.stage = (operation.event app w).outcomeStage w.stage ↔
      ((operation.event app w).losesGrant → w.stage = .failed) := by
  rw [event_stage, Event.stageAfter]
  by_cases hloses : (operation.event app w).losesGrant
  · obtain ⟨hrefresh, hfailed, -⟩ := of_decide_eq_true hloses
    rw [if_pos hloses, Event.outcomeStage, hrefresh, hfailed]
    simp [canRefresh_of_losesGrant app hloses, hloses]
  · simp [hloses]

theorem stage_worldAfter (app : Application) (w : World σ) (operations : List Operation) :
    (worldAfter app w operations).stage =
      (course app w operations).foldl (fun stage event => event.stageAfter stage) w.stage := by
  induction operations generalizing w with
  | nil => rfl
  | cons operation rest ih => rw [worldAfter, course, List.foldl_cons, ih, event_stage]

/-- At every point of a course the sign-in stands where the results so far say. -/
def FollowsOutcomes (app : Application) (w : World σ) (operations : List Operation) : Prop :=
  ∀ first, first <+: operations → (worldAfter app w first).stage =
    (course app w first).foldl (fun stage event => event.outcomeStage stage) w.stage

theorem followsOutcomes_cons (app : Application) (w : World σ) (operation : Operation)
    (rest : List Operation) :
    FollowsOutcomes app w (operation :: rest) ↔
      (operation.event app w).after.stage = (operation.event app w).outcomeStage w.stage ∧
        FollowsOutcomes app (operation.event app w).after rest := by
  constructor
  · intro h
    have hfirst : (operation.event app w).after.stage =
        (operation.event app w).outcomeStage w.stage := h [operation] (by simp)
    refine ⟨hfirst, ?_⟩
    intro first hprefix
    rw [hfirst]
    exact h (operation :: first) (List.cons_prefix_cons.mpr ⟨rfl, hprefix⟩)
  · rintro ⟨hfirst, hrest⟩ first hprefix
    cases first with
    | nil => rfl
    | cons head first =>
        obtain ⟨rfl, hrestprefix⟩ := List.cons_prefix_cons.mp hprefix
        rw [worldAfter, course, List.foldl_cons, ← hfirst]
        exact hrest first hrestprefix

theorem followsOutcomes_iff (app : Application) (w : World σ) (operations : List Operation) :
    FollowsOutcomes app w operations ↔
      ∀ event ∈ course app w operations, event.losesGrant → event.before.stage = .failed := by
  induction operations generalizing w with
  | nil =>
      constructor
      · intro _ event hevent
        contradiction
      · intro _ first hprefix
        rw [List.prefix_nil.mp hprefix]
        rfl
  | cons operation rest ih =>
      rw [followsOutcomes_cons, event_stage_eq_outcomeStage_iff, ih, course, List.forall_mem_cons]
      rfl

/-- No operation leaves a callback pending. -/
theorem stageAfter_ne_callbackPending (event : Event σ) {stage : Stage}
    (h : stage ≠ .callbackPending) : event.stageAfter stage ≠ .callbackPending := by
  rw [Event.stageAfter, Event.outcomeStage]
  repeat' split
  all_goals first | exact h | exact nofun

theorem worldAfter_ne_callbackPending (app : Application) {w : World σ}
    (h : w.stage ≠ .callbackPending) (operations : List Operation) :
    (worldAfter app w operations).stage ≠ .callbackPending := by
  induction operations generalizing w with
  | nil => exact h
  | cons operation rest ih =>
      apply ih
      rw [event_stage]
      exact stageAfter_ne_callbackPending _ h

/-- Where a sign-in stands after any course.  It follows the results of the
operations exactly while no refresh loses tokens that it was granted. -/
theorem stage_of_outcomes (app : Application) (w : World σ) (operations : List Operation) :
    (worldAfter app w operations).stage =
        (course app w operations).foldl (fun stage event => event.stageAfter stage) w.stage ∧
      (FollowsOutcomes app w operations ↔
        ∀ event ∈ course app w operations, event.losesGrant → event.before.stage = .failed) ∧
      (w.stage ≠ .callbackPending →
        (worldAfter app w operations).stage ≠ .callbackPending) :=
  ⟨stage_worldAfter app w operations, followsOutcomes_iff app w operations,
    fun h => worldAfter_ne_callbackPending app h operations⟩

/-- A user signs in with a token that comes without a code.  Then the session is
refreshed, and the expiry of the new token cannot be written: the refresh fails,
and the sign-in still stands as authenticated. -/
theorem stage_of_lost_grant :
    let app : Application := ⟨"http://iam", "web", "http://app/callback", defaultScopes⟩
    let url : Url := { scheme := "http", fragment := some "access_token=a" }
    let failure : Nat → StoreCall → Option Fault := fun n what =>
      if 4 ≤ n ∧ what = .set .expiresAt then some (.storage (.stated "full")) else none
    let w : World Unreliable :=
      { store := ⟨Slots.empty.put .refreshToken (some "r"), failure, 0⟩
        now := 0
        random := ⟨fun _ => 0, 0⟩
        network :=
          let answer := "\x7b\"access_token\":\"b\"\x7d"
          { reply := fun _ => .answer 200 (some (Utf8.ofString answer)) } }
    let operations : List Operation := [.callback url, .refresh]
    w.stage = .idle ∧ ¬ FollowsOutcomes app w operations ∧
      (course app w operations).map (fun event => event.result.isOk) = [true, false] ∧
      (worldAfter app w operations).stage = .authenticated := by
  intro app url failure w operations
  have hlast : (worldAfter app w operations).stage = .authenticated := by decide +kernel
  refine ⟨rfl, ?_, by decide +kernel, hlast⟩
  intro h
  have hfails := h operations (List.prefix_refl operations)
  rw [hlast] at hfails
  exact absurd hfails (by decide +kernel)

end BillingAccess.SignIn
