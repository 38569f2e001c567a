/-
The parameters of calls, and where they come to stand.

A parameter that is set again loses its value and its place, so of all that is
set the last of each name counts.  A link from the root leaves no query of the
base URL, and what is written into an empty query is read back, whatever the
values hold.  So each function of the interface says what its table says, and
nothing that is given to it can say more.
-/
import BillingAccess.Proofs.Client.Origin

namespace BillingAccess

open BillingAccess.Billing BillingAccess.Url

variable {σ : Type}

/-- The pairs without those whose name comes again. -/
def latest : List (String × String) → List (String × String)
  | [] => []
  | pair :: rest => if pair.1 ∈ rest.map Prod.fst then latest rest else pair :: latest rest

/-- The pair is there, and nothing behind it has its name. -/
def LastSet (settings : List (String × String)) (pair : String × String) : Prop :=
  ∃ before after, settings = before ++ pair :: after ∧ pair.1 ∉ after.map Prod.fst

/-- The last setting of one name comes before that of another. -/
def LastSetBefore (settings : List (String × String)) (first second : String × String) : Prop :=
  ∃ before after, settings = before ++ first :: after ∧ first.1 ∉ after.map Prod.fst ∧
    LastSet after second

variable {settings : List (String × String)} {pair first second : String × String}

theorem LastSet.cons (h : LastSet settings pair) (head : String × String) :
    LastSet (head :: settings) pair := by
  obtain ⟨before, after, rfl, hlast⟩ := h
  exact ⟨head :: before, after, rfl, hlast⟩

theorem LastSetBefore.cons (h : LastSetBefore settings first second) (head : String × String) :
    LastSetBefore (head :: settings) first second := by
  obtain ⟨before, after, rfl, hlast, hbehind⟩ := h
  exact ⟨head :: before, after, rfl, hlast, hbehind⟩

theorem LastSet.name_mem (h : LastSet settings pair) : pair.1 ∈ settings.map Prod.fst := by
  obtain ⟨before, after, rfl, -⟩ := h
  simp

theorem LastSetBefore.name_ne (h : LastSetBefore settings first second) :
    first.1 ≠ second.1 := by
  obtain ⟨before, after, -, hlast, hbehind⟩ := h
  intro hsame
  exact hlast (hsame ▸ hbehind.name_mem)

theorem lastSet_of_mem_latest (h : pair ∈ latest settings) : LastSet settings pair := by
  induction settings with
  | nil => cases h
  | cons head rest ih =>
      rw [latest] at h
      split at h
      case isTrue => exact (ih h).cons head
      case isFalse hlast =>
        rcases List.mem_cons.mp h with rfl | hrest
        · exact ⟨[], rest, rfl, hlast⟩
        · exact (ih hrest).cons head

theorem latest_pairwise (settings : List (String × String)) :
    (latest settings).Pairwise (LastSetBefore settings) := by
  induction settings with
  | nil => exact List.Pairwise.nil
  | cons head rest ih =>
      have hrest := ih.imp fun h => LastSetBefore.cons h head
      rw [latest]
      split
      case isTrue => exact hrest
      case isFalse hlast =>
        refine List.Pairwise.cons (fun pair hpair => ?_) hrest
        exact ⟨[], rest, rfl, hlast, lastSet_of_mem_latest hpair⟩

theorem latest_names_nodup (settings : List (String × String)) :
    ((latest settings).map Prod.fst).Nodup :=
  List.pairwise_map.mpr ((latest_pairwise settings).imp LastSetBefore.name_ne)

theorem mem_latest_names_iff {name : String} :
    name ∈ (latest settings).map Prod.fst ↔ name ∈ settings.map Prod.fst := by
  induction settings with
  | nil => rfl
  | cons head rest ih =>
      rw [latest, List.map_cons, List.mem_cons]
      split
      case isTrue hagain =>
        rw [ih, or_iff_right_of_imp]
        rintro rfl
        exact hagain
      case isFalse => rw [List.map_cons, List.mem_cons, ih]

theorem latest_eq_nil_iff : latest settings = [] ↔ settings = [] := by
  have hnames : (latest settings).map Prod.fst = [] ↔ settings.map Prod.fst = [] := by
    simp only [List.eq_nil_iff_forall_not_mem, mem_latest_names_iff]
  rwa [List.map_eq_nil_iff, List.map_eq_nil_iff] at hnames

theorem latest_of_nodup (h : (settings.map Prod.fst).Nodup) : latest settings = settings := by
  induction settings with
  | nil => rfl
  | cons head rest ih =>
      rw [List.map_cons, List.nodup_cons] at h
      rw [latest, if_neg h.1, ih h.2]

/-- What one more setting does. -/
theorem latest_concat (settings : List (String × String)) (pair : String × String) :
    latest (settings ++ [pair]) = (latest settings).filter (·.1 != pair.1) ++ [pair] := by
  induction settings with
  | nil => rfl
  | cons head rest ih =>
      have hagain_iff : head.1 ∈ (rest ++ [pair]).map Prod.fst ↔
          head.1 ∈ rest.map Prod.fst ∨ head.1 = pair.1 := by
        rw [List.map_append, List.mem_append, List.map_singleton, List.mem_singleton]
      rw [List.cons_append, latest, latest, ih]
      by_cases hagain : head.1 ∈ rest.map Prod.fst
      · rw [if_pos (hagain_iff.mpr (.inl hagain)), if_pos hagain]
      · by_cases hsame : head.1 = pair.1
        · rw [if_pos (hagain_iff.mpr (.inr hsame)), if_neg hagain,
            List.filter_cons_of_neg (by simp [hsame])]
        · rw [if_neg (hagain_iff.not.mpr (not_or.mpr ⟨hagain, hsame⟩)), if_neg hagain,
            List.filter_cons_of_pos (by simp [hsame]), List.cons_append]

namespace Call

/-- A parameter that is set, or set if there is a value for it. -/
inductive Setting
  | param (name value : String)
  | param? (name : String) (value : Option String)
deriving Repr, DecidableEq

def Setting.apply (call : Call) : Setting → Call
  | param name value => call.param name value
  | param? name value => call.param? name value

/-- What is set: one pair or none. -/
def Setting.pairs : Setting → List (String × String)
  | param name value => [(name, value)]
  | param? name value => (value.map fun value => (name, value)).toList

/-- Makes the settings one after another. -/
def setAll (call : Call) (settings : List Setting) : Call :=
  settings.foldl Setting.apply call

theorem Setting.apply_path (call : Call) (setting : Setting) :
    (setting.apply call).path = call.path := by
  cases setting with
  | param name value => rfl
  | param? name value => exact param?_path call name value

theorem Setting.apply_params {call : Call} {done : List (String × String)}
    (h : call.params = latest done) (setting : Setting) :
    (setting.apply call).params = latest (done ++ setting.pairs) := by
  have hset (name value : String) : (call.param name value).params =
      latest (done ++ [(name, value)]) := by
    rw [latest_concat, ← h]
    rfl
  cases setting with
  | param name value => exact hset name value
  | param? name value =>
      cases value with
      | none => exact h.trans (congrArg latest (List.append_nil done).symm)
      | some value => exact hset name value

theorem setAll_path (call : Call) (settings : List Setting) :
    (call.setAll settings).path = call.path := by
  induction settings generalizing call with
  | nil => rfl
  | cons setting rest ih => rw [setAll, List.foldl_cons, ← setAll, ih, setting.apply_path]

/-- Of all that is set the last of each name is left. -/
theorem setAll_params {call : Call} {done : List (String × String)} (h : call.params = latest done)
    (settings : List Setting) :
    (call.setAll settings).params = latest (done ++ settings.flatMap Setting.pairs) := by
  induction settings generalizing call done with
  | nil => exact h.trans (congrArg latest (List.append_nil done).symm)
  | cons setting rest ih =>
      rw [setAll, List.foldl_cons, ← setAll, ih (setting.apply_params h), List.append_assoc,
        List.flatMap_cons]

theorem setAll_params_of_nodup {call : Call} (h : call.params = []) {settings : List Setting}
    (hnames : ((settings.flatMap Setting.pairs).map Prod.fst).Nodup) :
    (call.setAll settings).params = settings.flatMap Setting.pairs := by
  have hlatest : call.params = latest [] := h
  rw [setAll_params hlatest, List.nil_append, latest_of_nodup hnames]

end Call

namespace Client

/-- The parameters of a call are what its query says. -/
theorem exists_resolve_says {client : Client} {call : Call} {path : List String}
    (hcall : FromRoot call.path) (hbase : client.baseUrl.path = .parts path) :
    ∃ url, client.resolve call = .ok url ∧ url.Says call.params := by
  obtain ⟨front, hjoin, hpath, -⟩ := hcall.exists_join hbase
  have hresolve := resolve_of_join hjoin hpath (hcall.dropEmptyEnd_path client.baseUrl)
  have hquery : front.query = none := hcall.join_query hbase hjoin
  refine ⟨_, hresolve, Url.says_appendPairs ?_ call.params⟩
  exact hquery

theorem says_of_resolve {client : Client} {call : Call} {url : Url} (hcall : FromRoot call.path)
    (h : client.resolve call = .ok url) : url.Says call.params := by
  cases hbase : client.baseUrl.path with
  | whole text =>
      rw [resolve_of_whole hcall hbase] at h
      cases h
  | parts path =>
      obtain ⟨other, hresolve, hsays⟩ := exists_resolve_says hcall hbase
      obtain rfl : other = url := Except.ok.inj (hresolve.symm.trans h)
      exact hsays

end Client

namespace Endpoint

/-- A count, if it is there and not zero. -/
def countParameter (name : String) : Option UInt32 → List (String × String)
  | none => []
  | some count => if count = 0 then [] else [(name, Decimal.ofNat count.toNat)]

/-- A text, if it is there and not empty. -/
def textParameter (name : String) : Option String → List (String × String)
  | none => []
  | some text => if text = "" then [] else [(name, text)]

/-- What each function of the interface says in the query. -/
def parameters : Endpoint → List (String × String)
  | balance user currency => [("user", user), ("currency", currency)]
  | transactions user query =>
      ("user", user) :: countParameter "limit" query.limit ++ countParameter "offset" query.offset
        ++ textParameter "currency" query.currency
  | invoices user page =>
      ("user", user) :: countParameter "limit" page.limit ++ countParameter "offset" page.offset
  | paymentMethods user | usage user | spendAlerts user => [("user", user)]
  | userSubscriptions user | creditGrants user | creditBalance user | meterSummary user =>
      [("userId", user)]
  | discountCode code => [("code", code)]
  | portal customer => [("customerId", customer)]
  | deposit _ | starterCredit _ | subscribe _ | subscription _ | cancelSubscription _
  | changeSubscription _ _ | applyDiscount _ _ | plans | plan _ | addPaymentMethod _
  | removePaymentMethod _ | defaultPaymentMethod _ | addSpendAlert _ | changeSpendAlert _ _
  | removeSpendAlert _ | meters => []

theorem countParameter_names (name : String) (count : Option UInt32) :
    ((countParameter name count).map Prod.fst).Sublist [name] := by
  cases count with
  | none => exact List.nil_sublist _
  | some count =>
      rw [countParameter]
      split
      · exact List.nil_sublist _
      · exact List.Sublist.refl _

theorem textParameter_names (name : String) (text : Option String) :
    ((textParameter name text).map Prod.fst).Sublist [name] := by
  cases text with
  | none => exact List.nil_sublist _
  | some text =>
      rw [textParameter]
      split
      · exact List.nil_sublist _
      · exact List.Sublist.refl _

theorem pairs_countText? (name : String) (count : Option UInt32) :
    (Call.Setting.param? name (countText? count)).pairs = countParameter name count := by
  cases count with
  | none => rfl
  | some count =>
      by_cases hzero : count = 0 <;>
        simp [Call.Setting.pairs, countText?, countParameter, hzero]

theorem pairs_nonEmpty? (name : String) (text : Option String) :
    (Call.Setting.param? name (nonEmpty? text)).pairs = textParameter name text := by
  cases text with
  | none => rfl
  | some text =>
      by_cases hempty : text = "" <;>
        simp [Call.Setting.pairs, nonEmpty?, textParameter, hempty]

/-- A user and a page of a list, and a currency if there is one. -/
theorem setAll_paged (call : Call) (h : call.params = []) (user : String)
    (limit offset : Option UInt32) (currency : Option String) :
    (call.setAll [.param "user" user, .param? "limit" (countText? limit),
        .param? "offset" (countText? offset), .param? "currency" (nonEmpty? currency)]).params =
      ("user", user) :: countParameter "limit" limit ++ countParameter "offset" offset
        ++ textParameter "currency" currency := by
  have hpairs : [Call.Setting.param "user" user, .param? "limit" (countText? limit),
        .param? "offset" (countText? offset), .param? "currency" (nonEmpty? currency)].flatMap
          Call.Setting.pairs =
      ("user", user) :: countParameter "limit" limit ++ countParameter "offset" offset
        ++ textParameter "currency" currency := by
    simp only [List.flatMap_cons, List.flatMap_nil, pairs_countText?, pairs_nonEmpty?,
      List.append_nil, ← List.append_assoc]
    rfl
  have hnames : ((("user", user) :: countParameter "limit" limit ++ countParameter "offset" offset
        ++ textParameter "currency" currency).map Prod.fst).Sublist
      ["user", "limit", "offset", "currency"] := by
    rw [List.map_append, List.map_append]
    exact ((countParameter_names "limit" limit).cons_cons "user").append
      (countParameter_names "offset" offset) |>.append (textParameter_names "currency" currency)
  rw [Call.setAll_params_of_nodup h, hpairs]
  rw [hpairs]
  exact hnames.nodup (by decide)

/-- The call of an endpoint has the parameters of its table. -/
theorem call_params (endpoint : Endpoint) : endpoint.call.params = endpoint.parameters := by
  cases endpoint with
  | transactions user query =>
      exact setAll_paged (Call.get transactionsPath) rfl user query.limit query.offset
        query.currency
  | invoices user page =>
      have hpaged := setAll_paged (Call.get invoicesPath) rfl user page.limit page.offset none
      exact hpaged.trans (List.append_nil _)
  | _ => rfl

end Endpoint

/-- The query says the last value of each parameter that was set, in the order
of these last settings, and there is none if nothing was set. -/
structure Url.SaysLatest (url : Url) (settings : List (String × String)) : Prop where
  said : url.queryPairs = latest settings
  once : (url.queryPairs.map Prod.fst).Nodup
  names : ∀ name, name ∈ url.queryPairs.map Prod.fst ↔ name ∈ settings.map Prod.fst
  values : ∀ pair ∈ url.queryPairs, LastSet settings pair
  ordered : url.queryPairs.Pairwise (LastSetBefore settings)
  silent : url.query = none ↔ settings = []

theorem Url.Says.latest {url : Url} {settings : List (String × String)}
    (h : url.Says (latest settings)) : url.SaysLatest settings where
  said := h.said
  once := h.said ▸ latest_names_nodup settings
  names _ := h.said ▸ mem_latest_names_iff
  values _ hpair := lastSet_of_mem_latest (h.said ▸ hpair)
  ordered := h.said ▸ latest_pairwise settings
  silent := h.silent.trans latest_eq_nil_iff

namespace Client

/-- If the base URL has segments, then a call of the interface says the last
value of each parameter that is set for it, and each function of the interface
makes one request, which says what its table says. -/
theorem parameters_said_once (client : Client) {path : List String}
    (hbase : client.baseUrl.path = .parts path) :
    (∀ (call : Call) (settings : List Call.Setting), call.path ∈ Endpoint.paths →
      call.params = [] → ∃ url, client.resolve (call.setAll settings) = .ok url ∧
        url.SaysLatest (settings.flatMap Call.Setting.pairs)) ∧
    (∀ (endpoint : Endpoint) (w : World σ), ∃ attempt url,
      (client.worldAfter w endpoint).attempts = w.attempts ++ [attempt] ∧
        attempt.request.address = .ok url ∧ url.Says endpoint.parameters) := by
  constructor
  · intro call settings hcall hfresh
    have hlink := Endpoint.fromRoot_of_mem_paths _ hcall
    rw [← call.setAll_path settings] at hlink
    obtain ⟨url, hresolve, hsays⟩ := exists_resolve_says hlink hbase
    have hlatest : call.params = latest [] := hfresh
    rw [Call.setAll_params hlatest, List.nil_append] at hsays
    exact ⟨url, hresolve, hsays.latest⟩
  · intro endpoint w
    have hlink := Endpoint.fromRoot_of_mem_paths _ endpoint.call_path_mem
    obtain ⟨url, hresolve, hsays⟩ := exists_resolve_says hlink hbase
    obtain ⟨attempt, hattempts, hrequest⟩ :=
      (worldAfter_askedOnce client endpoint w).sent url hresolve
    rw [endpoint.call_params] at hsays
    exact ⟨attempt, url, hattempts, hrequest ▸ rfl, hsays⟩

/-- Marks in a value stay in it, and a zero is not said. -/
theorem marked_values_said :
    let settings : List Call.Setting := [.param "user" "a&limit=9", .param "limit" "1",
      .param? "limit" (some "2=%26"), .param "user" "é +", .param? "page" none]
    let asked : Endpoint := .transactions "u&offset=7" { limit := some 0, currency := some "eur" }
    testClient.baseUrl.path = .parts [""] ∧ Endpoint.transactionsPath ∈ Endpoint.paths ∧
      (∃ url, testClient.resolve ((Call.get Endpoint.transactionsPath).setAll settings) = .ok url ∧
        url.queryPairs = [("limit", "2=%26"), ("user", "é +")]) ∧
      ∃ attempt url, (testClient.worldAfter busyWorld asked).attempts = [attempt] ∧
        attempt.request.address = .ok url ∧
        url.queryPairs = [("user", "u&offset=7"), ("currency", "eur")] := by
  intro settings asked
  have hbase : testClient.baseUrl.path = .parts [""] := rfl
  have hpath : Endpoint.transactionsPath ∈ Endpoint.paths := by decide
  obtain ⟨hcalls, hfunctions⟩ := parameters_said_once (σ := Unit) testClient hbase
  obtain ⟨url, hresolve, hlatest⟩ := hcalls (Call.get Endpoint.transactionsPath) settings hpath rfl
  obtain ⟨attempt, address, hattempts, hrequest, hsays⟩ := hfunctions asked busyWorld
  exact ⟨hbase, hpath, ⟨url, hresolve, hlatest.said.trans (by decide)⟩,
    attempt, address, hattempts, hrequest, hsays.said.trans (by decide)⟩

end Client

end BillingAccess
