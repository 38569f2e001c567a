/-
Where a call goes.

The paths of the interface are links from the root, so on any page with
segments a call keeps what stands in front of the path.  Each text that is
added becomes one segment that stands for it, if none of them is a place or
holds a tab or a line end; such a text is lost, and the call goes elsewhere.
-/
import BillingAccess.Client.Basic
import BillingAccess.Client.Endpoint
import BillingAccess.Proofs.Url.Ending
import BillingAccess.Proofs.Url.Link

namespace BillingAccess

open BillingAccess.Url

/-- All paths of the interface name a path from the root and nothing else. -/
theorem Endpoint.fromRoot_of_mem_paths : ∀ link ∈ Endpoint.paths, FromRoot link := by
  decide +kernel

/-- The path is that one, followed by a segment for each text. -/
def Url.Addresses (url : Url) (path texts : List String) : Prop :=
  ∃ added, url.path = .parts (path ++ added) ∧ List.Forall₂ StandsFor added texts

/-- A path stands for one list of texts at most, so calls for different texts
behind the same link go to different places. -/
theorem Url.Addresses.inj {url : Url} {path s t : List String} (hs : url.Addresses path s)
    (ht : url.Addresses path t) : s = t := by
  obtain ⟨added, hpath, hstand⟩ := hs
  obtain ⟨same, hsame, hstand'⟩ := ht
  rw [hpath, Path.parts.injEq, List.append_cancel_left_eq] at hsame
  subst hsame
  have hunique : Relator.RightUnique StandsFor := fun _ _ _ hs ht => hs.inj ht
  exact List.right_unique_forall₂' hunique hstand hstand'

namespace Client

variable {client : Client} {call : Call} {path : List String}

/-- The path that the segments of a call are added to. -/
def startOf (client : Client) (call : Call) : List String :=
  client.baseUrl.keptDrive ++ linkSegments call.path

/-- Without segments in the base URL a call leads nowhere. -/
theorem resolve_of_whole (hcall : FromRoot call.path) {text : String}
    (hbase : client.baseUrl.path = .whole text) :
    client.resolve call = .error (.url .baseWithoutParts) := by
  rw [resolve, hcall.join_whole hbase]
  rfl

/-- The segments of a call are added to the path that its link leads to. -/
theorem resolve_of_join {front : Url} (hjoin : client.baseUrl.join call.path = .ok front)
    (hpath : front.path = .parts path) (hend : dropEmptyEnd path = path) :
    client.resolve call = .ok (Url.appendPairs
      { front with path := .parts (pushAll front.scheme path call.segments) } call.params) := by
  have hpushed : front.withSegments? call.segments = some
      { front with path := .parts (pushAll front.scheme path call.segments) } := by
    rw [withSegments?, hpath]
    simp only [hend]
    rfl
  rw [resolve, hjoin, Except.mapError]
  simp only [bind, Except.bind]
  by_cases hsegments : call.segments = []
  · have hsame : { front with path := .parts (pushAll front.scheme path []) } = front := by
      rw [pushAll, List.foldl_nil, ← hpath]
    rw [if_pos hsegments, hsegments, hsame]
    rfl
  · rw [if_neg hsegments, hpushed]
    rfl

theorem exists_resolve (hcall : FromRoot call.path) (hbase : client.baseUrl.path = .parts path) :
    ∃ url, client.resolve call = .ok url ∧
      url.path = .parts (pushAll client.baseUrl.scheme (client.startOf call) call.segments) ∧
      url.scheme = client.baseUrl.scheme ∧
      (client.baseUrl.scheme ≠ "file" → SameAuthority url client.baseUrl) := by
  obtain ⟨front, hjoin, hpath, hscheme, hsame⟩ := hcall.exists_join hbase
  have hresolve := resolve_of_join hjoin hpath (hcall.dropEmptyEnd_path client.baseUrl)
  obtain ⟨query, hquery⟩ := Url.appendPairs_eq
    { front with path := .parts (pushAll front.scheme
      (client.baseUrl.keptDrive ++ linkSegments call.path) call.segments) } call.params
  rw [hquery] at hresolve
  refine ⟨_, hresolve, by rw [← hscheme, startOf], hscheme, fun hother => ?_⟩
  have hfront := hsame hother
  exact ⟨hfront.scheme, hfront.username, hfront.password, hfront.host, hfront.port⟩

/-- On a base URL with segments every call of the interface has somewhere to go.
It goes to the path of its link, with one segment for each text behind it, as
long as all texts are plain, and else it goes somewhere else. -/
theorem resolve_addresses_iff (client : Client) (call : Call) {path : List String}
    (hbase : client.baseUrl.path = .parts path) (hcall : call.path ∈ Endpoint.paths) :
    ∃ url, client.resolve call = .ok url ∧
      (url.Addresses (client.startOf call) call.segments ↔ ∀ text ∈ call.segments, Plain text) := by
  have hlink := Endpoint.fromRoot_of_mem_paths call.path hcall
  obtain ⟨url, hresolve, hpath, -, -⟩ := exists_resolve hlink hbase
  refine ⟨url, hresolve, ?_⟩
  have hiff := pushAll_standsFor_iff client.baseUrl.scheme (hlink.rooted_path client.baseUrl)
    call.segments
  rw [Url.Addresses, hpath, ← hiff]
  simp only [Path.parts.injEq, startOf]

/-- A client of an interface without a token. -/
def testClient : Client where
  baseUrl := { scheme := "http", host := some (.named "api.test"), path := .parts [""] }
  token := none
  limit := .ofSeconds 10

theorem resolve_promotion :
    ∃ url, testClient.resolve (Endpoint.applyDiscount "sub/1 x" "ten").call = .ok url ∧
      (url.Addresses ["api", "v1", "subscribe"] ["sub/1 x", "promotion"] ↔
        ∀ text ∈ ["sub/1 x", "promotion"], Plain text) := by
  have hbase : testClient.baseUrl.path = .parts [""] := rfl
  exact resolve_addresses_iff testClient (Endpoint.applyDiscount "sub/1 x" "ten").call hbase
    (by decide)

/-- The request to cancel the subscription "." goes to all subscriptions. -/
theorem resolve_cancelSubscription_here :
    ∃ url, testClient.resolve (Endpoint.cancelSubscription ".").call = .ok url ∧
      url.text = "http://api.test/api/v1/subscribe" ∧
      ¬url.Addresses ["api", "v1", "subscribe"] ["."] := by
  refine ⟨{ testClient.baseUrl with path := .parts ["api", "v1", "subscribe"] }, ?_, ?_, ?_⟩
  · rfl
  · decide +kernel
  · rintro ⟨added, hpath, hadded⟩
    have hlength := congrArg List.length (Path.parts.inj hpath)
    rw [List.length_append, hadded.length_eq] at hlength
    contradiction

end Client

end BillingAccess
