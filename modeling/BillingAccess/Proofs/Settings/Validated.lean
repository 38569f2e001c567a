/-
What settings that are in order are good for.

Each URL is checked as it is written, but not used like that: slashes at its
end are left out, and paths are put behind it or joined to it.  A server has
its two pages exactly if a path can be put behind its URL.  The interface has a
client unless a blank before those slashes is all there is of the host behind a
user, and the client has somewhere to go if its URL has segments, which it has
whenever it names a host.
-/
import BillingAccess.Proofs.Client.Origin
import BillingAccess.Proofs.Storage.Reopening
import BillingAccess.Proofs.Url.Astray
import BillingAccess.Settings.Load
import Mathlib.Data.Bool.AllAny

namespace BillingAccess

open BillingAccess.Url

namespace Settings

/-- What the check makes sure of. -/
structure Valid (settings : Settings) : Prop where
  client : Text.isBlankText settings.identity.clientId = false
  server : ∃ url, Url.parse settings.identity.serverUrl = .ok url
  redirect : ∃ url, Url.parse settings.identity.redirectUri = .ok url
  base : ∃ url, Url.parse settings.commerce.baseUrl = .ok url
  timeout : settings.commerce.timeoutSeconds ≠ 0
  backend : settings.storage.backend ∈ backendNames

theorem check_bind_eq_ok_iff {setting value : String} {next : Except SettingsFault Unit} :
    (checkUrl setting value >>= fun _ => next) = .ok () ↔
      (∃ url, Url.parse value = .ok url) ∧ next = .ok () := by
  rw [checkUrl]
  cases Url.parse value with
  | error cause => exact iff_of_false nofun fun h => nomatch h.1
  | ok url => exact (and_iff_right ⟨url, rfl⟩).symm

theorem unless_eq_ok_iff {condition : Prop} [Decidable condition] {fault : SettingsFault}
    {next : Except SettingsFault Unit} :
    (if condition then throw fault >>= fun _ : PUnit => next else next) = .ok () ↔
      ¬condition ∧ next = .ok () := by
  split
  case isTrue h => exact iff_of_false nofun fun hnot => hnot.1 h
  case isFalse h => exact (and_iff_right h).symm

theorem validate_eq_ok_iff (settings : Settings) : settings.validate = .ok () ↔ settings.Valid := by
  have hmap : settings.validate = .ok () ↔ settings.check = .ok () := by
    rw [validate]
    cases settings.check with
    | error fault => exact iff_of_false nofun nofun
    | ok _ => exact iff_of_true rfl rfl
  have hlast {condition : Prop} [Decidable condition] {fault : SettingsFault} :
      (if condition then throw fault else pure () : Except SettingsFault Unit) = .ok () ↔
        ¬condition := by
    split
    case isTrue h => exact iff_of_false nofun fun hnot => hnot h
    case isFalse h => exact iff_of_true rfl h
  rw [hmap, check]
  dsimp only
  simp only [unless_eq_ok_iff, check_bind_eq_ok_iff, hlast, Bool.not_eq_true, Bool.not_eq_false',
    List.contains_iff_mem]
  exact ⟨fun ⟨hclient, hserver, hredirect, hbase, htimeout, hbackend⟩ =>
      ⟨hclient, hserver, hredirect, hbase, htimeout, hbackend⟩,
    fun ⟨hclient, hserver, hredirect, hbase, htimeout, hbackend⟩ =>
      ⟨hclient, hserver, hredirect, hbase, htimeout, hbackend⟩⟩

end Settings

/-- Only a name that is none of the backends is an unknown one. -/
theorem StorageSettings.openIn_unknownBackend_iff (storage : StorageSettings) (env : Environment)
    (vault : Vault) (name : String) :
    storage.openIn env vault = .error (.settings (.unknownBackend name)) ↔
      storage.backend = name ∧ name ∉ backendNames := by
  have hknown {backend : String} (hbackend : storage.backend = backend)
      (hmem : backend ∈ backendNames) : ¬(storage.backend = name ∧ name ∉ backendNames) := by
    rintro ⟨hname, hnone⟩
    rw [← hname, hbackend] at hnone
    exact hnone hmem
  unfold openIn
  split
  case h_1 hbackend => exact iff_of_false nofun (hknown hbackend (by decide))
  case h_2 hbackend =>
    refine iff_of_false (fun h => ?_) (hknown hbackend (by decide))
    split at h
    · cases h
    · rename_i path _
      cases hopen : SessionFile.openAt ⟨path⟩ vault.disk with
      | ok opened =>
          rw [hopen] at h
          cases h
      | error fault =>
          rw [hopen] at h
          obtain rfl := Except.error.inj h
          rcases SessionFile.fault_of_openAt hopen with ⟨cause, hcause⟩ | ⟨cause, hcause⟩
          · cases hcause
          · cases hcause
  case h_3 hbackend => exact iff_of_false nofun (hknown hbackend (by decide))
  case h_4 hmemory hfile hkeyring =>
    have hnone : storage.backend ∉ backendNames := by
      simp only [backendNames, List.mem_cons, List.not_mem_nil, or_false]
      rintro (h | h | h)
      · exact hmemory h
      · exact hfile h
      · exact hkeyring h
    constructor
    · rintro ⟨⟩
      exact ⟨rfl, hnone⟩
    · rintro ⟨rfl, -⟩
      rfl

/-- The address leads to the peer, to a path that ends in this one. -/
def ServedBy (server : Url) (address path : String) : Prop :=
  ∃ page, Url.parse address = .ok page ∧ SameOrigin page server ∧ page.path.EndsIn path

instance (server : Url) (address path : String) : Decidable (ServedBy server address path) :=
  inferInstanceAs (Decidable (∃ _, _ ∧ _))

/-- The server has the two pages that a sign-in needs. -/
def Settings.ServesPages (settings : Settings) : Prop :=
  ∃ server, Url.parse settings.identity.serverUrl = .ok server ∧
    ServedBy server settings.application.authorizeEndpoint SignIn.authorizePath ∧
    ServedBy server settings.application.tokenEndpoint SignIn.tokenPath

instance (settings : Settings) : Decidable settings.ServesPages :=
  inferInstanceAs (Decidable (∃ _, _ ∧ _))

namespace SignIn

theorem pagePath_authorizePath : PagePath authorizePath where
  toFromRoot := by decide +kernel
  spelled := by decide +kernel
  unescaped := by decide +kernel
  visible := List.all_iff_forall_prop.mp (by decide +kernel)

theorem pagePath_tokenPath : PagePath tokenPath where
  toFromRoot := by decide +kernel
  spelled := by decide +kernel
  unescaped := by decide +kernel
  visible := List.all_iff_forall_prop.mp (by decide +kernel)

theorem unlike_paths : Unlike authorizePath tokenPath :=
  ⟨by decide +kernel, by decide +kernel⟩

/-- Behind two slashes it is a page of a host whose name is `login`. -/
theorem namesHost_authorizePath : NamesHost authorizePath := by
  intro scheme ref url hscheme h
  have htail : authorizePath.toList.tail = "login".toList ++ "/oauth/authorize".toList := by
    decide +kernel
  have hname (special : Bool) : Unslashed special "login".toList := by
    have hall : "login".toList.all (isSlash special · = false) = true := by
      cases special <;> decide
    exact List.all_iff_forall_prop.mp hall
  have hpath (special : Bool) : Opens special "/oauth/authorize".toList := by
    rintro c ⟨⟩
    rfl
  have hauthority : authorityOf? scheme ('/' :: authorizePath.toList) = some _ :=
    authorityOf?_slash hscheme rfl pagePath_authorizePath.toFromRoot
  rw [readSchemed_authority hauthority, htail] at h
  split at h
  case isTrue =>
    have hhost : readFileHost "login".toList = .ok (.named "login") :=
      Action.eq_ok_of_toOption (by decide +kernel)
    rw [readFileAuthority_append (hname true) (hpath true), if_neg (by decide), hhost] at h
    obtain rfl := Except.ok.inj h
    have hshown : (filePage ref (.named "login") "/oauth/authorize".toList).host =
        some (.named "login") := by
      rw [filePage, if_neg (by decide +kernel)]
      rfl
    rw [hostText?_of_host hshown, if_neg (by decide)]
    exact Option.some_ne_none _
  case isFalse hfile =>
    obtain ⟨host, hurl, hhost⟩ := host_of_readAuthority (hname _) (hpath _) h
    rw [hscheme.resolve_left hfile] at hhost
    have hplain : readHost false "login".toList = .ok (.named "login") :=
      Action.eq_ok_of_toOption (by decide +kernel)
    obtain rfl := Except.ok.inj (hplain.symm.trans hhost)
    rw [hostText?_of_host hurl, if_neg (by decide)]
    exact Option.some_ne_none _

end SignIn

/-- The client is one for the URL, and its calls have somewhere to go exactly if
there are segments.  There are some if there is a host. -/
structure Client.LeadsTo (client : Client) (base : Url) : Prop
    extends Resembles client.baseUrl base where
  resolved : HasParts client.baseUrl → ∀ endpoint : Endpoint,
    ∃ url, client.resolve endpoint.call = .ok url
  unresolved : ¬HasParts client.baseUrl → ∀ endpoint : Endpoint,
    client.resolve endpoint.call = .error (.url .baseWithoutParts)

namespace Client

theorem leadsTo_of_resembles {client : Client} {base : Url}
    (h : Resembles client.baseUrl base) : client.LeadsTo base where
  toResembles := h
  resolved := fun ⟨path, hpath⟩ endpoint => by
    have hlink := Endpoint.fromRoot_of_mem_paths _ endpoint.call_path_mem
    obtain ⟨url, hresolve, -⟩ := exists_resolve hlink hpath
    exact ⟨url, hresolve⟩
  unresolved hnone endpoint := by
    have hlink := Endpoint.fromRoot_of_mem_paths _ endpoint.call_path_mem
    cases hpath : client.baseUrl.path with
    | parts path => exact absurd ⟨path, hpath⟩ hnone
    | whole text => exact resolve_of_whole hlink hpath

/-- A base URL that does not lose its host makes a client for it, which leads to
its peer exactly if no gap in front of slashes belongs to the authority. -/
theorem exists_make (settings : ClientSettings) {base : Url}
    (hbase : Url.parse settings.baseUrl = .ok base) (hfull : ¬LosesHost settings.baseUrl) :
    ∃ client, make settings = .ok client ∧ client.LeadsTo base ∧
      (SameOrigin client.baseUrl base ↔
        trimmed settings.baseUrl = settings.baseUrl.toList ∨
          GapApart (trimmed settings.baseUrl)) := by
  obtain ⟨url, hurl, hresembles, horigin⟩ := exists_parse_trimmed hfull hbase
  have hmake : make settings = .ok ⟨url, settings.token.bind tokenOf, settings.limit⟩ := by
    rw [trimmed] at hurl
    rw [make, hurl]
    rfl
  refine ⟨_, hmake, leadsTo_of_resembles hresembles, fun hsame => ?_, horigin⟩
  by_cases hslashed : trimmed settings.baseUrl = settings.baseUrl.toList
  · exact .inl hslashed
  · exact .inr (gapApart_of_trimmed hslashed hbase hurl hsame)

/-- One that loses its host makes none. -/
theorem make_of_losesHost (settings : ClientSettings) {base : Url}
    (hbase : Url.parse settings.baseUrl = .ok base) (hloses : LosesHost settings.baseUrl) :
    make settings = .error (.url .emptyHost) := by
  have hparse := hloses.parse_trimmed hbase
  rw [trimmed] at hparse
  rw [make, hparse]
  rfl

end Client

namespace Settings

/-- A server has its pages exactly if a path can be put behind its URL. -/
theorem servesPages_iff (settings : Settings) {server : Url}
    (hserver : Url.parse settings.identity.serverUrl = .ok server) :
    settings.ServesPages ↔
      Unmarked settings.identity.serverUrl.toList ∧ Sturdy settings.identity.serverUrl := by
  constructor
  · rintro ⟨same, hsame, ⟨page, hpage, horigin, hends⟩, page', hpage', -, hends'⟩
    obtain rfl := Except.ok.inj (hserver.symm.trans hsame)
    exact sturdy_of_pages hserver SignIn.pagePath_authorizePath SignIn.pagePath_tokenPath
      SignIn.unlike_paths SignIn.namesHost_authorizePath hpage hpage' horigin hends hends'
  · rintro ⟨hunmarked, hsturdy⟩
    exact ⟨server, hserver,
      exists_parse_link hunmarked hsturdy hserver SignIn.pagePath_authorizePath,
      exists_parse_link hunmarked hsturdy hserver SignIn.pagePath_tokenPath⟩

/-- Settings that are in order are good for signing in exactly if a path can be
put behind the URL of the server, for calls exactly if that of the interface
keeps its host without the slashes at its end, and always for a store. -/
theorem validated_settings_work (settings : Settings) (h : settings.validate = .ok ()) :
    (settings.ServesPages ↔
        Unmarked settings.identity.serverUrl.toList ∧ Sturdy settings.identity.serverUrl) ∧
      (¬LosesHost settings.commerce.baseUrl →
        ∃ base client, Url.parse settings.commerce.baseUrl = .ok base ∧
          Client.make settings.clientSettings = .ok client ∧ client.LeadsTo base ∧
          (SameOrigin client.baseUrl base ↔
            trimmed settings.commerce.baseUrl = settings.commerce.baseUrl.toList ∨
              GapApart (trimmed settings.commerce.baseUrl))) ∧
      (LosesHost settings.commerce.baseUrl →
        Client.make settings.clientSettings = .error (.url .emptyHost)) ∧
      ∀ env vault name,
        settings.storage.openIn env vault ≠ .error (.settings (.unknownBackend name)) := by
  obtain ⟨-, ⟨server, hserver⟩, -, ⟨base, hbase⟩, -, hbackend⟩ := (validate_eq_ok_iff settings).mp h
  refine ⟨servesPages_iff settings hserver, fun hfull => ?_,
    fun hloses => Client.make_of_losesHost settings.clientSettings hbase hloses, ?_⟩
  · obtain ⟨client, hclient, hleads, horigin⟩ :=
      Client.exists_make settings.clientSettings hbase hfull
    exact ⟨base, client, hbase, hclient, hleads, horigin⟩
  · intro env vault name hunknown
    obtain ⟨rfl, hnone⟩ := (settings.storage.openIn_unknownBackend_iff env vault name).mp hunknown
    exact hnone hbackend

/-- Slashes at the end do no harm, and neither do blanks behind a path. -/
theorem slashed_settings_work :
    let settings : Settings := {
      identity := { serverUrl := "https://hanzo.id:8443/auth " }
      commerce := { baseUrl := "https://api.commerce.hanzo.ai/v1 //" } }
    settings.validate = .ok () ∧ settings.ServesPages ∧
      ∃ base client, Url.parse settings.commerce.baseUrl = .ok base ∧
        Client.make settings.clientSettings = .ok client ∧ SameOrigin client.baseUrl base ∧
        ∀ endpoint : Endpoint, ∃ url, client.resolve endpoint.call = .ok url := by
  intro settings
  have hvalid : settings.validate = .ok () := Action.eq_ok_of_toOption (by decide +kernel)
  obtain ⟨hserver, hclient, -⟩ := validated_settings_work settings hvalid
  have hunmarked : Unmarked settings.identity.serverUrl.toList := by decide +kernel
  have hapart : GapApart (trimmed settings.commerce.baseUrl) := by decide +kernel
  have hfull : ¬LosesHost settings.commerce.baseUrl := by decide +kernel
  obtain ⟨base, client, hbase, hmake, hleads, horigin⟩ := hclient hfull
  have hscheme : (Url.parse settings.commerce.baseUrl).toOption.map (·.scheme) = some "https" := by
    decide +kernel
  rw [hbase] at hscheme
  have hhttps : base.scheme = "https" := Option.some.inj hscheme
  have hparts := hleads.parts (.inl (by rw [hhttps]; decide))
  exact ⟨hvalid, hserver.mpr ⟨hunmarked, by decide +kernel⟩, base, client, hbase, hmake,
    horigin.mpr (.inr hapart), hleads.resolved hparts⟩

/-- Settings that are in order and do not work.  A query or a fragment takes in
the path that is put behind it.  A blank right behind the host is a part of its
name then, and right behind a drive that is the whole path it leaves no drive,
so that the host counts again.  A user or a slash makes a name of what follows.
A blank in front of the last slashes is the only name there is without them,
and to a URL without segments no path can be joined. -/
theorem validated_settings_fail :
    let ofServer (server : String) : Settings := { identity := { serverUrl := server } }
    let ofBase (base : String) : Settings := { commerce := { baseUrl := base } }
    (∀ server ∈ ["https://hanzo.id?x=1", "https://hanzo.id#x", "https://hanzo.id ",
        "file://hanzo.id/C: ", "foo://@", "foo:/\t", "file:\\"],
      (ofServer server).validate = .ok () ∧ ¬(ofServer server).ServesPages) ∧
    ((ofBase "foo://u@\x01/").validate = .ok () ∧
      Client.make (ofBase "foo://u@\x01/").clientSettings = .error (.url .emptyHost)) ∧
    (ofBase "mailto:billing").validate = .ok () ∧
      ∃ client, Client.make (ofBase "mailto:billing").clientSettings = .ok client ∧
        ∀ endpoint : Endpoint,
          client.resolve endpoint.call = .error (.url .baseWithoutParts) := by
  intro ofServer ofBase
  have hservers : ∀ server ∈ ["https://hanzo.id?x=1", "https://hanzo.id#x", "https://hanzo.id ",
      "file://hanzo.id/C: ", "foo://@", "foo:/\t", "file:\\"],
      (ofServer server).validate.toOption = some () ∧ ¬(ofServer server).ServesPages := by
    decide +kernel
  have hmake : Client.make (ofBase "mailto:billing").clientSettings =
      .ok ⟨⟨"mailto", "", "", none, none, .whole "billing", none, none⟩, none, .ofSeconds 10⟩ :=
    Action.eq_ok_of_toOption (by decide +kernel)
  refine ⟨fun server hserver => ?_, ⟨Action.eq_ok_of_toOption (by decide +kernel),
    by decide +kernel⟩, Action.eq_ok_of_toOption (by decide +kernel), _, hmake, fun endpoint => ?_⟩
  · obtain ⟨hvalid, hnone⟩ := hservers server hserver
    exact ⟨Action.eq_ok_of_toOption hvalid, hnone⟩
  · exact Client.resolve_of_whole (Endpoint.fromRoot_of_mem_paths _ endpoint.call_path_mem) rfl

end Settings

end BillingAccess
