import ContainRes.Effects.Proc
import ContainRes.Text.Python

/-! # The redirect address of a single sign-on

The web portal sends the identity provider the address of its callback route, and the user pool client has a list of
the addresses that it accepts. The two are computed from different keys of the configuration.

* **`SsoSettings`** — the entries of the configuration that the address is computed from.
* **`ssoInitiateRoute`**, **`makeRoutePath`** — the route of the portal, and the paths of its routes.
* **`getCallbackLogoutUrls`** — the addresses that `SingleSignOnHelper` registers.
* **`RedirectRegistered`** — the address sent is a registered one, and its path is that of the callback route.
* **`PathsAgree`**, **`redirectRegistered_iff`** — the two paths in the configuration for which that is so. -/

namespace ContainRes.WebPortal

open Effects Text

/-! ## Configuration -/

/-- A domain name: it is not blank and has no slash. -/
abbrev HostName := {name : String // isEmpty name = false ∧ '/' ∉ name.toList}

/-- The entries of the configuration. An entry that `get_string(.., required=True)` reads may be missing, or have a
value that may be `None`. -/
structure SsoSettings where
  /-- `identity-provider.cognito.sso_enabled`. -/
  ssoEnabled : Bool
  /-- `identity-provider.cognito.domain_url`. -/
  domainUrl : Option (Option String)
  /-- `identity-provider.cognito.sso_client_id`. -/
  ssoClientId : Option (Option String)
  /-- `identity-provider.cognito.sso_idp_provider_name`. -/
  ssoIdpProviderName : Option (Option String)
  /-- `cluster-manager.web_resources_context_path`. -/
  webResourcesContextPath : Option String
  /-- `cluster-manager.server.web_resources_context_path`. -/
  serverWebResourcesContextPath : Option (Option String)
  /-- `cluster.load_balancers.external_alb.load_balancer_dns_name`. -/
  loadBalancerDnsName : HostName
  /-- `cluster.load_balancers.external_alb.certificates.custom_dns_name`. -/
  certificatesCustomDnsName : Option HostName
  /-- `cluster.load_balancers.external_alb.custom_dns_name`. -/
  customDnsName : Option HostName

/-- What reading a setting, or a use of it, raises. -/
inductive SettingError
  /-- `CONFIG_KEY_NOT_FOUND`. -/
  | keyNotFound (key : String)
  | typeError (message : String)
  deriving DecidableEq

def getString (value default : Option String) : Option String := if isEmptyOpt value then default else value

/-- `get_string(key, required=True)`: a key that is there may still have no value. -/
def getRequiredString (key : String) : Option (Option String) → Except SettingError (Option String)
  | none => .error (.keyNotFound key)
  | some value => .ok (getString value none)

/-- An f-string field. -/
def formatted : Option String → String
  | none => "None"
  | some s => s

/-- The text with a slash in front unless there is one. -/
def slashed (path : String) : String := if startsWith path "/" then path else "/" ++ path

/-- An address with `https`. -/
def uri (host : HostName) (path : String) : String := "https://" ++ host.1 ++ path

namespace SsoSettings

variable (c : SsoSettings)

/-- `WebPortal.web_resources_context_path`. -/
def contextPath : String := (getString c.webResourcesContextPath (some "/")).getD "/"

/-- The host in `ClusterConfig.get_cluster_external_endpoint()`. -/
def externalHost : HostName := c.certificatesCustomDnsName.getD c.loadBalancerDnsName

/-! ## The routes of the portal -/

def makeRoutePath (path : String) : String :=
  if c.contextPath = "/" then slashed path else c.contextPath ++ slashed path

/-- The query of the address that the browser is redirected to, before it is encoded. -/
structure AuthorizationRequest where
  /-- The address up to the query. -/
  endpoint : String
  responseType : String
  redirectUri : String
  state : String
  clientId : String
  identityProvider : String

/-- The response of `sso_initiate_route`. -/
inductive Response
  /-- A redirect to a page of the portal. -/
  | page (location : String)
  | authorize (request : AuthorizationRequest)

/-- The part of `sso_initiate_route` that its handler covers; `created` is how `create_sso_state` ends. -/
def initiate (state : String) (created : Except SettingError Unit) : Except SettingError AuthorizationRequest := do
  let domainUrl ← getRequiredString "identity-provider.cognito.domain_url" c.domainUrl
  let ssoClientId ← getRequiredString "identity-provider.cognito.sso_client_id" c.ssoClientId
  let ssoIdpProviderName ← getRequiredString "identity-provider.cognito.sso_idp_provider_name" c.ssoIdpProviderName
  let redirectUri := uri c.externalHost (c.makeRoutePath "/sso/oauth2/callback")
  created
  return { endpoint := formatted domainUrl ++ "/authorize", responseType := "code", redirectUri := redirectUri,
           state := state, clientId := formatted ssoClientId, identityProvider := formatted ssoIdpProviderName }

def ssoInitiateRoute (state : String) (created : Except SettingError Unit) : Response :=
  if !c.ssoEnabled then .page c.contextPath
  else match c.initiate state created with
    | .ok request => .authorize request
    | .error _ => .page (c.contextPath ++ "?sso_auth_status=FAIL")

/-! ## The registered addresses -/

/-- `SingleSignOnHelper.get_callback_logout_urls()`: the callback addresses and the logout addresses. -/
def getCallbackLogoutUrls : Except SettingError (List String × List String) := do
  let customDnsName := c.certificatesCustomDnsName.or c.customDnsName
  let webContextPath ← getRequiredString "cluster-manager.server.web_resources_context_path"
    c.serverWebResourcesContextPath
  let ssoAuthCallbackPath := slashed (
    if webContextPath = some "/" then "/sso/oauth2/callback" else formatted webContextPath ++ "/oauth2/callback")
  match webContextPath with
  | none => .error (.typeError "object of type 'NoneType' has no len()")
  | some path =>
    let path := if path.toList.getLast? = some '/' then String.ofList path.toList.dropLast else path
    let path := if path = "" then path else slashed path
    let hosts := c.loadBalancerDnsName :: customDnsName.toList
    .ok (hosts.map fun host => uri host ssoAuthCallbackPath, hosts.map fun host => uri host path)

end SsoSettings

/-! ## The path of an address -/

/-- The path of an address: what follows the scheme and the host. -/
def uriPath (address : String) : String := String.ofList ((address.toList.drop 8).dropWhile (· ≠ '/'))

/-- The server that the routes are added to: a route is mounted under its path, which gets a slash in front if it has
none. -/
structure HttpApp where
  /-- The path under which `add_route(handler, uri)` mounts a route. -/
  addRoute : String → String
  addRoute_slash : ∀ path, startsWith path "/" = true → addRoute path = path
  addRoute_length : ∀ path, path.toList.length ≤ (addRoute path).toList.length

open SsoSettings

/-- **Every address that the portal sends** is a registered one, and its path is that of the callback route. -/
def RedirectRegistered (app : HttpApp) (c : SsoSettings) : Prop :=
  ∀ state created request, c.ssoInitiateRoute state created = .authorize request →
    (∃ urls, c.getCallbackLogoutUrls = .ok urls ∧ request.redirectUri ∈ urls.1) ∧
      uriPath request.redirectUri = app.addRoute (c.makeRoutePath "/sso/oauth2/callback")

theorem startsWith_slash_iff (s : String) : startsWith s "/" = true ↔ ∃ rest, s.toList = '/' :: rest := by
  unfold startsWith
  rw [List.isPrefixOf_iff_prefix]
  constructor
  · rintro ⟨rest, hrest⟩
    exact ⟨rest, hrest.symm⟩
  · rintro ⟨rest, hrest⟩
    exact ⟨rest, hrest.symm⟩

theorem startsWith_slashed (s : String) : startsWith (slashed s) "/" = true := by
  unfold slashed
  split
  · assumption
  · rw [startsWith_slash_iff, String.toList_append]
    exact ⟨_, rfl⟩

variable (host : HostName)

/-- A host has no slash, so the path starts at the first slash of what follows it. -/
theorem uriPath_uri (path : String) : uriPath (uri host path) = String.ofList (path.toList.dropWhile (· ≠ '/')) := by
  have hhost : ∀ c ∈ host.1.toList, decide (c ≠ '/') = true := fun c hc => by
    rw [decide_eq_true_eq]
    rintro rfl
    exact host.2.2 hc
  have hdrop : (uri host path).toList.drop 8 = host.1.toList ++ path.toList := by
    simp [uri, String.toList_append]
  rw [uriPath, hdrop, List.dropWhile_append_of_pos hhost]

/-- The path of an address is the one it was made with, when this has a slash in front. -/
theorem uriPath_uri_of_slash {path : String} (h : startsWith path "/" = true) : uriPath (uri host path) = path := by
  obtain ⟨rest, hrest⟩ := (startsWith_slash_iff path).mp h
  rw [uriPath_uri, hrest, List.dropWhile_cons_of_neg (by simp), ← hrest, String.ofList_toList]

/-- Otherwise its path is a shorter one. -/
theorem length_uriPath_lt {path : String} (hne : path ≠ "") (h : ¬ startsWith path "/" = true) :
    (uriPath (uri host path)).toList.length < path.toList.length := by
  rw [uriPath_uri, String.toList_ofList]
  cases hlist : path.toList with
  | nil => exact absurd (String.toList_injective (by simpa using hlist)) hne
  | cons c rest =>
    have hc : c ≠ '/' := by
      rintro rfl
      exact h ((startsWith_slash_iff path).mpr ⟨rest, hlist⟩)
    rw [List.dropWhile_cons_of_pos (by simpa using hc), List.length_cons]
    exact Nat.lt_succ_of_le (List.dropWhile_suffix _).length_le

/-! ## When the two paths agree -/

/-- What `make_route_path` puts in front of a path. -/
def routePrefix (c : SsoSettings) : String := if c.contextPath = "/" then "" else c.contextPath

/-- The path of the callback in `get_callback_logout_urls`, for a server path that has a value. -/
def callbackPath (server : String) : String :=
  slashed (if server = "/" then "/sso/oauth2/callback" else server ++ "/oauth2/callback")

/-- The value of the server path, if reading it and measuring it raises nothing. -/
def serverContextPath (c : SsoSettings) : Option String := c.serverWebResourcesContextPath.bind (getString · none)

/-- **The two settings of the path agree**: both are a slash, or that of the server is the path of the single
sign-on below that of the portal, which starts with a slash. -/
def PathsAgree (c : SsoSettings) : Prop :=
  startsWith c.contextPath "/" = true ∧ ∃ server, serverContextPath c = some server ∧
    ((c.contextPath = "/" ∧ server = "/") ∨ (server ≠ "/" ∧ slashed server = routePrefix c ++ "/sso"))

/-- SSO is enabled, and the settings that the route requires are there. -/
def CanInitiate (c : SsoSettings) : Prop :=
  c.ssoEnabled = true ∧ c.domainUrl.isSome ∧ c.ssoClientId.isSome ∧ c.ssoIdpProviderName.isSome

variable (c : SsoSettings)

theorem contextPath_ne_empty : c.contextPath ≠ "" := by
  unfold contextPath getString
  split
  · decide
  · rename_i h
    cases hpath : c.webResourcesContextPath with
    | none => decide
    | some path =>
      rw [hpath] at h
      exact ne_empty_of_not_isEmpty (Bool.eq_false_iff.mpr h)

theorem serverContextPath_ne_empty {c : SsoSettings} {server : String} (h : serverContextPath c = some server) :
    server ≠ "" := by
  obtain ⟨value, -, hvalue⟩ := Option.bind_eq_some_iff.mp h
  unfold getString at hvalue
  split at hvalue
  · cases hvalue
  · rename_i hblank
    subst hvalue
    exact ne_empty_of_not_isEmpty (Bool.eq_false_iff.mpr hblank)

theorem makeRoutePath_callback : c.makeRoutePath "/sso/oauth2/callback" = routePrefix c ++ "/sso/oauth2/callback" := by
  have hslashed : slashed "/sso/oauth2/callback" = "/sso/oauth2/callback" := by decide
  unfold makeRoutePath routePrefix
  rw [hslashed]
  split
  · rw [String.empty_append]
  · rfl

/-- The callback route has a slash in front exactly when the path of the portal has. -/
theorem startsWith_makeRoutePath :
    startsWith (c.makeRoutePath "/sso/oauth2/callback") "/" = true ↔ startsWith c.contextPath "/" = true := by
  rw [makeRoutePath_callback, routePrefix]
  split
  · rename_i h
    rw [h]
    decide
  · have hne : c.contextPath.toList ≠ [] := fun h => contextPath_ne_empty c (String.toList_injective (by simpa using h))
    obtain ⟨first, rest, hlist⟩ := List.exists_cons_of_ne_nil hne
    rw [startsWith_slash_iff, startsWith_slash_iff, String.toList_append, hlist]
    simp

theorem slashed_append {s : String} (h : s ≠ "") (t : String) : slashed (s ++ t) = slashed s ++ t := by
  have hne : s.toList ≠ [] := fun hnil => h (String.toList_injective (by simpa using hnil))
  obtain ⟨first, rest, hlist⟩ := List.exists_cons_of_ne_nil hne
  have hiff : startsWith (s ++ t) "/" = true ↔ startsWith s "/" = true := by
    rw [startsWith_slash_iff, startsWith_slash_iff, String.toList_append, hlist]
    simp
  unfold slashed
  by_cases hs : startsWith s "/" = true
  · rw [if_pos hs, if_pos (hiff.mpr hs)]
  · rw [if_neg hs, if_neg (mt hiff.mp hs), String.append_assoc]

theorem append_right_cancel {s t u : String} : s ++ u = t ++ u ↔ s = t := by
  constructor
  · intro h
    apply String.toList_injective
    have hlist := congrArg String.toList h
    rwa [String.toList_append, String.toList_append, List.append_cancel_right_eq] at hlist
  · rintro rfl
    rfl

/-- The registered path is that of the route exactly when the settings say so. -/
theorem callbackPath_eq_iff {server : String} (hserver : server ≠ "") :
    callbackPath server = c.makeRoutePath "/sso/oauth2/callback" ↔
      (c.contextPath = "/" ∧ server = "/") ∨ (server ≠ "/" ∧ slashed server = routePrefix c ++ "/sso") := by
  have hsuffix : "/sso/oauth2/callback" = "/sso" ++ "/oauth2/callback" := by decide
  rw [makeRoutePath_callback, callbackPath]
  by_cases hroot : server = "/"
  · rw [if_pos hroot]
    have hslashed : slashed "/sso/oauth2/callback" = "" ++ "/sso/oauth2/callback" := by decide
    rw [hslashed, append_right_cancel, routePrefix]
    by_cases hcontext : c.contextPath = "/"
    · simp [hcontext, hroot]
    · simp [hcontext, hroot, (contextPath_ne_empty c).symm]
  · rw [if_neg hroot, slashed_append hserver, hsuffix, ← String.append_assoc, append_right_cancel]
    simp [hroot]

/-- The registered addresses, when there are any. -/
theorem getCallbackLogoutUrls_eq_ok (address : String) :
    (∃ urls, c.getCallbackLogoutUrls = .ok urls ∧ address ∈ urls.1) ↔ ∃ server, serverContextPath c = some server ∧
        ∃ host ∈ c.loadBalancerDnsName :: (c.certificatesCustomDnsName.or c.customDnsName).toList,
          address = uri host (callbackPath server) := by
  unfold getCallbackLogoutUrls serverContextPath
  rcases c.serverWebResourcesContextPath with _ | value
  · constructor
    · rintro ⟨urls, h, -⟩
      cases h
    · rintro ⟨server, h, -⟩
      cases h
  · rw [Option.bind_some, show getRequiredString _ (some value) = .ok (getString value none) from rfl]
    rcases getString value none with _ | server
    · constructor
      · rintro ⟨urls, h, -⟩
        cases h
      · rintro ⟨server, h, -⟩
        cases h
    · have hsome : (some server = some "/") ↔ server = "/" := by simp
      constructor
      · rintro ⟨urls, h, hmem⟩
        rw [← Except.ok.inj h] at hmem
        obtain ⟨host, hhost, rfl⟩ := List.mem_map.mp hmem
        refine ⟨server, rfl, host, hhost, ?_⟩
        simp only [hsome, formatted, callbackPath]
      · rintro ⟨server', hserver, host, hhost, rfl⟩
        cases hserver
        refine ⟨_, rfl, List.mem_map.mpr ⟨host, hhost, ?_⟩⟩
        simp only [hsome, formatted, callbackPath]

/-- The host of the address that is sent has its addresses registered. -/
theorem externalHost_mem :
    c.externalHost ∈ c.loadBalancerDnsName :: (c.certificatesCustomDnsName.or c.customDnsName).toList := by
  unfold externalHost
  cases c.certificatesCustomDnsName with
  | none => exact List.mem_cons_self
  | some name => simp

theorem isSome_of_getRequiredString {key : String} {entry : Option (Option String)} {value : Option String}
    (h : getRequiredString key entry = .ok value) : entry.isSome := by
  cases entry with
  | none => cases h
  | some _ => rfl

/-- The address that is sent, when one is. -/
theorem redirectUri_of_authorize {c : SsoSettings} {state : String} {created : Except SettingError Unit}
    {request : AuthorizationRequest} (h : c.ssoInitiateRoute state created = .authorize request) :
    CanInitiate c ∧ request.redirectUri = uri c.externalHost (c.makeRoutePath "/sso/oauth2/callback") := by
  unfold ssoInitiateRoute initiate at h
  split at h
  · cases h
  · rename_i henabled
    split at h
    · rename_i request' hrequest
      cases h
      have hon : c.ssoEnabled = true := by simpa using henabled
      obtain ⟨domainUrl, hdomain, hrest⟩ := bind_eq_ok.mp hrequest
      obtain ⟨ssoClientId, hclient, hrest⟩ := bind_eq_ok.mp hrest
      obtain ⟨ssoIdpProviderName, hprovider, hrest⟩ := bind_eq_ok.mp hrest
      obtain ⟨⟨⟩, -, hrest⟩ := bind_eq_ok.mp hrest
      rw [← Except.ok.inj hrest]
      exact ⟨⟨hon, isSome_of_getRequiredString hdomain, isSome_of_getRequiredString hclient,
        isSome_of_getRequiredString hprovider⟩, rfl⟩
    · cases h

/-- A portal that can start a sign-on does so once the state is stored. -/
theorem exists_authorize {c : SsoSettings} (h : CanInitiate c) (state : String) :
    ∃ request, c.ssoInitiateRoute state (.ok ()) = .authorize request := by
  obtain ⟨hon, hdomain, hclient, hprovider⟩ := h
  obtain ⟨domainUrl, hdomain⟩ := Option.isSome_iff_exists.mp hdomain
  obtain ⟨ssoClientId, hclient⟩ := Option.isSome_iff_exists.mp hclient
  obtain ⟨ssoIdpProviderName, hprovider⟩ := Option.isSome_iff_exists.mp hprovider
  unfold ssoInitiateRoute initiate
  rw [hon, hdomain, hclient, hprovider]
  exact ⟨_, rfl⟩

/-- **The address is registered and leads to the callback route exactly when the paths agree**, or no sign-on is
started at all. -/
theorem redirectRegistered_iff (app : HttpApp) (c : SsoSettings) :
    RedirectRegistered app c ↔ ¬ CanInitiate c ∨ PathsAgree c := by
  constructor
  · intro h
    by_cases hcan : CanInitiate c
    · right
      obtain ⟨request, hrequest⟩ := exists_authorize hcan ""
      obtain ⟨hurls, hmounted⟩ := h "" (.ok ()) request hrequest
      obtain ⟨server, hserver, host, -, haddress⟩ := (getCallbackLogoutUrls_eq_ok c _).mp hurls
      rw [(redirectUri_of_authorize hrequest).2] at haddress hmounted
      have hslash : startsWith (c.makeRoutePath "/sso/oauth2/callback") "/" = true := by
        by_contra hslash
        have hne : c.makeRoutePath "/sso/oauth2/callback" ≠ "" := by
          intro hempty
          rw [makeRoutePath_callback] at hempty
          simpa using congrArg String.toList hempty
        have hless := length_uriPath_lt c.externalHost hne hslash
        have hlong := app.addRoute_length (c.makeRoutePath "/sso/oauth2/callback")
        rw [hmounted] at hless
        omega
      have hcallback : startsWith (callbackPath server) "/" = true := startsWith_slashed _
      have hpath : callbackPath server = c.makeRoutePath "/sso/oauth2/callback" := by
        have huri := congrArg uriPath haddress
        rw [uriPath_uri_of_slash _ hslash, uriPath_uri_of_slash _ hcallback] at huri
        exact huri.symm
      exact ⟨(startsWith_makeRoutePath c).mp hslash, server, hserver,
        (callbackPath_eq_iff c (serverContextPath_ne_empty hserver)).mp hpath⟩
    · exact .inl hcan
  · rintro (hcan | ⟨hslash, server, hserver, hagree⟩) state created request hrequest
    · exact absurd (redirectUri_of_authorize hrequest).1 hcan
    · have hpath := (callbackPath_eq_iff c (serverContextPath_ne_empty hserver)).mpr hagree
      have hroute := (startsWith_makeRoutePath c).mpr hslash
      rw [(redirectUri_of_authorize hrequest).2, uriPath_uri_of_slash _ hroute, app.addRoute_slash _ hroute]
      refine ⟨(getCallbackLogoutUrls_eq_ok c _).mpr ⟨server, hserver, c.externalHost, externalHost_mem c, ?_⟩, rfl⟩
      rw [hpath]

/-! ## A portal below a path -/

/-- A server that mounts routes as they are, with a slash in front. -/
def slashedRoutes : HttpApp where
  addRoute := slashed
  addRoute_slash path h := by rw [slashed, if_pos h]
  addRoute_length path := by
    unfold slashed
    split
    · exact Nat.le_refl _
    · rw [String.toList_append, List.length_append]
      exact Nat.le_add_left _ _

/-- A cluster that serves its web resources under `/res`; the key of the portal is not set. -/
def belowRes : SsoSettings where
  ssoEnabled := true
  domainUrl := some (some "https://res.auth.us-east-1.amazoncognito.com")
  ssoClientId := some (some "client")
  ssoIdpProviderName := some (some "idc")
  webResourcesContextPath := none
  serverWebResourcesContextPath := some (some "/res")
  loadBalancerDnsName := ⟨"alb.example.com", by decide⟩
  certificatesCustomDnsName := none
  customDnsName := none

/-- The portal sends the address of `/sso/oauth2/callback`, and that of `/res/oauth2/callback` is registered. -/
theorem not_redirectRegistered_belowRes : ¬ RedirectRegistered slashedRoutes belowRes := by
  intro h
  obtain ⟨⟨urls, hurls, hmem⟩, -⟩ := h "state" (.ok ()) _ rfl
  have hregistered : belowRes.getCallbackLogoutUrls =
      .ok (["https://alb.example.com/res/oauth2/callback"], ["https://alb.example.com/res"]) := by decide
  rw [hregistered] at hurls
  cases hurls
  revert hmem
  decide

end ContainRes.WebPortal
