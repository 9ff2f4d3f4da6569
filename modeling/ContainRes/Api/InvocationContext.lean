import ContainRes.Common.Exceptions
import ContainRes.Common.Model
import ContainRes.Effects.Proc
import ContainRes.Store.Table
import ContainRes.Text.Python

/-! # Authorization of an API invocation

`ApiInvocationContext` decides whether an invocation may run an operation. The decision goes through
a decoded token and an authorization, both cached in the context, and asks
`ApiAuthorizationServiceBase` for the user behind a token.

* **`getAuthorization`** — the cached authorization of the invocation, and `freshAuthorization`, the
  same without a cache; `run_getAuthorization` says that a correct cache changes nothing.
* **`isAuthorized`** — the check every API operation starts with.
* **`isAuthorized_iff`** — who is let through: the unix socket, an enabled user of a sufficient
  role, or an app token whose scope list covers the module and the requested scopes. -/

namespace ContainRes.Api

open Effects Store Text

/-! ## Tokens -/

/-- The claims of a decoded JWT. -/
abbrev DecodedToken := Table String String

/-- Python truth of an optional string: present and not `''`. -/
def truthy (s : Option String) : Bool := s.any (· != "")

inductive ApiAuthorizationType
  | administrator
  | user
  | app
  deriving DecidableEq, Repr

structure ApiAuthorization where
  type : ApiAuthorizationType
  username : Option String
  clientId : Option String
  scopes : Option (List String)
  invocationSource : Option String
  deriving DecidableEq, Repr

/-! ## `ApiAuthorizationServiceBase` -/

/-- An authorization service: the one method its subclasses supply. -/
structure ApiAuthorizationService where
  /-- `get_user_from_token_username(token_username)`. -/
  getUserFromTokenUsername : String → Except Exc (Option User)

namespace ApiAuthorizationService

variable (service : ApiAuthorizationService)

def getAuthorizationType (role : Option String) : ApiAuthorizationType :=
  if truthy role then
    if role = some "admin" then .administrator else .user
  else .user

/-- The scopes of an app token: `scope.split(' ')`, or none without a scope claim. -/
def tokenScopes (token : DecodedToken) : Option (List String) :=
  if truthy (token.getItem "scope") then (token.getItem "scope").map (splitChar ' ') else none

/-- `get_authorization(decoded_token)`: a token without a username is an app token; otherwise the
user behind it must exist and be enabled. -/
def getAuthorization (token : DecodedToken) : Except Exc ApiAuthorization :=
  match token.getItem "username" with
  | some username =>
    if username = "" then .ok (appAuthorization token)
    else
      match service.getUserFromTokenUsername username with
      | .error e => .error e
      | .ok none => .error (.other .attributeError "'NoneType' object has no attribute 'username'")
      | .ok (some user) =>
        if user.enabled = some true then
          .ok { type := getAuthorizationType user.role, username := user.username,
                clientId := token.getItem "client_id", scopes := none,
                invocationSource := none }
        else .error (.unauthorizedAccess (some "USER_IS_DISABLED"))
  | none => .ok (appAuthorization token)
where
  /-- The authorization of a token without a username. -/
  appAuthorization (token : DecodedToken) : ApiAuthorization :=
    { type := .app, username := token.getItem "username", clientId := token.getItem "client_id",
      scopes := tokenScopes token, invocationSource := none }

def isScopeAuthorized (token : DecodedToken) (scope : String) : Except Exc Bool :=
  if token.scan.isEmpty then .ok false
  else if scope = "" then .ok false
  else
    match service.getAuthorization token with
    | .error e => .error e
    | .ok authorization =>
      if authorization.type ≠ .app then .ok false
      else .ok (authorization.scopes.any fun scopes => scopes.contains scope)

theorem getAuthorizationType_administrator_iff {role : Option String} :
    getAuthorizationType role = .administrator ↔ role = some "admin" := by
  unfold getAuthorizationType
  split
  · split <;> simp_all
  · rename_i h
    refine iff_of_false (by decide) ?_
    rintro rfl
    exact h rfl

theorem getAuthorizationType_ne_app {role : Option String} : getAuthorizationType role ≠ .app := by
  unfold getAuthorizationType
  split
  · split <;> decide
  · decide

variable {service} {token : DecodedToken}

/-- A token is authorized as an app exactly when it names no user. -/
theorem getAuthorization_app_iff {authorization : ApiAuthorization} :
    service.getAuthorization token = .ok authorization ∧ authorization.type = .app ↔
      truthy (token.getItem "username") = false ∧ authorization = getAuthorization.appAuthorization token := by
  unfold getAuthorization
  rcases token.getItem "username" with _ | username
  · constructor
    · rintro ⟨⟨⟩, -⟩
      exact ⟨rfl, rfl⟩
    · rintro ⟨-, rfl⟩
      exact ⟨rfl, rfl⟩
  · by_cases hname : username = ""
    · simp only [hname, if_true, Except.ok.injEq]
      constructor
      · rintro ⟨rfl, -⟩
        exact ⟨rfl, rfl⟩
      · rintro ⟨-, rfl⟩
        exact ⟨rfl, rfl⟩
    · simp only [hname, if_false, truthy, Option.any_some, bne_eq_false_iff_eq, false_and, iff_false]
      rintro ⟨h, htype⟩
      rcases hget : service.getUserFromTokenUsername username with e | _ | user
      · simp [hget] at h
      · simp [hget] at h
      · by_cases henabled : user.enabled = some true
        · simp only [hget, henabled, if_true, Except.ok.injEq] at h
          subst h
          exact getAuthorizationType_ne_app htype
        · simp [hget, henabled] at h

/-- A token is authorized as a user exactly when it names an enabled one, whose role gives the
type. -/
theorem getAuthorization_user_iff {type : ApiAuthorizationType} (htype : type ≠ .app) :
    (∃ authorization, service.getAuthorization token = .ok authorization ∧ authorization.type = type) ↔
      ∃ username user, token.getItem "username" = some username ∧ username ≠ "" ∧
        service.getUserFromTokenUsername username = .ok (some user) ∧
        user.enabled = some true ∧ getAuthorizationType user.role = type := by
  unfold getAuthorization
  rcases token.getItem "username" with _ | username
  · refine iff_of_false ?_ (by simp)
    rintro ⟨_, ⟨⟩, happ⟩
    exact htype happ.symm
  · by_cases hname : username = ""
    · refine iff_of_false ?_ (by simp [hname])
      simp only [hname, if_true]
      rintro ⟨_, ⟨⟩, happ⟩
      exact htype happ.symm
    · simp only [hname, if_false, Option.some.injEq, exists_and_left, exists_eq_left', ne_eq,
        not_false_eq_true, true_and]
      rcases service.getUserFromTokenUsername username with e | _ | user
      · simp
      · simp
      · by_cases henabled : user.enabled = some true
        · simp [henabled]
        · simp [henabled]

/-- For an app token the scope check is membership in the scope list of a scope that is not `''`. -/
theorem isScopeAuthorized_of_app {scope : String}
    (h : truthy (token.getItem "username") = false) : service.isScopeAuthorized token scope =
      .ok (decide (scope ≠ "" ∧ ∃ granted ∈ tokenScopes token, scope ∈ granted)) := by
  have hget : service.getAuthorization token = .ok (getAuthorization.appAuthorization token) :=
    (getAuthorization_app_iff.mpr ⟨h, rfl⟩).1
  unfold isScopeAuthorized
  rw [hget]
  by_cases hempty : token.scan.isEmpty = true
  · have hnone : token.getItem "scope" = none := by
      refine Option.eq_none_iff_forall_ne_some.mpr fun claim hclaim => ?_
      have hmem := Table.mem_scan.mpr hclaim
      rw [List.isEmpty_iff.mp hempty] at hmem
      cases hmem
    simp [hempty, tokenScopes, hnone, truthy]
  · by_cases hscope : scope = ""
    · simp [hempty, hscope]
    · rcases hscopes : tokenScopes token with _ | granted
      · simp [hempty, hscope, getAuthorization.appAuthorization, hscopes]
      · simp [hempty, hscope, getAuthorization.appAuthorization, hscopes]

end ApiAuthorizationService

/-! ## `ApiInvocationContext` -/

/-- `TokenService`: it verifies and decodes an access token. -/
structure TokenService where
  /-- `decode_token(token)`. -/
  decodeToken : String → Except Exc DecodedToken

/-- The immutable part of an `ApiInvocationContext`. -/
structure InvocationContext where
  /-- `context.module_id()`. -/
  moduleId : String
  /-- The required setting `cluster.administrator_username`. -/
  administratorUsername : String
  invocationSource : String
  /-- The `token_type` entry of the token of the request. -/
  tokenType : Option String
  /-- The `token` entry of the token of the request. -/
  token : Option String
  /-- The header `X_RES_TEST_USERNAME`. -/
  testUsername : Option String
  tokenService : Option TokenService
  apiAuthorizationService : Option ApiAuthorizationService
  /-- `Utils.is_test_mode()`. -/
  testMode : Bool

/-- The cached fields of an `ApiInvocationContext`. -/
structure Cache where
  decodedToken : Option DecodedToken
  authorization : Option ApiAuthorization

/-- The cache of a context that was just built. -/
def Cache.empty : Cache := ⟨none, none⟩

namespace InvocationContext

variable (ctx : InvocationContext)

/-- The property `access_token`. -/
def accessToken : Option String :=
  if getAsString ctx.tokenType = some "Bearer" then getAsString ctx.token else none

def isUnixDomainSocketInvocation : Bool := ctx.invocationSource == "unix-socket"

def hasAccessToken : Bool := !isEmptyOpt ctx.accessToken

def decodeToken (token : String) : Except Exc DecodedToken :=
  match ctx.tokenService with
  | some service => service.decodeToken token
  | none => .error (.other .attributeError "'NoneType' object has no attribute 'decode_token'")

def getDecodedToken : Proc Cache Exc (Option DecodedToken) := do
  match ← Proc.gets Cache.decodedToken with
  | some token => return some token
  | none =>
    match ctx.accessToken with
    | none => return none
    | some accessToken =>
      if isEmpty accessToken then return none
      else
        let token ← Proc.liftExcept (ctx.decodeToken accessToken)
        Proc.modify fun cache => { cache with decodedToken := some token }
        return some token

/-- `self._api_authorization_service.get_authorization(decoded_token)`, marked as an HTTP one. -/
def authorizationOfToken : Option DecodedToken → Except Exc ApiAuthorization
  | none => .error (.other .attributeError "'NoneType' object has no attribute 'get'")
  | some token =>
    match ctx.apiAuthorizationService with
    | none => .error (.other .attributeError "'NoneType' object has no attribute 'get_authorization'")
    | some service =>
      (service.getAuthorization token).map fun authorization =>
        { authorization with invocationSource := some "http" }

/-- The branch of `get_authorization` for `RES_TEST_MODE`. -/
def testModeAuthorization : Except Exc ApiAuthorization :=
  match getAsString ctx.testUsername with
  | none => .error (.unauthorizedAccess none)
  | some username =>
    match ctx.apiAuthorizationService with
    | none => .error (.other .attributeError "'NoneType' object has no attribute 'get_user_from_token_username'")
    | some service =>
      match service.getUserFromTokenUsername username with
      | .error e => .error e
      | .ok none => .error (.other .attributeError "'NoneType' object has no attribute 'role'")
      | .ok (some user) =>
        .ok { type := ApiAuthorizationService.getAuthorizationType user.role,
              username := some username, clientId := none, scopes := none,
              invocationSource := some "http" }

/-- The authorization of an invocation over the unix socket. -/
def unixSocketAuthorization : ApiAuthorization :=
  { type := .administrator, username := some ctx.administratorUsername, clientId := none,
    scopes := none, invocationSource := some "unix-socket" }

/-- The authorization `get_authorization` works out when none is cached. -/
def resolveAuthorization : Proc Cache Exc ApiAuthorization :=
  if ctx.isUnixDomainSocketInvocation then pure ctx.unixSocketAuthorization
  else if ctx.hasAccessToken then
    ctx.getDecodedToken >>= fun token => Proc.liftExcept (ctx.authorizationOfToken token)
  else if ctx.testMode then Proc.liftExcept ctx.testModeAuthorization
  else Proc.raise (.unauthorizedAccess none)

def getAuthorization : Proc Cache Exc ApiAuthorization := do
  match ← Proc.gets Cache.authorization with
  | some authorization => return authorization
  | none =>
    let result ← ctx.resolveAuthorization
    Proc.modify fun cache => { cache with authorization := some result }
    return result

/-- The default of the parameter `authorization` of the checks below. -/
def orGetAuthorization : Option ApiAuthorization → Proc Cache Exc ApiAuthorization
  | some authorization => pure authorization
  | none => ctx.getAuthorization

def isAdministrator (authorization : Option ApiAuthorization) : Proc Cache Exc Bool := do
  let authorization ← ctx.orGetAuthorization authorization
  return authorization.type == .administrator

def isAuthorizedUser (authorization : Option ApiAuthorization) : Proc Cache Exc Bool := do
  let authorization ← ctx.orGetAuthorization authorization
  if ← ctx.isAdministrator (some authorization) then return true
  else return authorization.type == .user

/-- `f'{self._context.module_id()}/read'`. -/
def moduleReadScope : String := s!"{ctx.moduleId}/read"

/-- `f'{self._context.module_id()}/write'`. -/
def moduleWriteScope : String := s!"{ctx.moduleId}/write"

def isAuthorizedApp (authorization : Option ApiAuthorization) : Proc Cache Exc Bool := do
  let authorization ← ctx.orGetAuthorization authorization
  if authorization.type ≠ .app then return false
  else
    match authorization.scopes with
    | none => return false
    | some scopes =>
      return scopes.any fun scope => scope = ctx.moduleReadScope ∨ scope = ctx.moduleWriteScope

/-- `is_scope_authorized(scope)`: it decodes the token again, whatever is cached. -/
def isScopeAuthorized (scope : String) : Except Exc Bool :=
  match ctx.accessToken with
  | none => .ok false
  | some accessToken =>
    if isEmpty accessToken then .ok false
    else
      match ctx.apiAuthorizationService, ctx.tokenService with
      | some authorizationService, some tokenService =>
        match tokenService.decodeToken accessToken with
        | .error e => .error e
        | .ok token => authorizationService.isScopeAuthorized token scope
      | _, _ => .ok false

/-- The loop of `is_authorized` over the requested scopes; it stops at the first refused one. -/
def allScopesAuthorized : List String → Except Exc Bool
  | [] => .ok true
  | scope :: scopes =>
    match ctx.isScopeAuthorized scope with
    | .error e => .error e
    | .ok false => .ok false
    | .ok true => allScopesAuthorized scopes

/-- The local `authorized_user` of `is_authorized`. -/
def authorizedUser (elevatedAccess : Bool) (authorization : ApiAuthorization) :
    Proc Cache Exc Bool :=
  if elevatedAccess then ctx.isAdministrator (some authorization)
  else ctx.isAuthorizedUser (some authorization)

/-- The local `authorized_scopes` of `is_authorized`; no requested scopes are no authorization. -/
def authorizedScopes (scopes : Option (List String)) (authorization : ApiAuthorization) :
    Proc Cache Exc Bool := do
  if scopes.getD [] = [] then return false
  else if ← ctx.isAuthorizedApp (some authorization) then
    Proc.liftExcept (ctx.allScopesAuthorized (scopes.getD []))
  else return false

def isAuthorized (elevatedAccess : Bool) (scopes : Option (List String)) :
    Proc Cache Exc Bool := do
  let authorization ← ctx.getAuthorization
  let authorizedUser ← ctx.authorizedUser elevatedAccess authorization
  let authorizedScopes ← ctx.authorizedScopes scopes authorization
  return authorizedUser || authorizedScopes

def isAuthenticatedUser (authorization : Option ApiAuthorization) : Proc Cache Exc Bool := do
  let authorization ← ctx.orGetAuthorization authorization
  return authorization.type == .user || authorization.type == .administrator

def getUsername : Proc Cache Exc (Option String) :=
  match ctx.apiAuthorizationService with
  | none => pure none
  | some _ => do
    let authorization ← ctx.getAuthorization
    return authorization.username

/-! ## The cache -/

/-- The token of the invocation, decoded. -/
def freshToken : Except Exc (Option DecodedToken) :=
  match ctx.accessToken with
  | none => .ok none
  | some accessToken =>
    if isEmpty accessToken then .ok none else (ctx.decodeToken accessToken).map some

/-- The authorization of the invocation, worked out without a cache. -/
def freshAuthorization : Except Exc ApiAuthorization :=
  if ctx.isUnixDomainSocketInvocation then .ok ctx.unixSocketAuthorization
  else if ctx.hasAccessToken then ctx.freshToken >>= ctx.authorizationOfToken
  else if ctx.testMode then ctx.testModeAuthorization
  else .error (.unauthorizedAccess none)

/-- What is cached is what would be worked out. -/
structure CacheOk (cache : Cache) : Prop where
  decodedToken : ∀ token, cache.decodedToken = some token → ctx.freshToken = .ok (some token)
  authorization : ∀ authorization, cache.authorization = some authorization →
    ctx.freshAuthorization = .ok authorization

theorem cacheOk_empty : ctx.CacheOk Cache.empty :=
  ⟨by simp [Cache.empty], by simp [Cache.empty]⟩

variable {ctx} {cache : Cache}

/-- Decoding through the cache is decoding, and the cache stays correct. -/
theorem run_getDecodedToken (h : ctx.CacheOk cache) :
    (ctx.getDecodedToken.run cache).1 = ctx.freshToken ∧ ctx.CacheOk (ctx.getDecodedToken.run cache).2 := by
  unfold getDecodedToken
  rw [Proc.run_bind_of_ok (Proc.run_gets _ _)]
  rcases hcached : cache.decodedToken with _ | token
  · rcases htoken : ctx.accessToken with _ | accessToken
    · refine ⟨?_, h⟩
      simp [freshToken, htoken]
    · by_cases hblank : isEmpty accessToken = true
      · simp [freshToken, htoken, hblank, h]
      · have hblank' : isEmpty accessToken = false := by simpa using hblank
        rcases hdecode : ctx.decodeToken accessToken with e | token
        · simp [freshToken, htoken, hblank', hdecode, h, Proc.run_bind, Except.map]
        · have hfresh : ctx.freshToken = .ok (some token) := by
            simp [freshToken, htoken, hblank', hdecode, Except.map]
          simp only [hblank', hdecode, hfresh, Proc.run_bind, Proc.run_liftExcept, Proc.run_modify,
            Proc.run_pure, Bool.false_eq_true, if_false, true_and]
          refine ⟨?_, h.authorization⟩
          rintro token' ⟨⟩
          exact hfresh
  · exact ⟨(h.decodedToken token hcached).symm, h⟩

/-- The branches of `get_authorization` give the fresh authorization. -/
theorem run_resolveAuthorization (h : ctx.CacheOk cache) :
    (ctx.resolveAuthorization.run cache).1 = ctx.freshAuthorization ∧
      ctx.CacheOk (ctx.resolveAuthorization.run cache).2 := by
  unfold resolveAuthorization freshAuthorization
  split
  · exact ⟨rfl, h⟩
  · split
    · obtain ⟨hvalue, hcache⟩ := run_getDecodedToken h
      rw [Proc.run_bind, ← hvalue]
      rcases hrun : ctx.getDecodedToken.run cache with ⟨e | token, cache'⟩
      · rw [hrun] at hcache
        exact ⟨rfl, hcache⟩
      · rw [hrun] at hcache
        simp only [Proc.run_liftExcept]
        exact ⟨rfl, hcache⟩
    · split
      · rw [Proc.run_liftExcept]
        exact ⟨rfl, h⟩
      · exact ⟨rfl, h⟩

/-- **The cache is transparent.** With a correct cache `get_authorization` gives the fresh
authorization, and the cache it leaves is correct. -/
theorem run_getAuthorization (h : ctx.CacheOk cache) :
    (ctx.getAuthorization.run cache).1 = ctx.freshAuthorization ∧ ctx.CacheOk (ctx.getAuthorization.run cache).2 := by
  unfold getAuthorization
  rw [Proc.run_bind_of_ok (Proc.run_gets _ _)]
  rcases hcached : cache.authorization with _ | authorization
  · obtain ⟨hvalue, hcache⟩ := run_resolveAuthorization h
    rcases hrun : ctx.resolveAuthorization.run cache with ⟨e | result, cache'⟩
    · rw [hrun] at hvalue hcache
      simp only [Proc.run_bind_of_error hrun]
      exact ⟨hvalue, hcache⟩
    · rw [hrun] at hvalue hcache
      simp only [Proc.run_bind_of_ok hrun]
      refine ⟨hvalue, hcache.decodedToken, ?_⟩
      rintro authorization ⟨⟩
      exact hvalue.symm
  · exact ⟨(h.authorization authorization hcached).symm, h⟩

/-! ## The decision -/

variable (authorization : ApiAuthorization)

@[simp] theorem run_isAdministrator (cache : Cache) :
    (ctx.isAdministrator (some authorization)).run cache = (.ok (authorization.type == .administrator), cache) := rfl

@[simp] theorem run_isAuthorizedUser (cache : Cache) : (ctx.isAuthorizedUser (some authorization)).run cache =
      (.ok (authorization.type == .administrator || authorization.type == .user), cache) := by
  cases htype : authorization.type <;>
    simp [isAuthorizedUser, orGetAuthorization, Proc.run_bind, htype]

/-- An app is authorized when its scope list has one of the two scopes of the module. -/
def GrantsModule (ctx : InvocationContext) (granted : List String) : Prop :=
  ctx.moduleReadScope ∈ granted ∨ ctx.moduleWriteScope ∈ granted

instance (granted : List String) : Decidable (ctx.GrantsModule granted) :=
  inferInstanceAs (Decidable (_ ∨ _))

@[simp] theorem run_isAuthorizedApp (cache : Cache) :
    (ctx.isAuthorizedApp (some authorization)).run cache = (.ok (decide (authorization.type = .app ∧
        ∃ granted ∈ authorization.scopes, ctx.GrantsModule granted)), cache) := by
  unfold isAuthorizedApp
  by_cases htype : authorization.type = .app
  · rcases hscopes : authorization.scopes with _ | granted
    · simp [orGetAuthorization, Proc.run_bind, htype, hscopes]
    · simp only [orGetAuthorization, Proc.run_bind, Proc.run_pure, htype, hscopes, ne_eq,
        not_true_eq_false, if_false, Option.mem_def, Option.some.injEq, true_and, exists_eq_left',
        Prod.mk.injEq, Except.ok.injEq, and_true]
      rw [Bool.eq_iff_iff]
      simp only [List.any_eq_true, decide_eq_true_eq, GrantsModule]
      grind
  · simp [orGetAuthorization, Proc.run_bind, htype]

@[simp] theorem run_authorizedUser (elevatedAccess : Bool) (authorization : ApiAuthorization) (cache : Cache) :
    (ctx.authorizedUser elevatedAccess authorization).run cache = (.ok (decide (authorization.type = .administrator ∨
        elevatedAccess = false ∧ authorization.type = .user)), cache) := by
  unfold authorizedUser
  cases elevatedAccess <;> cases htype : authorization.type <;> simp [htype]

/-- The requested scopes are looked at only for an app that may use the module. -/
theorem run_authorizedScopes (scopes : Option (List String)) (authorization : ApiAuthorization) (cache : Cache) :
    (ctx.authorizedScopes scopes authorization).run cache = (if scopes.getD [] ≠ [] ∧ authorization.type = .app ∧
          ∃ granted ∈ authorization.scopes, ctx.GrantsModule granted
        then ctx.allScopesAuthorized (scopes.getD []) else .ok false, cache) := by
  unfold authorizedScopes
  by_cases hnil : scopes.getD [] = []
  · simp [hnil]
  · rw [if_neg hnil, Proc.run_bind_of_ok (run_isAuthorizedApp authorization cache)]
    by_cases happ : authorization.type = .app ∧
        ∃ granted ∈ authorization.scopes, ctx.GrantsModule granted
    · rw [if_pos (decide_eq_true happ), if_pos ⟨hnil, happ⟩, Proc.run_liftExcept]
    · rw [if_neg (mt of_decide_eq_true happ), if_neg fun h => happ h.2]
      rfl

/-- `is_authorized` returns `True` for a user of a sufficient role and for an app that may use the
module and is granted every requested scope. -/
theorem isAuthorized_true_iff {elevatedAccess : Bool} {scopes : Option (List String)} :
    ((ctx.isAuthorized elevatedAccess scopes).run cache).1 = .ok true ↔
      ∃ authorization, (ctx.getAuthorization.run cache).1 = .ok authorization ∧ ((authorization.type = .administrator ∨
            elevatedAccess = false ∧ authorization.type = .user) ∨ (scopes.getD [] ≠ [] ∧ authorization.type = .app ∧
            ∃ granted ∈ authorization.scopes, ctx.GrantsModule granted) ∧
            ctx.allScopesAuthorized (scopes.getD []) = .ok true) := by
  unfold isAuthorized
  rw [Proc.run_bind]
  rcases hrun : ctx.getAuthorization.run cache with ⟨e | authorization, cache'⟩
  · simp
  · simp only [Except.ok.injEq, exists_eq_left',
      Proc.run_bind_of_ok (run_authorizedUser elevatedAccess authorization cache')]
    rw [Proc.run_bind, run_authorizedScopes]
    by_cases happ : scopes.getD [] ≠ [] ∧ authorization.type = .app ∧
        ∃ granted ∈ authorization.scopes, ctx.GrantsModule granted
    · obtain ⟨hne, htype, hgrants⟩ := happ
      rw [if_pos ⟨hne, htype, hgrants⟩]
      rcases ctx.allScopesAuthorized (scopes.getD []) with e | b
      · simp [htype]
      · simpa [htype, hne] using fun _ => hgrants
    · rw [if_neg happ]
      simp only [Bool.or_false, Proc.run_pure, Except.ok.injEq, decide_eq_true_eq, happ, false_and, or_false]

variable {authorization : ApiAuthorization}

/-- A user without the administrator role is refused where elevated access is asked for. -/
theorem run_isAuthorized_of_user (scopes : Option (List String)) (hcache : ctx.CacheOk cache)
    (hfresh : ctx.freshAuthorization = .ok authorization) (huser : authorization.type = .user) :
    ∃ cache', (ctx.isAuthorized true scopes).run cache = (.ok false, cache') ∧ ctx.CacheOk cache' := by
  obtain ⟨hvalue, hcache'⟩ := run_getAuthorization hcache
  refine ⟨(ctx.getAuthorization.run cache).2, ?_, hcache'⟩
  have hrun : ctx.getAuthorization.run cache =
      (.ok authorization, (ctx.getAuthorization.run cache).2) := by
    rw [← hfresh, ← hvalue]
  have hscopes : (ctx.authorizedScopes scopes authorization).run (ctx.getAuthorization.run cache).2 =
      (.ok false, (ctx.getAuthorization.run cache).2) := by
    rw [run_authorizedScopes, if_neg]
    rintro ⟨-, happ, -⟩
    rw [huser] at happ
    cases happ
  rw [isAuthorized, Proc.run_bind_of_ok hrun, Proc.run_bind_of_ok (run_authorizedUser true authorization _),
    Proc.run_bind_of_ok hscopes]
  simp [huser]

/-- What a check answers for the authorization of the invocation. -/
theorem run_bind_getAuthorization {α : Type} (hcache : ctx.CacheOk cache)
    (hfresh : ctx.freshAuthorization = .ok authorization) (f : ApiAuthorization → α) :
    ∃ cache', (ctx.getAuthorization >>= fun authorization => pure (f authorization)).run cache =
      (.ok (f authorization), cache') ∧ ctx.CacheOk cache' := by
  obtain ⟨hvalue, hcache'⟩ := run_getAuthorization hcache
  refine ⟨(ctx.getAuthorization.run cache).2, ?_, hcache'⟩
  have hrun : ctx.getAuthorization.run cache =
      (.ok authorization, (ctx.getAuthorization.run cache).2) := by
    rw [← hfresh, ← hvalue]
  rw [Proc.run_bind_of_ok hrun, Proc.run_pure]

/-- An authorization of a user came from an authorization service. -/
theorem apiAuthorizationService_of_user
    (hfresh : ctx.freshAuthorization = .ok authorization) (huser : authorization.type = .user) :
    ctx.apiAuthorizationService ≠ none := by
  intro hnone
  unfold freshAuthorization at hfresh
  split at hfresh
  · cases hfresh
    cases huser
  · split at hfresh
    · rcases htoken : ctx.freshToken with e | _ | token <;> rw [htoken] at hfresh
      · cases hfresh
      · cases hfresh
      · have herr : ctx.authorizationOfToken (some token) = .ok authorization := hfresh
        rw [authorizationOfToken, hnone] at herr
        cases herr
    · split at hfresh
      · unfold testModeAuthorization at hfresh
        rw [hnone] at hfresh
        split at hfresh <;> cases hfresh
      · cases hfresh

/-- The request carries an access token that the token service verifies. -/
def CarriesToken (ctx : InvocationContext) (token : DecodedToken) : Prop :=
  ∃ accessToken, ctx.accessToken = some accessToken ∧ isEmpty accessToken = false ∧
    ctx.decodeToken accessToken = .ok token

variable {token : DecodedToken}

theorem freshToken_some_iff : ctx.freshToken = .ok (some token) ↔ ctx.CarriesToken token := by
  unfold freshToken CarriesToken
  rcases ctx.accessToken with _ | accessToken
  · simp
  · rcases hblank : isEmpty accessToken with _ | _
    · rcases hdecode : ctx.decodeToken accessToken <;> simp [Except.map, hblank, hdecode]
    · simp [hblank]

theorem CarriesToken.hasAccessToken (h : ctx.CarriesToken token) : ctx.hasAccessToken = true := by
  obtain ⟨accessToken, htoken, hblank, -⟩ := h
  simp [InvocationContext.hasAccessToken, isEmptyOpt, htoken, hblank]

/-- Outside test mode an authorization comes from the unix socket or from a valid token. -/
theorem freshAuthorization_ok_iff (htest : ctx.testMode = false) : ctx.freshAuthorization = .ok authorization ↔
      ctx.isUnixDomainSocketInvocation = true ∧ authorization = ctx.unixSocketAuthorization ∨
      ctx.isUnixDomainSocketInvocation = false ∧ ∃ token, ctx.CarriesToken token ∧
        ctx.authorizationOfToken (some token) = .ok authorization := by
  unfold freshAuthorization
  by_cases hunix : ctx.isUnixDomainSocketInvocation = true
  · simp [hunix, eq_comm]
  · by_cases haccess : ctx.hasAccessToken = true
    · simp only [hunix, haccess, Bool.false_eq_true, if_false, if_true, false_and, false_or,
        true_and, ← freshToken_some_iff]
      rcases ctx.freshToken with e | token | token
      · simp [bind, Except.bind]
      · simp [bind, Except.bind, authorizationOfToken]
      · simp [bind, Except.bind]
    · have hno : ∀ token, ¬ ctx.CarriesToken token := fun token h => haccess h.hasAccessToken
      simp [hunix, haccess, htest, hno]

/-- The scope check of the context is the one of the service on the token carried. -/
theorem isScopeAuthorized_of_carriesToken
    {service : ApiAuthorizationService} (htoken : ctx.CarriesToken token)
    (hservice : ctx.apiAuthorizationService = some service) (scope : String) :
    ctx.isScopeAuthorized scope = service.isScopeAuthorized token scope := by
  obtain ⟨accessToken, haccess, hblank, hdecode⟩ := htoken
  unfold decodeToken at hdecode
  unfold isScopeAuthorized
  rcases htokenService : ctx.tokenService with _ | tokenService
  · simp [htokenService] at hdecode
  · rw [htokenService] at hdecode
    simp [haccess, hblank, hservice, hdecode]

/-- The loop over the requested scopes asks for all of them. -/
theorem allScopesAuthorized_eq {granted : String → Prop} [DecidablePred granted]
    (h : ∀ scope, ctx.isScopeAuthorized scope = .ok (decide (granted scope))) (requested : List String) :
    ctx.allScopesAuthorized requested = .ok (decide (∀ scope ∈ requested, granted scope)) := by
  induction requested with
  | nil => simp [allScopesAuthorized]
  | cons scope scopes ih =>
    unfold allScopesAuthorized
    rw [h scope]
    by_cases hscope : granted scope
    · simp [hscope, ih]
    · simp [hscope]

/-! ## Who is authorized -/

/-- The request carries a valid token of an enabled user who is an administrator or, unless
elevated access is asked for, of any role. -/
def UserAuthorized (ctx : InvocationContext) (elevatedAccess : Bool) : Prop :=
  ∃ token service username user, ctx.CarriesToken token ∧
    ctx.apiAuthorizationService = some service ∧
    token.getItem "username" = some username ∧ username ≠ "" ∧
    service.getUserFromTokenUsername username = .ok (some user) ∧ user.enabled = some true ∧
    (user.role = some "admin" ∨ elevatedAccess = false)

/-- The request carries a valid token without a username, whose scope list has a scope of the
module and every one of the requested scopes, of which there is at least one. -/
def AppAuthorized (ctx : InvocationContext) (scopes : Option (List String)) : Prop :=
  ∃ token service granted, ctx.CarriesToken token ∧
    ctx.apiAuthorizationService = some service ∧ truthy (token.getItem "username") = false ∧
    ApiAuthorizationService.tokenScopes token = some granted ∧ ctx.GrantsModule granted ∧
    scopes.getD [] ≠ [] ∧ ∀ scope ∈ scopes.getD [], scope ∈ granted

theorem authorizationOfToken_ok_iff : ctx.authorizationOfToken (some token) = .ok authorization ↔
      ∃ service result, ctx.apiAuthorizationService = some service ∧ service.getAuthorization token = .ok result ∧
        authorization = { result with invocationSource := some "http" } := by
  unfold authorizationOfToken
  rcases ctx.apiAuthorizationService with _ | service
  · simp
  · rcases hget : service.getAuthorization token with e | result
    · simp [Except.map, hget]
    · simp [Except.map, hget, eq_comm]

/-- The token carried gives an authorization of a sufficient type for a `UserAuthorized` request
and for no other. -/
theorem userAuthorized_iff {elevatedAccess : Bool} :
    ctx.UserAuthorized elevatedAccess ↔ ∃ token authorization, ctx.CarriesToken token ∧
      ctx.authorizationOfToken (some token) = .ok authorization ∧ (authorization.type = .administrator ∨
        elevatedAccess = false ∧ authorization.type = .user) := by
  constructor
  · rintro ⟨token, service, username, user, htoken, hservice, hname, hne, huser, henabled, hrole⟩
    have htype : ApiAuthorizationService.getAuthorizationType user.role ≠ .app :=
      ApiAuthorizationService.getAuthorizationType_ne_app
    obtain ⟨result, hresult, hresultType⟩ :=
      (ApiAuthorizationService.getAuthorization_user_iff htype).mpr
        ⟨username, user, hname, hne, huser, henabled, rfl⟩
    refine ⟨token, _, htoken, authorizationOfToken_ok_iff.mpr ⟨service, result, hservice, hresult, rfl⟩, ?_⟩
    show result.type = .administrator ∨ elevatedAccess = false ∧ result.type = .user
    rw [hresultType]
    rcases hrole with hadmin | helevated
    · exact .inl (ApiAuthorizationService.getAuthorizationType_administrator_iff.mpr hadmin)
    · cases hkind : ApiAuthorizationService.getAuthorizationType user.role with
      | administrator => exact .inl rfl
      | user => exact .inr ⟨helevated, rfl⟩
      | app => exact absurd hkind htype
  · rintro ⟨token, authorization, htoken, hauth, htype⟩
    obtain ⟨service, result, hservice, hresult, rfl⟩ := authorizationOfToken_ok_iff.mp hauth
    replace htype : result.type = .administrator ∨ elevatedAccess = false ∧ result.type = .user := htype
    have hne : result.type ≠ .app := by
      rintro happ
      rcases htype with h | ⟨-, h⟩ <;> rw [happ] at h <;> cases h
    obtain ⟨username, user, hname, hnameNe, huser, henabled, hrole⟩ :=
      (ApiAuthorizationService.getAuthorization_user_iff hne).mp ⟨result, hresult, rfl⟩
    refine ⟨token, service, username, user, htoken, hservice, hname, hnameNe, huser, henabled, ?_⟩
    rcases htype with h | ⟨h, -⟩
    · exact .inl (ApiAuthorizationService.getAuthorizationType_administrator_iff.mp (hrole.trans h))
    · exact .inr h

/-- The token carried gives an app authorization that passes the two levels of the scope check for
an `AppAuthorized` request without a `''` scope and for no other. -/
theorem appAuthorized_iff {scopes : Option (List String)} : ctx.AppAuthorized scopes ∧ "" ∉ scopes.getD [] ↔
      ∃ token authorization, ctx.CarriesToken token ∧ ctx.authorizationOfToken (some token) = .ok authorization ∧
        (scopes.getD [] ≠ [] ∧ authorization.type = .app ∧ ∃ granted ∈ authorization.scopes, ctx.GrantsModule granted) ∧
        ctx.allScopesAuthorized (scopes.getD []) = .ok true := by
  -- on a carried app token the loop asks for scopes that are not blank and in the list
  have hloop : ∀ {token : DecodedToken} {service : ApiAuthorizationService},
      ctx.CarriesToken token → ctx.apiAuthorizationService = some service →
      truthy (token.getItem "username") = false →
      (ctx.allScopesAuthorized (scopes.getD []) = .ok true ↔ ∀ scope ∈ scopes.getD [],
        scope ≠ "" ∧ ∃ granted ∈ ApiAuthorizationService.tokenScopes token, scope ∈ granted) := by
    intro token service htoken hservice hname
    rw [allScopesAuthorized_eq fun scope => (isScopeAuthorized_of_carriesToken htoken hservice scope).trans
        (ApiAuthorizationService.isScopeAuthorized_of_app hname)]
    simp
  constructor
  · rintro ⟨⟨token, service, granted, htoken, hservice, hname, hgranted, hmodule, hne, hall⟩, hblank⟩
    obtain ⟨hresult, htype⟩ :
        service.getAuthorization token = .ok _ ∧ _ = ApiAuthorizationType.app :=
      ApiAuthorizationService.getAuthorization_app_iff.mpr ⟨hname, rfl⟩
    refine ⟨token, _, htoken, authorizationOfToken_ok_iff.mpr ⟨service, _, hservice, hresult, rfl⟩,
      ⟨hne, htype, granted, hgranted, hmodule⟩, (hloop htoken hservice hname).mpr ?_⟩
    intro scope hscope
    refine ⟨?_, granted, hgranted, hall scope hscope⟩
    rintro rfl
    exact hblank hscope
  · rintro ⟨token, authorization, htoken, hauth, ⟨hne, htype, granted, hgranted, hmodule⟩, hall⟩
    obtain ⟨service, result, hservice, hresult, rfl⟩ := authorizationOfToken_ok_iff.mp hauth
    obtain ⟨hname, rfl⟩ := ApiAuthorizationService.getAuthorization_app_iff.mp ⟨hresult, htype⟩
    rw [hloop htoken hservice hname] at hall
    replace hgranted : ApiAuthorizationService.tokenScopes token = some granted := hgranted
    refine ⟨⟨token, service, granted, htoken, hservice, hname, hgranted, hmodule, hne, ?_⟩, ?_⟩
    · intro scope hscope
      obtain ⟨-, granted', hgranted', hmem⟩ := hall scope hscope
      rw [hgranted] at hgranted'
      cases hgranted'
      exact hmem
    · intro hblank
      exact (hall "" hblank).1 rfl

/-- The value of `is_authorized` is what the three kinds of authorized invocation make it. -/
def DecidesAuthorization (ctx : InvocationContext) (elevatedAccess : Bool)
    (scopes : Option (List String)) (cache : Cache) : Prop :=
  ((ctx.isAuthorized elevatedAccess scopes).run cache).1 = .ok true ↔
    ctx.isUnixDomainSocketInvocation = true ∨ ctx.UserAuthorized elevatedAccess ∨
      ctx.AppAuthorized scopes

/-- **Authorization is sound and complete.** Outside test mode and with a correct cache,
`is_authorized` returns `True` exactly for the unix socket, for an enabled user of a sufficient
role, and for an app with a scope of the module and every requested scope, none of them `''`. -/
theorem isAuthorized_iff (ctx : InvocationContext) (elevatedAccess : Bool)
    (scopes : Option (List String)) (cache : Cache) (htest : ctx.testMode = false) (hcache : ctx.CacheOk cache) :
    ((ctx.isAuthorized elevatedAccess scopes).run cache).1 = .ok true ↔
      ctx.isUnixDomainSocketInvocation = true ∨ ctx.UserAuthorized elevatedAccess ∨
        (ctx.AppAuthorized scopes ∧ "" ∉ scopes.getD []) := by
  rw [isAuthorized_true_iff, (run_getAuthorization hcache).1, appAuthorized_iff, userAuthorized_iff]
  simp only [freshAuthorization_ok_iff htest]
  rcases hunix : ctx.isUnixDomainSocketInvocation with _ | _
  · simp only [Bool.false_eq_true, false_and, true_and, false_or]
    constructor
    · rintro ⟨authorization, ⟨token, htoken, hauth⟩, huser | happ⟩
      · exact .inl ⟨token, authorization, htoken, hauth, huser⟩
      · exact .inr ⟨token, authorization, htoken, hauth, happ⟩
    · rintro (⟨token, authorization, htoken, hauth, huser⟩ | ⟨token, authorization, htoken, hauth, happ⟩)
      · exact ⟨authorization, ⟨token, htoken, hauth⟩, .inl huser⟩
      · exact ⟨authorization, ⟨token, htoken, hauth⟩, .inr happ⟩
  · exact iff_of_true ⟨_, .inl ⟨rfl, rfl⟩, .inl (.inl rfl)⟩ (.inl rfl)

/-! ## The empty scope -/

/-- An authorization service without users. -/
def noUsers : ApiAuthorizationService := ⟨fun _ => .ok none⟩

/-- An app token whose scope claim ends in a space, so that its scope list has an empty entry. -/
def trailingSpaceToken : DecodedToken :=
  (∅ : DecodedToken).putItem "scope" "cluster-manager/read "

/-- A request to the cluster manager that carries `trailingSpaceToken`. -/
def trailingSpaceContext : InvocationContext where
  moduleId := "cluster-manager"
  administratorUsername := "clusteradmin"
  invocationSource := "http"
  tokenType := some "Bearer"
  token := some "app-token"
  testUsername := none
  tokenService := some ⟨fun _ => .ok trailingSpaceToken⟩
  apiAuthorizationService := some noUsers
  testMode := false

theorem appAuthorized_trailingSpace : trailingSpaceContext.AppAuthorized (some [""]) :=
  ⟨trailingSpaceToken, noUsers, ["cluster-manager/read", ""], ⟨"app-token", rfl, by decide, rfl⟩,
    rfl, by decide, by decide, by decide, by decide, by decide⟩

/-- The empty scope is never authorized, also where the scope list of the token has it. -/
theorem not_decidesAuthorization_empty_scope :
    ¬ trailingSpaceContext.DecidesAuthorization false (some [""]) Cache.empty := by
  intro h
  have htrue := h.mpr (.inr (.inr appAuthorized_trailingSpace))
  exact absurd htrue (by decide)

/-- With a scope that is not empty the same request is authorized. -/
theorem isAuthorized_trailingSpace : ((trailingSpaceContext.isAuthorized false (some ["cluster-manager/read"])).run
      Cache.empty).1 = .ok true :=
  (isAuthorized_iff trailingSpaceContext false (some ["cluster-manager/read"]) Cache.empty rfl
    trailingSpaceContext.cacheOk_empty).mpr <| .inr <| .inr
    ⟨⟨trailingSpaceToken, noUsers, ["cluster-manager/read", ""],
      ⟨"app-token", rfl, by decide, rfl⟩, rfl, by decide, by decide, by decide, by decide,
      by decide⟩, by decide⟩

end InvocationContext

end ContainRes.Api
