import ContainRes.Api.InvocationContext
import ContainRes.Text.Base64

/-! # The access tokens of a service

A service asks the token endpoint of the user pool for an access token and caches the grant. The model
follows `token_service.py`: the two grant types differ in the options that they require, in the request and
in the attribute that caches the grant.

* **`Jwt`**, **`Provider`** — the JWT library with the expiry of a token, and the user pool.
* **`decodeToken`**, **`isTokenExpired`**, **`getCachedGrant`** — the three layers through which an expiry is
  told.
* **`cachedOrRenewed`** — the two functions that return a grant; the cache is read once without the lock and
  once with it.
* **`RenewsExpired`** — a cached grant is returned while its token has not expired, and otherwise renewed by
  one request; `renewsExpired_iff` tells the states where it holds. -/

namespace ContainRes.Auth

open Api Effects Store Text

/-! ## The libraries and the user pool -/

/-- The exceptions of the JWT library. `ExpiredSignatureError` is an `InvalidTokenError` too. -/
inductive JwtError
  | expiredSignature
  /-- Any other `InvalidTokenError`. -/
  | invalidToken (message : String)
  /-- An exception that is no `InvalidTokenError`, such as `PyJWKClientError`. -/
  | other (message : String)
  deriving DecidableEq, Repr

/-- What the functions of the token service raise. -/
inductive Raised
  | exc (e : Exc)
  | jwt (e : JwtError)
  /-- An exception of `requests`. -/
  | request (message : String)
  deriving DecidableEq, Repr

/-- `jwt.decode`, which reads the clock. It raises `ExpiredSignatureError` exactly on expired tokens. -/
structure Jwt where
  /-- `jwt.decode(token, key, algorithms, options={'verify_exp': verify_exp})` at a time. -/
  decode : ℕ → String → String → List String → Bool → Except JwtError DecodedToken
  /-- The time from which on a token has expired; a token without an `exp` never does. -/
  expiry : String → Option ℕ
  decode_expired : ∀ now token key algorithms,
    decode now token key algorithms true = .error .expiredSignature ↔ ∃ exp ∈ expiry token, exp ≤ now

/-- The token has expired. A grant without a token never does. -/
def Jwt.Expired (jwt : Jwt) (now : ℕ) (token : Option String) : Prop :=
  ∃ value ∈ token, ∃ exp ∈ jwt.expiry value, exp ≤ now

/-- `AuthResult`, with the fields that a token request fills. -/
structure AuthResult where
  accessToken : Option String
  expiresIn : Option ℤ
  tokenType : Option String
  deriving DecidableEq, Repr

/-- The arguments of `requests.post`. -/
structure TokenRequest where
  url : String
  headers : List (String × String)
  data : List (String × String)
  deriving DecidableEq, Repr

/-- The members of the JSON object in an answer of the token endpoint. -/
structure TokenResponse where
  accessToken : Option String
  expiresIn : Option ℤ
  tokenType : Option String
  deriving DecidableEq, Repr

/-- The user pool: its signing keys and its token endpoint. -/
structure Provider where
  /-- `get_signing_key_from_jwt(token).key`. -/
  signingKey : String → Except JwtError String
  /-- `requests.post(...).json()`. -/
  post : TokenRequest → Except String TokenResponse

structure TokenServiceOptions where
  cognitoUserPoolDomainUrl : String
  keyAlgorithm : Option String
  clientId : Option String
  clientSecret : Option String
  clientCredentialsScope : Option (List String)
  refreshToken : Option String
  deriving DecidableEq, Repr

/-- A token service with the parties it talks to. -/
structure TokenService where
  jwt : Jwt
  provider : Provider
  options : TokenServiceOptions

/-- The attributes that change, and the requests that were sent, the last one first. -/
structure Grants where
  clientCredentialsGrant : Option AuthResult
  refreshTokenGrant : Option AuthResult
  requests : List TokenRequest
  deriving DecidableEq, Repr

/-- The two grant types. -/
inductive GrantType
  | clientCredentials
  | refreshToken
  deriving DecidableEq, Repr

namespace GrantType

/-- The attribute that caches the grant. -/
def cached : GrantType → Grants → Option AuthResult
  | clientCredentials, s => s.clientCredentialsGrant
  | refreshToken, s => s.refreshTokenGrant

/-- Cache a grant. -/
def store (grant : AuthResult) : GrantType → Grants → Grants
  | clientCredentials, s => { s with clientCredentialsGrant := some grant }
  | refreshToken, s => { s with refreshTokenGrant := some grant }

@[simp] theorem requests_store (g : GrantType) (grant : AuthResult) (s : Grants) :
    (g.store grant s).requests = s.requests := by
  cases g <;> rfl

end GrantType

/-- Send a request. -/
def Grants.send (s : Grants) (request : TokenRequest) : Grants :=
  { s with requests := request :: s.requests }

/-- The grant in an answer of the token endpoint. -/
def TokenResponse.authResult (response : TokenResponse) : AuthResult where
  accessToken := getAsString response.accessToken
  expiresIn := response.expiresIn
  tokenType := getAsString response.tokenType

/-! ## `TokenService` -/

namespace TokenService

variable (service : TokenService)

def keyAlgorithm : String := (getAsString service.options.keyAlgorithm).getD "RS256"

def oauth2AccessTokenUrl : String := service.options.cognitoUserPoolDomainUrl ++ "/oauth2/token"

def clientCredentialsScope : String := " ".intercalate (service.options.clientCredentialsScope.getD [])

/-- The body of the `try` in `decode_token`. -/
def verifyToken (now : ℕ) (token : Option String) (verifyExp : Bool) : Except Raised DecodedToken :=
  match token with
  | none => .error (.exc (.unauthorizedAccess none))
  | some value =>
    if isEmpty value then .error (.exc (.unauthorizedAccess none))
    else
      match service.provider.signingKey value with
      | .error e => .error (.jwt e)
      | .ok key =>
        (service.jwt.decode now value key [service.keyAlgorithm] verifyExp).mapError .jwt

/-- `decode_token(token, verify_exp)`. The exceptions of the library become exceptions of the service. -/
def decodeToken (now : ℕ) (token : Option String) (verifyExp : Bool) : Except Raised DecodedToken :=
  match service.verifyToken now token verifyExp with
  | .ok decodedToken => .ok decodedToken
  | .error (.jwt .expiredSignature) => .error (.exc (.soca .authTokenExpired "Token Expired"))
  | .error (.jwt (.invalidToken e)) => .error (.exc (.unauthorizedAccess (some s!"Invalid Token - {e}")))
  | .error e => .error e

def isTokenExpired (now : ℕ) (token : Option String) : Except Raised Bool :=
  match service.decodeToken now token true with
  | .ok _ => .ok false
  | .error (.jwt .expiredSignature) => .ok true
  | .error e => .error e

/-- `get_cached_grant()` of both functions. -/
def getCachedGrant (g : GrantType) (forceRenewal : Bool) (now : ℕ) (s : Grants) :
    Except Raised (Option AuthResult) :=
  if forceRenewal then .ok none
  else
    match g.cached s with
    | none => .ok none
    | some grant =>
      match service.isTokenExpired now grant.accessToken with
      | .error e => .error e
      | .ok true => .ok none
      | .ok false => .ok (some grant)

/-- The options that a grant type requires. -/
def checkOptions : GrantType → Except Exc Unit
  | .clientCredentials =>
    if isEmptyOpt service.options.clientId || isEmptyOpt service.options.clientSecret then
      .error (.soca .generalError "options.client_id and options.client_secret is required.")
    else if (service.options.clientCredentialsScope.getD []).isEmpty then
      .error (.soca .generalError "options.client_credentials_scope is required")
    else .ok ()
  | .refreshToken =>
    if isEmptyOpt service.options.refreshToken then
      .error (.soca .generalError "options.refresh_token is required.")
    else .ok ()

/-- The request of a grant type. -/
def tokenRequest : GrantType → TokenRequest
  | .clientCredentials =>
    let basicAuth := base64Encode (service.options.clientId.getD "" ++ ":" ++ service.options.clientSecret.getD "")
    { url := service.oauth2AccessTokenUrl,
      headers := [("Content-Type", "application/x-www-form-urlencoded"),
        ("Authorization", "Basic " ++ basicAuth)],
      data := [("grant_type", "client_credentials"), ("scope", service.clientCredentialsScope)] }
  | .refreshToken =>
    { url := service.oauth2AccessTokenUrl,
      headers := [("Content-Type", "application/x-www-form-urlencoded")],
      data := [("grant_type", "refresh_token"),
        ("refresh_token", service.options.refreshToken.getD "")] }

/-- One token request, whose result is cached and returned. -/
def renew (g : GrantType) : Proc Grants Raised AuthResult := do
  Proc.modify fun s => s.send (service.tokenRequest g)
  let response ← Proc.liftExcept ((service.provider.post (service.tokenRequest g)).mapError .request)
  Proc.modify (g.store response.authResult)
  return response.authResult

/-- The times at which a call reads the clock: at its first look into the cache, and at its second one, when
it holds the lock. -/
structure Instants where
  first : ℕ
  locked : ℕ
  first_le_locked : first ≤ locked

/-- The body that the two functions share. -/
def cachedOrRenewed (g : GrantType) (t : Instants) (forceRenewal : Bool) :
    Proc Grants Raised AuthResult := do
  Proc.liftExcept ((service.checkOptions g).mapError .exc)
  let grant ← Proc.gets (service.getCachedGrant g forceRenewal t.first) >>= Proc.liftExcept
  match grant with
  | some grant => return grant
  | none =>
    -- the lock is held from here on
    let grant ← Proc.gets (service.getCachedGrant g forceRenewal t.locked) >>= Proc.liftExcept
    match grant with
    | some grant => return grant
    | none => service.renew g

def getAccessTokenUsingClientCredentials (t : Instants) (forceRenewal : Bool) :
    Proc Grants Raised AuthResult :=
  service.cachedOrRenewed .clientCredentials t forceRenewal

def getAccessTokenUsingRefreshToken (t : Instants) (forceRenewal : Bool) :
    Proc Grants Raised AuthResult :=
  service.cachedOrRenewed .refreshToken t forceRenewal

/-- The function of a grant type. -/
def getAccessTokenUsing : GrantType → Instants → Bool → Proc Grants Raised AuthResult
  | .clientCredentials => service.getAccessTokenUsingClientCredentials
  | .refreshToken => service.getAccessTokenUsingRefreshToken

theorem getAccessTokenUsing_eq (g : GrantType) : service.getAccessTokenUsing g = service.cachedOrRenewed g := by
  cases g <;> rfl

/-! ## Validation -/

/-- The token service accepts the token: it is not blank, its signing key is found and the library decodes
it. -/
def Validates (now : ℕ) (token : Option String) : Prop :=
  ∃ value ∈ token, isEmpty value = false ∧ ∃ key, service.provider.signingKey value = .ok key ∧
    ∃ decodedToken, service.jwt.decode now value key [service.keyAlgorithm] true = .ok decodedToken

variable {service} {g : GrantType} {t : Instants} {s : Grants} {now : ℕ} {token : Option String}

/-- A token is verified exactly when it is accepted. -/
theorem verifyToken_ok_iff : (∃ decodedToken, service.verifyToken now token true = .ok decodedToken) ↔
      service.Validates now token := by
  unfold verifyToken Validates
  cases token with
  | none => simp
  | some value =>
    cases hblank : isEmpty value with
    | true => simp [hblank]
    | false =>
      cases hkey : service.provider.signingKey value with
      | error e => simp [hblank, hkey]
      | ok key =>
        cases hdecode : service.jwt.decode now value key [service.keyAlgorithm] true <;>
          simp [hblank, hkey, hdecode, Except.mapError]

/-- What `decode_token` raises is never the exception that `is_token_expired` waits for. -/
theorem decodeToken_ne_expiredSignature (verifyExp : Bool) :
    service.decodeToken now token verifyExp ≠ .error (.jwt .expiredSignature) := by
  intro h
  unfold decodeToken at h
  split at h
  · cases h
  · cases h
  · cases h
  · next e hexpired _ _ => exact hexpired (Except.error.inj h)

/-- `is_token_expired` passes on whatever `decode_token` raises. -/
theorem isTokenExpired_of_error {e : Raised} (h : service.decodeToken now token true = .error e) :
    service.isTokenExpired now token = .error e := by
  have hne : e ≠ .jwt .expiredSignature := by
    rintro rfl
    exact decodeToken_ne_expiredSignature true h
  unfold isTokenExpired
  rw [h]
  split
  · next h' => cases h'
  · next h' => exact absurd (Except.error.inj h') hne
  · next h' => rw [Except.error.inj h']

/-- `is_token_expired` tells of no token that it has expired: of an accepted one it tells that it has not, and
otherwise it raises. -/
theorem isTokenExpired_cases (service : TokenService) (now : ℕ) (token : Option String) :
    (service.Validates now token ∧ service.isTokenExpired now token = .ok false) ∨
      (¬ service.Validates now token ∧ ∃ e, service.isTokenExpired now token = .error e) := by
  rw [← verifyToken_ok_iff]
  cases hverify : service.verifyToken now token true with
  | ok decodedToken =>
    left
    simp [isTokenExpired, decodeToken, hverify]
  | error e =>
    right
    have hraises : ∃ e', service.decodeToken now token true = .error e' := by
      unfold decodeToken
      rw [hverify]
      rcases e with e | (_ | message | message) | message <;> exact ⟨_, rfl⟩
    obtain ⟨e', hdecode⟩ := hraises
    exact ⟨by simp, e', isTokenExpired_of_error hdecode⟩

theorem not_validates_of_expired (h : service.jwt.Expired now token) : ¬ service.Validates now token := by
  rintro ⟨value, hvalue, -, key, -, decodedToken, hdecode⟩
  obtain ⟨value', hvalue', hexp⟩ := h
  obtain rfl : value' = value := Option.mem_unique hvalue' hvalue
  rw [(service.jwt.decode_expired now value' key [service.keyAlgorithm]).mpr hexp] at hdecode
  cases hdecode

/-! ## A call -/

variable (service)

/-- The options that the grant type requires are there. -/
def Configured (g : GrantType) : Prop := service.checkOptions g = .ok ()

/-- What one token request gives: its result is returned and cached, or the exception of the request is
passed on. -/
def renewal (g : GrantType) (s : Grants) : Except Raised AuthResult × Grants :=
  match service.provider.post (service.tokenRequest g) with
  | .ok response => (.ok response.authResult, g.store response.authResult (s.send (service.tokenRequest g)))
  | .error e => (.error (.request e), s.send (service.tokenRequest g))

theorem run_renew (g : GrantType) (s : Grants) : (service.renew g).run s = service.renewal g s := by
  unfold renew renewal
  rw [Proc.run_bind_of_ok (Proc.run_modify _ s)]
  cases hpost : service.provider.post (service.tokenRequest g) with
  | ok response => rfl
  | error e => rfl

theorem requests_renewal (g : GrantType) (s : Grants) :
    (service.renewal g s).2.requests = service.tokenRequest g :: s.requests := by
  unfold renewal
  split
  · exact GrantType.requests_store g _ _
  · rfl

theorem renewal_ne {r : Except Raised AuthResult} : service.renewal g s ≠ (r, s) := by
  intro h
  have hlength := congrArg (fun r : Except Raised AuthResult × Grants => r.2.requests.length) h
  simp only [requests_renewal, List.length_cons] at hlength
  omega

variable {service}

theorem run_of_not_configured (h : ¬ service.Configured g) (forceRenewal : Bool) :
    ∃ e, (service.getAccessTokenUsing g t forceRenewal).run s = (.error e, s) := by
  rw [getAccessTokenUsing_eq]
  cases hcheck : service.checkOptions g with
  | ok u => exact absurd hcheck h
  | error e =>
    refine ⟨.exc e, ?_⟩
    unfold cachedOrRenewed
    rw [hcheck]
    rfl

/-- With the options a call looks into the cache, twice if nothing is found. -/
theorem run_of_configured (h : service.Configured g) (forceRenewal : Bool) :
    (service.getAccessTokenUsing g t forceRenewal).run s = match service.getCachedGrant g forceRenewal t.first s with
      | .error e => (.error e, s)
      | .ok (some grant) => (.ok grant, s)
      | .ok none =>
        match service.getCachedGrant g forceRenewal t.locked s with
        | .error e => (.error e, s)
        | .ok (some grant) => (.ok grant, s)
        | .ok none => service.renewal g s := by
  have hcheck : service.checkOptions g = .ok () := h
  rw [getAccessTokenUsing_eq, cachedOrRenewed, hcheck]
  show (Proc.gets (service.getCachedGrant g forceRenewal t.first) >>= Proc.liftExcept >>= _).run s = _
  have hlook : ∀ now, (Proc.gets (service.getCachedGrant g forceRenewal now) >>= Proc.liftExcept :
      Proc Grants Raised _).run s = (service.getCachedGrant g forceRenewal now s, s) := by
    intro now
    rw [Proc.run_bind_of_ok (Proc.run_gets _ s), Proc.run_liftExcept]
  rcases hfirst : service.getCachedGrant g forceRenewal t.first s with e | _ | grant
  · rw [Proc.run_bind_of_error (by rw [hlook, hfirst])]
  · rw [Proc.run_bind_of_ok (by rw [hlook, hfirst])]
    rcases hlocked : service.getCachedGrant g forceRenewal t.locked s with e | _ | grant
    · rw [Proc.run_bind_of_error (by rw [hlook, hlocked])]
    · rw [Proc.run_bind_of_ok (by rw [hlook, hlocked])]
      exact service.run_renew g s
    · rw [Proc.run_bind_of_ok (by rw [hlook, hlocked])]
      rfl
  · rw [Proc.run_bind_of_ok (by rw [hlook, hfirst])]
    rfl

theorem run_of_cached_none (h : service.Configured g) (hcached : g.cached s = none) :
    (service.getAccessTokenUsing g t false).run s = service.renewal g s := by
  rw [run_of_configured h]
  simp only [getCachedGrant, Bool.false_eq_true, if_false, hcached]

/-- A call that finds an accepted token returns its grant. -/
theorem run_of_validates (h : service.Configured g) {grant : AuthResult} (hcached : g.cached s = some grant)
    (hvalid : service.Validates t.first grant.accessToken) :
    (service.getAccessTokenUsing g t false).run s = (.ok grant, s) := by
  rcases isTokenExpired_cases service t.first grant.accessToken with ⟨-, hfalse⟩ | ⟨hnot, -⟩
  · rw [run_of_configured h]
    simp only [getCachedGrant, Bool.false_eq_true, if_false, hcached, hfalse]
  · exact absurd hvalid hnot

/-- A call that finds a token which is not accepted raises: it neither returns the grant nor renews it. -/
theorem run_of_not_validates {grant : AuthResult} (hcached : g.cached s = some grant)
    (hinvalid : ¬ service.Validates t.first grant.accessToken) :
    ∃ e, (service.getAccessTokenUsing g t false).run s = (.error e, s) := by
  by_cases h : service.Configured g
  · rcases isTokenExpired_cases service t.first grant.accessToken with ⟨hvalid, -⟩ | ⟨-, e, herror⟩
    · exact absurd hvalid hinvalid
    · refine ⟨e, ?_⟩
      rw [run_of_configured h]
      simp only [getCachedGrant, Bool.false_eq_true, if_false, hcached, herror]
  · exact run_of_not_configured h false

/-! ## Expired grants -/

variable (service)

/-- A call that is not forced to renew returns the cached grant unless its token has expired; if it has, or
nothing is cached, one token request is sent and its result is returned and cached. -/
def RenewsExpired (g : GrantType) (t : Instants) (s : Grants) : Prop :=
  match g.cached s with
  | none => (service.getAccessTokenUsing g t false).run s = service.renewal g s
  | some grant =>
    (¬ service.jwt.Expired t.first grant.accessToken → (service.getAccessTokenUsing g t false).run s = (.ok grant, s)) ∧
    (service.jwt.Expired t.first grant.accessToken →
      (service.getAccessTokenUsing g t false).run s = service.renewal g s)

/-- **Expired grants.** A call treats the cached grant as it should exactly when the service is configured and
there is no cached grant with a token that is not accepted at that time; an expired token never is. -/
theorem renewsExpired_iff (g : GrantType) (t : Instants) (s : Grants) :
    service.RenewsExpired g t s ↔ service.Configured g ∧
      ∀ grant ∈ g.cached s, service.Validates t.first grant.accessToken := by
  unfold RenewsExpired
  cases hcached : g.cached s with
  | none =>
    constructor
    · intro h
      refine ⟨?_, by simp⟩
      by_contra hnot
      obtain ⟨e, hrun⟩ := run_of_not_configured (t := t) (s := s) hnot false
      exact service.renewal_ne (h.symm.trans hrun)
    · rintro ⟨hconfigured, -⟩
      exact run_of_cached_none hconfigured hcached
  | some grant =>
    simp only [Option.mem_some_iff, forall_eq']
    constructor
    · rintro ⟨hlive, hexpired⟩
      -- a call that raises neither returns the grant nor sends a request
      have hreturns : ∀ e, (service.getAccessTokenUsing g t false).run s ≠ (.error e, s) := by
        intro e hrun
        by_cases hpast : service.jwt.Expired t.first grant.accessToken
        · exact service.renewal_ne ((hexpired hpast).symm.trans hrun)
        · have hok := (hlive hpast).symm.trans hrun
          cases hok
      constructor
      · by_contra hnot
        obtain ⟨e, hrun⟩ := run_of_not_configured (t := t) (s := s) hnot false
        exact hreturns e hrun
      · by_contra hnot
        obtain ⟨e, hrun⟩ := run_of_not_validates hcached hnot
        exact hreturns e hrun
    · rintro ⟨hconfigured, hvalid⟩
      constructor
      · intro _
        exact run_of_validates hconfigured hcached hvalid
      · intro hpast
        exact absurd hvalid (not_validates_of_expired hpast)

/-- A service whose cached token expires at time 100, while the token endpoint has a new one. -/
def exampleService : TokenService where
  jwt :=
    { decode := fun now _ _ _ verifyExp =>
        if verifyExp ∧ 100 ≤ now then .error .expiredSignature else .ok Table.empty
      expiry := fun _ => some 100
      decode_expired := by
        intro now token key algorithms
        by_cases h : 100 ≤ now <;> simp [h] }
  provider :=
    { signingKey := fun _ => .ok "key"
      post := fun _ => .ok { accessToken := some "renewed", expiresIn := some 3600,
                             tokenType := some "Bearer" } }
  options :=
    { cognitoUserPoolDomainUrl := "https://pool.auth.us-east-1.amazoncognito.com", keyAlgorithm := none,
      clientId := some "vdc", clientSecret := some "secret",
      clientCredentialsScope := some ["cluster-manager/read"], refreshToken := none }

/-- The cache with the token. -/
def exampleGrants : Grants where
  clientCredentialsGrant := some { accessToken := some "cached", expiresIn := some 3600,
                                   tokenType := some "Bearer" }
  refreshTokenGrant := none
  requests := []

/-- At time 200 the call fails with `AUTH_TOKEN_EXPIRED`, and the token endpoint is not asked. -/
theorem expired_grant_not_renewed :
    (exampleService.getAccessTokenUsingClientCredentials ⟨200, 200, le_refl 200⟩ false).run exampleGrants =
        (.error (.exc (.soca .authTokenExpired "Token Expired")), exampleGrants) ∧
      ¬ exampleService.RenewsExpired .clientCredentials ⟨200, 200, le_refl 200⟩ exampleGrants := by
  have hrun : (exampleService.getAccessTokenUsingClientCredentials ⟨200, 200, le_refl 200⟩ false).run
      exampleGrants = (.error (.exc (.soca .authTokenExpired "Token Expired")), exampleGrants) := by
    decide +kernel
  refine ⟨hrun, fun h => ?_⟩
  have hexpired : exampleService.jwt.Expired 200 (some "cached") := ⟨"cached", rfl, 100, rfl, by omega⟩
  exact exampleService.renewal_ne ((h.2 hexpired).symm.trans hrun)

/-- The definition of `Validates` is met: before time 100 the cached token is accepted. -/
example : exampleService.Validates 99 (some "cached") :=
  ⟨"cached", rfl, by decide +kernel, "key", rfl, Table.empty, rfl⟩

end TokenService

end ContainRes.Auth
