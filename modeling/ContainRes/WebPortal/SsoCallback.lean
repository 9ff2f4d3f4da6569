import ContainRes.Accounts.Service
import ContainRes.Accounts.SsoState
import ContainRes.Effects.Faults
import ContainRes.WebPortal.RedirectAddress

/-! # The callback of a single sign-on

The identity provider sends the browser back to the callback route with a code and a state. The route exchanges the
code for tokens, looks for the user with the email of the token, and leaves the tokens in the row of the state.

* **`PortalState`**, **`CallbackEnv`** — the tables and the user pool, and the calls outside the portal.
* **`getUserByEmail`** — the lookup of `AccountsService`: it answers a user or raises.
* **`signInOf`**, **`afterClaims`**, **`ssoOauth2CallbackRoute`** — the route up to the claims, after them, and as a
  whole.
* **`GrantsAndCleansUp`** — what a call is to leave behind in each case.
* **`run_grant`**, **`run_denyLogin`**, **`run_afterClaims_of_not_one`** — the three ways on after the lookup;
  `callbackMeets_iff` says when a call does what it is for. -/

namespace ContainRes.WebPortal

open Accounts Effects Store Text

/-! ## State -/

/-- The key of a state: a text that is not blank and has no white space around it, such as a UUID. -/
abbrev StateKey := {state : String // strip state = state ∧ isEmpty state = false}

/-- The key that a text is, if it is one. -/
def stateKey (state : String) : Option StateKey :=
  if h : strip state = state ∧ isEmpty state = false then some ⟨state, h⟩ else none

/-- A row of the state table: what `sso_initiate_route` stored, and the tokens once there are any. -/
structure SsoStateRow where
  redirectUri : Option String
  tokens : SsoState

/-- What the route reads and writes. -/
structure PortalState where
  db : Db
  ssoStates : Table StateKey SsoStateRow
  /-- The users that `admin_disable_user` was called for with success. -/
  disabledUsers : List String
  /-- The users that `admin_delete_user` was called for with success. -/
  deletedUsers : List String
  /-- The refresh tokens that were revoked. -/
  signedOut : List String

/-- The claims of an access token that the route reads. -/
structure TokenClaims where
  username : Option String
  clientId : Option String

/-- The configuration, and the calls that leave the cluster manager. -/
structure CallbackEnv where
  settings : SsoSettings
  accounts : AccountsContext
  /-- The answer of the token endpoint to a code and a redirect address. -/
  oauth2Token : String → String → Except Exc AuthResult
  /-- `jwt.decode`. -/
  decodeJwt : String → Except Exc TokenClaims
  adminDisableUser : String → Except Exc Unit
  adminDeleteUser : String → Except Exc Unit
  /-- The answer of the revocation endpoint to a refresh token. -/
  revokeToken : String → Except Exc Unit

/-- The parameters of the query. -/
structure CallbackRequest where
  code : Option String
  state : Option String
  error : Option String

structure Redirect where
  location : String

/-- A procedure of the portal. -/
abbrev PortalProc (α : Type) : Type := Proc PortalState Exc α

/-- A procedure on the tables of accounts. -/
def onDb {α : Type} (c : DbProc α) : PortalProc α := Proc.zoom PortalState.db (fun db s => { s with db := db }) c

/-- What reading a setting raises, as the handler of the route sees it: it does not tell exceptions apart. -/
def settingExc : SettingError → Exc
  | .keyNotFound key => .other .keyError key
  | .typeError message => .other .typeError message

/-! ## `SingleSignOnStateDAO` -/

def getSsoState (states : Table StateKey SsoStateRow) (state : String) : Except Exc (Option SsoStateRow) :=
  if isEmpty state then .error (.invalidParams "state is required") else .ok ((stateKey state).bind states.getItem)

/-- A row with the tokens of a result. -/
def withTokens (authResult : AuthResult) (row : SsoStateRow) : SsoStateRow :=
  { row with tokens :=
    { accessToken := authResult.accessToken, refreshToken := authResult.refreshToken, idToken := authResult.idToken,
      expiresIn := authResult.expiresIn, tokenType := authResult.tokenType } }

/-- `update_sso_state` with the tokens; the state is stripped, and its row has to be there. -/
def updateSsoState (state : String) (authResult : AuthResult) : PortalProc PUnit :=
  if isEmpty state then Proc.raise (.invalidParams "state is required")
  else do
    let states ← Proc.gets PortalState.ssoStates
    match stateKey (strip state) with
    | none => Proc.raise conditionalCheckFailed
    | some key =>
      if states.Has key then
        Proc.modify fun s => { s with ssoStates := s.ssoStates.updateItem key (withTokens authResult) }
      else Proc.raise conditionalCheckFailed

def deleteSsoState (state : String) : PortalProc PUnit :=
  if isEmpty state then Proc.raise (.invalidParams "state is required")
  else match stateKey state with
    | none => pure ⟨⟩
    | some key => Proc.modify fun s => { s with ssoStates := s.ssoStates.deleteItem key }

/-! ## The user of an email -/

/-- `UserDAO.get_user_by_email(email)`: the rows of the index. -/
def usersByEmail (db : Db) (email : String) : List (String × UserRow) :=
  db.users.scan.filter fun user => user.2.email = email

variable (env : CallbackEnv)

def getUserByEmail (email : Option String) : DbProc (Option User) := do
  let email ← Proc.liftExcept (sanitizeEmail env.accounts email)
  let key ← Proc.liftExcept (sanitizeEmail env.accounts (some email))
  let users ← Proc.gets fun db => usersByEmail db key
  match users with
  | [] => Proc.raise (.soca .authUserNotFound s!"User not found with email: {email}")
  | [user] => return some (UserDao.convertFromDb user.1 user.2)
  | _ :: _ :: _ => Proc.raise (.soca .authMultipleUsersFound s!"Multiple users found with email {email}")

/-- `TokenService.get_email_from_token_username(token_username)`, with SSO enabled. -/
def getEmailFromTokenUsername (tokenUsername : String) : Except Exc (Option String) := do
  let name ← (getRequiredString "identity-provider.cognito.sso_idp_provider_name"
    env.settings.ssoIdpProviderName).mapError settingExc
  match name with
  | none => .error (.other .typeError "unsupported operand type(s) for +: 'NoneType' and 'str'")
  | some name =>
    let identityProviderPrefix := lower (name ++ "_")
    return if startsWith tokenUsername identityProviderPrefix then
      some (String.ofList (tokenUsername.toList.drop identityProviderPrefix.toList.length)) else none

/-! ## The route -/

def getAccessTokenUsingSsoAuthCode (authorizationCode : String) (redirectUri : Option String) :
    Except Exc AuthResult :=
  if isEmpty authorizationCode then .error (.invalidParams "authorization_code is required")
  else match redirectUri with
    | none => .error (.invalidParams "redirect_uri is required")
    | some uri =>
      if isEmpty uri then .error (.invalidParams "redirect_uri is required")
      else env.oauth2Token authorizationCode uri

def decodeToken : Option String → Except Exc TokenClaims
  | none => .error (.unauthorizedAccess none)
  | some token => if isEmpty token then .error (.unauthorizedAccess none) else env.decodeJwt token

/-- What the exchange of a code leads to. -/
structure SignIn where
  state : String
  authResult : AuthResult
  cognitoUsername : String
  clientId : Option String

/-- A parameter of the query that has to be there. -/
def requireParam (value : Option String) (message : String) : Except Exc String :=
  match value with
  | none => .error (.invalidParams message)
  | some value => if isEmpty value then .error (.invalidParams message) else .ok value

/-- The route up to the name in the claims: `none` when it answers with a failure right there. -/
def signInOf (request : CallbackRequest) (states : Table StateKey SsoStateRow) : Except Exc (Option SignIn) :=
  if isEmptyOpt request.error = false then .ok none
  else do
    let authorizationCode ← requireParam request.code "code is required"
    let state ← requireParam request.state "state is required"
    match ← getSsoState states state with
    | none => .error (.invalidParams s!"sso state not found for state: {state}")
    | some ssoState =>
      let authResult ← getAccessTokenUsingSsoAuthCode env authorizationCode ssoState.redirectUri
      let claims ← decodeToken env authResult.accessToken
      return (getAsString claims.username).map fun cognitoUsername =>
        { state := state, authResult := authResult, cognitoUsername := cognitoUsername, clientId := claims.clientId }

/-- The redirect to the portal with parameters. -/
def portalPage (parameters : String) : Redirect := ⟨env.settings.contextPath ++ parameters⟩

def signOut (refreshToken : Option String) : PortalProc PUnit :=
  match refreshToken with
  | none => Proc.raise (.invalidParams "refresh_token is required")
  | some token =>
    if isEmpty token then Proc.raise (.invalidParams "refresh_token is required")
    else do
      Proc.liftExcept (env.revokeToken token)
      Proc.modify fun s => { s with signedOut := s.signedOut ++ [token] }

/-- The branch of the route for a lookup without a user. -/
def removeFederatedUser (a : SignIn) : PortalProc Redirect := do
  Proc.liftExcept (env.adminDisableUser a.cognitoUsername)
  Proc.modify fun s => { s with disabledUsers := s.disabledUsers ++ [a.cognitoUsername] }
  Proc.liftExcept (env.adminDeleteUser a.cognitoUsername)
  Proc.modify fun s => { s with deletedUsers := s.deletedUsers ++ [a.cognitoUsername] }
  Proc.tryCatch (deleteSsoState a.state) fun _ => pure ⟨⟩
  return portalPage env "?sso_auth_status=FAIL&error_msg=UserNotFound"

/-- The branch of the route for a disabled user. -/
def denyLogin (a : SignIn) : PortalProc Redirect := do
  let cognitoDomainUrl := getString env.settings.domainUrl.join none
  let urls ← Proc.liftExcept (env.settings.getCallbackLogoutUrls.mapError settingExc)
  match urls.2.getLast?, a.clientId.filter (· ≠ ""), cognitoDomainUrl with
  | some logoutUrl, some clientId, some domainUrl => do
    signOut env a.authResult.refreshToken
    return ⟨domainUrl ++ "/logout?client_id=" ++ clientId ++ "&logout_uri=" ++ logoutUrl⟩
  | _, _, _ => return portalPage env "?sso_auth_status=FAIL&error_msg=UserNotFound"

/-- The branch of the route for an enabled user. -/
def grant (a : SignIn) (existingUser : User) : PortalProc Redirect := do
  updateSsoState a.state a.authResult
  Proc.when (existingUser.isActive ≠ some true) (onDb do
    let user ← getUser (existingUser.username.getD "")
    activateUser env.accounts user)
  return portalPage env ("?sso_auth_status=SUCCESS&sso_auth_code=" ++ a.state)

/-- The lookup of the user with the email in the name of a token. -/
def existingUserOf (cognitoUsername : String) : PortalProc (Option User) := do
  let email ← Proc.liftExcept (getEmailFromTokenUsername env cognitoUsername)
  onDb (getUserByEmail env email)

/-- The route after the claims. -/
def afterClaims (a : SignIn) : PortalProc Redirect := do
  match ← existingUserOf env a.cognitoUsername with
  | none => removeFederatedUser env a
  | some existingUser => if existingUser.enabled ≠ some true then denyLogin env a else grant env a existingUser

def ssoOauth2CallbackRoute (request : CallbackRequest) : PortalProc Redirect :=
  if !env.settings.ssoEnabled then pure (portalPage env "")
  else Proc.tryCatch (do
    let states ← Proc.gets PortalState.ssoStates
    match ← Proc.liftExcept (signInOf env request states) with
    | none => return portalPage env "?sso_auth_status=FAIL"
    | some a => afterClaims env a) fun _ => pure (portalPage env "?sso_auth_status=FAIL")

/-! ## What a call is to leave behind -/

/-- The portal before a call: nothing was disabled, deleted or signed out yet. -/
def before (db : Db) (states : Table StateKey SsoStateRow) : PortalState := ⟨db, states, [], [], []⟩

/-- The exchange of the call, if it comes that far. -/
def signedIn (request : CallbackRequest) (states : Table StateKey SsoStateRow) : Option SignIn :=
  if env.settings.ssoEnabled then (signInOf env request states).toOption.join else none

/-- The users that have the email of a token. What is no email address is nobody's. -/
def emailUsers (db : Db) (cognitoUsername : String) : List (String × UserRow) :=
  match getEmailFromTokenUsername env cognitoUsername with
  | .error _ => []
  | .ok email =>
    match sanitizeEmail env.accounts email with
    | .error _ => []
    | .ok email => usersByEmail db email

/-- The row of the state holds tokens. -/
def HoldsTokens (states : Table StateKey SsoStateRow) (state : Option String) : Prop :=
  ∃ key row, state.bind stateKey = some key ∧ states.getItem key = some row ∧ row.tokens.accessToken.isSome

/-- Exactly one user has the email, and that user is enabled. -/
def Granted (request : CallbackRequest) (db : Db) (states : Table StateKey SsoStateRow) : Prop :=
  ∃ a user, signedIn env request states = some a ∧ emailUsers env db a.cognitoUsername = [user] ∧ user.2.enabled = true

/-- **What the callback is for**: the response is a redirect; the row of the state holds tokens exactly when one user
has the email and is enabled; without a user the federated user is disabled and deleted and the row is gone; and the
refresh token of a disabled user is signed out. -/
structure GrantsAndCleansUp (request : CallbackRequest) (db : Db) (states : Table StateKey SsoStateRow)
    (final : PortalState) (result : Except Exc Redirect) : Prop where
  redirects : ∃ response, result = .ok response
  tokens : HoldsTokens final.ssoStates request.state ↔ Granted env request db states
  cleaned : ∀ a, signedIn env request states = some a → emailUsers env db a.cognitoUsername = [] →
    a.cognitoUsername ∈ final.disabledUsers ∧ a.cognitoUsername ∈ final.deletedUsers ∧
      ∀ key, request.state.bind stateKey = some key → ¬ final.ssoStates.Has key
  denied : ∀ a user, signedIn env request states = some a → emailUsers env db a.cognitoUsername = [user] →
    user.2.enabled = false → ∃ token, a.authResult.refreshToken = some token ∧ token ∈ final.signedOut

/-- The refresh token of a sign-in can be signed out: there are logout addresses, a client id and a domain, and the
endpoint accepts the token. -/
def CanSignOut (a : SignIn) : Prop :=
  (∃ urls, env.settings.getCallbackLogoutUrls = .ok urls) ∧ (a.clientId.filter (· ≠ "")).isSome ∧
    (getString env.settings.domainUrl.join none).isSome ∧
    ∃ token, a.authResult.refreshToken = some token ∧ isEmpty token = false ∧ env.revokeToken token = .ok ()

/-- The calls that leave behind what they are to. -/
def CallbackSound (request : CallbackRequest) (db : Db) (states : Table StateKey SsoStateRow) : Prop :=
  match signedIn env request states with
  | none => ¬ HoldsTokens states request.state
  | some a =>
    match emailUsers env db a.cognitoUsername with
    | [] => False
    | [user] => user.2.enabled = true ∨ (¬ HoldsTokens states request.state ∧ CanSignOut env a)
    | _ :: _ :: _ => ¬ HoldsTokens states request.state

/-! ## The lookup of the user -/

variable {env}

/-- An address that was sanitized is sanitized again as it is. -/
theorem sanitizeEmail_again {ctx : AccountsContext} {email : Option String} {key : String}
    (h : sanitizeEmail ctx email = .ok key) : sanitizeEmail ctx (some key) = .ok key := by
  cases email with
  | none => cases h
  | some email =>
    unfold sanitizeEmail at h
    dsimp only at h
    split at h
    · cases h
    · rename_i hblank
      split at h
      · cases h
      · rename_i hvalid
        rw [← Except.ok.inj h]
        unfold sanitizeEmail
        dsimp only
        rw [isEmpty_lower_strip, if_neg hblank, lower_strip_idem, if_neg hvalid]

/-- What the lookup of an address answers, with the tables as they are. -/
theorem run_getUserByEmail (env : CallbackEnv) (email : Option String) (db : Db) :
    ∃ r, (getUserByEmail env email).run db = (r, db) ∧ ∀ found, r = .ok found ↔
      ∃ key user, sanitizeEmail env.accounts email = .ok key ∧ usersByEmail db key = [user] ∧
        found = some (UserDao.convertFromDb user.1 user.2) := by
  unfold getUserByEmail
  cases hkey : sanitizeEmail env.accounts email with
  | error e =>
    refine ⟨.error e, rfl, fun found => ⟨nofun, ?_⟩⟩
    rintro ⟨key, user, hnone, -⟩
    cases hnone
  | ok key =>
    rw [Proc.run_bind_of_ok (Proc.run_liftExcept _ db), sanitizeEmail_again hkey,
      Proc.run_bind_of_ok (Proc.run_liftExcept _ db), Proc.run_bind_of_ok (Proc.run_gets _ db)]
    rcases husers : usersByEmail db key with _ | ⟨user, _ | ⟨other, rest⟩⟩
    · refine ⟨_, rfl, fun found => ⟨nofun, ?_⟩⟩
      rintro ⟨key', user, hok, hone, -⟩
      rw [← Except.ok.inj hok, husers] at hone
      cases hone
    · refine ⟨_, rfl, fun found => ⟨fun h => ⟨key, user, rfl, husers, (Except.ok.inj h).symm⟩, ?_⟩⟩
      rintro ⟨key', user', hok, hone, rfl⟩
      rw [← Except.ok.inj hok, husers] at hone
      rw [← List.head_eq_of_cons_eq hone]
    · refine ⟨_, rfl, fun found => ⟨nofun, ?_⟩⟩
      rintro ⟨key', user', hok, hone, -⟩
      rw [← Except.ok.inj hok, husers] at hone
      cases hone

/-- The lookup of the route answers the only user with the email, and raises otherwise. -/
theorem run_existingUserOf (env : CallbackEnv) (cognitoUsername : String) (s : PortalState) :
    ∃ r, (existingUserOf env cognitoUsername).run s = (r, s) ∧ ∀ found, r = .ok found ↔
      ∃ user, emailUsers env s.db cognitoUsername = [user] ∧ found = some (UserDao.convertFromDb user.1 user.2) := by
  unfold existingUserOf emailUsers
  cases getEmailFromTokenUsername env cognitoUsername with
  | error e =>
    refine ⟨.error e, rfl, fun found => ⟨nofun, ?_⟩⟩
    rintro ⟨user, hnone, -⟩
    cases hnone
  | ok email =>
    obtain ⟨r, hrun, hr⟩ := run_getUserByEmail env email s.db
    refine ⟨r, ?_, fun found => (hr found).trans ?_⟩
    · rw [Proc.run_bind_of_ok (Proc.run_liftExcept _ s)]
      exact Proc.run_zoom_of hrun
    · dsimp only
      cases sanitizeEmail env.accounts email with
      | error e =>
        constructor
        · rintro ⟨key, user, hnone, -⟩
          cases hnone
        · rintro ⟨user, hnone, -⟩
          cases hnone
      | ok key =>
        constructor
        · rintro ⟨key', user, hok, hone, hfound⟩
          rw [← Except.ok.inj hok] at hone
          exact ⟨user, hone, hfound⟩
        · rintro ⟨user, hone, hfound⟩
          exact ⟨key, user, rfl, hone, hfound⟩

/-! ## The branches of the route -/

variable {s : PortalState}

/-- Without exactly one user the lookup raises: nothing is changed. -/
theorem run_afterClaims_of_not_one (env : CallbackEnv) (a : SignIn)
    (h : ∀ user, emailUsers env s.db a.cognitoUsername ≠ [user]) : ∃ e, (afterClaims env a).run s = (.error e, s) := by
  obtain ⟨r, hrun, hr⟩ := run_existingUserOf env a.cognitoUsername s
  cases r with
  | error e => exact ⟨e, Proc.run_bind_of_error hrun⟩
  | ok found =>
    obtain ⟨user, hone, -⟩ := (hr found).mp rfl
    exact absurd hone (h user)

variable {a : SignIn} {user : String × UserRow}

/-- With one user the route goes on with that user. -/
theorem run_afterClaims_of_one (h : emailUsers env s.db a.cognitoUsername = [user]) : (afterClaims env a).run s =
      if user.2.enabled = true then (grant env a (UserDao.convertFromDb user.1 user.2)).run s
      else (denyLogin env a).run s := by
  obtain ⟨r, hrun, hr⟩ := run_existingUserOf env a.cognitoUsername s
  have hfound : r = .ok (some (UserDao.convertFromDb user.1 user.2)) := (hr _).mpr ⟨user, h, rfl⟩
  rw [hfound] at hrun
  unfold afterClaims
  rw [Proc.run_bind_of_ok hrun]
  by_cases henabled : user.2.enabled = true
  · simp [UserDao.convertFromDb, henabled]
  · simp [UserDao.convertFromDb, henabled]

theorem requireParam_eq_ok {value : Option String} {message text : String}
    (h : requireParam value message = .ok text) : value = some text := by
  unfold requireParam at h
  cases value with
  | none => cases h
  | some value =>
    dsimp only at h
    split at h
    · cases h
    · rw [Except.ok.inj h]

theorem decodeToken_eq_ok {token : Option String} {claims : TokenClaims} (h : decodeToken env token = .ok claims) :
    token.isSome := by
  cases token with
  | none => cases h
  | some token => rfl

variable {request : CallbackRequest} {states : Table StateKey SsoStateRow}

/-- A sign-in has found the row of its state, and has an access token. -/
theorem signInOf_spec (h : signInOf env request states = .ok (some a)) :
    request.state = some a.state ∧ (∃ key row, stateKey a.state = some key ∧ states.getItem key = some row) ∧
      a.authResult.accessToken.isSome := by
  unfold signInOf at h
  split at h
  · cases h
  · obtain ⟨code, -, h⟩ := bind_eq_ok.mp h
    obtain ⟨state, hstate, h⟩ := bind_eq_ok.mp h
    obtain ⟨ssoState, hget, h⟩ := bind_eq_ok.mp h
    cases ssoState with
    | none => cases h
    | some row =>
      obtain ⟨authResult, -, h⟩ := bind_eq_ok.mp h
      obtain ⟨claims, hdecode, h⟩ := bind_eq_ok.mp h
      obtain ⟨cognitoUsername, -, rfl⟩ := Option.map_eq_some_iff.mp (Except.ok.inj h)
      refine ⟨requireParam_eq_ok hstate, ?_, decodeToken_eq_ok hdecode⟩
      unfold getSsoState at hget
      split at hget
      · cases hget
      · obtain ⟨key, hkey, hrow⟩ := Option.bind_eq_some_iff.mp (Except.ok.inj hget)
        exact ⟨key, row, hkey, hrow⟩

theorem signInOf_of_signedIn (h : signedIn env request states = some a) :
    env.settings.ssoEnabled = true ∧ signInOf env request states = .ok (some a) := by
  unfold signedIn at h
  split at h
  · rename_i hon
    refine ⟨hon, ?_⟩
    rcases hresult : signInOf env request states with e | found
    · rw [hresult] at h
      cases h
    · rw [hresult] at h
      exact congrArg Except.ok h
  · cases h

variable {key : StateKey}

theorem stateKey_spec {state : String} (h : stateKey state = some key) :
    strip state = state ∧ isEmpty state = false := by
  unfold stateKey at h
  split at h
  · assumption
  · cases h

/-- The update of a row that is there. -/
theorem run_updateSsoState {state : String} (hkey : stateKey state = some key)
    (hhas : s.ssoStates.Has key) (authResult : AuthResult) : (updateSsoState state authResult).run s =
      (.ok ⟨⟩, { s with ssoStates := s.ssoStates.updateItem key (withTokens authResult) }) := by
  obtain ⟨hstrip, hblank⟩ := stateKey_spec hkey
  unfold updateSsoState
  rw [if_neg (by rw [hblank]; exact Bool.false_ne_true), Proc.run_bind_of_ok (Proc.run_gets _ s), hstrip, hkey]
  dsimp only
  rw [if_pos hhas]
  rfl

/-- **An enabled user**: the tokens are stored, whatever comes of the activation. -/
theorem run_grant (env : CallbackEnv)
    (hkey : stateKey a.state = some key) (hhas : s.ssoStates.Has key) (user : User) : ∃ r db, (grant env a user).run s =
      (r, { s with db := db, ssoStates := s.ssoStates.updateItem key (withTokens a.authResult) }) := by
  have hactivated : ∀ t : PortalState, ∃ r db, (Proc.when (user.isActive ≠ some true) (onDb do
      let user ← getUser (user.username.getD "")
      activateUser env.accounts user)).run t = (r, { t with db := db }) := by
    intro t
    rw [Proc.run_when]
    split
    · exact ⟨_, _, rfl⟩
    · exact ⟨_, t.db, rfl⟩
  unfold grant
  rw [Proc.run_bind_of_ok (run_updateSsoState hkey hhas a.authResult)]
  obtain ⟨r, db, hrun⟩ := hactivated { s with ssoStates := s.ssoStates.updateItem key (withTokens a.authResult) }
  cases r with
  | error e => exact ⟨.error e, db, Proc.run_bind_of_error hrun⟩
  | ok _ => exact ⟨_, db, Proc.run_bind_of_ok hrun⟩

/-- There is a logout address wherever there are any addresses. -/
theorem exists_logoutUrl {c : SsoSettings} {urls : List String × List String} (h : c.getCallbackLogoutUrls = .ok urls) :
    ∃ logoutUrl, urls.2.getLast? = some logoutUrl := by
  unfold SsoSettings.getCallbackLogoutUrls at h
  obtain ⟨path, -, h⟩ := bind_eq_ok.mp h
  cases path with
  | none => cases h
  | some path =>
    rw [← Except.ok.inj h]
    exact ⟨_, List.getLast?_eq_getLast_of_ne_nil (by simp)⟩

/-- **A disabled user**: the refresh token is signed out if it can be, and otherwise nothing is changed. -/
theorem run_denyLogin (env : CallbackEnv) (a : SignIn) (s : PortalState) :
    (CanSignOut env a ∧ ∃ response token, a.authResult.refreshToken = some token ∧
      (denyLogin env a).run s = (.ok response, { s with signedOut := s.signedOut ++ [token] })) ∨
    (¬ CanSignOut env a ∧ ∃ r, (denyLogin env a).run s = (r, s)) := by
  unfold denyLogin CanSignOut
  rcases hurls : env.settings.getCallbackLogoutUrls with e | urls
  · refine .inr ⟨?_, _, rfl⟩
    rintro ⟨⟨urls, hok⟩, -⟩
    cases hok
  obtain ⟨logoutUrl, hlogout⟩ := exists_logoutUrl hurls
  rw [show (Except.ok urls : Except SettingError _).mapError settingExc = .ok urls from rfl,
    Proc.run_bind_of_ok (Proc.run_liftExcept _ s), hlogout]
  rcases hclient : a.clientId.filter (· ≠ "") with _ | clientId
  · exact .inr ⟨fun h => absurd h.2.1 Bool.false_ne_true, _, rfl⟩
  rcases hdomain : getString env.settings.domainUrl.join none with _ | domainUrl
  · exact .inr ⟨fun h => absurd h.2.2.1 Bool.false_ne_true, _, rfl⟩
  dsimp only
  unfold signOut
  rcases htoken : a.authResult.refreshToken with _ | token
  · refine .inr ⟨?_, _, rfl⟩
    rintro ⟨-, -, -, token, hnone, -⟩
    cases hnone
  dsimp only
  by_cases hblank : isEmpty token = true
  · refine .inr ⟨?_, .error _, Proc.run_bind_of_error (by rw [if_pos hblank]; rfl)⟩
    rintro ⟨-, -, -, token', hsome, hnot, -⟩
    rw [← Option.some.inj hsome, hblank] at hnot
    cases hnot
  rw [if_neg hblank]
  rcases hrevoke : env.revokeToken token with e | ⟨⟩
  · refine .inr ⟨?_, .error e, rfl⟩
    rintro ⟨-, -, -, token', hsome, -, hok⟩
    rw [← Option.some.inj hsome, hrevoke] at hok
    cases hok
  · exact .inl ⟨⟨⟨urls, rfl⟩, rfl, rfl, token, rfl, Bool.eq_false_iff.mpr hblank, hrevoke⟩, _, token, rfl, rfl⟩

/-! ## The route -/

/-- A call that gets no sign-in changes nothing. -/
theorem run_route_of_none (h : signedIn env request s.ssoStates = none) :
    ∃ response, (ssoOauth2CallbackRoute env request).run s = (.ok response, s) := by
  unfold ssoOauth2CallbackRoute
  unfold signedIn at h
  by_cases hon : env.settings.ssoEnabled = true
  · rw [if_pos hon] at h
    rw [hon]
    rcases hresult : signInOf env request s.ssoStates with e | found
    · refine ⟨portalPage env "?sso_auth_status=FAIL", ?_⟩
      simp [Proc.run_tryCatch, Proc.run_bind, hresult]
    · rw [hresult] at h
      have hnone : found = none := h
      refine ⟨portalPage env "?sso_auth_status=FAIL", ?_⟩
      simp [Proc.run_tryCatch, Proc.run_bind, hresult, hnone]
  · refine ⟨portalPage env "", ?_⟩
    simp [hon]

/-- A call with a sign-in is the rest of the route, under its handler. -/
theorem run_route_of_some (h : signedIn env request s.ssoStates = some a) :
    ∃ response, (ssoOauth2CallbackRoute env request).run s = (.ok response, ((afterClaims env a).run s).2) := by
  obtain ⟨hon, hresult⟩ := signInOf_of_signedIn h
  unfold ssoOauth2CallbackRoute
  rw [hon]
  rcases hafter : (afterClaims env a).run s with ⟨e | response, t⟩
  · refine ⟨portalPage env "?sso_auth_status=FAIL", ?_⟩
    simp [Proc.run_tryCatch, Proc.run_bind, hresult, hafter]
  · refine ⟨response, ?_⟩
    simp [Proc.run_tryCatch, Proc.run_bind, hresult, hafter]

/-! ## When a call does what it is for -/

/-- A call from a portal with these tables leaves behind what it is to. -/
def CallbackMeets (env : CallbackEnv) (request : CallbackRequest) (db : Db) (states : Table StateKey SsoStateRow) :
    Prop :=
  GrantsAndCleansUp env request db states ((ssoOauth2CallbackRoute env request).run (before db states)).2
    ((ssoOauth2CallbackRoute env request).run (before db states)).1

/-- The tokens of a sign-in are in the row of its state after they are stored. -/
theorem holdsTokens_updateItem (h : signInOf env request states = .ok (some a)) (hkey : stateKey a.state = some key) :
    HoldsTokens (states.updateItem key (withTokens a.authResult)) request.state := by
  obtain ⟨hstate, ⟨key', row, hkey', hrow⟩, htoken⟩ := signInOf_spec h
  rw [hkey'] at hkey
  obtain rfl := Option.some.inj hkey
  refine ⟨key', withTokens a.authResult row, by rw [hstate]; exact hkey', ?_, htoken⟩
  rw [Table.getItem_updateItem, if_pos rfl, hrow]
  rfl

variable {request : CallbackRequest} {db : Db} {states : Table StateKey SsoStateRow}

/-- A call that changes nothing and finds nobody to grant tokens to. -/
theorem meets_unchanged_iff {result : Except Exc Redirect} (hredirect : ∃ response, result = .ok response)
    (hgranted : ¬ Granted env request db states)
    (hsome : ∀ a, signedIn env request states = some a → emailUsers env db a.cognitoUsername ≠ [])
    (hdenied : ∀ a user, signedIn env request states = some a → emailUsers env db a.cognitoUsername ≠ [user]) :
    GrantsAndCleansUp env request db states (before db states) result ↔ ¬ HoldsTokens states request.state := by
  constructor
  · intro h hholds
    exact hgranted (h.tokens.mp hholds)
  · intro h
    exact ⟨hredirect, ⟨fun hholds => absurd hholds h, fun hgrant => absurd hgrant hgranted⟩,
      fun a ha hnone => absurd hnone (hsome a ha), fun a user ha hone => absurd hone (hdenied a user ha)⟩

/-- The row of an enabled user holds the tokens. -/
theorem meets_of_enabled (hsigned : signedIn env request states = some a)
    (husers : emailUsers env db a.cognitoUsername = [user]) (henabled : user.2.enabled = true) :
    CallbackMeets env request db states := by
  obtain ⟨response, hroute⟩ := run_route_of_some (s := before db states) hsigned
  obtain ⟨-, hsignIn⟩ := signInOf_of_signedIn hsigned
  obtain ⟨-, ⟨key, row, hkey, hrow⟩, -⟩ := signInOf_spec hsignIn
  have hhas : (before db states).ssoStates.Has key := Table.Has.of_getItem hrow
  obtain ⟨r, db', hgrant⟩ := run_grant env (s := before db states) hkey hhas
    (UserDao.convertFromDb user.1 user.2)
  rw [run_afterClaims_of_one (s := before db states) husers, if_pos henabled, hgrant] at hroute
  unfold CallbackMeets
  rw [hroute]
  refine ⟨⟨response, rfl⟩, ⟨fun _ => ⟨a, user, hsigned, husers, henabled⟩, fun _ => ?_⟩, ?_, ?_⟩
  · exact holdsTokens_updateItem hsignIn hkey
  · intro a' ha' hnone
    rw [← Option.some.inj (hsigned.symm.trans ha'), husers] at hnone
    cases hnone
  · intro a' user' ha' hone hdisabled
    rw [← Option.some.inj (hsigned.symm.trans ha'), husers] at hone
    rw [← List.head_eq_of_cons_eq hone, henabled] at hdisabled
    cases hdisabled

/-- A disabled user gets no tokens, and is signed out if that can be done. -/
theorem meets_disabled_iff (hsigned : signedIn env request states = some a)
    (husers : emailUsers env db a.cognitoUsername = [user]) (henabled : ¬ user.2.enabled = true) :
    CallbackMeets env request db states ↔ ¬ HoldsTokens states request.state ∧ CanSignOut env a := by
  obtain ⟨response, hroute⟩ := run_route_of_some (s := before db states) hsigned
  rw [run_afterClaims_of_one (s := before db states) husers, if_neg henabled] at hroute
  have hgranted : ¬ Granted env request db states := by
    rintro ⟨a', user', ha', hone, hon⟩
    rw [← Option.some.inj (hsigned.symm.trans ha'), husers] at hone
    exact henabled (by rw [List.head_eq_of_cons_eq hone]; exact hon)
  unfold CallbackMeets
  rcases run_denyLogin env a (before db states) with ⟨hcan, response', token, htoken, hrun⟩ | ⟨hcannot, r, hrun⟩
  · rw [hrun] at hroute
    rw [hroute]
    constructor
    · intro h
      exact ⟨fun hholds => hgranted (h.tokens.mp hholds), hcan⟩
    · rintro ⟨hholds, -⟩
      refine ⟨⟨response, rfl⟩, ⟨fun h => absurd h hholds, fun h => absurd h hgranted⟩, ?_, ?_⟩
      · intro a' ha' hnone
        rw [← Option.some.inj (hsigned.symm.trans ha'), husers] at hnone
        cases hnone
      · intro a' user' ha' _ _
        rw [← Option.some.inj (hsigned.symm.trans ha')]
        exact ⟨token, htoken, List.mem_append_right _ List.mem_cons_self⟩
  · rw [hrun] at hroute
    rw [hroute]
    constructor
    · intro h
      obtain ⟨token, -, hsignedOut⟩ := h.denied a user hsigned husers (Bool.eq_false_iff.mpr henabled)
      cases hsignedOut
    · rintro ⟨-, hcan⟩
      exact absurd hcan hcannot

/-- **When a call leaves behind what it is to.** -/
theorem callbackMeets_iff (env : CallbackEnv) (request : CallbackRequest) (db : Db)
    (states : Table StateKey SsoStateRow) :
    CallbackMeets env request db states ↔ CallbackSound env request db states := by
  unfold CallbackSound
  rcases hsigned : signedIn env request states with _ | a
  · obtain ⟨response, hroute⟩ := run_route_of_none (s := before db states) hsigned
    have hgranted : ¬ Granted env request db states := by
      rintro ⟨a, user, ha, -⟩
      rw [hsigned] at ha
      cases ha
    unfold CallbackMeets
    rw [hroute]
    refine meets_unchanged_iff ⟨response, rfl⟩ hgranted (fun a ha => ?_) fun a user ha => ?_
    all_goals
      rw [hsigned] at ha
      cases ha
  · obtain ⟨response, hroute⟩ := run_route_of_some (s := before db states) hsigned
    dsimp only
    rcases husers : emailUsers env db a.cognitoUsername with _ | ⟨user, _ | ⟨other, rest⟩⟩
    · obtain ⟨e, hafter⟩ := run_afterClaims_of_not_one env a (s := before db states)
        (fun user hone => by
          rw [show emailUsers env (before db states).db a.cognitoUsername = [] from husers] at hone
          cases hone)
      refine iff_of_false (fun h => ?_) not_false
      unfold CallbackMeets at h
      rw [hroute, hafter] at h
      cases (h.cleaned a hsigned husers).1
    · by_cases henabled : user.2.enabled = true
      · exact iff_of_true (meets_of_enabled hsigned husers henabled) (Or.inl henabled)
      · rw [meets_disabled_iff hsigned husers henabled]
        exact (or_iff_right henabled).symm
    · have hmany : ∀ user', emailUsers env db a.cognitoUsername ≠ [user'] := fun user' hone => by
        rw [husers] at hone
        cases hone
      obtain ⟨e, hafter⟩ := run_afterClaims_of_not_one env a (s := before db states) hmany
      unfold CallbackMeets
      rw [hroute, hafter]
      dsimp only
      refine meets_unchanged_iff ⟨response, rfl⟩ ?_ (fun a' ha' hnone => ?_) fun a' user' ha' => ?_
      · rintro ⟨a', user', ha', hone, -⟩
        rw [← Option.some.inj (hsigned.symm.trans ha')] at hone
        exact hmany user' hone
      · rw [← Option.some.inj (hsigned.symm.trans ha'), husers] at hnone
        cases hnone
      · rw [← Option.some.inj (hsigned.symm.trans ha')]
        exact hmany user'

/-! ## A user that was not added -/

/-- A cluster manager with a directory that knows nobody. -/
def plainAccounts : AccountsContext where
  administratorUsername := "clusteradmin"
  isTestMode := false
  isReadonly := true
  getLdapGroup _ := .ok none
  getGidForGroup _ := none
  isExistingUser _ := .ok false
  getUidAndGidForUser _ := none
  isValidEmail _ := true
  passwordPolicy := { minimumLength := 8, requireUppercase := false, requireNumbers := false,
                      requireSymbols := false, requireLowercase := false }
  adminCreateUser _ := .ok ()
  publishUserDisabledEvent _ := .ok ()

/-- The tokens of a federated user. -/
def bobTokens : AuthResult := ⟨some "access", some "refresh", some "id", some 3600, some "Bearer"⟩

/-- Endpoints that answer every call, for the federated user of Bob. -/
def bobEnv : CallbackEnv where
  settings := belowRes
  accounts := plainAccounts
  oauth2Token _ _ := .ok bobTokens
  decodeJwt _ := .ok ⟨some "idc_bob@example.com", some "client"⟩
  adminDisableUser _ := .ok ()
  adminDeleteUser _ := .ok ()
  revokeToken _ := .ok ()

/-- The row that `sso_initiate_route` left. -/
def startedStates : Table StateKey SsoStateRow :=
  (∅ : Table StateKey SsoStateRow).putItem ⟨"s1", by decide⟩
    ⟨some "https://alb.example.com/sso/oauth2/callback", ⟨none, none, none, none, none⟩⟩

/-- The query of the callback. -/
def bobRequest : CallbackRequest := ⟨some "code", some "s1", none⟩

/-- Nobody has the email of the federated user, and the user is neither disabled nor deleted. -/
theorem not_callbackMeets_bob : ¬ CallbackMeets bobEnv bobRequest Db.empty startedStates := by
  have hsigned : signedIn bobEnv bobRequest startedStates =
      some ⟨"s1", bobTokens, "idc_bob@example.com", some "client"⟩ := by rfl
  have husers : emailUsers bobEnv Db.empty "idc_bob@example.com" = [] := by
    unfold emailUsers
    split
    · rfl
    · split <;> rfl
  obtain ⟨response, hroute⟩ := run_route_of_some (s := before Db.empty startedStates) hsigned
  obtain ⟨e, hafter⟩ := run_afterClaims_of_not_one bobEnv ⟨"s1", bobTokens, "idc_bob@example.com", some "client"⟩
    (s := before Db.empty startedStates) (fun user hone => by
      rw [show emailUsers bobEnv (before Db.empty startedStates).db "idc_bob@example.com" = [] from husers] at hone
      cases hone)
  intro h
  unfold CallbackMeets at h
  rw [hroute, hafter] at h
  cases (h.cleaned _ hsigned husers).1

end ContainRes.WebPortal
