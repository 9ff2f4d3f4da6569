import ContainRes.Accounts.PresetComputer
import ContainRes.Accounts.SsoState
import ContainRes.Store.TimeToLive

/-! # The expiry of temporary credentials

The tokens of a single sign-on are in a table until they are fetched, and the one-time passwords of hosts that join
the directory are in another one. Both tables remove items by their `ttl`, and both writers compute it in
milliseconds.

* **`CredentialState`** — the clock, the two tables, and what the last call has returned.
* **`CredentialStep`** — a millisecond passes, or one of the calls is made.
* **`InTime`** — tokens are returned at most ten minutes after the creation of their state, and no one-time password
  is there longer than configured.
* **`runsInTime_iff`** — the runs whose states are all in time. -/

namespace ContainRes.TemporaryCredentials

open Accounts Effects PresetComputer Store Systems
open Text

/-! ## The tables -/

/-- A row of the state table. -/
structure StateRow where
  tokens : SsoState
  ttl : ℕ
  createdOn : ℕ
  updatedOn : ℕ
  deriving DecidableEq

/-- What a call has returned: for which state, when that was created, and when it was returned. -/
structure Returned where
  state : String
  createdAt : Option ℕ
  returnedAt : ℕ

/-- The clock in milliseconds, the tables, when the states were created, and what the last call has returned. -/
structure CredentialState where
  now : ℕ
  ssoStates : Table String StateRow
  entries : Table (String × String) AutomationEntry
  /-- The states that were created, with the time, the last one first. -/
  created : List (String × ℕ)
  returned : Option Returned

/-- A row without tokens. -/
def noTokens : SsoState := ⟨none, none, none, none, none⟩

/-- `create_sso_state({'state': state, ...})`; the state must not be there. -/
def createSsoState (state : String) (s : CredentialState) : CredentialState :=
  if isEmpty state ∨ s.ssoStates.Has state then s
  else
    { s with
      ssoStates := s.ssoStates.putItem state
        { tokens := noTokens, ttl := s.now + 10 * 60 * 1000, createdOn := s.now, updatedOn := s.now }
      created := (state, s.now) :: s.created }

/-- `update_sso_state` with the tokens, on the stripped state; it must be there. -/
def updateSsoState (state : String) (tokens : SsoState) (s : CredentialState) : CredentialState :=
  if isEmpty state ∨ ¬ s.ssoStates.Has (strip state) then s
  else
    { s with
      ssoStates := s.ssoStates.updateItem (strip state) fun row =>
        { row with tokens := tokens, updatedOn := s.now } }

/-- `delete_sso_state(state)`. -/
def deleteState (state : String) (s : CredentialState) : CredentialState :=
  if isEmpty state then s else { s with ssoStates := s.ssoStates.deleteItem state }

/-- A result has a token. -/
def hasToken (auth : AuthResult) : Bool :=
  auth.accessToken.isSome || auth.refreshToken.isSome || auth.idToken.isSome

/-- `initiate_auth(SSO_AUTH)`: the row is read and deleted, and the result is issued. -/
def initiateAuth (provider : IdentityProvider) (authorizationCode : String) (s : CredentialState) : CredentialState :=
  if !provider.isSsoEnabled || isEmpty authorizationCode then s
  else match s.ssoStates.getItem authorizationCode with
    | none => s
    | some row =>
      { s with
        ssoStates := s.ssoStates.deleteItem authorizationCode
        returned := match issueResult provider row.tokens with
          | .error _ => none
          | .ok result =>
            if hasToken result.auth then
              some ⟨authorizationCode, s.created.lookup authorizationCode, s.now⟩
            else none }

/-! ## Runs -/

/-- A step of a run. -/
inductive CredentialStep
  /-- A millisecond passes. -/
  | tick
  | createSsoState (state : String)
  | updateSsoState (state : String) (tokens : SsoState)
  | deleteSsoState (state : String)
  | initiateAuth (provider : IdentityProvider) (authorizationCode : String)
  /-- A message of a host is handled. -/
  | joinComputer (env : PresetEnv) (message : QueueMessage)

/-- A request of a host at a time, with the configured number of seconds for entries. -/
def atTime (now entryTtlSeconds : ℕ) (env : PresetEnv) : PresetEnv :=
  { env with currentTimeMs := now, entryTtlSeconds := entryTtlSeconds }

variable (entryTtlSeconds : ℕ)

/-- The state after a step; what was returned before is forgotten. -/
def afterStep (s : CredentialState) : CredentialStep → CredentialState
  | .tick =>
    { s with
      now := s.now + 1
      ssoStates := s.ssoStates.unexpired (s.now + 1) StateRow.ttl
      entries := s.entries.unexpired (s.now + 1) AutomationEntry.ttl
      returned := none }
  | .createSsoState state => createSsoState state { s with returned := none }
  | .updateSsoState state tokens => updateSsoState state tokens { s with returned := none }
  | .deleteSsoState state => deleteState state { s with returned := none }
  | .initiateAuth provider authorizationCode => initiateAuth provider authorizationCode { s with returned := none }
  | .joinComputer env message =>
    { s with
      entries := ((handleMessage (atTime s.now entryTtlSeconds env) message).run ⟨[], s.entries⟩).2.entries
      returned := none }

/-- The tables are empty at the start. -/
def startAt (now : ℕ) : CredentialState := ⟨now, ∅, ∅, [], none⟩

/-- The runs. -/
def credentials : System CredentialState CredentialStep where
  init s := ∃ now, s = startAt now
  next s step := some (afterStep entryTtlSeconds s step)

/-- **In time**: tokens are returned at most ten minutes after their state was created, and no entry with a one-time
password is there longer than the configured number of seconds. -/
structure InTime (s : CredentialState) : Prop where
  returned : ∀ r, s.returned = some r → ∃ createdAt, r.createdAt = some createdAt ∧
    r.returnedAt ≤ createdAt + 10 * 60 * 1000
  entries : ∀ key entry, s.entries.getItem key = some entry → entry.otp ≠ none →
    s.now ≤ entry.createdOn + entryTtlSeconds * 1000

/-- A row can be redeemed: it has a token, and its user is enabled. -/
def Redeemable (provider : IdentityProvider) (row : StateRow) : Prop :=
  (row.tokens.accessToken ≠ none ∨ row.tokens.refreshToken ≠ none ∨ row.tokens.idToken ≠ none) ∧
    ∃ user, provider.getUserFromAccessToken row.tokens.accessToken = .ok (some user) ∧ user.enabled = some true

/-- A step comes early enough: a state that can be redeemed is at most ten minutes old, and the clock does not move on
when an entry with a one-time password was written the configured number of seconds ago. -/
def Early (s : CredentialState) : CredentialStep → Prop
  | .tick => ∀ key entry, s.entries.getItem key = some entry → entry.otp ≠ none →
      s.now < entry.createdOn + entryTtlSeconds * 1000
  | .initiateAuth provider authorizationCode =>
    provider.isSsoEnabled = true → isEmpty authorizationCode = false →
      ∀ row, s.ssoStates.getItem authorizationCode = some row → Redeemable provider row →
        s.now ≤ row.createdOn + 10 * 60 * 1000
  | _ => True

/-! ## What a request of a host writes -/

/-- The entries are old ones, or they were written at the time of the request. -/
def EntriesFrom (env : PresetEnv) (old : Table (String × String) AutomationEntry) (s : PresetState) : Prop :=
  ∀ key entry, s.entries.getItem key = some entry → old.getItem key = some entry ∨
    (entry.createdOn = env.currentTimeMs ∧ entry.ttl = env.currentTimeMs + env.entryTtlSeconds * 60 * 1000)

section Requests

variable {env : PresetEnv} {old : Table (String × String) AutomationEntry} {helper : PresetComputeHelper}

theorem keeps_invokeShell (command : Command) : Keeps (EntriesFrom env old) (invokeShell env command) := by
  unfold invokeShell
  exact Keeps.bind (Keeps.gets id) fun s => Keeps.bind (Keeps.modify fun s h => h) fun _ => Keeps.pure _

theorem keeps_createAdAutomationEntry {entry : AutomationEntry} (hcreated : entry.createdOn = env.currentTimeMs)
    (httl : entry.ttl = env.currentTimeMs + env.entryTtlSeconds * 60 * 1000) :
    Keeps (EntriesFrom env old) (helper.createAdAutomationEntry entry) := by
  unfold PresetComputeHelper.createAdAutomationEntry
  refine Keeps.ite (fun _ => Keeps.raise _) fun _ => Keeps.ite (fun _ => Keeps.raise _) fun _ => ?_
  refine Keeps.modify fun s hs key entry' hentry => ?_
  rw [Table.getItem_putItem] at hentry
  split at hentry
  · rw [← Option.some.inj hentry]
    exact .inr ⟨hcreated, httl⟩
  · exact hs key entry' hentry

theorem keeps_deleteComputer (domainControllerIp : String) :
    Keeps (EntriesFrom env old) (helper.deleteComputer env domainControllerIp) := by
  unfold PresetComputeHelper.deleteComputer
  exact Keeps.bind (keeps_invokeShell _) fun _ => Keeps.ite (fun _ => Keeps.raise _) fun _ => Keeps.pure _

theorem keeps_presetComputer (domainControllerIp : String) :
    Keeps (EntriesFrom env old) (helper.presetComputer env domainControllerIp) := by
  unfold PresetComputeHelper.presetComputer
  refine Keeps.bind (Keeps.gets id) fun s => Keeps.ite (fun _ => Keeps.raise _) fun _ => ?_
  refine Keeps.bind (Keeps.liftExcept _) fun _ => Keeps.bind (keeps_invokeShell _) fun _ => ?_
  exact Keeps.ite (fun _ => Keeps.raise _) fun _ => Keeps.pure _

theorem keeps_isExistingComputerAccount : Keeps (EntriesFrom env old) (helper.isExistingComputerAccount env) := by
  unfold PresetComputeHelper.isExistingComputerAccount
  refine Keeps.bind (Keeps.liftExcept _) fun base => Keeps.bind (Keeps.gets id) fun s => ?_
  split
  · exact Keeps.raise _
  · exact Keeps.pure _

theorem keeps_recordFailure (e : PresetExc) : Keeps (EntriesFrom env old) (helper.recordFailure env e) := by
  unfold PresetComputeHelper.recordFailure
  split
  · exact Keeps.bind (keeps_createAdAutomationEntry rfl rfl) fun _ => Keeps.raise _
  · exact Keeps.raise _

theorem keeps_handleRefusal {again : Proc PresetState PresetExc PUnit} (hagain : Keeps (EntriesFrom env old) again)
    (domainControllerIp : String) (e : PresetExc) :
    Keeps (EntriesFrom env old) (helper.handleRefusal env again domainControllerIp e) := by
  unfold PresetComputeHelper.handleRefusal
  split
  · refine Keeps.ite (fun _ => ?_) fun _ => Keeps.raise _
    exact Keeps.bind (keeps_deleteComputer _) fun _ => Keeps.bind hagain fun _ => Keeps.pure _
  · exact Keeps.raise _

/-- **The attempts** write entries of the time. -/
theorem keeps_invoke (dcs : List String) : Keeps (EntriesFrom env old) (helper.invoke env dcs) := by
  induction dcs with
  | nil => exact Keeps.raise _
  | cons domainControllerIp dcs ih =>
    refine Keeps.tryCatch ?_ keeps_recordFailure
    unfold PresetComputeHelper.attemptOn
    refine Keeps.bind keeps_isExistingComputerAccount fun existing => ?_
    refine Keeps.bind (Keeps.when fun _ => keeps_deleteComputer _) fun _ => ?_
    refine Keeps.bind ?_ fun oneTimePassword => ?_
    · exact Keeps.tryCatch (Keeps.bind (keeps_presetComputer _) fun _ => Keeps.pure _) (keeps_handleRefusal ih _)
    · cases oneTimePassword with
      | none => exact Keeps.pure _
      | some otp => exact keeps_createAdAutomationEntry rfl rfl

theorem keeps_getRequired (key : String) (value : Option String) :
    Keeps (EntriesFrom env old) (PresetComputer.getRequired key value) := by
  cases value with
  | none => exact Keeps.raise _
  | some value => exact Keeps.pure _

theorem keeps_newHelper (message : QueueMessage) : Keeps (EntriesFrom env old) (newHelper env message) := by
  unfold newHelper
  refine Keeps.bind (keeps_getRequired _ _) fun awsAccount => Keeps.bind (keeps_getRequired _ _) fun clusterName => ?_
  refine Keeps.bind (keeps_getRequired _ _) fun awsRegion => ?_
  cases getAsString message.senderId with
  | none => exact Keeps.raise _
  | some senderId =>
    cases getAsString message.nonce with
    | none => exact Keeps.raise _
    | some nonce =>
      refine Keeps.bind (Keeps.liftExcept _) fun sender => Keeps.bind (Keeps.liftExcept _) fun hostname => ?_
      refine Keeps.bind (keeps_invokeShell _) fun which => Keeps.ite (fun _ => Keeps.raise _) fun _ => ?_
      refine Keeps.bind ?_ fun dcs => Keeps.pure _
      unfold getDomainControllerIpAddresses
      exact Keeps.bind (keeps_invokeShell _) fun _ => Keeps.ite (fun _ => Keeps.raise _) fun _ => Keeps.liftExcept _

/-- **A message** leaves old entries and entries of the time. -/
theorem entriesFrom_handleMessage (env : PresetEnv) (message : QueueMessage)
    (old : Table (String × String) AutomationEntry) :
    EntriesFrom env old ((handleMessage env message).run ⟨[], old⟩).2 := by
  have hkeeps : Keeps (EntriesFrom env old) (handleMessage env message) := by
    unfold handleMessage
    refine Keeps.tryCatch ?_ fun _ => Keeps.pure _
    refine Keeps.ite (fun _ => Keeps.pure _) fun _ => Keeps.tryCatch ?_ fun e => ?_
    · refine Keeps.bind ?_ fun _ => Keeps.pure _
      unfold processRequest
      exact Keeps.ite (fun _ => Keeps.bind (keeps_newHelper message) fun found => keeps_invoke found.2) fun _ =>
        Keeps.pure _
    · cases e with
      | failed m => exact Keeps.pure _
      | retry m => exact Keeps.pure _
      | other m => exact Keeps.raise _
  exact hkeeps.run fun key entry hentry => .inl hentry

end Requests

/-! ## The invariant -/

/-- The rows were created when it is recorded, and the entries have the time to live that they were written with. -/
structure Recorded (s : CredentialState) : Prop where
  rows : ∀ state row, s.ssoStates.getItem state = some row → s.created.lookup state = some row.createdOn
  entries : ∀ key entry, s.entries.getItem key = some entry →
    entry.ttl = entry.createdOn + entryTtlSeconds * 60 * 1000

variable {entryTtlSeconds} {s : CredentialState}

/-- A step that only loses rows. -/
theorem Recorded.of_rows {t : CredentialState} (h : Recorded entryTtlSeconds s)
    (hrows : ∀ state row, t.ssoStates.getItem state = some row →
      ∃ row', s.ssoStates.getItem state = some row' ∧ row'.createdOn = row.createdOn)
    (hcreated : t.created = s.created) (hentries : t.entries = s.entries) : Recorded entryTtlSeconds t := by
  constructor
  · intro state row hrow
    obtain ⟨row', hrow', heq⟩ := hrows state row hrow
    rw [hcreated, h.rows state row' hrow', heq]
  · rw [hentries]
    exact h.entries

/-- **Every step keeps it.** -/
theorem Recorded.afterStep (h : Recorded entryTtlSeconds s) (step : CredentialStep) :
    Recorded entryTtlSeconds (afterStep entryTtlSeconds s step) := by
  cases step with
  | tick =>
    refine ⟨fun state row hrow => ?_, fun key entry hentry => ?_⟩
    · exact h.rows state row (Table.getItem_unexpired.mp hrow).1
    · exact h.entries key entry (Table.getItem_unexpired.mp hentry).1
  | createSsoState state =>
    show Recorded _ (TemporaryCredentials.createSsoState state { s with returned := none })
    unfold TemporaryCredentials.createSsoState
    split
    · exact ⟨h.rows, h.entries⟩
    · refine ⟨fun state' row hrow => ?_, h.entries⟩
      show List.lookup state' ((state, s.now) :: s.created) = _
      rw [List.lookup_cons]
      by_cases heq : state' = state
      · rw [heq] at hrow ⊢
        rw [Table.getItem_putItem_self] at hrow
        rw [← Option.some.inj hrow, beq_self_eq_true]
      · rw [Table.getItem_putItem_of_ne _ _ heq] at hrow
        rw [beq_false_of_ne heq]
        exact h.rows state' row hrow
  | updateSsoState state tokens =>
    show Recorded _ (TemporaryCredentials.updateSsoState state tokens { s with returned := none })
    unfold TemporaryCredentials.updateSsoState
    split
    · exact ⟨h.rows, h.entries⟩
    · refine h.of_rows (fun state' row hrow => ?_) rfl rfl
      rw [Table.getItem_updateItem] at hrow
      split at hrow
      · rename_i heq
        obtain ⟨old, hold, hnew⟩ := Option.map_eq_some_iff.mp hrow
        exact ⟨old, heq ▸ hold, by rw [← hnew]⟩
      · exact ⟨row, hrow, rfl⟩
  | deleteSsoState state =>
    show Recorded _ (deleteState state { s with returned := none })
    unfold deleteState
    split
    · exact ⟨h.rows, h.entries⟩
    · refine h.of_rows (fun state' row hrow => ?_) rfl rfl
      rw [Table.getItem_deleteItem] at hrow
      split at hrow
      · cases hrow
      · exact ⟨row, hrow, rfl⟩
  | initiateAuth provider authorizationCode =>
    show Recorded _ (TemporaryCredentials.initiateAuth provider authorizationCode { s with returned := none })
    unfold TemporaryCredentials.initiateAuth
    split
    · exact ⟨h.rows, h.entries⟩
    · split
      · exact ⟨h.rows, h.entries⟩
      · refine h.of_rows (fun state' row hrow => ?_) rfl rfl
        rw [Table.getItem_deleteItem] at hrow
        split at hrow
        · cases hrow
        · exact ⟨row, hrow, rfl⟩
  | joinComputer env message =>
    refine ⟨h.rows, fun key entry hentry => ?_⟩
    rcases entriesFrom_handleMessage (atTime s.now entryTtlSeconds env) message s.entries key entry hentry with
      hold | ⟨hcreated, httl⟩
    · exact h.entries key entry hold
    · rw [httl, hcreated]
      rfl

/-! ## One step -/

theorem initiateAuth_now (provider : IdentityProvider) (authorizationCode : String) (s : CredentialState) :
    (initiateAuth provider authorizationCode s).now = s.now := by
  unfold initiateAuth
  split
  · rfl
  · split <;> rfl

theorem initiateAuth_entries (provider : IdentityProvider) (authorizationCode : String) (s : CredentialState) :
    (initiateAuth provider authorizationCode s).entries = s.entries := by
  unfold initiateAuth
  split
  · rfl
  · split <;> rfl

/-- **A result has a token** exactly for a row that can be redeemed. -/
theorem issued_iff {provider : IdentityProvider} {row : StateRow} :
    (∃ result, issueResult provider row.tokens = .ok result ∧ hasToken result.auth = true) ↔
      Redeemable provider row := by
  have htoken : ∀ auth : AuthResult, hasToken auth = true ↔
      (auth.accessToken ≠ none ∨ auth.refreshToken ≠ none ∨ auth.idToken ≠ none) := by
    intro auth
    unfold hasToken
    rw [Bool.or_eq_true, Bool.or_eq_true, Option.isSome_iff_ne_none, Option.isSome_iff_ne_none,
      Option.isSome_iff_ne_none, or_assoc]
  unfold issueResult addRoleDbusernameToAuthResult Redeemable
  cases hfound : provider.getUserFromAccessToken row.tokens.accessToken with
  | error e =>
    exact ⟨fun ⟨_, hok, _⟩ => (nomatch hok), fun ⟨_, _, hok, _⟩ => (nomatch hok)⟩
  | ok found =>
    cases found with
    | none => exact ⟨fun ⟨_, hok, _⟩ => (nomatch hok), fun ⟨_, _, hok, _⟩ => (nomatch hok)⟩
    | some user =>
      by_cases henabled : user.enabled = some true
      · simp only [if_pos henabled]
        constructor
        · rintro ⟨result, hok, hhas⟩
          rw [← Except.ok.inj hok, htoken] at hhas
          exact ⟨hhas, user, rfl, henabled⟩
        · rintro ⟨hhas, -⟩
          exact ⟨_, rfl, (htoken _).mpr hhas⟩
      · simp only [if_neg henabled]
        constructor
        · rintro ⟨result, hok, -⟩
          -- a disabled user is signed out, and nothing is returned
          cases hout : provider.signOut row.tokens.refreshToken with
          | error e =>
            rw [hout] at hok
            exact nomatch hok
          | ok u =>
            rw [hout] at hok
            exact nomatch hok
        · rintro ⟨-, user', hok, henabled'⟩
          rw [← Option.some.inj (Except.ok.inj hok)] at henabled'
          exact absurd henabled' henabled

/-- **What `initiate_auth` returns** in a state in which nothing was returned. -/
theorem returned_initiateAuth {provider : IdentityProvider} {authorizationCode : String} {r : Returned}
    (hnone : s.returned = none) : (initiateAuth provider authorizationCode s).returned = some r ↔
      provider.isSsoEnabled = true ∧ isEmpty authorizationCode = false ∧
        ∃ row, s.ssoStates.getItem authorizationCode = some row ∧ Redeemable provider row ∧
          r = ⟨authorizationCode, s.created.lookup authorizationCode, s.now⟩ := by
  unfold initiateAuth
  by_cases hrefused : (!provider.isSsoEnabled || isEmpty authorizationCode) = true
  · rw [if_pos hrefused, hnone]
    refine ⟨fun h => (nomatch h), fun ⟨hsso, hcode, _⟩ => ?_⟩
    rw [hsso, hcode] at hrefused
    exact nomatch hrefused
  rw [if_neg hrefused]
  rw [Bool.or_eq_true, not_or, Bool.not_eq_true, Bool.not_eq_true, Bool.not_eq_false'] at hrefused
  cases hrow : s.ssoStates.getItem authorizationCode with
  | none =>
    show s.returned = some r ↔ _
    rw [hnone]
    exact ⟨fun h => (nomatch h), fun ⟨_, _, _, h, _⟩ => (nomatch h)⟩
  | some row =>
    have hissued : (∃ result, issueResult provider row.tokens = .ok result ∧ hasToken result.auth = true) ↔
        Redeemable provider row := issued_iff
    show (match issueResult provider row.tokens with
      | .error _ => none
      | .ok result =>
        if hasToken result.auth then some ⟨authorizationCode, s.created.lookup authorizationCode, s.now⟩
        else none) = some r ↔ _
    constructor
    · intro h
      cases hissue : issueResult provider row.tokens with
      | error e =>
        rw [hissue] at h
        exact nomatch h
      | ok result =>
        rw [hissue] at h
        by_cases htoken : hasToken result.auth = true
        · simp only [if_pos htoken] at h
          exact ⟨hrefused.1, hrefused.2, row, rfl, hissued.mp ⟨result, hissue, htoken⟩, (Option.some.inj h).symm⟩
        · simp only [if_neg htoken] at h
          exact nomatch h
    · rintro ⟨-, -, row', hrow', hredeemable, hr⟩
      rw [← Option.some.inj hrow', ← hissued] at hredeemable
      obtain ⟨result, hissue, htoken⟩ := hredeemable
      rw [hissue, hr]
      exact if_pos htoken

/-- **A step leads to a state in time** exactly when it comes early enough. -/
theorem inTime_afterStep_iff (hrec : Recorded entryTtlSeconds s) (hs : InTime entryTtlSeconds s)
    (step : CredentialStep) :
    InTime entryTtlSeconds (afterStep entryTtlSeconds s step) ↔ Early entryTtlSeconds s step := by
  cases step with
  | tick =>
    constructor
    · intro h key entry hentry hotp
      have hnow := hs.entries key entry hentry hotp
      have httl := hrec.entries key entry hentry
      -- the time to live, read as seconds, is far away
      have hleft : (s.now + 1) / 1000 ≤ entry.ttl := by omega
      have hnext : s.now + 1 ≤ entry.createdOn + entryTtlSeconds * 1000 :=
        h.entries key entry (Table.getItem_unexpired.mpr ⟨hentry, hleft⟩) hotp
      omega
    · intro h
      refine ⟨fun r hr => (nomatch hr), fun key entry hentry hotp => ?_⟩
      exact h key entry (Table.getItem_unexpired.mp hentry).1 hotp
  | createSsoState state =>
    refine ⟨fun _ => trivial, fun _ => ?_⟩
    show InTime _ (createSsoState state { s with returned := none })
    unfold createSsoState
    split
    · exact ⟨fun r hr => (nomatch hr), hs.entries⟩
    · exact ⟨fun r hr => (nomatch hr), hs.entries⟩
  | updateSsoState state tokens =>
    refine ⟨fun _ => trivial, fun _ => ?_⟩
    show InTime _ (updateSsoState state tokens { s with returned := none })
    unfold updateSsoState
    split
    · exact ⟨fun r hr => (nomatch hr), hs.entries⟩
    · exact ⟨fun r hr => (nomatch hr), hs.entries⟩
  | deleteSsoState state =>
    refine ⟨fun _ => trivial, fun _ => ?_⟩
    show InTime _ (deleteState state { s with returned := none })
    unfold deleteState
    split
    · exact ⟨fun r hr => (nomatch hr), hs.entries⟩
    · exact ⟨fun r hr => (nomatch hr), hs.entries⟩
  | initiateAuth provider authorizationCode =>
    have hreturned : ∀ r, (initiateAuth provider authorizationCode { s with returned := none }).returned = some r ↔
        provider.isSsoEnabled = true ∧ isEmpty authorizationCode = false ∧
          ∃ row, s.ssoStates.getItem authorizationCode = some row ∧ Redeemable provider row ∧
            r = ⟨authorizationCode, s.created.lookup authorizationCode, s.now⟩ :=
      fun r => returned_initiateAuth rfl
    constructor
    · intro h hsso hcode row hrow hredeemable
      have hr := (hreturned _).mpr ⟨hsso, hcode, row, hrow, hredeemable, rfl⟩
      obtain ⟨createdAt, hcreated, hle⟩ := h.returned _ hr
      rw [hrec.rows authorizationCode row hrow] at hcreated
      rw [Option.some.inj hcreated]
      exact hle
    · intro h
      refine ⟨fun r hr => ?_, ?_⟩
      · obtain ⟨hsso, hcode, row, hrow, hredeemable, rfl⟩ := (hreturned r).mp hr
        exact ⟨row.createdOn, hrec.rows authorizationCode row hrow, h hsso hcode row hrow hredeemable⟩
      · show ∀ key entry, (initiateAuth provider authorizationCode { s with returned := none }).entries.getItem key =
          some entry → entry.otp ≠ none →
            (initiateAuth provider authorizationCode { s with returned := none }).now ≤ _
        rw [initiateAuth_entries, initiateAuth_now]
        exact hs.entries
  | joinComputer env message =>
    refine ⟨fun _ => trivial, fun _ => ⟨fun r hr => (nomatch hr), fun key entry hentry hotp => ?_⟩⟩
    rcases entriesFrom_handleMessage (atTime s.now entryTtlSeconds env) message s.entries key entry hentry with
      hold | ⟨hcreated, -⟩
    · exact hs.entries key entry hold hotp
    · rw [hcreated]
      exact Nat.le_add_right _ _

/-! ## Runs in time -/

/-- **A run is in time** after each of its steps exactly when each of them comes early enough. -/
theorem runsInTime_iff (entryTtlSeconds now : ℕ) (steps : List CredentialStep) :
    (credentials entryTtlSeconds).Meets (fun s step => InTime entryTtlSeconds (afterStep entryTtlSeconds s step))
        (startAt now) steps ↔ (credentials entryTtlSeconds).Meets (Early entryTtlSeconds) (startAt now) steps := by
  refine System.meets_congr (I := fun s => Recorded entryTtlSeconds s ∧ InTime entryTtlSeconds s)
    (fun s step t hs hintime hnext => ?_) (fun s step hs => inTime_afterStep_iff hs.1 hs.2 step) ?_ steps
  · rw [← Option.some.inj hnext]
    exact ⟨hs.1.afterStep step, hintime⟩
  · exact ⟨⟨fun state row h => (nomatch h), fun key entry h => (nomatch h)⟩,
      ⟨fun r h => (nomatch h), fun key entry h => (nomatch h)⟩⟩

/-- **A row is kept** until the seconds exceed its time to live. -/
theorem exec_ticks (n : ℕ) (s : CredentialState) :
    ∃ t, (credentials entryTtlSeconds).exec s (List.replicate n .tick) = some t ∧ t.now = s.now + n ∧
      t.created = s.created ∧ ∀ state row, s.ssoStates.getItem state = some row → (s.now + n) / 1000 ≤ row.ttl →
        t.ssoStates.getItem state = some row := by
  induction n generalizing s with
  | zero => exact ⟨s, rfl, rfl, rfl, fun state row hrow _ => hrow⟩
  | succ n ih =>
    obtain ⟨t, ht, hnow, hcreated, hrows⟩ := ih (afterStep entryTtlSeconds s .tick)
    have hlate : (afterStep entryTtlSeconds s .tick).now = s.now + 1 := rfl
    refine ⟨t, ht, by omega, hcreated, fun state row hrow hle => hrows state row ?_ (by omega)⟩
    exact Table.getItem_unexpired.mpr ⟨hrow, by omega⟩

/-- A sign-on is started and its callback arrives, and its code comes in a millisecond after the ten minutes. -/
def lateRedemption : List CredentialStep :=
  [.createSsoState "code", .updateSsoState "code" sampleRow] ++
    (List.replicate (10 * 60 * 1000 + 1) .tick ++ [.initiateAuth enabledProvider "code"])

/-- **Tokens are returned after more than ten minutes**: the time to live of the state is some 54000 years away. -/
theorem not_runsInTime_lateRedemption :
    ¬ (credentials 1800).Meets (fun s step => InTime 1800 (afterStep 1800 s step)) (startAt 1700000000000)
      lateRedemption := by
  intro h
  obtain ⟨s, hs⟩ : ∃ s, (credentials 1800).exec (startAt 1700000000000)
      [.createSsoState "code", .updateSsoState "code" sampleRow] = some s := ⟨_, rfl⟩
  have hticks := ((System.meets_append _ _).mp h).2 s hs
  obtain ⟨t, ht, hnow, hcreated, hrows⟩ : ∃ t, (credentials 1800).exec s
      (List.replicate (10 * 60 * 1000 + 1) .tick) = some t ∧ t.now = s.now + (10 * 60 * 1000 + 1) ∧
      t.created = s.created ∧
      ∀ state row, s.ssoStates.getItem state = some row → (s.now + (10 * 60 * 1000 + 1)) / 1000 ≤ row.ttl →
        t.ssoStates.getItem state = some row := exec_ticks (10 * 60 * 1000 + 1) s
  have hlast := (((System.meets_append _ _).mp hticks).2 t ht).1
  -- the row after the callback
  have hrow : s.ssoStates.getItem "code" = some ⟨sampleRow, 1700000600000, 1700000000000, 1700000000000⟩ ∧
      s.now = 1700000000000 ∧ s.created.lookup "code" = some 1700000000000 := by
    rw [← Option.some.inj hs]
    exact ⟨by decide, rfl, by decide⟩
  obtain ⟨hrow, hstart, hlookup⟩ := hrow
  have hkept := hrows "code" _ hrow (by rw [hstart]; decide)
  have hreturned : (initiateAuth enabledProvider "code" { t with returned := none }).returned =
      some ⟨"code", t.created.lookup "code", t.now⟩ :=
    (returned_initiateAuth rfl).mpr ⟨rfl, rfl, _, hkept, ⟨.inl (fun h => (nomatch h)), _, rfl, rfl⟩, rfl⟩
  obtain ⟨createdAt, hcreatedAt, hle⟩ := hlast.returned _ hreturned
  have hfirst : t.created.lookup "code" = some createdAt := hcreatedAt
  rw [hcreated, hlookup] at hfirst
  rw [← Option.some.inj hfirst] at hle
  have hlate : t.now ≤ 1700000000000 + 10 * 60 * 1000 := hle
  omega

end ContainRes.TemporaryCredentials
