import ContainRes.Api.InvocationContext
import ContainRes.Systems.Guarded

/-! # Redemption of SSO states

A single sign-on leaves the tokens of the user in a table under an authorization code, and
`initiate_auth(SSO_AUTH)` hands them out: it reads the row of the code, deletes it and issues the
result. These are three steps of one request, and the steps of concurrent requests interleave.

* **`getSsoState`**, **`deleteSsoState`** — the DAO, on the table.
* **`redemption`** — the system of any number of requests; a label is one step of one of them and
  carries what the step reads outside the table.
* **`redeemed_at_most_once`** — no code is redeemed twice in a run in which no request reads a row
  that another request has read and not yet deleted; `redeemed_twice` is a run that does. -/

namespace ContainRes.Accounts

open Api Store Systems Text

/-- A row of the SSO state table: the tokens under an authorization code. -/
structure SsoState where
  accessToken : Option String
  refreshToken : Option String
  idToken : Option String
  expiresIn : Option Nat
  tokenType : Option String
  deriving DecidableEq, Repr

structure AuthResult where
  accessToken : Option String
  refreshToken : Option String
  idToken : Option String
  expiresIn : Option Nat
  tokenType : Option String
  deriving DecidableEq, Repr

/-- `InitiateAuthResult`, without the challenge an SSO result never has. -/
structure InitiateAuthResult where
  auth : AuthResult
  role : Option String
  dbUsername : Option String
  deriving DecidableEq, Repr

/-! ## `SingleSignOnStateDAO` -/

def getSsoState (table : Table String SsoState) (state : Option String) :
    Except Exc (Option SsoState) :=
  match state with
  | none => .error (.invalidParams "state is required")
  | some state =>
    if isEmpty state then .error (.invalidParams "state is required")
    else .ok (table.getItem state)

/-- `delete_sso_state(state)`; the delete has no condition, so it succeeds on a missing row too. -/
def deleteSsoState (table : Table String SsoState) (state : Option String) :
    Except Exc (Table String SsoState) :=
  match state with
  | none => .error (.invalidParams "state is required")
  | some state =>
    if isEmpty state then .error (.invalidParams "state is required")
    else .ok (table.deleteItem state)

/-! ## `initiate_auth(SSO_AUTH)` -/

/-- What a step of a request reads outside the table, as it stands at the time of the step. -/
structure IdentityProvider where
  /-- `is_sso_enabled()`. -/
  isSsoEnabled : Bool
  /-- `get_user_from_access_token(access_token)`. -/
  getUserFromAccessToken : Option String → Except Exc (Option User)
  /-- `sign_out(refresh_token, sso_auth=True)`. -/
  signOut : Option String → Except Exc Unit

/-- The request up to `get_sso_state`: the row it goes on with. -/
def readState (provider : IdentityProvider) (table : Table String SsoState)
    (authorizationCode : Option String) : Except Exc SsoState :=
  if !provider.isSsoEnabled then .error (.unauthorizedAccess none)
  else if isEmptyOpt authorizationCode then
    .error (.invalidParams "authorization_code is required.")
  else
    match getSsoState table authorizationCode with
    | .error e => .error e
    | .ok none => .error (.unauthorizedAccess none)
    | .ok (some dbSsoState) => .ok dbSsoState

def addRoleDbusernameToAuthResult (provider : IdentityProvider) (auth : AuthResult) :
    Except Exc InitiateAuthResult :=
  match provider.getUserFromAccessToken auth.accessToken with
  | .error e => .error e
  | .ok none => .error (.other .attributeError "'NoneType' object has no attribute 'enabled'")
  | .ok (some user) =>
    if user.enabled = some true then
      .ok { auth := auth, role := user.role, dbUsername := user.username }
    else
      match provider.signOut auth.refreshToken with
      | .error e => .error e
      | .ok () => .error (.unauthorizedAccess none)

/-- The request after `delete_sso_state`: the result built from the row it read. -/
def issueResult (provider : IdentityProvider) (dbSsoState : SsoState) :
    Except Exc InitiateAuthResult :=
  addRoleDbusernameToAuthResult provider
    { accessToken := dbSsoState.accessToken, refreshToken := dbSsoState.refreshToken,
      idToken := dbSsoState.idToken, expiresIn := dbSsoState.expiresIn,
      tokenType := dbSsoState.tokenType }

/-! ## Concurrent requests -/

/-- How far a request has come. -/
inductive Progress
  /-- It has not read the table yet. -/
  | received
  /-- It has read the row and not deleted it yet. -/
  | read (dbSsoState : SsoState)
  /-- It has deleted the row and not issued the result yet. -/
  | deleted (dbSsoState : SsoState)
  | returned (result : InitiateAuthResult)
  | raised (e : Exc)
  deriving DecidableEq, Repr

/-- The request has read a row and has not failed since. -/
def Progress.HoldsRow : Progress → Prop
  | .read _ | .deleted _ | .returned _ => True
  | .received | .raised _ => False

/-- The request has deleted its row and has not failed since. -/
def Progress.Deleted : Progress → Prop
  | .deleted _ | .returned _ => True
  | .received | .read _ | .raised _ => False

variable {ι : Type} [DecidableEq ι]

/-- The table and the progress of every request. -/
structure RedemptionState (ι : Type) where
  table : Table String SsoState
  progress : ι → Progress

/-- Record the progress of one request. -/
def RedemptionState.setProgress (s : RedemptionState ι) (i : ι) (progress : Progress) :
    RedemptionState ι :=
  { s with progress := Function.update s.progress i progress }

@[simp] theorem RedemptionState.setProgress_table (s : RedemptionState ι) (i : ι)
    (progress : Progress) : (s.setProgress i progress).table = s.table := rfl

@[simp] theorem RedemptionState.setProgress_progress (s : RedemptionState ι) (i : ι) (progress : Progress) :
    (s.setProgress i progress).progress = Function.update s.progress i progress := rfl

/-- A step of the request `i`. -/
inductive RedemptionStep (ι : Type)
  | getSsoState (i : ι) (provider : IdentityProvider)
  | deleteSsoState (i : ι)
  | issueResult (i : ι) (provider : IdentityProvider)

variable (code : ι → Option String)

/-- The next state under a step; each request takes its three steps in order. -/
def redemptionNext (s : RedemptionState ι) : RedemptionStep ι → Option (RedemptionState ι)
  | .getSsoState i provider =>
    match s.progress i with
    | .received =>
      match readState provider s.table (code i) with
      | .ok dbSsoState => some (s.setProgress i (.read dbSsoState))
      | .error e => some (s.setProgress i (.raised e))
    | _ => none
  | .deleteSsoState i =>
    match s.progress i with
    | .read dbSsoState =>
      match deleteSsoState s.table (code i) with
      | .ok table => some ({ s with table := table }.setProgress i (.deleted dbSsoState))
      | .error e => some (s.setProgress i (.raised e))
    | _ => none
  | .issueResult i provider =>
    match s.progress i with
    | .deleted dbSsoState =>
      match issueResult provider dbSsoState with
      | .ok result => some (s.setProgress i (.returned result))
      | .error e => some (s.setProgress i (.raised e))
    | _ => none

/-- Requests that start together on any set of stored SSO states. -/
def redemption : System (RedemptionState ι) (RedemptionStep ι) where
  init s := ∀ i, s.progress i = .received
  next := redemptionNext code

/-- Every authorization code has led to at most one request that returned its tokens. -/
def RedeemedAtMostOnce (s : RedemptionState ι) : Prop :=
  ∀ i j, code i = code j → (∃ result, s.progress i = .returned result) →
    (∃ result, s.progress j = .returned result) → i = j

/-- The condition on a step: a request reads the table only while no other request of the same code
has read the row without having deleted it. -/
def NotBetween (s : RedemptionState ι) : RedemptionStep ι → Prop
  | .getSsoState i _ => ∀ j, j ≠ i → code j = code i → ∀ row, s.progress j ≠ .read row
  | .deleteSsoState _ | .issueResult _ _ => True

/-! ## At most one request holds the row of a code -/

/-- A row that a request went on with was in the table under its code. -/
theorem getItem_of_readState {provider : IdentityProvider} {table : Table String SsoState}
    {authorizationCode : Option String} {row : SsoState} (h : readState provider table authorizationCode = .ok row) :
    ∃ c, authorizationCode = some c ∧ table.getItem c = some row := by
  unfold readState at h
  split at h
  · cases h
  · split at h
    · cases h
    · rename_i hcode
      rcases authorizationCode with _ | c
      · exact absurd rfl hcode
      · have hblank : isEmpty c = false := by simpa [isEmptyOpt] using hcode
        refine ⟨c, rfl, ?_⟩
        rcases hget : table.getItem c with _ | row'
        · simp [getSsoState, hblank, hget] at h
        · simpa [getSsoState, hblank, hget] using h

/-- The table after a delete that did not fail. -/
theorem deleteSsoState_ok {table table' : Table String SsoState}
    {authorizationCode : Option String} (h : deleteSsoState table authorizationCode = .ok table') :
    ∃ c, authorizationCode = some c ∧ table' = table.deleteItem c := by
  rcases authorizationCode with _ | c
  · cases h
  · rcases hblank : isEmpty c with _ | _
    · simp only [deleteSsoState, hblank, Bool.false_eq_true, if_false, Except.ok.injEq] at h
      exact ⟨c, rfl, h.symm⟩
    · simp [deleteSsoState, hblank] at h

/-- The invariant: a deleted row stays deleted, and no two requests hold the row of one code. -/
structure OneHolder (s : RedemptionState ι) : Prop where
  gone : ∀ i c, code i = some c → (s.progress i).Deleted → s.table.getItem c = none
  unique : ∀ i j, code i = code j → (s.progress i).HoldsRow → (s.progress j).HoldsRow → i = j

variable {code}

/-- A step that gives no request a row and leaves the table alone keeps the invariant. -/
theorem OneHolder.setProgress {s : RedemptionState ι} (h : OneHolder code s) {i : ι}
    {progress : Progress} (hholds : progress.HoldsRow → (s.progress i).HoldsRow)
    (hdeleted : progress.Deleted → (s.progress i).Deleted) : OneHolder code (s.setProgress i progress) := by
  have hback : ∀ {P : Progress → Prop}, (P progress → P (s.progress i)) →
      ∀ j, P ((s.setProgress i progress).progress j) → P (s.progress j) := by
    intro P hP j hj
    by_cases hji : j = i
    · subst hji
      rw [RedemptionState.setProgress_progress, Function.update_self] at hj
      exact hP hj
    · rwa [RedemptionState.setProgress_progress, Function.update_of_ne hji] at hj
  constructor
  · intro j c hc hj
    exact h.gone j c hc (hback hdeleted j hj)
  · intro j k hcode hj hk
    exact h.unique j k hcode (hback hholds j hj) (hback hholds k hk)

/-- Every step meeting the condition keeps the invariant. -/
theorem OneHolder.next {s t : RedemptionState ι} {step : RedemptionStep ι}
    (h : OneHolder code s) (hguard : NotBetween code s step)
    (hnext : redemptionNext code s step = some t) : OneHolder code t := by
  cases step with
  | getSsoState i provider =>
    unfold redemptionNext at hnext
    rcases hi : s.progress i with _ | _ | _ | _ | _ <;> simp only [hi] at hnext <;>
      try contradiction
    rcases hread : readState provider s.table (code i) with e | row <;>
      simp only [hread, Option.some.injEq] at hnext <;> subst hnext
    · exact h.setProgress (fun hf => hf.elim) fun hf => hf.elim
    · obtain ⟨c, hc, hrow⟩ := getItem_of_readState hread
      -- the row is still there, so no request of this code has deleted it
      have hfree : ∀ j, j ≠ i → code j = code i → ¬ (s.progress j).HoldsRow := by
        intro j hji hcode hj
        rcases hp : s.progress j with _ | row' | row' | result | e
        · simp [hp, Progress.HoldsRow] at hj
        · exact hguard j hji hcode row' hp
        · have := h.gone j c (hcode.trans hc) (by simp [hp, Progress.Deleted])
          simp [this] at hrow
        · have := h.gone j c (hcode.trans hc) (by simp [hp, Progress.Deleted])
          simp [this] at hrow
        · simp [hp, Progress.HoldsRow] at hj
      constructor
      · intro j c' hc' hj
        by_cases hji : j = i
        · subst hji
          simp [Progress.Deleted] at hj
        · rw [RedemptionState.setProgress_progress, Function.update_of_ne hji] at hj
          exact h.gone j c' hc' hj
      · intro j k hcode hj hk
        by_cases hji : j = i <;> by_cases hki : k = i
        · rw [hji, hki]
        · rw [RedemptionState.setProgress_progress, Function.update_of_ne hki] at hk
          exact absurd hk (hfree k hki (hcode.symm.trans (congrArg code hji)))
        · rw [RedemptionState.setProgress_progress, Function.update_of_ne hji] at hj
          exact absurd hj (hfree j hji (hcode.trans (congrArg code hki)))
        · rw [RedemptionState.setProgress_progress, Function.update_of_ne hji] at hj
          rw [RedemptionState.setProgress_progress, Function.update_of_ne hki] at hk
          exact h.unique j k hcode hj hk
  | deleteSsoState i =>
    unfold redemptionNext at hnext
    rcases hi : s.progress i with _ | row | _ | _ | _ <;> simp only [hi] at hnext <;>
      try contradiction
    rcases hdelete : deleteSsoState s.table (code i) with e | table <;>
      simp only [hdelete, Option.some.injEq] at hnext <;> subst hnext
    · exact h.setProgress (fun hf => hf.elim) fun hf => hf.elim
    · obtain ⟨c, hc, rfl⟩ := deleteSsoState_ok hdelete
      constructor
      · intro j c' hc' hj
        rw [RedemptionState.setProgress_table, Table.getItem_deleteItem]
        split
        · rfl
        · rename_i hne
          by_cases hji : j = i
          · subst hji
            exact absurd (Option.some.inj (hc'.symm.trans hc)) hne
          · rw [RedemptionState.setProgress_progress, Function.update_of_ne hji] at hj
            exact h.gone j c' hc' hj
      · have hback : ∀ j, (Function.update s.progress i (.deleted row) j).HoldsRow →
            (s.progress j).HoldsRow := by
          intro j hj
          by_cases hji : j = i
          · subst hji
            rw [hi]
            trivial
          · rwa [Function.update_of_ne hji] at hj
        intro j k hcode hj hk
        exact h.unique j k hcode (hback j hj) (hback k hk)
  | issueResult i provider =>
    unfold redemptionNext at hnext
    rcases hi : s.progress i with _ | _ | row | _ | _ <;> simp only [hi] at hnext <;>
      try contradiction
    rcases hissue : issueResult provider row with e | result <;>
      simp only [hissue, Option.some.injEq] at hnext <;> subst hnext
    · exact h.setProgress (fun hf => hf.elim) fun hf => hf.elim
    · exact h.setProgress (fun _ => by rw [hi]; trivial) fun _ => by rw [hi]; trivial

/-- **An SSO state is redeemed at most once** in every run in which no request reads the table
while another request of its code stands between its read and its delete. -/
theorem redeemed_at_most_once {s : RedemptionState ι}
    (h : (redemption code).Reach (NotBetween code) s) : RedeemedAtMostOnce code s := by
  have hinv : OneHolder code s := by
    refine h.invariant (fun s hinit => ?_) fun s a t hs hg hn => hs.next hg hn
    constructor
    · intro i c _ hi
      rw [hinit i] at hi
      exact hi.elim
    · intro i j _ hi _
      rw [hinit i] at hi
      exact hi.elim
  rintro i j hcode ⟨ri, hi⟩ ⟨rj, hj⟩
  exact hinv.unique i j hcode (by rw [hi]; trivial) (by rw [hj]; trivial)

/-! ## Two requests with one code -/

/-- The tokens stored under the code of the runs below. -/
def sampleRow : SsoState :=
  { accessToken := some "access", refreshToken := some "refresh", idToken := some "id",
    expiresIn := some 3600, tokenType := some "Bearer" }

/-- A provider that knows an enabled user behind every access token. -/
def enabledProvider : IdentityProvider where
  isSsoEnabled := true
  getUserFromAccessToken _ := .ok (some
    { username := some "alice", role := some "user", enabled := some true })
  signOut _ := .ok ()

/-- Two requests that carry the same authorization code. -/
def sameCode : Bool → Option String := fun _ => some "code"

/-- The state before any request has been served. -/
def sampleInit : RedemptionState Bool where
  table := (∅ : Table String SsoState).putItem "code" sampleRow
  progress _ := .received

/-- Both requests read the row before either deletes it. -/
def interleaved : List (RedemptionStep Bool) :=
  [.getSsoState true enabledProvider, .getSsoState false enabledProvider, .deleteSsoState true, .deleteSsoState false,
    .issueResult true enabledProvider, .issueResult false enabledProvider]

/-- The read and the delete of two requests interleave so that both return the stored tokens. -/
theorem redeemed_twice : ∃ s, (redemption sameCode).Reachable s ∧ ¬ RedeemedAtMostOnce sameCode s := by
  obtain ⟨s, hs⟩ : ∃ s, (redemption sameCode).exec sampleInit interleaved = some s := Option.isSome_iff_exists.mp rfl
  refine ⟨s, .of_exec (.init fun _ => rfl) hs, fun h => ?_⟩
  cases hs
  exact absurd (h true false rfl ⟨_, rfl⟩ ⟨_, rfl⟩) (by decide)

/-- One request after the other: the second finds the row gone. -/
theorem redeemed_at_most_once_sequential : ∃ s, (redemption sameCode).exec sampleInit
        [.getSsoState true enabledProvider, .deleteSsoState true,
          .getSsoState false enabledProvider, .issueResult true enabledProvider] = some s ∧
      RedeemedAtMostOnce sameCode s := by
  refine ⟨_, rfl, redeemed_at_most_once ?_⟩
  refine .step (a := .issueResult true enabledProvider) (.step (a := .getSsoState false enabledProvider)
    (.step (a := .deleteSsoState true) (.step (a := .getSsoState true enabledProvider)
      (.init (s := sampleInit) fun _ => rfl) ?_ rfl) trivial rfl) ?_ rfl) trivial rfl
  · intro j _ _ row hrow
    cases hrow
  · intro j hj _ row hrow
    cases j
    · exact hj rfl
    · cases hrow

end ContainRes.Accounts
