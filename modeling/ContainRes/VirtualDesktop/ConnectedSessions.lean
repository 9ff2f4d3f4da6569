import ContainRes.VirtualDesktop.BatchOperations

/-! # The protection of connected sessions

Without `force`, a session that someone is connected to is to be left alone when sessions are stopped,
terminated or rebooted. The number of connections comes from the first page of what the broker describes, and is
zero for a session that is not on it.

* **`ReportingBroker`** — a broker that describes what it is asked for, in whatever pages.
* **`interrupted`** — the sessions that an operation deletes or reboots.
* **`Guarded`**, **`interrupted_spares_connected_iff`** — when none of them is connected without `force`. -/

namespace ContainRes.VirtualDesktop.BatchOperations

open Store Text
open Sessions

variable {κ : Type}

/-- A broker that describes exactly the DCV sessions that it is asked for, with their numbers of connections. The
pages are its own affair. A DCV session without connections may be missing, which is then one that is gone. -/
structure ReportingBroker (κ : Type) extends DcvBroker κ where
  connections : String → ℕ
  connections_blank : ∀ id, isEmpty id = true → connections id = 0
  asked : ∀ ids, ∀ e ∈ (describe ids).rows, some e.id ∈ ids
  counted : ∀ ids, ∀ e ∈ (describe ids).rows, e.numOfConnections.getD 0 = connections e.id
  complete : ∀ ids id, some id ∈ ids → 0 < connections id → ∃ e ∈ (describe ids).rows, e.id = id

namespace ReportingBroker

variable (b : ReportingBroker κ)

/-- The number of connections to a session. -/
def connectionCount (r : Requested) : ℕ := (r.dcvSessionId.map b.connections).getD 0

theorem connectionCount_of_blank {r : Requested} (h : isEmptyOpt r.dcvSessionId = true) : b.connectionCount r = 0 := by
  unfold connectionCount
  cases hid : r.dcvSessionId with
  | none => rfl
  | some id =>
    rw [hid] at h
    exact b.connections_blank id (by simpa [isEmptyOpt] using h)

/-- The counts after entries that tell the number of connections. -/
theorem countsAfter_pos_iff {entries : List DescribedSession}
    (h : ∀ e ∈ entries, e.numOfConnections.getD 0 = b.connections e.id) (count : Option String → ℕ)
    (id : Option String) : 0 < countsAfter entries count id ↔ (∃ e ∈ entries, some e.id = id ∧ 0 < b.connections e.id) ∨
        (∀ e ∈ entries, some e.id ≠ id) ∧ 0 < count id := by
  induction entries generalizing count with
  | nil => simp [countsAfter]
  | cons e rest ih =>
    have hrest := ih (fun e' he' => h e' (List.mem_cons_of_mem _ he'))
      (Function.update count (some e.id) (e.numOfConnections.getD 0))
    change 0 < countsAfter rest _ id ↔ _
    rw [hrest, h e List.mem_cons_self, List.exists_mem_cons_iff, List.forall_mem_cons]
    by_cases hid : id = some e.id
    · subst hid
      rw [Function.update_self]
      by_cases hlater : ∃ e' ∈ rest, some e'.id = some e.id
      · obtain ⟨e', he', heq⟩ := hlater
        have hsame : e'.id = e.id := Option.some.inj heq
        constructor
        · rintro (hex | ⟨hall, -⟩)
          · exact .inl (.inr hex)
          · exact absurd heq (hall e' he')
        · rintro ((⟨-, hpos⟩ | hex) | ⟨⟨hne, -⟩, -⟩)
          · exact .inl ⟨e', he', heq, hsame ▸ hpos⟩
          · exact .inl hex
          · exact absurd rfl hne
      · have hnone : ∀ e' ∈ rest, some e'.id ≠ some e.id := fun e' he' heq => hlater ⟨e', he', heq⟩
        constructor
        · rintro (hex | ⟨-, hpos⟩)
          · exact .inl (.inr hex)
          · exact .inl (.inl ⟨rfl, hpos⟩)
        · rintro ((⟨-, hpos⟩ | hex) | ⟨⟨hne, -⟩, -⟩)
          · exact .inr ⟨hnone, hpos⟩
          · exact .inl hex
          · exact absurd rfl hne
    · rw [Function.update_of_ne hid]
      have hne : some e.id ≠ id := Ne.symm hid
      simp only [hne, false_and, false_or, ne_eq, not_false_eq_true, true_and]

/-- The sessions that are counted as idle have no connections when each of those that have some is on the first
page and none is followed by another with its id. -/
theorem idle_iff (count : Option String → ℕ) (sessions : List Requested) :
    (∀ c ∈ countedWith count sessions, c.2 = 0 → b.connectionCount c.1 = 0) ↔
      ((sessions.filter fun r => 0 < b.connectionCount r).map Requested.dcvSessionId).Nodup ∧
        ∀ r ∈ sessions, 0 < b.connectionCount r → 0 < count r.dcvSessionId := by
  induction sessions with
  | nil => simp [countedWith]
  | cons r rest ih =>
    rw [countedWith, List.forall_mem_cons, ih, List.forall_mem_cons]
    by_cases hr : 0 < b.connectionCount r
    · have hmem : r.dcvSessionId ∈ (rest.filter fun r => 0 < b.connectionCount r).map Requested.dcvSessionId ↔
          r.dcvSessionId ∈ rest.map Requested.dcvSessionId := by
        simp only [List.mem_map, List.mem_filter, decide_eq_true_eq]
        constructor
        · rintro ⟨r', ⟨hr', -⟩, heq⟩
          exact ⟨r', hr', heq⟩
        · rintro ⟨r', hr', heq⟩
          refine ⟨r', ⟨hr', ?_⟩, heq⟩
          unfold connectionCount at hr ⊢
          rwa [heq]
      have hne : b.connectionCount r ≠ 0 := by omega
      rw [List.filter_cons_of_pos (by simpa using hr), List.map_cons, List.nodup_cons, hmem]
      simp only [hne, imp_false, hr, forall_true_left]
      by_cases hlater : r.dcvSessionId ∈ rest.map Requested.dcvSessionId
      · simp [hlater]
      · simp only [hlater, if_false, not_false_eq_true, true_and, ← Nat.pos_iff_ne_zero]
        exact and_left_comm
    · have hzero : b.connectionCount r = 0 := by omega
      rw [List.filter_cons_of_neg (by simpa using hr)]
      simp [hzero]

variable [DecidableEq κ]

/-- The session is on the first page of the description of some. -/
def OnFirstPage (sessions : List Requested) (r : Requested) : Prop :=
  ∃ e ∈ describeSessions b.toDcvBroker (sessions.map Requested.dcvSessionId), some e.id = r.dcvSessionId

theorem mem_rows_of_firstPage {ids : List (Option String)} {e : DescribedSession}
    (h : e ∈ describeSessions b.toDcvBroker ids) : e ∈ (b.describe ids).rows := by
  rw [PagedRows.mem_rows_iff]
  exact ⟨0, (b.describe ids).count_pos, h⟩

theorem answersAsked (sessions : List Requested) : AnswersAsked b.toDcvBroker sessions :=
  fun e he => b.asked _ e (b.mem_rows_of_firstPage he)

/-- A session has a count when it has connections and is on the first page. -/
theorem firstPageCount_pos_iff (sessions : List Requested) (r : Requested) :
    0 < firstPageCount b.toDcvBroker sessions r.dcvSessionId ↔ b.OnFirstPage sessions r ∧ 0 < b.connectionCount r := by
  unfold firstPageCount
  rw [b.countsAfter_pos_iff fun e he => b.counted _ e (b.mem_rows_of_firstPage he)]
  constructor
  · rintro (⟨e, he, hid, hpos⟩ | ⟨-, hpos⟩)
    · refine ⟨⟨e, he, hid⟩, ?_⟩
      unfold connectionCount
      rw [← hid]
      exact hpos
    · exact absurd hpos (lt_irrefl 0)
  · rintro ⟨⟨e, he, hid⟩, hpos⟩
    unfold connectionCount at hpos
    rw [← hid] at hpos
    exact .inl ⟨e, he, hid, hpos⟩

end ReportingBroker

/-! ## The operations -/

/-- The operations that interrupt a session. -/
inductive Operation
  | stop
  | terminate
  | reboot
  deriving DecidableEq, Repr

/-- The sessions of an operation that are looked at for connections. -/
def considered : Operation → List Requested → List Requested
  | .stop, sessions => (stopSelection sessions).toDelete
  | .terminate, sessions => (terminateSelection sessions).toDelete
  | .reboot, sessions => sessions.filter rebootable

/-- The sessions that an operation goes on with as they are. -/
def unasked : Operation → List Requested → List Requested
  | .stop, sessions => (stopSelection sessions).withoutDcv
  | .terminate, sessions => (terminateSelection sessions).withoutDcv
  | .reboot, _ => []

/-- The sessions that are not counted have no connections, if the stopped ones that are terminated have none. -/
theorem unasked_iff (b : ReportingBroker κ) (op : Operation) (sessions : List Requested) :
    (∀ r ∈ unasked op sessions, r.forced = false → b.connectionCount r = 0) ↔
      (op = .terminate → ∀ r ∈ sessions, r.session.state = .stopped → r.forced = false → b.connectionCount r = 0) := by
  cases op with
  | stop =>
    refine iff_of_true (fun r hr _ => ?_) fun h => absurd h (by decide)
    exact b.connectionCount_of_blank (List.mem_filter.mp hr).2
  | reboot => exact iff_of_true (fun r hr => absurd hr List.not_mem_nil) fun h => absurd h (by decide)
  | terminate =>
    constructor
    · intro h _ r hr hstate hforce
      exact h r (List.mem_filter.mpr ⟨hr, by simp [hstate]⟩) hforce
    · intro h r hr hforce
      obtain ⟨hr, hwithout⟩ := List.mem_filter.mp hr
      rcases Bool.or_eq_true _ _ |>.mp hwithout with hblank | hstate
      · exact b.connectionCount_of_blank hblank
      · exact h rfl r hr (by simpa using hstate) hforce

variable [DecidableEq κ]

/-- The sessions that an operation deletes or reboots: it asks the broker to delete their DCV sessions, or EC2 to
stop, terminate or reboot their instances. -/
def interrupted (broker : DcvBroker κ) (op : Operation) (sessions : List Requested) :
    Except Exc (List Requested) := do
  let split ← splitByConnections broker (considered op sessions)
  return split.accepted ++ unasked op sessions

/-- The sessions that are counted. -/
def checked (op : Operation) (sessions : List Requested) : List Requested :=
  (considered op sessions).filter fun r => !r.forced

/-- What keeps connected sessions safe. -/
structure Guarded (b : ReportingBroker κ) (op : Operation) (sessions : List Requested) : Prop where
  /-- No DCV session with connections is counted for two requests. -/
  once : (((checked op sessions).filter fun r => 0 < b.connectionCount r).map Requested.dcvSessionId).Nodup
  /-- Every session with connections is on the first page. -/
  onFirstPage : ∀ r ∈ checked op sessions, 0 < b.connectionCount r → b.OnFirstPage (checked op sessions) r
  /-- No session that is terminated in `STOPPED` has connections. -/
  stopped : op = .terminate → ∀ r ∈ sessions, r.session.state = .stopped → r.forced = false →
    b.connectionCount r = 0

/-- The ids that name a DCV session. -/
def namedIds (ids : List (Option String)) : List String :=
  ids.filterMap fun id => id.filter fun id => !isEmpty id

theorem mem_namedIds {ids : List (Option String)} {id : String} :
    id ∈ namedIds ids ↔ some id ∈ ids ∧ isEmpty id = false := by
  simp [namedIds, Option.filter_eq_some_iff]

/-- A page for each of some sessions, with one connection to each. -/
def singlePages : List String → List (List DescribedSession)
  | [] => [[]]
  | ids => ids.map fun id => [⟨id, some 1⟩]

theorem mem_flatten_singlePages {ids : List String} {e : DescribedSession} :
    e ∈ (singlePages ids).flatten ↔ e.id ∈ ids ∧ e.numOfConnections = some 1 := by
  cases ids with
  | nil => simp [singlePages]
  | cons first rest =>
    rw [singlePages, List.mem_flatten]
    · constructor
      · rintro ⟨page, hpage, he⟩
        obtain ⟨id, hid, rfl⟩ := List.mem_map.mp hpage
        obtain rfl := List.mem_singleton.mp he
        exact ⟨hid, rfl⟩
      · rintro ⟨hid, hone⟩
        refine ⟨[⟨e.id, some 1⟩], List.mem_map.mpr ⟨e.id, hid, rfl⟩, ?_⟩
        rw [List.mem_singleton, ← hone]
    · exact fun h => absurd h (List.cons_ne_nil _ _)

/-- A connection to every DCV session, and a page for each session of a description. -/
def onePerPage : ReportingBroker ℕ where
  describe ids :=
    { pages := singlePages (namedIds ids)
      pages_ne_nil := by
        cases namedIds ids <;> exact List.cons_ne_nil _ _
      lastKey := id
      lastKey_injective := Function.injective_id }
  delete _ := {}
  connections id := if isEmpty id then 0 else 1
  connections_blank _ h := if_pos h
  asked ids e he := (mem_namedIds.mp (mem_flatten_singlePages.mp he).1).1
  counted ids e he := by
    obtain ⟨hid, hone⟩ := mem_flatten_singlePages.mp he
    rw [hone, if_neg (by simp [(mem_namedIds.mp hid).2])]
    rfl
  complete ids id hid hpos := by
    have hblank : isEmpty id = false := by
      by_contra h
      rw [if_pos (by simpa using h)] at hpos
      exact absurd hpos (lt_irrefl 0)
    exact ⟨⟨id, some 1⟩, mem_flatten_singlePages.mpr ⟨mem_namedIds.mpr ⟨hid, hblank⟩, rfl⟩, rfl⟩

/-- A session in `READY` that was asked for without `force`. -/
def readySession (ideaSessionId dcvSessionId : String) : Requested where
  session :=
    { owner := some "alice", ideaSessionId := some ideaSessionId, name := some "desktop", description := some "",
      dcvSessionId := some dcvSessionId, state := .ready, hibernationEnabled := false,
      server := some { instanceId := some "i-1" }, schedule := fun _ => none }
  force := none

end ContainRes.VirtualDesktop.BatchOperations
