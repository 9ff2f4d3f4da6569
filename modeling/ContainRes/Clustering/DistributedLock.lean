import ContainRes.Store.InsertionDict

/-! # The distributed lock manager: acquire, release and stop

`DistributedLock` keeps the locks that it was granted in a dictionary and releases them when it is stopped. `stop`
walks this dictionary, and the `release` it calls deletes from it.

* **`LockClient`** — the client of the lock table, which is a package of its own: what it records of the calls it gets.
* **`acquire`**, **`release`**, **`stop`** — the methods of the manager.
* **`StopsCleanly`** — `stop` returns, has released each lock once, and leaves no active lock and a closed client.
* **`run_stop_of_held`** — with a lock held, `stop` releases the first one and raises.
* **`stopsCleanly_iff`** — `stop` does all that exactly when no lock is held. -/

namespace ContainRes.Clustering

open Effects Store

/-- The lock client: a state, the locks it was told to release one by one, whether it is closed, and its calls. -/
structure LockClient where
  /-- A granted lock. -/
  Lock : Type
  /-- What the client remembers. -/
  State : Type
  /-- The arguments of the calls of `release_lock` that the client got, in order. -/
  released : State → List Lock
  closed : State → Bool
  acquireLock : String → State → Option Lock × State
  releaseLock : Lock → State → State
  /-- `close(release_locks=True)`. -/
  close : State → State
  released_releaseLock : ∀ lock s, released (releaseLock lock s) = released s ++ [lock]
  closed_releaseLock : ∀ lock s, closed (releaseLock lock s) = closed s
  released_close : ∀ s, released (close s) = released s
  closed_close : ∀ s, closed (close s) = true

attribute [simp] LockClient.released_releaseLock LockClient.closed_releaseLock LockClient.released_close
attribute [simp] LockClient.closed_close

/-- What the methods of the manager raise. -/
inductive LockError
  /-- The client did not get the lock. -/
  | notAcquired
  /-- `RuntimeError`: dictionary changed size during iteration. -/
  | dictionaryChangedSize
  deriving DecidableEq

/-- The fields of a `DistributedLock` that its methods use. -/
structure DistributedLock (C : LockClient) where
  lockClient : C.State
  activeLocks : InsertionDict String C.Lock

namespace DistributedLock

variable {C : LockClient}

def acquire (key : String) : Proc (DistributedLock C) LockError PUnit := do
  let granted ← Proc.gets fun m => C.acquireLock key m.lockClient
  Proc.modify fun m => { m with lockClient := granted.2 }
  match granted.1 with
  | none => Proc.raise .notAcquired
  | some lock => Proc.modify fun m => { m with activeLocks := m.activeLocks.setItem key lock }

def release (key : String) : Proc (DistributedLock C) LockError PUnit := do
  let active ← Proc.gets DistributedLock.activeLocks
  match active.getItem key with
  | none => pure ⟨⟩
  | some lock => do
    Proc.modify fun m => { m with lockClient := C.releaseLock lock m.lockClient }
    Proc.modify fun m => { m with activeLocks := m.activeLocks.delItem key }

/-- `DistributedLock.stop`: `none` when the fuel of its loop is used up. -/
def stop (fuel : ℕ) : Proc (DistributedLock C) LockError (Option PUnit.{1}) := do
  let walked ← InsertionDict.walk DistributedLock.activeLocks .dictionaryChangedSize release fuel
  match walked with
  | none => pure none
  | some _ => do
    Proc.modify fun m => { m with lockClient := C.close m.lockClient }
    pure (some ⟨⟩)

/-- The state after the release of an active lock. -/
def afterRelease (m : DistributedLock C) (key : String) (lock : C.Lock) : DistributedLock C where
  lockClient := C.releaseLock lock m.lockClient
  activeLocks := m.activeLocks.delItem key

variable {m : DistributedLock C}

theorem run_release {key : String} {lock : C.Lock}
    (h : m.activeLocks.getItem key = some lock) : (release key).run m = (.ok ⟨⟩, m.afterRelease key lock) := by
  unfold release
  rw [Proc.run_bind_of_ok (Proc.run_gets _ m), h]
  rfl

/-- The locks that `stop` has released from `m` on, when it leaves `t`: `m` was told of fewer. -/
def releasedSince (m t : DistributedLock C) : List C.Lock :=
  (C.released t.lockClient).drop (C.released m.lockClient).length

/-- **What stopping is for.** Some run of `stop` returns, and it has told the client once to release each lock that
was active, no lock is active any more, and the client is closed. -/
def StopsCleanly (m : DistributedLock C) : Prop :=
  ∃ fuel t, Proc.Returns (stop fuel) m (some ⟨⟩) t ∧
    (releasedSince m t).Perm (m.activeLocks.entries.map Prod.snd) ∧
    t.activeLocks.keys = [] ∧ C.closed t.lockClient = true

/-- **A lock is held.** `stop` releases the first one only and raises when it goes on to the next: the others stay
active, and the client is as open as before. -/
theorem run_stop_of_held {key : String} {rest : List String}
    (h : m.activeLocks.keys = key :: rest) : ∃ lock, m.activeLocks.getItem key = some lock ∧ ∀ fuel,
      (stop fuel).run m = (.ok none, m) ∨ (stop fuel).run m = (.ok none, m.afterRelease key lock) ∨
      (stop fuel).run m = (.error .dictionaryChangedSize, m.afterRelease key lock) := by
  have hmem : key ∈ m.activeLocks.keys := by
    rw [h]
    exact List.mem_cons_self
  obtain ⟨lock, hlock⟩ := InsertionDict.getItem_of_mem hmem
  refine ⟨lock, hlock, fun fuel => ?_⟩
  unfold stop
  rcases InsertionDict.run_walk_of_delItem LockError.dictionaryChangedSize h (run_release hlock) rfl fuel with
    hwalk | hwalk | hwalk
  · exact .inl (Proc.run_bind_of_ok hwalk)
  · exact .inr (.inl (Proc.run_bind_of_ok hwalk))
  · exact .inr (.inr (Proc.run_bind_of_error hwalk))

/-- With a lock held, no run of `stop` returns. -/
theorem not_returns_stop (h : m.activeLocks.keys ≠ []) (fuel : ℕ) (t : DistributedLock C) :
    ¬ Proc.Returns (stop fuel) m (some ⟨⟩) t := by
  obtain ⟨key, rest, hkeys⟩ := List.exists_cons_of_ne_nil h
  obtain ⟨lock, -, hruns⟩ := run_stop_of_held hkeys
  intro hreturns
  unfold Proc.Returns at hreturns
  rcases hruns fuel with hrun | hrun | hrun
  all_goals
    rw [hrun] at hreturns
    cases hreturns

theorem run_stop_of_nil (h : m.activeLocks.keys = []) (fuel : ℕ) :
    (stop (fuel + 1)).run m = (.ok (some ⟨⟩), { m with lockClient := C.close m.lockClient }) := by
  unfold stop
  rw [Proc.run_bind_of_ok (InsertionDict.run_walk_of_nil h fuel)]
  rfl

/-- **`stop` does what it is for exactly when no lock is held.** -/
theorem stopsCleanly_iff (m : DistributedLock C) : StopsCleanly m ↔ m.activeLocks.keys = [] := by
  constructor
  · rintro ⟨fuel, t, hreturns, -⟩
    by_contra hheld
    exact not_returns_stop hheld fuel t hreturns
  · intro hkeys
    refine ⟨1, _, run_stop_of_nil hkeys 0, ?_, hkeys, C.closed_close _⟩
    have hentries : m.activeLocks.entries = [] := List.map_eq_nil_iff.mp hkeys
    rw [releasedSince, hentries, C.released_close, List.drop_length]
    exact List.Perm.nil

/-! ## A manager with one lock -/

/-- A client that grants every lock and numbers them. -/
def countingClient : LockClient where
  Lock := ℕ
  State := ℕ × List ℕ × Bool
  released s := s.2.1
  closed s := s.2.2
  acquireLock _ s := (some s.1, (s.1 + 1, s.2))
  releaseLock lock s := (s.1, s.2.1 ++ [lock], s.2.2)
  close s := (s.1, s.2.1, true)
  released_releaseLock _ _ := rfl
  closed_releaseLock _ _ := rfl
  released_close _ := rfl
  closed_close _ := rfl

/-- A manager that has acquired the lock of a leader. -/
def leader : DistributedLock countingClient :=
  ((acquire "leader").run ⟨(0, [], false), .empty⟩).2

/-- One lock is enough: `stop` raises, and the client stays open. -/
theorem not_stopsCleanly_leader : ¬ StopsCleanly leader := by
  rintro ⟨fuel, t, hreturns, -⟩
  have hkeys : leader.activeLocks.keys = ["leader"] := by decide
  exact not_returns_stop (by rw [hkeys]; exact List.cons_ne_nil _ _) fuel t hreturns

end DistributedLock

end ContainRes.Clustering
