import Mathlib.Data.Finmap
import ContainRes.Systems.Guarded

/-! # Leader election

Every node runs an election thread that acquires the lock of the election key and then sets the
node's leader flag, and a `stop()` that releases the lock, clears the flag and joins the thread. The
two threads of a node interleave, and the lock service grants the key to one lease at a time and may
let a lease expire.

* **`loopNext`**, **`stopNext`** — one step of the election thread and of `stop()`.
* **`election`** — the system of any number of nodes and the lock service.
* **`NodeInv`**, **`ElectionInv`** — what ties the flag of a node to the lease it holds.
* **`exclusive_and_ends_on_stop`** — leadership is exclusive and ends on stop in the runs whose
  steps meet `InOrder`; `leader_after_stop` is a run whose steps do not. -/

namespace ContainRes.Clustering

open Systems Systems.System

/-! ## The two threads of a node -/

/-- Where the election thread is in `LeaderElection.loop`. -/
inductive LoopPc
  /-- `while not self._exit.is_set()`. -/
  | top
  /-- `if self.is_leader()`. -/
  | testLeader
  /-- Blocked in `acquire_lock`. -/
  | acquiring
  /-- `acquire_lock` has returned a lock, not yet stored in `_active_locks`. -/
  | granted (lock : ℕ)
  /-- `self.shell.invoke('hostname -s')`. -/
  | hostname
  /-- `self._set_leader()`. -/
  | setting
  /-- `self._exit.wait(...)`, in the `finally` block. -/
  | waiting
  /-- The thread has ended. -/
  | exited
  deriving DecidableEq, Repr

/-- Where a call of `LeaderElection.stop` is. -/
inductive StopPc
  | idle
  /-- `_exit` is set; `release` is about to test `_active_locks`. -/
  | testActive
  /-- `release_lock` of the lock found in `_active_locks`. -/
  | releasing (lock : ℕ)
  /-- `del self._active_locks[key]`. -/
  | deleting
  /-- `self._unset_leader()`. -/
  | unsetting
  /-- `self.leader_election_thread.join()`. -/
  | joining
  | returned
  deriving DecidableEq, Repr

/-- The call has not given back the lock yet. -/
def StopPc.BeforeRelease : StopPc → Prop
  | idle | testActive | releasing _ => True
  | deleting | unsetting | joining | returned => False

/-- A node: its `_exit` and `_is_leader` events, its entry of `_active_locks` for the election key,
where its two threads are, and whether a call of `stop` has ever returned. -/
structure Node where
  exit : Bool
  isLeader : Bool
  activeLock : Option ℕ
  loop : LoopPc
  stop : StopPc
  stopReturned : Bool
  deriving DecidableEq, Repr

/-- A node whose election thread has just started. -/
def Node.initial : Node :=
  { exit := false, isLeader := false, activeLock := none, loop := .top, stop := .idle,
    stopReturned := false }

variable {ν : Type} [DecidableEq ν]

/-- The cluster: its nodes, the lease the lock service has granted and not ended, if any, and the
identifier of the next lease. -/
structure Cluster (ν : Type) where
  nodes : ν → Node
  holder : Option (ν × ℕ)
  nextLock : ℕ

/-- Replace the record of one node. -/
def Cluster.setNode (s : Cluster ν) (n : ν) (node : Node) : Cluster ν :=
  { s with nodes := Function.update s.nodes n node }

/-- The outcome of the operations of the election thread that may fail. -/
inductive Outcome
  | succeeds
  | fails
  deriving DecidableEq, Repr

/-- One step of `LeaderElection.loop` at the node `n`. An exception of `acquire` (a time-out or any
other) or of the shell is caught, and the thread goes on to the `finally` block. -/
def loopNext (s : Cluster ν) (n : ν) (outcome : Outcome) : Option (Cluster ν) :=
  let node := s.nodes n
  match node.loop, outcome with
  | .top, .succeeds =>
    some (s.setNode n { node with loop := if node.exit then .exited else .testLeader })
  | .testLeader, .succeeds =>
    some (s.setNode n { node with loop := if node.isLeader then .waiting else .acquiring })
  | .acquiring, .succeeds =>
    match s.holder with
    | none =>
      some ({ s with holder := some (n, s.nextLock), nextLock := s.nextLock + 1 }.setNode n
        { node with loop := .granted s.nextLock })
    | some _ => none
  | .acquiring, .fails => some (s.setNode n { node with loop := .waiting })
  | .granted lock, .succeeds =>
    some (s.setNode n { node with activeLock := some lock, loop := .hostname })
  | .hostname, .succeeds => some (s.setNode n { node with loop := .setting })
  | .hostname, .fails => some (s.setNode n { node with loop := .waiting })
  | .setting, .succeeds => some (s.setNode n { node with isLeader := true, loop := .waiting })
  | .waiting, .succeeds => some (s.setNode n { node with loop := .top })
  | _, _ => none

/-- One step of `LeaderElection.stop` at the node `n`, and of the `DistributedLock.release` it
calls. Releasing a lock whose lease has ended changes nothing (`best_effort=True`). -/
def stopNext (s : Cluster ν) (n : ν) : Option (Cluster ν) :=
  let node := s.nodes n
  match node.stop with
  | .idle | .returned => some (s.setNode n { node with exit := true, stop := .testActive })
  | .testActive =>
    match node.activeLock with
    | none => some (s.setNode n { node with stop := .unsetting })
    | some lock => some (s.setNode n { node with stop := .releasing lock })
  | .releasing lock =>
    some ({ s with holder := if s.holder = some (n, lock) then none else s.holder }.setNode n
      { node with stop := .deleting })
  | .deleting => some (s.setNode n { node with activeLock := none, stop := .unsetting })
  | .unsetting => some (s.setNode n { node with isLeader := false, stop := .joining })
  | .joining =>
    if node.loop = .exited then
      some (s.setNode n { node with stop := .returned, stopReturned := true })
    else none

/-- The lease of the node `n` expires. -/
def expireNext (s : Cluster ν) (n : ν) : Option (Cluster ν) :=
  match s.holder with
  | some (m, _) => if m = n then some { s with holder := none } else none
  | none => none

/-- A step of the cluster. -/
inductive ElectionStep (ν : Type)
  | loop (n : ν) (outcome : Outcome)
  | stop (n : ν)
  | expire (n : ν)
  deriving DecidableEq, Repr

/-- The nodes and the lock service, started with no lease granted. -/
def election : System (Cluster ν) (ElectionStep ν) where
  init s := (∀ n, s.nodes n = .initial) ∧ s.holder = none
  next s
    | .loop n outcome => loopNext s n outcome
    | .stop n => stopNext s n
    | .expire n => expireNext s n

/-! ## The claim and the condition -/

/-- At most one node is leader. -/
def Exclusive (s : Cluster ν) : Prop :=
  ∀ n m, (s.nodes n).isLeader = true → (s.nodes m).isLeader = true → n = m

/-- A node whose `stop()` has returned is not leader and holds no lock. -/
def EndsOnStop (s : Cluster ν) : Prop :=
  ∀ n, (s.nodes n).stopReturned = true →
    (s.nodes n).isLeader = false ∧ ∀ lock, s.holder ≠ some (n, lock)

/-- The condition on a step.

* No lock is granted while a stopping node has given back its lock and not cleared its flag.
* The election thread stores a granted lock only before `stop()` tests `_active_locks`.
* It sets the flag only before `stop()` gives back the lock.
* A lease expires only at a node whose flag is not set and not about to be set. -/
def InOrder (s : Cluster ν) : ElectionStep ν → Prop
  | .loop n outcome =>
    match (s.nodes n).loop, outcome with
    | .acquiring, .succeeds => ∀ m, ((s.nodes m).stop = .deleting ∨ (s.nodes m).stop = .unsetting) →
        (s.nodes m).isLeader = false
    | .granted _, _ => (s.nodes n).stop = .idle ∨ (s.nodes n).stop = .testActive
    | .setting, _ => (s.nodes n).stop.BeforeRelease
    | _, _ => True
  | .stop _ => True
  | .expire n => (s.nodes n).isLeader = false ∧ (s.nodes n).loop ≠ .hostname ∧
      (s.nodes n).loop ≠ .setting ∧ ∀ lock, (s.nodes n).loop ≠ .granted lock

/-! ## The invariant of a node -/

/-- What ties the record of the node `n` to the lease the lock service has granted. -/
structure NodeInv (holder : Option (ν × ℕ)) (nextLock : ℕ) (n : ν) (node : Node) : Prop where
  /-- A lease of the node is the lock it was just granted or the one in `_active_locks`. -/
  holds : ∀ lock, holder = some (n, lock) → node.loop = .granted lock ∨ node.activeLock = some lock
  /-- A lock just granted is the current lease, and not yet in `_active_locks`. -/
  granted : ∀ lock, node.loop = .granted lock →
    holder = some (n, lock) ∧ node.activeLock ≠ some lock
  /-- A node that leads or is about to, and has not given back its lock, holds the lease. -/
  leads : node.isLeader = true ∨ node.loop = .hostname ∨ node.loop = .setting →
    node.stop.BeforeRelease → ∃ lock, holder = some (n, lock) ∧ node.activeLock = some lock
  /-- A leader's thread is not acquiring the lock. -/
  idle : node.isLeader = true → node.loop ≠ .acquiring ∧ (∀ lock, node.loop ≠ .granted lock) ∧
    node.loop ≠ .hostname ∧ node.loop ≠ .setting
  /-- `stop()` gives back the lock in `_active_locks`. -/
  releasing : ∀ lock, node.stop = .releasing lock → node.activeLock = some lock
  /-- Once `stop()` has given back the lock, only a lock granted since is held. -/
  released : ¬ node.stop.BeforeRelease → ∀ lock, holder = some (n, lock) →
    node.loop = .granted lock
  /-- The flag stays clear once `stop()` has cleared it. -/
  unset : node.stop = .joining ∨ node.stop = .returned → node.isLeader = false
  /-- The thread of a stopped node has ended, and the node has no lock. -/
  stopped : node.stopReturned = true → node.loop = .exited ∧ node.isLeader = false ∧
    ∀ lock, holder ≠ some (n, lock)
  /-- A call of `stop()` that has returned is recorded. -/
  returned : node.stop = .returned → node.stopReturned = true
  /-- Locks are numbered in the order of their grants. -/
  fresh : ∀ lock, node.loop = .granted lock ∨ node.activeLock = some lock → lock < nextLock

variable {n : ν} {node : Node}

omit [DecidableEq ν] in
/-- The invariant of a node looks only at its own leases. -/
theorem NodeInv.congr {holder holder' : Option (ν × ℕ)} {nextLock nextLock' : ℕ} (h : NodeInv holder nextLock n node)
    (hholder : ∀ lock, holder' = some (n, lock) ↔ holder = some (n, lock))
    (hnext : nextLock ≤ nextLock') : NodeInv holder' nextLock' n node where
  holds lock hl := h.holds lock ((hholder lock).mp hl)
  granted lock hl := ⟨(hholder lock).mpr (h.granted lock hl).1, (h.granted lock hl).2⟩
  leads hl hs := by
    obtain ⟨lock, hlock, hactive⟩ := h.leads hl hs
    exact ⟨lock, (hholder lock).mpr hlock, hactive⟩
  idle := h.idle
  releasing := h.releasing
  released hs lock hl := h.released hs lock ((hholder lock).mp hl)
  unset := h.unset
  stopped hs := by
    obtain ⟨hloop, hleader, hno⟩ := h.stopped hs
    exact ⟨hloop, hleader, fun lock hl => hno lock ((hholder lock).mp hl)⟩
  returned := h.returned
  fresh lock hl := (h.fresh lock hl).trans_le hnext

section

omit [DecidableEq ν]

variable {holder : Option (ν × ℕ)} {nextLock : ℕ} {n : ν} {node : Node}

/-- The thread moves on without having been granted a lock and without touching the flag. -/
theorem NodeInv.setLoop (h : NodeInv holder nextLock n node) {pc : LoopPc}
    (hlive : node.loop ≠ .exited) (hold : ∀ lock, node.loop ≠ .granted lock) (hgranted : ∀ lock, pc ≠ .granted lock)
    (hwindow : pc = .hostname ∨ pc = .setting → node.loop = .hostname ∨ node.loop = .setting)
    (hacquiring : pc = .acquiring → node.isLeader = false) :
    NodeInv holder nextLock n { node with loop := pc } where
  holds lock hlock := .inr ((h.holds lock hlock).resolve_left (hold lock))
  granted lock hlock := absurd hlock (hgranted lock)
  leads hleads := by
    refine h.leads ?_
    rcases hleads with hleader | hpc
    · exact .inl hleader
    · exact .inr (hwindow hpc)
  idle hleader := by
    obtain ⟨-, -, hhostname, hsetting⟩ := h.idle hleader
    have hnot : ¬ (pc = .hostname ∨ pc = .setting) := fun hpc =>
      (hwindow hpc).elim hhostname hsetting
    rw [not_or] at hnot
    refine ⟨fun hpc => ?_, hgranted, hnot.1, hnot.2⟩
    have hclear := hacquiring hpc
    rw [show node.isLeader = true from hleader] at hclear
    cases hclear
  releasing := h.releasing
  released hstop lock hlock := absurd (h.released hstop lock hlock) (hold lock)
  unset := h.unset
  stopped hstopped := absurd (h.stopped hstopped).1 hlive
  returned := h.returned
  fresh lock hlock := h.fresh lock (.inr (hlock.resolve_left (hgranted lock)))

/-- The lock service grants the lock to a node whose thread waits for it. -/
theorem NodeInv.grant (h : NodeInv none nextLock n node) (hloop : node.loop = .acquiring) :
    NodeInv (some (n, nextLock)) (nextLock + 1) n { node with loop := .granted nextLock } where
  holds lock hlock := by
    cases hlock
    exact .inl rfl
  granted lock hlock := by
    cases hlock
    exact ⟨rfl, fun hactive => (h.fresh nextLock (.inr hactive)).false⟩
  leads hleads hstop := by
    rcases hleads with hleader | hpc | hpc
    · exact absurd hloop (h.idle hleader).1
    · cases hpc
    · cases hpc
  idle hleader := absurd hloop (h.idle hleader).1
  releasing := h.releasing
  released _ lock hlock := by
    cases hlock
    rfl
  unset := h.unset
  stopped hstopped := by
    have hexited := (h.stopped hstopped).1
    rw [hloop] at hexited
    cases hexited
  returned := h.returned
  fresh lock hlock := by
    rcases hlock with hlock | hactive
    · cases hlock
      exact Nat.lt_succ_self nextLock
    · exact (h.fresh lock (.inr hactive)).trans (Nat.lt_succ_self nextLock)

/-- The thread stores the lock it was granted before `stop()` looks for it. -/
theorem NodeInv.register (h : NodeInv holder nextLock n node) {lock : ℕ}
    (hloop : node.loop = .granted lock) (hstop : node.stop = .idle ∨ node.stop = .testActive) :
    NodeInv holder nextLock n { node with activeLock := some lock, loop := .hostname } where
  holds lock' hlock' := by
    rw [(h.granted lock hloop).1] at hlock'
    cases hlock'
    exact .inr rfl
  granted lock' hlock' := by cases hlock'
  leads _ _ := ⟨lock, (h.granted lock hloop).1, rfl⟩
  idle hleader := absurd hloop ((h.idle hleader).2.1 lock)
  releasing lock' hreleasing := by
    rw [show node.stop = .releasing lock' from hreleasing] at hstop
    rcases hstop with hstop | hstop <;> cases hstop
  released hreleased := by
    refine absurd ?_ hreleased
    rcases hstop with hstop | hstop <;> rw [show _ = _ from hstop] <;> trivial
  unset hunset := by
    rcases hstop with hstop | hstop <;> rw [show _ = _ from hstop] at hunset <;>
      rcases hunset with hunset | hunset <;> cases hunset
  stopped hstopped := by
    have hexited := (h.stopped hstopped).1
    rw [hloop] at hexited
    cases hexited
  returned := h.returned
  fresh lock' hlock' := by
    rcases hlock' with hlock' | hactive
    · cases hlock'
    · cases hactive
      exact h.fresh lock (.inl hloop)

/-- The thread sets the flag before `stop()` gives back the lock. -/
theorem NodeInv.setLeader (h : NodeInv holder nextLock n node) (hloop : node.loop = .setting)
    (hstop : node.stop.BeforeRelease) :
    NodeInv holder nextLock n { node with isLeader := true, loop := .waiting } where
  holds lock hlock := by
    refine .inr ((h.holds lock hlock).resolve_left fun hgranted => ?_)
    rw [hloop] at hgranted
    cases hgranted
  granted lock hlock := by cases hlock
  leads _ hbefore := h.leads (.inr (.inr hloop)) hbefore
  idle _ := ⟨by simp, by simp, by simp, by simp⟩
  releasing := h.releasing
  released hreleased := absurd hstop hreleased
  unset hunset := by
    rcases hunset with hunset | hunset <;> rw [show node.stop = _ from hunset] at hstop <;>
      exact hstop.elim
  stopped hstopped := by
    have hexited := (h.stopped hstopped).1
    rw [hloop] at hexited
    cases hexited
  returned := h.returned
  fresh lock hlock := h.fresh lock (.inr (hlock.resolve_left fun hwaiting => by cases hwaiting))

/-- `stop()` moves on before it gives back the lock, or finds no lock to give back. -/
theorem NodeInv.setStop (h : NodeInv holder nextLock n node) {exit : Bool} {pc : StopPc}
    (hbefore : pc.BeforeRelease → node.stop.BeforeRelease ∨
      node.isLeader = false ∧ node.loop ≠ .hostname ∧ node.loop ≠ .setting)
    (hreleasing : ∀ lock, pc = .releasing lock → node.activeLock = some lock)
    (hreleased : ¬ pc.BeforeRelease → node.activeLock = none) (hpc : pc ≠ .joining ∧ pc ≠ .returned) :
    NodeInv holder nextLock n { node with exit := exit, stop := pc } where
  holds := h.holds
  granted := h.granted
  leads hleads hpcBefore := by
    rcases hbefore hpcBefore with hstop | ⟨hclear, hhostname, hsetting⟩
    · exact h.leads hleads hstop
    · rcases hleads with hleader | hloop | hloop
      · rw [show node.isLeader = true from hleader] at hclear
        cases hclear
      · exact absurd hloop hhostname
      · exact absurd hloop hsetting
  idle := h.idle
  releasing := hreleasing
  released hpcReleased lock hlock := by
    refine (h.holds lock hlock).resolve_right fun hactive => ?_
    rw [hreleased hpcReleased] at hactive
    cases hactive
  unset hunset := by
    rcases hunset with hunset | hunset
    · exact absurd hunset hpc.1
    · exact absurd hunset hpc.2
  stopped := h.stopped
  returned hreturned := absurd hreturned hpc.2
  fresh := h.fresh

/-- `stop()` forgets the lock it gave back. -/
theorem NodeInv.delete (h : NodeInv holder nextLock n node) (hstop : node.stop = .deleting) :
    NodeInv holder nextLock n { node with activeLock := none, stop := .unsetting } where
  holds lock hlock := .inl (h.released (by rw [hstop]; exact id) lock hlock)
  granted lock hlock := ⟨(h.granted lock hlock).1, by simp⟩
  leads _ hbefore := hbefore.elim
  idle := h.idle
  releasing _ hreleasing := by cases hreleasing
  released _ := h.released (by rw [hstop]; exact id)
  unset hunset := by rcases hunset with hunset | hunset <;> cases hunset
  stopped := h.stopped
  returned hreturned := by cases hreturned
  fresh lock hlock := h.fresh lock (.inl (hlock.resolve_right (by simp)))

/-- `stop()` clears the flag. -/
theorem NodeInv.unsetLeader (h : NodeInv holder nextLock n node) (hstop : node.stop = .unsetting) :
    NodeInv holder nextLock n { node with isLeader := false, stop := .joining } where
  holds := h.holds
  granted := h.granted
  leads _ hbefore := hbefore.elim
  idle hleader := by cases hleader
  releasing _ hreleasing := by cases hreleasing
  released _ := h.released (by rw [hstop]; exact id)
  unset _ := rfl
  stopped hstopped := ⟨(h.stopped hstopped).1, rfl, (h.stopped hstopped).2.2⟩
  returned hreturned := by cases hreturned
  fresh := h.fresh

/-- `stop()` returns once the thread has ended. -/
theorem NodeInv.return (h : NodeInv holder nextLock n node) (hstop : node.stop = .joining)
    (hloop : node.loop = .exited) :
    NodeInv holder nextLock n { node with stop := .returned, stopReturned := true } where
  holds := h.holds
  granted := h.granted
  leads _ hbefore := hbefore.elim
  idle := h.idle
  releasing _ hreleasing := by cases hreleasing
  released _ := h.released (by rw [hstop]; exact id)
  unset _ := h.unset (.inl hstop)
  stopped _ := by
    refine ⟨hloop, h.unset (.inl hstop), fun lock hlock => ?_⟩
    have hgranted := h.released (by rw [hstop]; exact id) lock hlock
    rw [hloop] at hgranted
    cases hgranted
  returned _ := rfl
  fresh := h.fresh

/-- The lease of a node that neither leads nor is about to expires. -/
theorem NodeInv.expire (h : NodeInv holder nextLock n node) (hleader : node.isLeader = false)
    (hhostname : node.loop ≠ .hostname) (hsetting : node.loop ≠ .setting)
    (hgranted : ∀ lock, node.loop ≠ .granted lock) : NodeInv none nextLock n node where
  holds _ hlock := by cases hlock
  granted lock hlock := absurd hlock (hgranted lock)
  leads hleads := by
    rcases hleads with hlead | hloop | hloop
    · rw [hleader] at hlead
      cases hlead
    · exact absurd hloop hhostname
    · exact absurd hloop hsetting
  idle := h.idle
  releasing := h.releasing
  released _ _ hlock := by cases hlock
  unset := h.unset
  stopped hstopped := ⟨(h.stopped hstopped).1, hleader, fun _ hlock => by cases hlock⟩
  returned := h.returned
  fresh := h.fresh

end

/-- `stop()` gives back the lock it found in `_active_locks`. -/
theorem NodeInv.release {holder : Option (ν × ℕ)} {nextLock : ℕ}
    (h : NodeInv holder nextLock n node) {lock : ℕ} (hstop : node.stop = .releasing lock) :
    NodeInv (if holder = some (n, lock) then none else holder) nextLock n
      { node with stop := .deleting } := by
  have hactive := h.releasing lock hstop
  have hother : ∀ lock', (if holder = some (n, lock) then none else holder) = some (n, lock') →
      holder = some (n, lock') ∧ node.loop = .granted lock' := by
    intro lock' hlock'
    split at hlock'
    · cases hlock'
    · rename_i hne
      refine ⟨hlock', (h.holds lock' hlock').resolve_right fun hactive' => ?_⟩
      rw [hactive] at hactive'
      cases hactive'
      exact hne hlock'
  exact {
    holds := fun lock' hlock' => .inl (hother lock' hlock').2
    granted := fun lock' hloop => by
      obtain ⟨hholder, hne⟩ := h.granted lock' hloop
      refine ⟨?_, hne⟩
      rw [if_neg, hholder]
      rintro hheld
      rw [hheld] at hholder
      cases hholder
      exact hne hactive
    leads := fun _ hbefore => hbefore.elim
    idle := h.idle
    releasing := fun _ hreleasing => by cases hreleasing
    released := fun _ lock' hlock' => (hother lock' hlock').2
    unset := fun hunset => by rcases hunset with hunset | hunset <;> cases hunset
    stopped := fun hstopped => by
      obtain ⟨hloop, hleader, hno⟩ := h.stopped hstopped
      exact ⟨hloop, hleader, fun lock' hlock' => hno lock' (hother lock' hlock').1⟩
    returned := fun hreturned => by cases hreturned
    fresh := h.fresh }

/-! ## The invariant of the cluster -/

/-- The invariant of the cluster: that of every node, and the holder of the lease is the only one
who may lead. -/
structure ElectionInv (s : Cluster ν) : Prop where
  node : ∀ n, NodeInv s.holder s.nextLock n (s.nodes n)
  alone : ∀ n lock, s.holder = some (n, lock) → ∀ m, m ≠ n → (s.nodes m).isLeader = false
  exclusive : Exclusive s

variable {s : Cluster ν}

omit [DecidableEq ν] in
theorem ElectionInv.initial (h : (∀ n, s.nodes n = .initial) ∧ s.holder = none) : ElectionInv s := by
  obtain ⟨hnodes, hholder⟩ := h
  refine ⟨fun n => ?_, by simp [hholder], fun n m hn => by simp [hnodes n, Node.initial] at hn⟩
  rw [hnodes n, hholder]
  constructor <;> simp [Node.initial, StopPc.BeforeRelease]

/-- A step of the node `n` that leaves the leases of the other nodes alone keeps the invariant when
it keeps that of `n`, gives `n` the flag only while it holds the lease, and gives it a lease only
while no other node leads. -/
theorem ElectionInv.setNode (h : ElectionInv s)
    {holder : Option (ν × ℕ)} {nextLock : ℕ} (hnode : NodeInv holder nextLock n node)
    (hother : ∀ m, m ≠ n → ∀ lock, holder = some (m, lock) ↔ s.holder = some (m, lock)) (hnext : s.nextLock ≤ nextLock)
    (hleader : node.isLeader = true → (s.nodes n).isLeader = true ∨ ∃ lock, s.holder = some (n, lock))
    (hlease : ∀ lock, holder = some (n, lock) →
      (∃ lock, s.holder = some (n, lock)) ∨ ∀ m, m ≠ n → (s.nodes m).isLeader = false) :
    ElectionInv ({ s with holder := holder, nextLock := nextLock }.setNode n node) := by
  have hself : ({ s with holder := holder, nextLock := nextLock }.setNode n node).nodes n = node :=
    Function.update_self ..
  have hne : ∀ m, m ≠ n →
      ({ s with holder := holder, nextLock := nextLock }.setNode n node).nodes m = s.nodes m :=
    fun m hm => Function.update_of_ne hm ..
  -- whoever leads besides `n`, `n` does not
  have hsole : node.isLeader = true → ∀ m, m ≠ n → (s.nodes m).isLeader = false := by
    intro hn m hm
    rcases hleader hn with hlead | ⟨lock, hlock⟩
    · by_contra hmLeader
      exact hm (h.exclusive m n (by simpa using hmLeader) hlead)
    · exact h.alone n lock hlock m hm
  constructor
  · intro m
    by_cases hm : m = n
    · subst hm
      rw [hself]
      exact hnode
    · rw [hne m hm]
      exact (h.node m).congr (hother m hm) hnext
  · intro m lock hlock k hk
    by_cases hm : m = n
    · subst hm
      rw [hne k hk]
      rcases hlease lock hlock with ⟨lock', hlock'⟩ | hnone
      · exact h.alone m lock' hlock' k hk
      · exact hnone k hk
    · have hlock' := (hother m hm lock).mp hlock
      by_cases hkn : k = n
      · subst hkn
        rw [hself]
        by_contra hlead
        rcases hleader (by simpa using hlead) with hlead' | ⟨lock', hheld⟩
        · rw [h.alone m lock hlock' k hk] at hlead'
          cases hlead'
        · rw [hlock'] at hheld
          cases hheld
          exact hm rfl
      · rw [hne k hkn]
        exact h.alone m lock hlock' k hk
  · intro m k hm hk
    by_cases hmn : m = n <;> by_cases hkn : k = n
    · rw [hmn, hkn]
    · subst hmn
      rw [hself] at hm
      rw [hne k hkn, hsole hm k hkn] at hk
      cases hk
    · subst hkn
      rw [hself] at hk
      rw [hne m hmn, hsole hk m hmn] at hm
      cases hm
    · rw [hne m hmn] at hm
      rw [hne k hkn] at hk
      exact h.exclusive m k hm hk

/-- A step that changes neither the lease nor anyone's flag to set keeps the invariant when it keeps
that of the node. -/
theorem ElectionInv.setNode_of_not_leader (h : ElectionInv s)
    (hnode : NodeInv s.holder s.nextLock n node) (hleader : node.isLeader = true → (s.nodes n).isLeader = true) :
    ElectionInv (s.setNode n node) :=
  h.setNode hnode (fun _ _ _ => Iff.rfl) le_rfl (fun hn => .inl (hleader hn))
    fun lock hlock => .inl ⟨lock, hlock⟩

omit [DecidableEq ν] in
/-- While no lease is granted and no stopping node has a flag to clear, no node leads. -/
theorem ElectionInv.no_leader (h : ElectionInv s) (hholder : s.holder = none)
    (hclear : ∀ m, (s.nodes m).stop = .deleting ∨ (s.nodes m).stop = .unsetting →
      (s.nodes m).isLeader = false) (m : ν) : (s.nodes m).isLeader = false := by
  by_contra hlead
  have hleader : (s.nodes m).isLeader = true := by simpa using hlead
  have hbefore : ¬ (s.nodes m).stop.BeforeRelease := by
    intro hbefore
    obtain ⟨lock, hlock, -⟩ := (h.node m).leads (.inl hleader) hbefore
    rw [hholder] at hlock
    cases hlock
  rcases hstop : (s.nodes m).stop with _ | _ | _ | _ | _ | _ | _
  · exact hbefore (by rw [hstop]; trivial)
  · exact hbefore (by rw [hstop]; trivial)
  · exact hbefore (by rw [hstop]; trivial)
  · exact hlead (by rw [hclear m (.inl hstop)])
  · exact hlead (by rw [hclear m (.inr hstop)])
  · exact hlead (by rw [(h.node m).unset (.inl hstop)])
  · exact hlead (by rw [(h.node m).unset (.inr hstop)])

variable {s t : Cluster ν}

/-- Every step of the election thread that meets the condition keeps the invariant. -/
theorem ElectionInv.loopNext {outcome : Outcome} (h : ElectionInv s)
    (hguard : InOrder s (.loop n outcome)) (hnext : loopNext s n outcome = some t) : ElectionInv t := by
  have hn := h.node n
  unfold Clustering.loopNext at hnext
  unfold InOrder at hguard
  rcases hloop : (s.nodes n).loop with _ | _ | _ | lock | _ | _ | _ | _ <;> cases outcome <;>
    simp only [hloop, Option.some.injEq, reduceCtorEq] at hnext hguard
  case top.succeeds =>
    subst hnext
    refine h.setNode_of_not_leader (hn.setLoop ?_ ?_ ?_ ?_ ?_) id <;>
      cases (s.nodes n).exit <;> simp [hloop]
  case testLeader.succeeds =>
    subst hnext
    refine h.setNode_of_not_leader (hn.setLoop ?_ ?_ ?_ ?_ ?_) id <;>
      cases (s.nodes n).isLeader <;> simp [hloop]
  case acquiring.succeeds =>
    rcases hholder : s.holder with _ | _ <;>
      simp only [hholder, Option.some.injEq, reduceCtorEq] at hnext
    subst hnext
    rw [hholder] at hn
    have hnone := h.no_leader hholder hguard
    refine h.setNode (hn.grant hloop) (fun m hm lock => ?_) (Nat.le_succ _) .inl
      fun _ _ => .inr fun m _ => hnone m
    rw [hholder]
    constructor
    · rintro ⟨⟩
      exact absurd rfl hm
    · rintro ⟨⟩
  case acquiring.fails =>
    subst hnext
    exact h.setNode_of_not_leader (hn.setLoop (by simp [hloop]) (by simp [hloop]) (by simp)
      (by simp) (by simp)) id
  case granted.succeeds =>
    subst hnext
    exact h.setNode_of_not_leader (hn.register hloop hguard) id
  case hostname.succeeds =>
    subst hnext
    exact h.setNode_of_not_leader (hn.setLoop (by simp [hloop]) (by simp [hloop]) (by simp)
      (by simp [hloop]) (by simp)) id
  case hostname.fails =>
    subst hnext
    exact h.setNode_of_not_leader (hn.setLoop (by simp [hloop]) (by simp [hloop]) (by simp)
      (by simp) (by simp)) id
  case setting.succeeds =>
    subst hnext
    obtain ⟨lock, hlock, -⟩ := hn.leads (.inr (.inr hloop)) hguard
    exact h.setNode (hn.setLeader hloop hguard) (fun _ _ _ => Iff.rfl) le_rfl
      (fun _ => .inr ⟨lock, hlock⟩) fun _ _ => .inl ⟨lock, hlock⟩
  case waiting.succeeds =>
    subst hnext
    exact h.setNode_of_not_leader (hn.setLoop (by simp [hloop]) (by simp [hloop]) (by simp)
      (by simp) (by simp)) id

/-- Every step of `stop()` keeps the invariant. -/
theorem ElectionInv.stopNext (h : ElectionInv s) (hnext : stopNext s n = some t) : ElectionInv t := by
  have hn := h.node n
  unfold Clustering.stopNext at hnext
  rcases hstop : (s.nodes n).stop with _ | _ | lock | _ | _ | _ | _ <;>
    simp only [hstop, Option.some.injEq] at hnext
  case idle =>
    subst hnext
    exact h.setNode_of_not_leader (hn.setStop (fun _ => .inl (by rw [hstop]; trivial)) (by simp)
      (absurd trivial) (by simp)) id
  case testActive =>
    split at hnext <;> rw [Option.some.injEq] at hnext <;> subst hnext
    · rename_i hactive
      refine h.setNode_of_not_leader (hn.setStop (fun hf => ?_) ?_ (fun _ => hactive) ?_) id
      · exact hf.elim
      · simp
      · simp
    · rename_i hactive
      refine h.setNode_of_not_leader (hn.setStop (fun _ => ?_) ?_ (fun hf => ?_) ?_) id
      · exact .inl (by rw [hstop]; trivial)
      · rintro lock' ⟨⟩
        exact hactive
      · exact absurd trivial hf
      · simp
  case releasing =>
    subst hnext
    refine h.setNode (hn.release hstop) (fun m hm lock' => ?_) le_rfl .inl fun lock' hlock' => ?_
    · split
      · rename_i hheld
        rw [hheld]
        constructor
        · rintro ⟨⟩
        · rintro ⟨⟩
          exact absurd rfl hm
      · exact Iff.rfl
    · split at hlock'
      · cases hlock'
      · exact .inl ⟨lock', hlock'⟩
  case deleting =>
    subst hnext
    exact h.setNode_of_not_leader (hn.delete hstop) id
  case unsetting =>
    subst hnext
    exact h.setNode_of_not_leader (hn.unsetLeader hstop) (fun hf => by cases hf)
  case joining =>
    split at hnext
    · rename_i hexited
      rw [Option.some.injEq] at hnext
      subst hnext
      exact h.setNode_of_not_leader (hn.return hstop hexited) id
    · cases hnext
  case returned =>
    subst hnext
    obtain ⟨hexited, hleader, -⟩ := hn.stopped (hn.returned hstop)
    exact h.setNode_of_not_leader (hn.setStop (fun _ => .inr ⟨hleader, by simp [hexited]⟩) (by simp)
      (absurd trivial) (by simp)) id

/-- An expiry that meets the condition keeps the invariant. -/
theorem ElectionInv.expireNext (h : ElectionInv s)
    (hguard : InOrder s (.expire n)) (hnext : expireNext s n = some t) : ElectionInv t := by
  unfold Clustering.expireNext at hnext
  rcases hholder : s.holder with _ | ⟨m, lock⟩ <;> simp only [hholder, reduceCtorEq] at hnext
  split at hnext
  · rename_i hm
    rw [Option.some.injEq] at hnext
    subst hm hnext
    obtain ⟨hleader, hhostname, hsetting, hgranted⟩ := hguard
    refine ⟨fun k => ?_, by simp, h.exclusive⟩
    by_cases hk : k = m
    · subst hk
      exact (h.node k).expire hleader hhostname hsetting hgranted
    · refine (h.node k).congr (fun lock' => ?_) le_rfl
      simp only [hholder, reduceCtorEq, Option.some.injEq, Prod.mk.injEq, false_iff, not_and]
      exact fun hmk => absurd hmk.symm hk
  · cases hnext

/-- **Leadership is exclusive and ends on stop** in every state reached by steps that meet the
condition. -/
theorem exclusive_and_ends_on_stop {s : Cluster ν} (h : election.Reach InOrder s) : Exclusive s ∧ EndsOnStop s := by
  have hinv : ElectionInv s := by
    refine h.invariant (fun _ hinit => .initial hinit) fun s step t hs hguard hnext => ?_
    cases step with
    | loop n outcome => exact hs.loopNext hguard hnext
    | stop n => exact hs.stopNext hnext
    | expire n => exact hs.expireNext hguard hnext
  exact ⟨hinv.exclusive, fun n hn => ((hinv.node n).stopped hn).2⟩

/-! ## Runs out of order -/

/-- One pass of the election thread from the top of the loop until the flag is set. -/
def appoint (n : ν) : List (ElectionStep ν) :=
  List.replicate 6 (.loop n .succeeds)

/-- The thread is granted the lock after `stop()` has looked for one to release. -/
def lateGrant : List (ElectionStep Unit) :=
  [.loop () .succeeds, .loop () .succeeds, .stop (), .stop (), .stop ()] ++
    List.replicate 6 (.loop () .succeeds) ++ [.stop ()]

/-- A cluster before any step. -/
def initialCluster : Cluster ν := { nodes := fun _ => .initial, holder := none, nextLock := 0 }

/-- A node whose `stop()` has returned leads and holds the lock. -/
theorem leader_after_stop : ∃ s : Cluster Unit, election.Reachable s ∧ ¬ EndsOnStop s := by
  obtain ⟨s, hs⟩ : ∃ s, election.exec initialCluster lateGrant = some s := Option.isSome_iff_exists.mp rfl
  refine ⟨s, .of_exec (.init ⟨fun _ => rfl, rfl⟩) hs, fun h => ?_⟩
  cases hs
  exact absurd (h () rfl).1 (by decide)

/-- A node is appointed and then stopped, its thread waiting between two iterations. -/
def appointAndStop : List (ElectionStep Unit) :=
  appoint () ++ List.replicate 5 (.stop ()) ++
    [.loop () .succeeds, .loop () .succeeds, .stop ()]

theorem exclusive_and_ends_on_stop_appointAndStop :
    ∃ s : Cluster Unit, election.exec initialCluster appointAndStop = some s ∧ Exclusive s ∧ EndsOnStop s := by
  have hmeets : election.Meets InOrder initialCluster appointAndStop := by
    refine ⟨trivial, ?_⟩
    rintro _ ⟨⟩
    refine ⟨trivial, ?_⟩
    rintro _ ⟨⟩
    refine ⟨?_, ?_⟩
    · rintro ⟨⟩ (h | h) <;> cases h
    repeat
      rintro _ ⟨⟩
      refine ⟨?_, ?_⟩
      · first | exact trivial | exact .inl rfl
    rintro _ ⟨⟩
    exact meets_nil
  have hreach : ∀ s, election.exec initialCluster appointAndStop = some s →
      election.Reach InOrder s :=
    fun s => Reach.of_exec (.init ⟨fun _ => rfl, rfl⟩) hmeets
  exact ⟨_, rfl, exclusive_and_ends_on_stop (hreach _ rfl)⟩

end ContainRes.Clustering
