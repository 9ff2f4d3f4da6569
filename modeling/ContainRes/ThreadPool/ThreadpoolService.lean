import ContainRes.Systems.Guarded
import Mathlib.Data.Finset.Card
import Mathlib.Logic.Function.Iterate

/-! # The thread pool

A service thread keeps as many threads running as are required: once in a while it drops the threads that have ended
and marks some for exit, or provisions new ones.

* **`PoolState`** — the two collections of the service, and which threads run and are marked.
* **`adjustThreadCounts`** — one round; threads end in between.
* **`Tracked`** — the invariant: a running thread is in the set, and it is in the list until it is marked.
* **`roundsKeep_iff`** — the runs in which every round keeps as many threads as are required. -/

namespace ContainRes.ThreadPool

open Systems

/-! ## `IdeaThreadpoolService` -/

/-- `IdeaThread`: an object of its own, with the number that is its name. -/
structure IdeaThread where
  serial : ℕ
  threadNumber : ℕ
  deriving DecidableEq, Repr

/-- The service, and its threads. -/
structure PoolState where
  /-- How many threads were made so far. -/
  provisioned : ℕ
  allThreads : Finset IdeaThread
  activeThreads : List IdeaThread
  /-- The threads with `is_alive()`. -/
  alive : Finset IdeaThread
  /-- The threads whose `exit` is set. -/
  exit : Finset IdeaThread
  deriving DecidableEq

def cleanupInactiveThreads (s : PoolState) : PoolState :=
  { s with allThreads := s.allThreads.filter (· ∈ s.alive) }

/-- `_active_threads.pop().exit.set()`; the loop never comes to an empty list. -/
def markThread (s : PoolState) : PoolState :=
  match s.activeThreads.getLast? with
  | none => s
  | some thread => { s with activeThreads := s.activeThreads.dropLast, exit := insert thread s.exit }

/-- `provision_new_thread(i)`, which is started and added to both collections. -/
def provisionNewThread (s : PoolState) (i : ℕ) : PoolState :=
  { s with
    provisioned := s.provisioned + 1
    allThreads := insert ⟨s.provisioned, i⟩ s.allThreads
    activeThreads := s.activeThreads ++ [⟨s.provisioned, i⟩]
    alive := insert ⟨s.provisioned, i⟩ s.alive }

def enforceThreadCount (count : ℕ) (s : PoolState) : PoolState :=
  if s.allThreads.card = count then s
  else if count < s.allThreads.card then
    -- the threads that are marked already have not ended yet, or there are none
    if count < s.activeThreads.length then markThread^[s.activeThreads.length - count] s else s
  else
    (List.range' s.allThreads.card (count - s.allThreads.card)).foldl provisionNewThread s

/-- A round of `_adjust_thread_counts`; there is no count when `calculate_number_of_threads_required` raises. -/
def adjustThreadCounts (required : Option ℕ) (s : PoolState) : PoolState :=
  match required with
  | none => cleanupInactiveThreads s
  | some count => enforceThreadCount count (cleanupInactiveThreads s)

/-! ## Runs -/

/-- A step of a run. A thread that ends in the middle of a round is in the set until the next one, as if it had ended
after the round. -/
inductive PoolStep
  /-- A thread that is not marked ends. -/
  | dies (thread : IdeaThread)
  /-- A thread that is marked ends. -/
  | exits (thread : IdeaThread)
  | round (required : Option ℕ)
  deriving DecidableEq

/-- The next state. -/
def poolNext (s : PoolState) : PoolStep → Option PoolState
  | .dies thread =>
    if thread ∈ s.alive ∧ thread ∉ s.exit then some { s with alive := s.alive.erase thread } else none
  | .exits thread =>
    if thread ∈ s.alive ∧ thread ∈ s.exit then some { s with alive := s.alive.erase thread } else none
  | .round required => some (adjustThreadCounts required s)

/-- There are no threads at the start. -/
def noThreads : PoolState := ⟨0, ∅, [], ∅, ∅⟩

/-- The runs of the service. -/
def threadpool : System PoolState PoolStep where
  init s := s = noThreads
  next := poolNext

/-- The number of running threads that are not marked. -/
def PoolState.unmarked (s : PoolState) : ℕ := (s.alive \ s.exit).card

/-- **A round keeps the count**: not more than required are left, and not fewer unless there were fewer before; when no
marked thread runs before the round, there are exactly as many. -/
def RoundKeeps (s : PoolState) : PoolStep → Prop
  | .round (some count) =>
    (adjustThreadCounts (some count) s).unmarked ≤ count ∧
      min count s.unmarked ≤ (adjustThreadCounts (some count) s).unmarked ∧
      (Disjoint s.alive s.exit → (adjustThreadCounts (some count) s).unmarked = count)
  | _ => True

/-- **The right ones are marked**: when more threads run and more are in the list than are required, no thread of the
list that is kept has ended, or no thread of the list that is marked is running. -/
def MarksEnded (s : PoolState) : PoolStep → Prop
  | .round (some count) =>
    count < s.alive.card → count < s.activeThreads.length →
      (∀ thread ∈ s.activeThreads.take count, thread ∈ s.alive) ∨
        ∀ thread ∈ s.activeThreads.drop count, thread ∉ s.alive
  | _ => True

/-! ## The invariant -/

/-- **The threads are tracked**: those that run are in the set, and in the list unless they are marked; a thread of the
list is there once and is not marked; and all were made. -/
structure Tracked (s : PoolState) : Prop where
  all : s.alive ⊆ s.allThreads
  active : ∀ thread ∈ s.alive, thread ∉ s.exit → thread ∈ s.activeThreads
  nodup : s.activeThreads.Nodup
  notExit : ∀ thread ∈ s.activeThreads, thread ∉ s.exit
  allMade : ∀ thread ∈ s.allThreads, thread.serial < s.provisioned
  activeMade : ∀ thread ∈ s.activeThreads, thread.serial < s.provisioned
  exitMade : ∀ thread ∈ s.exit, thread.serial < s.provisioned

variable {s : PoolState}

/-- **The unmarked threads** are those of the list that run. -/
theorem Tracked.unmarked_eq (h : Tracked s) : s.unmarked = s.activeThreads.countP (· ∈ s.alive) := by
  have hset : s.alive \ s.exit = (s.activeThreads.filter (· ∈ s.alive)).toFinset := by
    ext thread
    rw [Finset.mem_sdiff, List.mem_toFinset, List.mem_filter, decide_eq_true_iff]
    constructor
    · rintro ⟨halive, hexit⟩
      exact ⟨h.active thread halive hexit, halive⟩
    · rintro ⟨hactive, halive⟩
      exact ⟨halive, h.notExit thread hactive⟩
  unfold PoolState.unmarked
  rw [hset, List.toFinset_card_of_nodup (h.nodup.filter _), List.countP_eq_length_filter]

theorem unmarked_le (s : PoolState) : s.unmarked ≤ s.alive.card := Finset.card_le_card Finset.sdiff_subset

theorem unmarked_of_disjoint (h : Disjoint s.alive s.exit) : s.unmarked = s.alive.card :=
  congrArg Finset.card (Finset.sdiff_eq_self_of_disjoint h)

theorem Tracked.ends (h : Tracked s) (thread : IdeaThread) : Tracked { s with alive := s.alive.erase thread } where
  all := (Finset.erase_subset _ _).trans h.all
  active t halive := h.active t (Finset.mem_of_mem_erase halive)
  nodup := h.nodup
  notExit := h.notExit
  allMade := h.allMade
  activeMade := h.activeMade
  exitMade := h.exitMade

/-- **The set after the cleanup** has the threads that run. -/
theorem Tracked.allThreads_cleanup (h : Tracked s) : (cleanupInactiveThreads s).allThreads = s.alive := by
  ext thread
  show thread ∈ s.allThreads.filter (· ∈ s.alive) ↔ _
  rw [Finset.mem_filter]
  exact ⟨fun ht => ht.2, fun ht => ⟨h.all ht, ht⟩⟩

theorem Tracked.cleanup (h : Tracked s) : Tracked (cleanupInactiveThreads s) where
  all := by
    rw [h.allThreads_cleanup]
    exact subset_rfl
  active := h.active
  nodup := h.nodup
  notExit := h.notExit
  allMade thread hthread := h.allMade thread (Finset.mem_filter.mp hthread).1
  activeMade := h.activeMade
  exitMade := h.exitMade

/-! ## Marking -/

/-- The threads of the list after the first ones are marked, and not in it any more. -/
def PoolState.markAfter (s : PoolState) (count : ℕ) : PoolState :=
  { s with
    activeThreads := s.activeThreads.take count
    exit := s.exit ∪ (s.activeThreads.drop count).toFinset }

/-- **The marking loop** marks the end of the list. -/
theorem iterate_markThread (kept marked : List IdeaThread) (s : PoolState) (hs : s.activeThreads = kept ++ marked) :
    markThread^[marked.length] s = { s with activeThreads := kept, exit := s.exit ∪ marked.toFinset } := by
  induction marked using List.reverseRecOn generalizing s with
  | nil =>
    rw [List.append_nil] at hs
    rw [List.length_nil, Function.iterate_zero_apply, List.toFinset_nil, Finset.union_empty, ← hs]
  | append_singleton marked thread ih =>
    have hlast : s.activeThreads = (kept ++ marked) ++ [thread] := by rw [hs, List.append_assoc]
    have hmark : markThread s = { s with activeThreads := kept ++ marked, exit := insert thread s.exit } := by
      unfold markThread
      rw [hlast, List.getLast?_concat, List.dropLast_concat]
    rw [List.length_append, List.length_singleton, Function.iterate_succ_apply, ih (markThread s) (by rw [hmark]),
      hmark]
    have hexit : insert thread s.exit ∪ marked.toFinset = s.exit ∪ (marked ++ [thread]).toFinset := by
      ext t
      rw [Finset.mem_union, Finset.mem_union, Finset.mem_insert, List.mem_toFinset, List.mem_toFinset,
        List.mem_append, List.mem_singleton]
      tauto
    rw [hexit]

/-- The list after the end of it is marked. -/
theorem Tracked.marked (h : Tracked s) (count : ℕ) : Tracked (s.markAfter count) where
  all := h.all
  active thread halive hexit := by
    show thread ∈ s.activeThreads.take count
    unfold PoolState.markAfter at hexit
    rw [Finset.mem_union, not_or, List.mem_toFinset] at hexit
    have hactive := h.active thread halive hexit.1
    rw [← List.take_append_drop count s.activeThreads, List.mem_append] at hactive
    exact hactive.resolve_right hexit.2
  nodup := h.nodup.sublist (List.take_sublist _ _)
  notExit thread hthread := by
    unfold PoolState.markAfter
    rw [Finset.mem_union, not_or, List.mem_toFinset]
    refine ⟨h.notExit thread (List.mem_of_mem_take hthread), fun hdrop => ?_⟩
    exact List.disjoint_take_drop h.nodup le_rfl hthread hdrop
  allMade := h.allMade
  activeMade thread hthread := h.activeMade thread (List.mem_of_mem_take hthread)
  exitMade thread hthread := by
    unfold PoolState.markAfter at hthread
    rw [Finset.mem_union, List.mem_toFinset] at hthread
    exact hthread.elim (h.exitMade thread) fun hdrop => h.activeMade thread (List.mem_of_mem_drop hdrop)

/-! ## Provisioning -/

/-- A new thread. -/
theorem Tracked.provision (h : Tracked s) (i : ℕ) : Tracked (provisionNewThread s i) where
  all := Finset.insert_subset_insert _ h.all
  active thread halive hexit := by
    show thread ∈ s.activeThreads ++ [⟨s.provisioned, i⟩]
    rw [List.mem_append, List.mem_singleton]
    rcases Finset.mem_insert.mp halive with hnew | hold
    · exact .inr hnew
    · exact .inl (h.active thread hold hexit)
  nodup := by
    refine List.nodup_append.mpr ⟨h.nodup, List.nodup_singleton _, fun thread hthread thread' hnew heq => ?_⟩
    have hmade := h.activeMade thread hthread
    rw [heq, List.mem_singleton.mp hnew] at hmade
    exact absurd hmade (Nat.lt_irrefl _)
  notExit thread hthread hexit := by
    rcases List.mem_append.mp hthread with hold | hnew
    · exact h.notExit thread hold hexit
    · have hmade := h.exitMade thread hexit
      rw [List.mem_singleton.mp hnew] at hmade
      exact absurd hmade (Nat.lt_irrefl _)
  allMade thread hthread := by
    rcases Finset.mem_insert.mp hthread with hnew | hold
    · rw [hnew]
      exact Nat.lt_succ_self _
    · exact (h.allMade thread hold).trans (Nat.lt_succ_self _)
  activeMade thread hthread := by
    rcases List.mem_append.mp hthread with hold | hnew
    · exact (h.activeMade thread hold).trans (Nat.lt_succ_self _)
    · rw [List.mem_singleton.mp hnew]
      exact Nat.lt_succ_self _
  exitMade thread hthread := (h.exitMade thread hthread).trans (Nat.lt_succ_self _)

/-- One more thread runs, and it is not marked. -/
theorem Tracked.unmarked_provision (h : Tracked s) (i : ℕ) : (provisionNewThread s i).unmarked = s.unmarked + 1 := by
  have hexit : (⟨s.provisioned, i⟩ : IdeaThread) ∉ s.exit := fun hin => Nat.lt_irrefl _ (h.exitMade _ hin)
  have halive : (⟨s.provisioned, i⟩ : IdeaThread) ∉ s.alive \ s.exit := fun hin =>
    Nat.lt_irrefl _ (h.allMade _ (h.all (Finset.mem_sdiff.mp hin).1))
  show ((insert ⟨s.provisioned, i⟩ s.alive) \ s.exit).card = _
  rw [Finset.insert_sdiff_of_notMem _ hexit, Finset.card_insert_of_notMem halive]
  rfl

/-- **The provisioning loop** adds as many as it has turns. -/
theorem Tracked.provisioned (h : Tracked s) (numbers : List ℕ) : Tracked (numbers.foldl provisionNewThread s) ∧
      (numbers.foldl provisionNewThread s).unmarked = s.unmarked + numbers.length := by
  induction numbers generalizing s with
  | nil => exact ⟨h, rfl⟩
  | cons i numbers ih =>
    obtain ⟨htracked, hcount⟩ := ih (h.provision i)
    refine ⟨htracked, ?_⟩
    rw [List.foldl_cons, hcount, h.unmarked_provision i, List.length_cons]
    omega

/-! ## One round -/

/-- **What a round does**: nothing, it marks the end of the list, or it provisions what is missing. -/
theorem Tracked.enforce_cases (h : Tracked s) (count : ℕ) :
    (s.alive.card = count ∧ adjustThreadCounts (some count) s = cleanupInactiveThreads s) ∨
      (count < s.alive.card ∧ s.activeThreads.length ≤ count ∧
        adjustThreadCounts (some count) s = cleanupInactiveThreads s) ∨
      (count < s.alive.card ∧ count < s.activeThreads.length ∧
        adjustThreadCounts (some count) s = (cleanupInactiveThreads s).markAfter count) ∨ (s.alive.card < count ∧
        adjustThreadCounts (some count) s =
          (List.range' s.alive.card (count - s.alive.card)).foldl provisionNewThread (cleanupInactiveThreads s)) := by
  have hround : adjustThreadCounts (some count) s = enforceThreadCount count (cleanupInactiveThreads s) := rfl
  have hlist : (cleanupInactiveThreads s).activeThreads = s.activeThreads := rfl
  unfold enforceThreadCount at hround
  rw [h.allThreads_cleanup, hlist] at hround
  by_cases heq : s.alive.card = count
  · exact .inl ⟨heq, hround.trans (if_pos heq)⟩
  rw [if_neg heq] at hround
  by_cases hmore : count < s.alive.card
  · rw [if_pos hmore] at hround
    by_cases hactive : count < s.activeThreads.length
    · rw [if_pos hactive] at hround
      refine .inr (.inr (.inl ⟨hmore, hactive, hround.trans ?_⟩))
      have hloop := iterate_markThread (s.activeThreads.take count) (s.activeThreads.drop count)
        (cleanupInactiveThreads s) (List.take_append_drop count s.activeThreads).symm
      rw [List.length_drop] at hloop
      exact hloop
    · exact .inr (.inl ⟨hmore, Nat.le_of_not_lt hactive, hround.trans (if_neg hactive)⟩)
  · rw [if_neg hmore] at hround
    exact .inr (.inr (.inr ⟨by omega, hround⟩))

/-- A round leaves the threads tracked. -/
theorem Tracked.adjust (h : Tracked s) (required : Option ℕ) : Tracked (adjustThreadCounts required s) := by
  cases required with
  | none => exact h.cleanup
  | some count =>
    rcases h.enforce_cases count with ⟨-, hround⟩ | ⟨-, -, hround⟩ | ⟨-, -, hround⟩ | ⟨-, hround⟩
    · exact hround ▸ h.cleanup
    · exact hround ▸ h.cleanup
    · exact hround ▸ h.cleanup.marked count
    · exact hround ▸ (h.cleanup.provisioned _).1

/-- A part of a list has as many elements with a property as it is long exactly when all have it. -/
theorem countP_take_eq {α : Type} {p : α → Bool} {l : List α} {n : ℕ} (h : n < l.length) :
    (l.take n).countP p = n ↔ ∀ x ∈ l.take n, p x = true := by
  have hlength : (l.take n).length = n := List.length_take_of_le h.le
  rw [← List.countP_eq_length, hlength]

/-- **A round keeps the count** exactly when it marks the right threads. -/
theorem Tracked.roundKeeps_iff (h : Tracked s) (step : PoolStep) : RoundKeeps s step ↔ MarksEnded s step := by
  rcases step with thread | thread | _ | count
  · exact Iff.rfl
  · exact Iff.rfl
  · exact Iff.rfl
  have hle := unmarked_le s
  have hdisjoint := unmarked_of_disjoint (s := s)
  show (adjustThreadCounts (some count) s).unmarked ≤ count ∧ _ ∧ _ ↔ (_ → _ → _)
  rcases h.enforce_cases count with ⟨heq, hround⟩ | ⟨hmore, hactive, hround⟩ | ⟨hmore, hactive, hround⟩ |
    ⟨hless, hround⟩
  · have hsame : (adjustThreadCounts (some count) s).unmarked = s.unmarked := by rw [hround]; rfl
    rw [hsame]
    refine ⟨fun _ hlt => absurd heq (Nat.ne_of_gt hlt), fun _ => ⟨by omega, min_le_right _ _, fun hd => ?_⟩⟩
    rw [hdisjoint hd, heq]
  · have hsame : (adjustThreadCounts (some count) s).unmarked = s.unmarked := by rw [hround]; rfl
    have hlist : s.unmarked ≤ count := by
      rw [h.unmarked_eq]
      exact List.countP_le_length.trans hactive
    rw [hsame]
    refine ⟨fun _ _ hlt => absurd hactive (Nat.not_le.mpr hlt), fun _ => ⟨hlist, min_le_right _ _, fun hd => ?_⟩⟩
    have hall := hdisjoint hd
    omega
  · -- the first of the list are kept
    have hkept : (adjustThreadCounts (some count) s).unmarked =
        (s.activeThreads.take count).countP (· ∈ s.alive) := by
      rw [hround, (h.cleanup.marked count).unmarked_eq]
      rfl
    have hbefore : s.unmarked = (s.activeThreads.take count).countP (· ∈ s.alive) +
        (s.activeThreads.drop count).countP (· ∈ s.alive) := by
      rw [h.unmarked_eq, ← List.countP_append, List.take_append_drop]
    have hbound : (s.activeThreads.take count).countP (· ∈ s.alive) ≤ count :=
      List.countP_le_length.trans (List.length_take_le _ _)
    have htake : (s.activeThreads.take count).countP (· ∈ s.alive) = count ↔
        ∀ thread ∈ s.activeThreads.take count, thread ∈ s.alive := by
      rw [countP_take_eq hactive]
      exact forall₂_congr fun _ _ => decide_eq_true_iff
    have hdrop : (s.activeThreads.drop count).countP (· ∈ s.alive) = 0 ↔
        ∀ thread ∈ s.activeThreads.drop count, thread ∉ s.alive := by
      rw [List.countP_eq_zero]
      exact forall₂_congr fun _ _ => not_congr decide_eq_true_iff
    rw [hkept, ← htake, ← hdrop]
    constructor
    · rintro ⟨-, hmin, -⟩ - -
      omega
    · intro hmarks
      have hcases := hmarks hmore hactive
      refine ⟨hbound, by omega, fun hd => ?_⟩
      have hall := hdisjoint hd
      omega
  · have hnew : (adjustThreadCounts (some count) s).unmarked = s.unmarked + (count - s.alive.card) := by
      rw [hround, (h.cleanup.provisioned _).2, List.length_range']
      rfl
    rw [hnew]
    refine ⟨fun _ hlt => absurd hless (Nat.lt_asymm hlt), fun _ => ⟨by omega, by omega, fun hd => ?_⟩⟩
    have hall := hdisjoint hd
    omega

/-! ## Runs -/

/-- **Every step keeps the threads tracked.** -/
theorem Tracked.next {t : PoolState} (h : Tracked s) (step : PoolStep) (hnext : poolNext s step = some t) :
    Tracked t := by
  cases step with
  | dies thread =>
    have hends := (Option.ite_none_right_eq_some.mp hnext).2
    exact Option.some.inj hends ▸ h.ends thread
  | exits thread =>
    have hends := (Option.ite_none_right_eq_some.mp hnext).2
    exact Option.some.inj hends ▸ h.ends thread
  | round required => exact Option.some.inj hnext ▸ h.adjust required

theorem tracked_noThreads : Tracked noThreads :=
  ⟨subset_rfl, fun _ h => (nomatch h), List.nodup_nil, fun _ h => (nomatch h), fun _ h => (nomatch h),
    fun _ h => (nomatch h), fun _ h => (nomatch h)⟩

/-- **Every round of a run keeps the count** exactly when every round marks the right threads. -/
theorem roundsKeep_iff (steps : List PoolStep) :
    threadpool.Meets RoundKeeps noThreads steps ↔ threadpool.Meets MarksEnded noThreads steps :=
  System.meets_congr (I := Tracked) (fun _ step _ hs _ hnext => hs.next step hnext)
    (fun _ step hs => hs.roundKeeps_iff step) tracked_noThreads steps

/-- Two threads, of which the first one dies; it is replaced, and then one thread is required. -/
def replacedThread : List PoolStep :=
  [.round (some 2), .dies ⟨0, 0⟩, .round (some 2), .round (some 1)]

/-- **No thread is left of two**, when one of three in the list has died. -/
theorem not_roundsKeep_replacedThread : ¬ threadpool.Meets RoundKeeps noThreads replacedThread := by
  intro h
  have hlast := (((h.2 _ rfl).2 _ rfl).2 _ rfl).1
  exact absurd hlast.2.1 (by decide)

end ContainRes.ThreadPool
