import ContainRes.Projects.Membership
import ContainRes.Projects.TaskSpec
import ContainRes.Systems.Guarded

/-! # Project access along runs

The membership operations change users and group-members at once and tell user-projects themselves; a
change of a project is stored at once and reaches user-projects through the queue of its tasks, which are
processed one at a time in the order they were sent. This file follows user-projects through all runs of
both in which every operation returns normally.

* **`access`** — the system: operations, changes of stored projects, and the processing of the oldest
  task of a project.
* **`AccessCorrect`** — the property, for the projects whose tasks have all been processed.
* **`Sound`** — the condition on a step under which it is kept; **`access_correct`** — it holds along
  sound runs; `access_under_unsanitized_name` is a run on which it fails. -/

namespace ContainRes.Projects

open Accounts Effects Store Systems Systems.System Text Function

/-! ## The system -/

/-- The tables, and the unprocessed tasks of each project, oldest first. -/
structure AccessState where
  db : Db
  queue : String → List ProjectTask

/-- A step. -/
inductive AccessStep
  /-- A synchronous membership operation. -/
  | membership (ctx : AccountsContext) (op : MembershipOp)
  /-- A project is stored as enabled. -/
  | enableProject (projectId : String)
  /-- A project is stored as disabled. -/
  | disableProject (projectId : String)
  /-- New lists of a project are stored, with the difference that the task will carry. -/
  | updateProject (projectId : String) (ldapGroups users : List String)
      (groupsAdded groupsRemoved usersAdded usersRemoved : List String)
  /-- The oldest task of a project is processed. -/
  | processTask (projectId : String)

/-- `added` and `removed` are the exact difference between two lists, as sets. -/
def IsDifference (old new added removed : List String) : Prop :=
  (∀ x, x ∈ added ↔ x ∈ new ∧ x ∉ old) ∧ ∀ x, x ∈ removed ↔ x ∈ old ∧ x ∉ new

instance (old new added removed : List String) : Decidable (IsDifference old new added removed) :=
  decidable_of_iff
    (((∀ x ∈ added, x ∈ new ∧ x ∉ old) ∧ ∀ x ∈ new, x ∉ old → x ∈ added) ∧
      (∀ x ∈ removed, x ∈ old ∧ x ∉ new) ∧ ∀ x ∈ old, x ∉ new → x ∈ removed) <| by
    constructor
    · rintro ⟨⟨ha, ha'⟩, hr, hr'⟩
      exact ⟨fun x => ⟨ha x, fun h => ha' x h.1 h.2⟩, fun x => ⟨hr x, fun h => hr' x h.1 h.2⟩⟩
    · rintro ⟨ha, hr⟩
      exact ⟨⟨fun x => (ha x).mp, fun x hn ho => (ha x).mpr ⟨hn, ho⟩⟩,
        fun x => (hr x).mp, fun x ho hn => (hr x).mpr ⟨ho, hn⟩⟩

/-- The database with another record of a project. -/
def storeProject (db : Db) (p : String) (change : ProjectRow → ProjectRow) : Db :=
  { db with projects := db.projects.updateItem p change }

/-- Send a task of a project. -/
def send (queue : String → List ProjectTask) (p : String) (task : ProjectTask) :
    String → List ProjectTask :=
  update queue p (queue p ++ [task])

/-- The operations, the changes of stored projects and the processing of tasks, starting from disabled
projects to which nobody has access. A step exists only if what it runs returns normally. -/
def access : System AccessState AccessStep where
  init s := (∀ p, s.queue p = []) ∧ s.db.userProjects = ∅ ∧ s.db.projectGroups = ∅ ∧
    ∀ p, isEnabled s.db.projects p = false
  next s
    | .membership ctx op =>
      match (op.proc ctx).run s.db with
      | (.ok _, db) => some { s with db := db }
      | (.error _, _) => none
    | .enableProject p =>
      if s.db.projects.Has p then
        some { db := storeProject s.db p fun row => { row with enabled := some true },
               queue := send s.queue p .projectEnabled }
      else none
    | .disableProject p =>
      if s.db.projects.Has p then
        some { db := storeProject s.db p fun row => { row with enabled := some false },
               queue := send s.queue p .projectDisabled }
      else none
    | .updateProject p ldapGroups users groupsAdded groupsRemoved usersAdded usersRemoved =>
      if s.db.projects.Has p ∧
          IsDifference (groupsOf s.db.projects p) ldapGroups groupsAdded groupsRemoved ∧
          IsDifference (usersOf s.db.projects p) users usersAdded usersRemoved then
        some {
          db := storeProject s.db p fun row =>
            { row with ldapGroups := some ldapGroups, users := some users }
          queue :=
            -- `update_project` sends nothing for a disabled project or an empty difference
            if isEnabled s.db.projects p = true ∧ (groupsAdded ≠ [] ∨ groupsRemoved ≠ [] ∨
                usersAdded ≠ [] ∨ usersRemoved ≠ []) then
              send s.queue p
                (.projectGroupsUpdated groupsAdded groupsRemoved usersAdded usersRemoved)
            else s.queue }
      else none
    | .processTask p =>
      match s.queue p with
      | [] => none
      | task :: rest =>
        match (task.invoke p).run s.db with
        | (.ok _, db) => some { db := db, queue := update s.queue p rest }
        | (.error _, _) => none

/-- What the rows of an enabled project have to be. -/
structure EnabledCorrect (db : Db) (p : String) : Prop where
  row_iff : ∀ u, db.userProjects.Has (u, p) ↔
    u ∈ usersOf db.projects p ∨ ∃ g ∈ groupsOf db.projects p, db.IsMember g u
  byLdaps : ∀ u byLdaps, db.userProjects.getItem (u, p) = some byLdaps → ∀ x, x ∈ byLdaps ↔
    x = "SELF" ∧ u ∈ usersOf db.projects p ∨ x ∈ groupsOf db.projects p ∧ db.IsMember x u

/-- The rows of user-projects of a project whose tasks have all been processed: for an enabled project
exactly its users and the members of its groups, with exactly these sources; for a disabled one none. -/
def AccessCorrect (s : AccessState) : Prop :=
  ∀ p, s.db.projects.Has p → s.queue p = [] →
    (isEnabled s.db.projects p = true → EnabledCorrect s.db p) ∧
    (isEnabled s.db.projects p = false → ∀ u, ¬ s.db.userProjects.Has (u, p))

/-- The condition on a step.

* A membership operation is `MembershipOp.Sound`.
* No project that is enabled, disabled or updated lists a group named `SELF`.
* A disabled project is updated when none of its tasks is unprocessed, or nothing is taken out.
* A `ProjectGroupsUpdatedTask` is processed while its project is enabled. -/
def Sound (s : AccessState) : AccessStep → Prop
  | .membership ctx op => op.Sound (fun p g => s.db.IsMapped g p) s.db ctx
  | .enableProject p => "SELF" ∉ groupsOf s.db.projects p
  | .disableProject p => "SELF" ∉ groupsOf s.db.projects p
  | .updateProject p ldapGroups users _ _ _ _ =>
    "SELF" ∉ ldapGroups ∧ (isEnabled s.db.projects p = false → s.queue p = [] ∨
      (∀ g ∈ groupsOf s.db.projects p, g ∈ ldapGroups) ∧ ∀ u ∈ usersOf s.db.projects p, u ∈ users)
  | .processTask p => ∀ task ∈ (s.queue p).head?, task.NeedsEnabled →
      isEnabled s.db.projects p = true

/-! ## The invariant -/

/-- The queue of one project leads the lists behind its provenance to what is stored. -/
structure ProjectOk (projects : Table String ProjectRow) (p : String) (queue : List ProjectTask)
    (groups users : String → Prop) : Prop where
  groupsSynced : Synced (isEnabled projects p) (groupsOf projects p)
    (queue.map ProjectTask.groupChange) groups
  usersSynced : Synced (isEnabled projects p) (usersOf projects p)
    (queue.map ProjectTask.userChange) users
  noSelf : ∀ task ∈ queue, task.NoSelf
  storedNoSelf : queue ≠ [] ∨ isEnabled projects p = true → "SELF" ∉ groupsOf projects p

/-- The provenance is that of some lists, which the queues lead to what is stored. -/
def AccessOk (s : AccessState) : Prop :=
  ∃ V W, Provenance s.db.projects V W s.db ∧
    ∀ p, ProjectOk s.db.projects p (s.queue p) (V p) (W p)

variable {s : AccessState}

/-- The invariant gives the property. -/
theorem AccessOk.correct (h : AccessOk s) : AccessCorrect s := by
  obtain ⟨V, W, hprov, hok⟩ := h
  intro p _ hqueue
  have hp := hok p
  rw [hqueue] at hp
  have hsources : ∀ u x, x ∈ sources s.db u p ↔ isEnabled s.db.projects p = true ∧
      (x = "SELF" ∧ u ∈ usersOf s.db.projects p ∨ x ∈ groupsOf s.db.projects p ∧ s.db.IsMember x u) := by
    intro u x
    rw [hprov.sources, hp.groupsSynced.copy_iff, hp.usersSynced.copy_iff]
    constructor
    · rintro (⟨hx, hon, hu⟩ | ⟨⟨hon, hx⟩, hm⟩)
      · exact ⟨hon, .inl ⟨hx, hu⟩⟩
      · exact ⟨hon, .inr ⟨hx, hm⟩⟩
    · rintro ⟨hon, ⟨hx, hu⟩ | ⟨hx, hm⟩⟩
      · exact .inl ⟨hx, hon, hu⟩
      · exact .inr ⟨⟨hon, hx⟩, hm⟩
  refine ⟨fun hon => ⟨fun u => ?_, fun u byLdaps hrow x => ?_⟩, fun hoff u => ?_⟩
  · rw [has_iff_sources hprov.filled]
    constructor
    · rintro ⟨x, hx⟩
      rcases ((hsources u x).mp hx).2 with ⟨-, hu⟩ | ⟨hx, hm⟩
      · exact .inl hu
      · exact .inr ⟨x, hx, hm⟩
    · rintro (hu | ⟨g, hg, hm⟩)
      · exact ⟨"SELF", (hsources u "SELF").mpr ⟨hon, .inl ⟨rfl, hu⟩⟩⟩
      · exact ⟨g, (hsources u g).mpr ⟨hon, .inr ⟨hg, hm⟩⟩⟩
  · have hmem := hsources u x
    rw [sources, hrow] at hmem
    exact hmem.trans (and_iff_right hon)
  · rw [has_iff_sources hprov.filled]
    rintro ⟨x, hx⟩
    have hon := ((hsources u x).mp hx).1
    rw [hoff] at hon
    cases hon

theorem accessOk_init (h : access.init s) : AccessOk s := by
  obtain ⟨hqueue, hrows, hmapped, hoff⟩ := h
  refine ⟨fun _ _ => False, fun _ _ => False, ⟨rfl, fun g p => ?_, fun _ _ hf => hf.elim,
    fun u p x => ?_, fun key => ?_⟩, fun p => ⟨?_, ?_, fun task htask => ?_, fun hon => ?_⟩⟩
  · simp [Db.IsMapped, hmapped]
  · simp [sources, hrows]
  · simp [hrows]
  · rw [hqueue, hoff]
    exact Synced.initial _ fun _ => id
  · rw [hqueue, hoff]
    exact Synced.initial _ fun _ => id
  · rw [hqueue] at htask
    cases htask
  · rcases hon with hne | hon
    · exact absurd (hqueue p) hne
    · rw [hoff] at hon
      cases hon

/-! ## Changes of stored projects -/

section Stored

variable {projects : Table String ProjectRow} {p q : String} {change : ProjectRow → ProjectRow}

theorem bind_updateItem_of_ne {α : Type} (f : ProjectRow → Option α) (hq : q ≠ p) :
    ((projects.updateItem p change).getItem q).bind f = (projects.getItem q).bind f := by
  rw [Table.getItem_updateItem, if_neg hq]

theorem groupsOf_updateItem_of_ne (hq : q ≠ p) : groupsOf (projects.updateItem p change) q = groupsOf projects q := by
  rw [groupsOf, bind_updateItem_of_ne _ hq, groupsOf]

theorem usersOf_updateItem_of_ne (hq : q ≠ p) : usersOf (projects.updateItem p change) q = usersOf projects q := by
  rw [usersOf, bind_updateItem_of_ne _ hq, usersOf]

theorem isEnabled_updateItem_of_ne (hq : q ≠ p) :
    isEnabled (projects.updateItem p change) q = isEnabled projects q := by
  rw [isEnabled, bind_updateItem_of_ne _ hq, isEnabled]

/-- The other projects do not notice a change of one project. -/
theorem ProjectOk.of_ne {queue : List ProjectTask} {groups users : String → Prop}
    (h : ProjectOk projects q queue groups users) (hq : q ≠ p) :
    ProjectOk (projects.updateItem p change) q queue groups users := by
  refine ⟨?_, ?_, h.noSelf, ?_⟩
  · rw [isEnabled_updateItem_of_ne hq, groupsOf_updateItem_of_ne hq]
    exact h.groupsSynced
  · rw [isEnabled_updateItem_of_ne hq, usersOf_updateItem_of_ne hq]
    exact h.usersSynced
  · rw [isEnabled_updateItem_of_ne hq, groupsOf_updateItem_of_ne hq]
    exact h.storedNoSelf

theorem getItem_updateItem_self {row : ProjectRow} (hrow : projects.getItem p = some row) :
    (projects.updateItem p change).getItem p = some (change row) := by
  rw [Table.getItem_updateItem, if_pos rfl, hrow]
  rfl

end Stored

variable {p : String}

/-- A change of one stored project and its queue keeps the invariant, if it does so for the project. -/
theorem AccessOk.storeProject {change : ProjectRow → ProjectRow}
    {queue : String → List ProjectTask} (h : AccessOk s) (hother : ∀ q, q ≠ p → queue q = s.queue q)
    (hself : ∀ groups users, ProjectOk s.db.projects p (s.queue p) groups users →
      ProjectOk (s.db.projects.updateItem p change) p (queue p) groups users) :
    AccessOk { db := Projects.storeProject s.db p change, queue := queue } := by
  obtain ⟨V, W, hprov, hok⟩ := h
  refine ⟨V, W, ⟨rfl, hprov.mapped, hprov.named, hprov.sources, hprov.filled⟩, fun q => ?_⟩
  by_cases hq : q = p
  · subst hq
    exact hself _ _ (hok q)
  · show ProjectOk _ q (queue q) _ _
    rw [hother q hq]
    exact (hok q).of_ne hq

/-- Storing that a project is enabled or disabled, and sending the task that says so. -/
theorem AccessOk.setEnabled {task : ProjectTask} (nowOn : Bool)
    (h : AccessOk s) (hhas : s.db.projects.Has p) (hsound : "SELF" ∉ groupsOf s.db.projects p)
    (hgroups : task.groupChange = if nowOn then .fill else .clear)
    (husers : task.userChange = if nowOn then .fill else .clear) (hnames : task.NoSelf) :
    AccessOk { db := Projects.storeProject s.db p fun row => { row with enabled := some nowOn }
               queue := send s.queue p task } := by
  obtain ⟨row, hrow⟩ := Table.has_iff.mp hhas
  refine h.storeProject (fun q hq => update_of_ne hq _ _) fun groups users hp => ?_
  let changed := s.db.projects.updateItem p fun row => { row with enabled := some nowOn }
  have hitem : changed.getItem p = some { row with enabled := some nowOn } := getItem_updateItem_self hrow
  have hG : groupsOf changed p = groupsOf s.db.projects p := by simp [groupsOf, hitem, hrow]
  have hU : usersOf changed p = usersOf s.db.projects p := by simp [usersOf, hitem, hrow]
  have hE : isEnabled changed p = nowOn := by simp [isEnabled, hitem]
  show ProjectOk changed p _ _ _
  rw [send, update_self]
  refine ⟨?_, ?_, fun task' htask => ?_, fun _ => hG ▸ hsound⟩
  · rw [hE, hG, List.map_append, List.map_singleton, hgroups]
    exact hp.groupsSynced.switch nowOn
  · rw [hE, hU, List.map_append, List.map_singleton, husers]
    exact hp.usersSynced.switch nowOn
  · rcases List.mem_append.mp htask with htask | htask
    · exact hp.noSelf task' htask
    · rwa [List.mem_singleton.mp htask]

theorem IsDifference.same {old new : List String} (h : IsDifference old new [] []) (x : String) :
    x ∈ old ↔ x ∈ new := by
  constructor
  · intro hold
    by_contra hnew
    exact List.not_mem_nil ((h.2 x).mpr ⟨hold, hnew⟩)
  · intro hnew
    by_contra hold
    exact List.not_mem_nil ((h.1 x).mpr ⟨hnew, hold⟩)

/-- Storing new lists of a project, and sending the exact difference while it is enabled. -/
theorem AccessOk.updateProject
    {ldapGroups users groupsAdded groupsRemoved usersAdded usersRemoved : List String}
    (h : AccessOk s) (hhas : s.db.projects.Has p)
    (hgroups : IsDifference (groupsOf s.db.projects p) ldapGroups groupsAdded groupsRemoved)
    (husers : IsDifference (usersOf s.db.projects p) users usersAdded usersRemoved) (hself : "SELF" ∉ ldapGroups)
    (hoff : isEnabled s.db.projects p = false → s.queue p = [] ∨ (∀ g ∈ groupsOf s.db.projects p, g ∈ ldapGroups) ∧
        ∀ u ∈ usersOf s.db.projects p, u ∈ users) :
    AccessOk {
      db := Projects.storeProject s.db p fun row =>
        { row with ldapGroups := some ldapGroups, users := some users }
      queue :=
        if isEnabled s.db.projects p = true ∧ (groupsAdded ≠ [] ∨ groupsRemoved ≠ [] ∨
            usersAdded ≠ [] ∨ usersRemoved ≠ []) then
          send s.queue p (.projectGroupsUpdated groupsAdded groupsRemoved usersAdded usersRemoved)
        else s.queue } := by
  obtain ⟨row, hrow⟩ := Table.has_iff.mp hhas
  refine h.storeProject (fun q hq => ?_) fun groups users' hp => ?_
  · split
    · exact update_of_ne hq _ _
    · rfl
  let changed := s.db.projects.updateItem p fun row =>
    { row with ldapGroups := some ldapGroups, users := some users }
  have hitem : changed.getItem p =
      some { row with ldapGroups := some ldapGroups, users := some users } :=
    getItem_updateItem_self hrow
  have hG : groupsOf changed p = ldapGroups := by simp [groupsOf, hitem]
  have hU : usersOf changed p = users := by simp [usersOf, hitem]
  have hE : isEnabled changed p = isEnabled s.db.projects p := by simp [isEnabled, hitem, hrow]
  show ProjectOk changed p _ _ _
  by_cases hon : isEnabled s.db.projects p = true
  · have hGs := hp.groupsSynced
    have hUs := hp.usersSynced
    rw [hon] at hGs hUs
    by_cases hsend : groupsAdded ≠ [] ∨ groupsRemoved ≠ [] ∨ usersAdded ≠ [] ∨ usersRemoved ≠ []
    · -- the task carries the exact difference
      rw [if_pos ⟨hon, hsend⟩, send, update_self]
      refine ⟨?_, ?_, fun task htask => ?_, fun _ => hG.symm ▸ hself⟩
      · rw [hE, hon, hG, List.map_append]
        exact hGs.update hgroups.1 hgroups.2
      · rw [hE, hon, hU, List.map_append]
        exact hUs.update husers.1 husers.2
      · rcases List.mem_append.mp htask with htask | htask
        · exact hp.noSelf task htask
        · rw [List.mem_singleton.mp htask]
          refine ⟨fun hin => hself ((hgroups.1 _).mp hin).1, fun hin => ?_⟩
          exact hp.storedNoSelf (.inr hon) ((hgroups.2 _).mp hin).1
    · -- nothing is sent, and nothing has changed
      rw [if_neg fun hboth => hsend hboth.2]
      simp only [not_or, not_not] at hsend
      obtain ⟨rfl, rfl, rfl, rfl⟩ := hsend
      refine ⟨?_, ?_, hp.noSelf, fun _ => hG.symm ▸ hself⟩
      · rw [hE, hon, hG]
        exact hGs.rewrite hgroups.same
      · rw [hE, hon, hU]
        exact hUs.rewrite husers.same
  · have hoff' : isEnabled s.db.projects p = false := by simpa using hon
    have hGs := hp.groupsSynced
    have hUs := hp.usersSynced
    rw [hoff'] at hGs hUs
    rw [if_neg fun hboth => hon hboth.1]
    refine ⟨?_, ?_, hp.noSelf, fun _ => hG.symm ▸ hself⟩
    · rw [hE, hoff', hG]
      exact hGs.edit ((hoff hoff').imp (congrArg _) And.left)
    · rw [hE, hoff', hU]
      exact hUs.edit ((hoff hoff').imp (congrArg _) And.right)

/-! ## Steps and runs -/

/-- Processing the oldest task of a project. -/
theorem AccessOk.processTask {task : ProjectTask}
    {rest : List ProjectTask} {db : Db} (h : AccessOk s) (hqueue : s.queue p = task :: rest)
    (henabled : task.NeedsEnabled → isEnabled s.db.projects p = true) (hrun : (task.invoke p).run s.db = (.ok ⟨⟩, db)) :
    AccessOk { db := db, queue := update s.queue p rest } := by
  obtain ⟨V, W, hprov, hok⟩ := h
  have hp := hok p
  rw [hqueue] at hp
  have hself := hp.storedNoSelf (.inl (List.cons_ne_nil task rest))
  have hafter := (triple_invoke task hself (hp.noSelf task List.mem_cons_self) henabled).of_ok hprov hrun
  have hstored : db.projects = s.db.projects := hafter.stored
  -- a refresh is part of the task that needs an enabled project
  have hrefresh : task.Refreshes → isEnabled s.db.projects p = true := by
    intro href
    refine henabled ?_
    cases task with
    | projectGroupsUpdated => trivial
    | projectEnabled => exact href
    | projectDisabled => exact href
  refine ⟨_, _, by rw [hstored]; exact hafter, fun q => ?_⟩
  show ProjectOk db.projects q (update s.queue p rest q) _ _
  rw [hstored]
  by_cases hq : q = p
  · subst hq
    rw [update_self, update_self, update_self]
    refine ⟨?_, ?_, fun task' htask => ?_, fun _ => hself⟩
    · exact hp.groupsSynced.run hrefresh fun x => Iff.rfl
    · exact hp.usersSynced.run hrefresh fun x => Iff.rfl
    · exact hp.noSelf task' (List.mem_cons_of_mem _ htask)
  · rw [update_of_ne hq, update_of_ne hq, update_of_ne hq]
    exact hok q

/-- **The step lemma.** A sound step keeps the invariant. -/
theorem AccessOk.step {s t : AccessState} {label : AccessStep} (h : AccessOk s)
    (hsound : Sound s label) (hnext : access.next s label = some t) : AccessOk t := by
  cases label with
  | membership ctx op =>
    simp only [access] at hnext
    split at hnext
    · rename_i db hrun
      cases hnext
      obtain ⟨V, W, hprov, hok⟩ := h
      have hV : (fun p g => s.db.IsMapped g p) = V :=
        funext fun p => funext fun g => propext (hprov.mapped g p)
      have hsound' : op.Sound V s.db ctx := hV ▸ hsound
      have hafter := (triple_membershipOp hsound').of_ok ⟨rfl, hprov⟩ hrun
      refine ⟨V, W, ?_, fun p => ?_⟩
      · rw [hafter.stored]
        exact hafter
      · show ProjectOk db.projects p _ _ _
        rw [hafter.stored]
        exact hok p
    · cases hnext
  | enableProject p =>
    simp only [access] at hnext
    split at hnext
    · rename_i hhas
      cases hnext
      exact h.setEnabled true hhas hsound rfl rfl trivial
    · cases hnext
  | disableProject p =>
    simp only [access] at hnext
    split at hnext
    · rename_i hhas
      cases hnext
      exact h.setEnabled false hhas hsound rfl rfl trivial
    · cases hnext
  | updateProject p ldapGroups users groupsAdded groupsRemoved usersAdded usersRemoved =>
    simp only [access] at hnext
    split at hnext
    · rename_i hguard
      cases hnext
      exact h.updateProject hguard.1 hguard.2.1 hguard.2.2 hsound.1 hsound.2
    · cases hnext
  | processTask p =>
    simp only [access] at hnext
    split at hnext
    · cases hnext
    · rename_i task rest hqueue
      split at hnext
      · rename_i db hrun
        cases hnext
        refine h.processTask hqueue (fun hneeds => hsound task ?_ hneeds) hrun
        rw [hqueue]
        rfl
      · cases hnext

/-- **Project access is what the projects say.** Along every run of sound steps, a project whose tasks
have all been processed has exactly the rows of user-projects that its users, its groups and their
members call for. -/
theorem access_correct {s : AccessState} (h : access.Reach Sound s) : AccessCorrect s :=
  AccessOk.correct <| h.invariant (fun _ => accessOk_init)
    fun _ _ _ hok hsound hnext => hok.step hsound hnext

/-! ## Two runs -/

/-- An enabled, active user without groups. -/
def plainUser : UserRow :=
  { email := "member@example.org", uid := none, gid := none, additionalGroups := [],
    loginShell := "/bin/bash", homeDir := "/home/alice", isSudo := false, enabled := true,
    role := "user", isActive := true }

/-- An enabled group. -/
def plainGroup : GroupRow :=
  { title := none, dsName := none, gid := none, groupType := none, type := none, enabled := true,
    role := none }

/-- The user `alice`, the group `team` without members, and the disabled project `p1` of that group. -/
def teamProject : AccessState where
  db :=
    { Db.empty with
      users := (∅ : Table String UserRow).putItem "alice" plainUser
      groups := (∅ : Table String GroupRow).putItem "team" plainGroup
      projects := (∅ : Table String ProjectRow).putItem "p1"
        ⟨"project", some ["team"], some [], some false, none⟩ }
  queue _ := []

theorem init_teamProject : access.init teamProject := by
  refine ⟨fun _ => rfl, rfl, rfl, fun p => ?_⟩
  by_cases hp : p = "p1"
  · subst hp
    rfl
  · simp [isEnabled, teamProject, hp]

/-- A directory that answers nothing; adding and removing members asks it nothing. -/
def noDirectory : AccountsContext where
  administratorUsername := "clusteradmin"
  isTestMode := false
  isReadonly := true
  getLdapGroup _ := .ok none
  getGidForGroup _ := none
  isExistingUser _ := .ok false
  getUidAndGidForUser _ := none
  isValidEmail _ := false
  passwordPolicy := ⟨8, true, true, true, true⟩
  adminCreateUser _ := .ok ()
  publishUserDisabledEvent _ := .ok ()

/-- The project is enabled, a user is added to its group under the name given, then `alice` becomes a
user of the project too. -/
def addToTeamProject (username : String) : List AccessStep :=
  [.enableProject "p1", .processTask "p1", .membership noDirectory (.addUsersToGroup [username] "team" false),
    .updateProject "p1" ["team"] ["alice"] [] [] ["alice"] [], .processTask "p1"]

theorem access_correct_addToTeamProject :
    ∃ s, access.exec teamProject (addToTeamProject "alice") = some s ∧ AccessCorrect s := by
  obtain ⟨s, hexec⟩ : ∃ s, access.exec teamProject (addToTeamProject "alice") = some s := ⟨_, rfl⟩
  refine ⟨s, hexec, access_correct (.of_exec (.init init_teamProject) ?_ hexec)⟩
  refine ⟨?_, fun s₁ h₁ => ⟨?_, fun s₂ h₂ => ⟨?_, fun s₃ h₃ => ⟨⟨by decide, ?_⟩,
    fun s₄ h₄ => ⟨?_, fun _ _ => meets_nil⟩⟩⟩⟩⟩
  · show "SELF" ∉ groupsOf teamProject.db.projects "p1"
    decide
  · cases h₁
    rintro task htask hneeds
    cases htask
    cases hneeds
  · intro username hmem
    rw [List.mem_singleton.mp hmem]
    exact .inl (by decide)
  · cases h₁
    cases h₂
    cases h₃
    intro hoff
    cases hoff
  · cases h₁
    cases h₂
    cases h₃
    cases h₄
    intro _ _ _
    rfl

/-- **Access under an unsanitized name.** A user that is added to a group of an enabled project as
`Alice` becomes a member as `alice`, and user-projects gets a row for `Alice`. -/
theorem access_under_unsanitized_name : ¬ ∀ s, access.Reachable s → AccessCorrect s := by
  intro h
  obtain ⟨s, hexec⟩ :
      ∃ s, access.exec teamProject ((addToTeamProject "Alice").take 3) = some s := ⟨_, rfl⟩
  have hfacts : s.db.projects.Has "p1" ∧ s.queue "p1" = [] ∧ isEnabled s.db.projects "p1" = true ∧
      "team" ∈ groupsOf s.db.projects "p1" ∧ s.db.IsMember "team" "alice" ∧
      ¬ s.db.userProjects.Has ("alice", "p1") := by
    cases hexec
    exact ⟨rfl, rfl, rfl, by decide, rfl, by decide⟩
  obtain ⟨hhas, hqueue, hon, hgroup, hmember, hmissing⟩ := hfacts
  have hcorrect := (h s (.of_exec (.init init_teamProject) hexec) "p1" hhas hqueue).1 hon
  exact hmissing ((hcorrect.row_iff "alice").mpr (.inr ⟨"team", hgroup, hmember⟩))

end ContainRes.Projects
