import ContainRes.Projects.FileSystemMappings
import ContainRes.Projects.TaskEffects
import ContainRes.Projects.UpdateDeltas

/-! # Project tasks converge to the project record

Calls on one project and deliveries of the messages they send, in any order. The oldest message is delivered
until its task returns; a task that raises leaves what it has done so far.

* **`tasks`** — the system: `create_project`, `update_project`, `enable_project` and `disable_project` on one
  project, and deliveries.
* **`Converged`** — with no message left, the rows of the project are those of its record.
* **`Sound`** — the condition on a step under which this is kept; **`rows_converge`** — it holds along sound
  runs. -/

namespace ContainRes.Projects.Convergence

open Accounts Effects Store Systems Systems.System Tasks Text

/-! ## The system -/

/-- The tables with the messages that wait in `sent`, and the id of the project once it is created. -/
structure CallState where
  db : Db
  project : Option String

/-- A call on the project, or a delivery. -/
inductive CallStep
  | create (ctx : CreationContext) (project : Project)
  | update (ctx : ProjectsContext) (project : Project)
  | enable (shortUuid : String) (projectId projectName : Option String)
  | disable (shortUuid : String) (projectId projectName : Option String)
  /-- The oldest message is delivered. -/
  | deliver

/-- `TaskManager.execute_task` of a message of a project. -/
def execute : TaskPayload → DbProc PUnit
  | .projectEnabled p => ProjectTask.projectEnabled.invoke p
  | .projectDisabled p => ProjectTask.projectDisabled.invoke p
  | .projectGroupsUpdated p groupsAdded groupsRemoved usersAdded usersRemoved =>
    (ProjectTask.projectGroupsUpdated groupsAdded groupsRemoved usersAdded usersRemoved).invoke p
  | .createHomeDirectory _ => pure ⟨⟩

/-- The request names the project of the state. -/
def onProject (s : CallState) (projectId projectName : Option String) : Bool :=
  match ((requestedProject projectId projectName).run s.db).1 with
  | .ok found => s.project == some found.1
  | .error _ => false

/-- The calls on one project and the deliveries of its messages. -/
def tasks : System CallState CallStep where
  init s := s.project = none ∧ s.db.sent = [] ∧
    ∀ p, ¬ s.db.projects.Has p → ∀ u, ¬ s.db.userProjects.Has (u, p)
  next s
    | .create ctx project =>
      match s.project, (createProject ctx project).run s.db with
      | none, (.ok p, db) => some ⟨db, some p⟩
      | none, (.error _, db) => some ⟨db, none⟩
      | some _, _ => none
    | .update ctx project =>
      if s.project.isSome ∧ project.projectId = s.project then
        some { s with db := ((updateProject ctx project).run s.db).2 }
      else none
    | .enable shortUuid projectId projectName =>
      if onProject s projectId projectName then
        some { s with db := ((enableProject shortUuid projectId projectName).run s.db).2 }
      else none
    | .disable shortUuid projectId projectName =>
      if onProject s projectId projectName then
        some { s with db := ((disableProject shortUuid projectId projectName).run s.db).2 }
      else none
    | .deliver =>
      match s.db.sent with
      | [] => none
      | message :: rest =>
        match (execute message.payload).run s.db with
        | (.ok _, db) => some { s with db := { db with sent := rest } }
        | (.error _, db) => some { s with db := db }

/-- With no message left, the rows of user-projects are those that the record of the project determines. -/
def Converged (s : CallState) : Prop :=
  s.db.sent = [] → ∀ p, s.project = some p →
    (isEnabled s.db.projects p = true → EnabledCorrect s.db p) ∧
    (isEnabled s.db.projects p = false → ∀ u, ¬ s.db.userProjects.Has (u, p))

/-- The groups that a request stores. -/
def newGroups (db : Db) (p : String) (project : Project) : List String :=
  project.ldapGroups.getD (groupsOf db.projects p)

/-- The users that a request stores. -/
def newUsers (db : Db) (p : String) (project : Project) : List String :=
  project.users.getD (usersOf db.projects p)

/-- The condition on an update.

* While the project is enabled, no list that names somebody is replaced by an empty one, and no group is
  named `SELF`.
* While the project is disabled, no message waits, or nobody loses a source by the update. -/
structure SoundUpdate (db : Db) (p : String) (project : Project) : Prop where
  groups : isEnabled db.projects p = true → project.ldapGroups = some [] →
    ∀ g ∈ groupsOf db.projects p, ∀ u, ¬ db.IsMember g u
  users : isEnabled db.projects p = true → project.users = some [] → usersOf db.projects p = []
  noSelf : isEnabled db.projects p = true → "SELF" ∉ groupsOf db.projects p ∧ "SELF" ∉ newGroups db p project
  disabled : isEnabled db.projects p = false → db.sent = [] ∨
    ∀ u x, Names db (groupsOf db.projects p) (usersOf db.projects p) u x →
      Names db (newGroups db p project) (newUsers db p project) u x

/-- The condition on a step: an update is `SoundUpdate`, and a task with a difference that is delivered while
its project is disabled takes out nothing that is in the rows and not listed. -/
def Sound (s : CallState) : CallStep → Prop
  | .update _ project => ∀ p, s.project = some p → SoundUpdate s.db p project
  | .deliver => ∀ message ∈ s.db.sent.head?, ∀ p groupsAdded groupsRemoved usersAdded usersRemoved,
      message.payload = .projectGroupsUpdated p groupsAdded groupsRemoved usersAdded usersRemoved →
      isEnabled s.db.projects p = false → ∀ u x, Names s.db groupsRemoved usersRemoved u x →
        Names s.db (groupsOf s.db.projects p) (usersOf s.db.projects p) u x ∨ x ∉ sources s.db u p
  | _ => True

/-! ## The invariant -/

/-- The pairs of a user and a source in the rows of a project. -/
def rowPairs (db : Db) (p : String) (y : String × String) : Prop := y.2 ∈ sources db y.1 p

/-- The messages that wait are tasks of the project, and lead its rows to what is stored. -/
structure TasksOk (db : Db) (p : String) (waiting : List ProjectTask) : Prop where
  has : db.projects.Has p
  strip : strip p = p
  notEmpty : isEmpty p = false
  sent : db.sent.map TaskMessage.payload = waiting.map (ProjectTask.payload p)
  synced : Synced (isEnabled db.projects p) (storedPairs db p) (waiting.map (ProjectTask.change db))
    (rowPairs db p)
  filled : ∀ u, db.userProjects.getItem (u, p) ≠ some []

/-- The invariant of a run: nothing was created, or the messages of the project are as they have to be. -/
def CallOk (s : CallState) : Prop :=
  (s.project = none ∧ s.db.sent = [] ∧ ∀ p, ¬ s.db.projects.Has p → ∀ u, ¬ s.db.userProjects.Has (u, p)) ∨
    ∃ p waiting, s.project = some p ∧ TasksOk s.db p waiting

/-- The invariant gives the property. -/
theorem CallOk.converged {s : CallState} (h : CallOk s) : Converged s := by
  intro hsent p hproject
  rcases h with ⟨hnone, -⟩ | ⟨p', waiting, hsome, hok⟩
  · rw [hproject] at hnone
    cases hnone
  · rw [hproject] at hsome
    cases hsome
    have hempty : waiting = [] := by
      have hmap := hok.sent
      rw [hsent] at hmap
      exact List.map_eq_nil_iff.mp hmap.symm
    have hsynced := hok.synced
    rw [hempty, List.map_nil] at hsynced
    have hsources : ∀ u x, x ∈ sources s.db u p ↔ isEnabled s.db.projects p = true ∧
        Names s.db (groupsOf s.db.projects p) (usersOf s.db.projects p) u x := by
      intro u x
      rw [← mem_namedPairs]
      exact hsynced.copy_iff (u, x)
    have hrow : ∀ u, s.db.userProjects.Has (u, p) ↔ ∃ x, x ∈ sources s.db u p := by
      intro u
      rw [Table.has_iff]
      constructor
      · rintro ⟨row, hrow⟩
        obtain ⟨x, hx⟩ := List.exists_mem_of_ne_nil row fun hnil => hok.filled u (by rw [hrow, hnil])
        exact ⟨x, by rwa [sources, hrow]⟩
      · rintro ⟨x, hx⟩
        rcases hitem : s.db.userProjects.getItem (u, p) with _ | row
        · rw [sources, hitem] at hx
          cases hx
        · exact ⟨row, rfl⟩
    refine ⟨fun hon => ⟨fun u => ?_, fun u byLdaps hitem x => ?_⟩, fun hoff u => ?_⟩
    · rw [hrow]
      constructor
      · rintro ⟨x, hx⟩
        rcases ((hsources u x).mp hx).2 with ⟨-, hu⟩ | ⟨hx, hm⟩
        · exact .inl hu
        · exact .inr ⟨x, hx, hm⟩
      · rintro (hu | ⟨g, hg, hm⟩)
        · exact ⟨"SELF", (hsources u "SELF").mpr ⟨hon, .inl ⟨rfl, hu⟩⟩⟩
        · exact ⟨g, (hsources u g).mpr ⟨hon, .inr ⟨hg, hm⟩⟩⟩
    · have hmem := hsources u x
      rw [sources, hitem] at hmem
      exact hmem.trans (and_iff_right hon)
    · rw [hrow]
      rintro ⟨x, hx⟩
      have hon := ((hsources u x).mp hx).1
      rw [hoff] at hon
      cases hon

/-! ## What the invariant depends on -/

section Frames

variable {db db' s : Db} {p : String} {task : ProjectTask} {waiting waiting' : List ProjectTask}
  {copy' : String × String → Prop}

theorem namedPairs_congr (h : db'.groupMembers = db.groupMembers) : namedPairs db' = namedPairs db := by
  have hmembers : memberPairs db' = memberPairs db := by
    funext g
    rw [memberPairs, memberPairs, GroupMembersDao.usernames, GroupMembersDao.usernames, h]
  funext groups users
  rw [namedPairs, namedPairs, hmembers]

theorem change_congr (h : db'.groupMembers = db.groupMembers) : ProjectTask.change db' = ProjectTask.change db := by
  funext task
  cases task with
  | projectEnabled => rfl
  | projectDisabled => rfl
  | projectGroupsUpdated => rw [ProjectTask.change, ProjectTask.change, namedPairs_congr h]

theorem TasksOk.shows (h : TasksOk db p waiting) : ShowsSources db p (rowPairs db p) db :=
  ⟨rfl, fun _ _ => Iff.rfl, h.filled⟩

/-- Another record and other rows of the project, and other messages that wait. -/
theorem TasksOk.of_synced (h : TasksOk db p waiting) (hmembers : db'.groupMembers = db.groupMembers)
    (hhas : db'.projects.Has p) (hsent : db'.sent.map TaskMessage.payload = waiting'.map (ProjectTask.payload p))
    (hcopy : ∀ y, rowPairs db' p y ↔ copy' y) (hfilled : ∀ u, db'.userProjects.getItem (u, p) ≠ some [])
    (hsynced : Synced (isEnabled db'.projects p) (namedPairs db (groupsOf db'.projects p) (usersOf db'.projects p))
      (waiting'.map (ProjectTask.change db)) copy') : TasksOk db' p waiting' := by
  refine ⟨hhas, h.strip, h.notEmpty, hsent, ?_, hfilled⟩
  have hsame : rowPairs db' p = copy' := funext fun y => propext (hcopy y)
  rw [hsame, change_congr hmembers, storedPairs, namedPairs_congr hmembers]
  exact hsynced

/-- Other rows of the project, after a task is run. -/
theorem TasksOk.of_shows (h : TasksOk db p waiting) (hs : ShowsSources db p copy' s) {sent : List TaskMessage}
    (hsent : sent.map TaskMessage.payload = waiting'.map (ProjectTask.payload p))
    (hsynced : Synced (isEnabled db.projects p) (storedPairs db p) (waiting'.map (ProjectTask.change db)) copy') :
    TasksOk { s with sent := sent } p waiting' := by
  have hprojects : s.projects = db.projects := by rw [hs.frame]
  have hmembers : s.groupMembers = db.groupMembers := by rw [hs.frame]
  refine h.of_synced hmembers ?_ hsent (fun y => hs.sources y.1 y.2) hs.filled ?_
  · show s.projects.Has p
    rw [hprojects]
    exact h.has
  · show Synced (isEnabled s.projects p) (namedPairs db (groupsOf s.projects p) (usersOf s.projects p)) _ _
    rw [hprojects]
    exact hsynced

end Frames

/-! ## Steps -/

/-- **Creation.** -/
theorem tasksOk_created {db : Db} (ctx : CreationContext) (name : String) (project : Project)
    (hsent : db.sent = []) (hrows : ∀ p, ¬ db.projects.Has p → ∀ u, ¬ db.userProjects.Has (u, p)) :
    TasksOk (created ctx db name project) (nextProjectId ctx db.projects) [.projectEnabled] := by
  obtain ⟨hnew, hblank, hstrip⟩ := nextProjectId_spec ctx db.projects
  have hrow : (created ctx db name project).projects.getItem (nextProjectId ctx db.projects) =
      some { newRow name project with enabled := some true } := by
    rw [getItem_created, if_pos rfl]
  have hon : isEnabled (created ctx db name project).projects (nextProjectId ctx db.projects) = true := by
    rw [isEnabled, hrow]
    rfl
  have hitem : ∀ u, db.userProjects.getItem (u, nextProjectId ctx db.projects) = none := fun u => by
    by_contra hsome
    obtain ⟨row, hsome⟩ := Option.ne_none_iff_exists'.mp hsome
    exact hrows _ hnew u (.of_getItem hsome)
  refine ⟨.of_getItem hrow, hstrip, hblank, ?_, ?_, fun u => ?_⟩
  · show (db.sent ++ [_]).map _ = _
    rw [hsent]
    rfl
  · rw [hon]
    refine (Synced.initial _ fun y hy => ?_).switchOn
    have hnone : sources (created ctx db name project) y.1 (nextProjectId ctx db.projects) = [] := by
      show (db.userProjects.getItem _).getD [] = []
      rw [hitem]
      rfl
    rw [rowPairs, hnone] at hy
    cases hy
  · show db.userProjects.getItem _ ≠ _
    rw [hitem]
    exact Option.some_ne_none [] |>.symm

section Steps

variable {db : Db} {p : String} {task : ProjectTask} {waiting : List ProjectTask}

/-- **Switching the project on or off.** -/
theorem TasksOk.switch (h : TasksOk db p waiting) (enabled : Bool) (task : ProjectTask)
    (hchange : task.change db = if enabled then .fill else .clear) (payload : String → TaskPayload)
    (hpayload : payload p = task.payload p) (shortUuid : String) :
    TasksOk (switched db p enabled payload shortUuid) p (waiting ++ [task]) := by
  obtain ⟨row, hrow⟩ := Table.has_iff.mp h.has
  have hitem : (switched db p enabled payload shortUuid).projects.getItem p =
      some { row with enabled := some enabled } := getItem_updateItem_self hrow
  have hflag : isEnabled (switched db p enabled payload shortUuid).projects p = enabled := by
    rw [isEnabled, hitem]
    rfl
  have hgroups : groupsOf (switched db p enabled payload shortUuid).projects p = groupsOf db.projects p := by
    rw [groupsOf, groupsOf, hitem, hrow]
    rfl
  have husers : usersOf (switched db p enabled payload shortUuid).projects p = usersOf db.projects p := by
    rw [usersOf, usersOf, hitem, hrow]
    rfl
  refine h.of_synced rfl (.of_getItem hitem) ?_ (fun _ => Iff.rfl) h.filled ?_
  · show (db.sent ++ [_]).map _ = _
    rw [List.map_append, List.map_append, h.sent, List.map_singleton, List.map_singleton, hpayload]
  · rw [hflag, hgroups, husers, List.map_append, List.map_singleton, hchange]
    exact h.synced.switch enabled

/-- The pairs that come in by a difference of lists. -/
theorem names_of_difference {groups groups' users users' groupsIn usersIn : List String} {u x : String}
    (hself : "SELF" ∉ groups) (hself' : "SELF" ∉ groups')
    (hgroups : db.IsMember x u → (x ∈ groupsIn ↔ x ∈ groups' ∧ x ∉ groups))
    (husers : u ∈ usersIn ↔ u ∈ users' ∧ u ∉ users) :
    Names db groupsIn usersIn u x ↔ Names db groups' users' u x ∧ ¬ Names db groups users u x := by
  unfold Names
  by_cases hm : db.IsMember x u
  · by_cases hx : x = "SELF"
    · subst hx
      simp [hgroups hm, husers, hself, hself', hm]
    · simp [hgroups hm, hx, hm]
  · by_cases hx : x = "SELF"
    · subst hx
      simp [husers, hm]
    · simp [hx, hm]

/-- The difference that is sent for a list, unless the request empties a list with the element. -/
theorem mem_requestedDifference {ctx : ProjectsContext} {requested existing : Option (List String)} {x : String}
    (hempty : requested = some [] → x ∉ existing.getD []) : (x ∈ (requestedDifference ctx requested existing).1 ↔
        x ∈ requested.getD (existing.getD []) ∧ x ∉ existing.getD []) ∧
      (x ∈ (requestedDifference ctx requested existing).2 ↔
        x ∈ existing.getD [] ∧ x ∉ requested.getD (existing.getD [])) := by
  unfold requestedDifference
  rcases requested with _ | names
  · simp
  · rcases names with _ | ⟨name, names⟩
    · simp [hempty rfl]
    · have hne : (some (name :: names)).getD [] ≠ [] := List.cons_ne_nil name names
      rw [if_neg hne]
      simp

section Update

variable {project : Project} {row : ProjectRow}

/-- The lists and the flag that an update stores. -/
theorem lists_stored (project : Project) (hrow : db.projects.getItem p = some row)
    (groups users : List String × List String) :
    isEnabled (stored db project p groups users).projects p = isEnabled db.projects p ∧
      groupsOf (stored db project p groups users).projects p = newGroups db p project ∧
      usersOf (stored db project p groups users).projects p = newUsers db p project := by
  have hitem : (stored db project p groups users).projects.getItem p = some (updatedRow project row) := by
    rw [projects_stored, getItem_updateItem_self hrow]
  refine ⟨?_, ?_, ?_⟩
  · rw [isEnabled, isEnabled, hitem, hrow]
    rfl
  · rw [groupsOf, hitem, newGroups, groupsOf, hrow]
    show (project.ldapGroups.or row.ldapGroups).getD [] = _
    cases project.ldapGroups <;> rfl
  · rw [usersOf, hitem, newUsers, usersOf, hrow]
    show (project.users.or row.users).getD [] = _
    cases project.users <;> rfl

/-- The memberships and the rows of the project after an update. -/
theorem TasksOk.of_stored (h : TasksOk db p waiting) (groups users : List String × List String)
    {waiting' : List ProjectTask} (hsent : (stored db project p groups users).sent.map TaskMessage.payload =
      waiting'.map (ProjectTask.payload p))
    (hsynced : Synced (isEnabled db.projects p) (namedPairs db (newGroups db p project) (newUsers db p project))
      (waiting'.map (ProjectTask.change db)) (rowPairs db p)) :
    TasksOk (stored db project p groups users) p waiting' := by
  obtain ⟨row, hrow⟩ := Table.has_iff.mp h.has
  obtain ⟨hflag, hgroups, husers⟩ := lists_stored project hrow groups users
  have hmembers : (stored db project p groups users).groupMembers = db.groupMembers := by
    rw [stored]
    split <;> rfl
  have hrows : (stored db project p groups users).userProjects = db.userProjects := by
    rw [stored]
    split <;> rfl
  have hcopy : ∀ y, rowPairs (stored db project p groups users) p y ↔ rowPairs db p y := fun y => by
    rw [rowPairs, rowPairs, sources, sources, hrows]
  refine h.of_synced hmembers ?_ hsent hcopy (fun u => ?_) ?_
  · rw [projects_stored]
    exact Table.has_updateItem.mpr h.has
  · rw [hrows]
    exact h.filled u
  · rw [hflag, hgroups, husers]
    exact hsynced

/-- **The difference that an update of an enabled project sends**, as pairs. -/
theorem pairs_of_update (ctx : ProjectsContext) (hrow : db.projects.getItem p = some row)
    (hsound : SoundUpdate db p project) (hon : isEnabled db.projects p = true) (y : String × String) :
    let groups := requestedDifference ctx project.ldapGroups row.ldapGroups
    let users := requestedDifference ctx project.users row.users
    let new := namedPairs db (newGroups db p project) (newUsers db p project)
    (y ∈ namedPairs db groups.1 users.1 ↔ y ∈ new ∧ y ∉ storedPairs db p) ∧
      (y ∈ namedPairs db groups.2 users.2 ↔ y ∈ storedPairs db p ∧ y ∉ new) := by
  intro groups users new
  obtain ⟨u, x⟩ := y
  have hG : groupsOf db.projects p = row.ldapGroups.getD [] := by simp [groupsOf, hrow]
  have hU : usersOf db.projects p = row.users.getD [] := by simp [usersOf, hrow]
  have hgroups : db.IsMember x u → (x ∈ groups.1 ↔ x ∈ newGroups db p project ∧ x ∉ groupsOf db.projects p) ∧
      (x ∈ groups.2 ↔ x ∈ groupsOf db.projects p ∧ x ∉ newGroups db p project) := fun hm => by
    rw [newGroups, hG]
    exact mem_requestedDifference fun hempty hx => hsound.groups hon hempty x (hG ▸ hx) u hm
  have husers : (u ∈ users.1 ↔ u ∈ newUsers db p project ∧ u ∉ usersOf db.projects p) ∧
      (u ∈ users.2 ↔ u ∈ usersOf db.projects p ∧ u ∉ newUsers db p project) := by
    rw [newUsers, hU]
    refine mem_requestedDifference fun hempty hu => ?_
    rw [← hU, hsound.users hon hempty] at hu
    cases hu
  obtain ⟨hself, hself'⟩ := hsound.noSelf hon
  simp only [new, storedPairs, mem_namedPairs]
  exact ⟨names_of_difference hself hself' (fun hm => (hgroups hm).1) husers.1,
    names_of_difference hself' hself (fun hm => (hgroups hm).2) husers.2⟩

/-- **An update of the project.** -/
theorem TasksOk.update (h : TasksOk db p waiting) (ctx : ProjectsContext) (hid : project.projectId = some p)
    (hsound : SoundUpdate db p project) : ∃ waiting', TasksOk ((updateProject ctx project).run db).2 p waiting' := by
  obtain ⟨row, hrow⟩ := Table.has_iff.mp h.has
  have htriple : Triple (· = db) (updateProject ctx project) _ _ := triple_updateProject hid h.notEmpty h.strip hrow
  rcases hrun : (updateProject ctx project).run db with ⟨e | ⟨⟨⟩⟩, db'⟩
  · obtain rfl : db' = db := htriple.of_error rfl hrun
    exact ⟨waiting, h⟩
  · obtain rfl := htriple.of_ok rfl hrun
    have hpairs := pairs_of_update ctx hrow hsound
    have hsynced := h.synced
    set groups := requestedDifference ctx project.ldapGroups row.ldapGroups
    set users := requestedDifference ctx project.users row.users
    rcases hon : isEnabled db.projects p with _ | _
    · -- a disabled project: nothing is sent
      refine ⟨waiting, h.of_stored groups users ?_ ?_⟩
      · rw [← h.sent, stored, if_neg (by simp [hon])]
        rfl
      · rw [hon] at hsynced ⊢
        refine hsynced.edit ((hsound.disabled hon).imp (fun hnil => ?_) fun hgrows y hy => ?_)
        · have hwaiting : waiting = [] := by
            have hmap := h.sent
            rw [hnil] at hmap
            exact List.map_eq_nil_iff.mp hmap.symm
          rw [hwaiting, List.map_nil]
        · exact mem_namedPairs.mpr (hgrows y.1 y.2 (mem_namedPairs.mp hy))
    · -- an enabled project: the pairs of the difference are the difference of the pairs
      rw [hon] at hsynced
      by_cases hsend : groups.1 ≠ [] ∨ groups.2 ≠ [] ∨ users.1 ≠ [] ∨ users.2 ≠ []
      · refine ⟨waiting ++ [.projectGroupsUpdated groups.1 groups.2 users.1 users.2], h.of_stored groups users ?_ ?_⟩
        · rw [stored, if_pos ⟨hon, hsend⟩]
          show (db.sent ++ [_]).map _ = _
          rw [List.map_append, List.map_append, h.sent]
          rfl
        · rw [hon, List.map_append]
          exact hsynced.update (fun y => (hpairs hon y).1) fun y => (hpairs hon y).2
      · refine ⟨waiting, h.of_stored groups users ?_ ?_⟩
        · rw [← h.sent, stored, if_neg fun hboth => hsend hboth.2]
          rfl
        · rw [hon]
          simp only [not_or, not_not] at hsend
          obtain ⟨hadd, hremove, hadd', hremove'⟩ := hsend
          refine hsynced.rewrite fun y => ⟨fun hy => ?_, fun hy => ?_⟩
          · by_contra hnot
            have hmem := (hpairs hon y).2.mpr ⟨hy, hnot⟩
            rw [hremove, hremove'] at hmem
            exact List.not_mem_nil hmem
          · by_contra hnot
            have hmem := (hpairs hon y).1.mpr ⟨hy, hnot⟩
            rw [hadd, hadd'] at hmem
            exact List.not_mem_nil hmem

end Update

/-- **A delivery.** The task returns and its message is gone, or it raises and its message stays. -/
theorem TasksOk.deliver (h : TasksOk db p (task :: waiting)) {rest : List TaskMessage}
    (hrest : rest.map TaskMessage.payload = waiting.map (ProjectTask.payload p))
    (hskip : ∀ groupsAdded groupsRemoved usersAdded usersRemoved,
      task = .projectGroupsUpdated groupsAdded groupsRemoved usersAdded usersRemoved →
      isEnabled db.projects p = false → ∀ u x, Names db groupsRemoved usersRemoved u x →
        Names db (groupsOf db.projects p) (usersOf db.projects p) u x ∨ x ∉ sources db u p) :
    Triple (· = db) (task.invoke p) (fun _ s => TasksOk { s with sent := rest } p waiting)
      (fun _ s => TasksOk s p (task :: waiting)) := by
  have hsent : ∀ {copy' : String × String → Prop} {s : Db}, ShowsSources db p copy' s →
      s.sent.map TaskMessage.payload = (task :: waiting).map (ProjectTask.payload p) := fun hs => by
    rw [hs.frame]
    exact h.sent
  by_cases henabled : task.NeedsEnabled → isEnabled db.projects p = true
  · have hon : task.Refreshes → isEnabled db.projects p = true := fun hrefreshes => henabled <| by
      cases task with
      | projectGroupsUpdated => trivial
      | projectEnabled => cases hrefreshes
      | projectDisabled => cases hrefreshes
    refine (triple_deliver task henabled).conseq (fun s hs => by rw [hs]; exact h.shows) (fun _ s hs => ?_)
      fun _ s hs => ?_
    · obtain ⟨copy', hshows, hcopy⟩ := hs
      exact h.of_shows hshows hrest (h.synced.run hon hcopy)
    · obtain ⟨copy', hshows, hcopy⟩ := hs
      exact h.of_shows hshows (hsent hshows) (h.synced.retry hon hcopy)
  · -- a difference for a project that is disabled by now: nothing happens
    cases task with
    | projectEnabled => exact absurd (fun hneeds => nomatch hneeds) henabled
    | projectDisabled => exact absurd (fun hneeds => nomatch hneeds) henabled
    | projectGroupsUpdated groupsAdded groupsRemoved usersAdded usersRemoved =>
      have hoff : isEnabled db.projects p = false := Bool.eq_false_iff.mpr fun hon => henabled fun _ => hon
      have hsynced := h.synced
      rw [hoff, List.map_cons] at hsynced
      refine (reads_invokeGroupsUpdated groupsAdded groupsRemoved usersAdded usersRemoved hoff _).conseq
        (fun s hs => by rw [hs]; exact h.shows) (fun _ s hs => ?_) fun _ s hs => ?_
      · refine h.of_shows hs hrest ?_
        rw [hoff]
        refine hsynced.skip (fun hclear => nomatch hclear) fun y hy => ?_
        have hremoved : y ∈ namedPairs db groupsRemoved usersRemoved := by
          by_contra hnot
          simp [ProjectTask.change, Change.effect, hnot] at hy
        exact (hskip _ _ _ _ rfl hoff y.1 y.2 (mem_namedPairs.mp hremoved)).imp_left mem_namedPairs.mpr
      · obtain ⟨copy', hshows, hbetween⟩ := hs
        refine h.of_shows hshows (hsent hshows) ?_
        rw [hoff, List.map_cons]
        have hnever : False → false = true := False.elim
        refine hsynced.retry hnever fun y _ => ⟨fun hy => ?_, fun hy => ?_⟩
        · exact .inl (((hbetween y).1 hy).resolve_right List.not_mem_nil)
        · exact ((hbetween y).2 hy).resolve_right List.not_mem_nil

end Steps

/-! ## Runs -/

section Runs

variable {s t : CallState}

/-- The project of a request that names it. -/
theorem requested_of_onProject {projectId projectName : Option String} (h : onProject s projectId projectName = true) :
    ∃ p row, s.project = some p ∧ (requestedProject projectId projectName).run s.db = (.ok (p, row), s.db) := by
  unfold onProject at h
  have hsame := reads_requestedProject projectId projectName s.db
  rcases hrun : (requestedProject projectId projectName).run s.db with ⟨e | found, db⟩
  · rw [hrun] at h
    cases h
  · rw [hrun] at h hsame
    obtain rfl : db = s.db := hsame
    exact ⟨found.1, found.2, by simpa using h, rfl⟩

/-- Switching the project on or off, as a step. -/
theorem CallOk.switch (h : CallOk s) {projectId projectName : Option String}
    (hon : onProject s projectId projectName = true) (enabled : Bool) (task : ProjectTask)
    (hchange : ∀ db, task.change db = if enabled then .fill else .clear) (payload : String → TaskPayload)
    (hpayload : ∀ p, payload p = task.payload p) (shortUuid : String) :
    CallOk { s with db := ((switchProject shortUuid enabled payload projectId projectName).run s.db).2 } := by
  obtain ⟨p, row, hproject, hfound⟩ := requested_of_onProject hon
  rcases h with ⟨hnone, -⟩ | ⟨p', waiting, hsome, hok⟩
  · rw [hproject] at hnone
    cases hnone
  · rw [hproject] at hsome
    cases hsome
    rw [run_switchProject_of_requested hfound hok.notEmpty hok.strip hok.has]
    exact .inr ⟨p, waiting ++ [task], hproject, hok.switch enabled task (hchange _) payload (hpayload p) shortUuid⟩

theorem execute_payload (p : String) (task : ProjectTask) : execute (task.payload p) = task.invoke p := by
  cases task <;> rfl

/-- **Step lemma.** A step that meets the condition keeps the invariant. -/
theorem CallOk.next {step : CallStep} (h : CallOk s) (hsound : Sound s step) (hnext : tasks.next s step = some t) :
    CallOk t := by
  cases step with
  | create ctx project =>
    rcases h with ⟨hnone, hsent, hrows⟩ | ⟨p, waiting, hsome, -⟩
    · rcases hrun : (createProject ctx project).run s.db with ⟨r, db'⟩
      simp only [tasks, hnone, hrun] at hnext
      rcases run_createProject_cases hrun with ⟨⟨e, rfl⟩, rfl⟩ | ⟨name, -, -, rfl, -, rfl⟩
      · cases hnext
        exact .inl ⟨rfl, hsent, hrows⟩
      · cases hnext
        exact .inr ⟨_, _, rfl, tasksOk_created ctx name project hsent hrows⟩
    · simp only [tasks, hsome] at hnext
      cases hnext
  | update ctx project =>
    simp only [tasks] at hnext
    split at hnext
    · rename_i hboth
      obtain ⟨hproject, hid⟩ := hboth
      cases hnext
      rcases h with ⟨hnone, -⟩ | ⟨p, waiting, hsome, hok⟩
      · rw [hnone] at hproject
        cases hproject
      · obtain ⟨waiting', hok'⟩ := hok.update ctx (hid.trans hsome) (hsound p hsome)
        exact .inr ⟨p, waiting', hsome, hok'⟩
    · cases hnext
  | enable shortUuid projectId projectName =>
    simp only [tasks] at hnext
    split at hnext
    · rename_i hon
      cases hnext
      exact h.switch hon true .projectEnabled (fun _ => rfl) .projectEnabled (fun _ => rfl) shortUuid
    · cases hnext
  | disable shortUuid projectId projectName =>
    simp only [tasks] at hnext
    split at hnext
    · rename_i hon
      cases hnext
      exact h.switch hon false .projectDisabled (fun _ => rfl) .projectDisabled (fun _ => rfl) shortUuid
    · cases hnext
  | deliver =>
    simp only [tasks] at hnext
    rcases hsent : s.db.sent with _ | ⟨message, rest⟩
    · rw [hsent] at hnext
      cases hnext
    · rcases h with ⟨-, hnil, -⟩ | ⟨p, waiting, hsome, hok⟩
      · rw [hsent] at hnil
        cases hnil
      · -- the oldest message is the oldest task
        have hmap := hok.sent
        rw [hsent, List.map_cons] at hmap
        rcases waiting with _ | ⟨task, waiting⟩
        · cases hmap
        · rw [List.map_cons, List.cons.injEq] at hmap
          obtain ⟨hpayload, hrest⟩ := hmap
          have htriple : Triple (· = s.db) (task.invoke p) _ _ := hok.deliver hrest
            fun groupsAdded groupsRemoved usersAdded usersRemoved htask hoff => by
              subst htask
              exact hsound message (by rw [hsent]; rfl) p _ _ _ _ hpayload hoff
          rw [hsent] at hnext
          simp only [hpayload, execute_payload] at hnext
          rcases hrun : (task.invoke p).run s.db with ⟨e | u, db'⟩
          · rw [hrun] at hnext
            cases hnext
            exact .inr ⟨p, _, hsome, htriple.of_error rfl hrun⟩
          · rw [hrun] at hnext
            cases hnext
            exact .inr ⟨p, waiting, hsome, htriple.of_ok rfl hrun⟩

end Runs

/-! ## A user who stays in the rows -/

/-- The users `alice` and `bob`, and no project. -/
def aliceAndBob : CallState where
  db :=
    { Db.empty with
      users := ((∅ : Table String UserRow).putItem "alice" plainUser).putItem "bob" plainUser }
  project := none

theorem init_aliceAndBob : tasks.init aliceAndBob := by
  refine ⟨rfl, rfl, fun p _ u hrow => ?_⟩
  cases hrow

/-- A project of `alice` is created, and its task is run. -/
def projectOfAlice : List CallStep :=
  [.create acceptingCreation
    { projectId := none, name := some "lab", ldapGroups := some [], users := some ["alice"] }, .deliver]

/-- `bob` takes the place of `alice`, and the project is disabled before the task of that is run. -/
def bobForAlice : List CallStep :=
  [.update acceptingProjects { projectId := some "u", users := some ["bob"] }, .disable "m" (some "u") none,
    .deliver, .deliver]

/-- The state after steps. -/
def afterSteps (steps : List CallStep) : CallState := (tasks.exec aliceAndBob steps).getD aliceAndBob

end ContainRes.Projects.Convergence
