import ContainRes.Projects.Provenance
import ContainRes.Projects.Service
import ContainRes.VirtualDesktop.SoftwareStackDb

/-! # Deleting a project

`ProjectsService.delete_project`: the sessions and the software stacks of the project are asked for at the
virtual desktop controller, which answers each question with one page of a table, and then the mappings
of the groups are removed and the project is deleted.

* **`listSessionsByProjectId`**, **`listSoftwareStacksByProjectId`** — the two questions. The service calls
  the listing of users without a username.
* **`deleteProject`** — the method, with `UserProjectsDao.deleteProject`.
* **`Used`**, **`Seen`**, **`GroupsRemovable`** — a session or a stack uses the project; one on a first page does;
  the members of its groups are users.
* **`projectDeleted_iff`** — when exactly the projects that nothing uses are deleted. -/

namespace ContainRes.Projects

open Accounts Effects Store Text
open VirtualDesktop VirtualDesktop.SessionPermissions
open VirtualDesktop.SoftwareStacks

/-- The database of the cluster manager, and the tables of the virtual desktop controller. -/
structure ProjectsWorld where
  db : Db
  sessions : Paged StoredSession
  softwareStacks : Paged SoftwareStackDict

/-- The id of a project, a `uuid`. -/
structure ProjectId where
  text : String
  plain : Plain text
  ne_all : text ≠ "$all"

/-- What the two listings read of the rows. -/
structure ListingTexts where
  rows : RowTexts
  decode : String → Except Exc (Option String)
  /-- The other attributes of the stacks. -/
  stackOthers : SoftwareStackDict → String → Option AttributeValue

/-! ## What uses a project -/

section Listings

variable (texts : ListingTexts)

/-- The filter of `list_all_for_user` for the name in the token of the caller; the token of a service has
none. -/
def ownerFilterOf (username : Option String) : SocaFilter :=
  { key := some "owner", value := username.map .S }

def listSessionsByProjectId (sessions : Paged StoredSession) (projectId : Option String) :
    Except Exc (List StoredSession) := do
  let listing ← scanSessions texts.rows texts.decode sessions { filters := some [ownerFilterOf none] }
  return listing.filter fun row => getAsString row.project.projectId = projectId

def listSoftwareStacksByProjectId (softwareStacks : Paged SoftwareStackDict) (projectId : Option String) :
    Except Exc (List SoftwareStackDict) :=
  if isEmptyOpt projectId then .error (.soca .invalidParams "missing project_id")
  else scanDbRecords texts.decode softwareStacks (SoftwareStackDict.item texts.stackOthers)
    { filters := some [{ key := some "projects", value := projectId.map .S }] }

/-- A session row of the project. -/
def ofProject (p : ProjectId) (row : StoredSession) : Bool := getAsString row.project.projectId = some p.text

/-- A stack row that lists the project. -/
def listsProject (p : ProjectId) (row : SoftwareStackDict) : Bool := row.projects.contains (some p.text)

theorem listSessionsByProjectId_eq (sessions : Paged StoredSession) (p : ProjectId) :
    listSessionsByProjectId texts sessions (some p.text) = .ok (sessions.first.filter (ofProject p)) := by
  have hall : (ownerFilterOf none).value ≠ some (.S "$all") := by simp [ownerFilterOf]
  have hholds : (fun row : StoredSession =>
      (addFilter [] (ownerFilterOf none)).holds (row.item texts.rows)) = fun _ => true := by
    funext row
    simp [addFilter, putCondition, ownerFilterOf]
  rw [listSessionsByProjectId, scanSessions, scanDbRecords_single texts.decode sessions _ "owner" rfl hall,
    hholds, List.filter_true]
  rfl

theorem listSoftwareStacksByProjectId_eq (softwareStacks : Paged SoftwareStackDict) (p : ProjectId) :
    listSoftwareStacksByProjectId texts softwareStacks (some p.text) =
      .ok (softwareStacks.first.filter (listsProject p)) := by
  have hall : (some p.text).map AttributeValue.S ≠ some (.S "$all") := by simp [p.ne_all]
  rw [listSoftwareStacksByProjectId, if_neg (by simp [p.plain.isEmptyOpt]),
    scanDbRecords_single texts.decode softwareStacks _ "projects" rfl hall]
  congr 1
  refine List.filter_congr fun row _ => ?_
  rw [Bool.eq_iff_iff]
  simp [addFilter, putCondition, SoftwareStackDict.item, listsProject, Condition.holds, AttributeValue.includes]

end Listings

/-! ## The method -/

structure DeleteProjectRequest where
  projectName : Option String := none
  projectId : Option String := none
  deriving DecidableEq, Repr

def generalException (message : String) : Exc := .soca .generalError message

/-- A list of ids as it is printed. -/
def listText (ids : List (Option String)) : String :=
  "[" ++ ", ".intercalate (ids.map fun id => (id.map fun text => "'" ++ text ++ "'").getD "None") ++ "]"

/-- The answer of another service, which is an exception when it fails. -/
def checkUnused {α : Type} (listing : Except Exc (List α)) (message : List α → String) : DbProc PUnit := do
  let uses ← Proc.liftExcept listing
  Proc.when (uses ≠ []) (Proc.raise (generalException (message uses)))

variable (paginator : Paginator (String × String)) (texts : ListingTexts)

/-- The groups mapped to a project, on the page of the table that one scan reads. -/
def mappedGroups (db : Db) (projectId : String) : List String :=
  ((paginator.first db.projectGroups.items.keys).filter fun key => key.2 = projectId).map Prod.fst

/-- `UserProjectsDAO.delete_project(project_id)`. -/
def deleteUserProjects (projectId : String) : DbProc PUnit := do
  requireNotEmpty projectId "project_id is required"
  let groups ← Proc.gets fun db => mappedGroups paginator db projectId
  Proc.forEach (fun groupName => UserProjectsDao.ldapGroupRemoved projectId groupName) groups

/-- `ProjectsDAO.delete_project(project_id)`. -/
def deleteProjectRow (projectId : String) : DbProc PUnit := do
  requireNotEmpty projectId "project_id is required"
  Proc.modify fun db => { db with projects := db.projects.deleteItem projectId }

/-- The project of a request: by its id if there is one, and else by its name. -/
def findProject (request : DeleteProjectRequest) : DbProc (Option (String × ProjectRow)) :=
  match request.projectId with
  | some projectId =>
    if projectId = "" then getProjectByName (request.projectName.getD "")
    else do
      let row ← ProjectsDao.getProjectById projectId
      return row.map fun row => (projectId, row)
  | none => getProjectByName (request.projectName.getD "")

/-- `delete_project`, for the id of the project that was found. -/
def deleteFound (w : ProjectsWorld) (projectId : Option String) : DbProc PUnit := do
  checkUnused (listSessionsByProjectId texts w.sessions projectId) fun uses =>
    "project is still used by virtual desktop sessions. Project ID: " ++ projectId.getD "None" ++
      ", Session IDs: " ++ listText (uses.map fun row => row.dcvSessionId)
  checkUnused (listSoftwareStacksByProjectId texts w.softwareStacks projectId) fun uses =>
    "project is still used by software stacks. Project ID: " ++ projectId.getD "None" ++
      ", Stack IDs: " ++ listText (uses.map fun row => row.stackId)
  deleteUserProjects paginator (projectId.getD "")
  deleteProjectRow (projectId.getD "")

/-- `ProjectsService.delete_project`, on the database, with the tables of the other service as they are. -/
def deleteProject (w : ProjectsWorld) (request : Option DeleteProjectRequest) : DbProc PUnit :=
  match request with
  | none => Proc.raise (.invalidParams "request is required")
  | some request =>
    if isEmptyOpt request.projectId && isEmptyOpt request.projectName then
      Proc.raise (.invalidParams "either project id or project name is required")
    else do
      let project ← findProject request
      match project with
      | none => pure ⟨⟩
      | some project => deleteFound paginator texts w (getAsString (some project.1))

/-! ## When the mappings can be removed -/

/-- The tables that removing mappings does not write. -/
def MembersFrame (db s : Db) : Prop :=
  s.projects = db.projects ∧ s.users = db.users ∧ s.groupMembers = db.groupMembers

/-- The user of a membership is there. -/
def IsUser (db : Db) (username : String) : Prop :=
  isEmpty username = false ∧ db.users.Has (sanitized username)

/-- The groups mapped to the project have names, and their members are users. -/
def GroupsRemovable (db : Db) (projectId : String) : Prop :=
  ∀ g ∈ mappedGroups paginator db projectId,
    isEmpty g = false ∧ ∀ username, db.IsMember g username → IsUser db username

/-- The first group that would be removed has no name. -/
def Blocked (db : Db) (projectId : String) : Prop :=
  ∃ g ∈ (mappedGroups paginator db projectId).head?, isEmpty g = true

variable {paginator texts} {db s : Db} {projectId g : String} {project : ProjectRow}

theorem run_deleteUserProject (hp : isEmpty projectId = false)
    (hproject : s.projects.getItem projectId = some project) (username : String) (byLdaps : List String) :
    (UserProjectsDao.deleteUserProject projectId username byLdaps).run s =
      if isEmpty username then (.error (.invalidParams "username is required"), s)
      else
        match s.users.getItem (sanitized username) with
        | none => (.error (.soca .authUserNotFound s!"user: {username} not found."), s)
        | some _ => (.ok ⟨⟩, s.revoke projectId username byLdaps) := by
  unfold UserProjectsDao.deleteUserProject ProjectsDao.getProjectById
  rcases hu : isEmpty username with _ | _
  · rcases hget : s.users.getItem (sanitized username) with _ | user <;>
      simp [Proc.run_bind, UserDao.run_getUser, hp, hu, hproject, hget]
  · simp [Proc.run_bind, hp, hu]

theorem MembersFrame.revoke (h : MembersFrame db s) (username : String) (byLdaps : List String) :
    MembersFrame db (s.revoke projectId username byLdaps) := by
  rw [revoke_frame]
  exact h

/-- A source is taken from a user who is there. -/
theorem okIff_deleteUserProject (hp : isEmpty projectId = false)
    (hproject : db.projects.getItem projectId = some project) (username : String) (byLdaps : List String) :
    OkIff (MembersFrame db) (UserProjectsDao.deleteUserProject projectId username byLdaps) (IsUser db username) := by
  have hrun : ∀ s, MembersFrame db s →
      MembersFrame db ((UserProjectsDao.deleteUserProject projectId username byLdaps).run s).2 ∧
        ((∃ a t, (UserProjectsDao.deleteUserProject projectId username byLdaps).run s = (.ok a, t)) ↔
          IsUser db username) := by
    intro s hs
    rw [run_deleteUserProject hp (hs.1 ▸ hproject), IsUser, Table.Has, hs.2.1]
    rcases hu : isEmpty username with _ | _
    · rcases hget : db.users.getItem (sanitized username) with _ | user
      · simpa using hs
      · simpa using hs.revoke username byLdaps
    · simpa using hs
  exact ⟨Keeps.of_state fun s hs => (hrun s hs).1, fun s hs => (hrun s hs).2⟩

variable {I : Db → Prop}

theorem okIff_requireNotEmpty (value message : String) :
    OkIff I (requireNotEmpty value message) (isEmpty value = false) := by
  unfold requireNotEmpty
  rcases h : isEmpty value with _ | _
  · exact (OkIff.pure _).congr (by simp)
  · exact (OkIff.raise _).congr (by simp)

/-- A group is removed when it has a name and its members are there. -/
theorem okIff_ldapGroupRemoved (hp : isEmpty projectId = false)
    (hproject : db.projects.getItem projectId = some project) (g : String) :
    OkIff (MembersFrame db) (UserProjectsDao.ldapGroupRemoved projectId g)
      (isEmpty g = false ∧ ∀ username, db.IsMember g username → IsUser db username) := by
  unfold UserProjectsDao.ldapGroupRemoved GroupMembersDao.getUsernamesInGroup
  have hloop : ∀ s, MembersFrame db s → OkIff (MembersFrame db)
      (Proc.forEach (fun username => UserProjectsDao.deleteUserProject projectId username [g])
        (GroupMembersDao.usernames s g))
      (∀ username, db.IsMember g username → IsUser db username) := by
    intro s hs
    refine (OkIff.forEach fun username _ => okIff_deleteUserProject hp hproject username [g]).congr ?_
    simp only [GroupMembersDao.mem_usernames, Db.IsMember, hs.2.2]
  rw [Proc.bind_assoc]
  have hafter : OkIff (MembersFrame db)
      (requireNotEmpty g "group_name is required" >>= fun _ =>
        Proc.gets (fun db => GroupMembersDao.usernames db g) >>= fun usernames =>
          Proc.forEach (fun username => UserProjectsDao.deleteUserProject projectId username [g]) usernames)
      (isEmpty g = false ∧ ∀ username, db.IsMember g username → IsUser db username) :=
    (okIff_requireNotEmpty _ _).bind fun _ _ => OkIff.gets_bind hloop
  have hmodify : OkIff (MembersFrame db) (Proc.modify fun s : Db =>
      { s with projectGroups := s.projectGroups.deleteItem (g, projectId) } : DbProc PUnit) True :=
    OkIff.modify fun s hs => ⟨hs.1, hs.2.1, hs.2.2⟩
  refine ((okIff_requireNotEmpty _ _).bind fun _ _ => (okIff_requireNotEmpty _ _).bind fun _ _ =>
    hmodify.bind fun _ _ => hafter).congr ?_
  simp only [hp, true_and, ← and_assoc, and_self]

variable (paginator) in
/-- The mappings of the groups are removed when they can be. -/
theorem okIff_deleteUserProjects (hp : isEmpty projectId = false)
    (hproject : db.projects.getItem projectId = some project) :
    MembersFrame db ((deleteUserProjects paginator projectId).run db).2 ∧
      ((∃ t, (deleteUserProjects paginator projectId).run db = (.ok ⟨⟩, t)) ↔
        GroupsRemovable paginator db projectId) := by
  have hloop : OkIff (MembersFrame db)
      (Proc.forEach (fun g => UserProjectsDao.ldapGroupRemoved projectId g)
        (mappedGroups paginator db projectId)) (GroupsRemovable paginator db projectId) :=
    OkIff.forEach fun g _ => okIff_ldapGroupRemoved hp hproject g
  have hrun : (deleteUserProjects paginator projectId).run db =
      (Proc.forEach (fun g => UserProjectsDao.ldapGroupRemoved projectId g)
        (mappedGroups paginator db projectId)).run db := by
    rw [deleteUserProjects, Proc.run_bind_of_ok (run_requireNotEmpty_of_not_isEmpty hp _ db)]
    rfl
  rw [hrun]
  refine ⟨hloop.1.run ⟨rfl, rfl, rfl⟩, ?_⟩
  rw [← hloop.2 db ⟨rfl, rfl, rfl⟩]
  exact ⟨fun ⟨t, h⟩ => ⟨⟨⟩, t, h⟩, fun ⟨_, t, h⟩ => ⟨t, h⟩⟩

/-! ## A group that was reached is no longer mapped -/

theorem reads_getProjectById (projectId : String) : Reads (ProjectsDao.getProjectById projectId) :=
  Reads.bind (reads_requireNotEmpty _ _) fun _ => Reads.gets _

/-- The provenance of a user is taken away in one step. -/
theorem keeps_revokeSources {projectId username : String} {byLdaps : List String}
    (hrevoke : ∀ s, I s → I (s.revoke projectId username byLdaps)) :
    Keeps I (UserProjectsDao.deleteUserProject projectId username byLdaps) := by
  unfold UserProjectsDao.deleteUserProject
  refine Keeps.bind (Keeps.of_reads (reads_requireNotEmpty _ _)) fun _ =>
    Keeps.bind (Keeps.of_reads (reads_requireNotEmpty _ _)) fun _ =>
      Keeps.bind (Keeps.of_reads (reads_getProjectById _)) ?_
  rintro (_ | row)
  · exact Keeps.raise _
  · refine Keeps.bind (Keeps.of_reads (reads_getUser _)) ?_
    rintro (_ | user)
    · exact Keeps.raise _
    · exact Keeps.modify hrevoke

/-- The provenance of a user is taken away by a change of user-projects only. -/
theorem keeps_deleteUserProject
    (hrows : ∀ s rows, I s → I { s with userProjects := rows }) (projectId username : String)
    (byLdaps : List String) : Keeps I (UserProjectsDao.deleteUserProject projectId username byLdaps) := by
  refine keeps_revokeSources fun s hs => ?_
  rw [revoke_frame]
  exact hrows s _ hs

/-- A mapping is removed by changes of project-groups and user-projects only. -/
theorem keeps_ldapGroupRemoved
    (hrows : ∀ s rows, I s → I { s with userProjects := rows })
    (hmappings : ∀ s g p, I s → I { s with projectGroups := s.projectGroups.deleteItem (g, p) })
    (projectId groupName : String) : Keeps I (UserProjectsDao.ldapGroupRemoved projectId groupName) := by
  unfold UserProjectsDao.ldapGroupRemoved GroupMembersDao.getUsernamesInGroup
  refine Keeps.bind (Keeps.of_reads (reads_requireNotEmpty _ _)) fun _ =>
    Keeps.bind (Keeps.of_reads (reads_requireNotEmpty _ _)) fun _ => Keeps.bind ?_ fun _ =>
      Keeps.bind (Keeps.bind (Keeps.of_reads (reads_requireNotEmpty _ _)) fun _ => Keeps.gets _)
        fun usernames => Keeps.forEach fun username _ =>
          keeps_deleteUserProject hrows projectId username [groupName]
  exact Keeps.modify fun s hs => hmappings s groupName projectId hs

theorem keeps_unmapped_deleteUserProject (projectId g p username : String) (byLdaps : List String) :
    Keeps (fun s : Db => ¬ s.IsMapped g p) (UserProjectsDao.deleteUserProject projectId username byLdaps) :=
  keeps_deleteUserProject (fun _ _ hs => hs) projectId username byLdaps

theorem keeps_unmapped_ldapGroupRemoved (projectId g p : String) (groupName : String) :
    Keeps (fun s : Db => ¬ s.IsMapped g p) (UserProjectsDao.ldapGroupRemoved projectId groupName) :=
  keeps_ldapGroupRemoved (fun _ _ hs => hs)
    (fun _ _ _ hs hmapped => hs (Table.has_deleteItem.mp hmapped).2) projectId groupName

/-- The mapping is removed before anything can raise. -/
theorem unmapped_ldapGroupRemoved (hp : isEmpty projectId = false) (hg : isEmpty g = false) (s : Db) :
    ¬ ((UserProjectsDao.ldapGroupRemoved projectId g).run s).2.IsMapped g projectId := by
  let removed : Db := { s with projectGroups := s.projectGroups.deleteItem (g, projectId) }
  have hremoved : ¬ removed.IsMapped g projectId := fun h => (Table.has_deleteItem.mp h).1 rfl
  have hloop : Keeps (fun s : Db => ¬ s.IsMapped g projectId)
      (Proc.forEach (fun username => UserProjectsDao.deleteUserProject projectId username [g])
        (GroupMembersDao.usernames removed g)) :=
    Keeps.forEach fun username _ => keeps_unmapped_deleteUserProject projectId g projectId username [g]
  have hrun : (UserProjectsDao.ldapGroupRemoved projectId g).run s =
      (Proc.forEach (fun username => UserProjectsDao.deleteUserProject projectId username [g])
        (GroupMembersDao.usernames removed g)).run removed := by
    unfold UserProjectsDao.ldapGroupRemoved
    rw [Proc.run_bind_of_ok (run_requireNotEmpty_of_not_isEmpty hp _ s),
      Proc.run_bind_of_ok (run_requireNotEmpty_of_not_isEmpty hg _ s), Proc.run_bind_of_ok (Proc.run_modify _ s),
      Proc.run_bind_of_ok (GroupMembersDao.run_getUsernamesInGroup hg removed)]
  rw [hrun]
  exact hloop.run hremoved

variable (paginator) in
theorem mem_mappedGroups (hg : g ∈ mappedGroups paginator db projectId) : db.IsMapped g projectId := by
  obtain ⟨key, hkey, rfl⟩ := List.mem_map.mp hg
  obtain ⟨hfirst, hproject⟩ := List.mem_filter.mp hkey
  have hhas := Table.mem_keys_iff_has.mp (paginator.mem_of_mem_first hfirst)
  rw [← of_decide_eq_true hproject]
  exact hhas

theorem run_deleteUserProjects_cons (hp : isEmpty projectId = false) {rest : List String}
    (hgroups : mappedGroups paginator db projectId = g :: rest) : (deleteUserProjects paginator projectId).run db =
      (UserProjectsDao.ldapGroupRemoved projectId g >>= fun _ =>
        Proc.forEach (fun g => UserProjectsDao.ldapGroupRemoved projectId g) rest).run db := by
  rw [deleteUserProjects, Proc.run_bind_of_ok (run_requireNotEmpty_of_not_isEmpty hp _ db),
    Proc.run_bind_of_ok (Proc.run_gets _ db), hgroups]
  rfl

/-- A first group without a name raises before anything is written. -/
theorem run_deleteUserProjects_of_blocked (hp : isEmpty projectId = false) (h : Blocked paginator db projectId) :
    ∃ e, (deleteUserProjects paginator projectId).run db = (.error e, db) := by
  obtain ⟨g, hhead, hg⟩ := h
  obtain ⟨rest, hgroups⟩ := List.head?_eq_some_iff.mp hhead
  rw [run_deleteUserProjects_cons hp hgroups]
  unfold UserProjectsDao.ldapGroupRemoved
  rw [Proc.bind_assoc, Proc.run_bind_of_ok (run_requireNotEmpty_of_not_isEmpty hp _ db), Proc.bind_assoc]
  exact ⟨_, Proc.run_bind_of_error (run_requireNotEmpty_of_isEmpty hg _ db)⟩

theorem not_blocked_of_removable (h : GroupsRemovable paginator db projectId) : ¬ Blocked paginator db projectId := by
  rintro ⟨g, hhead, hg⟩
  have hnamed := (h g (List.mem_of_mem_head? hhead)).1
  rw [hg] at hnamed
  cases hnamed

/-- Where the mappings cannot all be removed, one has been removed already, unless the first is blocked. -/
theorem changed_of_not_removable (hp : isEmpty projectId = false)
    (hblocked : ¬ Blocked paginator db projectId) (h : ¬ GroupsRemovable paginator db projectId) :
    ((deleteUserProjects paginator projectId).run db).2 ≠ db := by
  cases hgroups : mappedGroups paginator db projectId with
  | nil =>
    refine absurd (fun g hg => ?_) h
    rw [hgroups] at hg
    exact absurd hg List.not_mem_nil
  | cons g rest =>
    have hmapped : db.IsMapped g projectId := mem_mappedGroups paginator (by rw [hgroups]; exact List.mem_cons_self)
    have hnamed : isEmpty g = false := by
      rw [← Bool.not_eq_true]
      exact fun hempty => hblocked ⟨g, by rw [hgroups]; rfl, hempty⟩
    have hunmapped : ¬ ((deleteUserProjects paginator projectId).run db).2.IsMapped g projectId := by
      have hfirst := unmapped_ldapGroupRemoved hp hnamed db
      have hrest : Keeps (fun s : Db => ¬ s.IsMapped g projectId)
          (Proc.forEach (fun g => UserProjectsDao.ldapGroupRemoved projectId g) rest) :=
        Keeps.forEach fun groupName _ => keeps_unmapped_ldapGroupRemoved projectId g projectId groupName
      rw [run_deleteUserProjects_cons hp hgroups, Proc.run_bind]
      rcases hresult : (UserProjectsDao.ldapGroupRemoved projectId g).run db with ⟨e | u, t⟩
      · rw [hresult] at hfirst
        exact hfirst
      · rw [hresult] at hfirst
        exact hrest.run hfirst
    intro hsame
    rw [hsame] at hunmapped
    exact hunmapped hmapped

/-! ## The project that is found -/

/-- A project found by its name has a row. -/
theorem getItem_of_getProjectByName {name : String} {p : String}
    (h : (getProjectByName name).run db = (.ok (some (p, project)), db)) :
    isEmpty name = false ∧ db.projects.getItem p = some project := by
  rcases hname : isEmpty name with _ | _
  · rw [getProjectByName, Proc.run_bind_of_ok (run_requireNotEmpty_of_not_isEmpty hname _ db), Proc.run_gets] at h
    have hfind := Except.ok.inj (Prod.mk.inj h).1
    exact ⟨rfl, Table.mem_scan.mp (List.mem_of_find?_eq_some hfind)⟩
  · rw [getProjectByName, Proc.run_bind_of_error (run_requireNotEmpty_of_isEmpty hname _ db)] at h
    cases (Prod.mk.inj h).1

/-- The request names something, and the project found has a row. -/
theorem getItem_of_findProject {request : DeleteProjectRequest} {p : String}
    (h : (findProject request).run db = (.ok (some (p, project)), db)) :
    (isEmptyOpt request.projectId && isEmptyOpt request.projectName) = false ∧
      db.projects.getItem p = some project := by
  have hbyName : (getProjectByName (request.projectName.getD "")).run db =
      (.ok (some (p, project)), db) → isEmptyOpt request.projectName = false ∧
        db.projects.getItem p = some project := by
    intro hname
    obtain ⟨hne, hitem⟩ := getItem_of_getProjectByName hname
    refine ⟨?_, hitem⟩
    cases hn : request.projectName with
    | none =>
      rw [hn] at hne
      exact absurd hne (by decide)
    | some name =>
      rw [hn] at hne
      exact hne
  unfold findProject at h
  cases hid : request.projectId with
  | none =>
    rw [hid] at h
    obtain ⟨hne, hitem⟩ := hbyName h
    exact ⟨by rw [hne, Bool.and_false], hitem⟩
  | some id =>
    simp only [hid] at h
    by_cases hblank : id = ""
    · rw [if_pos hblank] at h
      obtain ⟨hne, hitem⟩ := hbyName h
      exact ⟨by rw [hne, Bool.and_false], hitem⟩
    · rw [if_neg hblank, ProjectsDao.getProjectById, Proc.bind_assoc] at h
      rcases hne : isEmpty id with _ | _
      · rw [Proc.run_bind_of_ok (run_requireNotEmpty_of_not_isEmpty hne _ db),
          Proc.run_bind_of_ok (Proc.run_gets _ db)] at h
        have hmap := Except.ok.inj (Prod.mk.inj h).1
        obtain ⟨row, hrow, hpair⟩ := Option.map_eq_some_iff.mp hmap
        obtain ⟨rfl, rfl⟩ := Prod.mk.inj hpair
        exact ⟨by simp [isEmptyOpt, hne], hrow⟩
      · rw [Proc.run_bind_of_error (run_requireNotEmpty_of_isEmpty hne _ db)] at h
        cases (Prod.mk.inj h).1

/-- The search for the project only reads. -/
theorem reads_findProject (request : DeleteProjectRequest) : Reads (findProject request) := by
  have hbyName : ∀ name, Reads (getProjectByName name) := fun name =>
    Reads.bind (reads_requireNotEmpty _ _) fun _ => Reads.gets _
  unfold findProject
  cases request.projectId with
  | none => exact hbyName _
  | some id =>
    exact Reads.ite (fun _ => hbyName _) fun _ =>
      Reads.bind (reads_getProjectById id) fun _ => Reads.pure _

theorem reads_checkUnused {α : Type} (listing : Except Exc (List α)) (message : List α → String) :
    Reads (checkUnused listing message) :=
  Reads.bind (Reads.liftExcept _) fun _ => Reads.whenRaise _

variable (paginator) in
/-- The rows of the projects stay as they are while the mappings are removed. -/
theorem keeps_projects_deleteUserProjects (projects : Table String ProjectRow) (projectId : String) :
    Keeps (fun s : Db => s.projects = projects) (deleteUserProjects paginator projectId) :=
  Keeps.bind (Keeps.of_reads (reads_requireNotEmpty _ _)) fun _ => Keeps.bind (Keeps.gets _)
    fun _ => Keeps.forEach fun g _ =>
      keeps_ldapGroupRemoved (fun _ _ hs => hs) (fun _ _ _ hs => hs) projectId g

theorem triple_deleteProjectRow (projects : Table String ProjectRow) (projectId : String) :
    Triple (fun s : Db => s.projects = projects) (deleteProjectRow projectId)
      (fun _ s => isEmpty projectId = false ∧ s.projects = projects.deleteItem projectId)
      fun _ s => s.projects = projects := by
  intro s hs
  unfold deleteProjectRow
  rcases hblank : isEmpty projectId with _ | _
  · rw [Proc.run_bind_of_ok (run_requireNotEmpty_of_not_isEmpty hblank _ s), Proc.run_modify]
    exact ⟨rfl, congrArg (Table.deleteItem · projectId) hs⟩
  · rw [Proc.run_bind_of_error (run_requireNotEmpty_of_isEmpty hblank _ s)]
    exact hs

variable (paginator texts) in
/-- The row is deleted last. -/
theorem triple_deleteFound (w : ProjectsWorld) (projectId : Option String) (projects : Table String ProjectRow) :
    Triple (fun s : Db => s.projects = projects) (deleteFound paginator texts w projectId)
      (fun _ s => ∃ q, projectId = some q ∧ s.projects = projects.deleteItem q) fun _ s => s.projects = projects := by
  unfold deleteFound
  refine Triple.bind_reads (reads_checkUnused _ _) (fun _ _ hs => hs) fun _ =>
    Triple.bind_reads (reads_checkUnused _ _) (fun _ _ hs => hs) fun _ =>
      Triple.bind (keeps_projects_deleteUserProjects paginator projects _) fun _ => ?_
  refine (triple_deleteProjectRow projects (projectId.getD "")).conseq (fun _ hs => hs) ?_ fun _ _ hs => hs
  rintro ⟨⟩ s ⟨hblank, hs⟩
  cases projectId with
  | none => exact absurd hblank (by decide)
  | some q => exact ⟨q, rfl, hs⟩

/-- **The rows after a call.** A call deletes the row of the project that it finds, or none. -/
theorem projects_deleteProject {w : ProjectsWorld} {request : Option DeleteProjectRequest} {r : Except Exc PUnit}
    {db' : Db} (hrun : (deleteProject paginator texts w request).run db = (r, db')) :
    db'.projects = db.projects ∨ ∃ request' p row q, request = some request' ∧
      (findProject request').run db = (.ok (some (p, row)), db) ∧ getAsString (some p) = some q ∧
        db'.projects = db.projects.deleteItem q := by
  have hstate : db' = ((deleteProject paginator texts w request).run db).2 := by rw [hrun]
  cases request with
  | none => exact .inl (by rw [hstate]; rfl)
  | some request =>
    unfold deleteProject at hstate
    dsimp only at hstate
    split at hstate
    · exact .inl (by rw [hstate]; rfl)
    · rcases hfind : (findProject request).run db with ⟨e | found, s⟩
      · obtain rfl := (reads_findProject request).eq_of_run hfind
        rw [Proc.run_bind_of_error hfind] at hstate
        exact .inl (by rw [hstate])
      · have hs : s = db := (reads_findProject request).eq_of_run hfind
        rw [hs] at hfind
        rw [Proc.run_bind_of_ok hfind] at hstate
        cases found with
        | none => exact .inl (by rw [hstate]; rfl)
        | some item =>
          obtain ⟨p, row⟩ := item
          have hdelete := triple_deleteFound paginator texts w (getAsString (some p)) db.projects
          rcases hfound : (deleteFound paginator texts w (getAsString (some p))).run db with ⟨e | u, t⟩
          · have ht := hdelete.of_error rfl hfound
            refine .inl ?_
            rw [hstate]
            exact (congrArg (fun result => result.2.projects) hfound).trans ht
          · obtain ⟨q, hq, ht⟩ := hdelete.of_ok rfl hfound
            refine .inr ⟨request, p, row, q, rfl, hfind, hq, ?_⟩
            rw [hstate]
            exact (congrArg (fun result => result.2.projects) hfound).trans ht

/-! ## Only projects that nothing uses -/

/-- A session is of the project, or a stack lists it. -/
def Used (w : ProjectsWorld) (p : ProjectId) : Prop :=
  (∃ row ∈ w.sessions.rows, ofProject p row = true) ∨
    ∃ row ∈ w.softwareStacks.rows, listsProject p row = true

/-- A session or a stack on the first page of its table uses the project. -/
def Seen (w : ProjectsWorld) (p : ProjectId) : Prop :=
  (∃ row ∈ w.sessions.first, ofProject p row = true) ∨
    ∃ row ∈ w.softwareStacks.first, listsProject p row = true

theorem used_of_seen {w : ProjectsWorld} {p : ProjectId} (h : Seen w p) : Used w p := by
  rcases h with ⟨row, hrow, huses⟩ | ⟨row, hrow, huses⟩
  · exact .inl ⟨row, by rw [Paged.rows_eq]; exact List.mem_append_left _ hrow, huses⟩
  · exact .inr ⟨row, by rw [Paged.rows_eq]; exact List.mem_append_left _ hrow, huses⟩

variable {w : ProjectsWorld} {request : DeleteProjectRequest} {p : ProjectId}

theorem run_checkUnused {α : Type} (l : List α) (message : List α → String) (db : Db) :
    (checkUnused (.ok l) message).run db =
      if l = [] then (.ok ⟨⟩, db) else (.error (generalException (message l)), db) := by
  unfold checkUnused
  rw [Proc.run_bind, Proc.run_liftExcept]
  by_cases h : l = []
  · simp [h, Proc.run_when]
  · simp [h, Proc.run_when]

theorem filter_eq_nil_iff_not {α : Type} {l : List α} {p : α → Bool} : l.filter p = [] ↔ ¬ ∃ a ∈ l, p a = true := by
  rw [List.filter_eq_nil_iff]
  exact ⟨fun h ⟨a, ha, hp⟩ => h a ha hp, fun h a ha hp => h ⟨a, ha, hp⟩⟩

variable (paginator texts) in
/-- A use that is seen makes the method raise before it writes. -/
theorem run_deleteFound_of_seen (h : Seen w p) :
    ∃ e, (deleteFound paginator texts w (some p.text)).run w.db = (.error e, w.db) := by
  unfold deleteFound
  rw [listSessionsByProjectId_eq, listSoftwareStacksByProjectId_eq]
  by_cases hsessions : ∃ row ∈ w.sessions.first, ofProject p row = true
  · have hne : w.sessions.first.filter (ofProject p) ≠ [] :=
      fun hnil => filter_eq_nil_iff_not.mp hnil hsessions
    have hraise := run_checkUnused (w.sessions.first.filter (ofProject p))
      (fun uses => "project is still used by virtual desktop sessions. Project ID: " ++
        (some p.text).getD "None" ++ ", Session IDs: " ++ listText (uses.map fun row => row.dcvSessionId)) w.db
    rw [if_neg hne] at hraise
    exact ⟨_, Proc.run_bind_of_error hraise⟩
  · have hstacks := h.resolve_left hsessions
    have hnil : w.sessions.first.filter (ofProject p) = [] := filter_eq_nil_iff_not.mpr hsessions
    have hne : w.softwareStacks.first.filter (listsProject p) ≠ [] :=
      fun hnil => filter_eq_nil_iff_not.mp hnil hstacks
    have hpass := run_checkUnused (w.sessions.first.filter (ofProject p))
      (fun uses => "project is still used by virtual desktop sessions. Project ID: " ++
        (some p.text).getD "None" ++ ", Session IDs: " ++ listText (uses.map fun row => row.dcvSessionId)) w.db
    have hraise := run_checkUnused (w.softwareStacks.first.filter (listsProject p))
      (fun uses => "project is still used by software stacks. Project ID: " ++
        (some p.text).getD "None" ++ ", Stack IDs: " ++ listText (uses.map fun row => row.stackId)) w.db
    rw [if_pos hnil] at hpass
    rw [if_neg hne] at hraise
    exact ⟨_, (Proc.run_bind_of_ok hpass).trans (Proc.run_bind_of_error hraise)⟩

/-- Without one, the mappings are removed and then the project is. -/
theorem run_deleteFound_of_not_seen (h : ¬ Seen w p) : (deleteFound paginator texts w (some p.text)).run w.db =
      (deleteUserProjects paginator p.text >>= fun _ => deleteProjectRow p.text).run w.db := by
  obtain ⟨hsessions, hstacks⟩ := not_or.mp h
  unfold deleteFound
  rw [listSessionsByProjectId_eq, listSoftwareStacksByProjectId_eq, filter_eq_nil_iff_not.mpr hsessions,
    filter_eq_nil_iff_not.mpr hstacks]
  rw [Proc.run_bind_of_ok (run_checkUnused [] _ w.db), Proc.run_bind_of_ok (run_checkUnused [] _ w.db)]
  rfl

/-- A request that names an existing project comes to the steps for that project. -/
theorem run_deleteProject_of_find (hfind : (findProject request).run w.db = (.ok (some (p.text, project)), w.db)) :
    (deleteProject paginator texts w (some request)).run w.db =
      (deleteFound paginator texts w (some p.text)).run w.db := by
  have hnames := (getItem_of_findProject hfind).1
  simp only [deleteProject, hnames, Bool.false_eq_true, if_false]
  rw [Proc.run_bind_of_ok hfind]
  show (deleteFound paginator texts w (getAsString (some p.text))).run w.db = _
  rw [p.plain.getAsString]

theorem run_deleteProjectRow (p : ProjectId) (db : Db) :
    (deleteProjectRow p.text).run db = (.ok ⟨⟩, { db with projects := db.projects.deleteItem p.text }) := by
  rw [deleteProjectRow, Proc.run_bind_of_ok (run_requireNotEmpty_of_not_isEmpty p.plain.isEmpty _ db)]
  rfl

variable (paginator texts w request p)

/-- What is asked of a request for a project: one that is used stays with its mappings and the request
fails, and another is deleted. -/
def DeletedIffUnused : Prop :=
  (Used w p → (∃ e, ((deleteProject paginator texts w (some request)).run w.db).1 = .error e) ∧
    ((deleteProject paginator texts w (some request)).run w.db).2 = w.db) ∧
  (¬ Used w p → ((deleteProject paginator texts w (some request)).run w.db).1 = .ok ⟨⟩ ∧
    ((deleteProject paginator texts w (some request)).run w.db).2.projects = w.db.projects.deleteItem p.text)

variable {request}

/-- **When only unused projects are deleted.** For a request that names an existing project: a session or a
stack that uses it has to be on the first page of its table (or a mapping without a group has to stop the
deletion), and where nothing uses it, the members of its groups have to be users. -/
theorem projectDeleted_iff (hfind : (findProject request).run w.db = (.ok (some (p.text, project)), w.db)) :
    DeletedIffUnused paginator texts w request p ↔ (Used w p → Seen w p ∨ Blocked paginator w.db p.text) ∧
        (¬ Used w p → GroupsRemovable paginator w.db p.text) := by
  have hproject := (getItem_of_findProject hfind).2
  have hp : isEmpty p.text = false := p.plain.isEmpty
  obtain ⟨hframe, hok⟩ := okIff_deleteUserProjects paginator hp hproject
  unfold DeletedIffUnused
  rw [run_deleteProject_of_find hfind]
  by_cases hseen : Seen w p
  · obtain ⟨e, he⟩ := run_deleteFound_of_seen paginator texts hseen
    rw [he]
    have hused := used_of_seen hseen
    simp [hused, hseen]
  · rw [run_deleteFound_of_not_seen hseen]
    by_cases hremovable : GroupsRemovable paginator w.db p.text
    · obtain ⟨t, ht⟩ := hok.mpr hremovable
      rw [ht] at hframe
      have hdelete : (deleteUserProjects paginator p.text >>= fun _ => deleteProjectRow p.text).run w.db =
          (.ok ⟨⟩, { t with projects := t.projects.deleteItem p.text }) := by
        rw [Proc.run_bind_of_ok ht, run_deleteProjectRow]
      have hprojects : t.projects = w.db.projects := hframe.1
      have hfree := not_blocked_of_removable hremovable
      rw [hdelete]
      simp [hseen, hfree, hremovable, hprojects]
    · by_cases hblocked : Blocked paginator w.db p.text
      · obtain ⟨e, he⟩ := run_deleteUserProjects_of_blocked hp hblocked
        rw [Proc.run_bind_of_error he]
        simp [hblocked, hremovable]
      · have hchanged := changed_of_not_removable hp hblocked hremovable
        rcases hresult : (deleteUserProjects paginator p.text).run w.db with ⟨e | u, t⟩
        · rw [hresult] at hchanged
          rw [Proc.run_bind_of_error hresult]
          simp only [hseen, hblocked, hremovable, or_self]
          constructor
          · rintro ⟨hused, hunused⟩
            exact ⟨fun h => hchanged (hused h).2, fun h => by cases (hunused h).1⟩
          · rintro ⟨hused, hunused⟩
            exact ⟨fun h => (hused h).elim, fun h => (hunused h).elim⟩
        · exact absurd (hok.mp ⟨t, hresult⟩) hremovable

/-! ## A project whose session is on the second page -/

/-- The project `p1`, with a group that has no members. -/
def mappedProject : Db where
  users := ∅
  groups := ∅
  groupMembers := ∅
  projects := (∅ : Table String ProjectRow).putItem "p1" ⟨"project", some ["team"], some [], some true, none⟩
  projectGroups := (∅ : Table (String × String) Unit).putItem ("team", "p1") ()
  userProjects := ∅
  sent := []

/-- A session of `p1`. -/
def sessionOfProject : StoredSession where
  owner := "clara"
  ideaSessionId := "s1"
  dcvSessionId := some "dcv-1"
  softwareStack := windowsDict "stack"
  project := ⟨some "p1", none, none⟩
  others := fun _ => none

/-- The project, and a session that a scan reads on the page given. -/
def usedProject (pages : List (List StoredSession)) : ProjectsWorld where
  db := mappedProject
  sessions := { pages, after := fun _ => [] }
  softwareStacks := { pages := [], after := fun _ => [] }

/-- The texts of the rows, and no start key that can be read. -/
def plainTexts : ListingTexts where
  rows := RowTexts.ofEncodable
  decode _ := .ok none
  stackOthers _ _ := none

/-- The id `p1`. -/
def projectOne : ProjectId where
  text := "p1"
  plain := by decide
  ne_all := by decide

/-- A request for `p1`. -/
def deleteProjectOne : DeleteProjectRequest := { projectId := some "p1" }

/-- A session on the first page keeps its project. -/
theorem projectDeleted_firstPage :
    DeletedIffUnused (Paginator.single _) plainTexts (usedProject [[sessionOfProject]]) deleteProjectOne projectOne :=
  (projectDeleted_iff _ _ _ _ rfl).mpr
    ⟨fun _ => .inl (.inl ⟨_, List.mem_singleton_self _, by decide⟩),
      fun h => absurd (.inl ⟨_, List.mem_singleton_self _, by decide⟩) h⟩

/-- **A project in use is deleted.** Its session is on the second page of the table. -/
theorem project_used_on_second_page_deleted :
    ¬ DeletedIffUnused (Paginator.single _) plainTexts (usedProject [[], [sessionOfProject]])
      deleteProjectOne projectOne := by
  intro h
  have hused : Used (usedProject [[], [sessionOfProject]]) projectOne := .inl ⟨_, List.mem_singleton_self _, by decide⟩
  obtain ⟨e, he⟩ := (h.1 hused).1
  have hrun : ((deleteProject (Paginator.single _) plainTexts (usedProject [[], [sessionOfProject]])
      (some deleteProjectOne)).run mappedProject).1 = .ok ⟨⟩ := by rfl
  exact absurd (hrun.symm.trans he) (by simp)

end ContainRes.Projects
