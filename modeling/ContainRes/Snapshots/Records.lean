import ContainRes.Accounts.Dao
import ContainRes.VirtualDesktop.PermissionProfileDb
import ContainRes.VirtualDesktop.SoftwareStackApi

/-! # The records of a snapshot

A snapshot holds rows as the database has them. To compare one with what an environment has, the cluster
manager makes an object of it: with the converter of the service that owns the table for projects, and with
converters of its own, in `db_utils.py`, for permission profiles and software stacks.

* **`ProjectRow`**, **`Project`**, **`convertFromDb`**, **`writtenOver`** — a project as a row and as an
  object, and the attributes that `convert_to_db` writes.
* **`ProfileRow`** — a permission profile as a row, where a flag may be missing or `NULL`.
* **`convertDbDictToPermissionProfileObject`**, **`convertDbDictToSoftwareStackObject`** — the converters
  of `db_utils.py`, which take the strings as they are.
* **`Project.equal`**, **`profileEqual`** — `__eq__` of the models, where ids of projects do not count.
* **`Snapshot`** — the tables that are read. -/

namespace ContainRes.Snapshots

open Store Text
open VirtualDesktop.PermissionProfiles
open VirtualDesktop.SoftwareStacks

/-! ## Projects -/

structure Script where
  scriptLocation : String
  arguments : List String
  deriving DecidableEq, Repr

structure ScriptEvents where
  onVdiStart : List Script
  onVdiConfigured : List Script
  deriving DecidableEq, Repr

structure Scripts where
  windows : Option ScriptEvents
  linux : Option ScriptEvents
  deriving DecidableEq, Repr

/-- The scripts of an operating system in a row, by event. -/
structure ScriptEventsDict where
  onVdiStart : Option (List Script)
  onVdiConfigured : Option (List Script)
  deriving DecidableEq, Repr

/-- The scripts in a row, by operating system. -/
structure ScriptsDict where
  windows : Option ScriptEventsDict
  linux : Option ScriptEventsDict
  deriving DecidableEq, Repr

/-- A row of the projects table beside its key; an attribute may be missing. -/
structure ProjectRow where
  name : Option String := none
  title : Option String := none
  description : Option String := none
  ldapGroups : Option (List String) := none
  users : Option (List String) := none
  tags : Option (List (String × String)) := none
  enabled : Option Bool := none
  enableBudgets : Option Bool := none
  budgetName : Option String := none
  policyArns : Option (List String) := none
  securityGroups : Option (List String) := none
  scripts : Option ScriptsDict := none
  deriving DecidableEq, Repr

/-- `Project`, as it is read from a row: no list of it is missing. -/
structure Project where
  projectId : Option String
  name : Option String
  title : Option String
  description : Option String
  ldapGroups : List String
  users : List String
  tags : Option (List (String × String))
  enabled : Option Bool
  enableBudgets : Option Bool
  /-- `budget.budget_name`. -/
  budget : Option String
  policyArns : List String
  securityGroups : List String
  scripts : Scripts
  deriving DecidableEq, Repr

/-- The scripts of an operating system from a row. -/
def eventsFromDb (events : Option ScriptEventsDict) : ScriptEvents where
  onVdiStart := (events.bind (·.onVdiStart)).getD []
  onVdiConfigured := (events.bind (·.onVdiConfigured)).getD []

/-- The scripts from a row; an empty dictionary counts as missing. -/
def scriptsFromDb (scripts : Option ScriptsDict) : Scripts :=
  match scripts with
  | none => ⟨none, none⟩
  | some ⟨none, none⟩ => ⟨none, none⟩
  | some ⟨windows, linux⟩ => ⟨some (eventsFromDb windows), some (eventsFromDb linux)⟩

/-- `convert_script_events_to_dict`: an empty list is left out. -/
def eventsToDb (events : ScriptEvents) : ScriptEventsDict where
  onVdiStart := if events.onVdiStart = [] then none else some events.onVdiStart
  onVdiConfigured := if events.onVdiConfigured = [] then none else some events.onVdiConfigured

def convertFromDb (projectId : String) (row : ProjectRow) : Project where
  projectId := getAsString (some projectId)
  name := getAsString row.name
  title := getAsString row.title
  description := getAsString row.description
  ldapGroups := row.ldapGroups.getD []
  users := row.users.getD []
  tags := row.tags.bind fun tags => if tags = [] then none else some tags
  enabled := some (row.enabled.getD false)
  enableBudgets := some (row.enableBudgets.getD false)
  budget := getAsString row.budgetName
  policyArns := row.policyArns.getD []
  securityGroups := row.securityGroups.getD []
  scripts := scriptsFromDb row.scripts

/-- A row after the attributes of `convert_to_db` are written: those of a project that are not `None`, and
never `enabled`. -/
def writtenOver (project : Project) (row : ProjectRow) : ProjectRow where
  name := project.name.or row.name
  title := project.title.or row.title
  description := project.description.or row.description
  ldapGroups := some project.ldapGroups
  users := some project.users
  tags := project.tags.or row.tags
  enabled := row.enabled
  enableBudgets := project.enableBudgets.or row.enableBudgets
  budgetName := project.budget.or row.budgetName
  policyArns := some project.policyArns
  securityGroups := some project.securityGroups
  scripts := some ⟨project.scripts.windows.map eventsToDb, project.scripts.linux.map eventsToDb⟩

def convertToDb (project : Project) : ProjectRow := writtenOver project {}

/-- `Project.__eq__`. -/
def Project.equal (a b : Project) : Bool :=
  decide (a.name = b.name) && decide (a.title = b.title) && decide (a.description = b.description) &&
    decide (a.enableBudgets = b.enableBudgets) && decide (a.budget = b.budget) &&
    sameMembers a.ldapGroups b.ldapGroups && sameMembers a.users b.users &&
    sameMembers (a.tags.getD []) (b.tags.getD []) && sameMembers a.policyArns b.policyArns &&
    sameMembers a.securityGroups b.securityGroups && decide (a.scripts = b.scripts)

/-! ## Permission profiles -/

/-- A row of the permission profiles table beside its key. The title and the description are always
written and may be `NULL`. -/
structure ProfileRow where
  title : Option String
  description : Option String
  /-- The flags by the key of the permission type: missing, `NULL`, or a value. -/
  flags : String → Option (Option Bool)

/-- The row as the controller reads it: `NULL` counts as missing. -/
def ProfileRow.read (row : ProfileRow) : PermissionProfileRow where
  title := row.title
  description := row.description
  flags key := (row.flags key).join

variable (types : PermissionTypes)

/-- The row as the controller writes it: with a flag for each permission type. -/
def ProfileRow.written (row : PermissionProfileRow) : ProfileRow where
  title := row.title
  description := row.description
  flags key := if key ∈ types.types.map PermissionType.key then some (row.flags key) else none

/-- `convert_db_dict_to_permission_profile_object` of `db_utils.py`. -/
def convertDbDictToPermissionProfileObject (profileId : String) (row : ProfileRow) : PermissionProfile where
  profileId := some profileId
  title := row.title
  description := row.description
  permissions := some <| types.types.map fun permissionType =>
    { key := some permissionType.key
      name := permissionType.name
      description := permissionType.description
      enabled := (row.flags permissionType.key).getD (some false) }

/-- `VirtualDesktopPermissionProfile.__eq__`. -/
def profileEqual (a b : PermissionProfile) : Bool :=
  decide (a.profileId = b.profileId) && decide (a.title = b.title) && decide (a.description = b.description) &&
    sameMembers (a.permissions.getD []) (b.permissions.getD [])

/-! ## Software stacks -/

/-- `convert_db_dict_to_software_stack_object` of `db_utils.py`: the strings are taken as they are. -/
def convertDbDictToSoftwareStackObject (numbers : NumberText) (row : SoftwareStackDict) :
    Except Exc SoftwareStack :=
  stackOfRow numbers id row

/-! ## Shared storage -/

/-- The settings of a file system. -/
structure FileSystemEntry where
  provider : Option String
  scope : Option (List String)
  /-- Missing in the settings of a file system that is not shared with projects. -/
  projects : Option (List String)
  /-- The setting `file_system_id` of the section of a provider, where there is the section. -/
  fileSystemIds : String → Option (Option String)
  /-- The other texts, by their path. -/
  texts : String → Option String

/-- What stands under a name in the settings of the shared storage. -/
inductive StorageSetting
  | value
  | fileSystem (entry : FileSystemEntry)

/-- The settings of the shared storage. -/
abbrev SharedStorage : Type := Table String StorageSetting

/-! ## Snapshots -/

/-- The tables of a snapshot, as they are read. -/
structure Snapshot where
  users : Table String Accounts.UserRow
  permissionProfiles : Table String ProfileRow
  projects : Table String ProjectRow
  softwareStacks : Stacks
  /-- The tree of the settings, where one begins with `shared-storage`. -/
  sharedStorage : Option SharedStorage

def uniqueResourceIdGenerator (key dedupId : String) : String := key ++ "_" ++ dedupId

end ContainRes.Snapshots
