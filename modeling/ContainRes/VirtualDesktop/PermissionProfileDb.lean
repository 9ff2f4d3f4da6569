import ContainRes.VirtualDesktop.SessionPermissionDb

/-! # The permission profiles table

`VirtualDesktopPermissionProfileDB`: the profiles that the permissions of sessions refer to, one row for
a profile with a flag for each permission type. Dates are left out, and so are the events.

* **`PermissionTypes`** — the permissions that there are, from the configuration file of the service.
* **`PermissionProfile`**, **`PermissionProfileRow`** — a profile as an object and as the attributes of
  its row.
* **`get`**, **`create`**, **`update`**, **`delete`** — the operations of the table; nobody asks here
  whether a profile is referred to. -/

namespace ContainRes.VirtualDesktop.PermissionProfiles

open Effects Store Text
open SessionPermissions

/-- `VirtualDesktopPermission`. -/
structure Permission where
  key : Option String
  name : Option String
  description : Option String
  enabled : Option Bool
  deriving DecidableEq, Repr

/-- An entry of the configuration file of permissions. -/
structure PermissionType where
  key : String
  name : Option String
  description : Option String
  deriving DecidableEq, Repr

/-- `permission_types`: the entries of the file, each under a key of its own. -/
structure PermissionTypes where
  types : List PermissionType
  nodup : (types.map PermissionType.key).Nodup

/-- `VirtualDesktopPermissionProfile`. -/
structure PermissionProfile where
  profileId : Option String := none
  title : Option String := none
  description : Option String := none
  permissions : Option (List Permission) := none
  deriving DecidableEq, Repr

def PermissionProfile.getPermission (profile : PermissionProfile) (key : String) : Option Permission :=
  (profile.permissions.getD []).find? fun permission => permission.key = some key

/-- The attributes of a row beside its key. -/
structure PermissionProfileRow where
  title : Option String
  description : Option String
  /-- The flags by the key of the permission type. -/
  flags : String → Option Bool

/-- The table, under the ids of the profiles. -/
abbrev Profiles : Type := Table String PermissionProfileRow

variable (types : PermissionTypes)

/-- `convert_permission_profile_object_to_db_dict`: a permission that the object does not have is off. -/
def convertPermissionProfileObjectToDbDict (profile : PermissionProfile) : PermissionProfileRow where
  title := profile.title
  description := profile.description
  flags key :=
    if key ∈ types.types.map PermissionType.key then
      match profile.getPermission key with
      | none => some false
      | some permission => permission.enabled
    else none

def convertDbDictToPermissionProfileObject (profileId : String) (row : PermissionProfileRow) :
    PermissionProfile where
  profileId := some (textOf (some profileId))
  title := some (textOf row.title)
  description := some (textOf row.description)
  permissions := some <| types.types.map fun permissionType =>
    { key := some permissionType.key
      name := permissionType.name
      description := permissionType.description
      enabled := some ((row.flags permissionType.key).getD false) }

def get (profileId : Option String) : Proc Profiles Exc (Option PermissionProfile) :=
  if isEmptyOpt profileId then pure none
  else Proc.gets fun t =>
    (t.getItem (profileId.getD "")).map (convertDbDictToPermissionProfileObject types (profileId.getD ""))

/-- The attributes are put under the id, and the profile is made from them again. The store rejects an
id that is missing or empty. -/
def putProfile (profile : PermissionProfile) : Proc Profiles Exc PermissionProfile :=
  match profile.profileId with
  | none => Proc.raise (.other .clientError "ValidationException")
  | some profileId =>
    if profileId = "" then Proc.raise (.other .clientError "ValidationException")
    else do
      let row := convertPermissionProfileObjectToDbDict types profile
      Proc.modify fun t => t.putItem profileId row
      return convertDbDictToPermissionProfileObject types profileId row

/-- `VirtualDesktopPermissionProfileDB.create`: `put_item`. -/
def create (profile : PermissionProfile) : Proc Profiles Exc PermissionProfile := putProfile types profile

/-- `VirtualDesktopPermissionProfileDB.update`: `update_item` sets every attribute, and makes a row where
there is none. -/
def update (profile : PermissionProfile) : Proc Profiles Exc PermissionProfile := putProfile types profile

/-- `VirtualDesktopPermissionProfileDB.delete`: what it raises is logged only. -/
def delete (profileName : String) : Proc Profiles Exc PUnit :=
  if isEmpty profileName then pure ⟨⟩
  else Proc.modify fun t => t.deleteItem profileName

/-! ## What the operations do -/

theorem getPermission_convert (profileId : String) (row : PermissionProfileRow)
    {permissionType : PermissionType} (h : permissionType ∈ types.types) :
    ∃ permission, (convertDbDictToPermissionProfileObject types profileId row).getPermission
      permissionType.key = some permission ∧ permission.enabled = some ((row.flags permissionType.key).getD false) := by
  have hsome : ((convertDbDictToPermissionProfileObject types profileId row).getPermission
      permissionType.key).isSome := by
    rw [PermissionProfile.getPermission, List.find?_isSome]
    exact ⟨_, List.mem_map.mpr ⟨permissionType, h, rfl⟩, by simp⟩
  obtain ⟨permission, hpermission⟩ := Option.isSome_iff_exists.mp hsome
  refine ⟨permission, hpermission, ?_⟩
  have hkey := List.find?_some hpermission
  obtain ⟨other, -, hother⟩ := List.mem_map.mp (List.mem_of_find?_eq_some hpermission)
  subst hother
  have hsame : other.key = permissionType.key := by simpa using hkey
  show some ((row.flags other.key).getD false) = _
  rw [hsame]

theorem run_get {profileId : String} (h : isEmpty profileId = false) (t : Profiles) :
    (get types (some profileId)).run t =
      (.ok ((t.getItem profileId).map (convertDbDictToPermissionProfileObject types profileId)), t) := by
  rw [get, if_neg (by simp [isEmptyOpt, h])]
  rfl

end ContainRes.VirtualDesktop.PermissionProfiles
