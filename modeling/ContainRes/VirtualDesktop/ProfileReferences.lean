import ContainRes.Systems.Guarded
import ContainRes.VirtualDesktop.ExpirySweep
import ContainRes.VirtualDesktop.PermissionProfileDb
import ContainRes.VirtualDesktop.UserApi

/-! # The profiles that permissions refer to

A permission of a session names a permission profile. `generate_permissions_for_session` reads the profile
of every permission of a session, and the one that the configuration names for administrators, and raises
for one that is not there. The requests on profiles and on permissions do not look at each other's table.

* **`createPermissionProfile`**, **`updatePermissionProfile`**, **`deletePermissionProfile`** — the
  requests on profiles.
* **`updateSessionPermission`**, **`perform`** — the requests on permissions, and the sweep.
* **`generatePermissionsForSession`** — the text of the permissions file.
* **`Careful`** — no request leaves a permission without its profile.
* **`permissions_generated`** — in a run of careful requests the text can always be made. -/

namespace ContainRes.VirtualDesktop.ProfileReferences

open Effects Store Systems Text
open PermissionProfiles SessionPermissions

/-- The tables of profiles and of permissions, and what has been published. -/
structure State where
  profiles : Profiles
  world : SessionPermissions.World

/-- A function on the table of profiles. -/
def onProfiles {α : Type} (c : Proc Profiles Exc α) : Proc State Exc α :=
  Proc.zoom State.profiles (fun t s => { s with profiles := t }) c

/-- A function on the permissions. -/
def onWorld {α : Type} (c : Proc SessionPermissions.World Exc α) : Proc State Exc α :=
  Proc.zoom State.world (fun w s => { s with world := w }) c

/-- The configuration, and how tables and sets are run through. -/
structure Settings where
  /-- `cluster.administrator_username`. -/
  administratorUsername : String
  /-- `dcv_session.default_profiles.admin`. -/
  adminProfile : String
  types : PermissionTypes
  paginator : Paginator Entry
  order : SetOrder
  clock : Nat → Int

/-- An attribute of an object that is missing. -/
def attributeError (name : String) : Exc :=
  .other .attributeError ("'NoneType' object has no attribute '" ++ name ++ "'")

variable (settings : Settings)

/-! ## Requests on profiles -/

def createPermissionProfile (profile : Option PermissionProfile) : Proc State Exc PUnit :=
  match profile with
  | none => Proc.raise (attributeError "profile_id")
  | some profile => onProfiles do
      let existing ← PermissionProfiles.get settings.types profile.profileId
      if existing.isSome then pure ⟨⟩
      else do
        let _ ← PermissionProfiles.create settings.types profile
        return ⟨⟩

def updatePermissionProfile (profile : Option PermissionProfile) : Proc State Exc PUnit :=
  match profile with
  | none => Proc.raise (attributeError "profile_id")
  | some profile => onProfiles do
      let existing ← PermissionProfiles.get settings.types profile.profileId
      if existing.isNone then pure ⟨⟩
      else do
        let _ ← PermissionProfiles.update settings.types profile
        return ⟨⟩

def deletePermissionProfile (profileId : Option String) : Proc State Exc PUnit :=
  match profileId with
  | none => pure ⟨⟩
  | some profileId =>
    if profileId = "" then pure ⟨⟩
    else onProfiles do
      let existing ← PermissionProfiles.get settings.types (some profileId)
      if existing.isNone then pure ⟨⟩ else PermissionProfiles.delete profileId

/-! ## Requests on permissions -/

/-- The permissions that a request creates, updates and deletes, and whether a session of an owner is
there and supports permissions. -/
structure PermissionsRequest where
  /-- The user who sends the request; an administrator has no name here. -/
  username : Option String
  creates : Option (List UserApi.PermissionRequest)
  updates : Option (List UserApi.PermissionRequest)
  deletes : Option (List UserApi.PermissionRequest)
  supportsPermissions : Option String → Option String → Except Exc Bool
  outcomes : RequestOutcomes

/-- A list that has to be there. -/
def requiredList {α : Type} (list : Option α) : Except Exc α :=
  required list (.other .typeError "unsupported operand type(s) for +: 'NoneType' and 'list'")

/-- The check of a permission that is created or updated. -/
def validatePermission (request : PermissionsRequest) (wellFormed : Bool) (p : SessionPermission) :
    Except Exc Bool :=
  if wellFormed then request.supportsPermissions p.ideaSessionOwner p.ideaSessionId else .ok false

/-- The checks of a list are all made. -/
def validateAll (validate : UserApi.PermissionRequest → Except Exc Bool) :
    List UserApi.PermissionRequest → Except Exc Bool
  | [] => .ok true
  | p :: rest => do
    let valid ← validate p
    let allValid ← validateAll validate rest
    return valid && allValid

/-- The changes of a request, if it is accepted: the check of the API of users, and
`validate_update_session_permission_request`, which asks for a profile id only of what is created. -/
def acceptedChanges (request : PermissionsRequest) : Except Exc (Option UpdateSessionPermissionRequest) := do
  let creates ← requiredList request.creates
  let updates ← requiredList request.updates
  let deletes ← requiredList request.deletes
  let changes : UpdateSessionPermissionRequest :=
    ⟨creates.map (·.permission), updates.map (·.permission), deletes.map (·.permission)⟩
  if request.username.isSome && changes.changes.any (fun c => c.permission.ideaSessionOwner != request.username) then
    return none
  else do
    let created ← validateAll
      (fun r => validatePermission request (UserApi.validateCreatePermission r) r.permission) creates
    let updated ← validateAll
      (fun r => validatePermission request (!isEmptyOpt r.permission.ideaSessionId) r.permission) updates
    return if created && updated && !changes.changes.isEmpty &&
      decide (changes.changes.map fun c => c.permission.actorName).Nodup then some changes else none

/-- `update_session_permission` of the API of the caller. -/
def updateSessionPermission (request : PermissionsRequest) : Proc State Exc PUnit := do
  let accepted ← Proc.liftExcept (acceptedChanges request)
  match accepted with
  | none => pure ⟨⟩
  | some changes => do
    let _ ← onWorld (updatePermissionForSessions settings.order settings.clock request.outcomes changes)
    return ⟨⟩

/-- A request, or a sweep at a time. -/
inductive Request
  | createPermissionProfile (profile : Option PermissionProfile)
  | updatePermissionProfile (profile : Option PermissionProfile)
  | deletePermissionProfile (profileId : Option String)
  | updateSessionPermission (request : PermissionsRequest)
  | sweep (outcomes : SweepOutcomes) (eventTime : Int)

/-- What a request does. -/
def perform : Request → Proc State Exc PUnit
  | .createPermissionProfile profile => createPermissionProfile settings profile
  | .updatePermissionProfile profile => updatePermissionProfile settings profile
  | .deletePermissionProfile profileId => deletePermissionProfile settings profileId
  | .updateSessionPermission request => updateSessionPermission settings request
  | .sweep outcomes eventTime =>
    onWorld (sweep settings.paginator settings.order settings.clock outcomes eventTime)

/-! ## The permissions file -/

/-- A session, which has a software stack in the table. -/
structure Session where
  ideaSessionId : String
  /-- `software_stack.base_os`. -/
  baseOs : Option BaseOS
  deriving DecidableEq, Repr

/-- The order in which a set of profile ids is run through. -/
structure ProfileOrder where
  list : List (Option String) → List (Option String)
  perm : ∀ l, (list l).Perm l.dedup

/-- A profile with what it allows and what it denies. -/
abbrev ProfileValues : Type := Option String × List String × List String

/-- `permission.key.replace('_', '-')`. -/
def dashed (key : String) : String := key.map fun c => if c = '_' then '-' else c

/-- The loop over the permission types: the keys that are allowed, and the others. -/
def splitTypes (profile : PermissionProfile) : List PermissionType → Except Exc (List String × List String)
  | [] => .ok ([], [])
  | permissionType :: rest => do
    let permission ← required (profile.getPermission permissionType.key) (attributeError "enabled")
    let (allow, deny) ← splitTypes profile rest
    return if permission.enabled.getD false then (dashed permissionType.key :: allow, deny)
      else (allow, dashed permissionType.key :: deny)

def retrievePermissionProfileValues (profileId : Option String) : Proc Profiles Exc ProfileValues := do
  let profile ← PermissionProfiles.get settings.types profileId
  match profile with
  | none => Proc.raise (attributeError "get_permission")
  | some profile =>
    if (profile.getPermission "builtin").any fun permission => permission.enabled.getD false then
      return (profileId, ["builtin"], [])
    else do
      let values ← Proc.liftExcept (splitTypes profile settings.types.types)
      return (profileId, values)

/-- The values of each profile. -/
def retrieveAll : List (Option String) → Proc Profiles Exc (List ProfileValues)
  | [] => pure []
  | profileId :: rest => do
    let values ← retrievePermissionProfileValues settings profileId
    let others ← retrieveAll rest
    return values :: others

/-- `permission_profile.profile_id` of a permission. -/
def profileIdOf (p : SessionPermission) : Except Exc (Option String) :=
  required p.permissionProfile (attributeError "profile_id")

/-- The profile ids of permissions. -/
def profileIdsOf : List SessionPermission → Except Exc (List (Option String))
  | [] => .ok []
  | p :: rest => do
    let id ← profileIdOf p
    let ids ← profileIdsOf rest
    return id :: ids

/-- A value as it is printed. -/
def printed (value : Option String) : String := value.getD "None"

/-- `profile_cache[profile_id]`. -/
def cached (cache : List ProfileValues) (profileId : Option String) : Except Exc (List String × List String) :=
  match cache.find? fun values => values.1 = profileId with
  | none => .error (.other .keyError (printed profileId))
  | some values => .ok values.2

/-- A line if there is something to say. -/
def lineIf (condition : Bool) (line newLine : String) : String := if condition then line ++ newLine else ""

/-- The aliases of a profile. -/
def aliasLines (newLine : String) (values : ProfileValues) : String :=
  lineIf (values.2.1 ≠ []) (printed values.1 ++ "-allow=" ++ ", ".intercalate values.2.1) newLine ++
    lineIf (values.2.2 ≠ []) (printed values.1 ++ "-deny=" ++ ", ".intercalate values.2.2) newLine

/-- What a profile allows and denies a subject. -/
def subjectLines (newLine subject profile : String) (allowed denied : Bool) : String :=
  lineIf allowed (subject ++ " allow " ++ profile ++ "-allow") newLine ++
    lineIf denied (subject ++ " deny " ++ profile ++ "-deny") newLine

/-- The lines of the guests. Whether there is a line for what is denied is read from the profile of the
administrators. -/
def guestLines (newLine : String) (cache : List ProfileValues) (admin : Option String) :
    List SessionPermission → Except Exc String
  | [] => .ok ""
  | p :: rest => do
    let profileId ← profileIdOf p
    let values ← cached cache profileId
    let adminValues ← cached cache admin
    let others ← guestLines newLine cache admin rest
    return subjectLines newLine (printed p.actorName) (printed profileId) (values.1 ≠ []) (adminValues.2 ≠ []) ++
      others

/-- The text of the permissions file. -/
def permissionsText (newLine adminUsername : String) (cache : List ProfileValues)
    (permissions : List SessionPermission) : Except Exc String := do
  let admin := settings.adminProfile
  let guests ← guestLines newLine cache (some admin) permissions
  let adminValues ← cached cache (some admin)
  let both (subject : String) := subjectLines newLine subject admin (adminValues.1 ≠ []) (adminValues.2 ≠ [])
  return "[groups]" ++ newLine ++ "group:ideaadmin=user:" ++ adminUsername ++ newLine ++
    "[aliases]" ++ newLine ++ String.join (cache.map (aliasLines newLine)) ++
    "[permissions]" ++ newLine ++ guests ++ both "group:ideaadmin" ++ both "%owner%"

/-- `generate_permissions_for_session(session, for_broker)`, with the outcome of the query for its
permissions. -/
def generatePermissionsForSession (profileOrder : ProfileOrder) (o : Outcome) (session : Session)
    (forBroker : Bool) : Proc State Exc String := do
  let windows := decide (session.baseOs = some .windows)
  let adminUsername := if windows then "Administrator" else settings.administratorUsername
  let newLine := if forBroker || !windows then "\n" else "`r`n"
  let permissions ← onWorld (onPermissions (getForSession settings.paginator o session.ideaSessionId))
  let ids ← Proc.liftExcept (profileIdsOf permissions)
  let cache ← onProfiles (retrieveAll settings (profileOrder.list (some settings.adminProfile :: ids)))
  Proc.liftExcept (permissionsText settings newLine adminUsername cache permissions)

/-! ## References -/

/-- The profile is in the table, under an id that is not blank. -/
def Existing (profiles : Profiles) (profileId : String) : Prop :=
  isEmpty profileId = false ∧ profiles.Has profileId

/-- The profile that a row refers to. -/
def referred (row : SessionPermissionRow) : String := textOf row.permissionProfileId

/-- Every permission refers to a profile that exists, and so does the configuration. -/
structure AllExist (s : State) : Prop where
  admin : Existing s.profiles settings.adminProfile
  rows : ∀ key row, s.world.permissions.getItem key = some row → Existing s.profiles (referred row)

/-- The runs of requests, from tables in which every profile that is referred to exists. -/
def requests : System State Request where
  init := AllExist settings
  next s request := some ((perform settings request).run s).2

/-- A profile that is deleted is not referred to, and a permission that is created or updated refers to a
profile that exists. -/
def Careful (s : State) : Request → Prop
  | .deletePermissionProfile profileId => ∀ id ∈ profileId, id ≠ settings.adminProfile ∧
      ∀ key row, s.world.permissions.getItem key = some row → referred row ≠ id
  | .updateSessionPermission request => ∀ changes, acceptedChanges request = .ok (some changes) →
      ∀ p ∈ changes.create ++ changes.update, ∀ profileId ∈ p.permissionProfile,
        Existing s.profiles (textOf profileId)
  | _ => True

/-! ## What the requests keep -/

/-- Every row of the table of permissions has a property. -/
def AllRows (P : SessionPermissionRow → Prop) (t : Permissions) : Prop :=
  ∀ key row, t.getItem key = some row → P row

variable {P : SessionPermissionRow → Prop}

/-- A permission that is put is one more row. -/
theorem keeps_putPermission {p : SessionPermission}
    (h : ∀ row, convertSessionPermissionObjectToDbDict p = .ok row → P row) : Keeps (AllRows P) (putPermission p) := by
  refine Triple.bind (R := fun row t => AllRows P t ∧ P row) ?_ fun row => ?_
  · exact Triple.liftExcept (fun row hrow t ht => ⟨ht, h row hrow⟩) fun _ _ _ ht => ht
  · refine Triple.bind (R := fun _ t => AllRows P t ∧ P row) ?_ fun key => ?_
    · exact Triple.liftExcept (fun _ _ _ ht => ht) fun _ _ _ ht => ht.1
    · refine Triple.bind (R := fun _ => AllRows P) ?_ fun _ => Keeps.liftExcept _
      refine Triple.modify fun t ht key' row' hrow' => ?_
      rw [Table.getItem_putItem] at hrow'
      split at hrow'
      · exact Option.some.inj hrow' ▸ ht.2
      · exact ht.1 key' row' hrow'

theorem keeps_delete (p : SessionPermission) : Keeps (AllRows P) (SessionPermissions.delete p) :=
  Keeps.of_state fun _ ht key row hrow => ht key row (getItem_of_run_delete hrow)

/-- The rows that a change puts have the property. -/
def Puts (P : SessionPermissionRow → Prop) : Change → Prop
  | .create p | .update p => ∀ row, convertSessionPermissionObjectToDbDict p = .ok row → P row
  | .delete _ => True

theorem keeps_apply {c : Change} (h : Puts P c) : Keeps (AllRows P) c.apply := by
  cases c with
  | create p => exact Keeps.bind (keeps_putPermission h) fun _ => Keeps.pure _
  | update p => exact Keeps.bind (keeps_putPermission h) fun _ => Keeps.pure _
  | delete p => exact Keeps.bind (keeps_delete p) fun _ => Keeps.pure _

/-- Every row of the permissions has a property. -/
abbrev AllRowsOf (P : SessionPermissionRow → Prop) (w : SessionPermissions.World) : Prop := AllRows P w.permissions

variable {α : Type}

theorem keeps_onPermissions {c : Proc Permissions Exc α} (h : Keeps (AllRows P) c) :
    Keeps (AllRowsOf P) (onPermissions c) :=
  Keeps.zoom fun _ hw => h.run hw

theorem keeps_onOutbox (c : Proc Outbox Exc α) : Keeps (AllRowsOf P) (onOutbox c) :=
  Keeps.zoom fun _ hw => hw

theorem keeps_applyChanges (o : Nat → Outcome) (i : Nat) {changes : List Change}
    (h : ∀ c ∈ changes, Puts P c) : Keeps (AllRowsOf P) (applyChanges o i changes) := by
  induction changes generalizing i with
  | nil => exact Keeps.pure _
  | cons c rest ih =>
    unfold applyChanges
    refine Keeps.bind ((keeps_onPermissions (keeps_apply (h c List.mem_cons_self))).attempt _ _) fun _ => ?_
    exact Keeps.bind (ih (i + 1) fun c' hc' => h c' (List.mem_cons_of_mem _ hc')) fun _ => Keeps.pure _

theorem keeps_publishAll (clock : Nat → Int) (o : Nat → Outcome) (i : Nat) (sessions : List SessionInfo) :
    Keeps (AllRowsOf P) (publishAll clock o i sessions) := by
  induction sessions generalizing i with
  | nil => exact Keeps.pure _
  | cons session rest ih => exact Keeps.bind ((keeps_onOutbox _).attempt _ _) fun _ => ih (i + 1)

theorem keeps_updatePermissionForSessions (order : SetOrder) (clock : Nat → Int) (o : RequestOutcomes)
    {request : UpdateSessionPermissionRequest} (h : ∀ c ∈ request.changes, Puts P c) :
    Keeps (AllRowsOf P) (updatePermissionForSessions order clock o request) :=
  Keeps.bind (keeps_applyChanges _ _ h) fun _ =>
    Keeps.bind (keeps_publishAll _ _ _ _) fun _ => Keeps.pure _

theorem keeps_sweepPermissions (o : SweepOutcomes) (eventTime : Int) (permissions : List SessionPermission)
    (info : List SessionInfo) : Keeps (AllRowsOf P) (sweepPermissions o eventTime permissions info) := by
  induction permissions generalizing info with
  | nil => exact Keeps.pure _
  | cons p rest ih =>
    unfold sweepPermissions
    split
    · exact Keeps.raise _
    · refine Keeps.ite (fun _ => ?_) fun _ => ih info
      exact Keeps.bind ((keeps_onPermissions (keeps_delete p)).attempt _ _) fun _ => ih _

theorem keeps_sweepPages (o : SweepOutcomes) (eventTime : Int) (i : Nat) (pages : List (List Entry))
    (info : List SessionInfo) : Keeps (AllRowsOf P) (sweepPages o eventTime i pages info) := by
  induction pages generalizing i info with
  | nil => exact Keeps.pure _
  | cons page pages ih =>
    unfold sweepPages
    refine Keeps.bind (keeps_onPermissions (Keeps.gets _)) fun read => ?_
    refine Keeps.bind (keeps_sweepPermissions o eventTime read.1 info) fun info' => ?_
    exact Keeps.ite (fun _ => ih (i + 1) info') fun _ => Keeps.pure _

theorem keeps_sweep (paginator : Paginator Entry) (order : SetOrder) (clock : Nat → Int) (o : SweepOutcomes)
    (eventTime : Int) : Keeps (AllRowsOf P) (sweep paginator order clock o eventTime) :=
  Keeps.bind (Keeps.gets _) fun _ => Keeps.bind (keeps_sweepPages _ _ _ _ _) fun _ => keeps_publishAll _ _ _ _

variable {settings} {s : State} {profiles : Profiles}

theorem Existing.putItem {id : String} (h : Existing profiles id) (key : String)
    (row : PermissionProfileRow) : Existing (profiles.putItem key row) id :=
  ⟨h.1, Table.has_putItem.mpr (.inr h.2)⟩

/-- The table has the profiles that are referred to. -/
def Covers (R : String → Prop) (profiles : Profiles) : Prop := ∀ id, R id → Existing profiles id

/-- What the permissions and the configuration refer to. -/
def Refers (settings : Settings) (w : SessionPermissions.World) (id : String) : Prop :=
  id = settings.adminProfile ∨ ∃ key row, w.permissions.getItem key = some row ∧ referred row = id

theorem allExist_iff : AllExist settings s ↔ Covers (Refers settings s.world) s.profiles := by
  constructor
  · rintro hs id (rfl | ⟨key, row, hrow, rfl⟩)
    · exact hs.admin
    · exact hs.rows key row hrow
  · intro hs
    exact ⟨hs _ (.inl rfl), fun key row hrow => hs _ (.inr ⟨key, row, hrow, rfl⟩)⟩

variable {R : String → Prop} (types : PermissionTypes)

theorem keeps_putProfile (profile : PermissionProfile) : Keeps (Covers R) (putProfile types profile) := by
  unfold putProfile
  split
  · exact Keeps.raise _
  · refine Keeps.ite (fun _ => Keeps.raise _) fun _ => ?_
    exact Keeps.bind (Keeps.modify fun t ht id hid => (ht id hid).putItem _ _) fun _ => Keeps.pure _

theorem keeps_deleteProfile {profileId : String} (h : ¬ R profileId) :
    Keeps (Covers R) (PermissionProfiles.delete profileId) := by
  refine Keeps.ite (fun _ => Keeps.pure _) fun _ => Keeps.modify fun t ht id hid => ⟨(ht id hid).1, ?_⟩
  rw [Table.has_deleteItem]
  refine ⟨?_, (ht id hid).2⟩
  rintro rfl
  exact h hid

theorem keeps_get (profileId : Option String) : Keeps (Covers R) (PermissionProfiles.get types profileId) :=
  Keeps.ite (fun _ => Keeps.pure _) fun _ => Keeps.gets _

theorem allExist_onProfiles {c : Proc Profiles Exc α} (hs : AllExist settings s)
    (h : Keeps (Covers (Refers settings s.world)) c) : AllExist settings ((onProfiles c).run s).2 :=
  allExist_iff.mpr (h.run (allExist_iff.mp hs))

theorem allExist_createPermissionProfile (hs : AllExist settings s) (profile : Option PermissionProfile) :
    AllExist settings ((createPermissionProfile settings profile).run s).2 := by
  cases profile with
  | none => exact hs
  | some profile =>
    refine allExist_onProfiles hs (Keeps.bind (keeps_get _ _) fun existing => ?_)
    refine Keeps.ite (fun _ => Keeps.pure _) fun _ => ?_
    exact Keeps.bind (keeps_putProfile _ _) fun _ => Keeps.pure _

theorem allExist_updatePermissionProfile (hs : AllExist settings s) (profile : Option PermissionProfile) :
    AllExist settings ((updatePermissionProfile settings profile).run s).2 := by
  cases profile with
  | none => exact hs
  | some profile =>
    refine allExist_onProfiles hs (Keeps.bind (keeps_get _ _) fun existing => ?_)
    refine Keeps.ite (fun _ => Keeps.pure _) fun _ => ?_
    exact Keeps.bind (keeps_putProfile _ _) fun _ => Keeps.pure _

theorem allExist_deletePermissionProfile (hs : AllExist settings s) {profileId : Option String}
    (h : ∀ id ∈ profileId, ¬ Refers settings s.world id) :
    AllExist settings ((deletePermissionProfile settings profileId).run s).2 := by
  cases profileId with
  | none => exact hs
  | some id =>
    unfold deletePermissionProfile
    dsimp only
    split
    · exact hs
    · refine allExist_onProfiles hs (Keeps.bind (keeps_get _ _) fun existing => ?_)
      exact Keeps.ite (fun _ => Keeps.pure _) fun _ => keeps_deleteProfile (h id rfl)

/-- A function on the permissions whose new rows refer to profiles that exist. -/
theorem allExist_onWorld {c : Proc SessionPermissions.World Exc α} (hs : AllExist settings s)
    (h : Keeps (AllRowsOf fun row => Existing s.profiles (referred row)) c) : AllExist settings ((onWorld c).run s).2 :=
  ⟨hs.admin, h.run (s := s.world) hs.rows⟩

theorem allExist_updateSessionPermission (hs : AllExist settings s) {request : PermissionsRequest}
    (h : Careful settings s (.updateSessionPermission request)) :
    AllExist settings ((updateSessionPermission settings request).run s).2 := by
  unfold updateSessionPermission
  rw [Proc.run_bind]
  cases haccepted : acceptedChanges request with
  | error e => exact hs
  | ok accepted =>
    cases accepted with
    | none => exact hs
    | some changes =>
      have hputs : ∀ p ∈ changes.create ++ changes.update, ∀ row,
          convertSessionPermissionObjectToDbDict p = .ok row → Existing s.profiles (referred row) := by
        intro p hp row hrow
        obtain ⟨profileId, hprofile, hrow⟩ := bind_eq_ok.mp hrow
        cases hrow
        refine h changes haccepted p hp profileId ?_
        cases hnone : p.permissionProfile with
        | none =>
          rw [hnone] at hprofile
          cases hprofile
        | some id =>
          rw [hnone] at hprofile
          cases hprofile
          rfl
      show AllExist settings ((onWorld _ >>= fun _ => pure PUnit.unit : Proc State Exc PUnit).run s).2
      rw [Proc.state_bind_of_reads fun _ => Reads.pure _]
      refine allExist_onWorld hs (keeps_updatePermissionForSessions _ _ _ ?_)
      intro c hc
      rw [UpdateSessionPermissionRequest.changes, List.mem_append, List.mem_append] at hc
      rcases hc with (hc | hc) | hc <;> obtain ⟨p, hp, rfl⟩ := List.mem_map.mp hc
      · exact hputs p (List.mem_append_left _ hp)
      · exact hputs p (List.mem_append_right _ hp)
      · trivial

/-- Every careful request keeps the references. -/
theorem allExist_perform (hs : AllExist settings s) {request : Request} (h : Careful settings s request) :
    AllExist settings ((perform settings request).run s).2 := by
  cases request with
  | createPermissionProfile profile => exact allExist_createPermissionProfile hs profile
  | updatePermissionProfile profile => exact allExist_updatePermissionProfile hs profile
  | deletePermissionProfile profileId =>
    refine allExist_deletePermissionProfile hs fun id hid => ?_
    rintro (rfl | ⟨key, row, hrow, hreferred⟩)
    · exact (h _ hid).1 rfl
    · exact (h _ hid).2 key row hrow hreferred
  | updateSessionPermission request => exact allExist_updateSessionPermission hs h
  | sweep outcomes eventTime => exact allExist_onWorld hs (keeps_sweep _ _ _ _ _)

/-! ## The permissions file can be made -/

/-- A profile that was read has an entry for each permission type. -/
theorem splitTypes_ok (profileId : String) (row : PermissionProfileRow)
    {rest : List PermissionType} (h : ∀ permissionType ∈ rest, permissionType ∈ types.types) :
    ∃ values, splitTypes (convertDbDictToPermissionProfileObject types profileId row) rest = .ok values := by
  induction rest with
  | nil => exact ⟨_, rfl⟩
  | cons permissionType rest ih =>
    obtain ⟨values, hvalues⟩ := ih fun other hother => h other (List.mem_cons_of_mem _ hother)
    obtain ⟨permission, hpermission, -⟩ :=
      getPermission_convert types profileId row (h permissionType List.mem_cons_self)
    rw [splitTypes, hpermission, hvalues]
    exact ⟨_, rfl⟩

variable (settings) in
/-- A profile that exists has its values. -/
theorem run_retrievePermissionProfileValues {id : String} (h : Existing profiles id) :
    ∃ values, (retrievePermissionProfileValues settings (some id)).run profiles =
      (.ok (some id, values), profiles) := by
  obtain ⟨row, hrow⟩ := Table.has_iff.mp h.2
  unfold retrievePermissionProfileValues
  rw [Proc.run_bind_of_ok (run_get settings.types h.1 profiles), hrow]
  simp only [Option.map_some]
  split
  · exact ⟨_, rfl⟩
  · obtain ⟨values, hvalues⟩ := splitTypes_ok settings.types id row fun _ hmem => hmem
    rw [hvalues]
    exact ⟨values, rfl⟩

variable (settings) in
/-- Profiles that exist have their values, under their ids. -/
theorem run_retrieveAll {ids : List (Option String)}
    (h : ∀ profileId ∈ ids, ∃ id, profileId = some id ∧ Existing profiles id) :
    ∃ cache, (retrieveAll settings ids).run profiles = (.ok cache, profiles) ∧ cache.map Prod.fst = ids := by
  induction ids with
  | nil => exact ⟨[], rfl, rfl⟩
  | cons profileId rest ih =>
    obtain ⟨id, rfl, hid⟩ := h profileId List.mem_cons_self
    obtain ⟨values, hvalues⟩ := run_retrievePermissionProfileValues settings hid
    obtain ⟨cache, hcache, hids⟩ := ih fun other hother => h other (List.mem_cons_of_mem _ hother)
    refine ⟨(some id, values) :: cache, ?_, by rw [List.map_cons, hids]⟩
    unfold retrieveAll
    rw [Proc.run_bind_of_ok hvalues, Proc.run_bind_of_ok hcache, Proc.run_pure]

variable {cache : List ProfileValues}

/-- A profile of the cache is found in it. -/
theorem cached_ok {profileId : Option String}
    (h : profileId ∈ cache.map Prod.fst) : ∃ values, cached cache profileId = .ok values := by
  obtain ⟨values, hmem, rfl⟩ := List.mem_map.mp h
  have hfound : (cache.find? fun other => other.1 = values.1).isSome := by
    rw [List.find?_isSome]
    exact ⟨values, hmem, by simp⟩
  obtain ⟨found, hfound⟩ := Option.isSome_iff_exists.mp hfound
  exact ⟨found.2, by rw [cached, hfound]⟩

variable {permissions : List SessionPermission}

/-- The profile ids of permissions that were read. -/
theorem profileIdsOf_ok (h : ∀ p ∈ permissions, ∃ id, p.permissionProfile = some (some id) ∧ Existing s.profiles id) :
    ∃ ids, profileIdsOf permissions = .ok ids ∧
      (∀ profileId ∈ ids, ∃ id, profileId = some id ∧ Existing s.profiles id) ∧
        ∀ p ∈ permissions, ∃ profileId ∈ ids, profileIdOf p = .ok profileId := by
  induction permissions with
  | nil => exact ⟨[], rfl, fun _ hmem => absurd hmem List.not_mem_nil, fun _ hmem => absurd hmem List.not_mem_nil⟩
  | cons p rest ih =>
    obtain ⟨ids, hids, hexist, hfound⟩ := ih fun other hother => h other (List.mem_cons_of_mem _ hother)
    obtain ⟨id, hprofile, hid⟩ := h p List.mem_cons_self
    have hp : profileIdOf p = .ok (some id) := by
      rw [profileIdOf, hprofile]
      rfl
    refine ⟨some id :: ids, ?_, ?_, ?_⟩
    · rw [profileIdsOf, hp, hids]
      rfl
    · rw [List.forall_mem_cons]
      exact ⟨⟨id, rfl, hid⟩, hexist⟩
    · rw [List.forall_mem_cons]
      refine ⟨⟨_, List.mem_cons_self, hp⟩, fun other hother => ?_⟩
      obtain ⟨profileId, hmem, hother⟩ := hfound other hother
      exact ⟨profileId, List.mem_cons_of_mem _ hmem, hother⟩

/-- The lines of guests whose profiles are in the cache. -/
theorem guestLines_ok (newLine : String) {admin : Option String} (hadmin : admin ∈ cache.map Prod.fst)
    (h : ∀ p ∈ permissions, ∃ profileId ∈ cache.map Prod.fst, profileIdOf p = .ok profileId) :
    ∃ text, guestLines newLine cache admin permissions = .ok text := by
  obtain ⟨adminValues, hvalues⟩ := cached_ok hadmin
  induction permissions with
  | nil => exact ⟨_, rfl⟩
  | cons p rest ih =>
    obtain ⟨text, htext⟩ := ih fun other hother => h other (List.mem_cons_of_mem _ hother)
    obtain ⟨profileId, hmem, hp⟩ := h p List.mem_cons_self
    obtain ⟨values, hcached⟩ := cached_ok hmem
    rw [guestLines, hp, htext]
    simp only [Bind.bind, Except.bind, hcached, hvalues]
    exact ⟨_, rfl⟩

theorem permissionsText_ok (newLine adminUsername : String) (hadmin : some settings.adminProfile ∈ cache.map Prod.fst)
    (h : ∀ p ∈ permissions, ∃ profileId ∈ cache.map Prod.fst, profileIdOf p = .ok profileId) :
    ∃ text, permissionsText settings newLine adminUsername cache permissions = .ok text := by
  obtain ⟨guests, hguests⟩ := guestLines_ok newLine hadmin h
  obtain ⟨adminValues, hvalues⟩ := cached_ok hadmin
  unfold permissionsText
  simp only [Bind.bind, Except.bind, hguests, hvalues]
  exact ⟨_, rfl⟩

/-- The query for the permissions of a session is answered, with profiles that exist. -/
theorem run_permissionsOf (hs : AllExist settings s) (o : Outcome) (ideaSessionId : String) :
    ∃ permissions, (onWorld (onPermissions (getForSession settings.paginator o ideaSessionId))).run s =
      (.ok permissions, s) ∧
        ∀ p ∈ permissions, ∃ id, p.permissionProfile = some (some id) ∧ Existing s.profiles id := by
  have hanswered : ∃ permissions, (getForSession settings.paginator o ideaSessionId).run s.world.permissions =
      (.ok permissions, s.world.permissions) := by
    unfold getForSession
    split <;> exact ⟨_, rfl⟩
  obtain ⟨permissions, hrun⟩ := hanswered
  refine ⟨permissions, Proc.run_zoom_of (Proc.run_zoom_of hrun), fun p hp => ?_⟩
  obtain ⟨-, entry, hrow, -, hread⟩ := exists_row_of_mem_getForSession settings.paginator (congrArg Prod.fst hrun) hp
  obtain ⟨p', hp', -, -, -, hprofile, -⟩ := exists_convert (readable_of_convert hread) entry.1
  obtain rfl : p' = p := Except.ok.inj (hp'.symm.trans hread)
  exact ⟨_, hprofile, hs.rows entry.1 entry.2 hrow⟩

/-- **Where every profile exists, the file is made.** -/
theorem generatePermissionsForSession_ok (hs : AllExist settings s) (profileOrder : ProfileOrder) (o : Outcome)
    (session : Session) (forBroker : Bool) :
    ∃ text, (generatePermissionsForSession settings profileOrder o session forBroker).run s = (.ok text, s) := by
  obtain ⟨permissions, hpermissions, hexist⟩ := run_permissionsOf hs o session.ideaSessionId
  obtain ⟨ids, hids, hidsExist, hidsFound⟩ := profileIdsOf_ok hexist
  have hmem : ∀ profileId, profileId ∈ profileOrder.list (some settings.adminProfile :: ids) ↔
      profileId = some settings.adminProfile ∨ profileId ∈ ids := by
    intro profileId
    rw [(profileOrder.perm _).mem_iff, List.mem_dedup, List.mem_cons]
  have hall : ∀ profileId ∈ profileOrder.list (some settings.adminProfile :: ids),
      ∃ id, profileId = some id ∧ Existing s.profiles id := by
    intro profileId hprofile
    rcases (hmem profileId).mp hprofile with rfl | hprofile
    · exact ⟨_, rfl, hs.admin⟩
    · exact hidsExist profileId hprofile
  obtain ⟨cache, hcache, hcached⟩ := run_retrieveAll settings hall
  have hadmin : some settings.adminProfile ∈ cache.map Prod.fst := by
    rw [hcached, hmem]
    exact .inl rfl
  have hguests : ∀ p ∈ permissions, ∃ profileId ∈ cache.map Prod.fst, profileIdOf p = .ok profileId := by
    intro p hp
    obtain ⟨profileId, hid, hprofile⟩ := hidsFound p hp
    refine ⟨profileId, ?_, hprofile⟩
    rw [hcached, hmem]
    exact .inr hid
  have hread : (onProfiles (retrieveAll settings
      (profileOrder.list (some settings.adminProfile :: ids)))).run s = (.ok cache, s) :=
    Proc.run_zoom_of hcache
  unfold generatePermissionsForSession
  dsimp only
  rw [Proc.run_bind_of_ok hpermissions, hids, Proc.run_bind_of_ok (Proc.run_liftExcept _ _),
    Proc.run_bind_of_ok hread, Proc.run_liftExcept]
  obtain ⟨text, htext⟩ := permissionsText_ok
    (if forBroker || !decide (session.baseOs = some .windows) then "\n" else "`r`n")
    (if decide (session.baseOs = some .windows) then "Administrator" else settings.administratorUsername)
    hadmin hguests
  exact ⟨text, by rw [htext]⟩

/-- **References to profiles.** In every state that careful requests reach, every permission refers to a
profile that exists, and the permissions file of every session is made. -/
theorem permissions_generated (h : (requests settings).Reach (Careful settings) s) :
    (∀ key row, s.world.permissions.getItem key = some row → Existing s.profiles (referred row)) ∧
      ∀ profileOrder o session forBroker, ∃ text,
        (generatePermissionsForSession settings profileOrder o session forBroker).run s = (.ok text, s) := by
  have hs : AllExist settings s := by
    refine h.invariant (fun s hs => hs) fun s request t hs hcareful hnext => ?_
    cases hnext
    exact allExist_perform hs hcareful
  exact ⟨hs.rows, generatePermissionsForSession_ok hs⟩

/-! ## A profile that is deleted -/

/-- Two permission types. -/
def builtinAndDisplay : PermissionTypes := ⟨[⟨"builtin", none, none⟩, ⟨"display", none, none⟩], by decide⟩

/-- The configuration after the installation. -/
def installed : Settings where
  administratorUsername := "clusteradmin"
  adminProfile := "admin_profile"
  types := builtinAndDisplay
  paginator := Paginator.single _
  order := SetOrder.dedup
  clock _ := 0

/-- A profile with a permission that is on. -/
def profileWith (profileId key : String) : PermissionProfile where
  profileId := some profileId
  permissions := some [⟨some key, none, none, some true⟩]

/-- The tables with the profile of the administrators. -/
def start : State where
  profiles := (∅ : Profiles).putItem "admin_profile"
    (convertPermissionProfileObjectToDbDict builtinAndDisplay (profileWith "admin_profile" "builtin"))
  world := { permissions := ∅ }

/-- A profile for those who may look on. -/
def addObserver : Request := .createPermissionProfile (some (profileWith "observer_profile" "display"))

/-- A session that is shared with a user under a profile. -/
def share (profileId : String) : Request :=
  .updateSessionPermission
    { username := some "clara"
      creates := some [{
        permission :=
          { ideaSessionId := some "s1", ideaSessionOwner := some "clara", ideaSessionName := some "desktop"
            ideaSessionInstanceType := some "t3.medium", ideaSessionState := some .ready
            ideaSessionBaseOs := some .amazonLinux2, ideaSessionType := some .virtual
            permissionProfile := some (some profileId), actorType := some .user, actorName := some "dora"
            expiryDate := some 5000 }
        ideaSessionCreatedOn := some 1000 }]
      updates := some []
      deletes := some []
      supportsPermissions := fun _ _ => .ok true
      outcomes := ⟨fun _ => .done, fun _ => .done⟩ }

/-- The state after a request. -/
def State.after (s : State) (request : Request) : State := ((perform installed request).run s).2

/-- The state in which a session is shared under the profile for those who may look on. -/
def shared : State := (start.after addObserver).after (share "observer_profile")

theorem allExist_start : AllExist installed start where
  admin := ⟨by decide, by decide⟩
  rows key row hrow := by
    rw [show start.world.permissions.getItem key = none from Table.getItem_empty key] at hrow
    cases hrow

/-- The permission that is created refers to the profile that was created before. -/
theorem careful_share : Careful installed (start.after addObserver) (share "observer_profile") := by
  intro changes hchanges p hp profileId hprofile
  cases Option.some.inj (Except.ok.inj hchanges)
  obtain rfl : p = _ := List.mem_singleton.mp hp
  cases Option.mem_def.mp hprofile
  exact ⟨by decide, by decide⟩

theorem reach_shared : (requests installed).Reach (Careful installed) shared := by
  have hobserver : (requests installed).Reach (Careful installed) (start.after addObserver) :=
    .step (a := addObserver) (.init allExist_start) trivial rfl
  exact hobserver.step careful_share rfl

/-- A shared session has its permissions file. -/
theorem permissions_generated_shared : shared.world.permissions.Has ("s1", "dora") ∧
    (∀ key row, shared.world.permissions.getItem key = some row → Existing shared.profiles (referred row)) ∧
      ∀ profileOrder o session forBroker, ∃ text,
        (generatePermissionsForSession installed profileOrder o session forBroker).run shared = (.ok text, shared) :=
  ⟨by decide, permissions_generated reach_shared⟩

theorem perm_dedup (l : List (Option String)) : l.dedup.Perm l.dedup := .refl _

/-- The order of the first additions. -/
def ProfileOrder.dedup : ProfileOrder := ⟨List.dedup, perm_dedup⟩

/-- **A profile that is deleted while a permission refers to it.** The permissions file of the session can
no longer be made. -/
theorem profile_deleted_while_referred : ∃ s, (requests installed).Reachable s ∧
      (∃ key row, s.world.permissions.getItem key = some row ∧ ¬ Existing s.profiles (referred row)) ∧
      (generatePermissionsForSession installed ProfileOrder.dedup .done ⟨"s1", some .amazonLinux2⟩ true).run s =
        (.error (attributeError "get_permission"), s) := by
  refine ⟨shared.after (.deletePermissionProfile (some "observer_profile")),
    .step (reach_shared.reachable) trivial rfl, ⟨("s1", "dora"), _, rfl, ?_⟩, rfl⟩
  rintro ⟨-, hhas⟩
  revert hhas
  decide

end ContainRes.VirtualDesktop.ProfileReferences
