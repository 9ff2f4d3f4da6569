import ContainRes.VirtualDesktop.PermissionProfileDb
import ContainRes.VirtualDesktop.StackDeletion

/-! # Updates of stacks and of permission profiles

`DbEntryUpdatedEventHandler`, for the updated events of a software stack and of a permission profile: the
sessions that depend on it are looked for in one page of a table, with a condition on an attribute, and
an event is published for each.

* **`handleSoftwareStackUpdated`** — looks for an attribute `stack_id`, which a session row has inside
  the map of its stack only; `run_handleSoftwareStackUpdated` says that nothing is found.
* **`handlePermissionProfileUpdated`** — looks for the id of the profile inside the ids that the
  permission rows have.
* **`fansOut_iff`** — for which tables the events go to exactly the sessions that depend on it. -/

namespace ContainRes.VirtualDesktop.FanOut

open Store Text
open PermissionProfiles SessionPermissions
open SoftwareStacks

/-! ## Software stacks -/

/-- The id of a stack: a `uuid`, or one of the names of the base stacks. -/
structure StackId where
  text : String
  plain : Plain text
  ne_all : text ≠ "$all"

/-- The session of an event: its id and its owner. -/
abbrev EventSession : Type := Option String × Option String

/-- The filter on the id of a stack, under `USER_SESSION_DB_FILTER_SOFTWARE_STACK_ID_KEY`. -/
def stackIdFilter (stackId : Option String) : SocaFilter :=
  { key := some "stack_id", value := stackId.map .S }

/-- The session of a row, as `convert_db_dict_to_session_object` reads it. -/
def sessionOf (row : StoredSession) : EventSession :=
  (getAsString (some row.ideaSessionId), getAsString (some row.owner))

/-- `_handle_software_stack_updated`: the sessions for which an event is published. -/
def handleSoftwareStackUpdated (texts : RowTexts) (decode : String → Except Exc (Option String))
    (sessions : Paged StoredSession) (old new : SoftwareStackDict) : Except Exc (List EventSession) :=
  if getAsString new.name ≠ getAsString old.name ∨
      getAsString new.description ≠ getAsString old.description then do
    let listing ← scanSessions texts decode sessions
      { filters := some [stackIdFilter (getAsString new.stackId)] }
    return (listing.map sessionOf).dedup
  else .ok []

/-- A session row whose stack is the one with the id. -/
def DependsOnStack (stackId : StackId) (row : StoredSession) : Prop :=
  row.softwareStack.stackId = some stackId.text

/-- No row is found: the attribute that is looked for is in none. -/
theorem run_handleSoftwareStackUpdated (texts : RowTexts) (decode : String → Except Exc (Option String))
    (sessions : Paged StoredSession) {old new : SoftwareStackDict} {stackId : StackId}
    (hid : new.stackId = some stackId.text) : handleSoftwareStackUpdated texts decode sessions old new = .ok [] := by
  have hread : getAsString new.stackId = some stackId.text := by
    rw [hid]
    exact stackId.plain
  have hscan : scanSessions texts decode sessions
      { filters := some [stackIdFilter (getAsString new.stackId)] } = .ok [] := by
    rw [hread, scanSessions, scanDbRecords_single decode sessions _ "stack_id" rfl
      (by simp [stackIdFilter, stackId.ne_all])]
    congr 1
    refine List.filter_eq_nil_iff.mpr fun row _ => ?_
    simp [addFilter, putCondition, stackIdFilter, Condition.holds]
  unfold handleSoftwareStackUpdated
  split
  · rw [hscan]
    rfl
  · rfl

/-! ## Permission profiles -/

/-- A row of the session permissions table with its key. -/
abbrev PermissionItem : Type := (String × String) × SessionPermissionRow

/-- The attribute that the filter looks at. -/
def permissionItem (entry : PermissionItem) (key : Option String) : Option AttributeValue :=
  if key = some "permission_profile_id" then entry.2.permissionProfileId.map .S else none

/-- `VirtualDesktopSessionPermissionDB.list_session_permissions`, where a row that cannot be read raises. -/
def listSessionPermissions (permissions : Paged PermissionItem) (filters : List SocaFilter) :
    Except Exc (List SessionPermission) := do
  let entries ← tableScan permissions permissionItem (mergeFilters filters) none
  entries.mapM fun entry =>
    SessionPermissions.convertDbDictToSessionPermissionObject entry.1 entry.2

/-- Whether a permission has another flag now. -/
def isPermissionUpdated (old new : PermissionProfile) : Bool :=
  (new.permissions.getD []).any fun newPermission =>
    (old.permissions.getD []).any fun oldPermission =>
      newPermission.key = oldPermission.key && newPermission.enabled ≠ oldPermission.enabled

/-- The filter on the id of a profile. -/
def profileIdFilter (profileId : String) : SocaFilter :=
  { key := some "permission_profile_id", value := some (.S profileId) }

/-- `_handle_permission_profile_updated`: the sessions for which an event is published. -/
def handlePermissionProfileUpdated (types : PermissionTypes) (permissions : Paged PermissionItem)
    (profileId : String) (old new : PermissionProfileRow) : Except Exc (List EventSession) :=
  if isPermissionUpdated (convertDbDictToPermissionProfileObject types profileId old)
      (convertDbDictToPermissionProfileObject types profileId new) then do
    let listing ← listSessionPermissions permissions [profileIdFilter (textOf (some profileId))]
    return (listing.map fun p => (p.ideaSessionId, p.ideaSessionOwner)).dedup
  else .ok []

/-- The session of a permission row, as it is read. -/
def sessionOfPermission (entry : PermissionItem) : EventSession :=
  (some (textOf (some entry.1.1)), some (textOf entry.2.ideaSessionOwner))

/-- The rows of the first page whose profile has an id that contains the id. -/
def found (permissions : Paged PermissionItem) (profileId : String) : List PermissionItem :=
  permissions.first.filter fun entry =>
    entry.2.permissionProfileId.any fun id => contains (textOf (some profileId)) id

/-- The listing reads the rows found. -/
theorem listSessionPermissions_eq (permissions : Paged PermissionItem) (profileId : String) :
    listSessionPermissions permissions [profileIdFilter (textOf (some profileId))] =
      (found permissions profileId).mapM fun entry =>
        SessionPermissions.convertDbDictToSessionPermissionObject entry.1 entry.2 := by
  have hholds : ∀ entry : PermissionItem,
      (mergeFilters [profileIdFilter (textOf (some profileId))]).holds (permissionItem entry) =
        entry.2.permissionProfileId.any fun id => contains (textOf (some profileId)) id := by
    intro entry
    cases hprofile : entry.2.permissionProfileId with
    | none => simp [mergeFilters, addFilter, putCondition, profileIdFilter, permissionItem, hprofile, Condition.holds]
    | some id => simp [mergeFilters, addFilter, putCondition, profileIdFilter, permissionItem, hprofile]
  rw [listSessionPermissions, tableScan_eq hholds]
  rfl

/-- Rows that can all be read give the sessions they are of. -/
theorem mapM_convert_of_readable {entries : List PermissionItem} (h : ∀ entry ∈ entries, entry.2.Readable) :
    ∃ listing, (entries.mapM fun entry =>
        SessionPermissions.convertDbDictToSessionPermissionObject entry.1 entry.2) = .ok listing ∧
      (listing.map fun p => (p.ideaSessionId, p.ideaSessionOwner)) = entries.map sessionOfPermission := by
  induction entries with
  | nil => exact ⟨[], rfl, rfl⟩
  | cons entry rest ih =>
    obtain ⟨listing, hlisting, hsessions⟩ := ih fun e he => h e (List.mem_cons_of_mem entry he)
    obtain ⟨p, hp, hid, -, howner, -, -⟩ := exists_convert (h entry List.mem_cons_self) entry.1
    refine ⟨p :: listing, ?_, ?_⟩
    · rw [List.mapM_cons, hp, hlisting]
      rfl
    · rw [List.map_cons, List.map_cons, hsessions, hid, howner]
      rfl

/-- A row that cannot be read makes the listing raise. -/
theorem mapM_convert_of_not_readable {entries : List PermissionItem} (h : ∃ entry ∈ entries, ¬ entry.2.Readable) :
    ∃ e, (entries.mapM fun entry =>
      SessionPermissions.convertDbDictToSessionPermissionObject entry.1 entry.2) = .error e := by
  cases hmap : entries.mapM fun entry =>
      SessionPermissions.convertDbDictToSessionPermissionObject entry.1 entry.2 with
  | error e => exact ⟨e, rfl⟩
  | ok listing =>
    obtain ⟨entry, hentry, hnot⟩ := h
    have hall : ∀ entry ∈ entries, entry.2.Readable := by
      clear hentry hnot
      induction entries generalizing listing with
      | nil => simp
      | cons first rest ih =>
        rw [List.mapM_cons] at hmap
        cases hfirst : SessionPermissions.convertDbDictToSessionPermissionObject first.1 first.2 with
        | error e =>
          rw [hfirst] at hmap
          cases hmap
        | ok p =>
          cases hrest : rest.mapM fun entry =>
              SessionPermissions.convertDbDictToSessionPermissionObject entry.1 entry.2 with
          | error e =>
            rw [hfirst, hrest] at hmap
            cases hmap
          | ok ps =>
            intro entry hentry
            rcases List.mem_cons.mp hentry with rfl | hlater
            · exact readable_of_convert hfirst
            · exact ih ps hrest entry hlater
    exact absurd (hall entry hentry) hnot

/-- The handler goes on exactly when the flag of a permission type is another one now. -/
theorem isPermissionUpdated_iff (types : PermissionTypes) (profileId : String) (old new : PermissionProfileRow) :
    isPermissionUpdated (convertDbDictToPermissionProfileObject types profileId old)
        (convertDbDictToPermissionProfileObject types profileId new) = true ↔ ∃ permissionType ∈ types.types,
        (new.flags permissionType.key).getD false ≠ (old.flags permissionType.key).getD false := by
  simp only [isPermissionUpdated, convertDbDictToPermissionProfileObject, Option.getD_some, List.any_map,
    List.any_eq_true, Function.comp_apply, Bool.and_eq_true, decide_eq_true_eq, Option.some.injEq, ne_eq]
  constructor
  · rintro ⟨newType, hnew, oldType, hold, hkey, hflag⟩
    exact ⟨newType, hnew, by rwa [← hkey] at hflag⟩
  · rintro ⟨permissionType, hmem, hflag⟩
    exact ⟨permissionType, hmem, permissionType, hmem, rfl, hflag⟩

/-! ## Who gets an event -/

/-- The sessions for which an event is published; a handler that raises has published none. -/
def published : Except Exc (List EventSession) → List EventSession
  | .ok sessions => sessions
  | .error _ => []

/-- An event is published for exactly the sessions that depend on what was updated. -/
def FansOut (outcome : Except Exc (List EventSession)) (depends : EventSession → Prop) : Prop :=
  ∀ session, session ∈ published outcome ↔ depends session

/-- The sessions with the stack. -/
def StackSessions (sessions : Paged StoredSession) (stackId : StackId) (session : EventSession) : Prop :=
  ∃ row ∈ sessions.rows, DependsOnStack stackId row ∧ sessionOf row = session

/-- The sessions with a permission of the profile. -/
def ProfileSessions (permissions : Paged PermissionItem) (profileId : String) (session : EventSession) :
    Prop :=
  ∃ entry ∈ permissions.rows,
    entry.2.permissionProfileId = some profileId ∧ sessionOfPermission entry = session

/-- The rows found are of the sessions with the profile, and those sessions all have a row among them; or
a row found cannot be read, and no row has the profile. -/
def FoundSuffices (permissions : Paged PermissionItem) (profileId : String) : Prop :=
  ((∀ entry ∈ found permissions profileId, entry.2.Readable) ∧ (∀ entry ∈ found permissions profileId,
      ProfileSessions permissions profileId (sessionOfPermission entry)) ∧
    ∀ entry ∈ permissions.rows, entry.2.permissionProfileId = some profileId →
      ∃ other ∈ found permissions profileId, sessionOfPermission other = sessionOfPermission entry) ∨
  ((∃ entry ∈ found permissions profileId, ¬ entry.2.Readable) ∧
    ∀ entry ∈ permissions.rows, entry.2.permissionProfileId ≠ some profileId)

variable {texts : RowTexts} {decode : String → Except Exc (Option String)}
  {sessions : Paged StoredSession} {types : PermissionTypes} {permissions : Paged PermissionItem}
  {stackId : StackId} {profileId : String} {oldStack newStack : SoftwareStackDict}
  {oldProfile newProfile : PermissionProfileRow}

theorem fansOut_stack_iff (hid : newStack.stackId = some stackId.text) :
    FansOut (handleSoftwareStackUpdated texts decode sessions oldStack newStack) (StackSessions sessions stackId) ↔
      ∀ row ∈ sessions.rows, ¬ DependsOnStack stackId row := by
  rw [FansOut, run_handleSoftwareStackUpdated texts decode sessions hid]
  constructor
  · intro h row hrow hdepends
    exact absurd ((h (sessionOf row)).mpr ⟨row, hrow, hdepends, rfl⟩) List.not_mem_nil
  · intro h session
    refine ⟨fun hmem => absurd hmem List.not_mem_nil, ?_⟩
    rintro ⟨row, hrow, hdepends, -⟩
    exact absurd hdepends (h row hrow)

/-- The sessions for which the handler of a changed profile publishes. -/
theorem published_handlePermissionProfileUpdated (hflag : ∃ permissionType ∈ types.types,
      (newProfile.flags permissionType.key).getD false ≠ (oldProfile.flags permissionType.key).getD false) :
    published (handlePermissionProfileUpdated types permissions profileId oldProfile newProfile) =
      if ∀ entry ∈ found permissions profileId, entry.2.Readable then
        ((found permissions profileId).map sessionOfPermission).dedup
      else [] := by
  rw [handlePermissionProfileUpdated,
    if_pos ((isPermissionUpdated_iff types profileId oldProfile newProfile).mpr hflag), listSessionPermissions_eq]
  by_cases hread : ∀ entry ∈ found permissions profileId, entry.2.Readable
  · obtain ⟨listing, hlisting, hsessions⟩ := mapM_convert_of_readable hread
    rw [if_pos hread, hlisting, ← hsessions]
    rfl
  · have hnot : ∃ entry ∈ found permissions profileId, ¬ entry.2.Readable := by
      simpa only [not_forall, exists_prop] using hread
    obtain ⟨e, he⟩ := mapM_convert_of_not_readable hnot
    rw [if_neg hread, he]
    rfl

theorem fansOut_profile_iff (hflag : ∃ permissionType ∈ types.types,
      (newProfile.flags permissionType.key).getD false ≠ (oldProfile.flags permissionType.key).getD false) :
    FansOut (handlePermissionProfileUpdated types permissions profileId oldProfile newProfile)
        (ProfileSessions permissions profileId) ↔ FoundSuffices permissions profileId := by
  rw [FansOut, published_handlePermissionProfileUpdated hflag]
  by_cases hread : ∀ entry ∈ found permissions profileId, entry.2.Readable
  · rw [if_pos hread]
    simp only [List.mem_dedup, List.mem_map]
    constructor
    · intro h
      refine .inl ⟨hread, fun entry hentry => (h _).mp ⟨entry, hentry, rfl⟩, fun entry hentry hprofile => ?_⟩
      exact (h _).mpr ⟨entry, hentry, hprofile, rfl⟩
    · rintro (⟨-, hsound, hcomplete⟩ | ⟨⟨entry, hentry, hnot⟩, -⟩) session
      · constructor
        · rintro ⟨entry, hentry, rfl⟩
          exact hsound entry hentry
        · rintro ⟨entry, hentry, hprofile, rfl⟩
          exact hcomplete entry hentry hprofile
      · exact absurd (hread entry hentry) hnot
  · rw [if_neg hread]
    have hnot : ∃ entry ∈ found permissions profileId, ¬ entry.2.Readable := by
      simpa only [not_forall, exists_prop] using hread
    constructor
    · intro h
      refine .inr ⟨hnot, fun entry hentry hprofile => ?_⟩
      exact absurd ((h _).mpr ⟨entry, hentry, hprofile, rfl⟩) List.not_mem_nil
    · rintro (⟨hall, -⟩ | ⟨-, hnone⟩) session
      · exact absurd hall hread
      · refine ⟨fun hmem => absurd hmem List.not_mem_nil, ?_⟩
        rintro ⟨entry, hentry, hprofile, -⟩
        exact absurd hprofile (hnone entry hentry)

/-- **For which tables an update reaches the sessions.** The update of a stack reaches exactly its
sessions when it has none. The update of a profile with another flag
now reaches exactly the sessions with a permission of it when the rows found on the first page suffice. -/
theorem fansOut_iff (hid : newStack.stackId = some stackId.text) (hflag : ∃ permissionType ∈ types.types,
      (newProfile.flags permissionType.key).getD false ≠ (oldProfile.flags permissionType.key).getD false) :
    (FansOut (handleSoftwareStackUpdated texts decode sessions oldStack newStack) (StackSessions sessions stackId) ↔
      ∀ row ∈ sessions.rows, ¬ DependsOnStack stackId row) ∧
    (FansOut (handlePermissionProfileUpdated types permissions profileId oldProfile newProfile)
        (ProfileSessions permissions profileId) ↔ FoundSuffices permissions profileId) :=
  ⟨fansOut_stack_iff hid, fansOut_profile_iff hflag⟩

/-! ## One session with a permission -/

/-- The id of a stack. -/
def renamedId : StackId := ⟨"ss-1", by decide, by decide⟩

/-- One permission type. -/
def clipboard : PermissionTypes := ⟨[⟨"clipboard_copy", none, none⟩], by decide⟩

/-- A profile with a flag for every permission. -/
def profileWith (flag : Bool) : PermissionProfileRow := ⟨none, none, fun _ => some flag⟩

/-- A permission row of the session `s1` with a profile. -/
def permissionOf (profileId : String) : PermissionItem :=
  (("s1", "bob"), {
    ideaSessionOwner := some "clara"
    ideaSessionName := none
    ideaSessionInstanceType := none
    ideaSessionState := some .ready
    ideaSessionBaseOs := some .windows
    ideaSessionType := some .console
    permissionProfileId := some profileId
    actorType := some .user
    expiryDate := 0 })

/-- A table with one page. -/
def onePage {α : Type} (rows : List α) : Paged α := ⟨[rows], fun _ => []⟩

/-- A profile of one session, and a stack that no session has. -/
theorem fansOut_viewer : (FansOut (handleSoftwareStackUpdated RowTexts.ofEncodable (fun _ => .ok none) (onePage [])
        (windowsDict "old") (windowsDict "new")) (StackSessions (onePage []) renamedId) ↔
      ∀ row ∈ (onePage []).rows, ¬ DependsOnStack renamedId row) ∧
    (FansOut (handlePermissionProfileUpdated clipboard (onePage [permissionOf "viewer"]) "viewer"
        (profileWith false) (profileWith true)) (ProfileSessions (onePage [permissionOf "viewer"]) "viewer") ↔
      FoundSuffices (onePage [permissionOf "viewer"]) "viewer") :=
  fansOut_iff rfl ⟨_, List.mem_singleton_self _, by decide⟩

/-- **Nobody hears of a stack's new name, and the wrong session of a profile.** The session `s1` has the
stack, and a permission of the profile `team-viewer`, whose id contains that of the updated profile. -/
theorem renamed_stack_unpublished : ¬ (FansOut (handleSoftwareStackUpdated RowTexts.ofEncodable (fun _ => .ok none)
          (onePage [sessionWithStack "old"]) (windowsDict "old") (windowsDict "new"))
        (StackSessions (onePage [sessionWithStack "old"]) renamedId)) ∧
      ¬ FansOut (handlePermissionProfileUpdated clipboard (onePage [permissionOf "team-viewer"]) "viewer"
          (profileWith false) (profileWith true))
        (ProfileSessions (onePage [permissionOf "team-viewer"]) "viewer") := by
  constructor
  · intro h
    have hid : (windowsDict "new").stackId = some renamedId.text := rfl
    exact (fansOut_stack_iff hid).mp h _ (List.mem_singleton_self _) rfl
  · intro h
    have hnone : ¬ ProfileSessions (onePage [permissionOf "team-viewer"]) "viewer" (some "s1", some "clara") := by
      rintro ⟨entry, hentry, hprofile, -⟩
      rw [List.mem_singleton.mp hentry] at hprofile
      exact absurd hprofile (by decide)
    exact hnone ((h _).mp (by decide))

end ContainRes.VirtualDesktop.FanOut
