import ContainRes.VirtualDesktop.Listing

/-! # What a user can read

The four listings of `VirtualDesktopUserAPI` for a user without administration rights, and what each has
to be confined to: the user's own sessions, the permissions of the requested session, the permissions of
which the user is the actor, and screenshots of the user's own sessions.

* **`invoke`** — the four operations on a request with arbitrary filters.
* **`Isolated`** — the reply shows nothing that is not the user's.
* **`Confined`** — the rows read by the scan that contain the user's name (or the pattern that the
  request put in its place) and meet the request's other conditions are the user's.
* **`isolated_iff_confined`** — a reply is isolated exactly when the request is confined.
* **`like_reveals_permissions`** — a `like` on the enforced attribute takes the place of the name. -/

namespace ContainRes.VirtualDesktop.ReadIsolation

open Store Text

/-- The fields of `VirtualDesktopSessionScreenshot` that the operation reads and returns. -/
structure Screenshot where
  dcvSessionId : Option String := none
  ideaSessionId : Option String := none
  ideaSessionOwner : Option String := none
  imageData : Option String := none
  deriving DecidableEq, Repr

/-- The read requests with a listing. -/
inductive ReadRequest
  | listSessions (request : ListingRequest)
  | listSessionPermissions (ideaSessionId : Option String) (request : ListingRequest)
  | listSharedPermissions (request : ListingRequest)
  | getSessionScreenshots (screenshots : List Screenshot)
  deriving DecidableEq, Repr

/-- The replies: a listing, or the failure of the request. -/
inductive Reply
  | failed (message : String)
  | sessions (listing : List SessionEntry)
  | permissions (listing : List PermissionEntry)
  | screenshots (success : List Screenshot)
  deriving DecidableEq, Repr

variable (decode : String → Except Exc (Option String)) (sessions : Paged SessionRow)
  (permissions : Paged PermissionRow) (screenshotOf : String → Option String) (username : String)

/-! ## The operations -/

def listSessions (request : ListingRequest) : Except Exc Reply :=
  (listAllForUser decode sessions request username).map .sessions

/-- `_list_session_permissions`. -/
def listSessionPermissionsImpl (ideaSessionId : String) (request : ListingRequest) :
    Except Exc (List PermissionEntry) :=
  listPermissionsFromDb decode permissions
    { request with filters := some (enforceFilter "idea_session_id" ideaSessionId request.filterList) }

/-- `VirtualDesktopUserAPI.list_session_permissions`: for the owner of the session only. -/
def listSessionPermissions (ideaSessionId : Option String) (request : ListingRequest) :
    Except Exc Reply :=
  if isEmptyOpt ideaSessionId then .ok (.failed "missing RES Session ID")
  else if (getFromDb sessions (some username) ideaSessionId).isNone then
    .ok (.failed ("Only session owner can request to list_session_permissions for session " ++ ideaSessionId.getD ""))
  else (listSessionPermissionsImpl decode permissions (ideaSessionId.getD "") request).map .permissions

/-- `_list_shared_permissions`. -/
def listSharedPermissionsImpl (request : ListingRequest) : Except Exc (List PermissionEntry) :=
  listPermissionsFromDb decode permissions
    { request with filters := some (enforceFilter "actor_name" username request.filterList) }

def listSharedPermissions (request : ListingRequest) : Except Exc Reply :=
  (listSharedPermissionsImpl decode permissions username request).map .permissions

def validateOwner (owner : Option String) : Bool := isEmptyOpt owner || owner == some username

/-- `_validate_get_session_screenshot_request`. -/
def validateScreenshot (screenshot : Screenshot) : Bool :=
  !(isEmptyOpt screenshot.ideaSessionId && isEmptyOpt screenshot.dcvSessionId) &&
    validateOwner username screenshot.ideaSessionOwner

/-- `complete_get_session_screenshots_request` of one screenshot. -/
def completeScreenshot (screenshot : Screenshot) : Screenshot :=
  if isEmptyOpt screenshot.ideaSessionOwner then
    { screenshot with ideaSessionOwner := some username }
  else screenshot

/-- One iteration of `_get_session_screenshots`: the DCV session is the one of the request or, if it names
none, the one of the session in the table. -/
def resolveScreenshot (screenshot : Screenshot) : Option Screenshot :=
  if isEmptyOpt screenshot.dcvSessionId then
    match getFromDb sessions screenshot.ideaSessionOwner screenshot.ideaSessionId with
    | none => none
    | some session =>
      if isEmptyOpt session.dcvSessionId then none
      else some { screenshot with dcvSessionId := session.dcvSessionId }
  else some screenshot

/-- The successes of `DCVBrokerClient.get_session_screenshots`, where `screenshotOf` is the broker's
primary image of a DCV session. -/
def brokerScreenshots (screenshots : List Screenshot) : List Screenshot :=
  screenshots.filterMap fun screenshot =>
    (screenshotOf (screenshot.dcvSessionId.getD "")).map fun image =>
      { dcvSessionId := screenshot.dcvSessionId, imageData := some image }

def getSessionScreenshots (screenshots : List Screenshot) : Except Exc Reply :=
  let valid := (screenshots.filter (validateScreenshot username)).map (completeScreenshot username)
  .ok (.screenshots (brokerScreenshots screenshotOf (valid.filterMap (resolveScreenshot sessions))))

/-- The reply to a request of the user. -/
def invoke : ReadRequest → Except Exc Reply
  | .listSessions request => listSessions decode sessions username request
  | .listSessionPermissions ideaSessionId request =>
    listSessionPermissions decode sessions permissions username ideaSessionId request
  | .listSharedPermissions request => listSharedPermissions decode permissions username request
  | .getSessionScreenshots screenshots =>
    getSessionScreenshots sessions screenshotOf username screenshots

/-! ## Isolation and confinement -/

/-- The DCV session is one of a session that the user owns. -/
def OwnsDcvSession (dcvSessionId : Option String) : Prop :=
  ∃ row ∈ sessions.rows, row.owner = username ∧ getAsString row.dcvSessionId = getAsString dcvSessionId

/-- The reply to a request shows nothing that is not the user's. Names are compared as the tables'
converters return them. -/
def Isolated (request : ReadRequest) : Except Exc Reply → Prop
  | .error _ | .ok (.failed _) => True
  | .ok (.sessions listing) => ∀ session ∈ listing, session.owner = getAsString (some username)
  | .ok (.permissions listing) =>
    match request with
    | .listSessionPermissions ideaSessionId _ =>
      ∀ permission ∈ listing, permission.ideaSessionId = (getAsString ideaSessionId).getD "" ∧
        ∃ row ∈ sessions.rows, row.owner = username ∧ some row.ideaSessionId = ideaSessionId
    | _ => ∀ permission ∈ listing, permission.actorName = (getAsString (some username)).getD ""
  | .ok (.screenshots success) =>
    ∀ screenshot ∈ success, OwnsDcvSession sessions username screenshot.dcvSessionId

/-- The dictionary of the request's own filters for `list_sessions`. -/
def sessionConditions (request : ListingRequest) : ScanFilter (Option String) :=
  mergeFilters (withoutAll request.filterList)

/-- Whether a session meets the filter of `list_sessions`: its owner contains the name and it meets the
request's conditions on the other attributes; for the name `$all` only the request's conditions count. -/
def listsSession (request : ListingRequest) (row : SessionRow) : Bool :=
  if username = "$all" then (sessionConditions request).holds row.item
  else contains username row.owner && ((sessionConditions request).without (some "owner")).holds row.item

/-- Whether a permission meets the filter of a listing that enforces a value on an attribute: the
attribute contains the pattern and the permission meets the request's other conditions. -/
def listsPermission (key value : String) (request : ListingRequest) (row : PermissionRow) : Bool :=
  Condition.holds ⟨.CONTAINS, .S (enforcedPattern key value request.filterList)⟩ (row.item (some key)) &&
    ((mergeFilters request.filterList).without (some key)).holds row.item

/-- Among the rows that the scan of a permissions listing reads, those that meet its filter satisfy `P`;
a request with a bad cursor or with a condition on no attribute reads nothing. -/
def PermissionsConfined (key value : String) (request : ListingRequest) (P : PermissionRow → Prop) : Prop :=
  ∀ startKey, startKeyOf decode request.cursor = .ok startKey →
    hasMissingKey (mergeFilters request.filterList) = false →
      ∀ row ∈ permissions.page startKey, listsPermission key value request row = true → P row

/-- The condition under which a request is answered with nothing but what is the user's. -/
def Confined : ReadRequest → Prop
  | .listSessions request =>
    startKeyOf decode request.cursor = .ok none → hasMissingKey (sessionConditions request) = false →
      ∀ row ∈ sessions.first, listsSession username request row = true →
        getAsString (some row.owner) = getAsString (some username)
  | .listSessionPermissions ideaSessionId request =>
    isEmptyOpt ideaSessionId = false → (getFromDb sessions (some username) ideaSessionId).isSome →
      PermissionsConfined decode permissions "idea_session_id" (ideaSessionId.getD "") request
        fun row => (getAsString (some row.ideaSessionId)).getD "" = (getAsString ideaSessionId).getD ""
  | .listSharedPermissions request =>
    PermissionsConfined decode permissions "actor_name" username request fun row =>
      (getAsString (some row.actorName)).getD "" = (getAsString (some username)).getD ""
  | .getSessionScreenshots screenshots =>
    ∀ screenshot ∈ screenshots, validateScreenshot username screenshot = true →
      isEmptyOpt screenshot.dcvSessionId = false →
      (screenshotOf (screenshot.dcvSessionId.getD "")).isSome →
        OwnsDcvSession sessions username screenshot.dcvSessionId

/-! ## Sessions -/

variable (request : ListingRequest)

theorem holds_sessionFilter (row : SessionRow) :
    (mergeFilters (withoutAll (request.filterList ++ [ownerFilter username]))).holds row.item =
      listsSession username request row := by
  rw [mergeFilters_ownerFilter, listsSession, sessionConditions]
  split
  · rfl
  · rw [ScanFilter.holds_set, SessionRow.item_owner, Condition.holds_contains]

theorem hasMissingKey_sessionFilter :
    hasMissingKey (mergeFilters (withoutAll (request.filterList ++ [ownerFilter username]))) =
      hasMissingKey (sessionConditions request) := by
  rw [mergeFilters_ownerFilter, sessionConditions]
  split
  · rfl
  · rw [← hasMissingKey_without _ "owner", ScanFilter.without_set_self, hasMissingKey_without]

/-- The sessions listed are those of the first page that meet the filter. -/
theorem listAllForUser_eq : listAllForUser decode sessions request username =
      match startKeyOf decode request.cursor with
      | .error e => .error e
      | .ok (some _) => .error paramValidationError
      | .ok none =>
        if hasMissingKey (sessionConditions request) then .error paramValidationError
        else .ok ((sessions.first.filter (listsSession username request)).map convertDbDictToSessionObject) := by
  rw [listAllForUser, listAllFromDb, scanDbRecords_eq]
  dsimp only
  rcases startKeyOf decode request.cursor with e | _ | key
  · rfl
  · simp only [ListingRequest.filterList_some]
    rw [tableScan_eq (holds_sessionFilter username request), hasMissingKey_sessionFilter]
    cases hasMissingKey (sessionConditions request) <;> rfl
  · rfl

theorem listSessions_isolated_iff :
    Isolated sessions username (.listSessions request) (listSessions decode sessions username request) ↔
      Confined decode sessions permissions screenshotOf username (.listSessions request) := by
  simp only [listSessions, listAllForUser_eq, Confined]
  rcases startKeyOf decode request.cursor with e | _ | key
  · simp [Isolated, Except.map]
  · cases hasMissingKey (sessionConditions request)
    · simp only [Except.map, Isolated, List.forall_mem_map, List.mem_filter, and_imp,
        Bool.false_eq_true, if_false, forall_const]
      rfl
    · simp [Isolated, Except.map]
  · simp [Isolated, Except.map]

/-! ## Permissions -/

/-- The permissions listed, when a value is enforced on an attribute. -/
theorem listPermissionsFromDb_eq (key value : String) (request : ListingRequest) :
    listPermissionsFromDb decode permissions
        { request with filters := some (enforceFilter key value request.filterList) } =
      match startKeyOf decode request.cursor with
      | .error e => .error e
      | .ok startKey =>
        if hasMissingKey (mergeFilters request.filterList) then .error paramValidationError
        else .ok (((permissions.page startKey).filter (listsPermission key value request)).map
          convertDbDictToSessionPermissionObject) := by
  have hmissing : hasMissingKey (mergeFilters (enforceFilter key value request.filterList)) =
      hasMissingKey (mergeFilters request.filterList) := by
    rw [← hasMissingKey_without _ key, without_enforceFilter, hasMissingKey_without]
  have hlets : ∀ row : PermissionRow,
      (mergeFilters (enforceFilter key value request.filterList)).holds row.item =
        listsPermission key value request row := fun row => holds_enforceFilter key value _ row.item
  unfold listPermissionsFromDb
  dsimp only
  rcases startKeyOf decode request.cursor with e | startKey
  · rfl
  · simp only [ListingRequest.filterList_some, bind, Except.bind]
    rw [tableScan_eq hlets, hmissing]
    cases hasMissingKey (mergeFilters request.filterList) <;> rfl

/-- A listing of permissions that enforces a value shows only permissions with a property exactly when
the rows that meet its filter have it. -/
theorem forall_listed_iff (key value : String) (request : ListingRequest) (P : PermissionEntry → Prop) :
    (∀ listing, listPermissionsFromDb decode permissions
        { request with filters := some (enforceFilter key value request.filterList) } = .ok listing →
          ∀ permission ∈ listing, P permission) ↔
      PermissionsConfined decode permissions key value request fun row =>
        P (convertDbDictToSessionPermissionObject row) := by
  rw [listPermissionsFromDb_eq, PermissionsConfined]
  rcases startKeyOf decode request.cursor with e | startKey
  · simp
  · cases hasMissingKey (mergeFilters request.filterList)
    · simp only [Bool.false_eq_true, if_false, Except.ok.injEq, forall_eq', List.forall_mem_map,
        List.mem_filter, and_imp, forall_const]
    · simp

theorem listSharedPermissions_isolated_iff : Isolated sessions username (.listSharedPermissions request)
        (listSharedPermissions decode permissions username request) ↔
      Confined decode sessions permissions screenshotOf username (.listSharedPermissions request) := by
  have hiff := forall_listed_iff decode permissions "actor_name" username request
    fun permission => permission.actorName = (getAsString (some username)).getD ""
  simp only [Confined]
  refine Iff.trans ?_ hiff
  rw [listSharedPermissions, listSharedPermissionsImpl]
  cases listPermissionsFromDb decode permissions
      { request with filters := some (enforceFilter "actor_name" username request.filterList) } with
  | error e => simp [Isolated, Except.map]
  | ok listing => simp [Isolated, Except.map]

theorem listSessionPermissions_isolated_iff (ideaSessionId : Option String) (request : ListingRequest) :
    Isolated sessions username (.listSessionPermissions ideaSessionId request)
        (listSessionPermissions decode sessions permissions username ideaSessionId request) ↔
      Confined decode sessions permissions screenshotOf username (.listSessionPermissions ideaSessionId request) := by
  have hiff := forall_listed_iff decode permissions "idea_session_id" (ideaSessionId.getD "") request
    fun permission => permission.ideaSessionId = (getAsString ideaSessionId).getD ""
  simp only [Confined, listSessionPermissions, listSessionPermissionsImpl]
  by_cases hblank : isEmptyOpt ideaSessionId = true
  · simp [hblank, Isolated]
  · cases hsession : getFromDb sessions (some username) ideaSessionId with
    | none => simp [hblank, Isolated]
    | some session =>
      obtain ⟨row, hrow, howner, hid, -⟩ := exists_row_of_getFromDb hsession
      have hexists : ∃ row ∈ sessions.rows, row.owner = username ∧
          some row.ideaSessionId = ideaSessionId := ⟨row, hrow, Option.some.inj howner, hid⟩
      rw [Bool.not_eq_true] at hblank
      simp only [hblank, Bool.false_eq_true, if_false, Option.isNone_some, Option.isSome_some, forall_const]
      refine Iff.trans ?_ hiff
      cases listPermissionsFromDb decode permissions { request with
          filters := some (enforceFilter "idea_session_id" (ideaSessionId.getD "") request.filterList) } with
      | error e => simp [Isolated, Except.map]
      | ok listing => simp [Isolated, Except.map, hexists]

/-! ## Screenshots -/

theorem owner_completed {screenshot : Screenshot} (h : validateScreenshot username screenshot = true) :
    (completeScreenshot username screenshot).ideaSessionOwner = some username := by
  simp only [validateScreenshot, validateOwner, Bool.and_eq_true, Bool.or_eq_true, beq_iff_eq] at h
  unfold completeScreenshot
  split
  · rfl
  · rename_i hblank
    exact h.2.resolve_left hblank

@[simp] theorem dcvSessionId_completed (screenshot : Screenshot) :
    (completeScreenshot username screenshot).dcvSessionId = screenshot.dcvSessionId := by
  unfold completeScreenshot
  split <;> rfl

/-- The DCV session looked up for a request that names none is one of the user's sessions. -/
theorem owns_of_resolved {screenshot resolved : Screenshot} (howner : screenshot.ideaSessionOwner = some username)
    (hblank : isEmptyOpt screenshot.dcvSessionId = true) (h : resolveScreenshot sessions screenshot = some resolved) :
    OwnsDcvSession sessions username resolved.dcvSessionId := by
  rw [resolveScreenshot, if_pos hblank] at h
  cases hsession : getFromDb sessions screenshot.ideaSessionOwner screenshot.ideaSessionId with
  | none =>
    rw [hsession] at h
    exact absurd h (by simp)
  | some session =>
    simp only [hsession] at h
    split at h
    · exact absurd h (by simp)
    · obtain ⟨row, hrow, hown, -, hconv⟩ := exists_row_of_getFromDb hsession
      have hresolved := Option.some.inj h
      refine ⟨row, hrow, Option.some.inj (hown.trans howner), ?_⟩
      rw [← hresolved, ← hconv]
      exact (getAsString_getAsString row.dcvSessionId).symm

theorem resolveScreenshot_of_named {screenshot : Screenshot} (h : isEmptyOpt screenshot.dcvSessionId = false) :
    resolveScreenshot sessions screenshot = some screenshot := by
  rw [resolveScreenshot, if_neg (by simp [h])]

/-- The screenshots shown: one for each valid request whose DCV session the broker has an image of. -/
theorem mem_brokerScreenshots {requests : List Screenshot} {shown : Screenshot} :
    shown ∈ brokerScreenshots screenshotOf requests ↔
      ∃ request ∈ requests, ∃ image, screenshotOf (request.dcvSessionId.getD "") = some image ∧
        shown = { dcvSessionId := request.dcvSessionId, imageData := some image } := by
  simp only [brokerScreenshots, List.mem_filterMap, Option.map_eq_some_iff]
  constructor
  · rintro ⟨request, hmem, image, himage, rfl⟩
    exact ⟨request, hmem, image, himage, rfl⟩
  · rintro ⟨request, hmem, image, himage, rfl⟩
    exact ⟨request, hmem, image, himage, rfl⟩

theorem getSessionScreenshots_isolated_iff (screenshots : List Screenshot) :
    Isolated sessions username (.getSessionScreenshots screenshots)
        (getSessionScreenshots sessions screenshotOf username screenshots) ↔
      Confined decode sessions permissions screenshotOf username (.getSessionScreenshots screenshots) := by
  simp only [getSessionScreenshots, Isolated, Confined, mem_brokerScreenshots, List.mem_filterMap,
    List.mem_map, List.mem_filter]
  constructor
  · intro h screenshot hmem hvalid hnamed hshown
    obtain ⟨image, himage⟩ := Option.isSome_iff_exists.mp hshown
    have hnamed' : isEmptyOpt (completeScreenshot username screenshot).dcvSessionId = false := by
      rwa [dcvSessionId_completed]
    have hown := h _ ⟨completeScreenshot username screenshot,
      ⟨_, ⟨screenshot, ⟨hmem, hvalid⟩, rfl⟩, resolveScreenshot_of_named sessions hnamed'⟩,
      image, by rwa [dcvSessionId_completed], rfl⟩
    rwa [dcvSessionId_completed] at hown
  · rintro h shown ⟨resolved, ⟨completed, ⟨screenshot, ⟨hmem, hvalid⟩, rfl⟩, hresolved⟩, image, himage, rfl⟩
    -- the DCV session is either looked up under the user's name or the one that the request names
    by_cases hblank : isEmptyOpt screenshot.dcvSessionId = true
    · have hblank' : isEmptyOpt (completeScreenshot username screenshot).dcvSessionId = true := by
        rwa [dcvSessionId_completed]
      have hown := owns_of_resolved sessions username (owner_completed username hvalid) hblank' hresolved
      exact hown
    · rw [Bool.not_eq_true] at hblank
      rw [resolveScreenshot_of_named sessions (by rwa [dcvSessionId_completed])] at hresolved
      have heq := Option.some.inj hresolved
      subst heq
      rw [dcvSessionId_completed] at himage ⊢
      exact h screenshot hmem hvalid hblank (by rw [himage]; rfl)

/-! ## All operations -/

/-- **Read isolation.** The reply to a request shows nothing but what is the user's if and only if the
request is confined to it. -/
theorem isolated_iff_confined (request : ReadRequest) : Isolated sessions username request
        (invoke decode sessions permissions screenshotOf username request) ↔
      Confined decode sessions permissions screenshotOf username request := by
  cases request with
  | listSessions request =>
    exact listSessions_isolated_iff decode sessions permissions screenshotOf username request
  | listSessionPermissions ideaSessionId request =>
    exact listSessionPermissions_isolated_iff decode sessions permissions screenshotOf username
      ideaSessionId request
  | listSharedPermissions request =>
    exact listSharedPermissions_isolated_iff decode sessions permissions screenshotOf username request
  | getSessionScreenshots screenshots =>
    exact getSessionScreenshots_isolated_iff decode sessions permissions screenshotOf username
      screenshots

/-- A permissions table with one permission of `alice`. -/
def samplePermissions : Paged PermissionRow where
  pages := [[{ ideaSessionId := "s1", actorName := "alice", others := fun _ => none }]]
  after := fun _ => []

/-- The user `bob` sees a permission of `alice` by asking for a `like` on the enforced attribute. -/
theorem like_reveals_permissions : ¬ Isolated ⟨[], fun _ => []⟩ "bob"
      (.listSharedPermissions { filters := some [{ key := some "actor_name", like := some "alice" }] })
      (invoke (fun _ => .ok none) ⟨[], fun _ => []⟩ samplePermissions (fun _ => none) "bob" (.listSharedPermissions
          { filters := some [{ key := some "actor_name", like := some "alice" }] })) := by
  intro h
  have hname := h ⟨"s1", "alice"⟩ (by decide)
  revert hname
  decide

end ContainRes.VirtualDesktop.ReadIsolation
