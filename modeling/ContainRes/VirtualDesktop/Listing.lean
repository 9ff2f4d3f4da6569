import ContainRes.Common.Exceptions
import ContainRes.Store.Scan

/-! # Listing sessions and permissions

How the virtual desktop controller turns the filters of a listing request into the filter of one table
scan: every filter of the request is entered into one dictionary under its attribute, so that the last
condition for an attribute is the one that counts.

* **`mergeFilters`** — the dictionary; `mergeFilters_append_one` for the filter appended last.
* **`scanDbRecords`** — `scan_db_records`, which leaves out the filters with the value `$all` and sends
  the cursor under a name that the client library does not know.
* **`listAllForUser`** — the listing of `VirtualDesktopSessionDB`, one page. -/

namespace ContainRes.VirtualDesktop

open Store Text

/-- The fields of `SocaFilter` that the listings read. -/
structure SocaFilter where
  key : Option String := none
  value : Option AttributeValue := none
  eq : Option AttributeValue := none
  like : Option String := none
  deriving DecidableEq, Repr

/-- The fields of `SocaListingPayload` that the listings read. -/
structure ListingRequest where
  filters : Option (List SocaFilter) := none
  cursor : Option String := none
  deriving DecidableEq, Repr

/-- `request.filters`, where a missing list counts as empty. -/
def ListingRequest.filterList (request : ListingRequest) : List SocaFilter := request.filters.getD []

@[simp] theorem ListingRequest.filterList_some (filters : List SocaFilter) (cursor : Option String) :
    (ListingRequest.mk (some filters) cursor).filterList = filters := rfl

/-! ## From filters to conditions -/

/-- The condition put under the key of a filter, if there is one. -/
def putCondition (scanFilter : ScanFilter (Option String)) (key : Option String)
    (operator : ComparisonOperator) : Option AttributeValue → ScanFilter (Option String)
  | none => scanFilter
  | some operand => scanFilter.set key ⟨operator, operand⟩

/-- One iteration of the loop over the filters: `eq`, then `value`, then `like`, each in place of the
condition that the key had. -/
def addFilter (scanFilter : ScanFilter (Option String)) (filter : SocaFilter) :
    ScanFilter (Option String) :=
  let withEq := putCondition scanFilter filter.key .EQ filter.eq
  let withValue := putCondition withEq filter.key .CONTAINS filter.value
  putCondition withValue filter.key .CONTAINS (filter.like.map .S)

/-- The dictionary that the loop over the filters builds. -/
def mergeFilters (filters : List SocaFilter) : ScanFilter (Option String) :=
  filters.foldl addFilter []

/-- The filters that `scan_db_records` enters. -/
def withoutAll (filters : List SocaFilter) : List SocaFilter :=
  filters.filter fun filter => filter.value ≠ some (.S "$all")

theorem mergeFilters_append_one (filters : List SocaFilter) (filter : SocaFilter) :
    mergeFilters (filters ++ [filter]) = addFilter (mergeFilters filters) filter := by
  rw [mergeFilters, List.foldl_append]
  rfl

/-- Whether a condition has no attribute. -/
def hasMissingKey (scanFilter : ScanFilter (Option String)) : Bool :=
  scanFilter.any fun entry => entry.1.isNone

/-- The exception of the client library for a parameter that does not meet its description. -/
def paramValidationError : Exc := .other .clientError "Parameter validation failed"

/-- `table.scan` of one page: a filter needs the name of an attribute. -/
def tableScan {ρ : Type} (table : Paged ρ) (item : ρ → Option String → Option AttributeValue)
    (scanFilter : ScanFilter (Option String)) (exclusiveStartKey : Option String) :
    Except Exc (List ρ) :=
  if hasMissingKey scanFilter then .error paramValidationError
  else .ok ((table.page exclusiveStartKey).filter fun row => scanFilter.holds (item row))

/-- The key that a cursor stands for; `decode` is `from_json(base64_decode(cursor))`. -/
def startKeyOf (decode : String → Except Exc (Option String)) (cursor : Option String) :
    Except Exc (Option String) :=
  if isEmptyOpt cursor then .ok none else decode (cursor.getD "")

/-- `scan_db_records`. The start key is sent as `LastEvaluatedKey`, which `scan` has no parameter for. -/
def scanDbRecords {ρ : Type} (decode : String → Except Exc (Option String)) (table : Paged ρ)
    (item : ρ → Option String → Option AttributeValue) (request : ListingRequest) :
    Except Exc (List ρ) := do
  let lastEvaluatedKey ← startKeyOf decode request.cursor
  if lastEvaluatedKey.isSome then throw paramValidationError
  tableScan table item (mergeFilters (withoutAll request.filterList)) none

/-! ## Sessions -/

/-- A row of the sessions table. The session id is a `uuid`. -/
structure SessionRow where
  owner : String
  ideaSessionId : String
  dcvSessionId : Option String
  /-- The other attributes by name. -/
  others : String → Option AttributeValue
  id_nonblank : isEmpty ideaSessionId = false

/-- The attributes of a row by name. -/
def SessionRow.attribute (row : SessionRow) (key : String) : Option AttributeValue :=
  if key = "owner" then some (.S row.owner)
  else if key = "idea_session_id" then some (.S row.ideaSessionId)
  else if key = "dcv_session_id" then row.dcvSessionId.map .S
  else row.others key

/-- The attributes of a row by the key of a filter. -/
def SessionRow.item (row : SessionRow) (key : Option String) : Option AttributeValue :=
  key.bind row.attribute

@[simp] theorem SessionRow.item_owner (row : SessionRow) : row.item (some "owner") = some (.S row.owner) := rfl

/-- The fields of `VirtualDesktopSession` that identify a session. -/
structure SessionEntry where
  owner : Option String
  ideaSessionId : Option String
  dcvSessionId : Option String
  deriving DecidableEq, Repr

def convertDbDictToSessionObject (row : SessionRow) : SessionEntry where
  owner := getAsString (some row.owner)
  ideaSessionId := getAsString (some row.ideaSessionId)
  dcvSessionId := getAsString row.dcvSessionId

/-- `VirtualDesktopSessionDB.list_all_from_db`: the sessions of the page that one scan reads. -/
def listAllFromDb (decode : String → Except Exc (Option String)) (sessions : Paged SessionRow)
    (request : ListingRequest) : Except Exc (List SessionEntry) :=
  (scanDbRecords decode sessions SessionRow.item request).map (List.map convertDbDictToSessionObject)

/-- The filter that `list_all_for_user` appends. -/
def ownerFilter (username : String) : SocaFilter := { key := some "owner", value := some (.S username) }

def listAllForUser (decode : String → Except Exc (Option String)) (sessions : Paged SessionRow)
    (request : ListingRequest) (username : String) : Except Exc (List SessionEntry) :=
  listAllFromDb decode sessions
    { request with filters := some (request.filterList ++ [ownerFilter username]) }

/-- `VirtualDesktopSessionDB.get_from_db`: the session under a complete key. -/
def getFromDb (sessions : Paged SessionRow) (ideaSessionOwner ideaSessionId : Option String) :
    Option SessionEntry :=
  if isEmptyOpt ideaSessionOwner || isEmptyOpt ideaSessionId then none
  else (sessions.rows.find? fun row => some row.owner = ideaSessionOwner && some row.ideaSessionId = ideaSessionId).map
    convertDbDictToSessionObject

/-- A session that is found is the one of a row under the key asked for. -/
theorem exists_row_of_getFromDb {sessions : Paged SessionRow}
    {ideaSessionOwner ideaSessionId : Option String} {session : SessionEntry}
    (h : getFromDb sessions ideaSessionOwner ideaSessionId = some session) :
    ∃ row ∈ sessions.rows, some row.owner = ideaSessionOwner ∧ some row.ideaSessionId = ideaSessionId ∧
      convertDbDictToSessionObject row = session := by
  unfold getFromDb at h
  split at h
  · exact absurd h (by simp)
  · obtain ⟨row, hfind, hrow⟩ := Option.map_eq_some_iff.mp h
    have hkey := List.find?_some hfind
    rw [Bool.and_eq_true, decide_eq_true_eq, decide_eq_true_eq] at hkey
    exact ⟨row, List.mem_of_find?_eq_some hfind, hkey.1, hkey.2, hrow⟩

/-! ## Permissions -/

/-- A row of the session permissions table. -/
structure PermissionRow where
  ideaSessionId : String
  actorName : String
  /-- The other attributes by name. -/
  others : String → Option AttributeValue

/-- The attributes of a row by the key of a filter. -/
def PermissionRow.item (row : PermissionRow) (key : Option String) : Option AttributeValue :=
  key.bind fun key =>
    if key = "idea_session_id" then some (.S row.ideaSessionId)
    else if key = "actor_name" then some (.S row.actorName)
    else row.others key

/-- The fields of `VirtualDesktopSessionPermission` that identify a permission. -/
structure PermissionEntry where
  ideaSessionId : String
  actorName : String
  deriving DecidableEq, Repr

def convertDbDictToSessionPermissionObject (row : PermissionRow) : PermissionEntry where
  ideaSessionId := (getAsString (some row.ideaSessionId)).getD ""
  actorName := (getAsString (some row.actorName)).getD ""

/-- `VirtualDesktopSessionPermissionDB.list_session_permissions`: the permissions of the page that one
scan reads. -/
def listPermissionsFromDb (decode : String → Except Exc (Option String))
    (permissions : Paged PermissionRow) (request : ListingRequest) :
    Except Exc (List PermissionEntry) := do
  let exclusiveStartKey ← startKeyOf decode request.cursor
  let rows ← tableScan permissions PermissionRow.item (mergeFilters request.filterList) exclusiveStartKey
  return rows.map convertDbDictToSessionPermissionObject

/-- The filters of a request after the loops of `_list_session_permissions` and
`_list_shared_permissions`: the value is put into every filter on the key, or into one appended. -/
def enforceFilter (key value : String) (filters : List SocaFilter) : List SocaFilter :=
  let replaced := filters.map fun filter =>
    if filter.key = some key then { filter with value := some (.S value) } else filter
  if filters.any fun filter => filter.key = some key then replaced
  else replaced ++ [{ key := some key, value := some (.S value) }]

/-! ## What a merged filter asks -/

variable (scanFilter : ScanFilter (Option String))

theorem putCondition_without_of_ne {key key' : Option String}
    (operator : ComparisonOperator) (operand : Option AttributeValue) (h : key' ≠ key) :
    (putCondition scanFilter key' operator operand).without key =
      putCondition (scanFilter.without key) key' operator operand := by
  cases operand with
  | none => rfl
  | some operand => exact ScanFilter.without_set_of_ne scanFilter ⟨operator, operand⟩ h

@[simp] theorem putCondition_without_self
    (key : Option String) (operator : ComparisonOperator) (operand : Option AttributeValue) :
    (putCondition scanFilter key operator operand).without key = scanFilter.without key := by
  cases operand with
  | none => rfl
  | some operand => exact ScanFilter.without_set_self scanFilter key ⟨operator, operand⟩

theorem putCondition_conditionsAt_of_ne
    {key key' : Option String} (operator : ComparisonOperator) (operand : Option AttributeValue) (h : key' ≠ key) :
    (putCondition scanFilter key' operator operand).conditionsAt key = scanFilter.conditionsAt key := by
  cases operand with
  | none => rfl
  | some operand => exact ScanFilter.conditionsAt_set_of_ne scanFilter ⟨operator, operand⟩ h

variable {filter : SocaFilter} {key : Option String}

/-- A filter on another key does not touch the conditions of a key. -/
theorem addFilter_conditionsAt_of_ne (h : filter.key ≠ key) :
    (addFilter scanFilter filter).conditionsAt key = scanFilter.conditionsAt key := by
  simp only [addFilter, putCondition_conditionsAt_of_ne _ _ _ h]

theorem addFilter_without_of_eq (h : filter.key = key) :
    (addFilter scanFilter filter).without key = scanFilter.without key := by
  subst h
  simp only [addFilter, putCondition_without_self]

/-- The other attributes' conditions, after a filter on another key. -/
theorem addFilter_without_of_ne (h : filter.key ≠ key) :
    (addFilter scanFilter filter).without key = addFilter (scanFilter.without key) filter := by
  simp only [addFilter, putCondition_without_of_ne _ _ _ h]

/-- The condition of a named attribute does not decide whether a key is missing. -/
theorem hasMissingKey_without (key : String) :
    hasMissingKey (scanFilter.without (some key)) = hasMissingKey scanFilter := by
  rw [Bool.eq_iff_iff]
  simp only [hasMissingKey, ScanFilter.without, List.any_filter, List.any_eq_true, Bool.and_eq_true]
  constructor
  · rintro ⟨entry, hentry, -, hnone⟩
    exact ⟨entry, hentry, hnone⟩
  · rintro ⟨entry, hentry, hnone⟩
    refine ⟨entry, hentry, ?_, hnone⟩
    rw [Option.isNone_iff_eq_none] at hnone
    simp [hnone]

/-- What the listing of permissions looks for in the attribute of the enforced filter: the `like` of the
request's last filter on the key, if it has one, and else the value enforced. -/
def enforcedPattern (key value : String) (filters : List SocaFilter) : String :=
  match filters.reverse.find? fun filter => filter.key = some key with
  | some filter => filter.like.getD value
  | none => value

variable (key value : String)

/-- The conditions of the key among filters that all have the value on it. -/
theorem conditionsAt_replaced (filters : List SocaFilter) : (mergeFilters (filters.map fun filter =>
        if filter.key = some key then { filter with value := some (.S value) } else filter)).conditionsAt
          (some key) =
      match filters.reverse.find? fun filter => filter.key = some key with
      | some filter => [(some key, ⟨.CONTAINS, .S (filter.like.getD value)⟩)]
      | none => [] := by
  induction filters using List.reverseRecOn with
  | nil => rfl
  | append_singleton filters filter ih =>
    rw [List.map_append, List.map_singleton, mergeFilters_append_one, List.reverse_append,
      List.reverse_singleton, List.singleton_append, List.find?_cons]
    by_cases h : filter.key = some key
    · rw [if_pos h]
      cases hlike : filter.like <;> simp [addFilter, putCondition, h, hlike]
    · rw [if_neg h, addFilter_conditionsAt_of_ne _ h, ih]
      simp [h]

/-- Putting the value into the filters on the key does not touch the other attributes' conditions. -/
theorem without_replaced (filters : List SocaFilter) : (mergeFilters (filters.map fun filter =>
        if filter.key = some key then { filter with value := some (.S value) } else filter)).without
          (some key) = (mergeFilters filters).without (some key) := by
  induction filters using List.reverseRecOn with
  | nil => rfl
  | append_singleton filters filter ih =>
    rw [List.map_append, List.map_singleton, mergeFilters_append_one, mergeFilters_append_one]
    by_cases h : filter.key = some key
    · rw [if_pos h, addFilter_without_of_eq _ h, ← ih]
      exact addFilter_without_of_eq _ h
    · rw [if_neg h, addFilter_without_of_ne _ h, addFilter_without_of_ne _ h, ih]

theorem without_enforceFilter (filters : List SocaFilter) :
    (mergeFilters (enforceFilter key value filters)).without (some key) =
      (mergeFilters filters).without (some key) := by
  unfold enforceFilter
  dsimp only
  split
  · exact without_replaced key value filters
  · rw [mergeFilters_append_one, addFilter_without_of_eq _ rfl]
    exact without_replaced key value filters

theorem conditionsAt_enforceFilter (filters : List SocaFilter) :
    (mergeFilters (enforceFilter key value filters)).conditionsAt (some key) =
      [(some key, ⟨.CONTAINS, .S (enforcedPattern key value filters)⟩)] := by
  rw [enforceFilter, enforcedPattern]
  by_cases hany : (filters.any fun filter => filter.key = some key) = true
  · rw [if_pos hany, conditionsAt_replaced]
    cases hfind : filters.reverse.find? fun filter => filter.key = some key with
    | none =>
      obtain ⟨filter, hmem, hkey⟩ := List.any_eq_true.mp hany
      exact absurd hkey (List.find?_eq_none.mp hfind filter (List.mem_reverse.mpr hmem))
    | some filter => rfl
  · have hfind : (filters.reverse.find? fun filter => filter.key = some key) = none := by
      refine List.find?_eq_none.mpr fun filter hmem hkey => hany ?_
      exact List.any_eq_true.mpr ⟨filter, List.mem_reverse.mp hmem, hkey⟩
    rw [if_neg hany, mergeFilters_append_one, hfind]
    simp [addFilter, putCondition]

/-- The dictionary of an enforced listing: the pattern on the key, and the request's conditions on the
other attributes. -/
theorem holds_enforceFilter (filters : List SocaFilter)
    (item : Option String → Option AttributeValue) : (mergeFilters (enforceFilter key value filters)).holds item =
      (Condition.holds ⟨.CONTAINS, .S (enforcedPattern key value filters)⟩ (item (some key)) &&
        ((mergeFilters filters).without (some key)).holds item) := by
  rw [ScanFilter.holds_split _ (some key), conditionsAt_enforceFilter, without_enforceFilter]
  simp [ScanFilter.holds]

/-- The dictionary with the filter on the owner appended: unless the name is `$all`, the owner's
condition is that filter's and the other attributes keep theirs. -/
theorem mergeFilters_ownerFilter (filters : List SocaFilter) (username : String) :
    mergeFilters (withoutAll (filters ++ [ownerFilter username])) =
      if username = "$all" then mergeFilters (withoutAll filters)
      else (mergeFilters (withoutAll filters)).set (some "owner") ⟨.CONTAINS, .S username⟩ := by
  rw [withoutAll, List.filter_append, ← withoutAll]
  by_cases hall : username = "$all"
  · have hnone : List.filter (fun filter : SocaFilter => filter.value ≠ some (.S "$all"))
        [ownerFilter username] = [] := by
      simp [ownerFilter, hall]
    rw [hnone, List.append_nil, if_pos hall]
  · have hself : List.filter (fun filter : SocaFilter => filter.value ≠ some (.S "$all"))
        [ownerFilter username] = [ownerFilter username] := by
      simp [ownerFilter, hall]
    rw [hself, mergeFilters_append_one, if_neg hall]
    rfl

/-- A scan whose filter is known row by row. -/
theorem tableScan_eq {ρ : Type} {table : Paged ρ} {item : ρ → Option String → Option AttributeValue}
    {scanFilter : ScanFilter (Option String)} {startKey : Option String} {lets : ρ → Bool}
    (h : ∀ row, scanFilter.holds (item row) = lets row) : tableScan table item scanFilter startKey =
      if hasMissingKey scanFilter then .error paramValidationError
      else .ok ((table.page startKey).filter lets) := by
  have hfun : (fun row => scanFilter.holds (item row)) = lets := funext h
  rw [tableScan, hfun]

/-- `scan_db_records` reads from the start, or fails. -/
theorem scanDbRecords_eq {ρ : Type} (decode : String → Except Exc (Option String)) (table : Paged ρ)
    (item : ρ → Option String → Option AttributeValue) (request : ListingRequest) :
    scanDbRecords decode table item request = match startKeyOf decode request.cursor with
      | .error e => .error e
      | .ok (some _) => .error paramValidationError
      | .ok none => tableScan table item (mergeFilters (withoutAll request.filterList)) none := by
  unfold scanDbRecords
  rcases startKeyOf decode request.cursor with e | _ | key <;> rfl

/-- The owner that the converter reads is blank or part of the owner stored. -/
theorem contains_of_owner {row : SessionRow} {username : String}
    (h : (convertDbDictToSessionObject row).owner = some username) : contains username row.owner = true := by
  simp only [convertDbDictToSessionObject, getAsString, Option.bind_some] at h
  split at h
  · exact absurd h (by simp)
  · have hstrip : strip row.owner = username := Option.some.inj h
    rw [← hstrip]
    exact contains_strip row.owner

end ContainRes.VirtualDesktop
