import ContainRes.VirtualDesktop.PermissionProfileDb

/-! # The permissions file of a session

`VirtualDesktopSessionPermissionUtils.generate_permissions_for_session`: the text that tells the DCV server who may
do what in a session. Its aliases are the permissions that a profile allows and denies, and its permissions give
these aliases to the guests, the administrators and the owner.

* **`profileValues`** — what a profile allows and denies.
* **`permissionsFile`**, **`PermissionsFile.text`** — the aliases and the permissions, and the text made of them.
* **`allowedBy`**, **`deniedBy`** — the same two lists, read off the profiles table.
* **`MatchesTable`** — the file says what the tables say.
* **`matchesTable_iff`** — it does exactly when the profile of every guest denies something if and only if the
  profile of the administrators does. -/

namespace ContainRes.VirtualDesktop.PermissionProfiles

open Effects Text
open SessionPermissions

/-! ## The values of a profile -/

/-- `key.replace('_', '-')`. -/
def dashed (key : String) : String := key.map fun c => if c = '_' then '-' else c

/-- The permission types whose entry is enabled, and the others. -/
def splitPermissions (profile : PermissionProfile) : List PermissionType → Except Exc (List String × List String)
  | [] => .ok ([], [])
  | permissionType :: rest =>
    match profile.getPermission permissionType.key with
    | none => .error (.other .attributeError "'NoneType' object has no attribute 'enabled'")
    | some entry => do
      let (allow, deny) ← splitPermissions profile rest
      if entry.enabled = some true then return (dashed permissionType.key :: allow, deny)
      else return (allow, dashed permissionType.key :: deny)

variable (types : PermissionTypes)

/-- What a profile allows and denies; the builtin permission stands for all others. -/
def profileValues (profile : PermissionProfile) : Except Exc (List String × List String) :=
  if (profile.getPermission "builtin").any fun permission => permission.enabled = some true then
    .ok (["builtin"], [])
  else splitPermissions profile types.types

def retrievePermissionProfileValues (profileId : Option String) :
    Proc Profiles Exc (List String × List String) := do
  let profile ← PermissionProfiles.get types profileId
  match profile with
  | none => Proc.raise (.other .attributeError "'NoneType' object has no attribute 'get_permission'")
  | some profile => Proc.liftExcept (profileValues types profile)

/-! ## The file -/

/-- Whether permissions are allowed or denied. -/
inductive Effect
  | allow
  | deny
  deriving DecidableEq, Repr

/-- Who a line of the permissions is about. -/
inductive Actor
  | guest (actorName : Option String)
  | ideaadmin
  | owner
  deriving DecidableEq, Repr

/-- A line of the aliases: the permissions that a profile allows or denies. -/
structure Alias where
  profile : Option String
  effect : Effect
  permissions : List String
  deriving DecidableEq, Repr

/-- A line of the permissions: an alias that an actor gets. -/
structure Grant where
  actor : Actor
  effect : Effect
  profile : Option String
  deriving DecidableEq, Repr

/-- The file, section by section. -/
structure PermissionsFile where
  newLine : String
  adminUsername : String
  aliases : List Alias
  grants : List Grant
  deriving DecidableEq, Repr

/-- A value that may be missing, in an f-string. -/
def formatted (value : Option String) : String := value.getD "None"

/-- The word of an effect. -/
def Effect.text : Effect → String
  | .allow => "allow"
  | .deny => "deny"

/-- The text of an actor. -/
def Actor.text : Actor → String
  | .guest actorName => formatted actorName
  | .ideaadmin => "group:ideaadmin"
  | .owner => "%owner%"

/-- `f'{profile}-allow={", ".join(allow_permissions)}'`. -/
def Alias.text (a : Alias) : String :=
  formatted a.profile ++ "-" ++ a.effect.text ++ "=" ++ ", ".intercalate a.permissions

/-- `f'{actor} allow {profile}-allow'`. -/
def Grant.text (g : Grant) : String :=
  g.actor.text ++ " " ++ g.effect.text ++ " " ++ formatted g.profile ++ "-" ++ g.effect.text

/-- The lines of the file. -/
def PermissionsFile.lines (file : PermissionsFile) : List String :=
  ["[groups]", "group:ideaadmin=user:" ++ file.adminUsername, "[aliases]"] ++ file.aliases.map Alias.text ++
    ["[permissions]"] ++ file.grants.map Grant.text

/-- The text of the file. -/
def PermissionsFile.text (file : PermissionsFile) : String :=
  String.join (file.lines.map fun line => line ++ file.newLine)

/-! ## Generating it -/

/-- The order in which the ids in a set are visited: each of them once. -/
structure ProfileOrder where
  list : List (Option String) → List (Option String)
  perm : ∀ l, (list l).Perm l.dedup

/-- The settings of the cluster that the file depends on. -/
structure PermissionSettings where
  administratorUsername : String
  adminProfile : String
  deriving DecidableEq, Repr

/-- The values of profiles by their ids. -/
abbrev ProfileCache : Type := List (Option String × List String × List String)

/-- The values of a profile in the cache, which holds all profiles that are asked for. -/
def ProfileCache.values (cache : ProfileCache) (profile : Option String) : List String × List String :=
  (cache.lookup profile).getD ([], [])

/-- The values of the profiles are retrieved. -/
def fillCache : List (Option String) → Proc Profiles Exc ProfileCache
  | [] => pure []
  | profile :: rest => do
    let values ← retrievePermissionProfileValues types profile
    let cache ← fillCache rest
    return (profile, values) :: cache

/-- The lines of the aliases for a profile: none for an empty list. -/
def aliasesOf (profile : Option String) (values : List String × List String) : List Alias :=
  (if values.1 ≠ [] then [⟨profile, .allow, values.1⟩] else []) ++
    (if values.2 ≠ [] then [⟨profile, .deny, values.2⟩] else [])

/-- The lines of the permissions for an actor; the two lists say whether there is a line. -/
def grantsOf (actor : Actor) (profile : Option String) (allow deny : List String) : List Grant :=
  (if allow ≠ [] then [⟨actor, .allow, profile⟩] else []) ++
    (if deny ≠ [] then [⟨actor, .deny, profile⟩] else [])

/-- `session_permission.permission_profile.profile_id`. -/
def profileIdOf (p : SessionPermission) : Except Exc (Option String) :=
  required p.permissionProfile (.other .attributeError "'NoneType' object has no attribute 'profile_id'")

/-- The lines for a guest: whether there is one for what is denied depends on the profile of the administrators. -/
def guestGrants (cache : ProfileCache) (adminProfile : Option String) (p : SessionPermission) : List Grant :=
  grantsOf (.guest p.actorName) p.permissionProfile.join (cache.values p.permissionProfile.join).1
    (cache.values adminProfile).2

/-- The file of a session with an operating system, for the permissions that the table holds for it. -/
def permissionsFile (order : ProfileOrder) (settings : PermissionSettings) (baseOs : BaseOS) (forBroker : Bool)
    (sessionPermissions : List SessionPermission) : Proc Profiles Exc PermissionsFile := do
  let adminProfile := some settings.adminProfile
  let ids ← Proc.liftExcept (sessionPermissions.mapM profileIdOf)
  let cache ← fillCache types (order.list (adminProfile :: ids))
  let adminValues := cache.values adminProfile
  return {
    newLine := if forBroker ∨ baseOs ≠ .windows then "\n" else "`r`n"
    adminUsername := if baseOs ≠ .windows then settings.administratorUsername else "Administrator"
    aliases := cache.flatMap fun entry => aliasesOf entry.1 entry.2
    grants := sessionPermissions.flatMap (guestGrants cache adminProfile) ++
      grantsOf .ideaadmin adminProfile adminValues.1 adminValues.2 ++
      grantsOf .owner adminProfile adminValues.1 adminValues.2 }

def generatePermissionsForSession (order : ProfileOrder) (settings : PermissionSettings) (baseOs : BaseOS)
    (forBroker : Bool) (sessionPermissions : List SessionPermission) : Proc Profiles Exc String := do
  let file ← permissionsFile types order settings baseOs forBroker sessionPermissions
  return file.text

/-! ## What the table says -/

/-- The row of an existing profile. -/
def rowOf (t : Profiles) (profileId : Option String) : Option PermissionProfileRow :=
  profileId.bind fun id => if isEmpty id then none else t.getItem id

/-- Whether the builtin permission is one of the types and is on. -/
def builtinEnabled (row : PermissionProfileRow) : Prop :=
  "builtin" ∈ types.types.map PermissionType.key ∧ row.flags "builtin" = some true

instance (row : PermissionProfileRow) : Decidable (builtinEnabled types row) := by
  unfold builtinEnabled
  infer_instance

/-- The permissions that are on, under the names of the DCV server. -/
def allowedBy (row : PermissionProfileRow) : List String :=
  if builtinEnabled types row then ["builtin"]
  else (types.types.filter fun permissionType => row.flags permissionType.key = some true).map (dashed ·.key)

/-- The permissions that are off. -/
def deniedBy (row : PermissionProfileRow) : List String :=
  if builtinEnabled types row then []
  else (types.types.filter fun permissionType => row.flags permissionType.key ≠ some true).map (dashed ·.key)

/-- The permissions that a profile allows or denies. -/
def listOf (t : Profiles) (profileId : Option String) (effect : Effect) : List String :=
  match rowOf t profileId with
  | none => []
  | some row =>
    match effect with
    | .allow => allowedBy types row
    | .deny => deniedBy types row

/-- **The file matches the tables.** -/
structure MatchesTable (t : Profiles) (adminProfile : Option String) (sessionPermissions : List SessionPermission)
    (file : PermissionsFile) : Prop where
  /-- A guest gets a line with the alias of the guest's profile when the profile's list is not empty. -/
  guests : ∀ p ∈ sessionPermissions, ∀ effect,
    ⟨.guest p.actorName, effect, p.permissionProfile.join⟩ ∈ file.grants ↔
      listOf types t p.permissionProfile.join effect ≠ []
  /-- The administrators and the owner get theirs when the list of the administrators' profile is not empty. -/
  admins : ∀ actor, actor = .ideaadmin ∨ actor = .owner → ∀ effect,
    ⟨actor, effect, adminProfile⟩ ∈ file.grants ↔ listOf types t adminProfile effect ≠ []
  /-- There are no other lines. -/
  others : ∀ grant ∈ file.grants,
    (∃ p ∈ sessionPermissions, grant.actor = .guest p.actorName ∧ grant.profile = p.permissionProfile.join) ∨
      ((grant.actor = .ideaadmin ∨ grant.actor = .owner) ∧ grant.profile = adminProfile)
  /-- Every alias that is given is defined once, as the permissions that are on or off. -/
  defined : ∀ grant ∈ file.grants,
    (file.aliases.filter fun a => a.profile = grant.profile ∧ a.effect = grant.effect) =
      [⟨grant.profile, grant.effect, listOf types t grant.profile grant.effect⟩]

/-! ## The values of existing profiles -/

section Values

variable {t : Profiles} (profileId : String) (row : PermissionProfileRow)

/-- The entries of a profile that was read from its row. -/
theorem splitPermissions_convert {sub : List PermissionType}
    (hsub : ∀ permissionType ∈ sub, permissionType ∈ types.types) :
    splitPermissions (convertDbDictToPermissionProfileObject types profileId row) sub =
      .ok ((sub.filter fun permissionType => row.flags permissionType.key = some true).map (dashed ·.key),
        (sub.filter fun permissionType => row.flags permissionType.key ≠ some true).map (dashed ·.key)) := by
  induction sub with
  | nil => rfl
  | cons permissionType rest ih =>
    obtain ⟨permission, hpermission, henabled⟩ :=
      getPermission_convert types profileId row (hsub permissionType List.mem_cons_self)
    have hrest := ih fun other hother => hsub other (List.mem_cons_of_mem _ hother)
    unfold splitPermissions
    rw [hpermission, hrest]
    by_cases hflag : row.flags permissionType.key = some true
    · rw [hflag] at henabled
      simp [bind, Except.bind, henabled, hflag, pure, Except.pure]
    · have hoff : permission.enabled ≠ some true := by
        rw [henabled]
        cases hvalue : row.flags permissionType.key with
        | none => simp
        | some b =>
          rw [hvalue] at hflag
          simpa using hflag
      simp [bind, Except.bind, hoff, hflag, pure, Except.pure]

/-- Whether a profile that was read from its row has the builtin permission. -/
theorem builtin_convert : (((convertDbDictToPermissionProfileObject types profileId row).getPermission "builtin").any
        fun permission => permission.enabled = some true) = true ↔ builtinEnabled types row := by
  by_cases hmem : "builtin" ∈ types.types.map PermissionType.key
  · obtain ⟨permissionType, htype, hkey⟩ := List.mem_map.mp hmem
    obtain ⟨permission, hpermission, henabled⟩ := getPermission_convert types profileId row htype
    rw [hkey] at hpermission henabled
    rw [hpermission, Option.any_some, decide_eq_true_iff, henabled, builtinEnabled, and_iff_right hmem]
    cases row.flags "builtin" <;> simp
  · have hnone : (convertDbDictToPermissionProfileObject types profileId row).getPermission "builtin" = none := by
      rw [PermissionProfile.getPermission, List.find?_eq_none]
      intro permission hpermission
      obtain ⟨permissionType, htype, rfl⟩ := List.mem_map.mp hpermission
      have hne : permissionType.key ≠ "builtin" := fun h => hmem (h ▸ List.mem_map_of_mem htype)
      simpa using hne
    rw [hnone]
    exact iff_of_false (by simp) fun h => hmem h.1

/-- The values of a profile that was read from its row. -/
theorem profileValues_convert : profileValues types (convertDbDictToPermissionProfileObject types profileId row) =
      .ok (allowedBy types row, deniedBy types row) := by
  unfold profileValues allowedBy deniedBy
  by_cases hbuiltin : builtinEnabled types row
  · rw [if_pos ((builtin_convert types profileId row).mpr hbuiltin), if_pos hbuiltin, if_pos hbuiltin]
  · rw [if_neg fun h => hbuiltin ((builtin_convert types profileId row).mp h), if_neg hbuiltin, if_neg hbuiltin]
    exact splitPermissions_convert types profileId row fun _ h => h

/-- The two lists of a profile. -/
def valuesOf (t : Profiles) (profileId : Option String) : List String × List String :=
  (listOf types t profileId .allow, listOf types t profileId .deny)

/-- The values of an existing profile are retrieved. -/
theorem run_retrievePermissionProfileValues {profileId : Option String} (h : (rowOf t profileId).isSome) :
    (retrievePermissionProfileValues types profileId).run t = (.ok (valuesOf types t profileId), t) := by
  obtain ⟨row, hrow⟩ := Option.isSome_iff_exists.mp h
  cases profileId with
  | none => cases hrow
  | some id =>
    have hnonblank : isEmpty id = false := by
      by_contra hblank
      rw [rowOf, Option.bind_some, if_pos (by simpa using hblank)] at hrow
      cases hrow
    have hitem : t.getItem id = some row := by
      rw [rowOf, Option.bind_some, if_neg (by simp [hnonblank])] at hrow
      exact hrow
    unfold retrievePermissionProfileValues valuesOf listOf
    rw [Proc.run_bind_of_ok (run_get types hnonblank t), hitem, hrow]
    dsimp only [Option.map_some]
    rw [profileValues_convert, Proc.run_liftExcept]

variable {ids : List (Option String)}

/-- The cache of existing profiles. -/
theorem run_fillCache (h : ∀ id ∈ ids, (rowOf t id).isSome) :
    (fillCache types ids).run t = (.ok (ids.map fun id => (id, valuesOf types t id)), t) := by
  induction ids with
  | nil => rfl
  | cons id ids ih =>
    have hhead := run_retrievePermissionProfileValues types (h id List.mem_cons_self)
    have htail := ih fun other hother => h other (List.mem_cons_of_mem _ hother)
    unfold fillCache
    rw [Proc.run_bind_of_ok hhead, Proc.run_bind_of_ok htail]
    rfl

variable {id : Option String}

/-- What is looked up in the cache is there. -/
theorem values_map (f : Option String → List String × List String) (h : id ∈ ids) :
    ProfileCache.values (ids.map fun id => (id, f id)) id = f id := by
  unfold ProfileCache.values
  induction ids with
  | nil => exact absurd h List.not_mem_nil
  | cons other ids ih =>
    rw [List.map_cons, List.lookup_cons]
    by_cases hsame : id = other
    · rw [hsame, beq_self_eq_true]
      rfl
    · have hfalse : (id == other) = false := by simpa using hsame
      rw [hfalse]
      exact ih ((List.mem_cons.mp h).resolve_left hsame)

/-- A list made of the pieces for different elements, when only one of them has a piece. -/
theorem flatMap_eq_of_nodup {α β : Type} {xs : List α} {piece : α → List β} {x : α} (hnodup : xs.Nodup)
    (hmem : x ∈ xs) (hothers : ∀ y ∈ xs, y ≠ x → piece y = []) : xs.flatMap piece = piece x := by
  induction xs with
  | nil => exact absurd hmem List.not_mem_nil
  | cons y ys ih =>
    obtain ⟨hnot, hnodup'⟩ := List.nodup_cons.mp hnodup
    rw [List.flatMap_cons]
    by_cases hsame : y = x
    · subst hsame
      have hrest : ys.flatMap piece = [] := by
        rw [List.flatMap_eq_nil_iff]
        exact fun z hz => hothers z (List.mem_cons_of_mem _ hz) fun h => hnot (h ▸ hz)
      rw [hrest, List.append_nil]
    · rw [hothers y List.mem_cons_self hsame, List.nil_append]
      exact ih hnodup' ((List.mem_cons.mp hmem).resolve_left (Ne.symm hsame))
        fun z hz => hothers z (List.mem_cons_of_mem _ hz)

/-- The lines that an actor gets. -/
theorem mem_grantsOf {actor : Actor} {profile : Option String} {allow deny : List String} {grant : Grant} :
    grant ∈ grantsOf actor profile allow deny ↔ grant.actor = actor ∧ grant.profile = profile ∧
        ((grant.effect = .allow ∧ allow ≠ []) ∨ (grant.effect = .deny ∧ deny ≠ [])) := by
  obtain ⟨grantActor, effect, grantProfile⟩ := grant
  unfold grantsOf
  by_cases hallow : allow = [] <;> by_cases hdeny : deny = [] <;> cases effect <;> simp [hallow, hdeny]

/-- The definitions of one alias among the aliases of all profiles. -/
theorem filter_aliases (f : Option String → List String × List String)
    (hnodup : ids.Nodup) (hmem : id ∈ ids) (effect : Effect) :
    ((ids.map fun id => (id, f id)).flatMap fun entry => aliasesOf entry.1 entry.2).filter
        (fun a => a.profile = id ∧ a.effect = effect) = (aliasesOf id (f id)).filter fun a => a.effect = effect := by
  have hprofile : ∀ other, ∀ a ∈ aliasesOf other (f other), a.profile = other := by
    intro other a ha
    unfold aliasesOf at ha
    rw [List.mem_append] at ha
    rcases ha with ha | ha
    · split at ha
      · rw [List.mem_singleton.mp ha]
      · exact absurd ha List.not_mem_nil
    · split at ha
      · rw [List.mem_singleton.mp ha]
      · exact absurd ha List.not_mem_nil
  rw [List.flatMap_map, List.filter_flatMap, flatMap_eq_of_nodup hnodup hmem]
  · refine List.filter_congr fun a ha => ?_
    simp [hprofile id a ha]
  · intro other _ hne
    rw [List.filter_eq_nil_iff]
    intro a ha
    rw [hprofile other a ha]
    simp [hne]

/-! ## Whether the file matches -/

variable (t) in
/-- The file that is generated for existing profiles. -/
def fileOf (order : ProfileOrder) (settings : PermissionSettings) (baseOs : BaseOS) (forBroker : Bool)
    (sessionPermissions : List SessionPermission) : PermissionsFile where
  newLine := if forBroker ∨ baseOs ≠ .windows then "\n" else "`r`n"
  adminUsername := if baseOs ≠ .windows then settings.administratorUsername else "Administrator"
  aliases :=
    ((order.list (some settings.adminProfile :: sessionPermissions.map (·.permissionProfile.join))).map fun id =>
      (id, valuesOf types t id)).flatMap fun entry => aliasesOf entry.1 entry.2
  grants :=
    (sessionPermissions.flatMap fun p =>
      grantsOf (.guest p.actorName) p.permissionProfile.join (listOf types t p.permissionProfile.join .allow)
        (listOf types t (some settings.adminProfile) .deny)) ++
      grantsOf .ideaadmin (some settings.adminProfile) (listOf types t (some settings.adminProfile) .allow)
        (listOf types t (some settings.adminProfile) .deny) ++
      grantsOf .owner (some settings.adminProfile) (listOf types t (some settings.adminProfile) .allow)
        (listOf types t (some settings.adminProfile) .deny)

variable (order : ProfileOrder) (settings : PermissionSettings) (baseOs : BaseOS) (forBroker : Bool)
  {sessionPermissions : List SessionPermission}

theorem mem_order : id ∈ order.list (some settings.adminProfile :: sessionPermissions.map (·.permissionProfile.join)) ↔
      id = some settings.adminProfile ∨ ∃ p ∈ sessionPermissions, p.permissionProfile.join = id := by
  rw [(order.perm _).mem_iff, List.mem_dedup, List.mem_cons, List.mem_map]

/-- The file is generated when the profiles exist. -/
theorem run_permissionsFile (hadmin : (rowOf t (some settings.adminProfile)).isSome)
    (hrows : ∀ p ∈ sessionPermissions, (rowOf t p.permissionProfile.join).isSome) :
    (permissionsFile types order settings baseOs forBroker sessionPermissions).run t =
      (.ok (fileOf types t order settings baseOs forBroker sessionPermissions), t) := by
  have hids : sessionPermissions.mapM profileIdOf = .ok (sessionPermissions.map (·.permissionProfile.join)) := by
    clear hadmin
    induction sessionPermissions with
    | nil => rfl
    | cons p ps ih =>
      have hp := hrows p List.mem_cons_self
      have hhead : profileIdOf p = .ok p.permissionProfile.join := by
        cases hprofile : p.permissionProfile with
        | none =>
          rw [hprofile] at hp
          cases hp
        | some id =>
          unfold profileIdOf
          rw [hprofile]
          rfl
      rw [List.mapM_cons, hhead, ih fun q hq => hrows q (List.mem_cons_of_mem _ hq)]
      rfl
  have hexist : ∀ id ∈ order.list (some settings.adminProfile :: sessionPermissions.map (·.permissionProfile.join)),
      (rowOf t id).isSome := by
    intro id hid
    rcases (mem_order order settings).mp hid with rfl | ⟨p, hp, rfl⟩
    · exact hadmin
    · exact hrows p hp
  have hcached : ∀ id, (id = some settings.adminProfile ∨ ∃ p ∈ sessionPermissions, p.permissionProfile.join = id) →
      ProfileCache.values ((order.list (some settings.adminProfile ::
        sessionPermissions.map (·.permissionProfile.join))).map fun id => (id, valuesOf types t id)) id =
          valuesOf types t id := by
    intro id hid
    exact values_map _ ((mem_order order settings).mpr hid)
  unfold permissionsFile
  dsimp only
  rw [hids, Proc.run_bind_of_ok (Proc.run_liftExcept _ t), Proc.run_bind_of_ok (run_fillCache types hexist)]
  rw [Proc.run_pure, hcached _ (.inl rfl)]
  have hguests : sessionPermissions.flatMap (guestGrants ((order.list (some settings.adminProfile ::
      sessionPermissions.map (·.permissionProfile.join))).map fun id => (id, valuesOf types t id))
        (some settings.adminProfile)) =
      sessionPermissions.flatMap fun p =>
        grantsOf (.guest p.actorName) p.permissionProfile.join (listOf types t p.permissionProfile.join .allow)
          (listOf types t (some settings.adminProfile) .deny) := by
    refine List.flatMap_congr fun p hp => ?_
    unfold guestGrants
    rw [hcached _ (.inl rfl), hcached _ (.inr ⟨p, hp, rfl⟩)]
    rfl
  rw [hguests]
  rfl

/-- The lines of the permissions. -/
theorem mem_grants {grant : Grant} :
    grant ∈ (fileOf types t order settings baseOs forBroker sessionPermissions).grants ↔
      (∃ p ∈ sessionPermissions, grant.actor = .guest p.actorName ∧ grant.profile = p.permissionProfile.join ∧
        ((grant.effect = .allow ∧ listOf types t p.permissionProfile.join .allow ≠ []) ∨
          (grant.effect = .deny ∧ listOf types t (some settings.adminProfile) .deny ≠ []))) ∨
      ((grant.actor = .ideaadmin ∨ grant.actor = .owner) ∧ grant.profile = some settings.adminProfile ∧
        listOf types t (some settings.adminProfile) grant.effect ≠ []) := by
  have heffect : ((grant.effect = .allow ∧ listOf types t (some settings.adminProfile) .allow ≠ []) ∨
      (grant.effect = .deny ∧ listOf types t (some settings.adminProfile) .deny ≠ [])) ↔
      listOf types t (some settings.adminProfile) grant.effect ≠ [] := by
    cases grant.effect <;> simp
  simp only [fileOf, List.mem_append, List.mem_flatMap, mem_grantsOf, heffect]
  constructor
  · rintro ((hguest | ⟨hactor, hprofile, hlist⟩) | ⟨hactor, hprofile, hlist⟩)
    · exact .inl hguest
    · exact .inr ⟨.inl hactor, hprofile, hlist⟩
    · exact .inr ⟨.inr hactor, hprofile, hlist⟩
  · rintro (hguest | ⟨hactor | hactor, hprofile, hlist⟩)
    · exact .inl (.inl hguest)
    · exact .inl (.inr ⟨hactor, hprofile, hlist⟩)
    · exact .inr ⟨hactor, hprofile, hlist⟩

/-- The definitions of the alias of a profile. -/
theorem filter_aliases_fileOf (effect : Effect)
    (hid : id = some settings.adminProfile ∨ ∃ p ∈ sessionPermissions, p.permissionProfile.join = id) :
    ((fileOf types t order settings baseOs forBroker sessionPermissions).aliases.filter fun a =>
        a.profile = id ∧ a.effect = effect) =
      if listOf types t id effect ≠ [] then [⟨id, effect, listOf types t id effect⟩] else [] := by
  have hnodup : (order.list (some settings.adminProfile :: sessionPermissions.map (·.permissionProfile.join))).Nodup :=
    (order.perm _).nodup_iff.mpr (List.nodup_dedup _)
  have hmem := (mem_order order settings).mpr hid
  refine (filter_aliases (valuesOf types t) hnodup hmem effect).trans ?_
  unfold aliasesOf valuesOf
  cases effect <;> by_cases hallow : listOf types t id .allow = [] <;>
    by_cases hdeny : listOf types t id .deny = [] <;> simp [hallow, hdeny]

/-- **The permissions file.** For existing profiles the file is generated, and it matches the tables exactly when
the profile of every guest denies something if and only if the profile of the administrators does. -/
theorem matchesTable_iff (hadmin : (rowOf t (some settings.adminProfile)).isSome)
    (hrows : ∀ p ∈ sessionPermissions, (rowOf t p.permissionProfile.join).isSome) :
    ∃ file, (permissionsFile types order settings baseOs forBroker sessionPermissions).run t = (.ok file, t) ∧
      (generatePermissionsForSession types order settings baseOs forBroker sessionPermissions).run t =
        (.ok file.text, t) ∧ (MatchesTable types t (some settings.adminProfile) sessionPermissions file ↔
        ∀ p ∈ sessionPermissions, (listOf types t p.permissionProfile.join .deny = [] ↔
          listOf types t (some settings.adminProfile) .deny = [])) := by
  have hrun := run_permissionsFile types order settings baseOs forBroker hadmin hrows
  refine ⟨_, hrun, ?_, ?_⟩
  · unfold generatePermissionsForSession
    rw [Proc.run_bind_of_ok hrun]
    rfl
  constructor
  · intro hmatch p hp
    -- the line for what is denied is there when the administrators' list is not empty
    have hline := hmatch.guests p hp .deny
    rw [mem_grants] at hline
    have hgrant : (∃ q ∈ sessionPermissions, Actor.guest p.actorName = .guest q.actorName ∧
        p.permissionProfile.join = q.permissionProfile.join ∧
          ((Effect.deny = .allow ∧ listOf types t q.permissionProfile.join .allow ≠ []) ∨
            (Effect.deny = .deny ∧ listOf types t (some settings.adminProfile) .deny ≠ []))) ↔
        listOf types t (some settings.adminProfile) .deny ≠ [] := by
      constructor
      · rintro ⟨q, -, -, -, (⟨habsurd, -⟩ | ⟨-, hlist⟩)⟩
        · cases habsurd
        · exact hlist
      · intro hlist
        exact ⟨p, hp, rfl, rfl, .inr ⟨rfl, hlist⟩⟩
    have hnot : ¬ ((Actor.guest p.actorName = .ideaadmin ∨ Actor.guest p.actorName = .owner) ∧
        p.permissionProfile.join = some settings.adminProfile ∧
          listOf types t (some settings.adminProfile) .deny ≠ []) := by
      rintro ⟨hactor | hactor, -⟩ <;> cases hactor
    exact not_iff_not.mp (hline.symm.trans ((or_iff_left hnot).trans hgrant))
  · intro hagree
    have hdeny : ∀ p ∈ sessionPermissions, ∀ effect : Effect,
        ((effect = .allow ∧ listOf types t p.permissionProfile.join .allow ≠ []) ∨
          (effect = .deny ∧ listOf types t (some settings.adminProfile) .deny ≠ [])) ↔
        listOf types t p.permissionProfile.join effect ≠ [] := by
      intro p hp effect
      have hlists := not_iff_not.mpr (hagree p hp)
      cases effect with
      | allow => simp
      | deny => simpa using hlists.symm
    refine ⟨?_, ?_, ?_, ?_⟩
    · intro p hp effect
      rw [mem_grants]
      constructor
      · rintro (⟨q, hq, -, hprofile, hlist⟩ | ⟨hactor, -⟩)
        · rw [hdeny q hq] at hlist
          dsimp only at hprofile hlist
          rw [hprofile]
          exact hlist
        · rcases hactor with hactor | hactor <;> cases hactor
      · intro hlist
        exact .inl ⟨p, hp, rfl, rfl, (hdeny p hp effect).mpr hlist⟩
    · intro actor hactor effect
      rw [mem_grants]
      constructor
      · rintro (⟨q, -, hguest, -⟩ | ⟨-, -, hlist⟩)
        · rcases hactor with rfl | rfl <;> cases hguest
        · exact hlist
      · intro hlist
        exact .inr ⟨hactor, rfl, hlist⟩
    · intro grant hgrant
      rw [mem_grants] at hgrant
      rcases hgrant with ⟨p, hp, hactor, hprofile, -⟩ | ⟨hactor, hprofile, -⟩
      · exact .inl ⟨p, hp, hactor, hprofile⟩
      · exact .inr ⟨hactor, hprofile⟩
    · intro grant hgrant
      rw [mem_grants] at hgrant
      rcases hgrant with ⟨p, hp, -, hprofile, hlist⟩ | ⟨-, hprofile, hlist⟩
      · rw [hdeny p hp, ← hprofile] at hlist
        rw [filter_aliases_fileOf types order settings baseOs forBroker grant.effect (.inr ⟨p, hp, hprofile.symm⟩),
          if_pos hlist]
      · rw [← hprofile] at hlist
        rw [filter_aliases_fileOf types order settings baseOs forBroker grant.effect (.inl hprofile), if_pos hlist]

end Values

/-! ## A guest who is denied nothing -/

/-- The permissions of a small configuration. -/
def someTypes : PermissionTypes where
  types := [⟨"builtin", none, none⟩, ⟨"file_upload", none, none⟩, ⟨"display", none, none⟩]
  nodup := by decide

/-- The profile of the administrators, which has the builtin permission. -/
def adminRow : PermissionProfileRow where
  title := none
  description := none
  flags key := if key = "builtin" then some true else none

/-- A profile whose guests may only look. -/
def observerRow : PermissionProfileRow where
  title := none
  description := none
  flags key := if key = "display" then some true else none

/-- The two profiles. -/
def twoProfiles : Profiles :=
  ((∅ : Profiles).putItem "admin_profile" adminRow).putItem "observer_profile" observerRow

/-- Erin may look at a session of dora. -/
def erinObserves : SessionPermission where
  ideaSessionId := some "session-1"
  ideaSessionOwner := some "dora"
  ideaSessionName := none
  ideaSessionInstanceType := none
  ideaSessionState := none
  ideaSessionBaseOs := some .amazonLinux2
  ideaSessionType := some .virtual
  permissionProfile := some (some "observer_profile")
  actorType := some .user
  actorName := some "erin"
  expiryDate := none

/-- The settings of the cluster. -/
def someSettings : PermissionSettings := ⟨"clusteradmin", "admin_profile"⟩

/-- The profiles in the order of the first additions. -/
def ProfileOrder.dedup : ProfileOrder := ⟨List.dedup, fun _ => List.Perm.refl _⟩

theorem existing_profiles : (rowOf twoProfiles (some someSettings.adminProfile)).isSome ∧
    ∀ p ∈ [erinObserves], (rowOf twoProfiles p.permissionProfile.join).isSome := by
  constructor
  · decide
  · intro p hp
    rw [List.mem_singleton.mp hp]
    decide

/-- The file of the session of dora. -/
theorem matchesTable_iff_erin :
    ∃ file, (permissionsFile someTypes .dedup someSettings .amazonLinux2 true [erinObserves]).run twoProfiles =
        (.ok file, twoProfiles) ∧
      (generatePermissionsForSession someTypes .dedup someSettings .amazonLinux2 true [erinObserves]).run twoProfiles =
        (.ok file.text, twoProfiles) ∧
      (MatchesTable someTypes twoProfiles (some someSettings.adminProfile) [erinObserves] file ↔
        ∀ p ∈ [erinObserves], (listOf someTypes twoProfiles p.permissionProfile.join .deny = [] ↔
          listOf someTypes twoProfiles (some someSettings.adminProfile) .deny = [])) :=
  matchesTable_iff someTypes .dedup someSettings .amazonLinux2 true existing_profiles.1 existing_profiles.2

/-- **An observer who is denied nothing.** Erin's profile denies two permissions, and the file has no line that
denies them. -/
theorem observer_denied_nothing :
    ∃ file, (permissionsFile someTypes .dedup someSettings .amazonLinux2 true [erinObserves]).run twoProfiles =
        (.ok file, twoProfiles) ∧
      ¬ MatchesTable someTypes twoProfiles (some someSettings.adminProfile) [erinObserves] file := by
  refine ⟨_, run_permissionsFile someTypes .dedup someSettings .amazonLinux2 true existing_profiles.1
    existing_profiles.2, fun hmatch => ?_⟩
  have hline := hmatch.guests erinObserves (List.mem_singleton_self _) .deny
  have hdenied : listOf someTypes twoProfiles erinObserves.permissionProfile.join .deny ≠ [] := by decide
  have habsent : ¬ (⟨.guest erinObserves.actorName, .deny, erinObserves.permissionProfile.join⟩ : Grant) ∈
      (fileOf someTypes twoProfiles .dedup someSettings .amazonLinux2 true [erinObserves]).grants := by decide
  exact habsent (hline.mpr hdenied)

end ContainRes.VirtualDesktop.PermissionProfiles
