import ContainRes.Common.TableScan
import ContainRes.Config.SocaConfig

/-! # Reading and deleting entries of the cluster settings

The two methods of `ClusterConfigDB` that scan the whole table, on a table that a scan may cut into pages.

* **`SettingsScan`** — how a scan cuts the table.
* **`getConfigEntries`**, **`deleteConfigEntries`** — the methods; the number of scans is bounded by fuel.
* **`settings_complete_iff`** — when they read and delete everything.
* **`offboardFilesystem`** — the deletion of the entries of a file system, by the prefix of their keys;
  **`offboardsOnly_iff`** says when no other file system loses entries. -/

namespace ContainRes.Config

open Store Text

/-- How a scan cuts the cluster-settings table into pages. -/
abbrev SettingsScan (κ : Type) : Type := TableSplit κ ConfigEntry

section Methods

variable {κ : Type} [DecidableEq κ] (settings : SettingsScan κ)

/-- What `re.compile(query)` answers: the test `pattern.match(key)`, or the text of the error. -/
abbrev RegexCompiler : Type := String → Except String (String → Bool)

/-- The test of the keys: there is none without a query. -/
def compileQuery (compile : RegexCompiler) : Option String → Except Exc (Option (String → Bool))
  | none => .ok none
  | some query =>
    if isEmpty query then .ok none
    else
      match compile query with
      | .ok pattern => .ok (some pattern)
      | .error e => .error (.invalidParams s!"invalid search regex: {query} - {e}")

/-- The item that the loop of `get_config_entries` keeps. -/
def keptEntry (pattern : Option (String → Bool)) (item : String × ConfigEntry) : Option (String × ConfigEntry) :=
  if pattern.all fun pattern => pattern item.1 then some (item.1, postProcessDdbConfigEntry item.2) else none

def getConfigEntries (compile : RegexCompiler) (t : Table String ConfigEntry) (fuel : ℕ) (query : Option String) :
    Option (Except Exc (List (String × ConfigEntry))) :=
  match compileQuery compile query with
  | .error e => some (.error e)
  | .ok pattern =>
    (scanLoop (settings.split t) (keptEntry pattern) fuel none []).map fun result =>
      result.map fun entries => entries.insertionSort fun a b => a.1 ≤ b.1

/-- `delete_config_entries(config_key_prefix)`: the result, and the table that it leaves. -/
def deleteConfigEntries (fuel : ℕ) (configKeyPrefix : String) (t : Table String ConfigEntry) :
    Option (Except Exc Unit × Table String ConfigEntry) :=
  if isEmpty configKeyPrefix then some (.error (.invalidParams "config_key_prefix is required"), t)
  else
    (scanLoop (settings.split t)
      (fun item => if startsWith item.1 configKeyPrefix then some item.1 else none) fuel none []).map fun
      | .error e => (.error e, t)
      | .ok keys => (.ok ⟨⟩, t.deleteItems keys)

end Methods

/-! ## What the methods do -/

section Complete

variable {κ : Type} [DecidableEq κ] {settings : SettingsScan κ} {t : Table String ConfigEntry}

/-- Every entry exactly once, sorted by key. -/
structure Complete (t : Table String ConfigEntry) (entries : List (String × ConfigEntry)) : Prop where
  perm : entries.Perm (t.scan.map fun item => (item.1, postProcessDdbConfigEntry item.2))
  sorted : entries.Pairwise fun a b => a.1 ≤ b.1

/-- The call returns every entry. -/
def ReadsAll (settings : SettingsScan κ) (compile : RegexCompiler) (t : Table String ConfigEntry) : Prop :=
  ∃ fuel entries, getConfigEntries settings compile t fuel none = some (.ok entries) ∧ Complete t entries

/-- The call returns, and leaves exactly the entries whose keys do not have the prefix. -/
def DeletesAll (settings : SettingsScan κ) (configKeyPrefix : String) (t : Table String ConfigEntry) : Prop :=
  ∃ fuel t', deleteConfigEntries settings fuel configKeyPrefix t = some (.ok ⟨⟩, t') ∧
    ∀ key, t'.getItem key = if startsWith key configKeyPrefix then none else t.getItem key

omit [DecidableEq κ] in
/-- What is read without a query is complete. -/
theorem complete_sorted (t : Table String ConfigEntry) (settings : SettingsScan κ) :
    Complete t (((settings.split t).rows.filterMap (keptEntry none)).insertionSort fun a b => a.1 ≤ b.1) where
  perm := by
    have hmap : (settings.split t).rows.filterMap (keptEntry none) =
        (settings.split t).rows.map fun item => (item.1, postProcessDdbConfigEntry item.2) := by
      rw [← List.filterMap_eq_map]
      rfl
    refine (List.perm_insertionSort _ _).trans ?_
    rw [hmap]
    exact (settings.perm t).map _
  sorted := by
    have htotal : Std.Total fun a b : String × ConfigEntry => a.1 ≤ b.1 := ⟨fun a b => le_total a.1 b.1⟩
    have htrans : IsTrans (String × ConfigEntry) fun a b => a.1 ≤ b.1 := ⟨fun _ _ _ => le_trans⟩
    exact List.pairwise_insertionSort _ _

/-- Everything is read exactly when one page holds it. -/
theorem readsAll_iff (compile : RegexCompiler) : ReadsAll settings compile t ↔ (settings.split t).count = 1 := by
  constructor
  · rintro ⟨fuel, entries, hrun, -⟩
    obtain ⟨result, hloop, hresult⟩ := Option.map_eq_some_iff.mp hrun
    cases result with
    | error e => cases hresult
    | ok found => exact (scanLoop_ok_iff.mp ⟨fuel, hloop⟩).1
  · intro hone
    refine ⟨1, _, ?_, complete_sorted t settings⟩
    show (scanLoop (settings.split t) (keptEntry none) 1 none []).map _ = _
    rw [scanLoop_one hone 0]
    rfl

omit [DecidableEq κ] in
/-- The keys with a prefix on the pages. -/
theorem mem_prefixed {configKeyPrefix key : String} : key ∈ ((settings.split t).rows.filterMap fun item =>
      if startsWith item.1 configKeyPrefix then some item.1 else none) ↔
      t.Has key ∧ startsWith key configKeyPrefix = true := by
  rw [List.mem_filterMap]
  constructor
  · rintro ⟨⟨key', entry⟩, hitem, hkept⟩
    split at hkept
    · next hstarts =>
        obtain rfl := Option.some.inj hkept
        exact ⟨Table.Has.of_getItem (Table.mem_scan.mp ((settings.perm t).mem_iff.mp hitem)), hstarts⟩
    · cases hkept
  · rintro ⟨hhas, hstarts⟩
    obtain ⟨entry, hentry⟩ := Table.has_iff.mp hhas
    exact ⟨(key, entry), (settings.perm t).mem_iff.mpr (Table.mem_scan.mpr hentry), if_pos hstarts⟩

variable {configKeyPrefix : String}

/-- A deletion with one page leaves the entries without the prefix. -/
theorem deleteConfigEntries_one (hone : (settings.split t).count = 1)
    (hblank : isEmpty configKeyPrefix = false) (fuel : ℕ) : ∃ t',
    deleteConfigEntries settings (fuel + 1) configKeyPrefix t = some (.ok ⟨⟩, t') ∧
      ∀ key, t'.getItem key = if startsWith key configKeyPrefix then none else t.getItem key := by
  refine ⟨t.deleteItems ((settings.split t).rows.filterMap fun item =>
    if startsWith item.1 configKeyPrefix then some item.1 else none), ?_, fun key => ?_⟩
  · rw [deleteConfigEntries, if_neg (by simp [hblank]), scanLoop_one hone fuel]
    rfl
  · rw [Table.getItem_deleteItems]
    by_cases hstarts : startsWith key configKeyPrefix = true
    · rw [if_pos hstarts]
      by_cases hhas : t.Has key
      · rw [if_pos (mem_prefixed.mpr ⟨hhas, hstarts⟩)]
      · rw [Table.not_has_iff.mp hhas, ite_self]
    · rw [if_neg fun h => hstarts (mem_prefixed.mp h).2, if_neg hstarts]

/-- A deletion with more pages leaves the table as it was. -/
theorem deleteConfigEntries_more (hmore : 1 < (settings.split t).count) {fuel : ℕ}
    {r : Except Exc Unit} {t' : Table String ConfigEntry}
    (h : deleteConfigEntries settings fuel configKeyPrefix t = some (r, t')) : t' = t ∧ ∃ e, r = .error e := by
  unfold deleteConfigEntries at h
  split at h
  · cases h
    exact ⟨rfl, _, rfl⟩
  · obtain ⟨result, hloop, hresult⟩ := Option.map_eq_some_iff.mp h
    cases result with
    | error e =>
      cases hresult
      exact ⟨rfl, e, rfl⟩
    | ok keys => exact absurd hloop (scanLoop_more_ne_ok hmore fuel keys)

/-- Everything with a prefix is deleted exactly when one page holds the table, and the prefix is not blank. -/
theorem deletesAll_iff : DeletesAll settings configKeyPrefix t ↔
      (settings.split t).count = 1 ∧ isEmpty configKeyPrefix = false := by
  have hpos := (settings.split t).count_pos
  constructor
  · rintro ⟨fuel, t', hrun, -⟩
    constructor
    · by_contra hne
      obtain ⟨-, e, he⟩ := deleteConfigEntries_more (by omega) hrun
      cases he
    · by_contra hblank
      rw [deleteConfigEntries, if_pos (by simpa using hblank)] at hrun
      cases hrun
  · rintro ⟨hone, hblank⟩
    obtain ⟨t', hrun, hleft⟩ := deleteConfigEntries_one hone hblank 0
    exact ⟨1, t', hrun, hleft⟩

end Complete

/-- Two entries. -/
def twoEntries : Table String ConfigEntry :=
  ((∅ : Table String ConfigEntry).putItem "cluster.name" ⟨some (.string "res"), 1⟩).putItem
    "cluster.region" ⟨some (.string "r"), 1⟩

section Offboarding

variable {κ : Type} [DecidableEq κ] {settings : SettingsScan κ} {t : Table String ConfigEntry}
  {filesystemName : String}

/-- The key under which the entries of a file system lie. -/
def filesystemKey (filesystemName : String) : String := "shared-storage." ++ filesystemName

def offboardFilesystem (settings : SettingsScan κ) (fuel : ℕ) (filesystemName : String)
    (t : Table String ConfigEntry) : Option (Except Exc Unit × Table String ConfigEntry) :=
  deleteConfigEntries settings fuel (filesystemKey filesystemName) t

/-- The key is that of the file system, or lies under it. -/
def OfFilesystem (filesystemName key : String) : Prop :=
  key = filesystemKey filesystemName ∨ startsWith key (filesystemKey filesystemName ++ ".") = true

instance (filesystemName key : String) : Decidable (OfFilesystem filesystemName key) :=
  inferInstanceAs (Decidable (_ ∨ _))

/-- The file system has an entry. -/
def Onboarded (filesystemName : String) (t : Table String ConfigEntry) : Prop :=
  ∃ key, t.Has key ∧ OfFilesystem filesystemName key

/-- The call ends, and what it deletes are the entries of the file system. -/
def OffboardsOnly (settings : SettingsScan κ) (filesystemName : String) (t : Table String ConfigEntry) : Prop :=
  ∃ fuel r t', offboardFilesystem settings fuel filesystemName t = some (r, t') ∧
    ∀ key, t'.getItem key = if OfFilesystem filesystemName key then none else t.getItem key

/-- Every key that begins with that of the file system is its own or lies under it. -/
def NoLongerName (filesystemName : String) (t : Table String ConfigEntry) : Prop :=
  ∀ key, t.Has key → startsWith key (filesystemKey filesystemName) = true → OfFilesystem filesystemName key

theorem startsWith_of_ofFilesystem {key : String} (h : OfFilesystem filesystemName key) :
    startsWith key (filesystemKey filesystemName) = true := by
  unfold startsWith
  rw [List.isPrefixOf_iff_prefix]
  obtain rfl | hstarts := h
  · exact List.prefix_refl _
  · unfold startsWith at hstarts
    rw [List.isPrefixOf_iff_prefix, String.toList_append] at hstarts
    exact (List.prefix_append _ _).trans hstarts

theorem isEmpty_filesystemKey (filesystemName : String) : isEmpty (filesystemKey filesystemName) = false :=
  isEmpty_append_of_not_isEmpty (by decide) _

/-- **Offboarding.** For a file system with an entry, exactly its own entries are deleted if and only if the
table is read in one page and no key begins with that of the file system and goes on with another character
than a dot. -/
theorem offboardsOnly_iff (honboarded : Onboarded filesystemName t) : OffboardsOnly settings filesystemName t ↔
      (settings.split t).count = 1 ∧ NoLongerName filesystemName t := by
  have hpos := (settings.split t).count_pos
  constructor
  · rintro ⟨fuel, r, t', hrun, hleft⟩
    have hone : (settings.split t).count = 1 := by
      by_contra hne
      obtain ⟨rfl, -⟩ := deleteConfigEntries_more (by omega) hrun
      obtain ⟨key, hhas, hown⟩ := honboarded
      have hnone := hleft key
      rw [if_pos hown] at hnone
      exact Table.not_has_iff.mpr hnone hhas
    refine ⟨hone, fun key hhas hstarts => ?_⟩
    by_contra hother
    -- the entry is deleted with those of the file system
    have hkept := hleft key
    rw [if_neg hother] at hkept
    have hgone : t'.getItem key = none := by
      cases fuel with
      | zero =>
        unfold offboardFilesystem deleteConfigEntries at hrun
        rw [if_neg (by simp [isEmpty_filesystemKey])] at hrun
        cases hrun
      | succ fuel =>
        obtain ⟨t'', hrun', hdeleted⟩ := deleteConfigEntries_one hone (isEmpty_filesystemKey filesystemName) fuel
        obtain ⟨-, rfl⟩ := Prod.mk.inj (Option.some.inj (hrun'.symm.trans hrun))
        rw [hdeleted, if_pos hstarts]
    exact Table.not_has_iff.mpr (hkept.symm.trans hgone) hhas
  · rintro ⟨hone, hlonger⟩
    obtain ⟨t', hrun, hleft⟩ := deleteConfigEntries_one hone (isEmpty_filesystemKey filesystemName) 0
    refine ⟨1, .ok ⟨⟩, t', hrun, fun key => ?_⟩
    rw [hleft]
    by_cases hown : OfFilesystem filesystemName key
    · rw [if_pos (startsWith_of_ofFilesystem hown), if_pos hown]
    · rw [if_neg hown]
      split
      · next hstarts =>
          have hnot : ¬ t.Has key := fun hhas => hown (hlonger key hhas hstarts)
          exact (Table.not_has_iff.mp hnot).symm
      · rfl

end Offboarding

/-- Two file systems, of which one name begins with the other. -/
def twoFilesystems : Table String ConfigEntry :=
  ((∅ : Table String ConfigEntry).putItem "shared-storage.fs1.provider" ⟨some (.string "efs"), 1⟩).putItem
    "shared-storage.fs10.provider" ⟨some (.string "efs"), 1⟩

theorem onboarded_twoFilesystems : Onboarded "fs1" twoFilesystems :=
  ⟨"shared-storage.fs1.provider", by decide +kernel, by decide +kernel⟩

/-- The condition for the longer name. -/
theorem offboardsOnly_longerName : OffboardsOnly (TableSplit.onePage _) "fs10" twoFilesystems ↔
    ((TableSplit.onePage _).split twoFilesystems).count = 1 ∧ NoLongerName "fs10" twoFilesystems :=
  offboardsOnly_iff ⟨"shared-storage.fs10.provider", by decide +kernel, by decide +kernel⟩

/-- **A longer name.** Offboarding `fs1` deletes the entries of `fs10`. -/
theorem longer_name_deleted : ¬ ∀ (settings : SettingsScan ℕ) (filesystemName : String)
    (t : Table String ConfigEntry), Onboarded filesystemName t → OffboardsOnly settings filesystemName t := by
  intro h
  have honly := h (TableSplit.onePage _) "fs1" twoFilesystems onboarded_twoFilesystems
  rw [offboardsOnly_iff onboarded_twoFilesystems] at honly
  have hother : OfFilesystem "fs1" "shared-storage.fs10.provider" :=
    honly.2 "shared-storage.fs10.provider" (by decide +kernel) (by decide +kernel)
  exact absurd hother (by decide +kernel)

end ContainRes.Config
