import ContainRes.Config.DecimalValues
import ContainRes.Config.SocaConfig
import ContainRes.Effects.Collecting
import ContainRes.Store.InsertionDict

/-! # The update of the settings of a module

`ClusterSettings.UpdateModuleSettings` flattens a nested object of settings, writes all of them to the table in one
transaction, and puts them into the local configuration one by one.

* **`Settings`**, **`flattenDict`** — a nested object, and its leaves under their joined keys.
* **`transactSetClusterSettings`** — the transaction; a value is typed by its look.
* **`updateModuleSettings`** — the method of the API.
* **`StoresOrNothing`** — a call with admissible settings succeeds and stores each of them with its type in both
  places; and a call that fails changes nothing.
* **`storesOrNothing_iff`** — the settings for which that is so. -/

namespace ContainRes.Config

open DecimalValues (FloatFormat Number ReadValue)
open Effects Numbers Store Text

/-! ## Settings -/

/-- A value of a setting that is no object. -/
inductive Leaf (F : Type)
  | text (s : String)
  | int (n : ℤ)
  | float (x : F)
  | bool (b : Bool)
  | null
  | list

/-- An object of settings: its entries in order, each a value or an object of its own. -/
inductive Settings (F : Type)
  | empty
  | leaf (key : String) (value : Leaf F) (rest : Settings F)
  | object (key : String) (entries : Settings F) (rest : Settings F)

variable {F : Type}

/-- The key below a parent. -/
def newKey (parentKey key : String) : String := if parentKey = "" then key else parentKey ++ "." ++ key

/-- The items that `flatten_dict` collects, before they are made a dictionary. -/
def flattenItems (parentKey : String) : Settings F → List (String × Leaf F)
  | .empty => []
  | .leaf key value rest => (newKey parentKey key, value) :: flattenItems parentKey rest
  | .object key entries rest =>
    (InsertionDict.ofList (flattenItems (newKey parentKey key) entries)).entries ++ flattenItems parentKey rest

def flattenDict (settings : Settings F) : InsertionDict String (Leaf F) :=
  InsertionDict.ofList (flattenItems "" settings)

/-- All values of an object with their joined keys; a key may be there more than once. -/
def leavesUnder (parentKey : String) : Settings F → List (String × Leaf F)
  | .empty => []
  | .leaf key value rest => (newKey parentKey key, value) :: leavesUnder parentKey rest
  | .object key entries rest => leavesUnder (newKey parentKey key) entries ++ leavesUnder parentKey rest

/-- The given values under their flattened keys. -/
def leaves (settings : Settings F) : List (String × Leaf F) := leavesUnder "" settings

variable {e : String × Leaf F}

theorem mem_leaves_of_mem_items (settings : Settings F) (parentKey : String)
    (h : e ∈ flattenItems parentKey settings) : e ∈ leavesUnder parentKey settings := by
  induction settings generalizing parentKey with
  | empty => exact h
  | leaf key value rest ih =>
    rcases List.mem_cons.mp h with rfl | hlater
    · exact List.mem_cons_self
    · exact List.mem_cons_of_mem _ (ih _ hlater)
  | object key entries rest ihEntries ihRest =>
    rcases List.mem_append.mp h with hentry | hlater
    · exact List.mem_append_left _ (ihEntries _ (InsertionDict.mem_of_mem_ofList hentry))
    · exact List.mem_append_right _ (ihRest _ hlater)

variable {key : String}

theorem exists_item_of_mem_leaves {value : Leaf F} (settings : Settings F) (parentKey : String)
    (h : (key, value) ∈ leavesUnder parentKey settings) :
    ∃ value', (key, value') ∈ flattenItems parentKey settings := by
  induction settings generalizing parentKey value with
  | empty => exact ⟨value, h⟩
  | leaf key' value' rest ih =>
    rcases List.mem_cons.mp h with heq | hlater
    · exact ⟨value, List.mem_cons.mpr (.inl heq)⟩
    · obtain ⟨value'', hmem⟩ := ih _ hlater
      exact ⟨value'', List.mem_cons_of_mem _ hmem⟩
  | object key' entries rest ihEntries ihRest =>
    rcases List.mem_append.mp h with hentry | hlater
    · obtain ⟨value', hmem⟩ := ihEntries _ hentry
      obtain ⟨value'', hdict⟩ := InsertionDict.exists_mem_ofList hmem
      exact ⟨value'', List.mem_append_left _ hdict⟩
    · obtain ⟨value', hmem⟩ := ihRest _ hlater
      exact ⟨value', List.mem_append_right _ hmem⟩

theorem mem_leaves_of_mem_flatten {settings : Settings F}
    (h : e ∈ (flattenDict settings).entries) : e ∈ leaves settings :=
  mem_leaves_of_mem_items settings "" (InsertionDict.mem_of_mem_ofList h)

/-- Every given value has an entry under its key, which may be another value with this key. -/
theorem exists_mem_flatten {value : Leaf F} {settings : Settings F}
    (h : (key, value) ∈ leaves settings) : ∃ value', (key, value') ∈ (flattenDict settings).entries := by
  obtain ⟨value', hitem⟩ := exists_item_of_mem_leaves settings "" h
  exact InsertionDict.exists_mem_ofList hitem

/-! ## The table and the local configuration -/

/-- The `value` of a row of the settings table. -/
inductive StoredSetting
  | text (s : String)
  | bool (b : Bool)
  | numeric (stored : DecimalValues.Stored)

/-- A row of the settings table. -/
structure SettingRow where
  value : StoredSetting
  version : ℕ
  updatedOn : Option String

/-- The settings table; no key lies under another one. -/
structure SettingsTable where
  rows : Table String SettingRow
  separate : SeparateKeys rows.Has

/-- The local configuration: the operations of the tree, under keys that do not lie under each other. -/
structure LocalTree (V : Type) where
  T : Type
  put : T → String → Option V → T
  get : T → String → Option V
  get_put_self : ∀ config key value, PlainKey key → get (put config key value) key = value
  get_put_of_independent : ∀ config key key' value, PlainKey key → PlainKey key' → Independent key key' →
    get (put config key value) key' = get config key'

/-- What is outside the method: floats, `str.isdigit` of a character, what the table answers for a number that it is
sent as a text, unless it refuses the text, the tree of the local configuration, and the time. -/
structure SettingsEnv (F : Type) where
  floats : FloatFormat F
  isDigit : Char → Bool
  numberOf : String → Option Decimal
  value_numberOf : ∀ {n : ℤ} {d}, numberOf (toString n) = some d → d.value = n
  tree : LocalTree (Leaf F)
  currentTime : String

variable (env : SettingsEnv F)

/-- The table and the local configuration of the cluster manager. -/
structure SettingsState where
  table : SettingsTable
  config : env.tree.T

/-- A value that was read. -/
inductive ReadSetting (F : Type)
  | text (s : String)
  | bool (b : Bool)
  | numeric (value : ReadValue F)

/-- `ClusterConfigDB.post_process_ddb_config_entry` on the value of a row. -/
def readSetting : StoredSetting → Except Exc (ReadSetting F)
  | .text s => .ok (.text s)
  | .bool b => .ok (.bool b)
  | .numeric stored => (DecimalValues.checkAndConvertDecimalValue env.floats stored).map .numeric

/-- The value that a given value is read as when it was stored with its type. -/
def Leaf.asRead : Leaf F → Option (ReadSetting F)
  | .text s => some (.text s)
  | .int n => some (.numeric (.number (.int n)))
  | .float x => some (.numeric (.number (.float x)))
  | .bool b => some (.bool b)
  | .null => none
  | .list => none

/-- `SocaConfig.put` hands no blank text on. -/
def Leaf.noneIfEmpty : Leaf F → Option (Leaf F)
  | .text s => if isEmpty s then none else some (.text s)
  | .null => none
  | value => some value

/-! ## The method -/

def isdigit (s : String) : Bool := s ≠ "" && s.toList.all env.isDigit

/-- A value in a transaction, with its type. -/
inductive WriteValue
  | S (s : String)
  | N (text : String)

/-- The value of a setting in the transaction. -/
def writeValue (setting : String) : Leaf F → Except Exc WriteValue
  | .list => .error (.invalidParams s!"Unable to support map or list setting: {setting}")
  | .int n => .ok (.N (toString n))
  | .text s => if isdigit env s then .ok (.N s) else .ok (.S s)
  | .float _ => .error (.other .attributeError "'float' object has no attribute 'isdigit'")
  | .bool _ => .error (.other .attributeError "'bool' object has no attribute 'isdigit'")
  | .null => .error (.other .attributeError "'NoneType' object has no attribute 'isdigit'")

/-- What the table holds for a value that it is sent; it refuses a text that is no number. -/
def storedValue : WriteValue → Option StoredSetting
  | .S s => some (.text s)
  | .N text => (env.numberOf text).map fun d => .numeric (.number d)

/-- A row after an update. -/
def SettingRow.updated (row : SettingRow) (value : StoredSetting) : SettingRow where
  value := value
  version := row.version + 1
  updatedOn := some env.currentTime

/-- The rows after the updates of a transaction. -/
def SettingsTable.written (t : SettingsTable) (writes : List (String × StoredSetting)) : SettingsTable where
  rows := t.rows.filterMapItems fun key row => some (match writes.find? fun write => write.1 = key with
    | some write => row.updated env write.2
    | none => row)
  separate := by
    have hhas : ∀ key, (t.rows.filterMapItems fun key row => some (match writes.find? fun write => write.1 = key with
        | some write => row.updated env write.2
        | none => row)).Has key → t.rows.Has key := fun key hkey => by
      obtain ⟨row, hrow⟩ := Table.has_iff.mp hkey
      rw [Table.getItem_filterMapItems] at hrow
      obtain ⟨old, hold, -⟩ := Option.bind_eq_some_iff.mp hrow
      exact .of_getItem hold
    exact ⟨fun key h => t.separate.plain key (hhas key h),
      fun key key' h h' hne => t.separate.independent key key' (hhas key h) (hhas key' h') hne⟩

/-- The value of an item that the table holds, under its key. -/
def storedItem (item : String × WriteValue) : Option (String × StoredSetting) :=
  (storedValue env item.2).map fun value => (item.1, value)

/-- `transact_write_items` of updates with the condition that their keys are there: all or none. -/
def transactWriteItems (items : List (String × WriteValue)) (t : SettingsTable) : Option SettingsTable :=
  if items = [] ∨ 100 < items.length ∨ ∃ item ∈ items, ¬ t.rows.Has item.1 then none
  else (items.mapM (storedItem env)).map (t.written env)

/-- The item of the transaction for a setting. -/
def transactItem (moduleId : String) (setting : String × Leaf F) : Except Exc (String × WriteValue) :=
  (writeValue env setting.1 setting.2).map fun value => (moduleId ++ "." ++ setting.1, value)

def transactSetClusterSettings (moduleId : String) (settings : List (String × Leaf F)) :
    Proc (SettingsState env) Exc PUnit := do
  let items ← Proc.liftExcept (settings.mapM (transactItem env moduleId))
  let table ← Proc.gets SettingsState.table
  match transactWriteItems env items table with
  | none => Proc.raise (.soca .generalError "Something went wrong.")
  | some table => Proc.modify fun s => { s with table := table }

/-- `self.config.put(key, value)`. -/
def putLocal (key : String) (value : Leaf F) : Proc (SettingsState env) Exc PUnit :=
  Proc.modify fun s => { s with config := env.tree.put s.config key value.noneIfEmpty }

/-- `ClusterSettingsAPI.update_module_settings`; the settings of the request may be no object. -/
def updateModuleSettings (moduleId : Option String) (settings : Option (Settings F)) :
    Proc (SettingsState env) Exc PUnit :=
  match moduleId with
  | none => Proc.raise (.invalidParams "module_id is required")
  | some moduleId =>
    if isEmpty moduleId then Proc.raise (.invalidParams "module_id is required")
    else match settings with
      | none => Proc.raise (.invalidParams "invalid settings")
      | some settings => do
        let settings := (flattenDict settings).entries
        if 100 < settings.length then Proc.raise (.invalidParams "only 100 settings can be updated at once")
        else
          transactSetClusterSettings env moduleId settings
          Proc.forEach (fun setting => putLocal env (moduleId ++ "." ++ setting.1) setting.2) settings

/-! ## What the transaction writes -/

/-- The key of a setting in the table and in the local configuration. -/
def settingKey (moduleId : String) (setting : String × Leaf F) : String := moduleId ++ "." ++ setting.1

/-- The write of the transaction for a setting. -/
structure WritesFor (moduleId : String) (setting : String × Leaf F) (write : String × StoredSetting) : Prop where
  key : write.1 = settingKey moduleId setting
  value : ∃ value, writeValue env setting.1 setting.2 = .ok value ∧ storedValue env value = some write.2

variable {env} {moduleId : String}

theorem settingKey_inj {e e' : String × Leaf F} (h : settingKey moduleId e = settingKey moduleId e') : e.1 = e'.1 :=
  (String.append_right_inj (moduleId ++ ".")).mp h

variable {setting : String × Leaf F}

theorem transactItem_eq_ok {item : String × WriteValue} : transactItem env moduleId setting = .ok item ↔
      item.1 = settingKey moduleId setting ∧ writeValue env setting.1 setting.2 = .ok item.2 := by
  unfold transactItem
  cases writeValue env setting.1 setting.2 with
  | error e =>
    constructor
    · exact fun h => nomatch h
    · exact fun h => nomatch h.2
  | ok value =>
    constructor
    · intro h
      rw [← Except.ok.inj h]
      exact ⟨rfl, rfl⟩
    · rintro ⟨hkey, hvalue⟩
      rw [Except.ok.inj hvalue]
      exact congrArg Except.ok (Prod.ext hkey.symm rfl)

variable {write : String × StoredSetting}

theorem storedItem_eq_some {item : String × WriteValue} :
    storedItem env item = some write ↔ write.1 = item.1 ∧ storedValue env item.2 = some write.2 := by
  unfold storedItem
  rw [Option.map_eq_some_iff]
  constructor
  · rintro ⟨value, hvalue, rfl⟩
    exact ⟨rfl, hvalue⟩
  · rintro ⟨hkey, hvalue⟩
    exact ⟨write.2, hvalue, Prod.ext hkey.symm rfl⟩

variable {writes : List (String × StoredSetting)} {settings : List (String × Leaf F)}

/-- The items of the settings are there and can all be stored when each setting has a write. -/
theorem exists_items_iff :
    (∃ items, settings.mapM (transactItem env moduleId) = .ok items ∧ items.mapM (storedItem env) = some writes) ↔
      List.Forall₂ (WritesFor env moduleId) settings writes := by
  induction settings generalizing writes with
  | nil =>
    rw [List.forall₂_nil_left_iff]
    constructor
    · rintro ⟨items, hitems, hwrites⟩
      rw [← Except.ok.inj hitems] at hwrites
      exact (Option.some.inj hwrites).symm
    · rintro rfl
      exact ⟨[], rfl, rfl⟩
  | cons setting settings ih =>
    rw [List.forall₂_cons_left_iff]
    constructor
    · rintro ⟨items, hitems, hwrites⟩
      rw [List.mapM_cons] at hitems
      obtain ⟨item, hitem, hrest⟩ := bind_eq_ok.mp hitems
      obtain ⟨later, hlater, hcons⟩ := bind_eq_ok.mp hrest
      rw [← Except.ok.inj hcons, List.mapM_cons] at hwrites
      obtain ⟨write, hwrite, hmore⟩ := Option.bind_eq_some_iff.mp hwrites
      obtain ⟨writes', hwrites', hall⟩ := Option.bind_eq_some_iff.mp hmore
      obtain ⟨hkey, hvalue⟩ := transactItem_eq_ok.mp hitem
      obtain ⟨hsame, hstored⟩ := storedItem_eq_some.mp hwrite
      exact ⟨write, writes', ⟨hsame.trans hkey, item.2, hvalue, hstored⟩, ih.mp ⟨later, hlater, hwrites'⟩,
        (Option.some.inj hall).symm⟩
    · rintro ⟨write, writes', ⟨hkey, value, hvalue, hstored⟩, hall, rfl⟩
      obtain ⟨later, hlater, hwrites'⟩ := ih.mpr hall
      refine ⟨(settingKey moduleId setting, value) :: later, ?_, ?_⟩
      · have hitem : transactItem env moduleId setting = .ok (settingKey moduleId setting, value) :=
          transactItem_eq_ok.mpr ⟨rfl, hvalue⟩
        rw [List.mapM_cons, hitem, hlater]
        rfl
      · have hwrite : storedItem env (settingKey moduleId setting, value) = some write :=
          storedItem_eq_some.mpr ⟨hkey, hstored⟩
        rw [List.mapM_cons, hwrite, hwrites']
        rfl

theorem keys_of_items {items : List (String × WriteValue)} (h : settings.mapM (transactItem env moduleId) = .ok items) :
    items.map Prod.fst = settings.map (settingKey moduleId) := by
  induction settings generalizing items with
  | nil =>
    rw [← Except.ok.inj h]
    rfl
  | cons setting settings ih =>
    rw [List.mapM_cons] at h
    obtain ⟨item, hitem, hrest⟩ := bind_eq_ok.mp h
    obtain ⟨later, hlater, hcons⟩ := bind_eq_ok.mp hrest
    rw [← Except.ok.inj hcons, List.map_cons, List.map_cons, ih hlater, (transactItem_eq_ok.mp hitem).1]

theorem keys_of_writes (h : List.Forall₂ (WritesFor env moduleId) settings writes) :
    writes.map Prod.fst = settings.map (settingKey moduleId) :=
  map_eq_of_forall₂ (fun _ _ hwrite => hwrite.key) h

/-- **The transaction**: there are settings, but not too many; the table has their keys; and each has a write. -/
theorem returns_transactSetClusterSettings {s t : SettingsState env} :
    (transactSetClusterSettings env moduleId settings).run s = (.ok ⟨⟩, t) ↔
      settings ≠ [] ∧ settings.length ≤ 100 ∧ (∀ setting ∈ settings, s.table.rows.Has (settingKey moduleId setting)) ∧
        ∃ writes, List.Forall₂ (WritesFor env moduleId) settings writes ∧
          t = { s with table := s.table.written env writes } := by
  unfold transactSetClusterSettings
  cases hitems : settings.mapM (transactItem env moduleId) with
  | error e =>
    constructor
    · exact fun h => nomatch congrArg Prod.fst h
    · rintro ⟨-, -, -, writes, hwrites, -⟩
      obtain ⟨items, hok, -⟩ := exists_items_iff.mpr hwrites
      rw [hitems] at hok
      exact nomatch hok
  | ok items =>
    have hkeys := keys_of_items hitems
    have hlength : items.length = settings.length := by
      simpa only [List.length_map] using congrArg List.length hkeys
    have hhas : (∃ item ∈ items, ¬ s.table.rows.Has item.1) ↔
        ∃ setting ∈ settings, ¬ s.table.rows.Has (settingKey moduleId setting) := by
      constructor
      · rintro ⟨item, hitem, hnot⟩
        have hmem : item.1 ∈ settings.map (settingKey moduleId) := hkeys ▸ List.mem_map_of_mem hitem
        obtain ⟨setting, hsetting, hkey⟩ := List.mem_map.mp hmem
        exact ⟨setting, hsetting, hkey ▸ hnot⟩
      · rintro ⟨setting, hsetting, hnot⟩
        have hmem : settingKey moduleId setting ∈ items.map Prod.fst := hkeys ▸ List.mem_map_of_mem hsetting
        obtain ⟨item, hitem, hkey⟩ := List.mem_map.mp hmem
        exact ⟨item, hitem, hkey ▸ hnot⟩
    have hnil : items = [] ↔ settings = [] := by
      rw [← List.length_eq_zero_iff, hlength, List.length_eq_zero_iff]
    rw [Proc.run_bind_of_ok (Proc.run_liftExcept _ s), Proc.run_bind_of_ok (Proc.run_gets SettingsState.table s)]
    unfold transactWriteItems
    by_cases hbad : items = [] ∨ 100 < items.length ∨ ∃ item ∈ items, ¬ s.table.rows.Has item.1
    · rw [if_pos hbad]
      rw [hnil, hlength, hhas] at hbad
      constructor
      · exact fun h => nomatch congrArg Prod.fst h
      · rintro ⟨hne, hfew, hknown, -⟩
        rcases hbad with hempty | hmany | ⟨setting, hsetting, hnot⟩
        · exact absurd hempty hne
        · omega
        · exact absurd (hknown setting hsetting) hnot
    · rw [if_neg hbad]
      rw [hnil, hlength, hhas] at hbad
      push Not at hbad
      obtain ⟨hne, hfew, hknown⟩ := hbad
      cases hwrites : items.mapM (storedItem env) with
      | none =>
        constructor
        · exact fun h => nomatch congrArg Prod.fst h
        · rintro ⟨-, -, -, writes, hall, -⟩
          obtain ⟨items', hok, hsome⟩ := exists_items_iff.mpr hall
          rw [hitems] at hok
          rw [← Except.ok.inj hok, hwrites] at hsome
          exact nomatch hsome
      | some writes =>
        have hall := exists_items_iff.mp ⟨items, hitems, hwrites⟩
        constructor
        · intro h
          exact ⟨hne, hfew, hknown, writes, hall, (congrArg Prod.snd h).symm⟩
        · rintro ⟨-, -, -, writes', hall', rfl⟩
          obtain ⟨items', hok, hsome⟩ := exists_items_iff.mpr hall'
          rw [hitems] at hok
          rw [← Except.ok.inj hok, hwrites] at hsome
          rw [← Option.some.inj hsome]
          rfl

/-- A failed transaction leaves the state as it is. -/
theorem transactSetClusterSettings_error {s t : SettingsState env} {e : Exc}
    (h : (transactSetClusterSettings env moduleId settings).run s = (.error e, t)) : t = s := by
  unfold transactSetClusterSettings at h
  cases hitems : settings.mapM (transactItem env moduleId) with
  | error e' =>
    rw [hitems] at h
    exact (congrArg Prod.snd h).symm
  | ok items =>
    rw [hitems, Proc.run_bind_of_ok (Proc.run_liftExcept _ s),
      Proc.run_bind_of_ok (Proc.run_gets SettingsState.table s)] at h
    cases hwritten : transactWriteItems env items s.table with
    | none =>
      rw [hwritten] at h
      exact (congrArg Prod.snd h).symm
    | some table =>
      rw [hwritten] at h
      exact nomatch congrArg Prod.fst h

/-- A write is found by its key when no other one has the key. -/
theorem find_write (hnodup : (writes.map Prod.fst).Nodup) (h : write ∈ writes) :
    writes.find? (fun w => w.1 = write.1) = some write := by
  induction writes with
  | nil => exact absurd h List.not_mem_nil
  | cons first rest ih =>
    rw [List.map_cons, List.nodup_cons] at hnodup
    rcases List.mem_cons.mp h with rfl | hlater
    · exact List.find?_cons_of_pos (by simp)
    · have hne : ¬ first.1 = write.1 := fun heq => hnodup.1 (heq ▸ List.mem_map_of_mem hlater)
      rw [List.find?_cons_of_neg (by simpa using hne)]
      exact ih hnodup.2 hlater

/-- A row that is written has the value, and one version more. -/
theorem getItem_written_of_mem {t : SettingsTable}
    (hnodup : (writes.map Prod.fst).Nodup) (h : write ∈ writes) {row : SettingRow}
    (hrow : t.rows.getItem write.1 = some row) :
    (t.written env writes).rows.getItem write.1 = some (row.updated env write.2) := by
  unfold SettingsTable.written
  rw [Table.getItem_filterMapItems, hrow, Option.bind_some, find_write hnodup h]

/-- A row that is not written stays. -/
theorem getItem_written_of_not_mem {t : SettingsTable}
    (h : key ∉ writes.map Prod.fst) : (t.written env writes).rows.getItem key = t.rows.getItem key := by
  have hfind : writes.find? (fun write => write.1 = key) = none := by
    rw [List.find?_eq_none]
    intro write hwrite heq
    exact h (List.mem_map.mpr ⟨write, hwrite, of_decide_eq_true heq⟩)
  unfold SettingsTable.written
  rw [Table.getItem_filterMapItems, hfind]
  cases t.rows.getItem key <;> rfl

/-! ## What is put into the local configuration -/

/-- The local configuration after the settings are put into it. -/
def putAll (env : SettingsEnv F) (moduleId : String) (settings : List (String × Leaf F)) (config : env.tree.T) :
    env.tree.T :=
  settings.foldl (fun config setting => env.tree.put config (settingKey moduleId setting) setting.2.noneIfEmpty) config

theorem run_forEach_putLocal (settings : List (String × Leaf F)) (s : SettingsState env) :
    (Proc.forEach (fun setting => putLocal env (moduleId ++ "." ++ setting.1) setting.2) settings).run s =
      (.ok ⟨⟩, { s with config := putAll env moduleId settings s.config }) := by
  induction settings generalizing s with
  | nil => rfl
  | cons setting settings ih =>
    rw [Proc.forEach_cons]
    unfold putLocal
    rw [Proc.run_bind_of_ok (Proc.run_modify _ s)]
    exact ih _

variable {t : SettingsTable} {settings : List (String × Leaf F)}

/-- The other keys keep their values. -/
theorem get_putAll_of_not_mem (hin : ∀ setting ∈ settings, t.rows.Has (settingKey moduleId setting))
    (hkey : t.rows.Has key) (hnot : key ∉ settings.map (settingKey moduleId)) (config : env.tree.T) :
    env.tree.get (putAll env moduleId settings config) key = env.tree.get config key := by
  induction settings generalizing config with
  | nil => rfl
  | cons setting settings ih =>
    rw [List.map_cons, List.mem_cons, not_or] at hnot
    have hhas := hin setting List.mem_cons_self
    refine (ih (fun e he => hin e (List.mem_cons_of_mem _ he)) hnot.2 _).trans ?_
    exact env.tree.get_put_of_independent _ _ _ _ (t.separate.plain _ hhas) (t.separate.plain _ hkey)
      (t.separate.independent _ _ hhas hkey (Ne.symm hnot.1))

/-- A setting whose key no other one has can be got afterwards, unless it is blank. -/
theorem get_putAll_of_mem (hin : ∀ setting ∈ settings, t.rows.Has (settingKey moduleId setting))
    (hnodup : (settings.map (settingKey moduleId)).Nodup) (hmem : setting ∈ settings) (config : env.tree.T) :
    env.tree.get (putAll env moduleId settings config) (settingKey moduleId setting) = setting.2.noneIfEmpty := by
  induction settings generalizing config with
  | nil => exact absurd hmem List.not_mem_nil
  | cons first settings ih =>
    rw [List.map_cons, List.nodup_cons] at hnodup
    have hlater : ∀ e ∈ settings, t.rows.Has (settingKey moduleId e) := fun e he => hin e (List.mem_cons_of_mem _ he)
    rcases List.mem_cons.mp hmem with rfl | hrest
    · have hhas := hin setting List.mem_cons_self
      refine (get_putAll_of_not_mem hlater hhas hnodup.1 _).trans ?_
      exact env.tree.get_put_self _ _ _ (t.separate.plain _ hhas)
    · exact ih hlater hnodup.2 hrest _

/-! ## What is asked for is stored, or nothing -/

/-- The settings of the call: strings, integers, floats and booleans; at most 100 once they are flattened; and the
table has their keys. -/
structure Qualifies (s : SettingsState env) (moduleId : String) (settings : Settings F) : Prop where
  module : isEmpty moduleId = false
  typed : ∀ setting ∈ leaves settings, ∃ read, setting.2.asRead = some read
  few : (flattenDict settings).entries.length ≤ 100
  known : ∀ setting ∈ leaves settings, s.table.rows.Has (settingKey moduleId setting)

/-- Both places have each given value with its type under its key, and nothing else is changed. -/
structure StoresAll (s s' : SettingsState env) (moduleId : String) (settings : Settings F) : Prop where
  inTable : ∀ setting ∈ leaves settings, ∃ row read, s'.table.rows.getItem (settingKey moduleId setting) = some row ∧
    readSetting env row.value = .ok read ∧ setting.2.asRead = some read
  inConfig : ∀ setting ∈ leaves settings, env.tree.get s'.config (settingKey moduleId setting) = some setting.2
  others : ∀ key, (∀ setting ∈ leaves settings, key ≠ settingKey moduleId setting) →
    s'.table.rows.getItem key = s.table.rows.getItem key ∧
      (s.table.rows.Has key → env.tree.get s'.config key = env.tree.get s.config key)

/-- **What is asked for is stored, or nothing.** -/
def StoresOrNothing (s : SettingsState env) (moduleId : Option String) (settings : Option (Settings F)) : Prop :=
  (∀ id given, moduleId = some id → settings = some given → Qualifies s id given →
    ∃ s', (updateModuleSettings env moduleId settings).run s = (.ok ⟨⟩, s') ∧ StoresAll s s' id given) ∧
  ∀ e s', (updateModuleSettings env moduleId settings).run s = (.error e, s') → s' = s

/-- A value that has its type after it was stored: a text that is neither digits nor blank, or an integer that the
table takes and answers without a power of ten. -/
def KeepsType (env : SettingsEnv F) : Leaf F → Prop
  | .text s => isdigit env s = false ∧ isEmpty s = false
  | .int n => ∃ d, env.numberOf (toString n) = some d ∧ d.exponent = 0
  | .float _ => False
  | .bool _ => False
  | .null => False
  | .list => False

/-- The settings that are stored: there are some, a key has one value, and all values keep their types. -/
structure Storable (env : SettingsEnv F) (settings : Settings F) : Prop where
  nonempty : leaves settings ≠ []
  coherent : ∀ e ∈ leaves settings, ∀ e' ∈ leaves settings, e.1 = e'.1 → e.2 = e'.2
  keepsType : ∀ e ∈ leaves settings, KeepsType env e.2

variable {read : ReadSetting F}

theorem readSetting_number {d : Decimal} : readSetting env (.numeric (.number d)) = .ok read ↔
      ∃ n, DecimalValues.convertDecimal env.floats d = .ok n ∧ read = .numeric (.number n) := by
  show ((DecimalValues.convertDecimal env.floats d).map _).map _ = _ ↔ _
  cases DecimalValues.convertDecimal env.floats d with
  | error e =>
    constructor
    · exact fun h => nomatch h
    · exact fun ⟨_, h, _⟩ => nomatch h
  | ok n =>
    constructor
    · exact fun h => ⟨n, rfl, (Except.ok.inj h).symm⟩
    · rintro ⟨n', hn', rfl⟩
      rw [← Except.ok.inj hn']
      rfl

/-- A decimal of an integer is read as the integer when it has no power of ten. -/
theorem convertDecimal_eq_int_iff {floats : FloatFormat F} {d : Decimal} {n : ℤ} (hvalue : d.value = n) :
    DecimalValues.convertDecimal floats d = .ok (.int n) ↔ d.exponent = 0 := by
  unfold DecimalValues.convertDecimal
  constructor
  · intro h
    by_contra hexponent
    split at h
    · exact nomatch Except.ok.inj h
    · rename_i hpoint
      rw [DecimalValues.parseInt_scientific (mt Decimal.point_mem_text.mpr hpoint) hexponent] at h
      exact nomatch h
  · intro h
    obtain ⟨m, hparse, hm⟩ := DecimalValues.parseInt_of_exponent_zero h
    rw [hvalue] at hm
    rw [if_neg (mt Decimal.point_mem_text.mp (DecimalValues.not_hasPoint_of_exponent_zero h)), hparse,
      Int.cast_injective hm]

theorem not_writesFor {e : Exc} (h : writeValue env setting.1 setting.2 = .error e)
    (write : String × StoredSetting) : ¬ WritesFor env moduleId setting write := by
  rintro ⟨-, value, hvalue, -⟩
  rw [h] at hvalue
  exact nomatch hvalue

/-- **A value keeps its type** when it has a write that is read as the value, and is no blank text. -/
theorem keepsType_iff (hread : setting.2.asRead = some read) :
    KeepsType env setting.2 ↔ (∃ write, WritesFor env moduleId setting write ∧ readSetting env write.2 = .ok read) ∧
        setting.2.noneIfEmpty = some setting.2 := by
  obtain ⟨key, value⟩ := setting
  cases value with
  | text s =>
    rw [← Option.some.inj hread]
    show isdigit env s = false ∧ isEmpty s = false ↔ _
    constructor
    · rintro ⟨hdigit, hblank⟩
      refine ⟨⟨(settingKey moduleId (key, .text s), .text s), ⟨rfl, .S s, ?_, rfl⟩, rfl⟩, ?_⟩
      · exact if_neg (by rw [hdigit]; exact Bool.false_ne_true)
      · exact if_neg (by rw [hblank]; exact Bool.false_ne_true)
    · rintro ⟨⟨write, ⟨-, value, hvalue, hstored⟩, hback⟩, hlocal⟩
      constructor
      · -- digits are stored as a number
        by_contra hdigit
        have hnumber : writeValue env key (.text s) = .ok (.N s) := if_pos (by simpa using hdigit)
        rw [hnumber] at hvalue
        rw [← Except.ok.inj hvalue] at hstored
        obtain ⟨d, -, hd⟩ := Option.map_eq_some_iff.mp hstored
        rw [← hd] at hback
        obtain ⟨n, -, hn⟩ := readSetting_number.mp hback
        exact nomatch hn
      · by_contra hblank
        have hnone : (Leaf.text s : Leaf F).noneIfEmpty = none := if_pos (by simpa using hblank)
        rw [hnone] at hlocal
        exact nomatch hlocal
  | int n =>
    rw [← Option.some.inj hread]
    constructor
    · rintro ⟨d, hd, hexponent⟩
      have hconvert : DecimalValues.convertDecimal env.floats d = .ok (.int n) :=
        (convertDecimal_eq_int_iff (env.value_numberOf hd)).mpr hexponent
      refine ⟨⟨(settingKey moduleId (key, .int n), .numeric (.number d)), ⟨rfl, .N (toString n), rfl, ?_⟩, ?_⟩, rfl⟩
      · show (env.numberOf (toString n)).map _ = _
        rw [hd]
        rfl
      · exact readSetting_number.mpr ⟨.int n, hconvert, rfl⟩
    · rintro ⟨⟨write, ⟨-, value, hvalue, hstored⟩, hback⟩, -⟩
      rw [← Except.ok.inj hvalue] at hstored
      obtain ⟨d, hd, hwrite⟩ := Option.map_eq_some_iff.mp hstored
      rw [← hwrite] at hback
      obtain ⟨m, hconvert, hm⟩ := readSetting_number.mp hback
      have hsame : DecimalValues.Number.int n = m := by simpa using hm
      rw [← hsame] at hconvert
      exact ⟨d, hd, (convertDecimal_eq_int_iff (env.value_numberOf hd)).mp hconvert⟩
  | float x =>
    constructor
    · exact False.elim
    · rintro ⟨⟨write, hwrite, -⟩, -⟩
      exact not_writesFor rfl write hwrite
  | bool b =>
    constructor
    · exact False.elim
    · rintro ⟨⟨write, hwrite, -⟩, -⟩
      exact not_writesFor rfl write hwrite
  | null => exact nomatch hread
  | list => exact nomatch hread

variable {given : Settings F}

/-- The run of a call that passes the checks. -/
theorem returns_updateModuleSettings {moduleId : String} {s s' : SettingsState env}
    (hmodule : isEmpty moduleId = false) (hfew : (flattenDict given).entries.length ≤ 100) :
    (updateModuleSettings env (some moduleId) (some given)).run s = (.ok ⟨⟩, s') ↔
      ∃ t, (transactSetClusterSettings env moduleId (flattenDict given).entries).run s = (.ok ⟨⟩, t) ∧
        s' = { t with config := putAll env moduleId (flattenDict given).entries t.config } := by
  have hrun : updateModuleSettings env (some moduleId) (some given) =
      (transactSetClusterSettings env moduleId (flattenDict given).entries >>= fun _ =>
        Proc.forEach (fun setting => putLocal env (moduleId ++ "." ++ setting.1) setting.2)
          (flattenDict given).entries) := by
    unfold updateModuleSettings
    dsimp only
    rw [hmodule, if_neg Bool.false_ne_true, if_neg (by omega)]
  rw [hrun]
  refine Proc.returns_bind.trans ?_
  constructor
  · rintro ⟨⟨⟩, t, htransact, hputs⟩
    have hall : _ = (Except.ok PUnit.unit, s') := hputs
    rw [run_forEach_putLocal] at hall
    exact ⟨t, htransact, (congrArg Prod.snd hall).symm⟩
  · rintro ⟨t, htransact, rfl⟩
    exact ⟨⟨⟩, t, htransact, run_forEach_putLocal _ t⟩

/-- A call that fails changes nothing: only the transaction can fail, and the puts come after it. -/
theorem updateModuleSettings_error {moduleId : Option String} {settings : Option (Settings F)}
    {s s' : SettingsState env} {e : Exc}
    (h : (updateModuleSettings env moduleId settings).run s = (.error e, s')) : s' = s := by
  unfold updateModuleSettings at h
  cases moduleId with
  | none => exact (congrArg Prod.snd h).symm
  | some moduleId =>
    dsimp only at h
    split at h
    · exact (congrArg Prod.snd h).symm
    cases settings with
    | none => exact (congrArg Prod.snd h).symm
    | some given =>
      dsimp only at h
      split at h
      · exact (congrArg Prod.snd h).symm
      rcases htransact : (transactSetClusterSettings env moduleId (flattenDict given).entries).run s with ⟨r, t⟩
      cases r with
      | error e' =>
        rw [Proc.run_bind_of_error htransact] at h
        have hstate : t = s' := congrArg Prod.snd h
        rw [← hstate]
        exact transactSetClusterSettings_error htransact
      | ok u =>
        rw [Proc.run_bind_of_ok htransact, run_forEach_putLocal] at h
        exact nomatch congrArg Prod.fst h

theorem nodup_settingKeys (moduleId : String) (given : Settings F) :
    ((flattenDict given).entries.map (settingKey moduleId)).Nodup := by
  have hkeys : ((flattenDict given).entries.map Prod.fst).Nodup := (flattenDict given).nodup
  exact List.Nodup.map_on
    (fun e he e' he' heq => List.inj_on_of_nodup_map hkeys he he' (settingKey_inj heq)) (List.Nodup.of_map _ hkeys)

/-- The write of a setting is the only one. -/
theorem WritesFor.unique {write write' : String × StoredSetting}
    (h : WritesFor env moduleId setting write) (h' : WritesFor env moduleId setting write') : write.2 = write'.2 := by
  obtain ⟨value, hvalue, hstored⟩ := h.value
  obtain ⟨value', hvalue', hstored'⟩ := h'.value
  rw [hvalue] at hvalue'
  rw [Except.ok.inj hvalue', hstored'] at hstored
  exact (Option.some.inj hstored).symm

/-- **A setting after the call**: both places have its value with its type exactly when the value keeps its type. -/
theorem stored_iff {s : SettingsState env}
    (hknown : ∀ setting ∈ settings, s.table.rows.Has (settingKey moduleId setting))
    (hnodup : (settings.map (settingKey moduleId)).Nodup)
    (hwrites : List.Forall₂ (WritesFor env moduleId) settings writes) (hmem : setting ∈ settings)
    (hread : setting.2.asRead = some read) :
    ((∃ row read', (s.table.written env writes).rows.getItem (settingKey moduleId setting) = some row ∧
        readSetting env row.value = .ok read' ∧ setting.2.asRead = some read') ∧
      env.tree.get (putAll env moduleId settings s.config) (settingKey moduleId setting) = some setting.2) ↔
      KeepsType env setting.2 := by
  obtain ⟨write, hwrite, hfor⟩ := exists_of_forall₂ hwrites hmem
  obtain ⟨old, hold⟩ := Table.has_iff.mp (hknown setting hmem)
  have hrow : (s.table.written env writes).rows.getItem (settingKey moduleId setting) =
      some (old.updated env write.2) := by
    rw [← hfor.key] at hold ⊢
    exact getItem_written_of_mem ((keys_of_writes hwrites).symm ▸ hnodup) hwrite hold
  rw [keepsType_iff hread, get_putAll_of_mem hknown hnodup hmem, hrow]
  refine and_congr ?_ Iff.rfl
  constructor
  · rintro ⟨row, read', hsome, hback, hread'⟩
    rw [← Option.some.inj hsome] at hback
    rw [hread] at hread'
    exact ⟨write, hfor, (Option.some.inj hread').symm ▸ hback⟩
  · rintro ⟨write', hfor', hback⟩
    refine ⟨old.updated env write.2, read, rfl, ?_, hread⟩
    show readSetting env write.2 = _
    rw [hfor.unique hfor', hback]

/-- Where a key has one value, the flattened settings are the given ones. -/
theorem mem_flatten_of_coherent (hcoherent : ∀ e ∈ leaves given, ∀ e' ∈ leaves given, e.1 = e'.1 → e.2 = e'.2)
    (h : e ∈ leaves given) : e ∈ (flattenDict given).entries := by
  obtain ⟨key, value⟩ := e
  obtain ⟨value', hvalue'⟩ := exists_mem_flatten h
  have hsame : value = value' := hcoherent _ h _ (mem_leaves_of_mem_flatten hvalue') rfl
  rw [hsame]
  exact hvalue'

theorem flatten_eq_nil_iff : (flattenDict given).entries = [] ↔ leaves given = [] := by
  rw [List.eq_nil_iff_forall_not_mem, List.eq_nil_iff_forall_not_mem]
  constructor
  · rintro h ⟨key, value⟩ he
    obtain ⟨value', hvalue'⟩ := exists_mem_flatten he
    exact h _ hvalue'
  · exact fun h e he => h e (mem_leaves_of_mem_flatten he)

/-- Settings that each have a write have a list of writes. -/
theorem exists_writes (h : ∀ setting ∈ settings, ∃ write, WritesFor env moduleId setting write) :
    ∃ writes, List.Forall₂ (WritesFor env moduleId) settings writes := by
  induction settings with
  | nil => exact ⟨[], .nil⟩
  | cons setting settings ih =>
    obtain ⟨write, hwrite⟩ := h setting List.mem_cons_self
    obtain ⟨writes, hwrites⟩ := ih fun e he => h e (List.mem_cons_of_mem _ he)
    exact ⟨write :: writes, .cons hwrite hwrites⟩

/-- **When settings are stored**: the settings that qualify are there, a key has one value, and each value keeps its
type. A call that fails changes nothing in any case. -/
theorem storesOrNothing_iff (s : SettingsState env) (moduleId : Option String) (settings : Option (Settings F)) :
    StoresOrNothing s moduleId settings ↔
      ∀ id given, moduleId = some id → settings = some given → Qualifies s id given → Storable env given := by
  constructor
  · rintro ⟨hstores, -⟩ id given rfl rfl hqualifies
    obtain ⟨s', hrun, hall⟩ := hstores id given rfl rfl hqualifies
    obtain ⟨t, htransact, rfl⟩ := (returns_updateModuleSettings hqualifies.module hqualifies.few).mp hrun
    obtain ⟨hne, -, hknown, writes, hwrites, rfl⟩ := (returns_transactSetClusterSettings).mp htransact
    have hcoherent : ∀ e ∈ leaves given, ∀ e' ∈ leaves given, e.1 = e'.1 → e.2 = e'.2 := by
      intro e he e' he' hkey
      have hget := hall.inConfig e he
      rw [show settingKey id e = settingKey id e' from congrArg (id ++ "." ++ ·) hkey, hall.inConfig e' he'] at hget
      exact (Option.some.inj hget).symm
    refine ⟨fun hnil => hne (flatten_eq_nil_iff.mpr hnil), hcoherent, fun e he => ?_⟩
    obtain ⟨read, hread⟩ := hqualifies.typed e he
    exact (stored_iff hknown (nodup_settingKeys id given) hwrites (mem_flatten_of_coherent hcoherent he) hread).mp
      ⟨hall.inTable e he, hall.inConfig e he⟩
  · intro h
    refine ⟨?_, fun e s' hrun => updateModuleSettings_error hrun⟩
    rintro id given rfl rfl hqualifies
    obtain ⟨hne, hcoherent, hkeeps⟩ := h id given rfl rfl hqualifies
    have hknown : ∀ e ∈ (flattenDict given).entries, s.table.rows.Has (settingKey id e) := fun e he =>
      hqualifies.known e (mem_leaves_of_mem_flatten he)
    obtain ⟨writes, hwrites⟩ : ∃ writes, List.Forall₂ (WritesFor env id) (flattenDict given).entries writes := by
      refine exists_writes fun e he => ?_
      obtain ⟨read, hread⟩ := hqualifies.typed e (mem_leaves_of_mem_flatten he)
      obtain ⟨⟨write, hwrite, -⟩, -⟩ := (keepsType_iff hread).mp (hkeeps e (mem_leaves_of_mem_flatten he))
      exact ⟨write, hwrite⟩
    have htransact := (returns_transactSetClusterSettings (s := s)).mpr
      ⟨fun hnil => hne (flatten_eq_nil_iff.mp hnil), hqualifies.few, hknown, writes, hwrites, rfl⟩
    refine ⟨_, (returns_updateModuleSettings hqualifies.module hqualifies.few).mpr ⟨_, htransact, rfl⟩, ?_⟩
    have hiff := fun {e} (he : e ∈ leaves given) {read} (hread : e.2.asRead = some read) =>
      stored_iff hknown (nodup_settingKeys id given) hwrites (mem_flatten_of_coherent hcoherent he) hread
    refine ⟨fun e he => ?_, fun e he => ?_, fun key hkey => ?_⟩
    · obtain ⟨read, hread⟩ := hqualifies.typed e he
      exact ((hiff he hread).mpr (hkeeps e he)).1
    · obtain ⟨read, hread⟩ := hqualifies.typed e he
      exact ((hiff he hread).mpr (hkeeps e he)).2
    · have hnot : key ∉ (flattenDict given).entries.map (settingKey id) := by
        rintro hmem
        obtain ⟨e, he, rfl⟩ := List.mem_map.mp hmem
        exact hkey e (mem_leaves_of_mem_flatten he) rfl
      constructor
      · exact getItem_written_of_not_mem ((keys_of_writes hwrites).symm ▸ hnot)
      · exact fun hhas => get_putAll_of_not_mem hknown hhas hnot s.config

/-! ### A setting that is a boolean -/

/-- The text of an integer is the text of its decimal. -/
theorem text_ofInt (n : ℤ) : (Decimal.ofInt n).text = toString n := by
  apply String.toList_inj.mp
  rw [Decimal.text_of_exponent_zero rfl]
  cases n with
  | ofNat m =>
    have hneg : (Decimal.ofInt (Int.ofNat m)).negative = false := by simp [Decimal.ofInt]
    rw [Decimal.signPart, hneg]
    show _ = (Nat.repr m).toList
    simp [Nat.repr, Decimal.digits, Decimal.ofInt]
  | negSucc m =>
    have hneg : (Decimal.ofInt (Int.negSucc m)).negative = true := decide_eq_true (Int.negSucc_lt_zero m)
    rw [Decimal.signPart, hneg]
    show _ = ("-" ++ Nat.repr (m + 1)).toList
    simp [Nat.repr, Decimal.digits, Decimal.ofInt]

theorem parseInt_toString (n : ℤ) : parseInt (toString n) = some n := by
  obtain ⟨m, hparse, hvalue⟩ := DecimalValues.parseInt_of_exponent_zero (d := Decimal.ofInt n) rfl
  rw [Decimal.value_ofInt] at hvalue
  rw [← text_ofInt, hparse, Int.cast_injective hvalue]

theorem Independent.ne {key key' : String} (h : Independent key key') : key' ≠ key := by
  rintro rfl
  exact h.1 (List.prefix_refl _)

/-- A local configuration that is a function of the keys. -/
def functionTree (V : Type) : LocalTree V where
  T := String → Option V
  put config key value := Function.update config key value
  get config key := config key
  get_put_self _ _ _ _ := Function.update_self _ _ _
  get_put_of_independent _ _ _ _ _ _ h := Function.update_of_ne h.ne _ _

/-- Numbers with a half, and the tree of functions. -/
def smallEnv : SettingsEnv ℤ where
  floats := DecimalValues.halves
  isDigit := Char.isDigit
  numberOf text := (parseInt text).map Decimal.ofInt
  value_numberOf := by
    intro n d h
    rw [parseInt_toString] at h
    rw [← Option.some.inj h, Decimal.value_ofInt]
  tree := functionTree (Leaf ℤ)
  currentTime := "1722470400"

/-- The key of the setting that turns the backups on. -/
def backupsKey : String := "cluster.backups.enabled"

/-- A table and a local configuration in which the backups are off. -/
def backupsOff : SettingsState smallEnv where
  table :=
    { rows := (∅ : Table String SettingRow).putItem backupsKey ⟨.bool false, 1, none⟩
      separate := by
        have hkey : ∀ key, ((∅ : Table String SettingRow).putItem backupsKey ⟨.bool false, 1, none⟩).Has key →
            key = backupsKey := fun key h => (Table.has_putItem.mp h).resolve_right (Table.not_has_empty key)
        refine ⟨fun key h => ?_, fun key key' h h' hne => absurd ((hkey key h).trans (hkey key' h').symm) hne⟩
        rw [hkey key h]
        decide }
  config := fun key => if key = backupsKey then some (.bool false) else none

/-- The settings of a request that turns them on. -/
def backupsOn : Settings ℤ := .object "backups" (.leaf "enabled" (.bool true) .empty) .empty

/-- The request is not stored: a boolean has no `isdigit`. -/
theorem not_storesOrNothing_backups : ¬ StoresOrNothing backupsOff (some "cluster") (some backupsOn) := by
  rintro ⟨hstores, -⟩
  have hleaves : leaves backupsOn = [("backups.enabled", .bool true)] := rfl
  have hqualifies : Qualifies backupsOff "cluster" backupsOn := by
    refine ⟨by decide, ?_, by decide, ?_⟩
    · rw [hleaves, List.forall_mem_singleton]
      exact ⟨.bool true, rfl⟩
    · rw [hleaves, List.forall_mem_singleton]
      exact Table.has_putItem.mpr (.inl rfl)
  obtain ⟨s', hrun, -⟩ := hstores "cluster" backupsOn rfl rfl hqualifies
  have hraise : ((updateModuleSettings smallEnv (some "cluster") (some backupsOn)).run backupsOff).1 =
      .error (.other .attributeError "'bool' object has no attribute 'isdigit'") := by
    rfl
  rw [hrun] at hraise
  exact nomatch hraise

end ContainRes.Config
