import Mathlib.Data.List.Sort
import ContainRes.Store.Table
import ContainRes.Text.Python

/-! # The local configuration

The configuration of a process is a tree of `pyhocon`, filled with the entries of the cluster-settings
table. The tree is code of another package and stands here as a parameter, with what its documentation
says about the keys that do not lie under each other.

* **`ConfigTree`**, **`ConfigTree.Lawful`** — the operations of the tree, and what they do.
* **`SocaConfig.put`**, **`SocaConfig.pop`** — the methods of `SocaConfig`, and `localValue`, the value
  that a stored value has in the tree.
* **`buildConfig`** — the tree made of the entries of a scan; `get_buildConfig` reads it. -/

namespace ContainRes.Config

open Store Text

/-! ## Values -/

/-- A value of an entry. Mappings are flattened to keys before they are stored; numbers with a fraction
are left out. -/
inductive ConfigValue
  | string (s : String)
  | number (n : Int)
  | bool (b : Bool)
  | list (items : List ConfigValue)
  deriving Repr

def ConfigValue.isEmpty : ConfigValue → Bool
  | .string s => Text.isEmpty s
  | .list items => items.isEmpty
  | _ => false

/-- `Utils.check_and_convert_decimal_value(value)`. The loop over a list of numbers appends the whole list
after each of them. -/
def checkAndConvertDecimalValue : ConfigValue → ConfigValue
  | .list (.number n :: items) =>
    .list ((.number n :: items).flatMap fun item => [item, .list (.number n :: items)])
  | value => value

/-- An item of the cluster-settings table, apart from its key. -/
structure ConfigEntry where
  value : Option ConfigValue
  version : Nat

def postProcessDdbConfigEntry (item : ConfigEntry) : ConfigEntry :=
  { item with value := item.value.map checkAndConvertDecimalValue }

/-! ## The tree -/

/-- The operations of `pyhocon` that the configuration uses, on trees of the type `T`. -/
structure ConfigTree (T : Type) where
  /-- `ConfigFactory.from_dict({})`. -/
  empty : T
  /-- The tree after `put(key, value)`. -/
  put : T → String → Option ConfigValue → T
  /-- The tree after `pop(key, default=None)`. -/
  pop : T → String → T
  /-- `get(key, default=None)`. -/
  get : T → String → Option ConfigValue
  /-- `ConfigFactory.from_dict(tree.as_plain_ordered_dict())`. -/
  copy : T → T

/-- The names on the path of a key. -/
def keyPath (key : String) : List (List Char) := key.toList.splitOn '.'

/-- A key whose path needs no quotes: no name on it is empty or has a quote. -/
def PlainKey (key : String) : Prop := ∀ name ∈ keyPath key, name ≠ [] ∧ '"' ∉ name

/-- Neither key lies under the other one. -/
def Independent (key key' : String) : Prop :=
  ¬ keyPath key <+: keyPath key' ∧ ¬ keyPath key' <+: keyPath key

instance (key : String) : Decidable (PlainKey key) :=
  inferInstanceAs (Decidable (∀ name ∈ keyPath key, name ≠ [] ∧ '"' ∉ name))

/-- Keys that each can have a value of their own. -/
structure SeparateKeys (keys : String → Prop) : Prop where
  plain : ∀ key, keys key → PlainKey key
  independent : ∀ key key', keys key → keys key' → key ≠ key' → Independent key key'

/-- What the operations of the tree do under plain keys. -/
structure ConfigTree.Lawful {T : Type} (tree : ConfigTree T) : Prop where
  get_empty : ∀ key, PlainKey key → tree.get tree.empty key = none
  get_put_self : ∀ config key value, PlainKey key → tree.get (tree.put config key value) key = value
  get_put_of_independent : ∀ config key key' value, PlainKey key → PlainKey key' →
    Independent key key' → tree.get (tree.put config key value) key' = tree.get config key'
  get_pop_self : ∀ config key, PlainKey key → tree.get (tree.pop config key) key = none
  get_pop_of_independent : ∀ config key key', PlainKey key → PlainKey key' →
    Independent key key' → tree.get (tree.pop config key) key' = tree.get config key'
  get_copy : ∀ config key, PlainKey key → tree.get (tree.copy config) key = tree.get config key

/-! ## `SocaConfig` -/

/-- The value that `SocaConfig.put` hands to the tree. -/
def noneIfEmpty (value : Option ConfigValue) : Option ConfigValue :=
  value.filter fun value => !value.isEmpty

def SocaConfig.put {T : Type} (tree : ConfigTree T) (config : T) (key : String)
    (value : Option ConfigValue) : T :=
  tree.put config key (noneIfEmpty value)

def SocaConfig.pop {T : Type} (tree : ConfigTree T) (config : T) (key : String) : T :=
  tree.pop config key

/-- The value in the tree for a value in the table. -/
def localValue (value : Option ConfigValue) : Option ConfigValue :=
  noneIfEmpty (value.map checkAndConvertDecimalValue)

section Build

variable {T : Type} (tree : ConfigTree T)

/-- `ClusterConfigDB.build_config_from_db()` on the entries of a scan, and the copy that
`SocaConfig.__init__` makes of its result. -/
def buildConfig (items : Table String ConfigEntry) : T :=
  let entries := items.scan.map fun item => (item.1, postProcessDdbConfigEntry item.2)
  let sorted := entries.insertionSort fun a b => a.1 ≤ b.1
  tree.copy (sorted.foldl (fun config entry => SocaConfig.put tree config entry.1 entry.2.value) tree.empty)

variable {tree} {keys : String → Prop} {key : String}

theorem get_put_self (h : tree.Lawful) (hkeys : SeparateKeys keys) (hkey : keys key) (config : T)
    (value : Option ConfigValue) : tree.get (SocaConfig.put tree config key value) key = noneIfEmpty value :=
  h.get_put_self _ _ _ (hkeys.plain key hkey)

theorem get_put_of_ne (h : tree.Lawful) (hkeys : SeparateKeys keys) {key' : String}
    (hkey : keys key) (hkey' : keys key') (hne : key' ≠ key) (config : T) (value : Option ConfigValue) :
    tree.get (SocaConfig.put tree config key value) key' = tree.get config key' :=
  h.get_put_of_independent _ _ _ _ (hkeys.plain key hkey) (hkeys.plain key' hkey')
    (hkeys.independent key key' hkey hkey' hne.symm)

theorem get_pop_self (h : tree.Lawful) (hkeys : SeparateKeys keys) (hkey : keys key) (config : T) :
    tree.get (SocaConfig.pop tree config key) key = none :=
  h.get_pop_self _ _ (hkeys.plain key hkey)

theorem get_pop_of_ne (h : tree.Lawful) (hkeys : SeparateKeys keys) {key' : String}
    (hkey : keys key) (hkey' : keys key') (hne : key' ≠ key) (config : T) :
    tree.get (SocaConfig.pop tree config key) key' = tree.get config key' :=
  h.get_pop_of_independent _ _ _ (hkeys.plain key hkey) (hkeys.plain key' hkey')
    (hkeys.independent key key' hkey hkey' hne.symm)

/-- A key that no entry is about keeps its value. -/
theorem get_puts_of_not_mem (h : tree.Lawful) (hkeys : SeparateKeys keys) (hkey : keys key)
    {entries : List (String × ConfigEntry)} (hin : ∀ entry ∈ entries, keys entry.1)
    (hnot : key ∉ entries.map Prod.fst) (config : T) : tree.get (entries.foldl (fun config entry =>
      SocaConfig.put tree config entry.1 entry.2.value) config) key = tree.get config key := by
  induction entries generalizing config with
  | nil => rfl
  | cons entry entries ih =>
    rw [List.map_cons, List.mem_cons, not_or] at hnot
    rw [List.foldl_cons, ih (fun e he => hin e (List.mem_cons_of_mem _ he)) hnot.2]
    exact get_put_of_ne h hkeys (hin entry List.mem_cons_self) hkey hnot.1 config _

/-- A key that one entry is about gets its value. -/
theorem get_puts_of_mem (h : tree.Lawful) (hkeys : SeparateKeys keys)
    {entries : List (String × ConfigEntry)} (hin : ∀ entry ∈ entries, keys entry.1)
    (hnodup : (entries.map Prod.fst).Nodup) {item : ConfigEntry} (hmem : (key, item) ∈ entries) (config : T) :
    tree.get (entries.foldl (fun config entry =>
      SocaConfig.put tree config entry.1 entry.2.value) config) key = noneIfEmpty item.value := by
  induction entries generalizing config with
  | nil => cases hmem
  | cons entry entries ih =>
    rw [List.map_cons, List.nodup_cons] at hnodup
    have hrest : ∀ entry' ∈ entries, keys entry'.1 := fun e he =>
      hin e (List.mem_cons_of_mem _ he)
    rw [List.foldl_cons]
    rcases List.mem_cons.mp hmem with rfl | hlater
    · have hkey : keys key := hin (key, item) List.mem_cons_self
      rw [get_puts_of_not_mem h hkeys hkey hrest hnodup.1]
      exact get_put_self h hkeys hkey config item.value
    · exact ih hrest hnodup.2 hlater _

/-- **The built tree** has the values of the entries, and nothing else. -/
theorem get_buildConfig (h : tree.Lawful) (hkeys : SeparateKeys keys)
    {items : Table String ConfigEntry} (hin : ∀ key, items.Has key → keys key) (hkey : keys key) :
    tree.get (buildConfig tree items) key = localValue ((items.getItem key).bind (·.value)) := by
  unfold buildConfig
  let entries := items.scan.map fun item => (item.1, postProcessDdbConfigEntry item.2)
  have hperm := List.perm_insertionSort (fun a b => a.1 ≤ b.1) entries
  have hfst : entries.map Prod.fst = items.items.keys := by
    rw [← Table.scan_keys, List.map_map]
    rfl
  have hnodup : ((entries.insertionSort fun a b => a.1 ≤ b.1).map Prod.fst).Nodup := by
    rw [(hperm.map Prod.fst).nodup_iff, hfst]
    exact items.items.keys_nodup
  have hsorted : ∀ entry ∈ entries.insertionSort fun a b => a.1 ≤ b.1, keys entry.1 := by
    intro entry hentry
    have hmem := List.mem_map_of_mem (f := Prod.fst) (hperm.mem_iff.mp hentry)
    rw [hfst, Table.mem_keys_iff_has] at hmem
    exact hin entry.1 hmem
  rw [h.get_copy _ _ (hkeys.plain key hkey)]
  rcases hitem : items.getItem key with _ | item
  · have hnot : key ∉ (entries.insertionSort fun a b => a.1 ≤ b.1).map Prod.fst := by
      rw [(hperm.map Prod.fst).mem_iff, hfst, Table.mem_keys_iff_has]
      exact Table.not_has_iff.mpr hitem
    rw [get_puts_of_not_mem h hkeys hkey hsorted hnot, h.get_empty _ (hkeys.plain key hkey)]
    rfl
  · have hmem : (key, postProcessDdbConfigEntry item) ∈
        entries.insertionSort fun a b => a.1 ≤ b.1 := by
      rw [hperm.mem_iff]
      exact List.mem_map_of_mem (Table.mem_scan.mpr hitem)
    rw [get_puts_of_mem h hkeys hsorted hnodup hmem]
    rfl

end Build

end ContainRes.Config
