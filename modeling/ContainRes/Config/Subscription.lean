import ContainRes.Common.Exceptions
import ContainRes.Config.SocaConfig
import ContainRes.Store.PartitionedLog
import ContainRes.Systems.Guarded

/-! # Following the cluster-settings table

A process makes its local configuration from a scan of the cluster-settings table and follows the change
records of the table, which a stream delivers from several shards. Two threads share the map of shard
iterators under a lock: one opens an iterator for each listed shard that has none, the other reads the
shards one after the other. Both are started before the scan.

* **`SubscriptionState`**, **`SubscriptionStep`** — the table, the stream, the threads and the
  construction of the local configuration, with every choice of a scheduler in the label.
* **`subscription`** — the system of all interleavings. -/

namespace ContainRes.Config

open Store Systems Function

/-! ## Records of the stream -/

/-- The event of a record, with the images of the entry. -/
inductive ChangeEvent
  /-- `INSERT`. -/
  | insert (newImage : ConfigEntry)
  /-- `MODIFY`. -/
  | modify (oldImage newImage : ConfigEntry)
  /-- `REMOVE`. -/
  | remove (oldImage : ConfigEntry)

/-- The entry after the event, if there is one. -/
def ChangeEvent.newImage : ChangeEvent → Option ConfigEntry
  | .insert newImage => some newImage
  | .modify _ newImage => some newImage
  | .remove _ => none

variable {T : Type} (tree : ConfigTree T)

/-- The exception of a `ClusterConfig` that has no `_config` yet. -/
def noConfig : Exc := .other .attributeError "'ClusterConfig' object has no attribute '_config'"

/-- `ClusterConfig.on_create(entry)`, where `config` is `_config` if it is assigned. -/
def onCreate (config : Option T) (key : String) (entry : ConfigEntry) : Except Exc T :=
  match config with
  | some config => .ok (SocaConfig.put tree config key entry.value)
  | none => .error noConfig

def onUpdate (config : Option T) (key : String) (_oldEntry newEntry : ConfigEntry) :
    Except Exc T :=
  match config with
  | some config => .ok (SocaConfig.put tree config key newEntry.value)
  | none => .error noConfig

def onDelete (config : Option T) (key : String) (_entry : ConfigEntry) : Except Exc T :=
  match config with
  | some config => .ok (SocaConfig.pop tree config key)
  | none => .error noConfig

/-- The call that `shard_processor` makes for a record, through the methods of `ClusterConfigDB` of the
same names. -/
def processRecord (config : Option T) (record : Record String ChangeEvent) : Except Exc T :=
  match record.change with
  | .insert newImage => onCreate tree config record.key (postProcessDdbConfigEntry newImage)
  | .modify oldImage newImage =>
    onUpdate tree config record.key (postProcessDdbConfigEntry oldImage)
      (postProcessDdbConfigEntry newImage)
  | .remove oldImage => onDelete tree config record.key (postProcessDdbConfigEntry oldImage)

/-! ## The system -/

/-- How far the construction of the local configuration is. -/
inductive BuildPhase (T : Type)
  /-- The scan has read the `visited` keys and found `items` there. -/
  | scanning (visited : String → Bool) (items : Table String ConfigEntry)
  /-- The scan has read everything. -/
  | building (items : Table String ConfigEntry)
  /-- `_config` is assigned. -/
  | running (config : T)

/-- `_config`, if it is assigned. -/
def BuildPhase.config : BuildPhase T → Option T
  | .running config => some config
  | _ => none

/-- The scan has read the key. -/
def BuildPhase.visited : BuildPhase T → String → Bool
  | .scanning visited _, key => visited key
  | _, _ => true

/-- The state of the table, the stream and the process. -/
structure SubscriptionState (T : Type) where
  clusterSettings : Table String ConfigEntry
  nextSequenceNumber : Nat
  /-- The records of each shard, oldest first. -/
  records : Nat → List (Record String ChangeEvent)
  shardCount : Nat
  isClosed : Nat → Bool
  /-- The shard that takes the records of a key. -/
  shardOf : String → Nat
  /-- `shard_iterators_map`; a missing iterator and one that is `None` are treated alike. -/
  shardIteratorsMap : Nat → Option Nat
  /-- The shard that is being read, and `next_shard_iterator`. -/
  reading : Option (Nat × Nat)
  phase : BuildPhase T

/-- A step. -/
inductive SubscriptionStep
  /-- `set_config_entry(key, value)` of some process. -/
  | setConfigEntry (key : String) (value : Option ConfigValue)
  /-- An entry is deleted. -/
  | deleteConfigEntry (key : String)
  /-- A shard is closed and two new ones take its keys. -/
  | splitShard (shard : Nat) (toLeft : String → Bool)
  /-- `shard_iterator_initializer` opens an iterator of the type `LATEST`. -/
  | getShardIterator (shard : Nat)
  /-- The scan reads a part of the keys, or everything that is left. -/
  | scanPart (part : String → Bool) (last : Bool)
  /-- `build_config_from_db` returns and `_config` is assigned. -/
  | assignConfig
  /-- `shard_processor` turns to a shard. -/
  | startShard (shard : Nat)
  /-- A record of the shard is delivered. -/
  | deliverRecord
  /-- There are no more records; the iterator is stored, or `None` if the shard is closed. -/
  | storeIterator
  /-- `ExpiredIteratorException` or `TrimmedDataAccessException`. -/
  | iteratorExpired
  /-- Any other exception of `get_records`: the iterator is not stored. -/
  | readFailed

namespace SubscriptionState

variable (s : SubscriptionState T)

/-- The stream as this process reads it. -/
def log : PartitionedLog String ChangeEvent where
  records := s.records
  position :=
    match s.reading with
    | some (shard, next) => update s.shardIteratorsMap shard (some next)
    | none => s.shardIteratorsMap

/-- Write a record to the shard of its key. -/
def publish (key : String) (change : ChangeEvent) (clusterSettings : Table String ConfigEntry) :
    SubscriptionState T :=
  { s with
    clusterSettings := clusterSettings
    nextSequenceNumber := s.nextSequenceNumber + 1
    records := update s.records (s.shardOf key)
      (s.records (s.shardOf key) ++ [⟨key, change, s.nextSequenceNumber⟩]) }

/-- The table and the stream after `set_config_entry(key, value)`. -/
def setConfigEntry (key : String) (value : Option ConfigValue) : SubscriptionState T :=
  match s.clusterSettings.getItem key with
  | none => s.publish key (.insert ⟨value, 1⟩) (s.clusterSettings.putItem key ⟨value, 1⟩)
  | some item =>
    s.publish key (.modify item ⟨value, item.version + 1⟩)
      (s.clusterSettings.putItem key ⟨value, item.version + 1⟩)

/-- The table and the stream after an entry is deleted. -/
def deleteConfigEntry (key : String) : SubscriptionState T :=
  match s.clusterSettings.getItem key with
  | none => s
  | some item => s.publish key (.remove item) (s.clusterSettings.deleteItem key)

/-- The next state; a step that the threads, the lock or the stream do not allow is not enabled. -/
def next : SubscriptionStep → Option (SubscriptionState T)
  | .setConfigEntry key value => some (s.setConfigEntry key value)
  | .deleteConfigEntry key => some (s.deleteConfigEntry key)
  | .splitShard shard toLeft =>
    if shard < s.shardCount ∧ s.isClosed shard = false then
      some { s with
        shardCount := s.shardCount + 2
        isClosed := update s.isClosed shard true
        shardOf := fun key =>
          if s.shardOf key = shard then
            if toLeft key then s.shardCount else s.shardCount + 1
          else s.shardOf key }
    else none
  | .getShardIterator shard =>
    if shard < s.shardCount ∧ s.shardIteratorsMap shard = none ∧ s.reading = none then
      some { s with
        shardIteratorsMap := update s.shardIteratorsMap shard (some (s.records shard).length) }
    else none
  | .scanPart part last =>
    match s.phase with
    | .scanning visited items =>
      let found := s.clusterSettings.scan.filter fun item =>
        (last || part item.1) && !visited item.1
      some { s with
        phase :=
          if last then .building (items.putItems found)
          else .scanning (fun key => visited key || part key) (items.putItems found) }
    | _ => none
  | .assignConfig =>
    match s.phase with
    | .building items => some { s with phase := .running (buildConfig tree items) }
    | _ => none
  | .startShard shard =>
    match s.reading, s.shardIteratorsMap shard with
    | none, some iterator => some { s with reading := some (shard, iterator) }
    | _, _ => none
  | .deliverRecord =>
    match s.reading with
    | none => none
    | some (shard, position) =>
      match (s.records shard)[position]? with
      | none => none
      | some record =>
        some { s with
          reading := some (shard, position + 1)
          phase :=
            match processRecord tree s.phase.config record with
            | .ok config => .running config
            -- the exception is logged, and the next record follows
            | .error _ => s.phase }
  | .storeIterator =>
    match s.reading with
    | none => none
    | some (shard, position) =>
      if position = (s.records shard).length then
        some { s with
          shardIteratorsMap := update s.shardIteratorsMap shard
            (if s.isClosed shard then none else some position)
          reading := none }
      else none
  | .iteratorExpired =>
    match s.reading with
    | none => none
    | some (shard, _) =>
      some { s with
        shardIteratorsMap := update s.shardIteratorsMap shard none
        reading := none }
  | .readFailed =>
    match s.reading with
    | none => none
    | some _ => some { s with reading := none }

end SubscriptionState

/-- The system: any table, a stream with some shards, no iterator, and nothing scanned. -/
def subscription : System (SubscriptionState T) SubscriptionStep where
  init s := (∀ shard, s.records shard = []) ∧ (∀ shard, s.shardIteratorsMap shard = none) ∧
    s.reading = none ∧ s.phase = .scanning (fun _ => false) ∅
  next s := s.next tree

/-! ## The property -/

/-- The configuration is assigned, and every record after each iterator was delivered. -/
def Quiescent (s : SubscriptionState T) : Prop :=
  s.phase.config.isSome ∧ s.reading = none ∧
    ∀ shard iterator, s.shardIteratorsMap shard = some iterator →
      iterator = (s.records shard).length

/-- Keys that the table holds, and keys that some record is about. -/
def Known (s : SubscriptionState T) (key : String) : Prop :=
  s.clusterSettings.Has key ∨ ∃ record, s.log.Written key record

/-- The local configuration has the value of the table under every known key. -/
def Converged (s : SubscriptionState T) : Prop :=
  ∀ config, s.phase.config = some config → ∀ key, Known s key →
    tree.get config key = (s.clusterSettings.getItem key).bind (·.value)

end ContainRes.Config
