import ContainRes.Config.Subscription

/-! # The local configuration converges

When nothing is written any more and every record behind an iterator has been delivered, the local
configuration has the values of the table, in every run whose steps are `Sound`: the two ways to learn of
a value, the scan and the stream, then overlap without a gap, and a key is never set back to an older
value. The invariant says that the undelivered records of a key are the last ones of its history, and
that a key without undelivered records has the value of the table already.

* **`Sound`** — the condition on a step.
* **`Converging`** — the invariant; `Converging.step` is the step lemma.
* **`local_config_converges`** — the property along sound runs; `write_before_iterator_is_lost` is a
  run on which it fails. -/

namespace ContainRes.Config

open Store Systems Systems.System Function

variable {T : Type} {tree : ConfigTree T} {keys : String → Prop} {s t : SubscriptionState T}

/-! ## The condition -/

/-- A record of the key that is written now is going to be delivered, or the scan is going to read the
key and no older record is going to be delivered. -/
def Heard (s : SubscriptionState T) (key : String) : Prop :=
  (s.log.position (s.shardOf key)).isSome = true ∨
    s.phase.visited key = false ∧ ∀ r, ¬ s.log.Undelivered key r

/-- The condition on a step, for the keys that are in use.

* A key is written while its record or the scan is going to be met, with a value that the local
  configuration represents as it is; so are the values that the scan meets.
* A record is delivered when no older record of its key is undelivered in another shard. It is delivered
  to an assigned configuration, or the scan has not read its key, or a newer one is to come.
* An iterator expires when nothing was unread behind it, or only records of keys that the scan has not
  read, and of which nothing else is undelivered.
* Reading fails when what will be read again is not older than what was delivered from another shard. -/
def Sound (keys : String → Prop) (s : SubscriptionState T) : SubscriptionStep → Prop
  | .setConfigEntry key value => keys key ∧ localValue value = value ∧ Heard s key
  | .deleteConfigEntry key => keys key ∧ Heard s key
  | .scanPart _ _ => ∀ key item, s.clusterSettings.getItem key = some item →
      keys key ∧ localValue item.value = item.value
  | .deliverRecord => ∀ shard n r, s.reading = some (shard, n) → (s.records shard)[n]? = some r →
      (∀ q, q ≠ shard → ∀ r' ∈ s.log.unread q, r'.key = r.key → r.sequenceNumber < r'.sequenceNumber) ∧
      (s.phase.config.isSome = true ∨ s.phase.visited r.key = false ∨
        ∃ r', s.log.Undelivered r.key r' ∧ r.sequenceNumber < r'.sequenceNumber)
  | .iteratorExpired => ∀ shard n, s.reading = some (shard, n) → ∀ r ∈ s.log.unread shard,
      s.phase.visited r.key = false ∧ ∀ q, q ≠ shard → ∀ r' ∈ s.log.unread q, r'.key ≠ r.key
  | .readFailed => ∀ shard n m, s.reading = some (shard, n) → s.shardIteratorsMap shard = some m →
      ∀ r ∈ ((s.records shard).take n).drop m, ∀ q, q ≠ shard → ∀ r' ∈ s.records q,
        r'.key = r.key → r.sequenceNumber < r'.sequenceNumber → r' ∈ s.log.unread q
  | _ => True

/-! ## The invariant -/

/-- What the scan has found, before the configuration is assigned. -/
def BuildPhase.items : BuildPhase T → Table String ConfigEntry
  | .scanning _ items => items
  | .building items => items
  | .running _ => ∅

/-- The value that the process has for a key, in the scanned items or in the configuration. -/
def BuildPhase.value (tree : ConfigTree T) : BuildPhase T → String → Option ConfigValue
  | .running config, key => tree.get config key
  | phase, key => (phase.items.getItem key).bind (·.value)

/-- The value of the table under a key. -/
def SubscriptionState.stored (s : SubscriptionState T) (key : String) : Option ConfigValue :=
  (s.clusterSettings.getItem key).bind (·.value)

/-- The invariant. -/
structure Converging (tree : ConfigTree T) (keys : String → Prop) (s : SubscriptionState T) :
    Prop where
  ordered : s.log.Ordered s.nextSequenceNumber
  final : ∀ key, s.log.Final key
  /-- The newest record of a key has the image of the table. -/
  latest : ∀ key r, s.log.Written key r →
    (∀ r', s.log.Written key r' → r'.sequenceNumber ≤ r.sequenceNumber) →
      r.change.newImage = s.clusterSettings.getItem key
  usable : ∀ key r, s.log.Written key r → keys key ∧
    ∀ item, r.change.newImage = some item → localValue item.value = item.value
  /-- The stored iterator of the shard that is being read is an earlier one. -/
  saved : ∀ shard n, s.reading = some (shard, n) →
    ∃ m, s.shardIteratorsMap shard = some m ∧ m ≤ n
  scanned : ∀ key, s.phase.visited key = true → s.clusterSettings.Has key → keys key
  found : ∀ key item, s.phase.items.getItem key = some item →
    s.phase.visited key = true ∧ keys key ∧ localValue item.value = item.value
  settled : ∀ key, keys key → s.phase.visited key = true → (∀ r, ¬ s.log.Undelivered key r) →
    s.phase.value tree key = s.stored key

theorem localValue_none : localValue none = none := rfl

/-- The invariant gives the property. -/
theorem Converging.converged (h : Converging tree keys s) (hq : Quiescent s) : Converged tree s := by
  obtain ⟨-, hreading, hread⟩ := hq
  intro config hconfig key hknown
  rcases hphase : s.phase with ⟨visited, items⟩ | items | config'
  · rw [hphase] at hconfig
    cases hconfig
  · rw [hphase] at hconfig
    cases hconfig
  · have hvisited : s.phase.visited key = true := by
      rw [hphase]
      rfl
    have hkey : keys key := by
      rcases hknown with hhas | ⟨r, hr⟩
      · exact h.scanned key hvisited hhas
      · exact (h.usable key r hr).1
    have hnone : ∀ r, ¬ s.log.Undelivered key r := by
      rintro r ⟨-, shard, hr⟩
      rcases hpos : s.log.position shard with _ | n
      · rw [PartitionedLog.unread_of_not_position hpos] at hr
        cases hr
      · have hn : n = (s.records shard).length := by
          refine hread shard n ?_
          simpa [SubscriptionState.log, hreading] using hpos
        rw [PartitionedLog.unread_of_position hpos, hn] at hr
        have hnil : (s.log.records shard).drop (s.records shard).length = [] := List.drop_length
        rw [hnil] at hr
        cases hr
    have hvalue := h.settled key hkey hvisited hnone
    rw [hphase] at hconfig hvalue
    cases hconfig
    exact hvalue

theorem converging_init (h : (subscription tree).init s) : Converging tree keys s := by
  obtain ⟨hrecords, hiterators, hreading, hphase⟩ := h
  have hpos : ∀ shard, s.log.position shard = none := by
    intro shard
    simp [SubscriptionState.log, hreading, hiterators]
  have hnothing : ∀ key r, ¬ s.log.Written key r := by
    rintro key r ⟨-, shard, hr⟩
    have hr' : r ∈ s.records shard := hr
    rw [hrecords] at hr'
    cases hr'
  have hunvisited : ∀ key, s.phase.visited key = false := by
    intro key
    rw [hphase]
    rfl
  refine ⟨⟨fun shard => ?_, fun shard r hr => ?_, fun shard n hn => ?_⟩, fun key r r' _ hr' => ?_,
    fun key r hr => ?_, fun key r hr => ?_, fun shard n hn => ?_, fun key hvisited => ?_,
    fun key item hitem => ?_, fun key _ hvisited => ?_⟩
  · have hnil : s.log.records shard = [] := hrecords shard
    rw [hnil]
    exact List.Pairwise.nil
  · exact absurd ⟨rfl, shard, hr⟩ (hnothing r.key r)
  · rw [hpos] at hn
    cases hn
  · exact absurd hr' (hnothing key r')
  · exact absurd hr (hnothing key r)
  · exact absurd hr (hnothing key r)
  · rw [hreading] at hn
    cases hn
  · rw [hunvisited] at hvisited
    cases hvisited
  · rw [hphase] at hitem
    simp [BuildPhase.items] at hitem
  · rw [hunvisited] at hvisited
    cases hvisited

/-! ## Writes -/

/-- A record that is written to the table and the stream. -/
theorem Converging.publish {key : String} {change : ChangeEvent}
    {clusterSettings : Table String ConfigEntry} (h : Converging tree keys s) (hkey : keys key)
    (himage : change.newImage = clusterSettings.getItem key)
    (hclean : ∀ item, change.newImage = some item → localValue item.value = item.value) (hothers : ∀ key', key' ≠ key →
      clusterSettings.getItem key' = s.clusterSettings.getItem key')
    (hheard : Heard s key) : Converging tree keys (s.publish key change clusterSettings) := by
  let r : Record String ChangeEvent := ⟨key, change, s.nextSequenceNumber⟩
  have hlog : (s.publish key change clusterSettings).log = s.log.append (s.shardOf key) r := rfl
  have hunheard : ∀ key', key' ≠ key → ∀ r', s.log.Undelivered key' r' →
      (s.log.append (s.shardOf key) r).Undelivered key' r' := fun key' _ r' hr' =>
    (PartitionedLog.undelivered_append h.ordered).mpr (.inl hr')
  refine ⟨?_, fun key' => ?_, fun key' r' hr' hnewest => ?_, fun key' r' hr' => ?_, h.saved,
    fun key' hvisited hhas => ?_, h.found, fun key' hkey' hvisited hnone => ?_⟩
  · rw [hlog]
    exact h.ordered.append rfl
  · rw [hlog]
    refine (h.final key').append h.ordered rfl ?_
    rintro rfl
    exact hheard.imp id And.right
  · rw [hlog] at hr' hnewest
    show r'.change.newImage = clusterSettings.getItem key'
    rcases PartitionedLog.written_append.mp hr' with hold | ⟨rfl, rfl⟩
    · -- an old record of the key is not the newest one
      have hne : key' ≠ key := by
        rintro rfl
        have hlast := hnewest r (PartitionedLog.written_append.mpr (.inr ⟨rfl, rfl⟩))
        obtain ⟨-, shard, hmem⟩ := hold
        have hbound := h.ordered.bounded shard r' hmem
        exact absurd hlast (Nat.not_le.mpr hbound)
      rw [hothers key' hne]
      exact h.latest key' r' hold fun r'' hr'' =>
        hnewest r'' (PartitionedLog.written_append.mpr (.inl hr''))
    · exact himage
  · rw [hlog] at hr'
    rcases PartitionedLog.written_append.mp hr' with hold | ⟨rfl, rfl⟩
    · exact h.usable key' r' hold
    · exact ⟨hkey, hclean⟩
  · by_cases hne : key' = key
    · exact hne ▸ hkey
    · refine h.scanned key' hvisited ?_
      change (clusterSettings.getItem key').isSome at hhas
      rwa [hothers key' hne] at hhas
  · rw [hlog] at hnone
    by_cases hne : key' = key
    · -- the new record is undelivered, or the scan has not read the key
      subst hne
      rcases hheard with hpos | ⟨hunvisited, -⟩
      · exact absurd ((PartitionedLog.undelivered_append h.ordered).mpr (.inr ⟨rfl, rfl, hpos⟩))
          (hnone r)
      · change s.phase.visited key' = true at hvisited
        rw [hunvisited] at hvisited
        cases hvisited
    · have hbefore := h.settled key' hkey' hvisited fun r' hr' =>
        hnone r' (hunheard key' hne r' hr')
      show s.phase.value tree key' = (clusterSettings.getItem key').bind _
      rw [hothers key' hne]
      exact hbefore

theorem Converging.setConfigEntry {key : String} {value : Option ConfigValue}
    (h : Converging tree keys s) (hkey : keys key) (hclean : localValue value = value)
    (hheard : Heard s key) : Converging tree keys (s.setConfigEntry key value) := by
  unfold SubscriptionState.setConfigEntry
  split
  · refine h.publish hkey (Table.getItem_putItem_self _ _ _).symm ?_
      (fun key' hne => Table.getItem_putItem_of_ne _ _ hne) hheard
    rintro item hitem
    cases hitem
    exact hclean
  · refine h.publish hkey (Table.getItem_putItem_self _ _ _).symm ?_
      (fun key' hne => Table.getItem_putItem_of_ne _ _ hne) hheard
    rintro item hitem
    cases hitem
    exact hclean

theorem Converging.deleteConfigEntry {key : String} (h : Converging tree keys s) (hkey : keys key)
    (hheard : Heard s key) : Converging tree keys (s.deleteConfigEntry key) := by
  unfold SubscriptionState.deleteConfigEntry
  split
  · exact h
  · refine h.publish hkey (Table.getItem_deleteItem_self _ _).symm ?_
      (fun key' hne => Table.getItem_deleteItem_of_ne _ hne) hheard
    rintro item hitem
    cases hitem

/-! ## Iterators -/

/-- A change of the iterators and the shards only, after which no visited key has lost its last
undelivered record. -/
theorem Converging.relocate (h : Converging tree keys s) (htable : t.clusterSettings = s.clusterSettings)
    (hnext : t.nextSequenceNumber = s.nextSequenceNumber) (hrecords : t.records = s.records)
    (hphase : t.phase = s.phase) (hordered : t.log.Ordered s.nextSequenceNumber) (hfinal : ∀ key, t.log.Final key)
    (hsaved : ∀ shard n, t.reading = some (shard, n) → ∃ m, t.shardIteratorsMap shard = some m ∧ m ≤ n)
    (hkept : ∀ key, s.phase.visited key = true → ∀ r, s.log.Undelivered key r →
      ∃ r', t.log.Undelivered key r') : Converging tree keys t := by
  have hwritten : ∀ key r, t.log.Written key r ↔ s.log.Written key r := by
    intro key r
    show r.key = key ∧ (∃ p, r ∈ t.records p) ↔ _
    rw [hrecords]
    rfl
  refine ⟨hnext ▸ hordered, hfinal, fun key r hr hnewest => ?_, fun key r hr => ?_, hsaved, ?_, ?_,
    fun key hkey hvisited hnone => ?_⟩
  · rw [htable]
    exact h.latest key r ((hwritten key r).mp hr) fun r' hr' =>
      hnewest r' ((hwritten key r').mpr hr')
  · exact h.usable key r ((hwritten key r).mp hr)
  · rw [hphase, htable]
    exact h.scanned
  · rw [hphase]
    exact h.found
  · rw [hphase] at hvisited
    rw [hphase, SubscriptionState.stored, htable]
    refine h.settled key hkey hvisited fun r hr => ?_
    obtain ⟨r', hr'⟩ := hkept key hvisited r hr
    exact hnone r' hr'

/-- A change of the iterators and the shards after which the same records are unread. -/
theorem Converging.relocate_of_unread_eq (h : Converging tree keys s) (htable : t.clusterSettings = s.clusterSettings)
    (hnext : t.nextSequenceNumber = s.nextSequenceNumber) (hrecords : t.records = s.records)
    (hphase : t.phase = s.phase) (hordered : t.log.Ordered s.nextSequenceNumber)
    (hunread : ∀ p, t.log.unread p = s.log.unread p) (hsaved : ∀ shard n, t.reading = some (shard, n) →
      ∃ m, t.shardIteratorsMap shard = some m ∧ m ≤ n) : Converging tree keys t := by
  refine h.relocate htable hnext hrecords hphase hordered
    (fun key => (h.final key).congr hrecords hunread) hsaved ?_
  rintro key - r ⟨hk, p, hr⟩
  exact ⟨r, hk, p, by rwa [hunread]⟩

variable {shard n : Nat}

theorem position_reading (h : s.reading = some (shard, n)) : s.log.position shard = some n := by
  simp [SubscriptionState.log, h]

/-- The log after the shard that was read got another iterator, or its old one back. -/
theorem log_moveTo {iterator : Option Nat} (h : s.reading = some (shard, n)) :
    ({ s with
      shardIteratorsMap := update s.shardIteratorsMap shard iterator
      reading := none } : SubscriptionState T).log = s.log.moveTo shard iterator := by
  simp [SubscriptionState.log, PartitionedLog.moveTo, h]

theorem Converging.getShardIterator {shard : Nat} (h : Converging tree keys s)
    (hnone : s.shardIteratorsMap shard = none) (hreading : s.reading = none) : Converging tree keys
      { s with
        shardIteratorsMap := update s.shardIteratorsMap shard (some (s.records shard).length) } := by
  have hlog :
      ({ s with
        shardIteratorsMap := update s.shardIteratorsMap shard (some (s.records shard).length) } :
          SubscriptionState T).log = s.log.moveTo shard (some (s.records shard).length) := by
    simp [SubscriptionState.log, PartitionedLog.moveTo, hreading]
  refine h.relocate_of_unread_eq rfl rfl rfl rfl ?_ (fun p => ?_) fun shard' n hn => ?_
  · rw [hlog]
    refine h.ordered.moveTo fun n hn => ?_
    cases hn
    exact Nat.le_refl _
  · rw [hlog]
    by_cases hp : p = shard
    · subst hp
      have hpos : s.log.position p = none := by
        simp [SubscriptionState.log, hreading, hnone]
      rw [PartitionedLog.unread_moveTo_some, PartitionedLog.unread_of_not_position hpos]
      exact List.drop_length
    · exact PartitionedLog.unread_moveTo_of_ne hp _
  · change s.reading = some (shard', n) at hn
    rw [hreading] at hn
    cases hn

theorem Converging.startShard {shard iterator : Nat} (h : Converging tree keys s)
    (hreading : s.reading = none) (hiterator : s.shardIteratorsMap shard = some iterator) :
    Converging tree keys { s with reading := some (shard, iterator) } := by
  have hlog : ({ s with reading := some (shard, iterator) } : SubscriptionState T).log = s.log := by
    simp [SubscriptionState.log, hreading, ← hiterator]
  refine h.relocate_of_unread_eq rfl rfl rfl rfl ?_ (fun p => ?_) fun shard' n hn => ?_
  · rw [hlog]
    exact h.ordered
  · rw [hlog]
  · cases hn
    exact ⟨iterator, hiterator, Nat.le_refl _⟩

theorem Converging.storeIterator (h : Converging tree keys s)
    (hreading : s.reading = some (shard, n)) (hend : n = (s.records shard).length) :
    Converging tree keys { s with
      shardIteratorsMap := update s.shardIteratorsMap shard
        (if s.isClosed shard then none else some n)
      reading := none } := by
  refine h.relocate_of_unread_eq rfl rfl rfl rfl ?_ (fun p => ?_) fun shard' n' hn' => ?_
  · rw [log_moveTo hreading]
    refine h.ordered.moveTo fun n' hn' => ?_
    split at hn'
    · cases hn'
    · cases hn'
      exact h.ordered.inRange shard n (position_reading hreading)
  · rw [log_moveTo hreading]
    by_cases hp : p = shard
    · subst hp
      have hnil : s.log.unread p = [] := by
        rw [PartitionedLog.unread_of_position (position_reading hreading), hend]
        exact List.drop_length
      split
      · rw [PartitionedLog.unread_moveTo_none, hnil]
      · rw [PartitionedLog.unread_moveTo_some, hend, hnil]
        exact List.drop_length
    · exact PartitionedLog.unread_moveTo_of_ne hp _
  · cases hn'

theorem Converging.iteratorExpired (h : Converging tree keys s)
    (hreading : s.reading = some (shard, n)) (hsound : Sound keys s .iteratorExpired) :
    Converging tree keys { s with
      shardIteratorsMap := update s.shardIteratorsMap shard none
      reading := none } := by
  have hlost := hsound shard n hreading
  refine h.relocate rfl rfl rfl rfl ?_ (fun key => ?_) (fun shard' n' hn' => ?_)
    fun key hvisited r hr => ?_
  · rw [log_moveTo hreading]
    exact h.ordered.moveTo fun n' hn' => by cases hn'
  · rw [log_moveTo hreading]
    exact (h.final key).close fun r hr => (hlost r hr).2
  · cases hn'
  · rw [log_moveTo hreading]
    obtain ⟨hk, p, hmem⟩ := hr
    refine ⟨r, hk, p, ?_⟩
    by_cases hp : p = shard
    · subst hp
      have hunvisited := (hlost r hmem).1
      rw [hk, hvisited] at hunvisited
      cases hunvisited
    · rwa [PartitionedLog.unread_moveTo_of_ne hp]

theorem Converging.readFailed (h : Converging tree keys s)
    (hreading : s.reading = some (shard, n)) (hsound : Sound keys s .readFailed) :
    Converging tree keys { s with reading := none } := by
  obtain ⟨m, hm, hle⟩ := h.saved shard n hreading
  have hlog : ({ s with reading := none } : SubscriptionState T).log =
      s.log.moveTo shard (some m) := by
    rw [← log_moveTo hreading, ← hm, update_eq_self]
  have hrange := h.ordered.inRange shard n (position_reading hreading)
  refine h.relocate rfl rfl rfl rfl ?_ (fun key => ?_) (fun shard' n' hn' => ?_)
    fun key _ r hr => ?_
  · rw [hlog]
    refine h.ordered.moveTo fun n' hn' => ?_
    cases hn'
    exact Nat.le_trans hle hrange
  · rw [hlog]
    exact (h.final key).rewind h.ordered (position_reading hreading) hle
      (hsound shard n m hreading hm)
  · cases hn'
  · rw [hlog]
    obtain ⟨hk, p, hmem⟩ := hr
    refine ⟨r, hk, p, ?_⟩
    by_cases hp : p = shard
    · subst hp
      rw [PartitionedLog.unread_of_position (position_reading hreading)] at hmem
      rw [PartitionedLog.unread_moveTo_some]
      exact (List.drop_sublist_drop_left _ hle).subset hmem
    · rwa [PartitionedLog.unread_moveTo_of_ne hp]

/-! ## The scan -/

variable {items : Table String ConfigEntry}

/-- What a part of the scan has found under a key. -/
theorem getItem_found {visited part : String → Bool} {last : Bool}
    (table : Table String ConfigEntry) (key : String) (hitems : visited key = false → items.getItem key = none) :
    (items.putItems (table.scan.filter fun item => (last || part item.1) && !visited item.1)).getItem key =
      if (last || part key) && !visited key then table.getItem key else items.getItem key := by
  let found := table.scan.filter fun item => (last || part item.1) && !visited item.1
  have hnodup : (found.map Prod.fst).Nodup := by
    refine ((List.filter_sublist).map Prod.fst).nodup ?_
    rw [Table.scan_keys]
    exact table.items.keys_nodup
  have hmem : ∀ item, (key, item) ∈ found ↔
      table.getItem key = some item ∧ ((last || part key) && !visited key) = true := by
    intro item
    rw [List.mem_filter, Table.mem_scan]
  by_cases hcond : ((last || part key) && !visited key) = true
  · rw [if_pos hcond]
    rcases hitem : table.getItem key with _ | item
    · have hnot : key ∉ found.map Prod.fst := by
        rintro hin
        obtain ⟨⟨key', item⟩, hfound, rfl⟩ := List.mem_map.mp hin
        have hget := ((hmem item).mp hfound).1
        rw [hitem] at hget
        cases hget
      rw [Table.getItem_putItems_of_not_mem hnot]
      refine hitems ?_
      simpa using (Bool.and_eq_true_iff.mp hcond).2
    · exact Table.getItem_putItems_of_mem hnodup ((hmem item).mpr ⟨hitem, hcond⟩)
  · rw [if_neg hcond]
    refine Table.getItem_putItems_of_not_mem fun hin => hcond ?_
    obtain ⟨⟨key', item⟩, hfound, rfl⟩ := List.mem_map.mp hin
    exact ((hmem item).mp hfound).2

theorem Converging.scanPart {visited part : String → Bool}
    {last : Bool} (h : Converging tree keys s) (hphase : s.phase = .scanning visited items)
    (hsound : Sound keys s (.scanPart part last)) :
    let found := s.clusterSettings.scan.filter fun item => (last || part item.1) && !visited item.1
    Converging tree keys { s with
      phase :=
        if last then .building (items.putItems found)
        else .scanning (fun key => visited key || part key) (items.putItems found) } := by
  intro found
  let phase : BuildPhase T :=
    if last then .building (items.putItems found)
    else .scanning (fun key => visited key || part key) (items.putItems found)
  show Converging tree keys { s with phase := phase }
  have hvisited : ∀ key, phase.visited key = (last || (visited key || part key)) := by
    intro key
    cases last <;> rfl
  have hitems : phase.items = items.putItems found := by
    cases last <;> rfl
  have hvalue : ∀ key, phase.value tree key = ((items.putItems found).getItem key).bind (·.value) := by
    intro key
    cases last <;> rfl
  have hbefore := h.found
  have hsettled := h.settled
  rw [hphase] at hbefore hsettled
  have hnone : ∀ key, visited key = false → items.getItem key = none := by
    intro key hunvisited
    rcases hitem : items.getItem key with _ | item
    · rfl
    · have hpast := (hbefore key item hitem).1
      change visited key = true at hpast
      rw [hunvisited] at hpast
      cases hpast
  refine ⟨h.ordered, h.final, h.latest, h.usable, h.saved, fun key _ hhas => ?_,
    fun key item hitem => ?_, fun key hkey hnow hdone => ?_⟩
  · obtain ⟨item, hitem⟩ := Table.has_iff.mp hhas
    exact (hsound key item hitem).1
  · change phase.items.getItem key = some item at hitem
    show phase.visited key = true ∧ _
    rw [hitems, getItem_found _ _ (hnone key)] at hitem
    rw [hvisited]
    split at hitem
    · rename_i hnew
      refine ⟨?_, hsound key item hitem⟩
      rw [Bool.and_eq_true, Bool.or_eq_true] at hnew
      rcases hnew.1 with hlast | hpart
      · simp [hlast]
      · simp [hpart]
    · obtain ⟨hpast, hrest⟩ := hbefore key item hitem
      change visited key = true at hpast
      exact ⟨by simp [hpast], hrest⟩
  · show phase.value tree key = s.stored key
    change phase.visited key = true at hnow
    rw [hvalue, getItem_found _ _ (hnone key)]
    split
    · rfl
    · -- the key was read before
      rename_i hold
      refine hsettled key hkey ?_ hdone
      show visited key = true
      rw [hvisited] at hnow
      cases hv : visited key
      · rw [hv] at hnow hold
        simp only [Bool.false_or, Bool.not_false, Bool.and_true] at hnow hold
        exact absurd hnow hold
      · rfl

/-- Assigning the configuration that is made of the items of the scan. -/
theorem Converging.assignConfig (hlawful : tree.Lawful)
    (hkeys : SeparateKeys keys) (h : Converging tree keys s) (hphase : s.phase = .building items) :
    Converging tree keys { s with phase := .running (buildConfig tree items) } := by
  have hfound := h.found
  have hsettled := h.settled
  have hscanned := h.scanned
  rw [hphase] at hfound hsettled hscanned
  refine ⟨h.ordered, h.final, h.latest, h.usable, h.saved, hscanned, fun key item hitem => ?_,
    fun key hkey hvisited hdone => ?_⟩
  · simp [BuildPhase.items] at hitem
  · show tree.get (buildConfig tree items) key = s.stored key
    rw [get_buildConfig hlawful hkeys (fun key' hhas => ?_) hkey, ← hsettled key hkey rfl hdone]
    · show localValue ((items.getItem key).bind _) = (items.getItem key).bind _
      rcases hitem : items.getItem key with _ | item
      · exact localValue_none
      · exact (hfound key item hitem).2.2
    · obtain ⟨item, hitem⟩ := Table.has_iff.mp hhas
      exact (hfound key' item hitem).2.1

/-! ## Delivery -/

/-- A record that is delivered before the configuration is assigned is lost. -/
theorem processRecord_none (r : Record String ChangeEvent) : processRecord tree none r = .error noConfig := by
  unfold processRecord
  cases r.change <;> rfl

/-- A record that is delivered to an assigned configuration sets the value of its key. -/
theorem processRecord_some (hlawful : tree.Lawful) (hkeys : SeparateKeys keys) (config : T)
    (r : Record String ChangeEvent) (hkey : keys r.key) : ∃ config', processRecord tree (some config) r = .ok config' ∧
      tree.get config' r.key = localValue (r.change.newImage.bind (·.value)) ∧
      ∀ key, keys key → key ≠ r.key → tree.get config' key = tree.get config key := by
  unfold processRecord
  cases r.change with
  | insert newImage =>
    exact ⟨_, rfl, get_put_self hlawful hkeys hkey _ _,
      fun key hkey' hne => get_put_of_ne hlawful hkeys hkey hkey' hne _ _⟩
  | modify oldImage newImage =>
    exact ⟨_, rfl, get_put_self hlawful hkeys hkey _ _,
      fun key hkey' hne => get_put_of_ne hlawful hkeys hkey hkey' hne _ _⟩
  | remove oldImage =>
    exact ⟨_, rfl, get_pop_self hlawful hkeys hkey _, fun key hkey' hne => get_pop_of_ne hlawful hkeys hkey hkey' hne _⟩

/-- The phase after a record. -/
def BuildPhase.process (tree : ConfigTree T) (phase : BuildPhase T) (r : Record String ChangeEvent) :
    BuildPhase T :=
  match processRecord tree phase.config r with
  | .ok config => .running config
  | .error _ => phase

/-- Before the configuration is assigned, a record changes nothing; afterwards, only its key. -/
theorem BuildPhase.process_cases (hlawful : tree.Lawful) (hkeys : SeparateKeys keys)
    (phase : BuildPhase T) (r : Record String ChangeEvent) (hkey : keys r.key) :
    phase.config = none ∧ phase.process tree r = phase ∨
      ∃ config config', phase = .running config ∧ phase.process tree r = .running config' ∧
        tree.get config' r.key = localValue (r.change.newImage.bind (·.value)) ∧
        ∀ key, keys key → key ≠ r.key → tree.get config' key = tree.get config key := by
  unfold BuildPhase.process
  cases phase with
  | scanning visited items => exact .inl ⟨rfl, by simp [BuildPhase.config, processRecord_none]⟩
  | building items => exact .inl ⟨rfl, by simp [BuildPhase.config, processRecord_none]⟩
  | running config =>
    obtain ⟨config', hprocess, hrest⟩ := processRecord_some hlawful hkeys config r hkey
    exact .inr ⟨config, config', rfl, by simp [BuildPhase.config, hprocess], hrest⟩

/-- **Delivery of a record.** If it was the last undelivered one of its key, it is the newest one, and
the configuration gets the value of the table. -/
theorem Converging.deliverRecord {r : Record String ChangeEvent}
    (hlawful : tree.Lawful) (hkeys : SeparateKeys keys) (h : Converging tree keys s)
    (hreading : s.reading = some (shard, n)) (hget : (s.records shard)[n]? = some r)
    (hsound : Sound keys s .deliverRecord) : Converging tree keys
      { s with reading := some (shard, n + 1), phase := s.phase.process tree r } := by
  obtain ⟨holdest, hmet⟩ := hsound shard n r hreading hget
  have hpos := position_reading hreading
  have hlog : ({ s with
      reading := some (shard, n + 1), phase := s.phase.process tree r } :
        SubscriptionState T).log = s.log.moveTo shard (some (n + 1)) := by
    simp [SubscriptionState.log, PartitionedLog.moveTo, hreading]
  have hwritten : s.log.Written r.key r := ⟨rfl, shard, List.mem_of_getElem? hget⟩
  obtain ⟨hkey, hclean⟩ := h.usable r.key r hwritten
  have hcases := BuildPhase.process_cases hlawful hkeys s.phase r hkey
  have hvisited : ∀ key, (s.phase.process tree r).visited key = s.phase.visited key := by
    intro key
    rcases hcases with ⟨-, hsame⟩ | ⟨config, config', hphase, hafter, -⟩
    · rw [hsame]
    · rw [hafter, hphase]
      rfl
  have hadvance : ∀ key r', (s.log.moveTo shard (some (n + 1))).Undelivered key r' ↔
      s.log.Undelivered key r' ∧ ¬ (r' = r ∧ ∀ q, q ≠ shard → r' ∉ s.log.unread q) :=
    fun _ _ => PartitionedLog.undelivered_advance hpos hget h.ordered
  refine ⟨?_, fun key => ?_, h.latest, h.usable, fun shard' n' hn' => ?_,
    fun key hnow hhas => ?_, fun key item hitem => ?_, fun key hkey' hnow hdone => ?_⟩
  · rw [hlog]
    refine h.ordered.moveTo fun n' hn' => ?_
    cases hn'
    exact (List.getElem?_eq_some_iff.mp hget).1
  · rw [hlog]
    exact (h.final key).advance h.ordered hpos hget holdest
  · cases hn'
    obtain ⟨m, hm, hle⟩ := h.saved shard n hreading
    exact ⟨m, hm, Nat.le_succ_of_le hle⟩
  · change (s.phase.process tree r).visited key = true at hnow
    rw [hvisited] at hnow
    exact h.scanned key hnow hhas
  · change (s.phase.process tree r).items.getItem key = some item at hitem
    show (s.phase.process tree r).visited key = true ∧ _
    rw [hvisited]
    rcases hcases with ⟨-, hsame⟩ | ⟨config, config', -, hafter, -⟩
    · rw [hsame] at hitem
      exact h.found key item hitem
    · rw [hafter] at hitem
      simp [BuildPhase.items] at hitem
  · rw [hlog] at hdone
    change (s.phase.process tree r).visited key = true at hnow
    rw [hvisited] at hnow
    show (s.phase.process tree r).value tree key = s.stored key
    by_cases hne : key = r.key
    · subst hne
      -- nothing newer is left, so `r` is the newest record of its key
      have hnone : ∀ r', s.log.Undelivered r.key r' → ¬ r.sequenceNumber < r'.sequenceNumber := by
        intro r' hr' hlt
        refine hdone r' ((hadvance _ _).mpr ⟨hr', ?_⟩)
        rintro ⟨rfl, -⟩
        exact absurd hlt (Nat.lt_irrefl _)
      have hundelivered : s.log.Undelivered r.key r := by
        refine ⟨rfl, shard, ?_⟩
        rw [PartitionedLog.unread_of_position hpos]
        obtain ⟨hlt, hr⟩ := List.getElem?_eq_some_iff.mp hget
        show r ∈ (s.records shard).drop n
        rw [List.drop_eq_getElem_cons hlt, hr]
        exact List.mem_cons_self
      have himage := h.latest r.key r hwritten fun r' hr' => by
        by_contra hgt
        have hlt := Nat.not_le.mp hgt
        exact hnone r' (h.final r.key r r' hundelivered hr' hlt) hlt
      rcases hcases with ⟨hconfig, -⟩ | ⟨config, config', -, hafter, hvalue, -⟩
      · rcases hmet with hassigned | hunvisited | ⟨r', hr', hlt⟩
        · rw [hconfig] at hassigned
          cases hassigned
        · rw [hnow] at hunvisited
          cases hunvisited
        · exact absurd hlt (hnone r' hr')
      · rw [hafter]
        show tree.get config' r.key = _
        rw [hvalue, SubscriptionState.stored, ← himage]
        rcases himg : r.change.newImage with _ | item
        · exact localValue_none
        · exact hclean item himg
    · have hbefore : s.phase.value tree key = s.stored key := by
        refine h.settled key hkey' hnow fun r' hr' => hdone r' ((hadvance _ _).mpr ⟨hr', ?_⟩)
        rintro ⟨rfl, -⟩
        exact hne hr'.1.symm
      rcases hcases with ⟨-, hsame⟩ | ⟨config, config', hphase, hafter, -, hothers⟩
      · rwa [hsame]
      · rw [hafter]
        rw [hphase] at hbefore
        exact (hothers key hkey' hne).trans hbefore

/-! ## Runs -/

/-- **The step lemma.** A sound step keeps the invariant. -/
theorem Converging.step (hlawful : tree.Lawful) (hkeys : SeparateKeys keys) {label : SubscriptionStep}
    (h : Converging tree keys s) (hsound : Sound keys s label)
    (hnext : (subscription tree).next s label = some t) : Converging tree keys t := by
  cases label with
  | setConfigEntry key value =>
    cases hnext
    exact h.setConfigEntry hsound.1 hsound.2.1 hsound.2.2
  | deleteConfigEntry key =>
    cases hnext
    exact h.deleteConfigEntry hsound.1 hsound.2
  | splitShard shard toLeft =>
    simp only [subscription, SubscriptionState.next] at hnext
    split at hnext
    · cases hnext
      exact h.relocate_of_unread_eq rfl rfl rfl rfl h.ordered (fun _ => rfl) h.saved
    · cases hnext
  | getShardIterator shard =>
    simp only [subscription, SubscriptionState.next] at hnext
    split at hnext
    · rename_i hopen
      cases hnext
      exact h.getShardIterator hopen.2.1 hopen.2.2
    · cases hnext
  | scanPart part last =>
    simp only [subscription, SubscriptionState.next] at hnext
    split at hnext
    · rename_i hphase
      cases hnext
      exact h.scanPart hphase hsound
    · cases hnext
  | assignConfig =>
    simp only [subscription, SubscriptionState.next] at hnext
    split at hnext
    · rename_i hphase
      cases hnext
      exact h.assignConfig hlawful hkeys hphase
    · cases hnext
  | startShard shard =>
    simp only [subscription, SubscriptionState.next] at hnext
    split at hnext
    · rename_i hreading hiterator
      cases hnext
      exact h.startShard hreading hiterator
    · cases hnext
  | deliverRecord =>
    simp only [subscription, SubscriptionState.next] at hnext
    split at hnext
    · cases hnext
    · rename_i hreading
      split at hnext
      · cases hnext
      · rename_i hget
        cases hnext
        exact h.deliverRecord hlawful hkeys hreading hget hsound
  | storeIterator =>
    simp only [subscription, SubscriptionState.next] at hnext
    split at hnext
    · cases hnext
    · rename_i hreading
      split at hnext
      · rename_i hend
        cases hnext
        exact h.storeIterator hreading hend
      · cases hnext
  | iteratorExpired =>
    simp only [subscription, SubscriptionState.next] at hnext
    split at hnext
    · cases hnext
    · rename_i hreading
      cases hnext
      exact h.iteratorExpired hreading hsound
  | readFailed =>
    simp only [subscription, SubscriptionState.next] at hnext
    split at hnext
    · cases hnext
    · rename_i hreading
      cases hnext
      exact h.readFailed hreading hsound

/-- **Convergence.** In every run of sound steps, whenever nothing is undelivered behind an iterator, the
local configuration has the value of the table under every key. -/
theorem local_config_converges (hlawful : tree.Lawful) (hkeys : SeparateKeys keys)
    (h : (subscription tree).Reach (Sound keys) s) (hq : Quiescent s) : Converged tree s :=
  Converging.converged (h.invariant (fun _ hinit => converging_init hinit)
    fun _ _ _ hs hsound hnext => hs.step hlawful hkeys hsound hnext) hq

/-! ## Two runs -/

/-- A configuration of separate keys, as a function of the key. -/
def flatTree : ConfigTree (String → Option ConfigValue) where
  empty _ := none
  put config key value := update config key value
  pop config key := update config key none
  get config key := config key
  copy config := config

theorem flatTree_lawful : flatTree.Lawful := by
  have hne : ∀ key key', Independent key key' → key' ≠ key := by
    rintro key key' hindependent rfl
    exact hindependent.1 (List.prefix_refl _)
  exact
    { get_empty := fun _ _ => rfl
      get_put_self := fun _ _ _ _ => update_self _ _ _
      get_put_of_independent := fun _ key key' _ _ _ h => update_of_ne (hne key key' h) _ _
      get_pop_self := fun _ _ _ => update_self _ _ _
      get_pop_of_independent := fun _ key key' _ _ h => update_of_ne (hne key key' h) _ _
      get_copy := fun _ _ _ => rfl }

/-- The only key of the runs. -/
def localeKey : String := "cluster.locale"

theorem separateKeys_locale : SeparateKeys (· = localeKey) where
  plain := by
    rintro key rfl
    decide
  independent := by
    rintro key key' rfl rfl hne
    exact absurd rfl hne

/-- A table with one entry, and a stream with one shard. -/
def oneEntry : SubscriptionState (String → Option ConfigValue) where
  clusterSettings := (∅ : Table String ConfigEntry).putItem localeKey ⟨some (.string "en_US"), 1⟩
  nextSequenceNumber := 0
  records _ := []
  shardCount := 1
  isClosed _ := false
  shardOf _ := 0
  shardIteratorsMap _ := none
  reading := none
  phase := .scanning (fun _ => false) ∅

theorem init_oneEntry : (subscription flatTree).init oneEntry :=
  ⟨fun _ => rfl, fun _ => rfl, rfl, rfl⟩

/-- The entry is changed. -/
def changeLocale : SubscriptionStep := .setConfigEntry localeKey (some (.string "de_DE"))

/-- The scan and the construction of the configuration. -/
def buildSteps : List SubscriptionStep := [.scanPart (fun _ => true) true, .assignConfig]

theorem iterator_of_ne {shard : Nat} (hne : shard ≠ 0) (first second : Option Nat) :
    update (update oneEntry.shardIteratorsMap 0 first) 0 second shard = none := by
  rw [update_of_ne hne, update_of_ne hne]
  rfl

theorem local_config_converges_changeLocale : ∃ s, (subscription flatTree).exec oneEntry
        ([.getShardIterator 0] ++ buildSteps ++
          [changeLocale, .startShard 0, .deliverRecord, .storeIterator]) = some s ∧
      Quiescent s ∧ Converged flatTree s := by
  obtain ⟨s, hexec⟩ : ∃ s, (subscription flatTree).exec oneEntry
      ([.getShardIterator 0] ++ buildSteps ++
        [changeLocale, .startShard 0, .deliverRecord, .storeIterator]) = some s := ⟨_, rfl⟩
  have hq : Quiescent s := by
    cases hexec
    refine ⟨rfl, rfl, fun shard iterator hiterator => ?_⟩
    by_cases hshard : shard = 0
    · subst hshard
      cases hiterator
      rfl
    · cases (iterator_of_ne hshard (some 0) (some 1)).symm.trans hiterator
  refine ⟨s, hexec, hq, local_config_converges flatTree_lawful separateKeys_locale
    (.of_exec (.init init_oneEntry) ?_ hexec) hq⟩
  refine ⟨trivial, fun s₁ h₁ => ⟨?_, fun s₂ h₂ => ⟨trivial, fun s₃ h₃ => ⟨⟨rfl, rfl, ?_⟩,
    fun s₄ h₄ => ⟨trivial, fun s₅ h₅ => ⟨?_, fun _ _ => ⟨trivial, fun _ _ => meets_nil⟩⟩⟩⟩⟩⟩⟩
  · cases h₁
    intro key item hitem
    by_cases hkey : key = localeKey
    · subst hkey
      cases hitem
      exact ⟨rfl, rfl⟩
    · change ((∅ : Table String ConfigEntry).putItem localeKey _).getItem key = _ at hitem
      rw [Table.getItem_putItem_of_ne _ _ hkey] at hitem
      cases hitem
  · cases h₁
    cases h₂
    cases h₃
    exact .inl rfl
  · cases h₁
    cases h₂
    cases h₃
    cases h₄
    cases h₅
    intro shard n r hreading hget
    cases hreading
    refine ⟨fun q hq r' hr' => ?_, .inl rfl⟩
    -- no other shard has an iterator
    rw [PartitionedLog.unread_of_not_position (iterator_of_ne hq (some 0) (some 0))] at hr'
    cases hr'

/-- **A write before the iterator is lost.** The entry is changed after the scan and before the iterator
of its shard is opened, of the type `LATEST`: the record is never delivered. -/
theorem write_before_iterator_is_lost :
    ¬ ∀ (T : Type) (tree : ConfigTree T), tree.Lawful → ∀ s, (subscription tree).Reachable s →
      Quiescent s → Converged tree s := by
  intro h
  obtain ⟨s, hexec⟩ : ∃ s, (subscription flatTree).exec oneEntry
      (buildSteps ++ [changeLocale, .getShardIterator 0, .startShard 0, .storeIterator]) = some s :=
    ⟨_, rfl⟩
  have hfacts : Quiescent s ∧ Known s localeKey ∧ ∃ config, s.phase.config = some config ∧
      config localeKey = some (.string "en_US") ∧
      (s.clusterSettings.getItem localeKey).bind (·.value) = some (.string "de_DE") := by
    cases hexec
    refine ⟨⟨rfl, rfl, fun shard iterator hiterator => ?_⟩, .inl rfl, _, rfl, rfl, rfl⟩
    by_cases hshard : shard = 0
    · subst hshard
      cases hiterator
      rfl
    · cases (iterator_of_ne hshard (some 1) (some 1)).symm.trans hiterator
  obtain ⟨hq, hknown, config, hconfig, hlocal, hstored⟩ := hfacts
  have hvalue : config localeKey = _ :=
    h _ flatTree flatTree_lawful s (.of_exec (.init init_oneEntry) hexec) hq config hconfig
      localeKey hknown
  rw [hlocal, hstored] at hvalue
  have hsame : "en_US" = "de_DE" := ConfigValue.string.inj (Option.some.inj hvalue)
  revert hsame
  decide

end ContainRes.Config
