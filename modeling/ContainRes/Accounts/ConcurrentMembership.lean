import ContainRes.Accounts.MembershipThreads
import ContainRes.Systems.Threads
import Mathlib.Data.List.Dedup

/-! # Concurrent changes of the groups of a user

Calls of `add_users_to_group` and `remove_users_from_group` on one user, for different groups, interleaved at
their single reads and writes. Both methods read a list, compute a new one and write it back.

* **`Record`** — the lists that are written back: the additional groups of the user, and the sources of the
  user in a project.
* **`memberships`** — the system of the calls on a user, one for each group that has one.
* **`NothingLost`** — in the end each call has had its effect.
* **`Unraced`** — the condition on a step: no record is changed under another call that is about to write it.
* **`callProtocol`** — what the accesses of a call may do; **`nothingLost_of_unraced`** is the result, and
  `lost_update` a run on which a group is lost. -/

namespace ContainRes.Accounts

open Effects Store Systems Text Function

/-! ## The records -/

/-- A list of the user that calls read and write back. -/
inductive Record
  | additionalGroups
  /-- `by_ldaps` of the user in a project. -/
  | sources (projectId : String)
  deriving DecidableEq, Repr

/-- The value of a record; there is none without the item. -/
def Record.value (u : String) (db : Db) : Record → Option (List String)
  | .additionalGroups => (db.users.getItem u).map UserRow.additionalGroups
  | .sources projectId => db.userProjects.getItem (u, projectId)

/-- The group is listed in the record. -/
def Record.Lists (u : String) (db : Db) (r : Record) (g : String) : Prop := g ∈ (r.value u db).getD []

/-- Two values of a record list the same groups. -/
def SameValue (a b : Option (List String)) : Prop :=
  a.isSome = b.isSome ∧ ∀ x, x ∈ a.getD [] ↔ x ∈ b.getD []

namespace TableAccess

variable (u : String)

/-- The record of the user that an access writes. -/
def writes : TableAccess → Option Record
  | .updateAdditionalGroups username _ => if username = u then some .additionalGroups else none
  | .putUserProject username projectId _ => if username = u then some (.sources projectId) else none
  | .updateUserProject username projectId _ => if username = u then some (.sources projectId) else none
  | .deleteUserProject username projectId => if username = u then some (.sources projectId) else none
  | _ => none

/-- The value that it writes. -/
def written : TableAccess → Option (List String)
  | .updateAdditionalGroups _ groups => some groups
  | .putUserProject _ _ byLdaps => some byLdaps
  | .updateUserProject _ _ byLdaps => some byLdaps
  | _ => none

/-- The record of the user that an access reads, with the value that it answers. -/
def readsRecord : (op : TableAccess) → op.Answer → Option (Record × Option (List String))
  | .getUser username, some row =>
    if username = u then some (.additionalGroups, some row.additionalGroups) else none
  | .getUserProject username projectId, answer =>
    if username = u then some (.sources projectId, answer) else none
  | _, _ => none

end TableAccess

/-! ## The calls -/

/-- A call on the user, for a group. -/
inductive MembershipCall
  /-- `add_users_to_group([username], group_name, bypass_active_user_check)`. -/
  | add (ctx : AccountsContext) (bypassActiveUserCheck : Bool)
  /-- `remove_users_from_group([username], group_name, force)`. -/
  | remove (force : Bool)

/-- Whether the call is an addition. -/
def MembershipCall.adds : MembershipCall → Bool
  | .add _ _ => true
  | .remove _ => false

/-- The thread of a call. -/
def MembershipCall.thread (u g : String) : MembershipCall → DbThread PUnit
  | .add ctx bypassActiveUserCheck => Stepwise.addUsersToGroup ctx [u] g bypassActiveUserCheck
  | .remove force => Stepwise.removeUsersFromGroup [u] g force

/-- Calls on a shared database, named by their groups. -/
abbrev Calls : Type := Threads String Db TableAccess TableAccess.Answer Exc PUnit

/-- The thread of a group: that of its call if it has one. -/
def startOf (u : String) (calls : String → Option MembershipCall) (g : String) : DbThread PUnit :=
  match calls g with
  | none => pure ⟨⟩
  | some call => call.thread u g

/-- The calls on the user `u`. -/
def memberships (u : String) (calls : String → Option MembershipCall) (db : Db) : System Calls String :=
  interleaved TableAccess.serve fun s => s.shared = db ∧ s.thread = startOf u calls

/-- What the calls are made for: an enabled, active user, and enabled groups. -/
structure Callable (u : String) (calls : String → Option MembershipCall) (db : Db) : Prop where
  stored : sanitized u = u
  user : ∃ row, db.users.getItem u = some row ∧ row.enabled = true ∧ row.isActive = true
  groups : ∀ g call, calls g = some call → ∃ row, db.groups.getItem g = some row ∧ row.enabled = true

/-- What the call of a group makes of its presence: an addition puts it in, a removal takes it out, and
without a call it stays as it was. -/
def Wanted (call : Option MembershipCall) (before : Prop) : Prop :=
  match call with
  | none => before
  | some call => call.adds = true

/-- Every call has had its effect when all have returned. -/
def NothingLost (u : String) (calls : String → Option MembershipCall) (db : Db) (s : Calls) : Prop :=
  (∀ g, s.thread g = .done (.ok ⟨⟩)) → ∀ g,
    (Record.additionalGroups.Lists u s.shared g ↔ Wanted (calls g) (Record.additionalGroups.Lists u db g)) ∧
    (s.shared.IsMember g u ↔ Wanted (calls g) (db.IsMember g u)) ∧
    ∀ p, db.IsMapped g p →
      ((Record.sources p).Lists u s.shared g ↔ Wanted (calls g) ((Record.sources p).Lists u db g))

/-- The condition on a step of the call for `g`: when it changes a record, no other call is about to write the
record, which it has read before. -/
def Unraced (u : String) (s : Calls) (g : String) : Prop :=
  ∀ op next r, s.thread g = .access op next → op.writes u = some r →
    SameValue (r.value u s.shared) (r.value u (op.serve s.shared).2) ∨
      ∀ g' op' next', g' ≠ g → s.thread g' = .access op' next' → op'.writes u ≠ some r

/-! ## What an access does to the records -/

section Access

variable {u : String} {db : Db}

theorem SameValue.refl (a : Option (List String)) : SameValue a a := ⟨rfl, fun _ => Iff.rfl⟩

theorem SameValue.trans {a b c : Option (List String)} (h : SameValue a b) (h' : SameValue b c) :
    SameValue a c := ⟨h.1.trans h'.1, fun x => (h.2 x).trans (h'.2 x)⟩

/-- The value of a record after an access. -/
theorem value_serve (hu : db.users.Has u) (op : TableAccess) (r : Record) :
    r.value u (op.serve db).2 = if op.writes u = some r then op.written else r.value u db := by
  obtain ⟨row, hrow⟩ := Table.has_iff.mp hu
  cases op with
  | updateAdditionalGroups username groups =>
    by_cases hname : username = u
    · subst hname
      cases r with
      | additionalGroups =>
        simp [TableAccess.serve, TableAccess.writes, TableAccess.written, Record.value, hrow, Table.getItem_updateItem]
      | sources p => simp [TableAccess.serve, TableAccess.writes, Record.value, hrow]
    · cases r with
      | additionalGroups =>
        simp [TableAccess.serve, TableAccess.writes, Record.value, hname, Table.getItem_updateItem, Ne.symm hname]
      | sources p => simp [TableAccess.serve, TableAccess.writes, Record.value, hname]
  | putUserProject username p byLdaps | updateUserProject username p byLdaps =>
    cases r with
    | additionalGroups =>
      by_cases hname : username = u <;> simp [TableAccess.serve, TableAccess.writes, Record.value, hname]
    | sources q =>
      by_cases hname : username = u
      · by_cases hq : p = q
        · simp [TableAccess.serve, TableAccess.writes, TableAccess.written, Record.value, hname, hq]
        · simp [TableAccess.serve, TableAccess.writes, Record.value, hname, hq, Ne.symm hq]
      · simp [TableAccess.serve, TableAccess.writes, Record.value, hname, Ne.symm hname]
  | deleteUserProject username p =>
    cases r with
    | additionalGroups =>
      by_cases hname : username = u <;> simp [TableAccess.serve, TableAccess.writes, Record.value, hname]
    | sources q =>
      by_cases hname : username = u
      · by_cases hq : p = q
        · simp [TableAccess.serve, TableAccess.writes, TableAccess.written, Record.value, hname, hq]
        · simp [TableAccess.serve, TableAccess.writes, Record.value, hname, hq, Ne.symm hq]
      · simp [TableAccess.serve, TableAccess.writes, Record.value, hname, Ne.symm hname]
  | _ => rfl

/-- What is read is the value of the record, and nothing is changed. -/
theorem eq_value_of_reads {op : TableAccess} {r : Record} {value : Option (List String)}
    (h : op.readsRecord u (op.serve db).1 = some (r, value)) : value = r.value u db ∧ (op.serve db).2 = db := by
  cases op with
  | getUser username =>
    simp only [TableAccess.serve] at h ⊢
    cases hrow : db.users.getItem username with
    | none =>
      rw [hrow] at h
      cases h
    | some row =>
      rw [hrow] at h
      simp only [TableAccess.readsRecord] at h
      split at h
      · next hname =>
          cases h
          refine ⟨?_, trivial⟩
          rw [Record.value, ← hname, hrow]
          rfl
      · cases h
  | getUserProject username p =>
    simp only [TableAccess.serve, TableAccess.readsRecord] at h ⊢
    split at h
    · next hname =>
        cases h
        refine ⟨?_, trivial⟩
        rw [Record.value, hname]
    · cases h
  | _ => cases h

/-- What an access leaves of the groups and of the rows of the projects. -/
theorem groups_serve (op : TableAccess) (db : Db) :
    (op.serve db).2.groups = db.groups ∧ (op.serve db).2.projectGroups = db.projectGroups := by
  cases op <;> exact ⟨rfl, rfl⟩

/-- The user stays, with what the accesses do not write. -/
theorem user_serve {row : UserRow} (hrow : db.users.getItem u = some row) (op : TableAccess) :
    ∃ row', (op.serve db).2.users.getItem u = some row' ∧ row'.isActive = row.isActive := by
  cases op with
  | updateAdditionalGroups username groups =>
    unfold TableAccess.serve
    by_cases hname : u = username
    · refine ⟨{ row with additionalGroups := groups }, ?_, rfl⟩
      simp [Table.getItem_updateItem, hname ▸ hrow, hname]
    · exact ⟨row, by simp [Table.getItem_updateItem, hname, hrow], rfl⟩
  | _ => exact ⟨row, hrow, rfl⟩

end Access

/-! ## The protocol of a call -/

/-- What is known of a call between its accesses. -/
structure CallPoint where
  /-- The record that the last access read, with its value. -/
  lastRead : Option (Record × Option (List String)) := none
  /-- The records that list the group, or do not, as the call wants it. -/
  settled : List Record := []
  /-- The membership row is written or deleted. -/
  member : Bool := false
  /-- The projects of the group, once they are read. -/
  mapped : Option (List String) := none

section Protocol

variable (u g : String) (adds : Bool)

/-- The records that an access settles: the one that it writes, and the one that it reads as it is wanted. -/
def settledBy (op : TableAccess) (answer : op.Answer) : List Record :=
  match op.writes u with
  | some r => [r]
  | none =>
    match op.readsRecord u answer with
    | some (r, value) => if decide (g ∈ value.getD []) = adds then [r] else []
    | none => []

/-- A membership row of the user is written or deleted. -/
def settlesMember : TableAccess → Bool
  | .putMembership _ username => username = u
  | .deleteMembership _ username => username = u
  | _ => false

/-- The projects of the group after an access. -/
def mappedBy (mapped : Option (List String)) : (op : TableAccess) → op.Answer → Option (List String)
  | .queryProjectGroups groupName, projectIds => if groupName = g then some projectIds else mapped
  | _, _ => mapped

/-- The answers to the accesses of a call, when the user is active and the group exists. -/
def expectedAnswer : (op : TableAccess) → op.Answer → Prop
  | .getUser username, answer => username = u → ∃ row, answer = some row ∧ row.isActive = true
  | .getGroup groupName, answer => groupName = g → ∃ row, answer = some row
  | .updateAdditionalGroups username _, held => username = u → held = true
  | _, _ => True

/-- The protocol of a call: it writes a record back only right after it has read it, with the group put in or
taken out, and it touches no other membership. -/
def callProtocol : Protocol TableAccess TableAccess.Answer CallPoint where
  may c op :=
    (∀ r, op.writes u = some r → ∃ value, c.lastRead = some (r, value) ∧
      ∀ x, x ∈ op.written.getD [] ↔ if x = g then adds = true else x ∈ value.getD []) ∧
    (∀ g' u', op = .putMembership g' u' → g' = g ∧ adds = true) ∧
    (∀ g' u', op = .deleteMembership g' u' → g' = g ∧ adds = false)
  expected := expectedAnswer u g
  after c op answer :=
    { lastRead := op.readsRecord u answer
      settled := settledBy u g adds op answer ++ c.settled
      member := settlesMember u op || c.member
      mapped := mappedBy g c.mapped op answer }

/-- The call has done its work. -/
def CallPoint.Complete (c : CallPoint) : Prop :=
  .additionalGroups ∈ c.settled ∧ c.member = true ∧
    ∃ projectIds, c.mapped = some projectIds ∧ ∀ p ∈ projectIds, .sources p ∈ c.settled

/-- Nothing is unsettled between two points, and the projects are not read. -/
structure CallPoint.Extends (c c' : CallPoint) : Prop where
  settled : c.settled ⊆ c'.settled
  member : c.member = true → c'.member = true
  mapped : c'.mapped = c.mapped

end Protocol

namespace CallPoint.Extends

variable {c c' c'' : CallPoint}

theorem refl (c : CallPoint) : c.Extends c := ⟨fun _ h => h, id, rfl⟩

theorem trans (h : c.Extends c') (h' : c'.Extends c'') : c.Extends c'' :=
  ⟨fun _ hr => h'.settled (h.settled hr), fun hm => h'.member (h.member hm), h'.mapped.trans h.mapped⟩

end CallPoint.Extends

section Methods

variable {u g : String} {adds : Bool} {c : CallPoint}

/-- An access extends the point, unless it reads the projects of the group. -/
theorem extends_after {op : TableAccess} (hop : op ≠ .queryProjectGroups g) (answer : op.Answer) :
    c.Extends ((callProtocol u g adds).after c op answer) where
  settled := fun _ hr => List.mem_append_right _ hr
  member hm := by
    show (settlesMember u op || c.member) = true
    rw [hm, Bool.or_true]
  mapped := by
    show mappedBy g c.mapped op answer = c.mapped
    cases op with
    | queryProjectGroups groupName =>
      have hne : groupName ≠ g := fun h => hop (by rw [h])
      exact if_neg hne
    | _ => rfl

/-- The calls go on after an error only when the group was not found. -/
abbrev OtherError (_ : CallPoint) (e : Exc) : Prop := e.errorCode ≠ some .authGroupNotFound

open Stepwise

theorem obeys_requireNotEmpty {Q : CallPoint → PUnit → Prop} (hQ : Q c ⟨⟩) (value message : String) :
    (Stepwise.requireNotEmpty value message).Obeys (callProtocol u g adds) Q OtherError c :=
  Thread.Obeys.ite (fun _ => Thread.Obeys.raise (by simp [OtherError, Exc.invalidParams, Exc.errorCode]))
    fun _ => Thread.Obeys.pure hQ

theorem obeys_sanitizeUsername (hu : sanitized u = u) :
    (Thread.liftExcept (sanitizeUsername (some u)) : DbThread String).Obeys (callProtocol u g adds)
      (fun c' b => c = c' ∧ u = b) OtherError c := by
  unfold sanitizeUsername
  refine Thread.Obeys.liftExcept (fun a ha => ?_) fun e he => ?_
  · dsimp only at ha
    split at ha
    · cases ha
    · exact ⟨rfl, hu.symm.trans (Except.ok.inj ha)⟩
  · dsimp only at he
    split at he
    · cases he
      simp [OtherError, Exc.invalidParams, Exc.errorCode]
    · cases he

/-- A read of the user answers an active one, and settles the additional groups if they are as wanted. -/
theorem obeys_getUser (hu : sanitized u = u) :
    (Stepwise.getUser u).Obeys (callProtocol u g adds) (fun c' answer => ∃ row, answer = some row ∧
      row.isActive = true ∧ c'.lastRead = some (.additionalGroups, some row.additionalGroups) ∧ c.Extends c' ∧
        (decide (g ∈ row.additionalGroups) = adds → .additionalGroups ∈ c'.settled)) OtherError c := by
  unfold Stepwise.getUser
  refine Thread.Obeys.bind (obeys_sanitizeUsername hu) ?_
  rintro _ _ ⟨rfl, rfl⟩
  refine Thread.Obeys.perform ⟨fun r hr => ?_, fun _ _ h => ?_, fun _ _ h => ?_⟩ fun answer hanswer => ?_
  · cases hr
  · cases h
  · cases h
  · obtain ⟨row, rfl, hactive⟩ := hanswer rfl
    refine ⟨row, rfl, hactive, if_pos rfl, extends_after (by simp) _, fun hwanted => ?_⟩
    refine List.mem_append_left _ ?_
    simp [settledBy, TableAccess.writes, TableAccess.readsRecord, hwanted]

/-- A list that was just read is written back with the group put in or taken out. -/
theorem obeys_updateAdditionalGroups (hu : sanitized u = u) {base groups : List String}
    (hread : c.lastRead = some (.additionalGroups, some base))
    (hgroups : ∀ x, x ∈ groups ↔ if x = g then adds = true else x ∈ base) :
    (Stepwise.updateAdditionalGroups u groups).Obeys (callProtocol u g adds)
      (fun c' _ => c.Extends c' ∧ .additionalGroups ∈ c'.settled) OtherError c := by
  unfold Stepwise.updateAdditionalGroups
  refine Thread.Obeys.bind (obeys_sanitizeUsername hu) ?_
  rintro _ _ ⟨rfl, rfl⟩
  refine Thread.Obeys.bind (R := fun c' held => held = true ∧ c.Extends c' ∧ .additionalGroups ∈ c'.settled)
    (Thread.Obeys.perform ⟨fun r hr => ?_, fun _ _ h => ?_, fun _ _ h => ?_⟩ fun held hheld => ?_) ?_
  · simp only [TableAccess.writes, if_true, Option.some.injEq] at hr
    subst hr
    exact ⟨_, hread, hgroups⟩
  · cases h
  · cases h
  · refine ⟨hheld rfl, extends_after (by simp) _, List.mem_append_left _ ?_⟩
    simp [settledBy, TableAccess.writes]
  · rintro held c' ⟨rfl, hdone⟩
    exact Thread.Obeys.pure hdone

/-- The membership row of the group is put. -/
theorem obeys_createMembership (hu : sanitized u = u) (hadds : adds = true) :
    (Stepwise.createMembership g u).Obeys (callProtocol u g adds)
      (fun c' _ => c.Extends c' ∧ c'.member = true) OtherError c := by
  unfold Stepwise.createMembership
  refine Thread.Obeys.bind (obeys_sanitizeUsername hu) ?_
  rintro _ _ ⟨rfl, rfl⟩
  refine Thread.Obeys.bind (obeys_requireNotEmpty (Q := fun c' _ => c = c') rfl _ _) ?_
  rintro _ _ rfl
  refine Thread.Obeys.perform ⟨fun r hr => ?_, fun _ _ h => ?_, fun _ _ h => ?_⟩ fun _ _ => ?_
  · cases hr
  · cases h
    exact ⟨rfl, hadds⟩
  · cases h
  · exact ⟨extends_after (by simp) _, by simp [callProtocol, settlesMember]⟩

/-- The membership row of the group is deleted. -/
theorem obeys_deleteMembership (hu : sanitized u = u) (hadds : adds = false) :
    (Stepwise.deleteMembership g u).Obeys (callProtocol u g adds)
      (fun c' _ => c.Extends c' ∧ c'.member = true) OtherError c := by
  unfold Stepwise.deleteMembership
  refine Thread.Obeys.bind (obeys_sanitizeUsername hu) ?_
  rintro _ _ ⟨rfl, rfl⟩
  refine Thread.Obeys.bind (obeys_requireNotEmpty (Q := fun c' _ => c = c') rfl _ _) ?_
  rintro _ _ rfl
  refine Thread.Obeys.perform ⟨fun r hr => ?_, fun _ _ h => ?_, fun _ _ h => ?_⟩ fun _ _ => ?_
  · cases hr
  · cases h
  · cases h
    exact ⟨rfl, hadds⟩
  · exact ⟨extends_after (by simp) _, by simp [callProtocol, settlesMember]⟩

/-- A read of the sources of the user in a project. -/
theorem obeys_getUserProject (p : String) :
    (access (.getUserProject u p)).Obeys (callProtocol u g adds) (fun c' value =>
      c'.lastRead = some (.sources p, value) ∧ c.Extends c' ∧
        (decide (g ∈ value.getD []) = adds → .sources p ∈ c'.settled)) OtherError c := by
  refine Thread.Obeys.perform ⟨fun r hr => ?_, fun _ _ h => ?_, fun _ _ h => ?_⟩ fun value _ => ?_
  · cases hr
  · cases h
  · cases h
  · refine ⟨if_pos rfl, extends_after (by simp) _, fun hwanted => List.mem_append_left _ ?_⟩
    simp [settledBy, TableAccess.writes, TableAccess.readsRecord, hwanted]

theorem obeys_existingSources (p : String) : (existingSources u p).Obeys (callProtocol u g adds) (fun c' value =>
      c'.lastRead = some (.sources p, value) ∧ c.Extends c' ∧
        (decide (g ∈ value.getD []) = adds → .sources p ∈ c'.settled)) OtherError c := by
  unfold existingSources
  refine Thread.Obeys.bind (obeys_getUserProject p) ?_
  rintro (_ | existing) c' ⟨hread, hextends, hsettled⟩
  · exact Thread.Obeys.pure ⟨hread, hextends, hsettled⟩
  · refine Thread.Obeys.bind (obeys_getUserProject p) ?_
    rintro (_ | existing') c'' ⟨hread', hextends', hsettled'⟩
    · exact Thread.Obeys.raise (by simp [OtherError, Exc.errorCode])
    · exact Thread.Obeys.pure ⟨hread', hextends.trans hextends', hsettled'⟩

/-- A write of the sources that were just read. -/
theorem obeys_writeSources {p : String} {value : Option (List String)} {op : TableAccess}
    (hread : c.lastRead = some (.sources p, value)) (hwrites : op.writes u = some (.sources p))
    (hwritten : ∀ x, x ∈ op.written.getD [] ↔ if x = g then adds = true else x ∈ value.getD []) :
    (access op).Obeys (callProtocol u g adds)
      (fun c' _ => c.Extends c' ∧ .sources p ∈ c'.settled) OtherError c := by
  refine Thread.Obeys.perform ⟨fun r hr => ?_, fun _ _ h => ?_, fun _ _ h => ?_⟩ fun _ _ => ?_
  · rw [hwrites] at hr
    cases hr
    exact ⟨value, hread, hwritten⟩
  · subst h
    cases hwrites
  · subst h
    cases hwrites
  · refine ⟨extends_after ?_ _, List.mem_append_left _ ?_⟩
    · rintro rfl
      cases hwrites
    · simp [settledBy, hwrites]

theorem obeys_createUserProject (hadds : adds = true) (p : String) :
    (createUserProject p u [g]).Obeys (callProtocol u g adds)
      (fun c' _ => c.Extends c' ∧ .sources p ∈ c'.settled) OtherError c := by
  unfold createUserProject
  refine Thread.Obeys.bind (obeys_requireNotEmpty (Q := fun c' _ => c = c') rfl _ _) ?_
  rintro _ _ rfl
  refine Thread.Obeys.bind (obeys_requireNotEmpty (Q := fun c' _ => c = c') rfl _ _) ?_
  rintro _ _ rfl
  refine Thread.Obeys.bind (obeys_existingSources p) ?_
  rintro (_ | existing) c' ⟨hread, hextends, -⟩
  · refine Thread.Obeys.mono (obeys_writeSources hread (by simp [TableAccess.writes]) fun x => ?_)
      (fun _ _ h => ⟨hextends.trans h.1, h.2⟩) fun _ _ h => h
    by_cases hx : x = g <;> simp [TableAccess.written, hx, hadds]
  · have hmem : ∀ x, x ∈ (existing ++ [g]).dedup ↔ if x = g then adds = true else x ∈ existing := by
      intro x
      rw [List.mem_dedup, List.mem_append, List.mem_singleton]
      by_cases hx : x = g <;> simp [hx, hadds]
    exact Thread.Obeys.mono (obeys_writeSources hread (by simp [TableAccess.writes]) hmem)
      (fun _ _ h => ⟨hextends.trans h.1, h.2⟩) fun _ _ h => h

theorem obeys_deleteUserProject (hu : sanitized u = u) (hadds : adds = false) (p : String) :
    (deleteUserProject p u [g]).Obeys (callProtocol u g adds)
      (fun c' _ => c.Extends c' ∧ .sources p ∈ c'.settled) OtherError c := by
  unfold deleteUserProject getProjectById
  refine Thread.Obeys.bind (obeys_requireNotEmpty (Q := fun c' _ => c = c') rfl _ _) ?_
  rintro _ _ rfl
  refine Thread.Obeys.bind (obeys_requireNotEmpty (Q := fun c' _ => c = c') rfl _ _) ?_
  rintro _ _ rfl
  refine Thread.Obeys.bind (R := fun c' _ => c.Extends c') ?_ ?_
  · refine Thread.Obeys.bind (obeys_requireNotEmpty (Q := fun c' _ => c = c') rfl _ _) ?_
    rintro _ _ rfl
    refine Thread.Obeys.perform ⟨fun r hr => ?_, fun _ _ h => ?_, fun _ _ h => ?_⟩ fun _ _ => ?_
    · cases hr
    · cases h
    · cases h
    · exact extends_after (by simp) _
  · rintro (_ | project) c' hextends
    · exact Thread.Obeys.raise (by simp [OtherError, Exc.errorCode])
    · refine Thread.Obeys.bind (obeys_getUser hu) ?_
      rintro _ c'' ⟨row, rfl, -, -, hextends', -⟩
      refine Thread.Obeys.bind (obeys_existingSources p) ?_
      rintro (_ | existing) c₃ ⟨hread, hextends₃, hsettled⟩
      · refine Thread.Obeys.pure ⟨(hextends.trans hextends').trans hextends₃, hsettled ?_⟩
        rw [hadds]
        rfl
      · have hleft : ∀ x, x ∈ existing.dedup.filter (fun source => source ∉ [g]) ↔
            if x = g then adds = true else x ∈ existing := by
          intro x
          rw [List.mem_filter, List.mem_dedup]
          by_cases hx : x = g <;> simp [hx, hadds]
        refine Thread.Obeys.ite (fun hnil => ?_) fun _ => ?_
        · refine Thread.Obeys.mono (obeys_writeSources hread (by simp [TableAccess.writes]) fun x => ?_)
            (fun _ _ h => ⟨((hextends.trans hextends').trans hextends₃).trans h.1, h.2⟩) fun _ _ h => h
          have hx := hleft x
          rw [hnil] at hx
          exact hx
        · exact Thread.Obeys.mono (obeys_writeSources hread (by simp [TableAccess.writes]) hleft)
            (fun _ _ h => ⟨((hextends.trans hextends').trans hextends₃).trans h.1, h.2⟩) fun _ _ h => h

/-- A loop over the projects settles the sources in each of them. -/
theorem obeys_forEachProject {f : String → DbThread PUnit}
    (hf : ∀ p c, (f p).Obeys (callProtocol u g adds) (fun c' _ => c.Extends c' ∧ .sources p ∈ c'.settled)
      OtherError c) (projectIds : List String) : (Thread.forEach f projectIds).Obeys (callProtocol u g adds)
      (fun c' _ => c.Extends c' ∧ ∀ p ∈ projectIds, .sources p ∈ c'.settled) OtherError c := by
  let I : List String → CallPoint → Prop := fun left c' =>
    c.Extends c' ∧ ∀ p ∈ projectIds, p ∈ left ∨ .sources p ∈ c'.settled
  have hloop : (Thread.forEach f projectIds).Obeys (callProtocol u g adds) (fun c' _ => I [] c')
      OtherError c := by
    refine Thread.Obeys.forEach (I := I) ?_ ⟨CallPoint.Extends.refl c, fun p hp => .inl hp⟩
    rintro p left c' ⟨hextends, hleft⟩
    refine (hf p c').mono ?_ fun _ _ h => h
    rintro c'' _ ⟨hextends', hp⟩
    refine ⟨hextends.trans hextends', fun q hq => ?_⟩
    rcases hleft q hq with hmem | hsettled
    · rcases List.mem_cons.mp hmem with rfl | hmem
      · exact .inr hp
      · exact .inl hmem
    · exact .inr (hextends'.settled hsettled)
  refine hloop.mono ?_ fun _ _ h => h
  rintro c' _ ⟨hextends, hall⟩
  exact ⟨hextends, fun p hp => (hall p hp).resolve_left List.not_mem_nil⟩

/-- The part of a call after the membership row: the projects of the group are read, and the sources in each
of them are changed. -/
theorem obeys_projects {f : String → DbThread PUnit}
    (hf : ∀ p c, (f p).Obeys (callProtocol u g adds) (fun c' _ => c.Extends c' ∧ .sources p ∈ c'.settled)
      OtherError c) (hlisted : .additionalGroups ∈ c.settled) (hmember : c.member = true) : (do
      Stepwise.requireNotEmpty g "group_name is required"
      Stepwise.requireNotEmpty u "username is required"
      let projectIds ← getProjectsByGroupName g
      Thread.forEach f projectIds).Obeys (callProtocol u g adds) (fun c' _ => c'.Complete) OtherError c := by
  refine Thread.Obeys.bind (obeys_requireNotEmpty (Q := fun c' _ => c = c') rfl _ _) ?_
  rintro _ _ rfl
  refine Thread.Obeys.bind (obeys_requireNotEmpty (Q := fun c' _ => c = c') rfl _ _) ?_
  rintro _ _ rfl
  refine Thread.Obeys.bind (R := fun c' projectIds => .additionalGroups ∈ c'.settled ∧ c'.member = true ∧
    c'.mapped = some projectIds) ?_ ?_
  · unfold getProjectsByGroupName
    refine Thread.Obeys.bind (obeys_requireNotEmpty (Q := fun c' _ => c = c') rfl _ _) ?_
    rintro _ _ rfl
    refine Thread.Obeys.perform ⟨fun r hr => ?_, fun _ _ h => ?_, fun _ _ h => ?_⟩ fun projectIds _ => ?_
    · cases hr
    · cases h
    · cases h
    · exact ⟨List.mem_append_right _ hlisted, hmember, if_pos rfl⟩
  · rintro projectIds c' ⟨hlisted', hmember', hmapped⟩
    refine (obeys_forEachProject hf projectIds).mono ?_ fun _ _ h => h
    rintro c'' _ ⟨hextends, hall⟩
    exact ⟨hextends.settled hlisted', hextends.member hmember', projectIds, hextends.mapped.trans hmapped, hall⟩

/-- The group is put in or taken out of the list that was read, where that is needed. -/
theorem obeys_whenNeeded (hu : sanitized u = u) {base groups : List String} {needed : Prop} [Decidable needed]
    (hread : c.lastRead = some (.additionalGroups, some base))
    (hsettled : decide (g ∈ base) = adds → .additionalGroups ∈ c.settled)
    (hneeded : ¬ needed → decide (g ∈ base) = adds)
    (hgroups : ∀ x, x ∈ groups ↔ if x = g then adds = true else x ∈ base) :
    (Thread.when needed (Stepwise.updateAdditionalGroups u groups)).Obeys (callProtocol u g adds)
      (fun c' _ => c.Extends c' ∧ .additionalGroups ∈ c'.settled) OtherError c :=
  Thread.Obeys.when (fun _ => obeys_updateAdditionalGroups hu hread hgroups)
    fun hnot => ⟨CallPoint.Extends.refl c, hsettled (hneeded hnot)⟩

/-- A call finds its group. -/
theorem obeys_getGroup : (Stepwise.getGroup g).Obeys (callProtocol u g adds) (fun _ answer => ∃ row, answer = some row)
      OtherError c := by
  unfold Stepwise.getGroup
  refine Thread.Obeys.bind (obeys_requireNotEmpty (Q := fun c' _ => c = c') rfl _ _) ?_
  rintro _ _ rfl
  refine Thread.Obeys.perform ⟨fun r hr => ?_, fun _ _ h => ?_, fun _ _ h => ?_⟩ fun answer hanswer => ?_
  · cases hr
  · cases h
  · cases h
  · exact hanswer rfl

theorem obeys_addUserToGroup (hu : sanitized u = u) (hadds : adds = true) (ctx : AccountsContext)
    (bypass : Bool) : (Stepwise.addUserToGroup ctx g bypass u).Obeys (callProtocol u g adds)
      (fun c' _ => c'.Complete) OtherError c := by
  unfold Stepwise.addUserToGroup
  refine Thread.Obeys.bind (obeys_getUser hu) ?_
  rintro _ c' ⟨row, rfl, hactive, hread, -, hsettled⟩
  refine Thread.Obeys.ite (fun _ => Thread.Obeys.raise (by simp [OtherError, userIsDisabled, Exc.errorCode]))
    fun _ => ?_
  refine Thread.Obeys.bind (obeys_whenNeeded hu hread hsettled (fun hnot => ?_) fun x => ?_) ?_
  · rw [hadds]
    exact decide_eq_true (not_not.mp hnot)
  · rw [withGroup, List.mem_dedup, List.mem_append, List.mem_singleton]
    by_cases hx : x = g <;> simp [hx, hadds]
  · rintro _ c'' ⟨-, hlisted⟩
    refine Thread.Obeys.when (fun _ => ?_) fun hnot => absurd ?_ hnot
    · refine Thread.Obeys.bind (obeys_createMembership hu hadds) ?_
      rintro _ c₃ ⟨hextends, hmember⟩
      exact obeys_projects (fun p _ => obeys_createUserProject hadds p) (hextends.settled hlisted) hmember
    · rw [hactive, Bool.or_true, Bool.true_or]

theorem obeys_addUsersToGroup (hu : sanitized u = u) (hadds : adds = true) (ctx : AccountsContext)
    (bypass : Bool) : (Stepwise.addUsersToGroup ctx [u] g bypass).Obeys (callProtocol u g adds)
      (fun c' _ => c'.Complete) OtherError c := by
  unfold Stepwise.addUsersToGroup
  refine Thread.Obeys.bind (R := fun _ _ => True) (Thread.Obeys.when (fun h => by cases h) fun _ => trivial) ?_
  rintro _ _ -
  refine Thread.Obeys.bind (R := fun _ _ => True) (obeys_requireNotEmpty trivial _ _) ?_
  rintro _ _ -
  refine Thread.Obeys.bind obeys_getGroup ?_
  rintro _ c' ⟨group, rfl⟩
  refine Thread.Obeys.ite (fun _ => Thread.Obeys.raise (by simp [OtherError, Exc.errorCode])) fun _ => ?_
  exact Thread.Obeys.bind (obeys_addUserToGroup hu hadds ctx bypass) fun _ _ hdone => Thread.Obeys.pure hdone

theorem obeys_removeUserFromGroup (hu : sanitized u = u) (hadds : adds = false) (force : Bool) :
    (Stepwise.removeUserFromGroup g force u).Obeys (callProtocol u g adds) (fun c' _ => c'.Complete) OtherError c := by
  unfold Stepwise.removeUserFromGroup
  refine Thread.Obeys.bind (obeys_getUser hu) ?_
  rintro _ c' ⟨row, rfl, -, hread, -, hsettled⟩
  refine Thread.Obeys.ite (fun _ => Thread.Obeys.raise (by simp [OtherError, userIsDisabled, Exc.errorCode]))
    fun _ => ?_
  refine Thread.Obeys.bind (obeys_whenNeeded hu hread hsettled (fun hnot => ?_) fun x => ?_) ?_
  · rw [hadds]
    exact decide_eq_false hnot
  · rw [withoutGroup, List.mem_filter, List.mem_dedup]
    by_cases hx : x = g <;> simp [hx, hadds]
  · rintro _ c'' ⟨-, hlisted⟩
    refine Thread.Obeys.bind (obeys_deleteMembership hu hadds) ?_
    rintro _ c₃ ⟨hextends, hmember⟩
    exact obeys_projects (fun p _ => obeys_deleteUserProject hu hadds p) (hextends.settled hlisted) hmember

theorem obeys_removeUsersFromGroup (hu : sanitized u = u) (hadds : adds = false) (force : Bool) :
    (Stepwise.removeUsersFromGroup [u] g force).Obeys (callProtocol u g adds)
      (fun c' _ => c'.Complete) OtherError c := by
  unfold Stepwise.removeUsersFromGroup
  refine Thread.Obeys.bind (R := fun _ _ => True) (Thread.Obeys.when (fun h => by cases h) fun _ => trivial) ?_
  rintro _ _ -
  refine Thread.Obeys.bind (R := fun _ _ => True) (obeys_requireNotEmpty trivial _ _) ?_
  rintro _ _ -
  refine Thread.Obeys.tryCatch (R := OtherError) ?_ fun e _ he => ?_
  · unfold Stepwise.removeFromGroup
    refine Thread.Obeys.bind obeys_getGroup ?_
    rintro _ c' ⟨group, rfl⟩
    refine Thread.Obeys.ite (fun _ => Thread.Obeys.raise (by simp [OtherError, Exc.errorCode])) fun _ => ?_
    exact Thread.Obeys.bind (obeys_removeUserFromGroup hu hadds force) fun _ _ hdone => Thread.Obeys.pure hdone
  · rw [if_neg he]
    exact Thread.Obeys.raise he

theorem obeys_call (hu : sanitized u = u) (call : MembershipCall) :
    (call.thread u g).Obeys (callProtocol u g call.adds) (fun c' _ => c'.Complete) OtherError c := by
  cases call with
  | add ctx bypass => exact obeys_addUsersToGroup hu rfl ctx bypass
  | remove force => exact obeys_removeUsersFromGroup hu rfl force

end Methods

/-! ## The run -/

/-- What holds of the database and the calls in a run without races. -/
structure Synced (u : String) (calls : String → Option MembershipCall) (db : Db) (s : Calls)
    (point : String → CallPoint) : Prop where
  idle : ∀ g, calls g = none → s.thread g = .done (.ok ⟨⟩)
  user : ∃ row, s.shared.users.getItem u = some row ∧ row.isActive = true
  groups : s.shared.groups = db.groups ∧ s.shared.projectGroups = db.projectGroups
  untouched : ∀ g, calls g = none →
    (∀ r : Record, r.Lists u s.shared g ↔ r.Lists u db g) ∧ (s.shared.IsMember g u ↔ db.IsMember g u)
  settled : ∀ g call, calls g = some call → ∀ r ∈ (point g).settled,
    (r.Lists u s.shared g ↔ call.adds = true)
  member : ∀ g call, calls g = some call → (point g).member = true →
    (s.shared.IsMember g u ↔ call.adds = true)
  mapped : ∀ g projectIds, (point g).mapped = some projectIds → ∀ p, db.IsMapped g p → p ∈ projectIds
  /-- What a call is about to write back is what it has read. -/
  fresh : ∀ g op next r value, s.thread g = .access op next → op.writes u = some r →
    (point g).lastRead = some (r, value) → SameValue value (r.value u s.shared)

/-- The protocol of the thread of a group. -/
def protocolOf (u : String) (calls : String → Option MembershipCall) (g : String) :
    Protocol TableAccess TableAccess.Answer CallPoint :=
  callProtocol u g ((calls g).any MembershipCall.adds)

/-- A call returns only when it has done its work. -/
def completes (calls : String → Option MembershipCall) (g : String) (c : CallPoint) (_ : PUnit) : Prop :=
  (calls g).isSome = true → c.Complete

section Run

variable {u : String} {calls : String → Option MembershipCall} {db : Db} {s : Calls}
  {point : String → CallPoint} {g : String} {op : TableAccess} {next : op.Answer → DbThread PUnit}

/-- What an access leaves of the membership rows of the user. -/
theorem isMember_serve {adds : Bool} {c : CallPoint} (hmay : (callProtocol u g adds).may c op) (s : Db) (x : String) :
    (op.serve s).2.IsMember x u ↔ if x = g ∧ settlesMember u op = true then adds = true else s.IsMember x u := by
  cases op with
  | putMembership g' u' =>
    obtain ⟨rfl, rfl⟩ := hmay.2.1 g' u' rfl
    by_cases hu : u = u'
    · subst hu
      by_cases hx : x = g' <;> simp [TableAccess.serve, settlesMember, hx]
    · simp [TableAccess.serve, settlesMember, hu, Ne.symm hu]
  | deleteMembership g' u' =>
    obtain ⟨rfl, rfl⟩ := hmay.2.2 g' u' rfl
    by_cases hu : u = u'
    · subst hu
      by_cases hx : x = g' <;> simp [TableAccess.serve, settlesMember, hx]
    · simp [TableAccess.serve, settlesMember, hu, Ne.symm hu]
  | _ => simp [TableAccess.serve, settlesMember, Db.IsMember]

namespace Synced

variable (h : Synced u calls db s point) (hthread : s.thread g = .access op next)
  {call : MembershipCall} (hmay : (callProtocol u g call.adds).may (point g) op)

include h hthread hmay

/-- An access of a call changes only whether its own group is listed. -/
theorem lists_serve (x : String) (r : Record) : r.Lists u (op.serve s.shared).2 x ↔
    if x = g ∧ op.writes u = some r then call.adds = true else r.Lists u s.shared x := by
  obtain ⟨row, hrow, -⟩ := h.user
  unfold Record.Lists
  rw [value_serve (Table.Has.of_getItem hrow)]
  by_cases hwrites : op.writes u = some r
  · obtain ⟨value, hread, hwritten⟩ := hmay.1 r hwrites
    have hfresh := h.fresh g op next r value hthread hwrites hread
    rw [if_pos hwrites, hwritten x]
    by_cases hx : x = g
    · rw [if_pos hx, if_pos ⟨hx, hwrites⟩]
    · rw [if_neg hx, if_neg fun hboth => hx hboth.1]
      exact hfresh.2 x
  · rw [if_neg hwrites, if_neg fun hboth => hwrites hboth.2]

/-- What is settled after an access is as the call wants it. -/
theorem settled_serve (hcall : calls g = some call) (r : Record)
    (hr : r ∈ ((callProtocol u g call.adds).after (point g) op (op.serve s.shared).1).settled) :
    r.Lists u (op.serve s.shared).2 g ↔ call.adds = true := by
  rw [h.lists_serve hthread hmay]
  by_cases hwrites : op.writes u = some r
  · rw [if_pos ⟨rfl, hwrites⟩]
  · rw [if_neg fun hboth => hwrites hboth.2]
    rcases List.mem_append.mp hr with hnew | hold
    · -- the record was read as it is wanted
      unfold settledBy at hnew
      split at hnew
      · next r' hr' =>
          rw [List.mem_singleton.mp hnew] at hwrites
          exact absurd hr' hwrites
      · split at hnew
        · next r' value hread =>
            split at hnew
            · next hwanted =>
                obtain rfl := List.mem_singleton.mp hnew
                rw [Record.Lists, ← (eq_value_of_reads hread).1, ← hwanted, decide_eq_true_iff]
            · cases hnew
        · cases hnew
    · exact h.settled g call hcall r hold

/-- **One access without a race.** -/
theorem advance (hcall : calls g = some call) (hguard : Unraced u s g) :
    Synced u calls db (s.advance TableAccess.serve g op next)
      (update point g ((callProtocol u g call.adds).after (point g) op (op.serve s.shared).1)) where
  idle g' hg' := by
    have hne : g' ≠ g := by
      rintro rfl
      rw [hcall] at hg'
      cases hg'
    show update s.thread g _ g' = _
    rw [update_of_ne hne]
    exact h.idle g' hg'
  user := by
    obtain ⟨row, hrow, hactive⟩ := h.user
    obtain ⟨row', hrow', heq⟩ := user_serve hrow op
    exact ⟨row', hrow', heq.trans hactive⟩
  groups := by
    obtain ⟨hgroups, hmapped⟩ := groups_serve op s.shared
    exact ⟨hgroups.trans h.groups.1, hmapped.trans h.groups.2⟩
  untouched g' hg' := by
    have hne : g' ≠ g := by
      rintro rfl
      rw [hcall] at hg'
      cases hg'
    refine ⟨fun r => ?_, ?_⟩
    · show r.Lists u (op.serve s.shared).2 g' ↔ _
      rw [h.lists_serve hthread hmay, if_neg fun hboth => hne hboth.1]
      exact (h.untouched g' hg').1 r
    · show (op.serve s.shared).2.IsMember g' u ↔ _
      rw [isMember_serve hmay, if_neg fun hboth => hne hboth.1]
      exact (h.untouched g' hg').2
  settled g' call' hcall' r hr := by
    by_cases heq : g' = g
    · subst heq
      rw [update_self] at hr
      obtain rfl : call = call' := Option.some.inj (hcall.symm.trans hcall')
      exact h.settled_serve hthread hmay hcall r hr
    · rw [update_of_ne heq] at hr
      show r.Lists u (op.serve s.shared).2 g' ↔ _
      rw [h.lists_serve hthread hmay, if_neg fun hboth => heq hboth.1]
      exact h.settled g' call' hcall' r hr
  member g' call' hcall' hm := by
    show (op.serve s.shared).2.IsMember g' u ↔ _
    rw [isMember_serve hmay]
    by_cases heq : g' = g
    · subst heq
      rw [update_self] at hm
      obtain rfl : call = call' := Option.some.inj (hcall.symm.trans hcall')
      by_cases hop : settlesMember u op = true
      · rw [if_pos ⟨rfl, hop⟩]
      · rw [if_neg fun hboth => hop hboth.2]
        have hold : (settlesMember u op || (point g').member) = true := hm
        rw [Bool.not_eq_true] at hop
        rw [hop, Bool.false_or] at hold
        exact h.member g' call hcall hold
    · rw [update_of_ne heq] at hm
      rw [if_neg fun hboth => heq hboth.1]
      exact h.member g' call' hcall' hm
  mapped g' projectIds hmapped p hp := by
    by_cases heq : g' = g
    · subst heq
      rw [update_self] at hmapped
      have hold : mappedBy g' (point g').mapped op (op.serve s.shared).1 = some projectIds := hmapped
      cases op with
      | queryProjectGroups groupName =>
        simp only [mappedBy] at hold
        split at hold
        · next hname =>
            rw [← Option.some.inj hold, hname]
            refine UserProjectsDao.mem_projectIds.mpr ?_
            unfold Db.IsMapped
            rw [h.groups.2]
            exact hp
        · exact h.mapped g' projectIds hold p hp
      | _ => exact h.mapped g' projectIds hold p hp
    · rw [update_of_ne heq] at hmapped
      exact h.mapped g' projectIds hmapped p hp
  fresh g' op' next' r value hthread' hwrites hread := by
    have hstored : ∃ row, s.shared.users.getItem u = some row := h.user.imp fun _ hrow => hrow.1
    by_cases heq : g' = g
    · subst heq
      rw [update_self] at hread
      obtain ⟨hvalue, hsame⟩ := eq_value_of_reads (u := u) hread
      show SameValue value (r.value u (op.serve s.shared).2)
      rw [hsame, hvalue]
      exact SameValue.refl _
    · rw [update_of_ne heq] at hread
      have hpending : s.thread g' = .access op' next' := by
        rw [← hthread']
        exact (update_of_ne heq _ _).symm
      have hfresh := h.fresh g' op' next' r value hpending hwrites hread
      refine hfresh.trans ?_
      show SameValue _ (r.value u (op.serve s.shared).2)
      by_cases hop : op.writes u = some r
      · -- the record may change only when nobody else is about to write it
        rcases hguard op next r hthread hop with hsame | hnobody
        · exact hsame
        · exact absurd hwrites (hnobody g' op' next' heq hpending)
      · rw [value_serve (Table.has_iff.mpr hstored), if_neg hop]
        exact SameValue.refl _

end Synced

/-- The answers to the accesses of a call are expected. -/
theorem Synced.expected (h : Synced u calls db s point) (hcallable : Callable u calls db)
    {call : MembershipCall} (hcall : calls g = some call) : expectedAnswer u g op (op.serve s.shared).1 := by
  obtain ⟨row, hrow, hactive⟩ := h.user
  cases op with
  | getUser username =>
    rintro rfl
    exact ⟨row, hrow, hactive⟩
  | getGroup groupName =>
    rintro rfl
    obtain ⟨group, hgroup, -⟩ := hcallable.groups _ call hcall
    refine ⟨group, ?_⟩
    show s.shared.groups.getItem groupName = _
    rw [h.groups.1, hgroup]
  | updateAdditionalGroups username groups =>
    rintro rfl
    show (s.shared.users.getItem username).isSome = true
    rw [hrow]
    rfl
  | _ => trivial

/-- **Concurrent changes are not lost.** In every interleaving in which no record is changed under a call that
is about to write it, each call has had its effect when all have returned. -/
theorem nothingLost_of_unraced (hcallable : Callable u calls db)
    (h : (memberships u calls db).Reach (Unraced u) s) : NothingLost u calls db s := by
  obtain ⟨point, hsynced, hobey⟩ : ∃ point, Synced u calls db s point ∧
      s.Obey (protocolOf u calls) (completes calls) (fun _ => OtherError) point := by
    refine Reach.threads_invariant ?_ ?_ h
    · rintro s ⟨hshared, hthread⟩
      obtain ⟨row, hrow, -, hactive⟩ := hcallable.user
      refine ⟨fun _ => {}, ⟨fun g hg => ?_, ?_, ?_, fun g _ => ?_, ?_, ?_, ?_, ?_⟩, fun g => ?_⟩
      · rw [hthread, startOf, hg]
        rfl
      · exact ⟨row, hshared ▸ hrow, hactive⟩
      · exact ⟨hshared ▸ rfl, hshared ▸ rfl⟩
      · exact ⟨fun r => hshared ▸ Iff.rfl, hshared ▸ Iff.rfl⟩
      · exact fun _ _ _ r hr => absurd hr List.not_mem_nil
      · exact fun _ _ _ hm => by cases hm
      · exact fun _ _ hmapped => by cases hmapped
      · exact fun _ _ _ _ _ _ _ hread => by cases hread
      · rw [hthread, startOf, protocolOf]
        cases hcall : calls g with
        | none =>
          refine Thread.Obeys.pure fun hsome => ?_
          rw [hcall] at hsome
          cases hsome
        | some call => exact (obeys_call hcallable.stored call).mono (fun _ _ hdone _ => hdone) fun _ _ he => he
    · intro s point g op next hs hguard _ hthread hmay
      cases hcall : calls g with
      | none =>
        rw [hs.idle g hcall] at hthread
        cases hthread
      | some call =>
        have hprotocol : protocolOf u calls g = callProtocol u g call.adds := by
          rw [protocolOf, hcall]
          rfl
        rw [hprotocol] at hmay ⊢
        exact ⟨hs.expected hcallable hcall, hs.advance hthread hmay hcall hguard⟩
  intro hreturned g
  cases hcall : calls g with
  | none =>
    obtain ⟨hlists, hmember⟩ := hsynced.untouched g hcall
    exact ⟨hlists _, hmember, fun p _ => hlists _⟩
  | some call =>
    have hown := hobey g
    rw [hreturned g] at hown
    obtain ⟨hlisted, hmember, projectIds, hmapped, hall⟩ : (point g).Complete := hown (by rw [hcall]; rfl)
    refine ⟨hsynced.settled g call hcall _ hlisted, hsynced.member g call hcall hmember, fun p hp => ?_⟩
    exact hsynced.settled g call hcall _ (hall p (hsynced.mapped g projectIds hmapped p hp))

end Run

/-! ## Two additions at once -/

/-- A directory that is not read. -/
def silentDirectory : AccountsContext where
  administratorUsername := "clusteradmin"
  isTestMode := false
  isReadonly := true
  getLdapGroup _ := .ok none
  getGidForGroup _ := none
  isExistingUser _ := .ok false
  getUidAndGidForUser _ := none
  isValidEmail _ := false
  passwordPolicy := ⟨8, true, true, true, true⟩
  adminCreateUser _ := .ok ()
  publishUserDisabledEvent _ := .ok ()

/-- The user `alice` without groups, and the enabled groups `a` and `b`. -/
def aliceWithoutGroups : Db :=
  let group : GroupRow := ⟨none, none, none, none, none, true, none⟩
  { Db.empty with
    users := (∅ : Table String UserRow).putItem "alice"
      ⟨"alice@example.org", none, none, [], "/bin/bash", "/home/alice", false, true, "user", true⟩
    groups := ((∅ : Table String GroupRow).putItem "a" group).putItem "b" group }

/-- `alice` is added to both groups. -/
def addToBoth (g : String) : Option MembershipCall :=
  if g = "a" ∨ g = "b" then some (.add silentDirectory false) else none

/-- The calls before their first accesses. -/
def bothStarted : Calls := ⟨aliceWithoutGroups, startOf "alice" addToBoth⟩

theorem callable_addToBoth : Callable "alice" addToBoth aliceWithoutGroups where
  stored := by decide +kernel
  user := ⟨_, rfl, rfl, rfl⟩
  groups g call hcall := by
    unfold addToBoth at hcall
    split at hcall
    · next hg =>
        rcases hg with rfl | rfl
        · exact ⟨_, rfl, rfl⟩
        · exact ⟨_, rfl, rfl⟩
    · cases hcall

/-- The thread has not begun, or is done. -/
def Quiet (t : DbThread PUnit) : Prop :=
  (∃ r, t = .done r) ∨ ∃ g next, t = .access (.getGroup g) next

/-- A call that goes on while the others are quiet meets the condition. -/
theorem meets_of_quiet {u : String} {calls : String → Option MembershipCall} {db : Db} {g : String} (n : ℕ)
    {s : Calls} (hquiet : ∀ g', g' ≠ g → Quiet (s.thread g')) :
    (memberships u calls db).Meets (Unraced u) s (List.replicate n g) := by
  induction n generalizing s with
  | zero => exact System.meets_nil
  | succ n ih =>
    refine System.meets_cons.mpr ⟨?_, fun t hnext => ih fun g' hg' => ?_⟩
    · intro op next r _ _
      refine .inr fun g' op' next' hg' hthread => ?_
      rcases hquiet g' hg' with ⟨_, hdone⟩ | ⟨_, _, hfirst⟩
      · rw [hdone] at hthread
        cases hthread
      · rw [hfirst] at hthread
        cases hthread
        exact fun h => by cases h
    · obtain ⟨op, next, -, rfl⟩ := interleaved_next hnext
      have hsame : (s.advance TableAccess.serve g op next).thread g' = s.thread g' := update_of_ne hg' _ _
      rw [hsame]
      exact hquiet g' hg'

theorem quiet_idle {g : String} (ha : g ≠ "a") (hb : g ≠ "b") : bothStarted.thread g = .done (.ok ⟨⟩) := by
  show startOf "alice" addToBoth g = _
  rw [startOf, addToBoth, if_neg (not_or.mpr ⟨ha, hb⟩)]
  rfl

/-- The addition to `a` has returned. -/
def afterFirst : Calls :=
  ((memberships "alice" addToBoth aliceWithoutGroups).exec bothStarted (List.replicate 5 "a")).getD bothStarted

/-- Then the addition to `b` has. -/
def afterBoth : Calls :=
  ((memberships "alice" addToBoth aliceWithoutGroups).exec afterFirst (List.replicate 5 "b")).getD afterFirst

/-- One call after the other. -/
theorem nothingLost_inTurn : NothingLost "alice" addToBoth aliceWithoutGroups afterBoth := by
  have hfirst : (memberships "alice" addToBoth aliceWithoutGroups).exec bothStarted (List.replicate 5 "a") =
      some afterFirst := rfl
  have hsecond : (memberships "alice" addToBoth aliceWithoutGroups).exec afterFirst (List.replicate 5 "b") =
      some afterBoth := rfl
  have hstart : (memberships "alice" addToBoth aliceWithoutGroups).Reach (Unraced "alice") bothStarted :=
    .init ⟨rfl, rfl⟩
  refine nothingLost_of_unraced callable_addToBoth (System.Reach.of_exec
    (System.Reach.of_exec hstart (meets_of_quiet 5 fun g hg => ?_) hfirst) (meets_of_quiet 5 fun g hg => ?_) hsecond)
  · by_cases hb : g = "b"
    · subst hb
      exact .inr ⟨_, _, rfl⟩
    · exact .inl ⟨_, quiet_idle hg hb⟩
  · by_cases ha : g = "a"
    · subst ha
      exact .inl ⟨_, rfl⟩
    · exact .inl ⟨_, thread_of_exec (quiet_idle ha hg) hfirst⟩

/-- Both calls read the user before one of them writes. -/
def racing : List String := ["a", "a", "b", "b", "a", "b", "a", "a", "b", "b"]

theorem exec_racing : ∃ s, (memberships "alice" addToBoth aliceWithoutGroups).exec bothStarted racing = some s ∧
    s.thread "a" = .done (.ok ⟨⟩) ∧ s.thread "b" = .done (.ok ⟨⟩) ∧
    Record.additionalGroups.value "alice" s.shared = some ["b"] :=
  ⟨_, rfl, rfl, rfl, rfl⟩

/-- **A lost update.** Two additions that both return; one of the groups is not among the additional groups. -/
theorem lost_update : ∃ u calls db, Callable u calls db ∧
    ∃ s, (memberships u calls db).Reachable s ∧ ¬ NothingLost u calls db s := by
  obtain ⟨s, hexec, ha, hb, hgroups⟩ := exec_racing
  refine ⟨"alice", addToBoth, aliceWithoutGroups, callable_addToBoth, s,
    System.Reachable.of_exec (.init ⟨rfl, rfl⟩) hexec, fun h => ?_⟩
  have hreturned : ∀ g, s.thread g = .done (.ok ⟨⟩) := by
    intro g
    by_cases hga : g = "a"
    · rw [hga, ha]
    · by_cases hgb : g = "b"
      · rw [hgb, hb]
      · exact thread_of_exec (quiet_idle hga hgb) hexec
  have hlisted : "a" ∈ (Record.additionalGroups.value "alice" s.shared).getD [] := (h hreturned "a").1.mpr rfl
  rw [hgroups] at hlisted
  exact absurd hlisted (by decide)

end ContainRes.Accounts
