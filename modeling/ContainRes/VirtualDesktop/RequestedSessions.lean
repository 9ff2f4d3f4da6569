import ContainRes.VirtualDesktop.WriteIsolation

/-! # Calls for a list of sessions

Stopping, resuming, rebooting and deleting act on what the rows of the user's own sessions name. A row may
name what belongs to another user; whether the call acts on it then depends on the state of the session.

* **`mem_of_readRequested`** — the sessions that such a call reads.
* **`Spares`** — a part of a call, and the condition under which it acts on nothing of another user's.
* **`decided_stopSessions`**, **`decided_resumeSessions`**, **`decided_rebootSessions`**,
  **`decided_deleteSessions`** — the operations. -/

namespace ContainRes.VirtualDesktop.WriteIsolation

open Effects Store Text
open Schedules SessionPermissions
open Sessions UserApi

variable (hours : WorkingHours) (paginator : Paginator ((String × String) × SessionPermissionRow))
  (services : Services)
variable {username : String} {w : UserApi.World}

/-! ## The sessions that are read -/

variable {sessions : List VirtualDesktopSession} {ids : List String}

/-- The ids of the instances are those of the sessions. -/
theorem mem_of_instanceIds
    (h : instanceIds (sessions.map fun s => s.server) = .ok ids) {id : String} :
    id ∈ ids ↔ ∃ s ∈ sessions, OnInstance s id := by
  unfold instanceIds at h
  cases hmap : (sessions.map fun s => s.server).mapM instanceIdOf with
  | error e =>
    rw [hmap] at h
    exact absurd h (by simp [Bind.bind, Except.bind])
  | ok named =>
    rw [hmap] at h
    have hids : named.mapM idParam = .ok ids := h
    have hparam : ∀ o : Option String, idParam o = .ok id ↔ o = some id := by
      intro o
      cases o <;> simp [idParam]
    have hserver : ∀ o : Option VirtualDesktopServer, instanceIdOf o = .ok (some id) ↔
        ∃ server, o = some server ∧ server.instanceId = some id := by
      intro o
      cases o <;> simp [instanceIdOf]
    rw [mem_of_mapM hids]
    constructor
    · rintro ⟨o, ho, hid⟩
      rw [hparam] at hid
      subst hid
      obtain ⟨server, hmem, heq⟩ := (mem_of_mapM hmap).mp ho
      obtain ⟨s, hs, rfl⟩ := List.mem_map.mp hmem
      exact ⟨s, hs, (hserver _).mp heq⟩
    · rintro ⟨s, hs, hon⟩
      exact ⟨some id, (mem_of_mapM hmap).mpr ⟨s.server, List.mem_map_of_mem hs, (hserver _).mpr hon⟩,
        (hparam _).mpr rfl⟩

/-- What holds of the ids of the instances holds of those of the sessions. -/
theorem forall_instanceIds (h : instanceIds (sessions.map fun s => s.server) = .ok ids) (p : String → Prop) :
    (∀ id ∈ ids, p id) ↔ ∀ s ∈ sessions, ∀ id, OnInstance s id → p id := by
  constructor
  · exact fun hp s hs id hid => hp id ((mem_of_instanceIds h).mpr ⟨s, hs, hid⟩)
  · intro hp id hid
    obtain ⟨s, hs, hon⟩ := (mem_of_instanceIds h).mp hid
    exact hp s hs id hon

/-- The instances of sessions are not another user's, and neither are the rows of their servers. -/
theorem instancesOwn_iff (h : instanceIds (sessions.map fun s => s.server) = .ok ids) :
    ((∀ id ∈ ids, ¬ Foreign username w (.ec2Instance id)) ∧ ∀ id ∈ ids, ¬ Foreign username w (.server id)) ↔
      ∀ s ∈ sessions, InstanceOwn username w s ∧ ServerOwn username w s := by
  rw [forall_instanceIds h, forall_instanceIds h]
  exact ⟨fun hown s hs => ⟨hown.1 s hs, hown.2 s hs⟩,
    fun hown => ⟨fun s hs => (hown s hs).1, fun s hs => (hown s hs).2⟩⟩

/-- Each session that is read is the one under its owner and its id. -/
theorem forall₂_of_readSessions {ids : List (Option String × Option String)}
    (h : ((Lifecycle.readSessions hours ids).run w.sessions).1 = .ok sessions) :
    List.Forall₂ (fun id session => sessionOf hours w id.1 id.2 = .ok (some session)) ids sessions := by
  induction ids generalizing sessions with
  | nil =>
    rw [← Except.ok.inj h]
    exact .nil
  | cons id rest ih =>
    unfold Lifecycle.readSessions at h
    have hstate := Sessions.reads_getFromDb hours id.1 id.2 w.sessions
    rw [Proc.run_bind] at h
    rcases hread : (Sessions.getFromDb hours id.1 id.2).run w.sessions with ⟨e | found, t⟩
    · rw [hread] at h
      exact absurd h (by simp)
    · rw [hread] at h hstate
      obtain rfl : t = w.sessions := hstate
      cases found with
      | none => exact absurd h (by simp [Lifecycle.noAttribute, Proc.run_bind])
      | some session =>
        simp only [Proc.run_bind] at h
        rcases hrest : (Lifecycle.readSessions hours rest).run w.sessions with ⟨e | sessions', t'⟩
        · rw [hrest] at h
          exact absurd h (by simp)
        · rw [hrest] at h
          rw [← Except.ok.inj h]
          exact .cons (congrArg Prod.fst hread) (ih (congrArg Prod.fst hrest))

/-- The pairs of two lists, the first of which depends on a third. -/
theorem mem_zip_of_forall₂ {α β γ : Type} {R : α → β → Prop} {xs : List α} {ys : List β}
    (h : List.Forall₂ R xs ys) (hR : ∀ x y y', R x y → R x y' → y = y') (g : α → γ) (p : β × γ) :
    p ∈ ys.zip (xs.map g) ↔ ∃ x ∈ xs, R x p.1 ∧ p.2 = g x := by
  induction h with
  | nil => simp
  | cons hxy _ ih =>
    rename_i x y xs ys _
    rw [List.map_cons, List.zip_cons_cons, List.mem_cons, ih, List.exists_mem_cons_iff]
    refine or_congr ⟨?_, ?_⟩ Iff.rfl
    · rintro rfl
      exact ⟨hxy, rfl⟩
    · rintro ⟨hx, hg⟩
      exact Prod.ext (hR x _ _ hx hxy) hg

variable {requests : List SessionRequest}

/-- The requests for which the owner is the user name the user. -/
theorem mem_ownRequests {r : SessionRequest} : r ∈ ownRequests username requests ↔ ∃ request ∈ requests,
      ReadIsolation.validateOwner username request.owner = true ∧
        r = { request with owner := some username } := by
  have howner : ∀ request : SessionRequest, ReadIsolation.validateOwner username request.owner = true →
      completed username request = { request with owner := some username } := by
    intro request hvalid
    simp only [ReadIsolation.validateOwner, Bool.or_eq_true, beq_iff_eq] at hvalid
    unfold completed
    split
    · rfl
    · rename_i hblank
      rw [hvalid.resolve_left hblank]
  unfold ownRequests
  rw [List.mem_map]
  constructor
  · rintro ⟨request, hmem, rfl⟩
    obtain ⟨hmem, hvalid⟩ := List.mem_filter.mp hmem
    exact ⟨request, hmem, hvalid, howner request hvalid⟩
  · rintro ⟨request, hmem, hvalid, rfl⟩
    exact ⟨request, List.mem_filter.mpr ⟨hmem, hvalid⟩, howner request hvalid⟩

variable {α : Type}

/-- A call for a list of sessions goes on with the sessions of the user that were requested. -/
theorem decided_readRequested {P : Target → Prop}
    {f : List (VirtualDesktopSession × Bool) → Traced Target UserApi.World Exc α} {C : Prop}
    (hf : ∀ sessions, (∀ s, s ∈ sessions ↔ Requested hours username w requests s) → Decided P (f sessions) w C) :
    Decided P (readRequested hours (ownRequests username requests) >>= f) w C := by
  refine Decided.after_lift (Reads.bind (reads_onSessions (Lifecycle.reads_readSessions hours _))
    fun _ => Reads.pure _) fun sessions hsessions => hf sessions fun s => ?_
  rw [Proc.run_bind] at hsessions
  rcases hread : (onSessions (Lifecycle.readSessions hours
      ((ownRequests username requests).map fun r => (r.owner, r.ideaSessionId)))).run w with ⟨e | found, t⟩
  · rw [hread] at hsessions
    exact absurd hsessions (by simp)
  · rw [hread] at hsessions
    have hforall := forall₂_of_readSessions hours (w := w) (congrArg Prod.fst hread)
    rw [List.forall₂_map_left_iff] at hforall
    rw [← Except.ok.inj hsessions, mem_zip_of_forall₂ hforall]
    · constructor
      · rintro ⟨r, hr, hsession, hforce⟩
        obtain ⟨request, hmem, hvalid, rfl⟩ := mem_ownRequests.mp hr
        exact ⟨request, hmem, hvalid, hsession, hforce⟩
      · rintro ⟨request, hmem, hvalid, hsession, hforce⟩
        exact ⟨_, mem_ownRequests.mpr ⟨request, hmem, hvalid, rfl⟩, hsession, hforce⟩
    · intro r s s' hs hs'
      exact Option.some.inj (Except.ok.inj (hs.symm.trans hs'))

theorem not_requested_of_nil (h : ownRequests username requests = [])
    (s : VirtualDesktopSession × Bool) : ¬ Requested hours username w requests s := by
  rintro ⟨request, hmem, hvalid, -⟩
  have hown := mem_ownRequests.mpr ⟨request, hmem, hvalid, rfl⟩
  rw [h] at hown
  exact absurd hown List.not_mem_nil

/-- A request without an id names no session. -/
theorem requested_filter (s : VirtualDesktopSession × Bool) :
    Requested hours username w (requests.filter fun r => !isEmptyOpt r.ideaSessionId) s ↔
      Requested hours username w requests s := by
  constructor
  · rintro ⟨request, hmem, h⟩
    exact ⟨request, List.mem_of_mem_filter hmem, h⟩
  · rintro ⟨request, hmem, hvalid, hsession, hforce⟩
    refine ⟨request, List.mem_filter.mpr ⟨hmem, ?_⟩, hvalid, hsession, hforce⟩
    rw [(exists_row_of_sessionOf hours hsession).2.1]
    rfl

/-! ## The parts of a call -/

/-- No permission is new. -/
def PermissionsWithin (w v : UserApi.World) : Prop :=
  ∀ key row, v.permissions.getItem key = some row → w.permissions.getItem key = some row

/-- The condition under which a procedure that makes no permission acts on nothing of another user's of `w`. -/
abbrev Spares (username : String) (w : UserApi.World) {α : Type} (c : Traced Target UserApi.World Exc α)
    (C : Prop) (Q : α → Prop) : Prop :=
  Confined (PermissionsWithin w) (fun target => ¬ Foreign username w target) c C Q

theorem spares_onSessions {session : VirtualDesktopSession} (h : session.owner = some username)
    (c : Proc SessionTable Exc α) :
    Spares username w (Traced.observe (fun _ _ => sessionTarget session) (onSessions c)) True fun _ => True :=
  Confined.of_actsOn fun _ hv => ⟨not_foreign_sessionTarget h, hv⟩

theorem spares_onServers (instanceId : String) (c : Proc ServerTable Exc α) :
    Spares username w (Traced.observe (fun _ _ => [.server instanceId]) (onServers c))
      (¬ Foreign username w (.server instanceId)) fun _ => True :=
  (Confined.observe fun _ hv => hv).congr List.forall_mem_singleton

theorem spares_liftExcept (r : Except Exc α) :
    Spares username w (Traced.lift (Proc.liftExcept r)) True fun a => r = .ok a :=
  Confined.lift (Reads.liftExcept r) fun s _ a ha => by rwa [Proc.run_liftExcept] at ha

theorem spares_issue (command : Command) : Spares username w (issue services command)
      (∀ id ∈ command.instanceIds, ¬ Foreign username w (.ec2Instance id)) fun _ => True := by
  refine (Confined.before (R := fun _ => True) Confined.emit fun _ _ => ?_).congr List.forall_mem_map
  exact (Confined.when fun _ => Confined.raise _).congr (iff_of_true (fun _ => trivial) trivial)

theorem spares_updateAll (state : VirtualDesktopSessionState) (h : ∀ s ∈ sessions, OwnSession username s) :
    Spares username w (updateAll hours state sessions) True fun _ => True :=
  Confined.forEach_true fun s hs => Confined.after (spares_onSessions (h s hs).owner _) fun _ _ =>
    Confined.pure trivial

/-- The sessions whose DCV session is gone are put in a state. -/
theorem spares_updateDeleted (state : VirtualDesktopSessionState)
    (h : ∀ s ∈ sessions, OwnSession username s) (ids : List String) :
    Spares username w (updateDeleted hours state sessions ids) True fun _ => True := by
  refine Confined.forEach_true fun id _ => ?_
  cases hfind : sessions.reverse.find? fun s => s.dcvSessionId == some id with
  | none => exact Confined.raise _
  | some session =>
    have hmem : session ∈ sessions := List.mem_reverse.mp (List.mem_of_find?_eq_some hfind)
    exact Confined.after (spares_onSessions (h session hmem).owner _) fun _ _ => Confined.pure trivial

/-- The sessions with force, and those to which nobody is connected. -/
theorem mem_interruptible (sessions : List (VirtualDesktopSession × Bool)) (s : VirtualDesktopSession × Bool) :
    s ∈ (sessions.filter fun s => s.2) ++ (sessions.filter fun s =>
        !s.2 && services.connectionCount (s.1.dcvSessionId.getD "") == 0) ↔
      s ∈ sessions ∧ Interruptible services s := by
  rw [List.mem_append, List.mem_filter, List.mem_filter, ← and_or_left]
  refine and_congr_right fun _ => ?_
  unfold Interruptible
  cases s.2 <;> simp

/-- The broker is asked to delete DCV sessions. -/
theorem spares_deleteDcvSessions (sessions : List (VirtualDesktopSession × Bool)) :
    Spares username w (deleteDcvSessions services sessions)
      (∀ s ∈ sessions, DcvSessionOwn services username w s) fun _ => True := by
  have hcondition : (∀ s ∈ sessions, DcvSessionOwn services username w s) ↔
      ∀ s ∈ (sessions.filter fun s => s.2) ++ (sessions.filter fun s =>
        !s.2 && services.connectionCount (s.1.dcvSessionId.getD "") == 0),
          ¬ Foreign username w (.dcvSession (s.1.dcvSessionId.getD "")) := by
    constructor
    · intro h s hs
      obtain ⟨hs, hinterruptible⟩ := (mem_interruptible services sessions s).mp hs
      exact h s hs hinterruptible
    · exact fun h s hs hinterruptible =>
        h s ((mem_interruptible services sessions s).mpr ⟨hs, hinterruptible⟩)
  refine Confined.congr ?_ hcondition.symm
  refine Confined.ite (fun hnil => (Confined.pure trivial).congr (iff_of_true trivial ?_)) fun _ => ?_
  · rw [List.map_eq_nil_iff.mp hnil]
    exact fun _ hs => absurd hs List.not_mem_nil
  · refine (Confined.before (R := fun _ => True) Confined.emit fun _ _ => ?_).congr ?_
    · exact (spares_liftExcept _).mono fun _ _ => trivial
    · rw [List.forall_mem_map, List.forall_mem_map]

/-- Servers are stopped, and their rows say so. -/
theorem spares_stopServers (hibernate : Bool) (h : ∀ s ∈ sessions, OwnSession username s) :
    Spares username w (stopServers services hibernate (sessions.map fun s => s.server))
      (∀ s ∈ sessions, InstanceOwn username w s ∧ ServerOwn username w s) fun _ => True := by
  refine Confined.ite (fun hnil => (Confined.pure trivial).congr (iff_of_true trivial ?_)) fun _ => ?_
  · rw [List.map_eq_nil_iff.mp hnil]
    exact fun _ hs => absurd hs List.not_mem_nil
  refine Confined.after (spares_liftExcept _) fun ids hids => ?_
  refine (Confined.bind (spares_issue services _) fun _ _ => Confined.forEach fun id hid => ?_).congr
    (instancesOwn_iff hids)
  · obtain ⟨s, hs, hon⟩ := (mem_of_instanceIds hids).mp hid
    refine Confined.after (R := fun server => ∀ s, server = some s → s.instanceId = some id)
      (Confined.lift (reads_onServers (reads_getServer _)) fun v _ server hserver => ?_) fun server hserver => ?_
    · have hget : ((getServer (some id)).run v.servers).1 = .ok server := hserver
      unfold getServer at hget
      split at hget
      · exact absurd hget (by simp)
      · rintro found rfl
        obtain ⟨row, -, rfl⟩ := Option.map_eq_some_iff.mp (Except.ok.inj hget)
        exact (h s hs).instanceId id hon
    · cases server with
      | none => exact Confined.raise _
      | some server =>
        have htarget : serverTarget server.instanceId = [.server id] := by
          rw [hserver server rfl]
          rfl
        unfold serverDbUpdate
        dsimp only
        rw [htarget]
        exact spares_onServers id _

/-- Instances are terminated, and the rows of their servers deleted. -/
theorem spares_terminateDcvHosts (sessions : List VirtualDesktopSession) :
    Spares username w (terminateDcvHosts services (sessions.map fun s => s.server))
      (∀ s ∈ sessions, InstanceOwn username w s ∧ ServerOwn username w s) fun _ => True := by
  refine Confined.ite (fun hnil => (Confined.pure trivial).congr (iff_of_true trivial ?_)) fun _ => ?_
  · rw [List.map_eq_nil_iff.mp hnil]
    exact fun _ hs => absurd hs List.not_mem_nil
  refine Confined.after (spares_liftExcept _) fun ids hids => ?_
  exact (Confined.bind (spares_issue services _) fun _ _ =>
    Confined.forEach fun id _ => spares_onServers id _).congr (instancesOwn_iff hids)

/-- The rows of the schedules of a session are deleted. -/
theorem spares_deleteSchedules (session : VirtualDesktopSession) :
    Spares username w (deleteSchedulesForSession session) (SchedulesOwn username w session) fun _ => True := by
  refine Confined.before (R := fun _ => True) (fun v hv => ?_) fun _ _ => Confined.pure trivial
  refine ⟨⟨fun hown target htarget => ?_, fun week hweek hacts d key hkey => ?_⟩, hv, fun _ _ => trivial⟩
  · obtain ⟨key, rfl⟩ := exists_of_mem_changedSchedules htarget
    obtain ⟨-, hne⟩ := mem_changedSchedules.mp htarget
    by_contra hforeign
    have hnot : ∀ d, rowKey (session.schedule d) ≠ some key := fun d hkey => hown d key hkey hforeign
    refine hne ?_
    have hstate := getItem_deleteSchedules_of_not_named session.schedule hnot
      ⟨v.schedules, v.drawn, session.schedule⟩
    rw [Proc.run_zoom]
    dsimp only
    rw [Proc.state_bind_of_reads fun _ => Reads.gets _]
    exact hstate
  · -- a deletion that returns has found the row
    unfold onSchedules at hweek
    rw [Traced.run_observe, Proc.run_zoom, Proc.run_bind] at hweek
    rcases hrun : (Proc.forEach (fun d => deleteSchedule (session.schedule d)) DayOfWeek.all).run
      ⟨v.schedules, v.drawn, session.schedule⟩ with ⟨e | u, t⟩
    · rw [hrun] at hweek
      exact absurd hweek (by simp)
    · obtain ⟨hhas, hnone⟩ := getItem_deleteSchedules_of_named session.schedule (DayOfWeek.mem_all d) hkey
        (congrArg Prod.fst hrun)
      refine hacts _ (mem_changedSchedules.mpr ⟨hhas, ?_⟩)
      rw [Proc.run_zoom]
      dsimp only
      rw [Proc.state_bind_of_reads fun _ => Reads.gets _, hnone]
      obtain ⟨row, hrow⟩ := Table.has_iff.mp hhas
      rw [hrow]
      simp

/-- The permissions of a session are deleted. -/
theorem spares_deletePermissions {session : VirtualDesktopSession} (h : PermissionsOwn username w session) :
    Spares username w (deletePermissionsForSession paginator session) True fun _ => True := by
  have hread : Spares username w
      (Traced.lift (onPermissions (getForSession paginator .done (session.ideaSessionId.getD "")))) True
      fun permissions => ∀ p ∈ permissions, ∀ key, (Change.delete p).key = some key →
        ¬ Foreign username w (.permission key) := by
    refine Confined.lift (reads_onPermissions (reads_getForSession paginator _ _)) ?_
    intro v hv permissions hget p hp key hkey
    have hget' : ((getForSession paginator .done (session.ideaSessionId.getD "")).run v.permissions).1 =
        .ok permissions := hget
    obtain ⟨hid, entry, hentry, hentryId, hconv⟩ := exists_row_of_mem_getForSession paginator hget' hp
    have hsession : session.ideaSessionId = some entry.1.1 := by
      cases hnone : session.ideaSessionId with
      | none =>
        rw [hnone] at hid
        exact absurd hid (by decide)
      | some id =>
        rw [hentryId, hnone]
        rfl
    obtain ⟨q, hq, hqid, hqactor, -⟩ := exists_convert (readable_of_convert hconv) entry.1
    rw [hconv] at hq
    obtain rfl := Except.ok.inj hq
    simp only [Change.key, hqid, hqactor] at hkey
    split at hkey
    · exact absurd hkey (by simp)
    · rw [← Option.some.inj hkey]
      exact h entry.1 (Table.Has.of_getItem (hv _ _ hentry)) hsession
  refine Confined.after hread fun permissions hpermissions => Confined.forEach_true fun p hp =>
    Confined.of_actsOn fun v hv => ⟨fun target htarget => ?_, fun key row hrow => ?_⟩
  · obtain ⟨key, hkey, rfl⟩ := List.mem_map.mp htarget
    exact hpermissions p hp key (Option.mem_toList.mp hkey)
  · refine hv key row (getItem_of_run_delete (p := p) ?_)
    rw [← hrow]
    refine congrArg (Table.getItem · key) ?_
    unfold applyChange
    rw [Traced.run_observe, Proc.state_bind_of_reads fun _ => Reads.pure _]
    exact (Proc.state_bind_of_reads (fun _ => Reads.pure _) v.permissions).symm

/-! ## The operations -/

variable {sessions : List (VirtualDesktopSession × Bool)}

theorem own_of_filter (h : ∀ s ∈ sessions, OwnSession username s.1) (p : VirtualDesktopSession × Bool → Bool) :
    ∀ s ∈ sessions.filter p, OwnSession username s.1 :=
  fun s hs => h s (List.mem_of_mem_filter hs)

theorem own_of_fst
    (h : ∀ s ∈ sessions, OwnSession username s.1) : ∀ s ∈ sessions.map Prod.fst, OwnSession username s := by
  intro s hs
  obtain ⟨pair, hpair, rfl⟩ := List.mem_map.mp hs
  exact h pair hpair

theorem own_of_requested (hplain : Plain username) (h : ∀ s, s ∈ sessions ↔ Requested hours username w requests s) :
    ∀ s ∈ sessions, OwnSession username s.1 := by
  intro s hs
  obtain ⟨request, -, -, hsession, -⟩ := (h s).mp hs
  exact ownSession_of_sessionOf hours hplain hsession

theorem permissionsWithin_refl : PermissionsWithin w w := fun _ _ h => h

variable (hplain : Plain username)

include hplain

variable (requests : List SessionRequest)

theorem decided_stopSessions : Decided (fun target => ¬ Foreign username w target)
      (stopSessions hours services username (some requests)) w
      (Harmless hours services username w (.stopSessions (some requests))) := by
  change Decided _ (Traced.when (ownRequests username requests ≠ [])
    (stopSessionsImpl hours services (ownRequests username requests))) w _
  refine Decided.when (fun _ => ?_) fun hnil s hs =>
    absurd hs (not_requested_of_nil hours (not_not.mp hnil) s)
  refine decided_readRequested hours fun sessions hsessions => ?_
  have hown := own_of_requested hours hplain hsessions
  have hready := own_of_filter hown fun s => s.1.state = .ready
  have htoDelete := own_of_fst (own_of_filter hready fun s => !isEmptyOpt s.1.dcvSessionId)
  have hinvalid := own_of_fst (own_of_filter hready fun s => isEmptyOpt s.1.dcvSessionId)
  refine Confined.decided (Confined.bind (spares_deleteDcvSessions services _) fun ids _ =>
    Confined.after (spares_updateDeleted hours _ htoDelete ids) fun _ _ =>
      Confined.after (spares_updateAll hours _ hinvalid) fun _ _ =>
        Confined.bind (spares_stopServers services false fun s hs => hinvalid s (List.mem_of_mem_filter hs))
          fun _ _ => spares_stopServers services true fun s hs => hinvalid s (List.mem_of_mem_filter hs))
    permissionsWithin_refl ?_
  have hmem : ∀ s, Requested hours username w requests s → s.1.state = .ready →
      s ∈ sessions.filter fun s => s.1.state = .ready :=
    fun s hs hstate => List.mem_filter.mpr ⟨(hsessions s).mpr hs, by simpa using hstate⟩
  have hrequested : ∀ s ∈ sessions.filter fun s => s.1.state = .ready,
      Requested hours username w requests s ∧ s.1.state = .ready :=
    fun s hs => ⟨(hsessions s).mp (List.mem_of_mem_filter hs), by simpa using List.of_mem_filter hs⟩
  constructor
  · rintro ⟨hdcv, hstop, hhibernate⟩ s hs hstate
    split
    · rename_i hblank
      have hinvalid' : s.1 ∈ ((sessions.filter fun s => s.1.state = .ready).filter
          fun s => isEmptyOpt s.1.dcvSessionId).map Prod.fst :=
        List.mem_map_of_mem (List.mem_filter.mpr ⟨hmem s hs hstate, hblank⟩)
      cases hhib : s.1.hibernationEnabled with
      | false => exact hstop s.1 (List.mem_filter.mpr ⟨hinvalid', by simp [hhib]⟩)
      | true => exact hhibernate s.1 (List.mem_filter.mpr ⟨hinvalid', hhib⟩)
    · rename_i hnamed
      exact hdcv s (List.mem_filter.mpr ⟨hmem s hs hstate, by simpa using hnamed⟩)
  · intro h
    have hservers : ∀ s ∈ ((sessions.filter fun s => s.1.state = .ready).filter
        fun s => isEmptyOpt s.1.dcvSessionId).map Prod.fst,
          InstanceOwn username w s ∧ ServerOwn username w s := by
      intro s hs
      obtain ⟨pair, hpair, rfl⟩ := List.mem_map.mp hs
      obtain ⟨hready', hblank⟩ := List.mem_filter.mp hpair
      obtain ⟨hreq, hstate⟩ := hrequested pair hready'
      have hharmless := h pair hreq hstate
      rwa [if_pos hblank] at hharmless
    refine ⟨fun s hs => ?_, fun s hs => hservers s (List.mem_of_mem_filter hs),
      fun s hs => hservers s (List.mem_of_mem_filter hs)⟩
    obtain ⟨hready', hnamed⟩ := List.mem_filter.mp hs
    obtain ⟨hreq, hstate⟩ := hrequested s hready'
    have hharmless := h s hreq hstate
    rwa [if_neg (by simpa using hnamed)] at hharmless

theorem decided_resumeSessions : Decided (fun target => ¬ Foreign username w target)
      (resumeSessions hours services username (some requests)) w
      (Harmless hours services username w (.resumeSessions (some requests))) := by
  change Decided _ (Traced.when (ownRequests username (requests.filter fun r => !isEmptyOpt r.ideaSessionId) ≠ [])
    (resumeSessionsImpl hours services
      (ownRequests username (requests.filter fun r => !isEmptyOpt r.ideaSessionId)))) w _
  refine Decided.when (fun _ => ?_) fun hnil s hs => absurd ((requested_filter hours s).mpr hs)
    (not_requested_of_nil hours (not_not.mp hnil) s)
  refine decided_readRequested hours fun sessions hsessions => ?_
  have hown := own_of_fst (own_of_requested hours hplain hsessions)
  refine Confined.decided (Confined.after (spares_liftExcept _) fun ids hids =>
    Confined.before (R := fun _ => True) (Confined.emit.congr (List.forall_mem_map.trans
      (forall_instanceIds hids _))) fun _ _ => (Confined.when fun _ => spares_updateAll hours _ fun s hs =>
          hown s (List.mem_of_mem_filter hs)).congr (iff_of_true (fun _ => trivial) trivial))
    permissionsWithin_refl ?_
  constructor
  · intro h s hs hstate
    refine h s.1 (List.mem_filter.mpr ⟨List.mem_map_of_mem ((hsessions s).mpr ?_), by simpa using hstate⟩)
    exact (requested_filter hours s).mpr hs
  · intro h s hs
    obtain ⟨hmem, hstate⟩ := List.mem_filter.mp hs
    obtain ⟨pair, hpair, rfl⟩ := List.mem_map.mp hmem
    exact h pair ((requested_filter hours pair).mp ((hsessions pair).mp hpair)) (by simpa using hstate)

theorem decided_rebootSessions : Decided (fun target => ¬ Foreign username w target)
      (rebootSessions hours services username (some requests)) w
      (Harmless hours services username w (.rebootSessions (some requests))) := by
  change Decided _ (Traced.when (ownRequests username requests ≠ [])
    (rebootSessionsImpl hours services (ownRequests username requests))) w _
  refine Decided.when (fun _ => ?_) fun hnil s hs =>
    absurd hs (not_requested_of_nil hours (not_not.mp hnil) s)
  refine decided_readRequested hours fun sessions hsessions => ?_
  have hmem : ∀ s, s ∈ ((sessions.filter fun s => s.1.state = .ready || s.1.state = .error).filter
        fun s => s.2) ++ ((sessions.filter fun s => s.1.state = .ready || s.1.state = .error).filter
          fun s => !s.2 && services.connectionCount (s.1.dcvSessionId.getD "") == 0) ↔
      Requested hours username w requests s ∧ (s.1.state = .ready ∨ s.1.state = .error) ∧
        Interruptible services s := by
    intro s
    rw [mem_interruptible, List.mem_filter, hsessions, and_assoc]
    simp
  have hown : ∀ s ∈ (((sessions.filter fun s => s.1.state = .ready || s.1.state = .error).filter
        fun s => s.2) ++ ((sessions.filter fun s => s.1.state = .ready || s.1.state = .error).filter
          fun s => !s.2 && services.connectionCount (s.1.dcvSessionId.getD "") == 0)).map Prod.fst,
      OwnSession username s := by
    refine own_of_fst fun s hs => own_of_requested hours hplain hsessions s ?_
    exact (hsessions s).mpr ((hmem s).mp hs).1
  refine Confined.decided (Confined.after (spares_updateAll hours _ hown) fun _ _ =>
    Confined.when fun _ => Confined.after (spares_liftExcept _) fun ids hids =>
      (spares_issue services _).congr (forall_instanceIds hids _)) permissionsWithin_refl ?_
  constructor
  · intro h s hs hstate hinterruptible
    have hreboot := List.mem_map_of_mem (f := Prod.fst) ((hmem s).mpr ⟨hs, hstate, hinterruptible⟩)
    exact h (List.ne_nil_of_mem hreboot) s.1 hreboot
  · intro h _ s hs
    obtain ⟨pair, hpair, rfl⟩ := List.mem_map.mp hs
    obtain ⟨hreq, hstate, hinterruptible⟩ := (hmem pair).mp hpair
    exact h pair hreq hstate hinterruptible

/-- The deletion of sessions, where the permissions under their ids are the user's. -/
theorem decided_deleteSessions {requests : List SessionRequest}
    (hclean : PermissionsClean hours username w (.deleteSessions (some requests))) :
    Decided (fun target => ¬ Foreign username w target)
      (deleteSessions hours paginator services username (some requests)) w
      (Harmless hours services username w (.deleteSessions (some requests))) := by
  change Decided _ (terminateSessions hours paginator services
    (ownRequests username (requests.filter fun r => !isEmptyOpt r.ideaSessionId))) w _
  refine decided_readRequested hours fun sessions hsessions => ?_
  have hown := own_of_requested hours hplain hsessions
  have htoDelete := own_of_fst (own_of_filter hown fun s => !(isEmptyOpt s.1.dcvSessionId || s.1.state = .stopped))
  have hrequested : ∀ s, s ∈ sessions ↔ Requested hours username w requests s :=
    fun s => (hsessions s).trans (requested_filter hours s)
  have hmem : ∀ s, s ∈ (sessions.filter fun s => isEmptyOpt s.1.dcvSessionId || s.1.state = .stopped) ↔
      Requested hours username w requests s ∧ Released s := by
    intro s
    rw [List.mem_filter, hrequested]
    unfold Released
    simp
  have hmem' : ∀ s, s ∈ (sessions.filter fun s => !(isEmptyOpt s.1.dcvSessionId || s.1.state = .stopped)) ↔
      Requested hours username w requests s ∧ ¬ Released s := by
    intro s
    rw [List.mem_filter, hrequested]
    unfold Released
    simp
  refine Confined.decided (Confined.bind (spares_deleteDcvSessions services _) fun ids _ =>
    Confined.after (spares_updateDeleted hours _ htoDelete ids) fun _ _ =>
      Confined.bind (spares_terminateDcvHosts services _) fun _ _ => Confined.forEach fun s hs =>
        Confined.before (spares_deleteSchedules s) fun _ _ => ?_) permissionsWithin_refl ?_
  · obtain ⟨pair, hpair, rfl⟩ := List.mem_map.mp hs
    obtain ⟨hreq, hreleased⟩ := (hmem pair).mp hpair
    refine Confined.after (spares_deletePermissions paginator (hclean pair hreq hreleased)) fun _ _ => ?_
    exact spares_onSessions (hown pair ((hrequested pair).mpr hreq)).owner _
  · constructor
    · rintro ⟨hdcv, hservers, hschedules⟩ s hs
      refine ⟨fun hreleased => ?_, fun hnot => hdcv s ((hmem' s).mpr ⟨hs, hnot⟩)⟩
      have hstopped := List.mem_map_of_mem (f := Prod.fst) ((hmem s).mpr ⟨hs, hreleased⟩)
      exact ⟨(hservers s.1 hstopped).1, (hservers s.1 hstopped).2, hschedules s.1 hstopped, hclean s hs hreleased⟩
    · intro h
      have hstopped : ∀ s ∈ (sessions.filter fun s => isEmptyOpt s.1.dcvSessionId || s.1.state = .stopped).map Prod.fst,
            InstanceOwn username w s ∧ ServerOwn username w s ∧ SchedulesOwn username w s := by
        intro s hs
        obtain ⟨pair, hpair, rfl⟩ := List.mem_map.mp hs
        obtain ⟨hreq, hreleased⟩ := (hmem pair).mp hpair
        obtain ⟨hinstance, hserver, hschedules, -⟩ := (h pair hreq).1 hreleased
        exact ⟨hinstance, hserver, hschedules⟩
      refine ⟨fun s hs => ?_, fun s hs => ⟨(hstopped s hs).1, (hstopped s hs).2.1⟩, fun s hs => (hstopped s hs).2.2⟩
      obtain ⟨hreq, hnot⟩ := (hmem' s).mp hs
      exact (h s hreq).2 hnot

end ContainRes.VirtualDesktop.WriteIsolation
