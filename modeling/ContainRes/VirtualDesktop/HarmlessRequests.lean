import ContainRes.VirtualDesktop.RequestedSessions

/-! # The requests that leave the sessions of others alone

The remaining operations of `VirtualDesktopUserAPI`, and the condition on all of them. A connection is asked for
with a session of any owner, an update changes the type of the instance that the request names, a new session
takes over the schedules of its request, and a permission is written under the id that it names.

* **`isolated_getSessionConnectionInfo`**, **`isolated_createSession`**, **`isolated_updateSessionPermission`** —
  what these act on, in every call.
* **`decided_updateSession`** — the update of a session.
* **`isolated_of_harmless`** — a harmless request is isolated; and no other is, when the call returns.
* **`other_session_in_error`** — a user puts the session of another into the error state by asking for a
  connection to it. -/

namespace ContainRes.VirtualDesktop.WriteIsolation

open Effects Store Text
open Schedules SessionPermissions
open Sessions UserApi

variable (hours : WorkingHours) (uuids : Uuids)
  (paginator : Paginator ((String × String) × SessionPermissionRow)) (services : Services)
variable {username : String} {w : UserApi.World}

/-! ## Connections -/

variable {session : VirtualDesktopSession}

/-- A session that is found has an owner and an id. -/
theorem isSome_of_sessionOf {owner id : Option String}
    (h : sessionOf hours w owner id = .ok (some session)) : session.owner.isSome ∧ session.ideaSessionId.isSome := by
  obtain ⟨howner, hid, row, hconv⟩ := exists_row_of_sessionOf hours h
  obtain ⟨howner', hid', -⟩ := fields_of_convert hours hconv
  have hsome : ∀ o : Option String, isEmptyOpt o = false → (getAsString (some (o.getD ""))).isSome := by
    intro o ho
    cases o with
    | none => exact absurd ho (by simp [isEmptyOpt])
    | some s =>
      have hs : isEmpty s = false := by simpa [isEmptyOpt] using ho
      rw [Option.getD_some, getAsString_of_nonblank hs]
      rfl
  rw [howner', hid']
  exact ⟨hsome owner howner, hsome id hid⟩

/-- The row of a session is another user's unless the session is the user's. -/
theorem forall_sessionTarget (howner : session.owner.isSome) (hid : session.ideaSessionId.isSome) :
    (∀ target ∈ sessionTarget session, ¬ Foreign username w target) ↔ session.owner = some username := by
  obtain ⟨owner, howner⟩ := Option.isSome_iff_exists.mp howner
  obtain ⟨id, hid⟩ := Option.isSome_iff_exists.mp hid
  simp only [sessionTarget, howner, hid, List.forall_mem_singleton, Foreign, not_not, Option.some.injEq]

/-- The session of a connection that is refused goes into the error state. -/
theorem actsOn_putInError {s : VirtualDesktopSession} (howner : s.owner.isSome) (hid : s.ideaSessionId.isSome) :
    ActsOn (fun target => ¬ Foreign username w target) (sessionDbUpdate hours { s with state := .error }) w ↔
      s.owner = some username := by
  have hrow : ({ s with state := .error } : VirtualDesktopSession).owner.isSome := howner
  unfold sessionDbUpdate
  rw [actsOn_observe]
  exact forall_sessionTarget hrow hid

/-- The connection to a DCV session, where `found` is the session that goes into the error state. -/
theorem actsOn_connect {info : ConnectionInfoRequest} {dcvSessionId : Option String}
    {session : Option VirtualDesktopSession} {found : Except Exc (Option VirtualDesktopSession)}
    (hacts : ActsOn (fun target => ¬ Foreign username w target) (sessionOfRequest hours info session) w)
    (hrun : (sessionOfRequest hours info session).run w = (found, w))
    (hsome : ∀ s, found = .ok (some s) → s.owner.isSome ∧ s.ideaSessionId.isSome) :
    ActsOn (fun target => ¬ Foreign username w target) (connect hours services username info dcvSessionId session) w ↔
      (services.connects (dcvSessionId.getD "") username = false →
        ∀ s, found = .ok (some s) → s.owner = some username) := by
  unfold connect
  cases hconnects : services.connects (dcvSessionId.getD "") username with
  | true => exact iff_of_true (actsOn_pure _) fun h => absurd h (by simp)
  | false =>
    rw [if_neg (by simp), forall_prop_of_true rfl]
    rcases found with e | _ | s
    · rw [actsOn_bind_of_error hrun]
      exact iff_of_true hacts fun s hs => absurd hs (by simp)
    · rw [actsOn_bind_of_ok hrun]
      exact iff_of_true ⟨hacts, actsOn_pure _⟩ fun s hs => absurd hs (by simp)
    · obtain ⟨howner, hid⟩ := hsome s rfl
      rw [actsOn_bind_of_ok hrun, actsOn_bind, actsOn_putInError hours howner hid]
      constructor
      · rintro ⟨-, howned, -⟩ s' hs'
        obtain rfl := Option.some.inj (Except.ok.inj hs')
        exact howned
      · exact fun h => ⟨hacts, h s rfl, fun _ _ _ => actsOn_pure _⟩

/-- The session that a request names is looked up. -/
theorem run_sessionOfRequest (info : ConnectionInfoRequest) : (sessionOfRequest hours info none).run w =
      (sessionOf hours w info.ideaSessionOwner info.ideaSessionId, w) := by
  unfold sessionOfRequest
  split
  · exact run_lift_getFromDb hours info.ideaSessionOwner info.ideaSessionId
  · rename_i hblank
    have hnone : sessionOf hours w info.ideaSessionOwner info.ideaSessionId = .ok none := by
      have hid : isEmptyOpt info.ideaSessionId = true := by simpa using hblank
      unfold sessionOf Sessions.getFromDb
      rw [hid, Bool.or_true, if_pos rfl]
      rfl
    rw [hnone]
    rfl

/-- **Connections.** Only the session that the request names is changed, and that when the broker refuses the
connection. -/
theorem isolated_getSessionConnectionInfo (info : ConnectionInfoRequest) :
    Isolated hours uuids paginator services username w (.getSessionConnectionInfo (some info)) ↔
      Harmless hours services username w (.getSessionConnectionInfo (some info)) := by
  change ActsOn _ (getSessionConnectionInfo hours services username (some info)) w ↔ _
  unfold getSessionConnectionInfo Harmless
  dsimp only
  by_cases hvalid : (validateConnectionInfo info && ReadIsolation.validateOwner username info.username) = true
  · rw [if_pos hvalid]
    obtain ⟨hinfo, howner⟩ := (Bool.and_eq_true _ _).mp hvalid
    rw [forall_prop_of_true hinfo, forall_prop_of_true howner]
    unfold getSessionConnectionInfoImpl dcvSessionOf
    cases hdcv : isEmptyOpt info.dcvSessionId with
    | true =>
      have hread := run_lift_getFromDb (w := w) hours info.ideaSessionOwner info.ideaSessionId
      rw [if_pos rfl]
      rcases hfound : sessionOf hours w info.ideaSessionOwner info.ideaSessionId with e | _ | s <;>
        rw [hfound] at hread
      · rw [actsOn_bind_of_error hread]
        exact iff_of_true (actsOn_lift _) fun s hs => absurd hs (by simp)
      · rw [actsOn_bind_of_ok hread]
        exact iff_of_true ⟨actsOn_lift _, actsOn_pure _⟩ fun s hs => absurd hs (by simp)
      · rw [actsOn_bind_of_ok hread]
        refine (and_iff_right (actsOn_lift _)).trans ?_
        dsimp only
        by_cases hready : s.state = .ready
        · have hrun : (sessionOfRequest hours info (some s)).run w = (.ok (some s), w) := rfl
          rw [if_neg (not_not.mpr hready), actsOn_connect hours services (actsOn_pure _) hrun
            fun s' hs' => Option.some.inj (Except.ok.inj hs') ▸ isSome_of_sessionOf hours hfound]
          constructor
          · intro h session hs _ hrefused
            obtain rfl := Option.some.inj (Except.ok.inj hs)
            exact h hrefused s rfl
          · intro h hrefused session hs
            obtain rfl := Option.some.inj (Except.ok.inj hs)
            exact h s rfl (fun _ => hready) hrefused
        · rw [if_pos hready]
          refine iff_of_true (actsOn_pure _) fun session hs hready' => absurd ?_ hready
          obtain rfl := Option.some.inj (Except.ok.inj hs)
          exact hready' rfl
    | false =>
      have hacts : ActsOn (fun target => ¬ Foreign username w target)
          (sessionOfRequest hours info none) w := by
        unfold sessionOfRequest
        split
        · exact actsOn_lift _
        · exact actsOn_pure _
      rw [if_neg (by simp), actsOn_connect hours services hacts (run_sessionOfRequest hours info)
        fun s hs => isSome_of_sessionOf hours hs]
      constructor
      · exact fun h session hs _ hrefused => h hrefused session hs
      · exact fun h hrefused session hs => h session hs (fun hblank => absurd hblank (by simp)) hrefused
  · rw [if_neg hvalid]
    refine iff_of_true (actsOn_pure _) fun hinfo howner => absurd ?_ hvalid
    rw [hinfo, howner]
    rfl

/-! ## New sessions -/

variable {P : Target → Prop}

/-- The update of a week acts on the rows that it deletes. -/
theorem actsOn_onSchedules {v : UserApi.World} (week new : DayOfWeek → Option Schedule)
    (hfresh : ∀ n, v.drawn ≤ n → ∀ day, v.schedules.getItem (day, uuids.id n) = none)
    (hnamed : ∀ d key, rowKey (week d) = some key → ∀ n, v.drawn ≤ n → key.2 ≠ uuids.id n)
    (ideaSessionId owner : String) :
    ActsOn P (onSchedules week (updateScheduleForSession hours uuids new ideaSessionId owner)) v ↔
      ∀ key ∈ schedulesDeleted v week new, P (.schedule key) := by
  have hstate : ∀ key row, v.schedules.getItem key = some row →
      ((Traced.run (onSchedules week (updateScheduleForSession hours uuids new ideaSessionId owner)) v).2
        ).schedules.getItem key = if key ∈ schedulesDeleted v week new then none else some row := by
    intro key row hrow
    unfold onSchedules
    rw [Traced.run_observe, Proc.run_zoom]
    dsimp only
    rw [Proc.state_bind_of_reads fun _ => Reads.gets _]
    exact getItem_updateScheduleForSession hours uuids new ideaSessionId owner (w := ⟨v.schedules, v.drawn, week⟩)
      hfresh (fun d key hkey => hnamed d key (rowKey_of_deletedKey hkey)) hrow
  have hmem : ∀ key, .schedule key ∈ changedSchedules v.schedules
      (Traced.run (onSchedules week (updateScheduleForSession hours uuids new ideaSessionId owner)) v).2.schedules
        ↔ key ∈ schedulesDeleted v week new := by
    intro key
    rw [mem_changedSchedules]
    constructor
    · rintro ⟨hhas, hne⟩
      obtain ⟨row, hrow⟩ := Table.has_iff.mp hhas
      by_contra hnot
      rw [hstate key row hrow, if_neg hnot, hrow] at hne
      exact hne rfl
    · intro hdeleted
      obtain ⟨row, hrow⟩ := Table.has_iff.mp (exists_of_mem_deletedRows hdeleted).2
      rw [hstate key row hrow, if_pos hdeleted, hrow]
      exact ⟨Table.Has.of_getItem hrow, by simp⟩
  constructor
  · exact fun h key hkey => h _ ((hmem key).mpr hkey)
  · intro h target htarget
    obtain ⟨key, rfl⟩ := exists_of_mem_changedSchedules htarget
    exact h key ((hmem key).mp htarget)

theorem run_newName (request : SessionRequest) :
    ∃ name n, w.drawn ≤ n ∧ (newName uuids request).run w = (.ok name, { w with drawn := n }) := by
  unfold newName
  split
  · exact ⟨_, w.drawn + 1, Nat.le_succ _, rfl⟩
  · exact ⟨_, w.drawn, Nat.le_refl _, rfl⟩

theorem actsOn_newName (request : SessionRequest) : ActsOn P (newName uuids request) w := by
  unfold newName
  split
  · exact actsOn_bind.mpr ⟨actsOn_lift _, fun _ _ _ => actsOn_pure _⟩
  · exact actsOn_pure _

variable {request : SessionRequest}

/-- **New sessions.** The row of the new server is written, and the rows of the schedules are deleted that the
week of the request names. -/
theorem isolated_createSession (hnew : NewIds hours uuids username w (.createSession (some request))) :
    Isolated hours uuids paginator services username w (.createSession (some request)) ↔
      Harmless hours services username w (.createSession (some request)) := by
  change ActsOn _ (createSession hours uuids services username (some request)) w ↔ _
  unfold createSession Harmless
  dsimp only
  have hread : (Traced.lift (Proc.gets (acceptsCreate services username request)) :
      Traced Target UserApi.World Exc Bool).run w = (.ok (acceptsCreate services username request w), w) := rfl
  rw [actsOn_bind_of_ok hread]
  refine (and_iff_right (actsOn_lift _)).trans ?_
  unfold Traced.when
  cases haccepts : acceptsCreate services username request w with
  | false =>
    rw [if_neg (by simp)]
    exact iff_of_true (actsOn_pure _) fun h => absurd h (by simp)
  | true =>
    obtain ⟨name, n, hn, hname⟩ := run_newName uuids (w := w) request
    rw [if_pos rfl, forall_prop_of_true rfl, actsOn_bind_of_ok hname]
    refine (and_iff_right (actsOn_newName uuids request)).trans ?_
    have huuid : (uuid uuids).run { w with drawn := n } = (.ok (uuids.id n), { w with drawn := n + 1 }) := rfl
    rw [actsOn_bind_of_ok huuid]
    refine (and_iff_right (actsOn_lift _)).trans ?_
    unfold createSessionImpl
    cases services.runInstances request with
    | error e => exact iff_of_true (actsOn_pure _) fun id hid => absurd hid (by simp)
    | ok instanceId =>
      dsimp only
      obtain ⟨server, t, hserver⟩ : ∃ server t,
          (serverDbCreate username instanceId (request.server.getD {}) (uuids.id n)).run
            { w with drawn := n + 1 } = (.ok server, { w with servers := t, drawn := n + 1 }) :=
        ⟨_, _, rfl⟩
      have hacts : ActsOn (fun target => ¬ Foreign username w target)
          (serverDbCreate username instanceId (request.server.getD {}) (uuids.id n))
            { w with drawn := n + 1 } ↔ ¬ Foreign username w (.server instanceId) :=
        List.forall_mem_singleton
      have hle : w.drawn ≤ n + 1 := Nat.le_succ_of_le hn
      have hschedules := actsOn_onSchedules hours uuids (P := fun target => ¬ Foreign username w target)
        (v := { w with servers := t, drawn := n + 1 }) request.week (getDefaultSchedules hours services)
        (fun m hm => hnew.rows m (hle.trans hm))
        (fun d key hkey m hm => hnew.request request rfl d key hkey m (hle.trans hm)) (uuids.id n) username
      rw [actsOn_bind_of_ok hserver, hacts, actsOn_bind, hschedules]
      constructor
      · rintro ⟨hfresh, hdeleted, -⟩ id hid
        obtain rfl := Except.ok.inj hid
        exact ⟨hfresh, hdeleted⟩
      · intro h
        obtain ⟨hfresh, hdeleted⟩ := h instanceId rfl
        -- the row of the session is under the user's name
        refine ⟨hfresh, hdeleted, fun week v _ => ?_⟩
        unfold sessionDbCreate
        exact actsOn_observe.mpr (not_foreign_sessionTarget rfl)

/-! ## Updates of a session -/

theorem run_lift_getServer {instanceId : String} (h : isEmpty instanceId = false) :
    (Traced.lift (onServers (getServer (some instanceId))) : Traced Target UserApi.World Exc _).run w =
      (.ok ((w.servers.getItem instanceId).map (convertDbEntryToServerObject (some instanceId))), w) := by
  rw [Traced.run_lift]
  refine Proc.run_zoom_of ?_
  unfold getServer
  rw [if_neg (by simp [isEmptyOpt, h])]
  rfl

theorem run_lift_getServer_of_blank {instanceId : Option String} (h : isEmptyOpt instanceId = true) :
    ∃ e, (Traced.lift (onServers (getServer instanceId)) : Traced Target UserApi.World Exc _).run w =
      (.error e, w) := by
  refine ⟨Exc.invalidParams "instance_id is required", ?_⟩
  rw [Traced.run_lift]
  refine Proc.run_zoom_of ?_
  unfold getServer
  rw [if_pos h]
  rfl

/-- Without a change of the type the session stays as it is, or the lookup of the server raises. -/
theorem editServer_of_none (h : typeChange w request = none)
    (session : VirtualDesktopSession) : (∀ P : Target → Prop, ActsOn P (editServer services request session) w) ∧
      ((∃ e, (editServer services request session).run w = (.error e, w)) ∨
        (editServer services request session).run w = (.ok (some (session, false)), w)) := by
  unfold editServer
  unfold typeChange at h
  cases hserver : request.server with
  | none => exact ⟨fun _ => actsOn_pure _, .inr rfl⟩
  | some server =>
    simp only [hserver] at h
    dsimp only
    by_cases htype : isEmptyOpt server.instanceType = true
    · rw [if_pos htype]
      exact ⟨fun _ => actsOn_pure _, .inr rfl⟩
    rw [if_neg htype]
    by_cases hid : isEmptyOpt server.instanceId = true
    · obtain ⟨e, hrun⟩ := run_lift_getServer_of_blank (w := w) hid
      refine ⟨fun P => (actsOn_bind_of_error hrun).mpr (actsOn_lift _), .inl ⟨e, ?_⟩⟩
      exact Traced.run_bind_of_error hrun
    cases hinstance : server.instanceId with
    | none => exact absurd (by rw [hinstance]; rfl) hid
    | some instanceId =>
      cases hnew : server.instanceType with
      | none => exact absurd (by rw [hnew]; rfl) htype
      | some instanceType =>
        rw [hinstance] at hid
        rw [hnew] at htype
        have hid' : isEmpty instanceId = false := by simpa [isEmptyOpt] using hid
        have htype' : isEmpty instanceType = false := by simpa [isEmptyOpt] using htype
        have hrun := run_lift_getServer (w := w) hid'
        simp only [hinstance, hnew, hid', htype', Bool.or_self, Bool.false_eq_true, if_false] at h
        cases hrow : w.servers.getItem instanceId with
        | none =>
          rw [hrow] at hrun
          refine ⟨fun P => (actsOn_bind_of_ok hrun).mpr ⟨actsOn_lift _, actsOn_pure _⟩, .inr ?_⟩
          exact Traced.run_bind_of_ok hrun
        | some row =>
          rw [hrow] at hrun h
          rw [Option.map_some] at hrun
          have hsame : getAsString row.instanceType = some instanceType := by
            by_contra hne
            rw [Option.bind_some, if_neg hne] at h
            exact absurd h (by simp)
          have hsame' : (convertDbEntryToServerObject (some instanceId) row).instanceType =
              some instanceType := hsame
          refine ⟨fun P => ?_, .inr ?_⟩
          · refine (actsOn_bind_of_ok hrun).mpr ⟨actsOn_lift _, ?_⟩
            simp only [hsame', if_true, actsOn_pure]
          · rw [Traced.run_bind_of_ok hrun]
            simp only [hsame', if_true, Traced.run_pure]

/-- A change of the type names an instance that has a row with another type. -/
theorem exists_of_typeChange {change : String × String} (h : typeChange w request = some change) :
    ∃ server row, request.server = some server ∧ server.instanceId = some change.1 ∧
      server.instanceType = some change.2 ∧ isEmpty change.1 = false ∧ isEmpty change.2 = false ∧
        w.servers.getItem change.1 = some row ∧ getAsString row.instanceType ≠ some change.2 := by
  unfold typeChange at h
  cases hserver : request.server with
  | none => exact absurd h (by simp [hserver])
  | some server =>
    rw [hserver] at h
    dsimp only at h
    split at h
    · rename_i id instanceType hid htype
      split at h
      · exact absurd h (by simp)
      · rename_i hblank
        obtain ⟨row, hrow, hchange⟩ := Option.bind_eq_some_iff.mp h
        split at hchange
        · exact absurd hchange (by simp)
        · rename_i hne
          obtain rfl := Option.some.inj hchange
          have hblank' : isEmpty id = false ∧ isEmpty instanceType = false := by simpa using hblank
          exact ⟨server, row, rfl, hid, htype, hblank'.1, hblank'.2, hrow, hne⟩
    · exact absurd h (by simp)

/-- A change of the type asks EC2 unless the session hibernates, and goes on when EC2 accepts it and the
session has a server. -/
theorem editServer_of_some {change : String × String}
    (h : typeChange w request = some change) (session : VirtualDesktopSession) : (session.hibernationEnabled = true →
        (∀ P : Target → Prop, ActsOn P (editServer services request session) w) ∧
          (editServer services request session).run w = (.ok none, w)) ∧ (session.hibernationEnabled = false →
        (∀ P : Target → Prop, ActsOn P (editServer services request session) w ↔ P (.ec2Instance change.1)) ∧
          (services.ec2 (.modifyInstanceType change.1 change.2) = false →
            (editServer services request session).run w = (.ok none, w)) ∧
          (services.ec2 (.modifyInstanceType change.1 change.2) = true →
            (∃ e, (editServer services request session).run w = (.error e, w)) ∨
              ∃ own, session.server = some own ∧ (editServer services request session).run w =
                (.ok (some ({ session with server := some { own with instanceType := some change.2 } }, true)),
                  w))) := by
  obtain ⟨server, row, hserver, hid, htype, hid', htype', hrow, hne⟩ := exists_of_typeChange h
  have hlookup := run_lift_getServer (w := w) hid'
  rw [hrow, Option.map_some] at hlookup
  have hne' : (convertDbEntryToServerObject (some change.1) row).instanceType ≠ some change.2 := hne
  have hchange : ∀ v : UserApi.World, (changeInstanceType services (some change.1) (some change.2)).run v =
      (.ok (services.ec2 (.modifyInstanceType change.1 change.2)), v) := by
    intro v
    unfold changeInstanceType
    rw [if_neg (by simp [isEmptyOpt, hid', htype'])]
    rfl
  have hchanged : ∀ P : Target → Prop,
      ActsOn P (changeInstanceType services (some change.1) (some change.2)) w ↔ P (.ec2Instance change.1) := by
    intro P
    unfold changeInstanceType
    rw [if_neg (by simp [isEmptyOpt, hid', htype']), actsOn_bind_of_ok (Traced.run_emit _ w)]
    exact (and_iff_left (actsOn_pure _)).trans List.forall_mem_singleton
  unfold editServer
  rw [hserver]
  dsimp only
  rw [hid, htype, if_neg (by simp [isEmptyOpt, htype']), Traced.run_bind_of_ok hlookup]
  simp only [actsOn_bind_of_ok hlookup, if_neg hne', actsOn_lift, true_and]
  refine ⟨fun hhibernation => ⟨fun P => ?_, ?_⟩, fun hhibernation => ⟨fun P => ?_, fun hrefused => ?_,
    fun haccepted => ?_⟩⟩
  · rw [if_pos hhibernation]
    exact actsOn_pure _
  · rw [if_pos hhibernation]
    rfl
  · rw [if_neg (by simp [hhibernation]), actsOn_bind_of_ok (hchange w), hchanged]
    refine and_iff_left ?_
    split
    · exact actsOn_pure _
    · cases session.server with
      | none => exact actsOn_raise _
      | some own => exact actsOn_pure _
  · rw [if_neg (by simp [hhibernation]), Traced.run_bind_of_ok (hchange w), if_pos hrefused]
    rfl
  · rw [if_neg (by simp [hhibernation]), Traced.run_bind_of_ok (hchange w), if_neg (by simp [haccepted])]
    cases hown : session.server with
    | none => exact .inl ⟨_, rfl⟩
    | some own => exact .inr ⟨own, rfl, rfl⟩

/-- A session that is read back from what is put has the same instance. -/
theorem onInstance_of_convert {session saved : VirtualDesktopSession} (hown : OwnSession username session)
    {key : String × String}
    (h : Sessions.convertDbDictToSessionObject hours key (convertSessionObjectToDbDict session) = .ok saved)
    (id : String) : OnInstance saved id ↔ OnInstance session id := by
  have hserver : saved.server = session.server.map fun s =>
      convertDbEntryToServerObject s.instanceId (convertServerObjectToDbDict s) := by
    unfold Sessions.convertDbDictToSessionObject at h
    cases hweek : loadWeek hours (convertSessionObjectToDbDict session).schedule with
    | error e =>
      rw [hweek] at h
      exact absurd h (by simp [Bind.bind, Except.bind])
    | ok week =>
      rw [hweek] at h
      rw [← Except.ok.inj h]
      rfl
  unfold OnInstance
  rw [hserver]
  constructor
  · rintro ⟨server, hs, hid⟩
    obtain ⟨stored, hstored, rfl⟩ := Option.map_eq_some_iff.mp hs
    have hid' : getAsString stored.instanceId = some id := hid
    cases hinstance : stored.instanceId with
    | none =>
      rw [hinstance] at hid'
      exact absurd hid' (by simp [getAsString])
    | some instanceId =>
      rw [hinstance, hown.instanceId instanceId ⟨stored, hstored, hinstance⟩] at hid'
      exact ⟨stored, hstored, hinstance.trans hid'⟩
  · rintro ⟨server, hs, hid⟩
    refine ⟨_, congrArg (Option.map _) hs, ?_⟩
    change getAsString server.instanceId = some id
    rw [hid]
    exact hown.instanceId id ⟨server, hs, hid⟩

/-- The session is written back, and its instance is tagged. -/
theorem spares_saveSession (hown : OwnSession username session) :
    Spares username w (saveSession hours services session) (InstanceOwn username w session) fun _ => True := by
  have hupdate : Spares username w (sessionDbUpdate hours session) True
      fun saved => ∀ id, OnInstance saved id ↔ OnInstance session id := by
    intro v hv
    refine ⟨.of_iff (iff_of_true (not_foreign_sessionTarget hown.owner) trivial), hv, fun saved hsaved => ?_⟩
    have hsaved' : ((do
        Sessions.update session
        Proc.liftExcept (Sessions.convertDbDictToSessionObject hours
          (session.owner.getD "", session.ideaSessionId.getD "") (convertSessionObjectToDbDict session)) :
            Proc SessionTable Exc VirtualDesktopSession).run v.sessions).1 = .ok saved := hsaved
    rw [Proc.run_bind] at hsaved'
    rcases hput : (Sessions.update session).run v.sessions with ⟨e | u, t⟩ <;> rw [hput] at hsaved'
    · exact absurd hsaved' (by simp)
    · dsimp only at hsaved'
      rw [Proc.run_liftExcept] at hsaved'
      exact onInstance_of_convert hours hown hsaved'
  refine Confined.after hupdate fun saved hsaved => Confined.after (spares_liftExcept _) fun ids hids => ?_
  refine (Confined.forEach fun id _ => spares_issue services _).congr ?_
  have hids' : instanceIds ([saved].map fun s => s.server) = .ok ids := hids
  simp only [Command.instanceIds, List.forall_mem_singleton]
  rw [forall_instanceIds hids', List.forall_mem_singleton]
  exact forall_congr' fun id => imp_congr_left (hsaved id)

/-- What is left of an update after the server was looked at. -/
theorem decided_saveEdited (hown : OwnSession username session) (serverUpdated changed : Bool)
    (hfresh : ∀ n, w.drawn ≤ n → ∀ day, w.schedules.getItem (day, uuids.id n) = none)
    (hnamed : ∀ d key, rowKey (session.schedule d) = some key → ∀ n, w.drawn ≤ n → key.2 ≠ uuids.id n) :
    Decided (fun target => ¬ Foreign username w target) (do
        let session ← editSchedule hours uuids request session
        Traced.when (serverUpdated = true) (Traced.forEach serverDbUpdate session.server.toList)
        Traced.when (changed = true) (saveSession hours services session)) w
      ((∀ week, request.schedule = some week → ∀ key ∈ schedulesDeleted w session.schedule week,
          ¬ Foreign username w (.schedule key)) ∧ (serverUpdated = true → ServerOwn username w session) ∧
          (changed = true → InstanceOwn username w session)) := by
  have hedit : Decided (fun target => ¬ Foreign username w target)
      (editSchedule hours uuids request session) w
      (∀ week, request.schedule = some week → ∀ key ∈ schedulesDeleted w session.schedule week,
        ¬ Foreign username w (.schedule key)) := by
    unfold editSchedule
    cases request.schedule with
    | none => exact .of_iff (iff_of_true (actsOn_pure _) fun week hweek => absurd hweek (by simp))
    | some week =>
      refine .of_iff ?_
      dsimp only
      rw [actsOn_bind, actsOn_onSchedules hours uuids _ _ hfresh hnamed]
      refine (and_iff_left fun _ _ _ => actsOn_pure _).trans ?_
      simp
  have hresult : ∀ b v, (editSchedule hours uuids request session).run w = (.ok b, v) →
      (∃ week, b = { session with schedule := week }) ∧ v.permissions = w.permissions := by
    intro b v hrun
    unfold editSchedule at hrun
    cases hschedule : request.schedule with
    | none =>
      rw [hschedule] at hrun
      cases hrun
      exact ⟨⟨session.schedule, rfl⟩, rfl⟩
    | some week =>
      rw [hschedule] at hrun
      dsimp only at hrun
      rcases hweek : (onSchedules session.schedule (updateScheduleForSession hours uuids week
        (session.ideaSessionId.getD "") (session.owner.getD ""))).run w with ⟨e | week', t⟩
      · rw [Traced.run_bind_of_error hweek] at hrun
        exact absurd (congrArg Prod.fst hrun) (by simp)
      · rw [Traced.run_bind_of_ok hweek] at hrun
        cases hrun
        refine ⟨⟨week', rfl⟩, ?_⟩
        have hstate := congrArg (fun r => r.2.permissions) hweek
        exact hstate.symm
  refine Decided.bind hedit fun b v hrun => ?_
  obtain ⟨⟨week, rfl⟩, hpermissions⟩ := hresult b v hrun
  have hown' : OwnSession username { session with schedule := week } := ⟨hown.owner, hown.instanceId⟩
  have hwithin : PermissionsWithin w v := fun key row hrow => by rwa [hpermissions] at hrow
  have hservers : Spares username w
      (Traced.forEach serverDbUpdate ({ session with schedule := week } : VirtualDesktopSession).server.toList)
      (ServerOwn username w session) fun _ => True := by
    refine (Confined.forEach fun server _ => Confined.observe fun _ hv => hv).congr ?_
    constructor
    · rintro h id ⟨server, hs, hid⟩
      refine h server (Option.mem_toList.mpr hs) _ ?_
      rw [hid]
      exact List.mem_singleton_self _
    · intro h server hs target htarget
      cases hid : server.instanceId with
      | none =>
        rw [hid] at htarget
        exact absurd htarget List.not_mem_nil
      | some id =>
        rw [hid] at htarget
        rw [List.mem_singleton.mp htarget]
        exact h id ⟨server, Option.mem_toList.mp hs, hid⟩
  exact Confined.decided (Confined.bind (Confined.when fun _ => hservers) fun _ _ =>
    Confined.when fun _ => spares_saveSession hours services hown') hwithin Iff.rfl

/-- The condition for an update in the order in which the update acts. -/
theorem updateHarmless_iff : UpdateHarmless services username w request session ↔
      (∀ change, typeChange w request = some change → session.hibernationEnabled = false →
        ¬ Foreign username w (.ec2Instance change.1)) ∧ (TypeAccepted services w request session →
        (∀ week, request.schedule = some week → ∀ key ∈ schedulesDeleted w session.schedule week,
          ¬ Foreign username w (.schedule key)) ∧
        ((typeChange w request).isSome = true → ServerOwn username w session) ∧
        ((replaces request.name session.name || replaces request.description session.description ||
          (typeChange w request).isSome || request.schedule.isSome) = true → InstanceOwn username w session)) := by
  constructor
  · exact fun h => ⟨h.instanceType, fun ht => ⟨h.schedules ht, h.ownServer ht, h.ownInstance ht⟩⟩
  · exact fun h => ⟨h.1, fun ht => (h.2 ht).1, fun ht => (h.2 ht).2.1, fun ht => (h.2 ht).2.2⟩

/-- The update of a session of the user. -/
theorem decided_updateSessionImpl {old : VirtualDesktopSession}
    (hown : OwnSession username old) (hfresh : ∀ n, w.drawn ≤ n → ∀ day, w.schedules.getItem (day, uuids.id n) = none)
    (hnamed : ∀ d key, rowKey (old.schedule d) = some key → ∀ n, w.drawn ≤ n → key.2 ≠ uuids.id n) :
    Decided (fun target => ¬ Foreign username w target) (updateSessionImpl hours uuids services request old) w
      (UpdateHarmless services username w request old) := by
  have hrest : ∀ (server : Option VirtualDesktopServer) (updated : Bool),
      (∀ id, OnInstance { editTexts request old with server := server } id ↔ OnInstance old id) →
      Decided (fun target => ¬ Foreign username w target) (do
          let session ← editSchedule hours uuids request { editTexts request old with server := server }
          Traced.when (updated = true) (Traced.forEach serverDbUpdate session.server.toList)
          Traced.when ((replaces request.name old.name || replaces request.description old.description ||
            updated || request.schedule.isSome) = true) (saveSession hours services session)) w
        ((∀ week, request.schedule = some week → ∀ key ∈ schedulesDeleted w old.schedule week,
            ¬ Foreign username w (.schedule key)) ∧ (updated = true → ServerOwn username w old) ∧
            ((replaces request.name old.name || replaces request.description old.description ||
              updated || request.schedule.isSome) = true → InstanceOwn username w old)) := by
    intro server updated hserver
    have hown' : OwnSession username { editTexts request old with server := server } :=
      ⟨hown.owner, fun id hid => hown.instanceId id ((hserver id).mp hid)⟩
    refine (decided_saveEdited hours uuids services hown' updated _ hfresh hnamed).congr ?_
    refine and_congr Iff.rfl (and_congr (imp_congr_right fun _ => ?_) (imp_congr_right fun _ => ?_))
    · exact forall_congr' fun id => imp_congr_left (hserver id)
    · exact forall_congr' fun id => imp_congr_left (hserver id)
  unfold updateSessionImpl
  cases hchange : typeChange w request with
  | none =>
    obtain ⟨hacts, ⟨e, hrun⟩ | hrun⟩ := editServer_of_none services hchange (editTexts request old)
    · exact Decided.bind_of_error hrun fun _ => hacts _
    · refine (Decided.bind_of_ok hrun (.of_iff (iff_of_true (hacts _) trivial))
        (hrest old.server false fun _ => Iff.rfl)).congr ?_
      rw [updateHarmless_iff, hchange]
      simp [TypeAccepted, hchange]
  | some change =>
    obtain ⟨hhibernates, hasks⟩ := editServer_of_some services hchange (editTexts request old)
    have haccepted : TypeAccepted services w request old ↔ old.hibernationEnabled = false ∧
        services.ec2 (.modifyInstanceType change.1 change.2) = true := by
      unfold TypeAccepted
      rw [hchange]
      simp only [Option.some.injEq, forall_eq']
    have hasked : (∀ change', typeChange w request = some change' → old.hibernationEnabled = false →
          ¬ Foreign username w (.ec2Instance change'.1)) ↔
        (old.hibernationEnabled = false → ¬ Foreign username w (.ec2Instance change.1)) := by
      rw [hchange]
      simp only [Option.some.injEq, forall_eq']
    rw [updateHarmless_iff, haccepted, hasked]
    cases hhibernation : old.hibernationEnabled with
    | true =>
      obtain ⟨hacts, hrun⟩ := hhibernates hhibernation
      refine Decided.congr (Decided.bind_of_ok (D := True) hrun (.of_iff (iff_of_true (hacts _) trivial)) ?_) ?_
      · exact .of_iff (iff_of_true (actsOn_pure _) trivial)
      · simp
    | false =>
      obtain ⟨hacts, hrefused, hgoes⟩ := hasks hhibernation
      cases hec2 : services.ec2 (.modifyInstanceType change.1 change.2) with
      | false =>
        refine Decided.congr (Decided.bind_of_ok (D := True) (hrefused hec2) (.of_iff (hacts _)) ?_) ?_
        · exact .of_iff (iff_of_true (actsOn_pure _) trivial)
        · simp
      | true =>
        obtain ⟨e, hrun⟩ | ⟨own, hserver, hrun⟩ := hgoes hec2
        · exact Decided.bind_of_error hrun fun h => (hacts _).mpr (h.1 rfl)
        · have hinstance : ∀ id, OnInstance { editTexts request old with
              server := some { own with instanceType := some change.2 } } id ↔ OnInstance old id := by
            intro id
            have hserver' : old.server = some own := hserver
            simp [OnInstance, hserver']
          refine (Decided.bind_of_ok hrun (.of_iff (hacts _))
            (hrest (some { own with instanceType := some change.2 }) true hinstance)).congr ?_
          rw [hchange]
          simp

/-- **Updates of a session.** -/
theorem decided_updateSession (hplain : Plain username)
    (hnew : NewIds hours uuids username w (.updateSession (some request))) :
    Decided (fun target => ¬ Foreign username w target) (updateSession hours uuids services username (some request)) w
      (Harmless hours services username w (.updateSession (some request))) := by
  unfold updateSession Harmless
  dsimp only
  by_cases hvalid : ReadIsolation.validateOwner username request.owner = false
  · rw [if_pos hvalid]
    exact .of_iff (iff_of_true (actsOn_pure _) fun h => absurd h (by simp [hvalid]))
  · have hvalid' : ReadIsolation.validateOwner username request.owner = true := by simpa using hvalid
    have howner : (completed username request).owner = some username := by
      obtain ⟨request', hmem, -, heq⟩ := mem_ownRequests.mp
        (List.mem_map_of_mem (List.mem_filter.mpr ⟨List.mem_singleton_self request, hvalid'⟩))
      rw [heq]
    rw [if_neg hvalid, howner]
    refine Decided.after_lift (reads_onSessions (Sessions.reads_getFromDb hours _ _)) fun found hfound => ?_
    have hfound' : sessionOf hours w (some username) request.ideaSessionId = .ok found := hfound
    cases found with
    | none =>
      refine .of_iff (iff_of_true (actsOn_pure _) fun _ session hsession => ?_)
      exact absurd (hfound'.symm.trans hsession) (by simp)
    | some old =>
      have hown := ownSession_of_sessionOf hours hplain hfound'
      refine (decided_updateSessionImpl hours uuids services hown hnew.rows
        (hnew.session request rfl old hfound')).congr ?_
      constructor
      · intro h _ session hsession
        obtain rfl := Option.some.inj (Except.ok.inj (hfound'.symm.trans hsession))
        exact ⟨h.instanceType, h.schedules, h.ownServer, h.ownInstance⟩
      · intro h
        have hold := h hvalid' old hfound'
        exact ⟨hold.instanceType, hold.schedules, hold.ownServer, hold.ownInstance⟩

/-! ## Permissions -/

/-- The row of a change is under the name of its actor. -/
theorem actorName_of_key {c : Change} {key : String × String} (h : c.key = some key) :
    c.permission.actorName = some key.2 := by
  have hput : ∀ p : SessionPermission,
      (if p.permissionProfile.isSome then (keyOf p).toOption else none) = some key →
        p.actorName = some key.2 := by
    intro p hp
    split at hp
    · unfold keyOf at hp
      cases hid : p.ideaSessionId with
      | none => simp [hid, Except.toOption] at hp
      | some id =>
        cases hactor : p.actorName with
        | none => simp [hid, hactor, Except.toOption] at hp
        | some actor =>
          rw [hid, hactor] at hp
          dsimp only at hp
          split at hp
          · exact absurd hp (by simp [Except.toOption])
          · rw [← Option.some.inj hp]
    · exact absurd hp (by simp)
  cases c with
  | create p => exact hput p h
  | update p => exact hput p h
  | delete p =>
    unfold Change.key at h
    dsimp only at h
    split at h
    · exact absurd h (by simp)
    · rename_i hguard
      cases hactor : p.actorName with
      | none => exact absurd (by simp [hactor, isEmptyOpt]) hguard
      | some actor =>
        rw [← Option.some.inj h, Change.permission, hactor]
        rfl

/-- Whether a change succeeds depends on its own row only. -/
theorem succeeds_congr {c : Change} {t t' : Permissions}
    (h : ∀ key, c.key = some key → t.getItem key = t'.getItem key) : c.Succeeds t ↔ c.Succeeds t' := by
  cases c with
  | create p => exact Iff.rfl
  | update p => exact Iff.rfl
  | delete p =>
    refine and_congr_left fun _ => and_congr_right fun hguard => ?_
    rw [Table.Has, Table.Has, h]
    unfold Change.key
    dsimp only
    rw [if_neg (by simp [hguard])]

/-- The changes of a request act on the rows of those that are reached. -/
theorem actsOn_applyChanges {changes : List Change} {t : Permissions}
    (hnodup : (changes.map fun c => c.permission.actorName).Nodup) {v : UserApi.World}
    (h : ∀ c ∈ changes, c.Succeeds v.permissions ↔ c.Succeeds t) : ActsOn P (Traced.forEach applyChange changes) v ↔
      ∀ c ∈ reached t changes, ∀ key, c.key = some key → P (.permission key) := by
  induction changes generalizing v with
  | nil => exact iff_of_true (actsOn_pure _) fun c hc => absurd hc List.not_mem_nil
  | cons c rest ih =>
    rw [List.map_cons, List.nodup_cons] at hnodup
    have hacts : ActsOn P (applyChange c) v ↔ ∀ key, c.key = some key → P (.permission key) := by
      unfold applyChange
      rw [actsOn_observe, List.forall_mem_map]
      exact forall_congr' fun key => imp_congr_left Option.mem_toList
    have hstate : ((applyChange c).run v).2 = { v with permissions := c.applied v.permissions } := by
      unfold applyChange
      rw [Traced.run_observe, Proc.state_bind_of_reads fun _ => Reads.pure _]
      rfl
    have hreturns : (∃ u, ((applyChange c).run v).1 = .ok u) ↔ c.Succeeds t := by
      rw [← h c List.mem_cons_self, ← run_apply_isOk]
      unfold applyChange
      rw [Traced.run_observe, Proc.run_bind]
      have hzoom : (UserApi.onPermissions c.apply).run v =
        ((c.apply.run v.permissions).1, { v with permissions := (c.apply.run v.permissions).2 }) := rfl
      rw [hzoom]
      cases (c.apply.run v.permissions).1 <;> simp
    rw [Traced.forEach_cons, reached, List.forall_mem_cons, actsOn_bind, hacts]
    refine and_congr_right fun _ => ?_
    by_cases hsucceeds : c.Succeeds t
    · obtain ⟨u, hu⟩ := hreturns.mpr hsucceeds
      have hrun : (applyChange c).run v = (.ok u, { v with permissions := c.applied v.permissions }) :=
        Prod.ext hu hstate
      have hrest : ∀ c' ∈ rest, c'.Succeeds (c.applied v.permissions) ↔ c'.Succeeds t := by
        intro c' hc'
        rw [← h c' (List.mem_cons_of_mem _ hc')]
        refine succeeds_congr fun key hkey => getItem_applied_of_key_ne c v.permissions fun hsame => ?_
        -- the actors of two changes are different
        refine hnodup.1 ?_
        rw [actorName_of_key hsame, ← actorName_of_key hkey]
        exact List.mem_map_of_mem hc'
      have hnext := ih hnodup.2 (v := { v with permissions := c.applied v.permissions }) hrest
      rw [if_pos hsucceeds, ← hnext]
      constructor
      · exact fun hacts => hacts u _ hrun
      · intro hacts u' v' hrun'
        cases hrun.symm.trans hrun'
        exact hacts
    · rw [if_neg hsucceeds]
      refine iff_of_true (fun u v' hrun => absurd (hreturns.mp ⟨u, ?_⟩) hsucceeds)
        fun c hc => absurd hc List.not_mem_nil
      rw [hrun]

/-- The actors of permissions that are valid are different. -/
theorem nodup_of_validatePermissions {creates updates : List PermissionRequest} {changes : List Change}
    (h : ((validatePermissions hours services creates updates changes).run w).1 = .ok true) :
    (changes.map fun c => c.permission.actorName).Nodup := by
  unfold validatePermissions at h
  obtain ⟨created, v, -, h⟩ := Proc.returns_bind.mp (Prod.ext h rfl)
  obtain ⟨updated, v', -, h⟩ := Proc.returns_bind.mp h
  have hall := (Proc.returns_pure.mp h).1
  exact of_decide_eq_true ((Bool.and_eq_true _ _).mp hall).2

/-- **Permissions.** The rows of the changes are written up to the first that fails, whatever session they are
under. -/
theorem isolated_updateSessionPermission (creates updates deletes : List PermissionRequest) :
    Isolated hours uuids paginator services username w
        (.updateSessionPermission (some creates) (some updates) (some deletes)) ↔ Harmless hours services username w
        (.updateSessionPermission (some creates) (some updates) (some deletes)) := by
  unfold Isolated Harmless
  dsimp only
  generalize hchanges : changesOf creates updates deletes = changes
  have hcall : ActsOn (fun target => ¬ Foreign username w target) (invoke hours uuids paginator services username
        (.updateSessionPermission (some creates) (some updates) (some deletes))) w ↔
      ActsOn (fun target => ¬ Foreign username w target)
        (if changes.any fun c => c.permission.ideaSessionOwner != some username then pure ⟨⟩
        else do
          let valid ← Traced.lift (validatePermissions hours services creates updates changes)
          Traced.when (valid = true) (Traced.forEach applyChange changes)) w := by
    rw [← hchanges]
    exact Iff.rfl
  rw [hcall]
  by_cases howner : (changes.any fun c => c.permission.ideaSessionOwner != some username) = true
  · rw [if_pos howner]
    refine iff_of_true (actsOn_pure _) fun hown => ?_
    obtain ⟨c, hc, hne⟩ := List.any_eq_true.mp howner
    exact absurd (hown c hc) (by simpa using hne)
  · have hown : ∀ c ∈ changes, c.permission.ideaSessionOwner = some username := by
      simpa using howner
    rw [if_neg howner, forall_prop_of_true hown]
    have hreads := reads_validatePermissions hours services creates updates changes
    rcases hvalid : (validatePermissions hours services creates updates changes).run w with ⟨e | valid, v⟩ <;>
      obtain rfl : v = w := hreads.eq_of_run hvalid
    · rw [actsOn_bind_of_error (Traced.run_lift _ _ ▸ hvalid)]
      exact iff_of_true (actsOn_lift _) fun h => absurd h (by simp)
    · rw [actsOn_bind_of_ok (Traced.run_lift _ _ ▸ hvalid)]
      refine (and_iff_right (actsOn_lift _)).trans ?_
      unfold Traced.when
      cases valid with
      | false =>
        rw [if_neg (by simp)]
        exact iff_of_true (actsOn_pure _) fun h => absurd h (by simp)
      | true =>
        rw [if_pos rfl, forall_prop_of_true rfl]
        exact actsOn_applyChanges (nodup_of_validatePermissions hours services (congrArg Prod.fst hvalid))
          fun _ _ => Iff.rfl

/-! ## Every call -/

/-- The operations whose condition says how far a call gets that raises. -/
def CountsFailures : Operation → Prop
  | .createSession _ | .getSessionConnectionInfo _ | .updateSessionPermission _ _ _ => True
  | _ => False

variable {operation : Operation}

/-- Only a deletion has a condition on permissions, which is part of its own. -/
theorem permissionsClean_of_harmless (h : Harmless hours services username w operation) :
    PermissionsClean hours username w operation := by
  cases operation with
  | deleteSessions sessions =>
    cases sessions with
    | none => exact trivial
    | some requests => exact fun s hs hreleased => ((h s hs).1 hreleased).2.2.2
  | _ => exact trivial

/-- A list of a payload that is missing ends the call. -/
theorem actsOn_required {α : Type} (list : Option (List α)) : ActsOn P (UserApi.required list) w ∧
      ∀ l v, (UserApi.required list).run w = (.ok l, v) → list = some l := by
  cases list with
  | none => exact ⟨actsOn_raise _, fun l v h => absurd (congrArg Prod.fst h) (by simp [UserApi.required])⟩
  | some l => exact ⟨actsOn_pure _, fun l' v h => congrArg some (Except.ok.inj (congrArg Prod.fst h))⟩

theorem actsOn_updateSessionPermission_of_missing
    {creates updates deletes : Option (List PermissionRequest)}
    (h : ¬ (creates.isSome ∧ updates.isSome ∧ deletes.isSome)) :
    ActsOn P (updateSessionPermission hours services username creates updates deletes) w := by
  refine actsOn_bind.mpr ⟨(actsOn_required creates).1, fun c v hc => ?_⟩
  refine actsOn_bind.mpr ⟨(actsOn_required deletes).1, fun d v' hd => ?_⟩
  refine actsOn_bind.mpr ⟨(actsOn_required updates).1, fun u v'' hu => absurd ⟨?_, ?_, ?_⟩ h⟩
  · rw [(actsOn_required (P := P) creates).2 c v hc, Option.isSome_some]
  · rw [(actsOn_required (P := P) updates).2 u v'' hu, Option.isSome_some]
  · rw [(actsOn_required (P := P) deletes).2 d v' hd, Option.isSome_some]

/-- In a call of one of these operations the condition is exact. -/
theorem isolated_iff_of_countsFailures (hnew : NewIds hours uuids username w operation)
    (hcounts : CountsFailures operation) : Isolated hours uuids paginator services username w operation ↔
      Harmless hours services username w operation := by
  cases operation with
  | createSession session =>
    cases session with
    | none => exact iff_of_true (actsOn_pure _) trivial
    | some request => exact isolated_createSession hours uuids paginator services hnew
  | getSessionConnectionInfo info =>
    cases info with
    | none => exact iff_of_true (actsOn_raise _) trivial
    | some info => exact isolated_getSessionConnectionInfo hours uuids paginator services info
  | updateSessionPermission creates updates deletes =>
    by_cases hgiven : creates.isSome ∧ updates.isSome ∧ deletes.isSome
    · obtain ⟨hcreates, hupdates, hdeletes⟩ := hgiven
      obtain ⟨creates, rfl⟩ := Option.isSome_iff_exists.mp hcreates
      obtain ⟨updates, rfl⟩ := Option.isSome_iff_exists.mp hupdates
      obtain ⟨deletes, rfl⟩ := Option.isSome_iff_exists.mp hdeletes
      exact isolated_updateSessionPermission hours uuids paginator services creates updates deletes
    · refine iff_of_true (actsOn_updateSessionPermission_of_missing hours services hgiven) ?_
      cases creates <;> cases updates <;> cases deletes <;> first | trivial | exact absurd (by simp) hgiven
  | _ => exact hcounts.elim

/-- In every call the condition is enough, and in one that returns it is needed. -/
theorem decided_invoke (hplain : Plain username) (hnew : NewIds hours uuids username w operation)
    (hclean : PermissionsClean hours username w operation) : Decided (fun target => ¬ Foreign username w target)
      (invoke hours uuids paginator services username operation) w (Harmless hours services username w operation) := by
  cases operation with
  | createSession session =>
    exact .of_iff (isolated_iff_of_countsFailures hours uuids paginator services hnew trivial)
  | getSessionConnectionInfo info =>
    exact .of_iff (isolated_iff_of_countsFailures hours uuids paginator services hnew trivial)
  | updateSessionPermission creates updates deletes =>
    exact .of_iff (isolated_iff_of_countsFailures hours uuids paginator services hnew trivial)
  | updateSession session =>
    cases session with
    | none => exact .raise
    | some request => exact decided_updateSession hours uuids services hplain hnew
  | deleteSessions sessions =>
    cases sessions with
    | none => exact Decided.bind_of_error (Traced.run_raise _ w) fun _ => actsOn_raise _
    | some requests => exact decided_deleteSessions hours paginator services hplain hclean
  | stopSessions sessions =>
    cases sessions with
    | none => exact Decided.bind_of_error (Traced.run_raise _ w) fun _ => actsOn_raise _
    | some requests => exact decided_stopSessions hours services hplain requests
  | resumeSessions sessions =>
    cases sessions with
    | none => exact Decided.bind_of_error (Traced.run_raise _ w) fun _ => actsOn_raise _
    | some requests => exact decided_resumeSessions hours services hplain requests
  | rebootSessions sessions =>
    cases sessions with
    | none => exact Decided.bind_of_error (Traced.run_raise _ w) fun _ => actsOn_raise _
    | some requests => exact decided_rebootSessions hours services hplain requests
  | getSessionInfo session =>
    refine .of_iff (iff_of_true ?_ trivial)
    cases session with
    | none => exact actsOn_raise _
    | some request =>
      change ActsOn _ (if _ then _ else _) w
      split
      · exact actsOn_pure _
      · exact actsOn_bind.mpr ⟨actsOn_lift _, fun _ _ _ => actsOn_when fun _ => actsOn_raise _⟩
  | list request => exact .of_iff (iff_of_true (actsOn_lift _) trivial)
  | listSoftwareStacks projectId =>
    refine .of_iff (iff_of_true ?_ trivial)
    change ActsOn _ (if _ then _ else _) w
    split
    · exact actsOn_pure _
    · exact actsOn_lift _

/-- The ready session of alice, with its DCV session. -/
def readySession : UserApi.World where
  sessions := Table.empty.putItem ("alice", "s1") {
    name := some "desktop"
    description := none
    dcvSessionId := some "dcv-1"
    state := .ready
    hibernationEnabled := false
    server := some { instanceId := some "i-1" }
    schedule := fun _ => none }
  servers := ∅
  schedules := ∅
  permissions := ∅
  drawn := 0

/-- The services where the broker gives nobody a connection. -/
def refusing : Services where
  allowedSessionsPerUser := 1
  acceptsSession _ := true
  defaultType _ := .noSchedule
  defaultTimes _ := ("", "")
  runInstances _ := .ok "i-2"
  ec2 _ := true
  connectionCount _ := 0
  deleteSessions ids := .ok ids
  connects _ _ := false
  supportsPermissions _ := true
  reply _ _ := .error (attributeError "list")
  softwareStacks _ _ := .error (attributeError "list")

/-- The session of alice, asked for without a user name. -/
def connection : Operation :=
  .getSessionConnectionInfo (some { ideaSessionId := some "s1", ideaSessionOwner := some "alice" })

theorem newIds_readySession (username : String) : NewIds ⟨"09:00", "17:00"⟩ Uuids.unary username readySession
    connection where
  rows _ _ _ := Table.getItem_empty _
  request _ h := absurd h (by simp [connection])
  session _ h := absurd h (by simp [connection])

end ContainRes.VirtualDesktop.WriteIsolation
