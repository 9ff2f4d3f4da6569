import ContainRes.Store.KeyedLists
import ContainRes.VirtualDesktop.BatchOperations

/-! # The steps of a call for many sessions

What each step of the calls for many sessions does to the table, and when it returns.

* **`AsRead`** — a session as it comes from its row; `exists_row_of_readOf` says which row that is.
* **`readRequests_cases`** — the requests are read, or the call raises.
* **`Framed`**, **`settles_saveIn`** — a session is written back in another state.
* **`pairUnder`**, **`settles_lookups`** — sessions are looked up by an id. -/

namespace ContainRes.VirtualDesktop.BatchOperations

open Effects Store Text
open Schedules Sessions

variable (hours : WorkingHours)

/-- The pair that a request names. -/
def Request.pair (request : Request) : Option String × Option String := (request.owner, request.ideaSessionId)

/-- The pair of a session. -/
def pairOf (session : VirtualDesktopSession) : Option String × Option String :=
  (session.owner, session.ideaSessionId)

/-- The key of the row of a session. -/
def keyOf (session : VirtualDesktopSession) : String × String :=
  (session.owner.getD "", session.ideaSessionId.getD "")

/-- What a request finds in the sessions table. -/
def readOf (t : SessionTable) (request : Request) : Except Exc (Option VirtualDesktopSession) :=
  ((Sessions.getFromDb hours request.owner request.ideaSessionId).run t).1

/-- A server after it was written and read. -/
def reloadServer (server : VirtualDesktopServer) : VirtualDesktopServer :=
  convertDbEntryToServerObject server.instanceId (convertServerObjectToDbDict server)

/-- A session as it comes from its row: it has an owner and an id, and its texts and its server are read back as
they are. -/
structure AsRead (session : VirtualDesktopSession) : Prop where
  owner : getAsString (some (keyOf session).1) = session.owner
  ideaSessionId : getAsString (some (keyOf session).2) = session.ideaSessionId
  owner_isSome : session.owner.isSome
  id_isSome : session.ideaSessionId.isSome
  server : session.server.map reloadServer = session.server

/-- A session can be read after it was written back. -/
def WritesBack (session : VirtualDesktopSession) : Prop :=
  ∃ week, reloadWeek hours session.schedule = .ok week

namespace AsRead

variable {session : VirtualDesktopSession}

theorem pairOf_eq (h : AsRead session) : pairOf session = (some (keyOf session).1, some (keyOf session).2) := by
  obtain ⟨owner, howner⟩ := Option.isSome_iff_exists.mp h.owner_isSome
  obtain ⟨id, hid⟩ := Option.isSome_iff_exists.mp h.id_isSome
  simp [pairOf, keyOf, howner, hid]

theorem stripped (h : AsRead session) :
    getAsString (pairOf session).1 = (pairOf session).1 ∧ getAsString (pairOf session).2 = (pairOf session).2 := by
  rw [h.pairOf_eq]
  refine ⟨h.owner.trans ?_, h.ideaSessionId.trans ?_⟩
  · exact congrArg Prod.fst h.pairOf_eq
  · exact congrArg Prod.snd h.pairOf_eq

theorem withState (h : AsRead session) (state : VirtualDesktopSessionState) :
    AsRead (Lifecycle.withState session state) := ⟨h.owner, h.ideaSessionId, h.owner_isSome, h.id_isSome, h.server⟩

end AsRead

variable {session : VirtualDesktopSession}

/-- A session that is made from a row can be made again from its own texts. -/
theorem asRead_of_convert {key : String × String} {row : Sessions.SessionRow}
    (h : Sessions.convertDbDictToSessionObject hours key row = .ok session)
    (howner : isEmpty key.1 = false) (hid : isEmpty key.2 = false) :
    pairOf session = (some (strip key.1), some (strip key.2)) ∧ AsRead session := by
  unfold Sessions.convertDbDictToSessionObject at h
  obtain ⟨week, -, h⟩ := bind_eq_ok.mp h
  have heq := Except.ok.inj h
  subst heq
  have hpair : (getAsString (some key.1), getAsString (some key.2)) = (some (strip key.1), some (strip key.2)) := by
    rw [getAsString_of_nonblank howner, getAsString_of_nonblank hid]
  have hstripped : ∀ s, isEmpty s = false → getAsString (some (strip s)) = some (strip s) := by
    intro s hs
    have h := getAsString_getAsString (some s)
    rwa [getAsString_of_nonblank hs] at h
  refine ⟨hpair, ?_, ?_, ?_, ?_, ?_⟩
  · simp only [keyOf, getAsString_of_nonblank howner, Option.getD_some, hstripped _ howner]
  · simp only [keyOf, getAsString_of_nonblank hid, Option.getD_some, hstripped _ hid]
  · simp only [getAsString_of_nonblank howner, Option.isSome_some]
  · simp only [getAsString_of_nonblank hid, Option.isSome_some]
  · cases row.server with
    | none => rfl
    | some server =>
      simp [reloadServer, convertDbEntryToServerObject, convertServerObjectToDbDict]

/-! ## Reading the sessions -/

/-- A session that was read for a request. -/
def ReadFor (t : SessionTable) (request : Request) (r : Requested) : Prop :=
  readOf hours t request = .ok (some r.session) ∧ r.force = request.force

variable {t : SessionTable}

/-- A session that was read for a request comes from the row under the requested pair. -/
theorem exists_row_of_readOf {request : Request} (h : readOf hours t request = .ok (some session)) :
    ∃ key row, request.pair = (some key.1, some key.2) ∧ t.getItem key = some row ∧
      pairOf session = (some (strip key.1), some (strip key.2)) ∧ AsRead session ∧
        Sessions.convertDbDictToSessionObject hours key row = .ok session := by
  unfold readOf Sessions.getFromDb at h
  by_cases hblank : (isEmptyOpt request.owner || isEmptyOpt request.ideaSessionId) = true
  · rw [if_pos hblank] at h
    exact absurd h (by simp)
  · rw [if_neg hblank] at h
    cases howner : request.owner with
    | none => exact absurd hblank (by simp [howner, isEmptyOpt])
    | some owner =>
      cases hid : request.ideaSessionId with
      | none => exact absurd hblank (by simp [hid, isEmptyOpt])
      | some id =>
        rw [howner, hid] at hblank h
        have hplain : isEmpty owner = false ∧ isEmpty id = false := by
          simpa [isEmptyOpt] using hblank
        cases hrow : t.getItem (owner, id) with
        | none => exact absurd h (by simp [Proc.run_bind, hrow])
        | some row =>
          cases hconv : Sessions.convertDbDictToSessionObject hours (owner, id) row with
          | error e => exact absurd h (by simp [Proc.run_bind, hrow, hconv, Except.map])
          | ok found =>
            have heq : found = session := by
              simpa [Proc.run_bind, hrow, hconv, Except.map] using h
            subst heq
            obtain ⟨hpair, hread⟩ := asRead_of_convert hours hconv hplain.1 hplain.2
            exact ⟨(owner, id), row, by rw [Request.pair, howner, hid], hrow, hpair, hread, hconv⟩

theorem ReadFor.asRead {request : Request} {r : Requested} (h : ReadFor hours t request r) : AsRead r.session := by
  obtain ⟨-, -, -, -, -, hread, -⟩ := exists_row_of_readOf hours h.1
  exact hread

/-- The sessions are read without a change to the table, if every request finds one and the check lets it pass. -/
theorem readRequests_cases (check : VirtualDesktopSession → Except Exc PUnit) (t : SessionTable)
    (requests : List Request) : (∃ sessions, (readRequests hours check requests).run t = (.ok sessions, t) ∧
        List.Forall₂ (ReadFor hours t) requests sessions ∧ ∀ r ∈ sessions, check r.session = .ok ⟨⟩) ∨
      ((∃ e, (readRequests hours check requests).run t = (.error e, t)) ∧
        ¬ ∃ sessions, List.Forall₂ (ReadFor hours t) requests sessions ∧ ∀ r ∈ sessions, check r.session = .ok ⟨⟩) := by
  induction requests with
  | nil => exact .inl ⟨[], rfl, .nil, fun r hr => absurd hr List.not_mem_nil⟩
  | cons request rest ih =>
    have hstate := Sessions.reads_getFromDb hours request.owner request.ideaSessionId t
    rcases hread : (Sessions.getFromDb hours request.owner request.ideaSessionId).run t with ⟨found, t'⟩
    obtain rfl : t' = t := by simpa [hread] using hstate
    have hfound : readOf hours t' request = found := congrArg Prod.fst hread
    -- No list of sessions fits when this request does not find one that passes.
    have hnone : (∀ session, found = .ok (some session) → check session ≠ .ok ⟨⟩) →
        ¬ ∃ sessions, List.Forall₂ (ReadFor hours t') (request :: rest) sessions ∧
          ∀ r ∈ sessions, check r.session = .ok ⟨⟩ := by
      rintro hno ⟨sessions, hall, hcheck⟩
      cases hall with
      | cons hfirst _ =>
        exact hno _ (hfound.symm.trans hfirst.1) (hcheck _ List.mem_cons_self)
    rw [readRequests]
    rcases found with e | _ | session
    · exact .inr ⟨⟨e, Proc.run_bind_of_error hread⟩, hnone fun s hs => absurd hs (by simp)⟩
    · exact .inr ⟨⟨_, (Proc.run_bind_of_ok hread).trans (Proc.run_bind_of_error rfl)⟩,
        hnone fun s hs => absurd hs (by simp)⟩
    · rw [Proc.run_bind_of_ok hread]
      dsimp only
      cases hcheck : check session with
      | error e =>
        refine .inr ⟨⟨e, Proc.run_bind_of_error rfl⟩, hnone fun s hs => ?_⟩
        obtain rfl := Option.some.inj (Except.ok.inj hs)
        rw [hcheck]
        exact fun h => absurd h (by simp)
      | ok u =>
        rcases ih with ⟨sessions, hrun, hall, hchecks⟩ | ⟨⟨e, hrun⟩, hno⟩
        · refine .inl ⟨⟨session, request.force⟩ :: sessions, ?_, .cons ⟨hfound, rfl⟩ hall, ?_⟩
          · exact (Proc.run_bind_of_ok rfl).trans (Proc.run_bind_of_ok hrun)
          · exact List.forall_mem_cons.mpr ⟨hcheck, hchecks⟩
        · refine .inr ⟨⟨e, (Proc.run_bind_of_ok rfl).trans (Proc.run_bind_of_error hrun)⟩, ?_⟩
          rintro ⟨sessions, hall, hchecks⟩
          cases hall with
          | cons _ hrest => exact hno ⟨_, hrest, fun r hr => hchecks r (List.mem_cons_of_mem _ hr)⟩

/-! ## Writing sessions back -/

/-- The rows are those of `t`, with other contents under some pairs at most. -/
def Framed (t : SessionTable) (pairs : List (Option String × Option String)) (t' : SessionTable) : Prop :=
  ∀ key, (t'.Has key ↔ t.Has key) ∧ ((some key.1, some key.2) ∉ pairs → t'.getItem key = t.getItem key)

theorem framed_refl (t : SessionTable) (pairs : List (Option String × Option String)) : Framed t pairs t :=
  fun _ => ⟨Iff.rfl, fun _ => rfl⟩

/-- A session with the same owner, id and server. -/
theorem AsRead.congr {session saved : VirtualDesktopSession} (h : AsRead session)
    (hpair : pairOf saved = pairOf session) (hserver : saved.server = session.server) : AsRead saved := by
  have howner : saved.owner = session.owner := congrArg Prod.fst hpair
  have hid : saved.ideaSessionId = session.ideaSessionId := congrArg Prod.snd hpair
  have hkey : keyOf saved = keyOf session := by rw [keyOf, howner, hid, keyOf]
  refine ⟨?_, ?_, howner ▸ h.owner_isSome, hid ▸ h.id_isSome, hserver ▸ h.server⟩
  · rw [hkey, howner, h.owner]
  · rw [hkey, hid, h.ideaSessionId]

/-- The session that is made from what was put, if its week is read back. -/
theorem convert_saved (h : AsRead session) :
    (WritesBack hours session ∧ ∃ saved, Sessions.convertDbDictToSessionObject hours (keyOf session)
        (convertSessionObjectToDbDict session) = .ok saved ∧
          pairOf saved = pairOf session ∧ saved.server = session.server) ∨
      (¬ WritesBack hours session ∧ ∃ e, Sessions.convertDbDictToSessionObject hours (keyOf session)
        (convertSessionObjectToDbDict session) = .error e) := by
  unfold Sessions.convertDbDictToSessionObject
  change (WritesBack hours session ∧ ∃ saved, (reloadWeek hours session.schedule >>= _) = _ ∧ _) ∨
    (_ ∧ ∃ e, (reloadWeek hours session.schedule >>= _) = _)
  cases hweek : reloadWeek hours session.schedule with
  | error e =>
    refine .inr ⟨?_, e, rfl⟩
    rintro ⟨week, hok⟩
    rw [hweek] at hok
    exact absurd hok (by simp)
  | ok week =>
    refine .inl ⟨⟨week, hweek⟩, _, rfl, ?_, h.server⟩
    exact Prod.ext h.owner h.ideaSessionId

/-- A session is put under its key, and the call returns if there was a row. -/
theorem run_update (h : AsRead session) (t : SessionTable) : (Sessions.update session).run t =
      (if t.Has (keyOf session) then .ok ⟨⟩ else .error (.other .keyError "'Attributes'"),
        t.putItem (keyOf session) (convertSessionObjectToDbDict session)) := by
  have howner : session.owner = some (keyOf session).1 := congrArg Prod.fst h.pairOf_eq
  have hid : session.ideaSessionId = some (keyOf session).2 := congrArg Prod.snd h.pairOf_eq
  unfold Sessions.update
  rw [howner, hid]
  dsimp only
  rw [Proc.run_bind_of_ok (Proc.run_gets _ t), Proc.run_bind_of_ok (Proc.run_modify _ t)]
  by_cases hrow : t.Has (keyOf session)
  · have hsome : (t.getItem (keyOf session)).isSome = true := hrow
    rw [if_pos hrow, Proc.run_when_neg (by simp [hsome])]
  · have hnone : (t.getItem (keyOf session)).isSome = false := by simpa [Table.Has] using hrow
    rw [if_neg hrow, Proc.run_when_pos (by simp [hnone])]
    rfl

/-- What is known of a session that was written back. -/
def SavedFrom (session saved : VirtualDesktopSession) : Prop :=
  pairOf saved = pairOf session ∧ AsRead saved ∧ saved.server = session.server

/-- A session is written back when it has a row and can be read again. -/
theorem settles_saveIn {pairs : List (Option String × Option String)}
    (state : VirtualDesktopSessionState) (h : AsRead session) (hmem : pairOf session ∈ pairs) :
    Settles (Framed t pairs) (saveIn hours state session) (t.Has (keyOf session) ∧ WritesBack hours session)
      fun saved t' => SavedFrom session saved ∧ Framed t pairs t' := by
  intro t₁ hframed
  have hmoved := h.withState state
  have hupdate := run_update hmoved t₁
  have hsame : keyOf (Lifecycle.withState session state) = keyOf session := rfl
  rw [hsame] at hupdate
  by_cases hrow : t.Has (keyOf session)
  · rw [if_pos ((hframed _).1.mpr hrow)] at hupdate
    have hframed' : Framed t pairs
        (t₁.putItem (keyOf session) (convertSessionObjectToDbDict (Lifecycle.withState session state))) := by
      intro key
      rw [Table.Has, Table.getItem_putItem]
      by_cases hkey : key = keyOf session
      · subst hkey
        rw [if_pos rfl, ← h.pairOf_eq]
        exact ⟨by simpa using hrow, fun hnot => absurd hmem hnot⟩
      · rw [if_neg hkey]
        exact hframed key
    rcases convert_saved hours hmoved with ⟨hback, saved, hconv, hpair, hserver⟩ | ⟨hback, e, hconv⟩
    · refine .inl ⟨⟨hrow, hback⟩, saved, _, ?_, ⟨hpair, hmoved.congr hpair hserver, hserver⟩, hframed'⟩
      exact (Proc.run_bind_of_ok hupdate).trans ((Proc.run_liftExcept _ _).trans (congrArg (·, _) hconv))
    · refine .inr ⟨fun hC => hback hC.2, e,
        t₁.putItem (keyOf session) (convertSessionObjectToDbDict (Lifecycle.withState session state)), ?_⟩
      exact (Proc.run_bind_of_ok hupdate).trans ((Proc.run_liftExcept _ _).trans (congrArg (·, _) hconv))
  · rw [if_neg fun hhas => hrow ((hframed _).1.mp hhas)] at hupdate
    exact .inr ⟨fun hC => hrow hC.1, _, _, Proc.run_bind_of_error hupdate⟩

/-! ## Removing sessions -/

/-- A session is deleted under its key, and the call returns if there was a row. -/
theorem run_delete (h : AsRead session) (t : SessionTable) : (Sessions.delete session).run t =
      (if t.Has (keyOf session) then .ok ⟨⟩ else .error (.other .keyError "'Attributes'"),
        t.deleteItem (keyOf session)) := by
  have hnonblank : ∀ s, getAsString (some s) = some s → isEmpty s = false := by
    intro s hs
    by_contra hblank
    exact absurd hs (by simp [getAsString, hblank])
  have howner : session.owner = some (keyOf session).1 := congrArg Prod.fst h.pairOf_eq
  have hid : session.ideaSessionId = some (keyOf session).2 := congrArg Prod.snd h.pairOf_eq
  have hkeyowner := hnonblank _ (h.owner.trans howner)
  have hkeyid := hnonblank _ (h.ideaSessionId.trans hid)
  unfold Sessions.delete
  rw [if_neg (by rw [howner, hid]; simp [isEmptyOpt, hkeyowner, hkeyid])]
  change ((Proc.gets fun t : SessionTable => (t.getItem (keyOf session)).isSome) >>= _).run t = _
  rw [Proc.run_bind_of_ok (Proc.run_gets _ t), Proc.run_bind_of_ok (Proc.run_modify _ t)]
  by_cases hrow : t.Has (keyOf session)
  · have hsome : (t.getItem (keyOf session)).isSome = true := hrow
    rw [if_pos hrow, Proc.run_when_neg (by simp [hsome])]
    rfl
  · have hnone : (t.getItem (keyOf session)).isSome = false := by simpa [Table.Has] using hrow
    rw [if_neg hrow, Proc.run_when_pos (by simp [hnone])]
    rfl

variable (hosts : Hosts)

/-- A session is removed when what belongs to it is, and it has a row. -/
theorem run_remove (h : AsRead session) (t : SessionTable) :
    (hosts.cleanUp session = .ok ⟨⟩ ∧ t.Has (keyOf session) ∧ (remove hosts session).run t =
        (.ok (Lifecycle.withState session .deleted), t.deleteItem (keyOf session))) ∨
      (¬ (hosts.cleanUp session = .ok ⟨⟩ ∧ t.Has (keyOf session)) ∧
        ∃ e t', (remove hosts session).run t = (.error e, t')) := by
  have hdelete := run_delete h t
  cases hclean : hosts.cleanUp session with
  | error e =>
    refine .inr ⟨fun h => absurd h.1 (by simp), e, t, ?_⟩
    rw [remove, hclean]
    rfl
  | ok u =>
    by_cases hrow : t.Has (keyOf session)
    · rw [if_pos hrow] at hdelete
      refine .inl ⟨rfl, hrow, ?_⟩
      rw [remove, hclean]
      exact (Proc.run_bind_of_ok rfl).trans (Proc.run_bind_of_ok hdelete)
    · rw [if_neg hrow] at hdelete
      refine .inr ⟨fun h => hrow h.2, .other .keyError "'Attributes'", t.deleteItem (keyOf session), ?_⟩
      rw [remove, hclean]
      exact (Proc.run_bind_of_ok rfl).trans (Proc.run_bind_of_error hdelete)

/-- Sessions are removed when what belongs to them is, they have their rows, and none is removed twice. -/
theorem settles_removeAll {taken : List Requested} (hread : ∀ r ∈ taken, AsRead r.session) (t : SessionTable) :
    Settles (· = t) (Proc.collect (fun r : Requested => remove hosts r.session) taken)
      ((∀ r ∈ taken, hosts.cleanUp r.session = .ok ⟨⟩ ∧ t.Has (keyOf r.session)) ∧
        (taken.map fun r => keyOf r.session).Nodup)
      fun removed t' => (removed.map pairOf = taken.map (fun r => pairOf r.session) ∧ ∀ s ∈ removed, AsRead s) ∧
        ∀ key, key ∉ taken.map (fun r => keyOf r.session) → t'.getItem key = t.getItem key := by
  induction taken generalizing t with
  | nil =>
    rintro s rfl
    refine .inl ⟨⟨fun r hr => absurd hr List.not_mem_nil, List.nodup_nil⟩, [], s, rfl, ⟨rfl, ?_⟩, fun _ _ => rfl⟩
    exact fun s hs => absurd hs List.not_mem_nil
  | cons r rest ih =>
    rintro s rfl
    obtain ⟨hr, hrest⟩ := List.forall_mem_cons.mp hread
    rw [List.forall_mem_cons, List.map_cons, List.nodup_cons]
    rcases run_remove hosts hr s with ⟨hclean, hrow, hfirst⟩ | ⟨hno, e, t', hfirst⟩
    · -- The others have their rows after this removal if they had them before and are other sessions.
      have hhas : (∀ r' ∈ rest, hosts.cleanUp r'.session = .ok ⟨⟩ ∧
          (s.deleteItem (keyOf r.session)).Has (keyOf r'.session)) ↔
            (∀ r' ∈ rest, hosts.cleanUp r'.session = .ok ⟨⟩ ∧ s.Has (keyOf r'.session)) ∧
              keyOf r.session ∉ rest.map fun r => keyOf r.session := by
        simp only [Table.has_deleteItem, List.mem_map, not_exists, not_and]
        constructor
        · intro h
          exact ⟨fun r' hr' => ⟨(h r' hr').1, (h r' hr').2.2⟩, fun r' hr' => (h r' hr').2.1⟩
        · rintro ⟨h, hne⟩ r' hr'
          exact ⟨(h r' hr').1, hne r' hr', (h r' hr').2⟩
      rcases ih hrest _ _ rfl with ⟨⟨hall, hnodup⟩, removed, t', hrun, ⟨hpairs, hasRead⟩, hframe⟩ |
        ⟨hno, e, t', hrun⟩
      · obtain ⟨hall, hfresh⟩ := hhas.mp hall
        refine .inl ⟨⟨⟨⟨hclean, hrow⟩, hall⟩, hfresh, hnodup⟩, Lifecycle.withState r.session .deleted :: removed,
          t', (Proc.run_bind_of_ok hfirst).trans (Proc.run_bind_of_ok hrun), ⟨?_, ?_⟩, ?_⟩
        · rw [List.map_cons, List.map_cons, hpairs]
          rfl
        · exact List.forall_mem_cons.mpr ⟨hr.withState _, hasRead⟩
        · intro key hkey
          rw [List.mem_cons, not_or] at hkey
          rw [hframe key hkey.2, Table.getItem_deleteItem, if_neg hkey.1]
      · refine .inr ⟨?_, e, t', (Proc.run_bind_of_ok hfirst).trans (Proc.run_bind_of_error hrun)⟩
        rintro ⟨⟨-, hall⟩, hfresh, hnodup⟩
        exact hno ⟨hhas.mpr ⟨hall, hfresh⟩, hnodup⟩
    · exact .inr ⟨fun h => hno h.1.1, e, t', Proc.run_bind_of_error hfirst⟩

/-! ## Looking sessions up -/

section Lookups

variable {ι : Type} [DecidableEq ι] (key : Requested → ι) (sessions : List Requested)

/-- One of the sessions with the id is found, if there is one. -/
theorem sessionUnder_cases (id : ι) : (∃ r ∈ sessions, key r = id ∧ sessionUnder key sessions id = .ok r.session) ∨
      id ∉ sessions.map key ∧ ∃ e, sessionUnder key sessions id = .error e := by
  unfold sessionUnder
  cases hfind : sessions.reverse.find? fun r => key r = id with
  | some r =>
    have hmem := List.mem_of_find?_eq_some hfind
    have hkey := List.find?_some hfind
    exact .inl ⟨r, List.mem_reverse.mp hmem, by simpa using hkey, rfl⟩
  | none =>
    refine .inr ⟨fun hid => ?_, _, rfl⟩
    obtain ⟨r, hr, rfl⟩ := List.mem_map.mp hid
    exact absurd (List.find?_eq_none.mp hfind r (List.mem_reverse.mpr hr)) (by simp)

/-- The pair of the session that is found. -/
def pairUnder (id : ι) : Option String × Option String :=
  match sessionUnder key sessions id with
  | .ok session => pairOf session
  | .error _ => (none, none)

variable {key sessions}

theorem pairUnder_of_ok {id : ι}
    (h : sessionUnder key sessions id = .ok session) : pairUnder key sessions id = pairOf session := by
  rw [pairUnder, h]

/-- The sessions can be looked up, if a pair stands for one session. -/
theorem lookup_pairUnder (hone : ∀ r ∈ sessions, ∀ r' ∈ sessions, pairOf r.session = pairOf r'.session →
    key r = key r') : Lookup sessions key (fun r => pairOf r.session) (pairUnder key sessions) where
  found r hr := by
    rcases sessionUnder_cases key sessions (key r) with ⟨r', hr', hkey, hok⟩ | ⟨hno, -⟩
    · exact ⟨r', hr', hkey, pairUnder_of_ok hok⟩
    · exact absurd (List.mem_map_of_mem hr) hno
  key_eq := hone

/-- Sessions are looked up for a list of ids when each id has one. -/
theorem settles_lookups (ids : List ι) (I : SessionTable → Prop) (hread : ∀ r ∈ sessions, AsRead r.session) :
    Settles I (Proc.liftExcept (ids.mapM (sessionUnder key sessions))) (∀ id ∈ ids, id ∈ sessions.map key)
      fun found t' => (found.map pairOf = ids.map (pairUnder key sessions) ∧ ∀ s ∈ found, AsRead s) ∧ I t' := by
  intro t' ht'
  have hcase : ∀ id, (id ∈ sessions.map key ∧ ∃ r ∈ sessions, sessionUnder key sessions id = .ok r.session) ∨
      id ∉ sessions.map key ∧ ∃ e, sessionUnder key sessions id = .error e := by
    intro id
    rcases sessionUnder_cases key sessions id with ⟨r, hr, rfl, hok⟩ | hno
    · exact .inl ⟨List.mem_map_of_mem hr, r, hr, hok⟩
    · exact .inr hno
  rcases mapM_cases (sessionUnder key sessions) ids with ⟨found, hfound, hall⟩ | ⟨⟨e, herr⟩, id, hid, e', hfail⟩
  · refine .inl ⟨fun id hid => ?_, found, t', by rw [hfound]; rfl, ⟨?_, ?_⟩, ht'⟩
    · rcases hcase id with ⟨hmem, -⟩ | ⟨-, e, hno⟩
      · exact hmem
      · obtain ⟨session, -, hok⟩ := exists_of_forall₂ hall hid
        rw [hno] at hok
        exact absurd hok (by simp)
    · refine map_eq_of_forall₂ (R := fun id s => sessionUnder key sessions id = .ok s) (fun id s hs => ?_) hall
      exact (pairUnder_of_ok hs).symm
    · refine forall_of_forall₂ (fun id s hs => ?_) hall
      rcases hcase id with ⟨-, r, hr, hok⟩ | ⟨-, e, hno⟩
      · rw [← Except.ok.inj (hok.symm.trans hs)]
        exact hread r hr
      · rw [hno] at hs
        exact absurd hs (by simp)
  · refine .inr ⟨fun hall => ?_, e, t', by rw [herr]; rfl⟩
    rcases hcase id with ⟨-, r, -, hok⟩ | ⟨hno, -⟩
    · rw [hfail] at hok
      exact absurd hok (by simp)
    · exact hno (hall id hid)

end Lookups

end ContainRes.VirtualDesktop.BatchOperations
