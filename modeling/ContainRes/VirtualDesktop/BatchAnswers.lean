import ContainRes.VirtualDesktop.BatchSteps

/-! # What the calls for many sessions answer

The runs of the four calls for sessions that were read: when they return, the pairs in the two lists of their
answers, and the rows that they leave.

* **`perm_of_split`** — the sessions with and without connections are all that were looked at.
* **`Answers`** — the pairs of an answer, and the rows that are kept.
* **`settles_stopRead`**, **`settles_resumeRead`**, **`settles_rebootRead`**, **`settles_terminateRead`** — the
  calls. -/

namespace ContainRes.VirtualDesktop.BatchOperations

open Effects
open Schedules Sessions

variable (hours : WorkingHours) {t : SessionTable} {requests : List Request} {sessions : List Requested}

/-! ## Sessions that are deleted through the broker -/

variable {κ : Type} [DecidableEq κ] (broker : DcvBroker κ) {split : Split} {toDelete : List Requested}

/-- The sessions that are accepted and those that are connected are all of them. -/
theorem perm_of_split
    (h : splitByConnections broker toDelete = .ok split) : (split.accepted ++ split.connected).Perm toDelete := by
  unfold splitByConnections at h
  obtain ⟨counted, hcounted, h⟩ := bind_eq_ok.mp h
  obtain rfl := Except.ok.inj h
  have hfst : counted.map Prod.fst = toDelete.filter fun r => !r.forced := by
    rcases getActiveCounts_cases broker (toDelete.filter fun r => !r.forced) with ⟨-, hok⟩ | ⟨-, e, herr⟩
    · rw [← Except.ok.inj (hok.symm.trans hcounted), map_fst_countedWith]
    · rw [herr] at hcounted
      exact absurd hcounted (by simp)
  have hpos : (counted.filter fun c => 0 < c.2) = counted.filter fun c => !decide (c.2 = 0) := by
    refine List.filter_congr fun c _ => ?_
    rw [← decide_not]
    exact decide_eq_decide.mpr (by omega)
  have hcount : ((counted.filter fun c => c.2 = 0).map Prod.fst ++
      (counted.filter fun c => 0 < c.2).map Prod.fst).Perm (toDelete.filter fun r => !r.forced) := by
    rw [← List.map_append, hpos, ← hfst]
    exact (List.filter_append_perm _ _).map _
  rw [List.append_assoc]
  exact (hcount.append_left _).trans (List.filter_append_perm _ _)

/-- What became of the deletion of the accepted sessions. -/
def deletionOf (split : Split) : Deletion := (deleteAccepted broker split.accepted).deletion

/-- Sessions are deleted when they can be split; those with connections are not successful. -/
theorem deleteSessions_eq (toDelete : List Requested) :
    deleteSessions broker toDelete = (splitByConnections broker toDelete).map fun split =>
      ⟨(deletionOf broker split).successful,
        split.connected.map Requested.dcvSessionId ++ (deletionOf broker split).unsuccessful⟩ := by
  cases toDelete with
  | nil => rfl
  | cons r rest =>
    rw [deleteSessions]
    · cases splitByConnections broker (r :: rest) <;> rfl
    · exact fun h => absurd h (List.cons_ne_nil _ _)

theorem deleteSessions_of_split (h : splitByConnections broker toDelete = .ok split) :
    deleteSessions broker toDelete = .ok ⟨(deletionOf broker split).successful,
      split.connected.map Requested.dcvSessionId ++ (deletionOf broker split).unsuccessful⟩ := by
  rw [deleteSessions_eq, h]
  rfl

/-- The sessions that the broker deleted are written back. -/
theorem settles_saveDeleted {pairs : List (Option String × Option String)} (state : VirtualDesktopSessionState)
    (hread : ∀ r ∈ toDelete, AsRead r.session) {ids : List (Option String)}
    (hpairs : ∀ id ∈ ids, pairUnder Requested.dcvSessionId toDelete id ∈ pairs) :
    Settles (Framed t pairs) (saveDeleted hours state toDelete ids)
      (∀ id ∈ ids, ∃ session, sessionUnder Requested.dcvSessionId toDelete id = .ok session ∧
        t.Has (keyOf session) ∧ WritesBack hours session)
      fun saved t' => (saved.map pairOf = ids.map (pairUnder Requested.dcvSessionId toDelete) ∧
        ∀ s ∈ saved, AsRead s) ∧ Framed t pairs t' := by
  have hround : ∀ id ∈ ids, Settles (Framed t pairs)
      (do let session ← Proc.liftExcept (sessionUnder Requested.dcvSessionId toDelete id)
          saveIn hours state session)
      (∃ session, sessionUnder Requested.dcvSessionId toDelete id = .ok session ∧
        t.Has (keyOf session) ∧ WritesBack hours session)
      fun saved t' => (pairOf saved = pairUnder Requested.dcvSessionId toDelete id ∧ AsRead saved) ∧
        Framed t pairs t' := by
    intro id hid
    rcases sessionUnder_cases Requested.dcvSessionId toDelete id with ⟨r, hr, -, hok⟩ | ⟨-, e, herr⟩
    · have hpair := pairUnder_of_ok hok
      have hsave := settles_saveIn hours (t := t) state (hread r hr) (hpair ▸ hpairs id hid)
      refine (Settles.bind_ok hok hsave).conseq ?_ (fun _ h => h) fun saved t' _ h => ?_
      · simp only [hok, Except.ok.injEq, exists_eq_left']
      · exact ⟨⟨h.1.1.trans hpair.symm, h.1.2.1⟩, h.2⟩
    · refine Settles.bind_error herr ?_
      rintro ⟨session, hok, -⟩
      rw [herr] at hok
      exact absurd hok (by simp)
  refine (Settles.collect hround).conseq Iff.rfl (fun _ h => h) fun saved t' _ h => ?_
  exact ⟨⟨map_eq_of_forall₂ (fun _ _ h => h.1) h.1, forall_of_forall₂ (fun _ _ h => h.2) h.1⟩, h.2⟩

/-- Sessions are written back one after the other. -/
theorem settles_saveAll {pairs : List (Option String × Option String)} (state : VirtualDesktopSessionState)
    {taken : List VirtualDesktopSession} (hread : ∀ s ∈ taken, AsRead s) (hpairs : ∀ s ∈ taken, pairOf s ∈ pairs) :
    Settles (Framed t pairs) (Proc.collect (saveIn hours state) taken)
      (∀ s ∈ taken, t.Has (keyOf s) ∧ WritesBack hours s)
      fun saved t' => (saved.map pairOf = taken.map pairOf ∧ (∀ s ∈ saved, AsRead s) ∧
        saved.map VirtualDesktopSession.server = taken.map VirtualDesktopSession.server) ∧ Framed t pairs t' := by
  have hround := fun s hs => settles_saveIn hours (t := t) state (hread s hs) (hpairs s hs)
  refine (Settles.collect hround).conseq Iff.rfl (fun _ h => h) fun saved t' _ h => ?_
  exact ⟨⟨map_eq_of_forall₂ (fun _ _ h => h.1) h.1, forall_of_forall₂ (fun _ _ h => h.2.1) h.1,
    map_eq_of_forall₂ (fun _ _ h => h.2.2) h.1⟩, h.2⟩

/-- Sessions are removed from a table that is framed. -/
theorem settles_removeFramed (hosts : Hosts) {ps : List (Option String × Option String)} {taken : List Requested}
    (hread : ∀ r ∈ taken, AsRead r.session) :
    Settles (Framed t ps) (Proc.collect (fun r : Requested => remove hosts r.session) taken)
      ((∀ r ∈ taken, hosts.cleanUp r.session = .ok ⟨⟩ ∧ t.Has (keyOf r.session)) ∧
        (taken.map fun r => keyOf r.session).Nodup)
      fun removed t' => (removed.map pairOf = taken.map (fun r => pairOf r.session) ∧ ∀ s ∈ removed, AsRead s) ∧
        ∀ key, (some key.1, some key.2) ∉ ps ++ taken.map (fun r => pairOf r.session) →
          t'.getItem key = t.getItem key := by
  intro s hs
  refine (settles_removeAll hosts hread s).conseq ?_ (fun _ h => h) (fun removed t' _ h => ⟨h.1, ?_⟩) s rfl
  · simp only [(hs _).1]
  · intro key hkey
    rw [List.mem_append, not_or] at hkey
    refine (h.2 key fun hmem => hkey.2 ?_).trans ((hs key).2 hkey.1)
    obtain ⟨r, hr, rfl⟩ := List.mem_map.mp hmem
    rw [← (hread r hr).pairOf_eq]
    exact List.mem_map_of_mem hr

/-! ## The calls for sessions that were read -/

/-- A pair in the lists of an answer. -/
abbrev Pair : Type := Option String × Option String

/-- The pairs of an answer, and the rows that are kept. -/
structure Answers (t : SessionTable) (success fail : List Pair) (response : Response) (t' : SessionTable) : Prop where
  success_eq : response.success.map pairOf = success
  fail_eq : response.fail.map pairOf = fail
  asRead : ∀ s ∈ response.success ++ response.fail, AsRead s
  kept : ∀ key, (some key.1, some key.2) ∉ success → t'.getItem key = t.getItem key

/-- The pairs of sessions. -/
def pairs (sessions : List Requested) : List Pair := sessions.map fun r => pairOf r.session

/-- The pairs of the sessions that the broker deleted. -/
def deletedPairs (toDelete : List Requested) (split : Split) : List Pair :=
  (deletionOf broker split).successful.map (pairUnder Requested.dcvSessionId toDelete)

/-- The ids of the DCV sessions that were not deleted. -/
def failedIds (split : Split) : List (Option String) :=
  split.connected.map Requested.dcvSessionId ++ (deletionOf broker split).unsuccessful

/-- The pairs of the sessions that were not deleted. -/
def failedPairs (toDelete : List Requested) (split : Split) : List Pair :=
  (failedIds broker split).map (pairUnder Requested.dcvSessionId toDelete)

/-- Every deleted session is one that was to be deleted, has its row and can be written back. -/
def DeletedSaved (t : SessionTable) (toDelete : List Requested) (split : Split) : Prop :=
  ∀ id ∈ (deletionOf broker split).successful, ∃ session,
    sessionUnder Requested.dcvSessionId toDelete id = .ok session ∧ t.Has (keyOf session) ∧ WritesBack hours session

variable (hosts : Hosts)

/-- The instances of the sessions that have no DCV session are stopped. -/
def stopHosts (withoutDcv : List Requested) : Except Exc PUnit.{1} :=
  hosts.stop ((withoutDcv.filter fun r => !r.session.hibernationEnabled).map fun r => r.session.server)
    ((withoutDcv.filter fun r => r.session.hibernationEnabled).map fun r => r.session.server)

/-- What `stop_sessions` answers for the sessions that were read. -/
theorem settles_stopRead (hread : ∀ r ∈ sessions, AsRead r.session)
    (hsplit : splitByConnections broker (stopSelection sessions).toDelete = .ok split) :
    Settles (· = t) (stopRead hours broker hosts sessions)
      (DeletedSaved hours broker t (stopSelection sessions).toDelete split ∧
        (∀ s ∈ (stopSelection sessions).withoutDcv.map Requested.session, t.Has (keyOf s) ∧ WritesBack hours s) ∧
        (∀ id ∈ failedIds broker split, id ∈ (stopSelection sessions).toDelete.map Requested.dcvSessionId) ∧
        (∃ u, stopHosts hosts (stopSelection sessions).withoutDcv = .ok u) ∧ True) (Answers t
        (deletedPairs broker (stopSelection sessions).toDelete split ++ pairs (stopSelection sessions).withoutDcv)
        (pairs (stopSelection sessions).wrongState ++ failedPairs broker (stopSelection sessions).toDelete split)) := by
  have htoDelete : ∀ r ∈ (stopSelection sessions).toDelete, AsRead r.session := fun r hr =>
    hread r (List.mem_filter.mp (List.mem_filter.mp hr).1).1
  have hwithout : ∀ s ∈ (stopSelection sessions).withoutDcv.map Requested.session, AsRead s :=
    List.forall_mem_map.mpr fun r hr => hread r (List.mem_filter.mp (List.mem_filter.mp hr).1).1
  have hwrong : ∀ r ∈ (stopSelection sessions).wrongState, AsRead r.session := fun r hr =>
    hread r (List.mem_filter.mp hr).1
  refine Settles.conseq (I := Framed t (deletedPairs broker (stopSelection sessions).toDelete split ++
    pairs (stopSelection sessions).withoutDcv)) ?_ Iff.rfl (fun s h => h.symm ▸ framed_refl _ _) fun _ _ _ h => h
  unfold stopRead
  refine Settles.bind_ok (deleteSessions_of_split broker hsplit) ?_
  refine Settles.bind (settles_saveDeleted hours .stopping htoDelete fun id hid =>
    List.mem_append_left _ (List.mem_map_of_mem hid)) fun deleted hdeleted => ?_
  refine Settles.bind (settles_saveAll hours .stopping hwithout (List.forall_mem_map.mpr fun r hr =>
    List.mem_append_right _ (List.mem_map_of_mem hr))) fun stopped hstopped => ?_
  refine Settles.bind (settles_lookups _ _ htoDelete) fun failed hfailed => ?_
  refine Settles.bind (Settles.liftExcept _) fun _ _ => Settles.pure fun s hs => ⟨?_, ?_, ?_, fun key => (hs key).2⟩
  · rw [List.map_append, hdeleted.1, hstopped.1, List.map_map]
    rfl
  · rw [List.map_append, hfailed.1, List.map_map]
    rfl
  · simp only [List.forall_mem_append, List.forall_mem_map]
    exact ⟨⟨hdeleted.2, hstopped.2.1⟩, hwrong, hfailed.2⟩

/-- What `terminate_sessions` answers for the sessions that were read. -/
theorem settles_terminateRead (hread : ∀ r ∈ sessions, AsRead r.session)
    (hsplit : splitByConnections broker (terminateSelection sessions).toDelete = .ok split) :
    Settles (· = t) (terminateRead hours broker hosts sessions)
      (DeletedSaved hours broker t (terminateSelection sessions).toDelete split ∧
        ((terminateSelection sessions).withoutDcv ≠ [] →
          hosts.terminate ((terminateSelection sessions).withoutDcv.map fun r => r.session.server) = .ok ⟨⟩) ∧
        ((∀ r ∈ (terminateSelection sessions).withoutDcv, hosts.cleanUp r.session = .ok ⟨⟩ ∧ t.Has (keyOf r.session)) ∧
            ((terminateSelection sessions).withoutDcv.map fun r => keyOf r.session).Nodup) ∧
        (∀ id ∈ failedIds broker split, id ∈ (terminateSelection sessions).toDelete.map Requested.dcvSessionId) ∧ True)
      (Answers t (deletedPairs broker (terminateSelection sessions).toDelete split ++
          pairs (terminateSelection sessions).withoutDcv) (pairs (terminateSelection sessions).wrongState ++
          failedPairs broker (terminateSelection sessions).toDelete split)) := by
  have htoDelete : ∀ r ∈ (terminateSelection sessions).toDelete, AsRead r.session := fun r hr =>
    hread r (List.mem_filter.mp hr).1
  have hwithout : ∀ r ∈ (terminateSelection sessions).withoutDcv, AsRead r.session := fun r hr =>
    hread r (List.mem_filter.mp hr).1
  refine Settles.conseq (I := Framed t (deletedPairs broker (terminateSelection sessions).toDelete split)) ?_ Iff.rfl
    (fun s h => h.symm ▸ framed_refl _ _) fun _ _ _ h => h
  unfold terminateRead
  refine Settles.bind_ok (deleteSessions_of_split broker hsplit) ?_
  refine Settles.bind (settles_saveDeleted hours .deleting htoDelete fun id hid => List.mem_map_of_mem hid)
    fun deleted hdeleted => ?_
  refine Settles.bind (Settles.whenLift _) fun _ _ => ?_
  refine Settles.bind (settles_removeFramed hosts hwithout) fun removed hremoved => ?_
  refine Settles.bind (settles_lookups _ _ htoDelete) fun failed hfailed => ?_
  refine Settles.pure fun s hs => ⟨?_, ?_, ?_, hs⟩
  · rw [List.map_append, hdeleted.1, hremoved.1]
    rfl
  · rw [List.map_append, hfailed.1]
    rfl
  · simp only [List.forall_mem_append, List.forall_mem_map]
    exact ⟨⟨hdeleted.2, hremoved.2⟩, fun r hr => absurd hr List.not_mem_nil, hfailed.2⟩

/-- What `reboot_sessions` answers for the sessions that were read. -/
theorem settles_rebootRead (hread : ∀ r ∈ sessions, AsRead r.session)
    (hsplit : splitByConnections broker (sessions.filter rebootable) = .ok split) :
    Settles (· = t) (rebootRead hours broker hosts sessions)
      ((∀ s ∈ split.accepted.map Requested.session, t.Has (keyOf s) ∧ WritesBack hours s) ∧
        (split.accepted ≠ [] → hosts.reboot (split.accepted.map fun r => r.session.server) = .ok ⟨⟩) ∧ True)
      (Answers t (pairs split.accepted) (pairs (sessions.filter fun r => !rebootable r) ++ pairs split.connected)) := by
  have hmem : ∀ r ∈ split.accepted ++ split.connected, AsRead r.session := fun r hr =>
    hread r (List.mem_filter.mp ((perm_of_split broker hsplit).mem_iff.mp hr)).1
  obtain ⟨haccepted, hconnected⟩ := List.forall_mem_append.mp hmem
  refine Settles.conseq (I := Framed t (pairs split.accepted)) ?_ Iff.rfl (fun s h => h.symm ▸ framed_refl _ _)
    fun _ _ _ h => h
  unfold rebootRead
  refine Settles.bind_ok hsplit ?_
  refine Settles.bind (settles_saveAll hours .resuming (List.forall_mem_map.mpr haccepted)
    (List.forall_mem_map.mpr fun r hr => List.mem_map_of_mem hr)) fun rebooted hrebooted => ?_
  have hservers : rebooted.map (fun s => s.server) = split.accepted.map fun r => r.session.server := by
    rw [hrebooted.2.2, List.map_map]
    rfl
  have hne : rebooted ≠ [] ↔ split.accepted ≠ [] := by
    rw [← List.length_pos_iff, ← List.length_pos_iff, ← List.length_map (f := fun s => s.server), hservers,
      List.length_map]
  refine Settles.bind ((Settles.whenLift _).conseq (by rw [hservers, hne]) (fun _ h => h) fun _ _ _ h => h)
    fun _ _ => Settles.pure fun s hs => ⟨?_, ?_, ?_, fun key => (hs key).2⟩
  · rw [hrebooted.1, List.map_map]
    rfl
  · rw [List.map_append, List.map_map, List.map_map]
    rfl
  · simp only [List.forall_mem_append, List.forall_mem_map]
    exact ⟨hrebooted.2.1, fun r hr => hread r (List.mem_filter.mp hr).1, hconnected⟩

/-- The sessions that `resume_sessions` starts. -/
def stoppedOf (sessions : List Requested) : List Requested := sessions.filter fun r => r.session.state = .stopped

/-- The pairs of the sessions that are found under the instances that are started. -/
def startedPairs (sessions : List Requested) : List Pair :=
  ((stoppedOf sessions).map Requested.instanceId).map (pairUnder Requested.instanceId (stoppedOf sessions))

/-- The pairs of the sessions that are not stopped. -/
def notStopped (sessions : List Requested) : List Pair := pairs (sessions.filter fun r => r.session.state ≠ .stopped)

/-- What `resume_sessions` answers for the sessions that were read. -/
theorem settles_resumeRead (hread : ∀ r ∈ sessions, AsRead r.session) {started : Bool}
    (hstart : hosts.start ((stoppedOf sessions).map fun r => r.session.server) = .ok started) :
    Settles (· = t) (resumeRead hours hosts sessions) (started = true → ∀ r ∈ stoppedOf sessions, ∃ session,
        sessionUnder Requested.instanceId (stoppedOf sessions) r.instanceId = .ok session ∧
          t.Has (keyOf session) ∧ WritesBack hours session) (Answers t (if started then startedPairs sessions else [])
        (notStopped sessions ++ if started then [] else startedPairs sessions)) := by
  have hstopped : ∀ r ∈ stoppedOf sessions, AsRead r.session := fun r hr => hread r (List.mem_filter.mp hr).1
  have hwrong : ∀ r ∈ sessions.filter fun r => r.session.state ≠ .stopped, AsRead r.session := fun r hr =>
    hread r (List.mem_filter.mp hr).1
  -- Every instance that is started has a session.
  obtain ⟨mapped, hmapped, hall⟩ := (mapM_cases (sessionUnder Requested.instanceId (stoppedOf sessions))
    ((stoppedOf sessions).map Requested.instanceId)).resolve_right (by
      rintro ⟨-, id, hid, e, herr⟩
      rcases sessionUnder_cases Requested.instanceId (stoppedOf sessions) id with ⟨r, -, -, hok⟩ | ⟨hno, -⟩
      · rw [hok] at herr
        exact absurd herr (by simp)
      · exact hno hid)
  have hpairs : mapped.map pairOf = startedPairs sessions :=
    map_eq_of_forall₂ (R := fun id s => sessionUnder Requested.instanceId (stoppedOf sessions) id = .ok s)
      (fun id s h => (pairUnder_of_ok h).symm) hall
  have hmem : ∀ id s, sessionUnder Requested.instanceId (stoppedOf sessions) id = .ok s → AsRead s := by
    intro id s hs
    rcases sessionUnder_cases Requested.instanceId (stoppedOf sessions) id with ⟨r, hr, -, hok⟩ | ⟨-, e, herr⟩
    · rw [← Except.ok.inj (hok.symm.trans hs)]
      exact hstopped r hr
    · rw [herr] at hs
      exact absurd hs (by simp)
  have hasRead : ∀ s ∈ mapped, AsRead s := forall_of_forall₂ hmem hall
  have hcond : (∀ s ∈ mapped, t.Has (keyOf s) ∧ WritesBack hours s) ↔ ∀ r ∈ stoppedOf sessions, ∃ session,
      sessionUnder Requested.instanceId (stoppedOf sessions) r.instanceId = .ok session ∧
        t.Has (keyOf session) ∧ WritesBack hours session := by
    constructor
    · intro h r hr
      obtain ⟨s, hs, hok⟩ := exists_of_forall₂ hall (List.mem_map_of_mem hr)
      exact ⟨s, hok, h s hs⟩
    · intro h
      have hboth := (List.forall₂_and_left (p := (· ∈ (stoppedOf sessions).map Requested.instanceId)) _ _).mpr
        ⟨fun _ h => h, hall⟩
      refine forall_of_forall₂ (fun id s hs => ?_) hboth
      obtain ⟨r, hr, rfl⟩ := List.mem_map.mp hs.1
      obtain ⟨session, hok, hgood⟩ := h r hr
      rwa [← Except.ok.inj (hok.symm.trans hs.2)]
  unfold resumeRead
  refine Settles.bind_ok hstart (Settles.bind_ok hmapped ?_)
  cases started with
  | true =>
    simp only [if_true, List.append_nil, forall_true_left]
    rw [← hcond, ← hpairs]
    refine Settles.conseq (I := Framed t (mapped.map pairOf)) ?_ (iff_of_eq (and_true _))
      (fun s h => h.symm ▸ framed_refl _ _) fun _ _ _ h => h
    refine Settles.bind (settles_saveAll hours .resuming hasRead fun s hs => List.mem_map_of_mem hs)
      fun resumed hresumed => Settles.pure fun s hs => ⟨hresumed.1, List.map_map, ?_, fun key => (hs key).2⟩
    simp only [List.forall_mem_append, List.forall_mem_map]
    exact ⟨hresumed.2.1, hwrong⟩
  | false =>
    simp only [Bool.false_eq_true, if_false, false_implies]
    rw [← hpairs]
    refine Settles.pure fun s hs => ⟨rfl, ?_, ?_, fun key _ => hs ▸ rfl⟩
    · rw [List.map_append, List.map_map]
      rfl
    · simp only [List.forall_mem_append, List.forall_mem_map]
      exact ⟨fun s hs => absurd hs List.not_mem_nil, hwrong, hasRead⟩

end ContainRes.VirtualDesktop.BatchOperations
