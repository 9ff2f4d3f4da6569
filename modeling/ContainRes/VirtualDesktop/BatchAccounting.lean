import ContainRes.VirtualDesktop.BatchAnswers

/-! # The answer of a call for many sessions

Every request is to be found again in one of the two lists of the answer.

* **`Accounted`** — every requested pair is in exactly one of the lists, as often as it was requested; what the call
  does not accept is among the failures, and the rows of the failures are as they were.
* **`Accountable`** — the condition on the requests, the rows, the broker and EC2.
* **`accounts_iff`** — the calls account for their requests exactly under the condition.
* **`sparesOthers_run`** — the rows that no request names stay as they are. -/

namespace ContainRes.VirtualDesktop.BatchOperations

open Effects Store Text
open Schedules Sessions

variable (hours : WorkingHours) {t : SessionTable} {requests : List Request} {sessions : List Requested}

/-! ## What is asked of an answer -/

/-- The answer accounts for the requests: the pairs of the two lists are those that were requested, as often, and no
pair is in both. -/
structure Accounted (t : SessionTable) (accepts : VirtualDesktopSessionState → Bool) (requests : List Request)
    (response : Response) (t' : SessionTable) : Prop where
  every : (response.success.map pairOf ++ response.fail.map pairOf).Perm (requests.map Request.pair)
  apart : (response.success.map pairOf).Disjoint (response.fail.map pairOf)
  /-- An unknown pair is in the list of the failures. -/
  unknown : ∀ request ∈ requests, readOf hours t request = .ok none → request.pair ∈ response.fail.map pairOf
  /-- And so is a session in a state that the call does not accept. -/
  unaccepted : ∀ request ∈ requests, ∀ session, readOf hours t request = .ok (some session) →
    accepts session.state = false → request.pair ∈ response.fail.map pairOf
  unchanged : ∀ session ∈ response.fail, t'.getItem (keyOf session) = t.getItem (keyOf session)

/-- A session that was read for a request, under the pair as it was requested. -/
def Found (t : SessionTable) (request : Request) (r : Requested) : Prop :=
  ReadFor hours t request r ∧ pairOf r.session = request.pair

theorem readOf_of_pair {request request' : Request} (h : request.pair = request'.pair) :
    readOf hours t request = readOf hours t request' := by
  have howner : request.owner = request'.owner := congrArg Prod.fst h
  have hid : request.ideaSessionId = request'.ideaSessionId := congrArg Prod.snd h
  rw [readOf, howner, hid, readOf]

theorem Found.session_eq {request request' : Request} {r r' : Requested} (h : Found hours t request r)
    (h' : Found hours t request' r') (hpair : pairOf r.session = pairOf r'.session) : r.session = r'.session := by
  have hsame := readOf_of_pair hours (t := t) (h.2.symm.trans (hpair.trans h'.2))
  rw [h.1.1, h'.1.1] at hsame
  exact Option.some.inj (Except.ok.inj hsame)

variable {r : Requested}

/-- A session that was found has its row under its own key. -/
theorem Found.has {request : Request} (h : Found hours t request r) : t.Has (keyOf r.session) := by
  obtain ⟨key, row, hpair, hrow, -, hread, -⟩ := exists_row_of_readOf hours h.1.1
  have hkey : keyOf r.session = key := by
    have heq := hread.pairOf_eq.symm.trans (h.2.trans hpair)
    exact Prod.ext (Option.some.inj (congrArg Prod.fst heq)) (Option.some.inj (congrArg Prod.snd heq))
  rw [hkey]
  exact Table.Has.of_getItem hrow

/-- A request for a stripped pair finds the session under it. -/
theorem found_of_stripped {request : Request} (h : ReadFor hours t request r)
    (howner : getAsString request.pair.1 = request.pair.1) (hid : getAsString request.pair.2 = request.pair.2) :
    Found hours t request r := by
  obtain ⟨key, row, hpair, -, hstrip, -, -⟩ := exists_row_of_readOf hours h.1
  have hfix : ∀ s, getAsString (some s) = some s → strip s = s := by
    intro s hs
    by_cases hblank : isEmpty s = true
    · exact absurd hs (by simp [getAsString, hblank])
    · exact Option.some.inj ((getAsString_of_nonblank (by simpa using hblank)).symm.trans hs)
  rw [hpair] at howner hid
  refine ⟨h, ?_⟩
  rw [hstrip, hpair, hfix _ howner, hfix _ hid]

theorem map_pairOf_of_found (h : List.Forall₂ (Found hours t) requests sessions) :
    sessions.map (fun r => pairOf r.session) = requests.map Request.pair := by
  induction h with
  | nil => rfl
  | cons hfirst _ ih => rw [List.map_cons, List.map_cons, ih, hfirst.2]

/-- When the pairs of the answer are those that were requested, all were found under their pairs. -/
theorem found_of_perm (hread : List.Forall₂ (ReadFor hours t) requests sessions) {answered : List VirtualDesktopSession}
    (hanswered : ∀ s ∈ answered, AsRead s) (hperm : (answered.map pairOf).Perm (requests.map Request.pair)) :
    List.Forall₂ (Found hours t) requests sessions := by
  have hstripped : ∀ request ∈ requests, getAsString request.pair.1 = request.pair.1 ∧
      getAsString request.pair.2 = request.pair.2 := by
    intro request hmem
    obtain ⟨s, hs, heq⟩ := List.mem_map.mp (hperm.mem_iff.mpr (List.mem_map_of_mem hmem))
    rw [← heq]
    exact (hanswered s hs).stripped
  clear hperm
  induction hread with
  | nil => exact .nil
  | cons hfirst _ ih =>
    obtain ⟨⟨howner, hid⟩, hrest⟩ := List.forall_mem_cons.mp hstripped
    exact .cons (found_of_stripped hours hfirst howner hid) (ih hrest)

/-- **The account of an answer.** What is left to show of an answer whose rows are framed. -/
theorem accounted_response_iff {accepts : VirtualDesktopSessionState → Bool} {response : Response}
    {t' : SessionTable} (hread : List.Forall₂ (ReadFor hours t) requests sessions)
    (hasRead : ∀ s ∈ response.success ++ response.fail, AsRead s)
    (hframe : ∀ key, (some key.1, some key.2) ∉ response.success.map pairOf → t'.getItem key = t.getItem key)
    (hwrong : ∀ r ∈ sessions, accepts r.session.state = false → pairOf r.session ∈ response.fail.map pairOf) :
    Accounted hours t accepts requests response t' ↔ List.Forall₂ (Found hours t) requests sessions ∧
        (response.success.map pairOf ++ response.fail.map pairOf).Perm (sessions.map fun r => pairOf r.session) ∧
        (response.success.map pairOf).Disjoint (response.fail.map pairOf) := by
  constructor
  · intro h
    have hfound := found_of_perm hours hread hasRead (by rw [List.map_append]; exact h.every)
    exact ⟨hfound, by rw [map_pairOf_of_found hours hfound]; exact h.every, h.apart⟩
  · rintro ⟨hfound, hperm, hapart⟩
    have hsession : ∀ request ∈ requests, ∃ r ∈ sessions, Found hours t request r := fun request hmem =>
      exists_of_forall₂ hfound hmem
    refine ⟨by rw [← map_pairOf_of_found hours hfound]; exact hperm, hapart, ?_, ?_, ?_⟩
    · intro request hmem hnone
      obtain ⟨r, -, hr⟩ := hsession request hmem
      rw [hr.1.1] at hnone
      exact absurd hnone (by simp)
    · intro request hmem session hsome hstate
      obtain ⟨r, hr, hfoundr⟩ := hsession request hmem
      rw [hfoundr.1.1] at hsome
      obtain rfl := Option.some.inj (Except.ok.inj hsome)
      rw [← hfoundr.2]
      exact hwrong r hr hstate
    · intro session hmem
      refine hframe _ fun hsuccess => hapart hsuccess ?_
      rw [← (hasRead session (List.mem_append_right _ hmem)).pairOf_eq]
      exact List.mem_map_of_mem hmem

variable {κ : Type} [DecidableEq κ] (broker : DcvBroker κ) (hosts : Hosts)

/-! ## When an answer accounts for the requests -/

/-- Parts of two lists that come from different parts of all do not matter. -/
theorem perm_disjoint_iff {α : Type} [DecidableEq α] {all success fail wrong without rest : List α}
    (hall : all.Perm (wrong ++ without ++ rest)) (hsuccess : ∀ x ∈ success, x ∈ rest) (hfail : ∀ x ∈ fail, x ∈ rest)
    (hwrong : wrong.Disjoint without) (hwrong' : wrong.Disjoint rest) (hwithout : without.Disjoint rest) :
    (((success ++ without) ++ (wrong ++ fail)).Perm all ∧ (success ++ without).Disjoint (wrong ++ fail)) ↔
      (success ++ fail).Perm rest ∧ success.Disjoint fail := by
  refine and_congr ?_ ?_
  · rw [List.perm_iff_count, List.perm_iff_count]
    refine forall_congr' fun a => ?_
    have hcount := List.perm_iff_count.mp hall a
    simp only [List.count_append] at hcount ⊢
    omega
  · simp only [List.disjoint_append_left, List.disjoint_append_right]
    constructor
    · exact fun h => h.2.1
    · intro h
      exact ⟨⟨fun x hx hx' => hwrong' hx' (hsuccess x hx), hwrong.symm⟩, h, fun x hx hx' => hwithout hx (hfail x hx')⟩

/-- What the broker answers to the deletion of sessions accounts for them. -/
structure Answered (toDelete : List Requested) (split : Split) : Prop where
  /-- A DCV session belongs to one session. -/
  one : ∀ r ∈ toDelete, ∀ r' ∈ toDelete, r.dcvSessionId = r'.dcvSessionId → pairOf r.session = pairOf r'.session
  /-- The broker answers for each DCV session that it is asked to delete, and for no other. -/
  each : ((deletionOf broker split).successful ++ (deletionOf broker split).unsuccessful).Perm
    (split.accepted.map Requested.dcvSessionId)
  /-- No DCV session is deleted that is also kept. -/
  apart : (deletionOf broker split).successful.Disjoint (failedIds broker split)
  /-- What is deleted can be written back. -/
  writesBack : ∀ r ∈ toDelete, r.dcvSessionId ∈ (deletionOf broker split).successful → WritesBack hours r.session

/-- Sessions that were found for requests. -/
def AllFound (t : SessionTable) (sessions : List Requested) : Prop :=
  ∀ r ∈ sessions, ∃ request, Found hours t request r

variable {hours}

theorem AllFound.session_eq (h : AllFound hours t sessions) {r r' : Requested} (hr : r ∈ sessions)
    (hr' : r' ∈ sessions) (hpair : pairOf r.session = pairOf r'.session) : r.session = r'.session := by
  obtain ⟨request, hfound⟩ := h r hr
  obtain ⟨request', hfound'⟩ := h r' hr'
  exact hfound.session_eq hours hfound' hpair

theorem AllFound.has (h : AllFound hours t sessions) (hr : r ∈ sessions) : t.Has (keyOf r.session) := by
  obtain ⟨request, hfound⟩ := h r hr
  exact hfound.has hours

/-- Sessions that are told apart by a test have different pairs. -/
theorem AllFound.disjoint (h : AllFound hours t sessions) {p q : VirtualDesktopSession → Bool}
    (hpq : ∀ s, p s = true → q s = false) :
    (pairs (sessions.filter fun r => p r.session)).Disjoint (pairs (sessions.filter fun r => q r.session)) := by
  intro pair hp hq
  obtain ⟨r, hr, rfl⟩ := List.mem_map.mp hp
  obtain ⟨r', hr', heq⟩ := List.mem_map.mp hq
  obtain ⟨hr, hpr⟩ := List.mem_filter.mp hr
  obtain ⟨hr', hqr⟩ := List.mem_filter.mp hr'
  rw [h.session_eq hr' hr heq, hpq _ hpr] at hqr
  exact absurd hqr (by simp)

theorem AllFound.lookup {ι : Type} [DecidableEq ι] {key : Requested → ι} (h : AllFound hours t sessions)
    (hkey : ∀ r r' : Requested, r.session = r'.session → key r = key r') :
    Lookup sessions key (fun r => pairOf r.session) (pairUnder key sessions) :=
  lookup_pairUnder fun r hr r' hr' hpair => hkey r r' (h.session_eq hr hr' hpair)

variable (hours)

/-- The deletion accounts for the sessions exactly when the broker's answer does. -/
theorem answered_iff {toDelete : List Requested} (hfound : AllFound hours t toDelete) {split : Split}
    (hsplit : splitByConnections broker toDelete = .ok split) : (DeletedSaved hours broker t toDelete split ∧
        (∀ id ∈ failedIds broker split, id ∈ toDelete.map Requested.dcvSessionId) ∧
        (deletedPairs broker toDelete split ++ failedPairs broker toDelete split).Perm (pairs toDelete) ∧
        (deletedPairs broker toDelete split).Disjoint (failedPairs broker toDelete split)) ↔
      Answered hours broker toDelete split := by
  have hlookup : Lookup toDelete Requested.dcvSessionId (fun r => pairOf r.session)
      (pairUnder Requested.dcvSessionId toDelete) := hfound.lookup fun r r' h => congrArg (·.dcvSessionId) h
  have hids : ((deletionOf broker split).successful ++ failedIds broker split).Perm
      (toDelete.map Requested.dcvSessionId) ↔
        ((deletionOf broker split).successful ++ (deletionOf broker split).unsuccessful).Perm
          (split.accepted.map Requested.dcvSessionId) := by
    have hperm := (perm_of_split broker hsplit).map Requested.dcvSessionId
    rw [List.map_append] at hperm
    rw [List.perm_iff_count, List.perm_iff_count]
    refine forall_congr' fun id => ?_
    have hcount := List.perm_iff_count.mp hperm id
    simp only [failedIds, List.count_append] at hcount ⊢
    omega
  rw [deletedPairs, failedPairs, ← List.map_append, pairs]
  constructor
  · rintro ⟨hsaved, hfailed, hperm, hapart⟩
    have hdeleted : ∀ id ∈ (deletionOf broker split).successful, id ∈ toDelete.map Requested.dcvSessionId := by
      intro id hid
      obtain ⟨session, hok, -⟩ := hsaved id hid
      rcases sessionUnder_cases Requested.dcvSessionId toDelete id with ⟨r, hr, rfl, -⟩ | ⟨-, e, herr⟩
      · exact List.mem_map_of_mem hr
      · rw [herr] at hok
        exact absurd hok (by simp)
    obtain ⟨hone, heach⟩ := (hlookup.map_perm_iff (List.forall_mem_append.mpr ⟨hdeleted, hfailed⟩)).mp hperm
    refine ⟨hone, hids.mp heach, (hlookup.disjoint_map_iff hdeleted hfailed).mp hapart, fun r hr hid => ?_⟩
    obtain ⟨session, hok, -, hback⟩ := hsaved _ hid
    rcases sessionUnder_cases Requested.dcvSessionId toDelete r.dcvSessionId with ⟨r', hr', hsame, hok'⟩ | ⟨hno, -⟩
    · rw [hfound.session_eq hr hr' (hone r hr r' hr' hsame.symm)]
      rwa [← Except.ok.inj (hok.symm.trans hok')]
    · exact absurd (List.mem_map_of_mem hr) hno
  · intro h
    have heach := hids.mpr h.each
    have hmem : ∀ id ∈ (deletionOf broker split).successful ++ failedIds broker split,
        id ∈ toDelete.map Requested.dcvSessionId := fun id hid => heach.mem_iff.mp hid
    obtain ⟨hdeleted, hfailed⟩ := List.forall_mem_append.mp hmem
    refine ⟨fun id hid => ?_, hfailed, (hlookup.map_perm_iff hmem).mpr ⟨h.one, heach⟩,
      (hlookup.disjoint_map_iff hdeleted hfailed).mpr h.apart⟩
    rcases sessionUnder_cases Requested.dcvSessionId toDelete id with ⟨r, hr, rfl, hok⟩ | ⟨hno, -⟩
    · exact ⟨r.session, hok, hfound.has hr, h.writesBack r hr hid⟩
    · exact absurd (hdeleted id hid) hno

/-- The sessions are sorted: each goes to one of the parts, by what the session is. -/
structure Selection.Sorted (selection : Selection) (sessions : List Requested) : Prop where
  perm : (pairs sessions).Perm (pairs selection.wrongState ++ pairs selection.withoutDcv ++ pairs selection.toDelete)
  mem : ∀ r ∈ selection.toDelete, r ∈ sessions
  apart : ∀ {hours : WorkingHours} {t : SessionTable}, AllFound hours t sessions →
    (pairs selection.wrongState).Disjoint (pairs selection.withoutDcv) ∧
      (pairs selection.wrongState).Disjoint (pairs selection.toDelete) ∧
        (pairs selection.withoutDcv).Disjoint (pairs selection.toDelete)

/-- The pairs that are looked up for ids of sessions are theirs. -/
theorem mem_pairs_of_ids {toDelete : List Requested} {ids : List (Option String)}
    (h : ∀ id ∈ ids, id ∈ toDelete.map Requested.dcvSessionId) :
    ∀ pair ∈ ids.map (pairUnder Requested.dcvSessionId toDelete), pair ∈ pairs toDelete := by
  intro pair hpair
  obtain ⟨id, hid, rfl⟩ := List.mem_map.mp hpair
  rcases sessionUnder_cases Requested.dcvSessionId toDelete id with ⟨r, hr, -, hok⟩ | ⟨hno, -⟩
  · rw [pairUnder_of_ok hok]
    exact List.mem_map_of_mem hr
  · exact absurd (h id hid) hno

/-- A call that goes through the broker accounts for its sessions exactly when the broker's answer does. -/
theorem selectionAnswered_iff {selection : Selection} (hfound : AllFound hours t sessions)
    (hsorted : selection.Sorted sessions) {split : Split}
    (hsplit : splitByConnections broker selection.toDelete = .ok split) :
    (DeletedSaved hours broker t selection.toDelete split ∧
        (∀ id ∈ failedIds broker split, id ∈ selection.toDelete.map Requested.dcvSessionId) ∧
        ((deletedPairs broker selection.toDelete split ++ pairs selection.withoutDcv) ++
          (pairs selection.wrongState ++ failedPairs broker selection.toDelete split)).Perm (pairs sessions) ∧
        (deletedPairs broker selection.toDelete split ++ pairs selection.withoutDcv).Disjoint
          (pairs selection.wrongState ++ failedPairs broker selection.toDelete split)) ↔
      Answered hours broker selection.toDelete split := by
  rw [← answered_iff hours broker (fun r hr => hfound r (hsorted.mem r hr)) hsplit]
  refine and_congr_right fun hsaved => and_congr_right fun hfailed => ?_
  have hdeleted : ∀ id ∈ (deletionOf broker split).successful,
      id ∈ selection.toDelete.map Requested.dcvSessionId := by
    intro id hid
    obtain ⟨session, hok, -⟩ := hsaved id hid
    rcases sessionUnder_cases Requested.dcvSessionId selection.toDelete id with ⟨r, hr, rfl, -⟩ | ⟨-, e, herr⟩
    · exact List.mem_map_of_mem hr
    · rw [herr] at hok
      exact absurd hok (by simp)
  obtain ⟨hwrong, hwrong', hwithout⟩ := hsorted.apart hfound
  exact perm_disjoint_iff hsorted.perm (mem_pairs_of_ids hdeleted) (mem_pairs_of_ids hfailed) hwrong hwrong' hwithout

/-- A run whose answer accounts for the requests. -/
def Accounts (t : SessionTable) (accepts : VirtualDesktopSessionState → Bool) (requests : List Request)
    (c : Proc SessionTable Exc Response) : Prop :=
  ∃ response t', Proc.Returns c t response t' ∧ Accounted hours t accepts requests response t'

variable {accepts : VirtualDesktopSessionState → Bool}

/-- The account of what is known to be answered for the sessions that were read. -/
theorem accounts_iff_of_settles (hread : List.Forall₂ (ReadFor hours t) requests sessions)
    {c : Proc SessionTable Exc Response} {C : Prop} {success fail : List Pair}
    (h : Settles (· = t) c C (Answers t success fail))
    (hwrong : ∀ r ∈ sessions, accepts r.session.state = false → pairOf r.session ∈ fail) :
    Accounts hours t accepts requests c ↔
      C ∧ List.Forall₂ (Found hours t) requests sessions ∧ (success ++ fail).Perm (pairs sessions) ∧
        success.Disjoint fail := by
  have hresponse : ∀ response t', Answers t success fail response t' →
      (Accounted hours t accepts requests response t' ↔ List.Forall₂ (Found hours t) requests sessions ∧
        (success ++ fail).Perm (pairs sessions) ∧ success.Disjoint fail) := by
    rintro response t' ⟨rfl, rfl, hasRead, hkept⟩
    exact accounted_response_iff hours hread hasRead hkept hwrong
  unfold Accounts
  rcases h t rfl with ⟨hC, response, t', hrun, hanswers⟩ | ⟨hC, e, t', hrun⟩
  · rw [and_iff_right hC, ← hresponse response t' hanswers]
    constructor
    · rintro ⟨response', t'', hrun', haccounted⟩
      have heq := hrun.symm.trans hrun'
      rwa [Except.ok.inj (congrArg Prod.fst heq), show t' = t'' from congrArg Prod.snd heq]
    · exact fun haccounted => ⟨response, t', hrun, haccounted⟩
  · refine iff_of_false ?_ fun hall => hC hall.1
    rintro ⟨response', t'', hrun', -⟩
    exact absurd (congrArg Prod.fst (hrun.symm.trans hrun')) (by simp)

theorem not_accounts_of_error {c : Proc SessionTable Exc Response} {e : Exc} {t' : SessionTable}
    (h : c.run t = (.error e, t')) : ¬ Accounts hours t accepts requests c := by
  rintro ⟨response, t'', hrun, -⟩
  exact absurd (congrArg Prod.fst (h.symm.trans hrun)) (by simp)

/-- The sessions that are found for requests are determined. -/
theorem sessions_unique {sessions' : List Requested} (h : List.Forall₂ (ReadFor hours t) requests sessions)
    (h' : List.Forall₂ (ReadFor hours t) requests sessions') : sessions = sessions' := by
  induction h generalizing sessions' with
  | nil => exact (List.forall₂_nil_left_iff.mp h').symm
  | cons hfirst _ ih =>
    cases h' with
    | cons hfirst' hrest' =>
      rename_i r _ _ _ r' _
      have hsession : r.session = r'.session := Option.some.inj (Except.ok.inj (hfirst.1.symm.trans hfirst'.1))
      have hforce : r.force = r'.force := hfirst.2.trans hfirst'.2.symm
      rw [ih hrest']
      congr 1
      cases r
      cases r'
      exact congr (congrArg Requested.mk hsession) hforce

/-- The account of a call, when that of the sessions that were read is known. -/
theorem accounts_readRequests_iff (check : VirtualDesktopSession → Except Exc PUnit)
    {rest : List Requested → Proc SessionTable Exc Response} {P : List Requested → Prop}
    (h : ∀ sessions, List.Forall₂ (ReadFor hours t) requests sessions → (∀ r ∈ sessions, check r.session = .ok ⟨⟩) →
      (Accounts hours t accepts requests (rest sessions) ↔
        List.Forall₂ (Found hours t) requests sessions ∧ P sessions)) :
    Accounts hours t accepts requests (readRequests hours check requests >>= rest) ↔
      ∃ sessions, List.Forall₂ (Found hours t) requests sessions ∧ (∀ r ∈ sessions, check r.session = .ok ⟨⟩) ∧
        P sessions := by
  have hreadFor : ∀ {sessions}, List.Forall₂ (Found hours t) requests sessions →
      List.Forall₂ (ReadFor hours t) requests sessions := fun hall => hall.imp fun _ _ hfound => hfound.1
  rcases readRequests_cases hours check t requests with ⟨sessions, hrun, hread, hchecks⟩ | ⟨⟨e, hrun⟩, hno⟩
  · have hsame : Accounts hours t accepts requests (readRequests hours check requests >>= rest) ↔
        Accounts hours t accepts requests (rest sessions) := by
      unfold Accounts Proc.Returns
      rw [Proc.run_bind_of_ok hrun]
    rw [hsame, h sessions hread hchecks]
    constructor
    · rintro ⟨hfound, hP⟩
      exact ⟨sessions, hfound, hchecks, hP⟩
    · rintro ⟨sessions', hfound, -, hP⟩
      rw [sessions_unique hours hread (hreadFor hfound)]
      exact ⟨hfound, hP⟩
  · refine iff_of_false (not_accounts_of_error hours (Proc.run_bind_of_error hrun)) ?_
    rintro ⟨sessions, hfound, hchecks, -⟩
    exact hno ⟨sessions, hreadFor hfound, hchecks⟩

theorem allFound_of_forall₂ (h : List.Forall₂ (Found hours t) requests sessions) : AllFound hours t sessions :=
  forall_of_forall₂ (fun request _ hr => ⟨request, hr⟩) h

theorem asRead_of_forall₂ (h : List.Forall₂ (ReadFor hours t) requests sessions) : ∀ r ∈ sessions, AsRead r.session :=
  forall_of_forall₂ (fun _ _ hr => hr.asRead hours) h

/-! ## The four calls -/

/-- The calls. -/
inductive BatchCall
  | stop
  | resume
  | reboot
  | terminate
  deriving DecidableEq, Repr

/-- The states that a call accepts. -/
def BatchCall.acceptsState : BatchCall → VirtualDesktopSessionState → Bool
  | .stop, state => state = .ready
  | .resume, state => state = .stopped
  | .reboot, state => state = .ready || state = .error
  | .terminate, _ => true

/-- The run of a call. -/
def BatchCall.run (call : BatchCall) (requests : List Request) : Proc SessionTable Exc Response :=
  match call with
  | .stop => stopSessions hours broker hosts requests
  | .resume => resumeSessions hours hosts requests
  | .reboot => rebootSessions hours broker hosts requests
  | .terminate => terminateSessions hours broker hosts requests

/-- What `stop_sessions` needs of the sessions that were read. -/
def StopAccountable (sessions : List Requested) : Prop :=
  ∃ split, splitByConnections broker (stopSelection sessions).toDelete = .ok split ∧
    Answered hours broker (stopSelection sessions).toDelete split ∧
    (∀ r ∈ (stopSelection sessions).withoutDcv, WritesBack hours r.session) ∧
    stopHosts hosts (stopSelection sessions).withoutDcv = .ok ⟨⟩

/-- What `resume_sessions` needs: the stopped sessions have servers, an instance belongs to one session, and EC2
answers. -/
def ResumeAccountable (sessions : List Requested) : Prop :=
  (∀ r ∈ sessions, resumeCheck r.session = .ok ⟨⟩) ∧
    (∀ r ∈ stoppedOf sessions, ∀ r' ∈ stoppedOf sessions, r.instanceId = r'.instanceId →
      pairOf r.session = pairOf r'.session) ∧
    ∃ started, hosts.start ((stoppedOf sessions).map fun r => r.session.server) = .ok started ∧
      (started = true → ∀ r ∈ stoppedOf sessions, WritesBack hours r.session)

/-- What `reboot_sessions` needs: no session is both rebooted and kept. -/
def RebootAccountable (sessions : List Requested) : Prop :=
  ∃ split, splitByConnections broker (sessions.filter rebootable) = .ok split ∧
    (∀ r ∈ split.accepted, WritesBack hours r.session) ∧
    (split.accepted ≠ [] → hosts.reboot (split.accepted.map fun r => r.session.server) = .ok ⟨⟩) ∧
    (pairs split.accepted).Disjoint (pairs split.connected)

/-- What `terminate_sessions` needs: the sessions without a DCV session are named once, and what belongs to them can
be deleted. -/
def TerminateAccountable (sessions : List Requested) : Prop :=
  ∃ split, splitByConnections broker (terminateSelection sessions).toDelete = .ok split ∧
    Answered hours broker (terminateSelection sessions).toDelete split ∧
    ((terminateSelection sessions).withoutDcv ≠ [] →
      hosts.terminate ((terminateSelection sessions).withoutDcv.map fun r => r.session.server) = .ok ⟨⟩) ∧
    (∀ r ∈ (terminateSelection sessions).withoutDcv, hosts.cleanUp r.session = .ok ⟨⟩) ∧
    (pairs (terminateSelection sessions).withoutDcv).Nodup

/-- The condition for the account: every request finds a session under its pair, and what its call needs. -/
def Accountable (t : SessionTable) (call : BatchCall) (requests : List Request) : Prop :=
  ∃ sessions, List.Forall₂ (Found hours t) requests sessions ∧
    match call with
    | .stop => StopAccountable hours broker hosts sessions
    | .resume => ResumeAccountable hours hosts sessions
    | .reboot => RebootAccountable hours broker hosts sessions
    | .terminate => TerminateAccountable hours broker hosts sessions

/-- The parts into which the sessions are sorted are all of them. -/
theorem perm_filter_three (sessions : List Requested) (p q : Requested → Bool) :
    (pairs sessions).Perm (pairs (sessions.filter fun r => !p r) ++ pairs ((sessions.filter p).filter q) ++
      pairs ((sessions.filter p).filter fun r => !q r)) := by
  have houter := (List.filter_append_perm p sessions).symm
  have hinner := (List.filter_append_perm q (sessions.filter p)).symm
  unfold pairs
  rw [← List.map_append, ← List.map_append, List.append_assoc]
  refine (houter.trans (List.perm_append_comm.trans ?_)).map _
  exact hinner.append_left _

theorem stopSelection_sorted (sessions : List Requested) : (stopSelection sessions).Sorted sessions where
  perm := by
    have hperm := perm_filter_three sessions (fun r => r.session.state = .ready) fun r => isEmptyOpt r.dcvSessionId
    simpa only [stopSelection, decide_not] using hperm
  mem r hr := (List.mem_filter.mp (List.mem_filter.mp hr).1).1
  apart {hours t} hfound := by
    simp only [stopSelection, List.filter_filter, Requested.dcvSessionId]
    refine ⟨?_, ?_, ?_⟩
    · exact hfound.disjoint (p := fun s => decide (s.state ≠ .ready))
        (q := fun s => isEmptyOpt s.dcvSessionId && decide (s.state = .ready)) (by simp +contextual)
    · exact hfound.disjoint (p := fun s => decide (s.state ≠ .ready))
        (q := fun s => !isEmptyOpt s.dcvSessionId && decide (s.state = .ready)) (by simp +contextual)
    · exact hfound.disjoint (p := fun s => isEmptyOpt s.dcvSessionId && decide (s.state = .ready))
        (q := fun s => !isEmptyOpt s.dcvSessionId && decide (s.state = .ready)) (by simp +contextual)

/-- **Stopping.** -/
theorem accounts_stopRead_iff (hread : List.Forall₂ (ReadFor hours t) requests sessions) :
    Accounts hours t (BatchCall.acceptsState .stop) requests (stopRead hours broker hosts sessions) ↔
      List.Forall₂ (Found hours t) requests sessions ∧ StopAccountable hours broker hosts sessions := by
  cases hsplit : splitByConnections broker (stopSelection sessions).toDelete with
  | error e =>
    have hdelete : deleteSessions broker (stopSelection sessions).toDelete = .error e := by
      rw [deleteSessions_eq, hsplit]
      rfl
    have hraise : (stopRead hours broker hosts sessions).run t = (.error e, t) := by
      rw [stopRead, hdelete]
      rfl
    refine iff_of_false (not_accounts_of_error hours hraise) ?_
    rintro ⟨-, split, hok, -⟩
    rw [hsplit] at hok
    exact absurd hok (by simp)
  | ok split =>
    have hwrong : ∀ r ∈ sessions, BatchCall.acceptsState .stop r.session.state = false →
        pairOf r.session ∈ pairs (stopSelection sessions).wrongState ++
          failedPairs broker (stopSelection sessions).toDelete split := by
      intro r hr hstate
      refine List.mem_append_left _ (List.mem_map_of_mem (List.mem_filter.mpr ⟨hr, ?_⟩))
      simpa [BatchCall.acceptsState] using hstate
    rw [accounts_iff_of_settles hours hread
      (settles_stopRead hours broker hosts (asRead_of_forall₂ hours hread) hsplit) hwrong]
    have hfound : ∀ hall : List.Forall₂ (Found hours t) requests sessions, _ := fun hall =>
      selectionAnswered_iff hours broker (allFound_of_forall₂ hours hall) (stopSelection_sorted sessions) hsplit
    constructor
    · rintro ⟨⟨hsaved, hwithout, hfailed, ⟨u, hhosts⟩, -⟩, hall, haccount⟩
      refine ⟨hall, split, hsplit, (hfound hall).mp ⟨hsaved, hfailed, haccount⟩, fun r hr => ?_, hhosts⟩
      exact (hwithout _ (List.mem_map_of_mem hr)).2
    · rintro ⟨hall, split', hok, hanswered, hwithout, hhosts⟩
      obtain rfl := Except.ok.inj (hsplit.symm.trans hok)
      obtain ⟨hsaved, hfailed, haccount⟩ := (hfound hall).mpr hanswered
      refine ⟨⟨hsaved, List.forall_mem_map.mpr fun r hr => ⟨?_, hwithout r hr⟩, hfailed, ⟨_, hhosts⟩, trivial⟩,
        hall, haccount⟩
      exact (allFound_of_forall₂ hours hall).has (List.mem_filter.mp (List.mem_filter.mp hr).1).1

theorem terminateSelection_sorted (sessions : List Requested) : (terminateSelection sessions).Sorted sessions where
  perm := by
    simp only [terminateSelection, pairs, List.map_nil, List.nil_append]
    rw [← List.map_append]
    exact (List.filter_append_perm _ sessions).symm.map _
  mem r hr := (List.mem_filter.mp hr).1
  apart {hours t} hfound := by
    refine ⟨List.disjoint_nil_left _, List.disjoint_nil_left _, ?_⟩
    exact hfound.disjoint (p := fun s => isEmptyOpt s.dcvSessionId || decide (s.state = .stopped))
      (q := fun s => !(isEmptyOpt s.dcvSessionId || decide (s.state = .stopped))) fun s hs => by rw [hs]; rfl

/-- Sessions that were found have different keys when they have different pairs. -/
theorem nodup_keys_iff {taken : List Requested} (hread : ∀ r ∈ taken, AsRead r.session) :
    (taken.map fun r => keyOf r.session).Nodup ↔ (pairs taken).Nodup := by
  have hpairs : pairs taken = (taken.map fun r => keyOf r.session).map fun key => (some key.1, some key.2) := by
    rw [pairs, List.map_map]
    exact List.map_congr_left fun r hr => (hread r hr).pairOf_eq
  have hinjective : Function.Injective fun key : String × String => (some key.1, some key.2) := by
    intro key key' h
    exact Prod.ext (Option.some.inj (congrArg Prod.fst h)) (Option.some.inj (congrArg Prod.snd h))
  rw [hpairs, List.nodup_map_iff hinjective]

/-- **Terminating.** -/
theorem accounts_terminateRead_iff (hread : List.Forall₂ (ReadFor hours t) requests sessions) :
    Accounts hours t (BatchCall.acceptsState .terminate) requests (terminateRead hours broker hosts sessions) ↔
      List.Forall₂ (Found hours t) requests sessions ∧ TerminateAccountable hours broker hosts sessions := by
  have hasRead := asRead_of_forall₂ hours hread
  cases hsplit : splitByConnections broker (terminateSelection sessions).toDelete with
  | error e =>
    have hdelete : deleteSessions broker (terminateSelection sessions).toDelete = .error e := by
      rw [deleteSessions_eq, hsplit]
      rfl
    have hraise : (terminateRead hours broker hosts sessions).run t = (.error e, t) := by
      rw [terminateRead, hdelete]
      rfl
    refine iff_of_false (not_accounts_of_error hours hraise) ?_
    rintro ⟨-, split, hok, -⟩
    rw [hsplit] at hok
    exact absurd hok (by simp)
  | ok split =>
    rw [accounts_iff_of_settles hours hread (settles_terminateRead hours broker hosts hasRead hsplit)
      fun r hr hstate => absurd hstate (by simp [BatchCall.acceptsState])]
    have hnodup_iff : ((terminateSelection sessions).withoutDcv.map fun r => keyOf r.session).Nodup ↔
        (pairs (terminateSelection sessions).withoutDcv).Nodup :=
      nodup_keys_iff fun r hr => hasRead r (List.mem_filter.mp hr).1
    rw [hnodup_iff]
    have hfound : ∀ hall : List.Forall₂ (Found hours t) requests sessions, _ := fun hall =>
      selectionAnswered_iff hours broker (allFound_of_forall₂ hours hall) (terminateSelection_sorted sessions) hsplit
    constructor
    · rintro ⟨⟨hsaved, hhosts, ⟨hwithout, hnodup⟩, hfailed, -⟩, hall, haccount⟩
      exact ⟨hall, split, hsplit, (hfound hall).mp ⟨hsaved, hfailed, haccount⟩, hhosts,
        fun r hr => (hwithout r hr).1, hnodup⟩
    · rintro ⟨hall, split', hok, hanswered, hhosts, hclean, hnodup⟩
      obtain rfl := Except.ok.inj (hsplit.symm.trans hok)
      obtain ⟨hsaved, hfailed, haccount⟩ := (hfound hall).mpr hanswered
      refine ⟨⟨hsaved, hhosts, ⟨fun r hr => ⟨hclean r hr, ?_⟩, hnodup⟩, hfailed, trivial⟩, hall, haccount⟩
      exact (allFound_of_forall₂ hours hall).has (List.mem_filter.mp hr).1

/-- **Rebooting.** -/
theorem accounts_rebootRead_iff (hread : List.Forall₂ (ReadFor hours t) requests sessions) :
    Accounts hours t (BatchCall.acceptsState .reboot) requests (rebootRead hours broker hosts sessions) ↔
      List.Forall₂ (Found hours t) requests sessions ∧ RebootAccountable hours broker hosts sessions := by
  cases hsplit : splitByConnections broker (sessions.filter rebootable) with
  | error e =>
    have hraise : (rebootRead hours broker hosts sessions).run t = (.error e, t) := by
      rw [rebootRead, hsplit]
      rfl
    refine iff_of_false (not_accounts_of_error hours hraise) ?_
    rintro ⟨-, split, hok, -⟩
    rw [hsplit] at hok
    exact absurd hok (by simp)
  | ok split =>
    have hperm := perm_of_split broker hsplit
    have hwrong : ∀ r ∈ sessions, BatchCall.acceptsState .reboot r.session.state = false →
        pairOf r.session ∈ pairs (sessions.filter fun r => !rebootable r) ++ pairs split.connected := by
      intro r hr hstate
      refine List.mem_append_left _ (List.mem_map_of_mem (List.mem_filter.mpr ⟨hr, ?_⟩))
      have hstate' : rebootable r = false := hstate
      rw [hstate']
      rfl
    rw [accounts_iff_of_settles hours hread
      (settles_rebootRead hours broker hosts (asRead_of_forall₂ hours hread) hsplit) hwrong]
    have hall : (pairs sessions).Perm (pairs (sessions.filter fun r => !rebootable r) ++ [] ++
        pairs (sessions.filter rebootable)) := by
      rw [List.append_nil, pairs, pairs, pairs, ← List.map_append]
      exact ((List.filter_append_perm _ sessions).symm.trans List.perm_append_comm).map _
    have hrest : (pairs split.accepted ++ pairs split.connected).Perm (pairs (sessions.filter rebootable)) := by
      rw [pairs, pairs, ← List.map_append]
      exact hperm.map _
    obtain ⟨haccepted, hconnected⟩ := List.forall_mem_append.mp fun x hx => hrest.mem_iff.mp hx
    have hparts : ∀ hfound : List.Forall₂ (Found hours t) requests sessions, _ := fun hfound =>
      perm_disjoint_iff hall haccepted hconnected (List.disjoint_nil_right _)
        ((allFound_of_forall₂ hours hfound).disjoint
          (p := fun s => !(decide (s.state = .ready) || decide (s.state = .error)))
          (q := fun s => decide (s.state = .ready) || decide (s.state = .error)) (by simp))
        (List.disjoint_nil_left _)
    simp only [List.append_nil] at hparts
    have hmem : ∀ r ∈ split.accepted, r ∈ sessions := fun r hr =>
      (List.mem_filter.mp (hperm.mem_iff.mp (List.mem_append_left _ hr))).1
    constructor
    · rintro ⟨⟨hsaved, hhosts, -⟩, hfound, haccount⟩
      exact ⟨hfound, split, hsplit, fun r hr => (hsaved _ (List.mem_map_of_mem hr)).2, hhosts,
        ((hparts hfound).mp haccount).2⟩
    · rintro ⟨hfound, split', hok, hback, hhosts, hapart⟩
      obtain rfl := Except.ok.inj (hsplit.symm.trans hok)
      refine ⟨⟨List.forall_mem_map.mpr fun r hr => ⟨?_, hback r hr⟩, hhosts, trivial⟩, hfound,
        (hparts hfound).mpr ⟨hrest, hapart⟩⟩
      exact (allFound_of_forall₂ hours hfound).has (hmem r hr)

/-- **Resuming.** -/
theorem accounts_resumeRead_iff (hread : List.Forall₂ (ReadFor hours t) requests sessions)
    (hchecks : ∀ r ∈ sessions, resumeCheck r.session = .ok ⟨⟩) :
    Accounts hours t (BatchCall.acceptsState .resume) requests (resumeRead hours hosts sessions) ↔
      List.Forall₂ (Found hours t) requests sessions ∧ ResumeAccountable hours hosts sessions := by
  cases hstart : hosts.start ((stoppedOf sessions).map fun r => r.session.server) with
  | error e =>
    have hraise : (resumeRead hours hosts sessions).run t = (.error e, t) := by
      change (Proc.liftExcept (hosts.start ((stoppedOf sessions).map fun r => r.session.server)) >>= _).run t = _
      rw [hstart]
      rfl
    refine iff_of_false (not_accounts_of_error hours hraise) ?_
    rintro ⟨-, -, -, started, hok, -⟩
    rw [hstart] at hok
    exact absurd hok (by simp)
  | ok started =>
    have hwrong : ∀ r ∈ sessions, BatchCall.acceptsState .resume r.session.state = false →
        pairOf r.session ∈ notStopped sessions ++ if started then [] else startedPairs sessions := by
      intro r hr hstate
      refine List.mem_append_left _ (List.mem_map_of_mem (List.mem_filter.mpr ⟨hr, ?_⟩))
      simpa [BatchCall.acceptsState] using hstate
    rw [accounts_iff_of_settles hours hread
      (settles_resumeRead hours hosts (asRead_of_forall₂ hours hread) hstart) hwrong]
    have hall : (pairs sessions).Perm (notStopped sessions ++ [] ++ pairs (stoppedOf sessions)) := by
      rw [List.append_nil, notStopped, stoppedOf, pairs, pairs, pairs, ← List.map_append]
      have hperm := List.filter_append_perm (fun r : Requested => decide (r.session.state = .stopped)) sessions
      simp only [← decide_not] at hperm
      exact (hperm.symm.trans List.perm_append_comm).map _
    have hstarted : ∀ pair ∈ startedPairs sessions, pair ∈ pairs (stoppedOf sessions) := by
      intro pair hpair
      obtain ⟨id, hid, rfl⟩ := List.mem_map.mp hpair
      rcases sessionUnder_cases Requested.instanceId (stoppedOf sessions) id with ⟨r, hr, -, hok⟩ | ⟨hno, -⟩
      · rw [pairUnder_of_ok hok]
        exact List.mem_map_of_mem hr
      · exact absurd hid hno
    -- The pairs that are started go to one of the lists as a whole.
    have hparts : ∀ hfound : List.Forall₂ (Found hours t) requests sessions,
        ((((if started then startedPairs sessions else []) ++
          (notStopped sessions ++ if started then [] else startedPairs sessions)).Perm (pairs sessions) ∧
            (if started then startedPairs sessions else []).Disjoint
              (notStopped sessions ++ if started then [] else startedPairs sessions)) ↔
          ∀ r ∈ stoppedOf sessions, ∀ r' ∈ stoppedOf sessions, r.instanceId = r'.instanceId →
            pairOf r.session = pairOf r'.session) := by
      intro hfound
      have hfoundAll := allFound_of_forall₂ hours hfound
      have hlookup : Lookup (stoppedOf sessions) Requested.instanceId (fun r => pairOf r.session)
          (pairUnder Requested.instanceId (stoppedOf sessions)) :=
        AllFound.lookup (fun r hr => hfoundAll r (List.mem_filter.mp hr).1) fun r r' h => by
          rw [Requested.instanceId, h, Requested.instanceId]
      have hids : ∀ id ∈ (stoppedOf sessions).map Requested.instanceId,
          id ∈ (stoppedOf sessions).map Requested.instanceId := fun _ h => h
      have hperm : (startedPairs sessions).Perm (pairs (stoppedOf sessions)) ↔ _ := hlookup.map_perm_iff hids
      have hdisjoint : (notStopped sessions).Disjoint (pairs (stoppedOf sessions)) :=
        hfoundAll.disjoint (p := fun s => decide (s.state ≠ .stopped)) (q := fun s => decide (s.state = .stopped))
          (by simp)
      have hsuccess : ∀ pair ∈ if started then startedPairs sessions else [],
          pair ∈ pairs (stoppedOf sessions) := by
        split <;> simp_all
      have hfail : ∀ pair ∈ if started then [] else startedPairs sessions,
          pair ∈ pairs (stoppedOf sessions) := by
        split <;> simp_all
      have hsplit := perm_disjoint_iff hall hsuccess hfail (List.disjoint_nil_right _) hdisjoint
        (List.disjoint_nil_left _)
      rw [List.append_nil] at hsplit
      rw [hsplit]
      refine Iff.trans ?_ (hperm.trans (and_iff_left (List.Perm.refl _)))
      cases started with
      | true => simp
      | false => simp
    constructor
    · rintro ⟨hsaved, hfound, haccount⟩
      have hone := (hparts hfound).mp haccount
      have hfoundAll := allFound_of_forall₂ hours hfound
      refine ⟨hfound, hchecks, hone, started, hstart, fun htrue r hr => ?_⟩
      obtain ⟨session, hok, -, hback⟩ := hsaved htrue r hr
      rcases sessionUnder_cases Requested.instanceId (stoppedOf sessions) r.instanceId with
        ⟨r', hr', hsame, hok'⟩ | ⟨hno, -⟩
      · rw [hfoundAll.session_eq (List.mem_filter.mp hr).1 (List.mem_filter.mp hr').1 (hone r hr r' hr' hsame.symm)]
        rwa [← Except.ok.inj (hok.symm.trans hok')]
      · exact absurd (List.mem_map_of_mem hr) hno
    · rintro ⟨hfound, -, hone, started', hok, hback⟩
      obtain rfl := Except.ok.inj (hstart.symm.trans hok)
      refine ⟨fun htrue r hr => ?_, hfound, (hparts hfound).mpr hone⟩
      rcases sessionUnder_cases Requested.instanceId (stoppedOf sessions) r.instanceId with
        ⟨r', hr', -, hok'⟩ | ⟨hno, -⟩
      · exact ⟨r'.session, hok', (allFound_of_forall₂ hours hfound).has (List.mem_filter.mp hr').1, hback htrue r' hr'⟩
      · exact absurd (List.mem_map_of_mem hr) hno

/-- **The account of a batch.** A call accounts for its requests exactly when every request finds a session under
its pair, and the broker's answer and EC2 are as its call needs them. -/
theorem accounts_iff (t : SessionTable) (call : BatchCall) (requests : List Request) :
    Accounts hours t call.acceptsState requests (call.run hours broker hosts requests) ↔
      Accountable hours broker hosts t call requests := by
  have hchecked : ∀ {P : List Requested → Prop},
      (∃ sessions, List.Forall₂ (Found hours t) requests sessions ∧
        (∀ r ∈ sessions, (.ok ⟨⟩ : Except Exc PUnit.{1}) = .ok ⟨⟩) ∧ P sessions) ↔
        ∃ sessions, List.Forall₂ (Found hours t) requests sessions ∧ P sessions :=
    exists_congr fun sessions => and_congr_right fun _ => and_iff_right fun _ _ => rfl
  cases call with
  | stop =>
    exact (accounts_readRequests_iff hours _ fun sessions hread _ =>
      accounts_stopRead_iff hours broker hosts hread).trans hchecked
  | reboot =>
    exact (accounts_readRequests_iff hours _ fun sessions hread _ =>
      accounts_rebootRead_iff hours broker hosts hread).trans hchecked
  | terminate =>
    exact (accounts_readRequests_iff hours _ fun sessions hread _ =>
      accounts_terminateRead_iff hours broker hosts hread).trans hchecked
  | resume =>
    refine (accounts_readRequests_iff hours _ fun sessions hread hchecks =>
      accounts_resumeRead_iff hours hosts hread hchecks).trans ?_
    exact exists_congr fun sessions => and_congr_right fun _ => and_iff_right_of_imp fun h => h.1

/-! ## An unknown pair -/

/-- A broker that knows no DCV session. -/
def silentBroker : DcvBroker ℕ where
  describe _ :=
    { pages := [[]]
      pages_ne_nil := List.cons_ne_nil _ _
      lastKey := id
      lastKey_injective := Function.injective_id }
  delete _ := {}

/-- Hosts that do what they are told. -/
def obedientHosts : Hosts where
  stop _ _ := .ok ⟨⟩
  start _ := .ok true
  reboot _ := .ok ⟨⟩
  terminate _ := .ok ⟨⟩
  cleanUp _ := .ok ⟨⟩

/-- To stop a session that does not exist raises, whatever the answer should have been. -/
theorem unknown_pair_raises :
    ¬ Accounts ⟨"09:00", "17:00"⟩ ∅ (BatchCall.acceptsState .stop) [⟨some "alice", some "s-1", none⟩]
      (BatchCall.run ⟨"09:00", "17:00"⟩ silentBroker obedientHosts .stop [⟨some "alice", some "s-1", none⟩]) := by
  rintro ⟨response, t', hrun, -⟩
  have hraise : (BatchCall.run ⟨"09:00", "17:00"⟩ silentBroker obedientHosts .stop
      [⟨some "alice", some "s-1", none⟩]).run ∅ =
        (.error (.other .attributeError "'NoneType' object has no attribute 'idea_session_id'"), ∅) := rfl
  exact absurd (congrArg Prod.fst (hraise.symm.trans hrun)) (by simp)

/-! ## The sessions that are not named -/

/-- The keys that requests name, as a session is read from under them. -/
def namedKeys (requests : List Request) : List (String × String) :=
  requests.map fun request => (strip (request.owner.getD ""), strip (request.ideaSessionId.getD ""))

/-- The rows under other keys are those of `t`. -/
def SparesOthers (t : SessionTable) (keys : List (String × String)) (t' : SessionTable) : Prop :=
  ∀ key ∉ keys, t'.getItem key = t.getItem key

section Spares

variable {keys : List (String × String)} {session : VirtualDesktopSession}

theorem keeps_saveIn (state : VirtualDesktopSessionState) (h : AsRead session) (hkey : keyOf session ∈ keys) :
    Keeps (SparesOthers t keys) (saveIn hours state session) := by
  refine Keeps.bind (Keeps.of_state fun t' ht' key hother => ?_) fun _ => Keeps.liftExcept _
  have hne : key ≠ keyOf session := fun heq => hother (heq ▸ hkey)
  rw [run_update (h.withState state) t']
  exact (Table.getItem_putItem_of_ne _ _ hne).trans (ht' key hother)

theorem keeps_remove (h : AsRead session) (hkey : keyOf session ∈ keys) :
    Keeps (SparesOthers t keys) (remove hosts session) := by
  refine Keeps.bind (Keeps.liftExcept _) fun _ =>
    Keeps.bind (Keeps.of_state fun t' ht' key hother => ?_) fun _ => Keeps.pure _
  have hne : key ≠ keyOf session := fun heq => hother (heq ▸ hkey)
  rw [run_delete h t', Table.getItem_deleteItem, if_neg hne]
  exact ht' key hother

theorem keeps_collect {α β : Type} {I : SessionTable → Prop} {f : β → Proc SessionTable Exc α} {xs : List β}
    (h : ∀ x ∈ xs, Keeps I (f x)) : Keeps I (Proc.collect f xs) := by
  induction xs with
  | nil => exact Keeps.pure _
  | cons x xs ih =>
    exact Keeps.bind (h x List.mem_cons_self) fun _ =>
      Keeps.bind (ih fun y hy => h y (List.mem_cons_of_mem _ hy)) fun _ => Keeps.pure _

/-- Sessions that were read, under keys that are named. -/
def Named (keys : List (String × String)) (sessions : List Requested) : Prop :=
  ∀ r ∈ sessions, AsRead r.session ∧ keyOf r.session ∈ keys

theorem Named.filter {sessions : List Requested} {p : Requested → Bool} (h : Named keys sessions) :
    Named keys (sessions.filter p) := fun r hr => h r (List.mem_filter.mp hr).1

theorem keeps_saveAll (state : VirtualDesktopSessionState) {taken : List VirtualDesktopSession}
    (h : ∀ s ∈ taken, AsRead s ∧ keyOf s ∈ keys) :
    Keeps (SparesOthers t keys) (Proc.collect (saveIn hours state) taken) :=
  keeps_collect fun s hs => keeps_saveIn hours state (h s hs).1 (h s hs).2

/-- What the broker answers is looked up among the sessions of the call. -/
theorem keeps_saveDeleted (state : VirtualDesktopSessionState) {toDelete : List Requested} (h : Named keys toDelete)
    (ids : List (Option String)) : Keeps (SparesOthers t keys) (saveDeleted hours state toDelete ids) := by
  refine keeps_collect fun id _ => ?_
  rcases sessionUnder_cases Requested.dcvSessionId toDelete id with ⟨r, hr, -, hok⟩ | ⟨-, e, herr⟩
  · rw [hok]
    exact keeps_saveIn hours state (h r hr).1 (h r hr).2
  · rw [herr]
    exact Keeps.raise e

theorem keeps_readRequests {check : VirtualDesktopSession → Except Exc PUnit}
    {rest : List Requested → Proc SessionTable Exc Response}
    (h : ∀ sessions, Named (namedKeys requests) sessions → Keeps (SparesOthers t (namedKeys requests)) (rest sessions)) :
    Keeps (SparesOthers t (namedKeys requests)) (readRequests hours check requests >>= rest) := by
  refine Keeps.of_state fun t' ht' => ?_
  rcases readRequests_cases hours check t' requests with ⟨sessions, hrun, hread, -⟩ | ⟨⟨e, hrun⟩, -⟩
  · rw [Proc.run_bind_of_ok hrun]
    refine (h sessions fun r hr => ?_).run ht'
    obtain ⟨request, hrequest, hfor⟩ := exists_of_forall₂ hread.flip hr
    obtain ⟨key, row, hpair, -, hsession, hasRead, -⟩ := exists_row_of_readOf hours hfor.1
    refine ⟨hasRead, List.mem_map.mpr ⟨request, hrequest, ?_⟩⟩
    have howner : request.owner = some key.1 := congrArg Prod.fst hpair
    have hid : request.ideaSessionId = some key.2 := congrArg Prod.snd hpair
    have howner' : r.session.owner = some (strip key.1) := congrArg Prod.fst hsession
    have hid' : r.session.ideaSessionId = some (strip key.2) := congrArg Prod.snd hsession
    rw [howner, hid, keyOf, howner', hid']
    rfl
  · rw [Proc.run_bind_of_error hrun]
    exact ht'

end Spares

/-- **The sessions that are not named**: whatever the broker and EC2 answer, a call leaves the row of a session that
none of its requests names as it is, also when it raises. -/
theorem sparesOthers_run (t : SessionTable) (call : BatchCall) (requests : List Request) :
    SparesOthers t (namedKeys requests) ((call.run hours broker hosts requests).run t).2 := by
  refine Keeps.run (I := SparesOthers t (namedKeys requests)) ?_ fun _ _ => rfl
  cases call with
  | stop =>
    refine keeps_readRequests hours fun _ h => Keeps.bind (Keeps.liftExcept _) fun deletion => ?_
    refine Keeps.bind (keeps_saveDeleted hours _ h.filter.filter _) fun _ => ?_
    refine Keeps.bind (keeps_saveAll hours _ (List.forall_mem_map.mpr h.filter.filter)) fun _ => ?_
    exact Keeps.bind (Keeps.liftExcept _) fun _ => Keeps.bind (Keeps.liftExcept _) fun _ => Keeps.pure _
  | resume =>
    refine keeps_readRequests hours fun _ h => Keeps.bind (Keeps.liftExcept _) fun started =>
      Keeps.bind_of_reads (Reads.liftExcept _) fun t' mapped ht' hmapped => Keeps.ite (fun _ => ?_) fun _ => Keeps.pure _
    refine Keeps.bind (keeps_saveAll hours _ fun s hs => ?_) fun _ => Keeps.pure _
    -- What is mapped was looked up among the stopped sessions.
    have hmap := congrArg Prod.fst ((Proc.run_liftExcept _ t').symm.trans hmapped)
    obtain ⟨id, -, hid⟩ := (mem_of_mapM hmap).mp hs
    rcases sessionUnder_cases Requested.instanceId _ id with ⟨r, hr, -, hok⟩ | ⟨-, e, herr⟩
    · exact Except.ok.inj (hok.symm.trans hid) ▸ h.filter r hr
    · exact absurd (herr.symm.trans hid) (by simp)
  | reboot =>
    refine keeps_readRequests hours fun _ h =>
      Keeps.bind_of_reads (Reads.liftExcept _) fun t' split ht' hsplit => ?_
    have haccepted : Named (namedKeys requests) split.accepted := fun r hr =>
      h.filter r ((perm_of_split broker (congrArg Prod.fst ((Proc.run_liftExcept _ t').symm.trans hsplit))).mem_iff.mp
        (List.mem_append_left _ hr))
    refine Keeps.bind (keeps_saveAll hours _ (List.forall_mem_map.mpr haccepted)) fun _ => ?_
    exact Keeps.bind (Keeps.when fun _ => Keeps.liftExcept _) fun _ => Keeps.pure _
  | terminate =>
    refine keeps_readRequests hours fun _ h => Keeps.bind (Keeps.liftExcept _) fun deletion => ?_
    refine Keeps.bind (keeps_saveDeleted hours _ h.filter _) fun _ => ?_
    refine Keeps.bind (Keeps.when fun _ => Keeps.liftExcept _) fun _ => ?_
    refine Keeps.bind (keeps_collect fun r hr => keeps_remove hosts (h.filter r hr).1 (h.filter r hr).2) fun _ => ?_
    exact Keeps.bind (Keeps.liftExcept _) fun _ => Keeps.pure _

end ContainRes.VirtualDesktop.BatchOperations
