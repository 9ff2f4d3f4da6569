import ContainRes.VirtualDesktop.Events
import ContainRes.VirtualDesktop.Listing

/-! # Disabling a user

`UserDisabledEventHandler` lists the sessions of the user and publishes a terminate event for each. The
listing is one page of a scan whose filter asks that the owner *contain* the user's name.

* **`handleEvent`** — the handler, over the messages published so far.
* **`TerminatesExactly`** — one terminate event for each session of the user, and nothing else.
* **`terminatesExactly_iff`** — the handler does so exactly when, on the first page, every owner that
  contains the name is the name, and no later page has a session of the user.
* **`extended_name_terminated`** — the sessions of `bobby` are terminated with those of `bob`. -/

namespace ContainRes.VirtualDesktop

open Effects Store Text

/-- `publish_idea_session_terminate_event`; `clock` gives the times that are read one after another. -/
def publishIdeaSessionTerminateEvent (clock : Nat → Int) (ideaSessionId ideaSessionOwner : Option String)
    (force : Bool) : Proc Outbox Exc PUnit := do
  let n ← Proc.gets Outbox.clockReads
  let message ← Proc.liftExcept
    (messageOf (ideaSessionTerminateEvent (clock n) ideaSessionId ideaSessionOwner force))
  Proc.modify fun o => { clockReads := o.clockReads + 1, messages := o.messages ++ [message] }

namespace UserDisabled

variable (controllerRoleId : String) (decode : String → Except Exc (Option String))
  (sessions : Paged SessionRow) (clock : Nat → Int)

def handleEvent (senderId : String) (event : VirtualDesktopEvent) : Proc Outbox Exc PUnit :=
  if isSenderRole controllerRoleId senderId = false then Proc.raise (corruptedSender senderId)
  else
    match event.detailString "username" with
    | none => pure ⟨⟩
    | some username => do
      let listing ← Proc.liftExcept (listAllForUser decode sessions {} username)
      Proc.forEach
        (fun session => publishIdeaSessionTerminateEvent clock session.ideaSessionId session.owner true)
        listing

/-- The messages that handling the event publishes. -/
def published (senderId : String) (event : VirtualDesktopEvent) : List QueueMessage :=
  ((handleEvent controllerRoleId decode sessions clock senderId event).run {}).2.messages

/-- The owner and the id of the session that a message asks to terminate. -/
def terminated (message : QueueMessage) : Option (Option String × Option String) :=
  if message.body.eventType = some .ideaSessionTerminate then
    some (message.body.detailString "idea_session_owner", message.body.detailString "idea_session_id")
  else none

/-- The owner and the id of a session, as `terminated` reads them from a message. -/
def identity (session : SessionEntry) : Option (Option String × Option String) :=
  some (session.owner, session.ideaSessionId)

/-- The rows of the sessions whose owner is the user. -/
def ownedBy (username : Option String) (rows : List SessionRow) : List SessionRow :=
  rows.filter fun row => username.isSome && (convertDbDictToSessionObject row).owner == username

/-- One terminate event for each session whose owner is the user, and no other message. -/
def TerminatesExactly (username : Option String) (messages : List QueueMessage) : Prop :=
  (messages.map terminated).Perm
    ((ownedBy username sessions.rows).map fun row => identity (convertDbDictToSessionObject row))

/-- Whether the filter on the owner lets a row through. -/
def matchesOwner (username : String) (row : SessionRow) : Bool :=
  username == "$all" || contains username row.owner

/-! ## What the listing returns and what is published for it -/

variable (username : String)

theorem listAllForUser_eq :
    listAllForUser decode sessions {} username =
      .ok ((sessions.first.filter (matchesOwner username)).map convertDbDictToSessionObject) := by
  have hlets : ∀ row : SessionRow, (mergeFilters (withoutAll [ownerFilter username])).holds row.item =
      matchesOwner username row := by
    intro row
    rw [← List.nil_append [ownerFilter username], mergeFilters_ownerFilter]
    by_cases hall : username = "$all"
    · simp [hall, matchesOwner, withoutAll, mergeFilters]
    · simp [hall, matchesOwner, withoutAll, mergeFilters]
  have hkeys : hasMissingKey (mergeFilters (withoutAll [ownerFilter username])) = false := by
    rw [← List.nil_append [ownerFilter username], mergeFilters_ownerFilter]
    split <;> rfl
  have hstart : startKeyOf decode none = .ok none := rfl
  rw [listAllForUser, listAllFromDb, scanDbRecords_eq, hstart]
  simp only [ListingRequest.filterList, Option.getD_none, Option.getD_some, List.nil_append]
  rw [tableScan_eq hlets, hkeys]
  rfl

theorem ideaSessionId_isSome (row : SessionRow) :
    (convertDbDictToSessionObject row).ideaSessionId = some (strip row.ideaSessionId) :=
  getAsString_of_nonblank row.id_nonblank

/-- What a terminate event asks to terminate. -/
theorem terminated_terminateEvent (group : String) (timestamp : Int)
    (ideaSessionId ideaSessionOwner : Option String) (force : Bool) :
    terminated ⟨group, ideaSessionTerminateEvent timestamp ideaSessionId ideaSessionOwner force⟩ =
      some (getAsString ideaSessionOwner, getAsString ideaSessionId) := by
  obtain ⟨hid, howner⟩ := detailString_sessionDetail
    (ideaSessionTerminateEvent timestamp ideaSessionId ideaSessionOwner force) rfl
  have htype : (ideaSessionTerminateEvent timestamp ideaSessionId ideaSessionOwner force).eventType =
      some .ideaSessionTerminate := rfl
  rw [terminated, if_pos htype, hid, howner]

/-- One publication for a session read from the table. -/
theorem run_publish (row : SessionRow) (o : Outbox) :
    ∃ o', (publishIdeaSessionTerminateEvent clock (convertDbDictToSessionObject row).ideaSessionId
        (convertDbDictToSessionObject row).owner true).run o = (.ok ⟨⟩, o') ∧ o'.messages.map terminated =
        o.messages.map terminated ++ [identity (convertDbDictToSessionObject row)] := by
  have hid := ideaSessionId_isSome row
  have hid' : getAsString (convertDbDictToSessionObject row).ideaSessionId =
      (convertDbDictToSessionObject row).ideaSessionId := getAsString_getAsString (some row.ideaSessionId)
  have howner : getAsString (convertDbDictToSessionObject row).owner =
      (convertDbDictToSessionObject row).owner := getAsString_getAsString (some row.owner)
  generalize convertDbDictToSessionObject row = session at *
  obtain ⟨owner, ideaSessionId, dcvSessionId⟩ := session
  dsimp only at hid hid' howner ⊢
  subst hid
  refine ⟨{ clockReads := o.clockReads + 1,
            messages := o.messages ++ [⟨replaceBlanks (strip row.ideaSessionId), _⟩] }, rfl, ?_⟩
  rw [List.map_append, List.map_singleton, terminated_terminateEvent, hid', howner, identity]

variable (rows : List SessionRow)

/-- The publications of the loop, one for each session listed. -/
theorem run_forEach_publish (o : Outbox) : (((Proc.forEach (fun session : SessionEntry =>
          publishIdeaSessionTerminateEvent clock session.ideaSessionId session.owner true)
        (rows.map convertDbDictToSessionObject)).run o).2.messages).map terminated =
      o.messages.map terminated ++ rows.map fun row => identity (convertDbDictToSessionObject row) := by
  induction rows generalizing o with
  | nil => simp
  | cons row rows ih =>
    obtain ⟨o', hrun, hmessages⟩ := run_publish clock row o
    rw [List.map_cons, Proc.forEach_cons, Proc.run_bind_of_ok hrun, ih o', hmessages,
      List.append_assoc, List.map_cons, List.singleton_append]

/-- What is published for an event of the controller. -/
theorem published_of_sender {senderId : String} {event : VirtualDesktopEvent} {username : String}
    (hsender : isSenderRole controllerRoleId senderId = true) (hname : event.detailString "username" = some username) :
    (published controllerRoleId decode sessions clock senderId event).map terminated =
      (sessions.first.filter (matchesOwner username)).map fun row => identity (convertDbDictToSessionObject row) := by
  have hlisting := listAllForUser_eq decode sessions username
  have hrun : (Proc.liftExcept (listAllForUser decode sessions {} username) : Proc Outbox Exc _).run {} =
      (.ok ((sessions.first.filter (matchesOwner username)).map convertDbDictToSessionObject), {}) := by
    rw [Proc.run_liftExcept, hlisting]
  rw [published, handleEvent, if_neg (by simp [hsender]), hname]
  dsimp only
  rw [Proc.run_bind_of_ok hrun, run_forEach_publish]
  rfl

/-! ## The listing read against the sessions of the user -/

/-- On the first page the filter lets through exactly the user's sessions, and there are no others of
the user's on later pages. -/
def ListsExactly (username : String) : Prop :=
  (∀ row ∈ sessions.first, matchesOwner username row = true →
    (convertDbDictToSessionObject row).owner = some username) ∧
  ∀ row ∈ sessions.rest, (convertDbDictToSessionObject row).owner ≠ some username

theorem matchesOwner_of_owner {row : SessionRow} {username : String}
    (h : (convertDbDictToSessionObject row).owner = some username) : matchesOwner username row = true := by
  rw [matchesOwner, contains_of_owner h, Bool.or_true]

theorem ownedBy_some : ownedBy (some username) rows =
      rows.filter fun row => (convertDbDictToSessionObject row).owner == some username := by
  simp [ownedBy]

theorem ownedBy_append (username : Option String) (rows rows' : List SessionRow) :
    ownedBy username (rows ++ rows') = ownedBy username rows ++ ownedBy username rows' :=
  List.filter_append _ _

theorem ownedBy_eq_nil_iff : ownedBy (some username) rows = [] ↔
      ∀ row ∈ rows, (convertDbDictToSessionObject row).owner ≠ some username := by
  simp [ownedBy_some]

/-- The filter lets through the user's sessions, and only these if every match is one of them. -/
theorem filter_matchesOwner {username : String} {rows : List SessionRow}
    (h : ∀ row ∈ rows, matchesOwner username row = true → (convertDbDictToSessionObject row).owner = some username) :
    rows.filter (matchesOwner username) = ownedBy (some username) rows := by
  rw [ownedBy_some]
  refine List.filter_congr fun row hrow => ?_
  rw [Bool.eq_iff_iff, beq_iff_eq]
  exact ⟨h row hrow, matchesOwner_of_owner⟩

theorem perm_iff_listsExactly : ((sessions.first.filter (matchesOwner username)).map fun row =>
        identity (convertDbDictToSessionObject row)).Perm ((ownedBy (some username) sessions.rows).map fun row =>
        identity (convertDbDictToSessionObject row)) ↔ ListsExactly sessions username := by
  constructor
  · intro hperm
    have hfirst : ∀ row ∈ sessions.first, matchesOwner username row = true →
        (convertDbDictToSessionObject row).owner = some username := by
      intro row hrow hmatch
      have hmem := hperm.mem_iff.mp
        (List.mem_map.mpr ⟨row, List.mem_filter.mpr ⟨hrow, hmatch⟩, rfl⟩)
      obtain ⟨row', hrow', heq⟩ := List.mem_map.mp hmem
      have howner' : (convertDbDictToSessionObject row').owner = some username := by
        rw [ownedBy_some] at hrow'
        simpa using (List.mem_filter.mp hrow').2
      have heq' := congrArg Prod.fst (Option.some.inj heq)
      exact heq'.symm.trans howner'
    refine ⟨hfirst, (ownedBy_eq_nil_iff username _).mp ?_⟩
    -- the first page already accounts for every event published
    have hlen := hperm.length_eq
    rw [filter_matchesOwner hfirst, sessions.rows_eq, ownedBy_append, List.length_map, List.length_map,
      List.length_append] at hlen
    exact List.length_eq_zero_iff.mp (by omega)
  · rintro ⟨hfirst, hrest⟩
    rw [filter_matchesOwner hfirst, sessions.rows_eq, ownedBy_append,
      (ownedBy_eq_nil_iff username _).mpr hrest, List.append_nil]

/-- **Exactness.** An event of the controller terminates exactly the user's sessions if and only if the
one page that is listed is exact for the name; an event of another sender terminates nothing. -/
theorem terminatesExactly_iff (senderId : String) (event : VirtualDesktopEvent) :
    TerminatesExactly sessions (event.detailString "username")
        (published controllerRoleId decode sessions clock senderId event) ↔
      ∀ username, event.detailString "username" = some username →
        if isSenderRole controllerRoleId senderId = true then ListsExactly sessions username
        else ∀ row ∈ sessions.rows, (convertDbDictToSessionObject row).owner ≠ some username := by
  unfold TerminatesExactly
  cases hname : event.detailString "username" with
  | none =>
    have hnil : published controllerRoleId decode sessions clock senderId event = [] := by
      rw [published, handleEvent, hname]
      split <;> rfl
    simp [hnil, ownedBy]
  | some username =>
    simp only [Option.some.injEq, forall_eq']
    by_cases hsender : isSenderRole controllerRoleId senderId = true
    · rw [published_of_sender controllerRoleId decode sessions clock hsender hname, if_pos hsender,
        perm_iff_listsExactly]
    · have hnil : published controllerRoleId decode sessions clock senderId event = [] := by
        rw [published, handleEvent, if_pos (by simpa using hsender)]
        rfl
      rw [hnil, if_neg hsender, ← ownedBy_eq_nil_iff, List.map_nil, List.nil_perm, List.map_eq_nil_iff]

/-! ## Names that extend one another -/

/-- A session with a fixed id. -/
def sampleRow (owner id : String) (h : isEmpty id = false) : SessionRow where
  owner := owner
  ideaSessionId := id
  dcvSessionId := none
  others := fun _ => none
  id_nonblank := h

/-- Two sessions on one page, of `bob` and of `bobby`. -/
def sampleSessions : Paged SessionRow where
  pages := [[sampleRow "bob" "s1" (rfl : false = false), sampleRow "bobby" "s2" (rfl : false = false)]]
  after := fun _ => []

/-- The event that `bob` was disabled. -/
def sampleEvent : VirtualDesktopEvent where
  eventGroupId := some "bob"
  eventType := some .userDisabled
  detail := some [("username", .S "bob")]

/-- Disabling `bob` also terminates the session of `bobby`. -/
theorem extended_name_terminated : ¬ TerminatesExactly sampleSessions (sampleEvent.detailString "username")
      (published "controller" (fun _ => .ok none) sampleSessions (fun _ => 0) "controller:i-1" sampleEvent) := by
  intro h
  have hlen := h.length_eq
  revert hlen
  decide

end UserDisabled

end ContainRes.VirtualDesktop
