import ContainRes.Accounts.Listings
import Mathlib.Algebra.BigOperators.Group.List.Lemmas
import Mathlib.Algebra.Order.BigOperators.GroupWithZero.List
import Mathlib.Algebra.Order.Ring.Nat

/-! # Paging through the members of groups

`GroupMembersDAO.list_users_in_group` reads one page of every group of a request. Its cursor is a dictionary
with the position in each group that is not at its end; a group at its end drops out of the cursor, and is read
from its start again in the next call.

* **`MemberQuery`** — the pages of a query for the members of a group.
* **`listUsersInGroup`** — the method.
* **`response`** — the responses when each cursor goes into the next request.
* **`position_response`** — the calls go round in every group, each group at its own pace.
* **`paging_complete`** — the calls come to a response without a cursor, and every member was listed by then. -/

namespace ContainRes.Accounts

open Store Text

/-- The pages of a query for the members of a group, with at most `limit` rows on a page. -/
structure MemberQuery (κ : Type) where
  pages : ℕ → String → Table (String × String) Unit → PagedRows κ String
  perm : ∀ limit g t, (pages limit g t).rows.Perm ((t.queryKeys fun key => key.1 = g).map Prod.snd)
  length_le : ∀ limit g t, 1 ≤ limit → ∀ page ∈ (pages limit g t).pages, page.length ≤ limit

structure ListUsersInGroupRequest where
  groupNames : List String
  paginator : Option SocaPaginator := none

def ListUsersInGroupRequest.pageSize (request : ListUsersInGroupRequest) : Option ℤ :=
  match request.paginator with
  | none => some 20
  | some paginator => paginator.pageSize

section Method

variable {κ : Type} [DecidableEq κ]

/-- `keys[name] = key` on a dictionary. -/
def setKey (keys : List (String × κ)) (name : String) (key : κ) : List (String × κ) :=
  if keys.any fun entry => entry.1 = name then
    keys.map fun entry => if entry.1 = name then (name, key) else entry
  else keys ++ [(name, key)]

/-- What the loop over the groups collects: `username_set`, `users` and `last_evaluated_keys`. -/
structure PageProgress (κ : Type) where
  usernameSet : List String := []
  users : List User := []
  lastEvaluatedKeys : List (String × κ) := []

variable (query : MemberQuery κ) (json : JsonObjects (List (String × κ))) (db : Db)

/-- The body of the loop over the members on a page. -/
def visitMember (progress : PageProgress κ) (username : String) : Except Exc (PageProgress κ) :=
  if username ∈ progress.usernameSet then .ok progress
  else
    match ((UserDao.getUser username).run db).1 with
    | .error e => .error e
    | .ok none => .ok { progress with usernameSet := username :: progress.usernameSet }
    | .ok (some row) => .ok { progress with
        usernameSet := username :: progress.usernameSet
        users := progress.users ++ [UserDao.convertFromDb (sanitized username) row] }

/-- The body of the loop over the groups. -/
def visitGroup (limit : ℕ) (exclusiveStartKeys : List (String × κ)) (progress : PageProgress κ)
    (groupName : String) : Except Exc (PageProgress κ) := do
  let answer := (query.pages limit groupName db.groupMembers).read (exclusiveStartKeys.lookup groupName)
  let progress ← answer.1.foldlM (visitMember db) progress
  return match answer.2 with
    | none => progress
    | some key => { progress with
        lastEvaluatedKeys := setKey progress.lastEvaluatedKeys groupName key }

/-- The start keys of a request. -/
def startKeys (cursor : Option String) : Except Exc (List (String × κ)) :=
  match cursor with
  | none => .ok []
  | some cursor => if isEmpty cursor then .ok [] else decodeCursor json cursor

/-- The cursor of a response: there is none without a key. -/
def responseCursor (lastEvaluatedKeys : List (String × κ)) : Option String :=
  if lastEvaluatedKeys = [] then none else some (encodeCursor json lastEvaluatedKeys)

/-- `list_users_in_group(request)`. A page size that is not positive is refused by the client library. -/
def listUsersInGroup (request : ListUsersInGroupRequest) : Except Exc (ListResult User) :=
  if request.groupNames = [] then .error (.invalidParams "group_names are required")
  else do
    let exclusiveStartKeys ← startKeys json (request.paginator.bind SocaPaginator.cursor)
    match request.pageSize with
    | none => .error unknownParameter
    | some limit =>
      if limit < 1 then .error unknownParameter
      else do
        let progress ← request.groupNames.foldlM (visitGroup query db limit.toNat exclusiveStartKeys) {}
        return {
          listing := progress.users
          paginator := {
            pageSize := request.pageSize
            cursor := responseCursor json progress.lastEvaluatedKeys } }

/-- The responses to the requests for some groups: each cursor goes into the next request. -/
def response (limit : ℕ) (groupNames : List String) : ℕ → Except Exc (ListResult User)
  | 0 => listUsersInGroup query json db ⟨groupNames, some { pageSize := some limit }⟩
  | k + 1 => do
    let before ← response limit groupNames k
    listUsersInGroup query json db
      ⟨groupNames, some { pageSize := some limit, cursor := before.paginator.cursor }⟩

end Method

/-! ## What one call does -/

section Call

variable {κ : Type} [DecidableEq κ] {query : MemberQuery κ} {json : JsonObjects (List (String × κ))} {db : Db}

/-- Every user that was visited and exists is listed. -/
def Listed (db : Db) (progress : PageProgress κ) : Prop :=
  ∀ username ∈ progress.usernameSet, ∀ row, db.users.getItem (sanitized username) = some row →
    UserDao.convertFromDb (sanitized username) row ∈ progress.users

/-- What the visit of members leaves. -/
structure Visited (db : Db) (usernames : List String) (progress progress' : PageProgress κ) : Prop where
  listed : Listed db progress'
  mono : progress.usernameSet ⊆ progress'.usernameSet
  visited : ∀ username ∈ usernames, username ∈ progress'.usernameSet
  keys : progress'.lastEvaluatedKeys = progress.lastEvaluatedKeys

variable {progress : PageProgress κ}

omit [DecidableEq κ] in
theorem visitMember_ok (h : Listed db progress) {username : String} (hblank : isEmpty username = false) :
    ∃ progress', visitMember db progress username = .ok progress' ∧ Visited db [username] progress progress' := by
  unfold visitMember
  by_cases hold : username ∈ progress.usernameSet
  · rw [if_pos hold]
    refine ⟨progress, rfl, h, fun _ hx => hx, fun u hu => ?_, rfl⟩
    rw [List.mem_singleton.mp hu]
    exact hold
  · rw [if_neg hold, UserDao.run_getUser, hblank]
    cases hrow : db.users.getItem (sanitized username) with
    | none =>
      refine ⟨_, rfl, fun u hu row hget => ?_, fun u hu => List.mem_cons_of_mem _ hu, fun u hu => ?_, rfl⟩
      · obtain rfl | hu := List.mem_cons.mp hu
        · exact nomatch hrow.symm.trans hget
        · exact h u hu row hget
      · rw [List.mem_singleton.mp hu]
        exact List.mem_cons_self
    | some row =>
      refine ⟨_, rfl, fun u hu row' hget => ?_, fun u hu => List.mem_cons_of_mem _ hu, fun u hu => ?_, rfl⟩
      · obtain rfl | hu := List.mem_cons.mp hu
        · obtain rfl := Option.some.inj (hrow.symm.trans hget)
          exact List.mem_append_right _ (List.mem_singleton.mpr rfl)
        · exact List.mem_append_left _ (h u hu row' hget)
      · rw [List.mem_singleton.mp hu]
        exact List.mem_cons_self

omit [DecidableEq κ] in
/-- The loop over the members of a page visits them all. -/
theorem visitMembers_ok {usernames : List String} (hblank : ∀ u ∈ usernames, isEmpty u = false)
    (h : Listed db progress) : ∃ progress',
    usernames.foldlM (visitMember db) progress = .ok progress' ∧ Visited db usernames progress progress' := by
  induction usernames generalizing progress with
  | nil => exact ⟨progress, rfl, h, fun _ hx => hx, nofun, rfl⟩
  | cons username rest ih =>
    obtain ⟨progress₁, hfirst, hvisited₁⟩ := visitMember_ok h (hblank username List.mem_cons_self)
    obtain ⟨progress₂, hrest, hvisited₂⟩ :=
      ih (fun u hu => hblank u (List.mem_cons_of_mem _ hu)) hvisited₁.listed
    refine ⟨progress₂, ?_, hvisited₂.listed, List.Subset.trans hvisited₁.mono hvisited₂.mono, fun u hu => ?_,
      hvisited₂.keys.trans hvisited₁.keys⟩
    · rw [List.foldlM_cons, hfirst]
      exact hrest
    · obtain rfl | hu := List.mem_cons.mp hu
      · exact hvisited₂.mono (hvisited₁.visited u (List.mem_singleton.mpr rfl))
      · exact hvisited₂.visited u hu

variable {limit : ℕ} {starts : List (String × κ)}

/-- The page of a group that a call reads. -/
def answerOf (query : MemberQuery κ) (db : Db) (limit : ℕ) (starts : List (String × κ)) (groupName : String) :
    List String × Option κ :=
  (query.pages limit groupName db.groupMembers).read (starts.lookup groupName)

/-- The entry of a group in the cursor. -/
def entryOf (query : MemberQuery κ) (db : Db) (limit : ℕ) (starts : List (String × κ)) (groupName : String) :
    Option (String × κ) :=
  (answerOf query db limit starts groupName).2.map fun key => (groupName, key)

/-- The members on a page are members. -/
theorem has_of_mem_answer {groupName username : String}
    (h : username ∈ (answerOf query db limit starts groupName).1) : db.groupMembers.Has (groupName, username) := by
  have hrow : username ∈ (query.pages limit groupName db.groupMembers).rows := by
    have hpage : ∀ n, username ∈ ((query.pages limit groupName db.groupMembers).page n).1 →
        username ∈ (query.pages limit groupName db.groupMembers).rows := by
      intro n hn
      have hmem : username ∈ (query.pages limit groupName db.groupMembers).pages.getD n [] := hn
      rw [List.getD_eq_getElem?_getD] at hmem
      cases hget : (query.pages limit groupName db.groupMembers).pages[n]? with
      | none =>
        rw [hget] at hmem
        exact absurd hmem List.not_mem_nil
      | some page =>
        rw [hget] at hmem
        exact List.mem_flatten.mpr ⟨page, List.mem_of_getElem? hget, hmem⟩
    exact hpage _ h
  have hmem := ((query.perm limit groupName db.groupMembers).mem_iff).mp hrow
  obtain ⟨⟨g, u⟩, hkey, rfl⟩ := List.mem_map.mp hmem
  obtain ⟨hhas, hg⟩ := Table.mem_queryKeys.mp hkey
  obtain rfl : g = groupName := of_decide_eq_true hg
  exact hhas

omit [DecidableEq κ] in
theorem setKey_of_not_mem {keys : List (String × κ)} {name : String} (h : name ∉ keys.map Prod.fst) (key : κ) :
    setKey keys name key = keys ++ [(name, key)] := by
  unfold setKey
  rw [if_neg]
  intro hany
  obtain ⟨entry, hentry, heq⟩ := List.any_eq_true.mp hany
  exact h (List.mem_map.mpr ⟨entry, hentry, of_decide_eq_true heq⟩)

theorem mem_of_mem_entries {groupNames : List String} {name : String}
    (h : name ∈ (groupNames.filterMap (entryOf query db limit starts)).map Prod.fst) : name ∈ groupNames := by
  obtain ⟨entry, hentry, rfl⟩ := List.mem_map.mp h
  obtain ⟨g, hg, hsome⟩ := List.mem_filterMap.mp hentry
  obtain ⟨key, -, rfl⟩ := Option.map_eq_some_iff.mp hsome
  exact hg

/-- What the loop over the groups leaves, after some groups. -/
structure GroupsVisited (query : MemberQuery κ) (db : Db) (limit : ℕ) (starts : List (String × κ))
    (groupNames : List String) (progress : PageProgress κ) : Prop where
  listed : Listed db progress
  visited : ∀ g ∈ groupNames, ∀ username ∈ (answerOf query db limit starts g).1, username ∈ progress.usernameSet
  keys : progress.lastEvaluatedKeys = groupNames.filterMap (entryOf query db limit starts)

theorem visitGroup_ok (hblank : ∀ g u, db.groupMembers.Has (g, u) → isEmpty u = false) {done : List String}
    {groupName : String} (hnew : groupName ∉ done)
    (h : GroupsVisited query db limit starts done progress) : ∃ progress',
    visitGroup query db limit starts progress groupName = .ok progress' ∧
      GroupsVisited query db limit starts (done ++ [groupName]) progress' := by
  have hpage : ∀ u ∈ (answerOf query db limit starts groupName).1, isEmpty u = false := fun u hu =>
    hblank groupName u (has_of_mem_answer hu)
  obtain ⟨progress₁, hrun, hvisited⟩ := visitMembers_ok hpage h.listed
  have hkeys : progress₁.lastEvaluatedKeys = done.filterMap (entryOf query db limit starts) :=
    hvisited.keys.trans h.keys
  have hmembers : ∀ g ∈ done ++ [groupName], ∀ username ∈ (answerOf query db limit starts g).1,
      username ∈ progress₁.usernameSet := by
    intro g hg username husername
    obtain hg | hg := List.mem_append.mp hg
    · exact hvisited.mono (h.visited g hg username husername)
    · rw [List.mem_singleton.mp hg] at husername
      exact hvisited.visited username husername
  have hentries : (done ++ [groupName]).filterMap (entryOf query db limit starts) =
      done.filterMap (entryOf query db limit starts) ++ (entryOf query db limit starts groupName).toList := by
    rw [List.filterMap_append, List.filterMap_cons, List.filterMap_nil]
    cases entryOf query db limit starts groupName <;> rfl
  have hunfold : visitGroup query db limit starts progress groupName =
      ((answerOf query db limit starts groupName).1.foldlM (visitMember db) progress >>= fun progress =>
        pure (match (answerOf query db limit starts groupName).2 with
          | none => progress
          | some key => { progress with
              lastEvaluatedKeys := setKey progress.lastEvaluatedKeys groupName key })) := rfl
  rw [hunfold, hrun]
  cases hlast : (answerOf query db limit starts groupName).2 with
  | none =>
    refine ⟨progress₁, rfl, hvisited.listed, hmembers, ?_⟩
    rw [hentries, entryOf, hlast, hkeys]
    exact (List.append_nil _).symm
  | some key =>
    refine ⟨_, rfl, hvisited.listed, hmembers, ?_⟩
    rw [hentries, entryOf, hlast]
    show setKey progress₁.lastEvaluatedKeys groupName key = _
    rw [setKey_of_not_mem (fun hmem => ?_), hkeys]
    · rfl
    · rw [hkeys] at hmem
      exact hnew (mem_of_mem_entries hmem)

/-- The loop over distinct groups reads a page of each, and collects their keys. -/
theorem visitGroups_ok (hblank : ∀ g u, db.groupMembers.Has (g, u) → isEmpty u = false)
    {done groupNames : List String} (hnodup : (done ++ groupNames).Nodup)
    (h : GroupsVisited query db limit starts done progress) : ∃ progress',
    groupNames.foldlM (visitGroup query db limit starts) progress = .ok progress' ∧
      GroupsVisited query db limit starts (done ++ groupNames) progress' := by
  induction groupNames generalizing done progress with
  | nil => exact ⟨progress, rfl, by rwa [List.append_nil]⟩
  | cons groupName rest ih =>
    have hnew : groupName ∉ done := fun hmem =>
      (List.nodup_append.mp hnodup).2.2 groupName hmem groupName List.mem_cons_self rfl
    obtain ⟨progress₁, hfirst, hvisited₁⟩ := visitGroup_ok hblank hnew h
    have happend : done ++ groupName :: rest = (done ++ [groupName]) ++ rest := by simp
    rw [happend] at hnodup ⊢
    obtain ⟨progress₂, hrest, hvisited₂⟩ := ih hnodup hvisited₁
    refine ⟨progress₂, ?_, hvisited₂⟩
    rw [List.foldlM_cons, hfirst]
    exact hrest

omit [DecidableEq κ] in
theorem startKeys_responseCursor (keys : List (String × κ)) : startKeys json (responseCursor json keys) = .ok keys := by
  unfold responseCursor
  split
  · next hnil =>
      rw [hnil]
      rfl
  · unfold startKeys
    dsimp only
    rw [if_neg (by simp [isEmpty_encodeCursor]), decodeCursor_encodeCursor]

variable (query json) in
/-- A call for distinct groups reads a page of each. -/
theorem listUsersInGroup_ok (hblank : ∀ g u, db.groupMembers.Has (g, u) → isEmpty u = false)
    {groupNames : List String} (hne : groupNames ≠ []) (hnodup : groupNames.Nodup) (hlimit : 1 ≤ limit)
    {cursor : Option String} (hstarts : startKeys json cursor = .ok starts) : ∃ progress,
    listUsersInGroup query json db ⟨groupNames, some { pageSize := some limit, cursor := cursor }⟩ = .ok {
        listing := progress.users
        paginator := {
          pageSize := some limit
          cursor := responseCursor json progress.lastEvaluatedKeys } } ∧
      GroupsVisited query db limit starts groupNames progress := by
  have hstart : GroupsVisited query db limit starts [] {} := ⟨nofun, nofun, rfl⟩
  obtain ⟨progress, hrun, hvisited⟩ := visitGroups_ok hblank (show ([] ++ groupNames).Nodup from hnodup) hstart
  refine ⟨progress, ?_, hvisited⟩
  have hlimit' : ¬ (limit : ℤ) < 1 := by omega
  have hcursor : (some { pageSize := some (limit : ℤ), cursor := cursor } : Option SocaPaginator).bind
      SocaPaginator.cursor = cursor := rfl
  unfold listUsersInGroup
  rw [if_neg hne]
  dsimp only
  rw [hcursor, hstarts]
  show (if (limit : ℤ) < 1 then _ else _) = _
  rw [if_neg hlimit', Int.toNat_natCast, hrun]
  rfl

end Call

/-! ## The calls one after another -/

section Paging

variable {κ : Type} [DecidableEq κ] {query : MemberQuery κ} {json : JsonObjects (List (String × κ))} {db : Db}
  {limit : ℕ} {groupNames : List String}

/-- The pages of a group. -/
def groupPages (query : MemberQuery κ) (db : Db) (limit : ℕ) (groupName : String) : PagedRows κ String :=
  query.pages limit groupName db.groupMembers

/-- The keys in the cursor that goes into a call: each group goes round at its own pace. -/
def keysBefore (query : MemberQuery κ) (db : Db) (limit : ℕ) (groupNames : List String) (k : ℕ) :
    List (String × κ) :=
  groupNames.filterMap fun g => ((groupPages query db limit g).startAfter k).map fun key => (g, key)

omit [DecidableEq κ] in
/-- Where a dictionary has the keys of some names, one of these names has its key. -/
theorem lookup_filterMap {f : String → Option κ} {names : List String} {name : String} (h : name ∈ names) :
    (names.filterMap fun g => (f g).map fun key => (g, key)).lookup name = f name := by
  cases hname : f name with
  | none =>
    rw [List.lookup_eq_none_iff]
    intro entry hentry
    obtain ⟨g, -, hg⟩ := List.mem_filterMap.mp hentry
    obtain ⟨key, hkey, rfl⟩ := Option.map_eq_some_iff.mp hg
    have hne : name ≠ g := by
      rintro rfl
      exact nomatch hname.symm.trans hkey
    exact bne_iff_ne.mpr hne
  | some key =>
    induction names with
    | nil => exact absurd h List.not_mem_nil
    | cons first rest ih =>
      by_cases hfirst : first = name
      · subst hfirst
        rw [List.filterMap_cons_some (b := (first, key)) (by rw [hname]; rfl), List.lookup_cons_self]
      · have hrest := ih ((List.mem_cons.mp h).resolve_left fun heq => hfirst heq.symm)
        cases hf : f first with
        | none => rwa [List.filterMap_cons_none (by rw [hf]; rfl)]
        | some key' =>
          rw [List.filterMap_cons_some (b := (first, key')) (by rw [hf]; rfl), List.lookup_cons,
            beq_false_of_ne (fun heq => hfirst heq.symm)]
          exact hrest

theorem answerOf_keysBefore {g : String} (hg : g ∈ groupNames) (k : ℕ) :
    answerOf query db limit (keysBefore query db limit groupNames k) g =
      (groupPages query db limit g).read ((groupPages query db limit g).startAfter k) := by
  rw [answerOf, keysBefore, lookup_filterMap hg]
  rfl

theorem entries_keysBefore (k : ℕ) :
    groupNames.filterMap (entryOf query db limit (keysBefore query db limit groupNames k)) =
      keysBefore query db limit groupNames (k + 1) := by
  refine List.filterMap_congr fun g hg => ?_
  rw [entryOf, answerOf_keysBefore hg]
  rfl

/-- What the response to a call holds: the positions after it, and the existing users on the pages it read. -/
structure PageListed (query : MemberQuery κ) (json : JsonObjects (List (String × κ))) (db : Db) (limit : ℕ)
    (groupNames : List String) (k : ℕ) (r : ListResult User) : Prop where
  cursor : r.paginator.cursor = responseCursor json (keysBefore query db limit groupNames (k + 1))
  listed : ∀ g ∈ groupNames,
    ∀ u ∈ ((groupPages query db limit g).read ((groupPages query db limit g).startAfter k)).1,
      ∀ row, db.users.getItem (sanitized u) = some row → UserDao.convertFromDb (sanitized u) row ∈ r.listing

variable (query json) in
/-- One call, from the positions before it. -/
theorem call_ok (hblank : ∀ g u, db.groupMembers.Has (g, u) → isEmpty u = false)
    (hne : groupNames ≠ []) (hnodup : groupNames.Nodup) (hlimit : 1 ≤ limit) {k : ℕ} {cursor : Option String}
    (hcursor : startKeys json cursor = .ok (keysBefore query db limit groupNames k)) : ∃ r,
    listUsersInGroup query json db ⟨groupNames, some { pageSize := some limit, cursor := cursor }⟩ = .ok r ∧
      PageListed query json db limit groupNames k r := by
  obtain ⟨progress, hrun, hvisited⟩ := listUsersInGroup_ok query json hblank hne hnodup hlimit hcursor
  refine ⟨_, hrun, ?_, fun g hg u hu row hrow => ?_⟩
  · show responseCursor json progress.lastEvaluatedKeys = _
    rw [hvisited.keys, entries_keysBefore]
  · rw [← answerOf_keysBefore hg] at hu
    exact hvisited.listed u (hvisited.visited g hg u hu) row hrow

variable (query json) in
/-- **The calls.** Every call is answered from the positions that the calls before it left. -/
theorem response_ok (hblank : ∀ g u, db.groupMembers.Has (g, u) → isEmpty u = false)
    (hne : groupNames ≠ []) (hnodup : groupNames.Nodup) (hlimit : 1 ≤ limit) (k : ℕ) : ∃ r,
    response query json db limit groupNames k = .ok r ∧ PageListed query json db limit groupNames k r := by
  induction k with
  | zero =>
    have hnone : keysBefore query db limit groupNames 0 = [] := by
      rw [keysBefore, List.filterMap_eq_nil_iff]
      exact fun g _ => rfl
    have hfirst : startKeys json none = .ok (keysBefore query db limit groupNames 0) := by rw [hnone]; rfl
    exact call_ok query json hblank hne hnodup hlimit hfirst
  | succ k ih =>
    obtain ⟨before, hbefore, hlisted⟩ := ih
    obtain ⟨r, hr, hnext⟩ := call_ok query json hblank hne hnodup hlimit
      (startKeys_responseCursor (keysBefore query db limit groupNames (k + 1)))
    refine ⟨r, ?_, hnext⟩
    rw [response, hbefore]
    show listUsersInGroup query json db
      ⟨groupNames, some { pageSize := some limit, cursor := before.paginator.cursor }⟩ = _
    rw [hlisted.cursor, hr]

/-- A call answers no cursor exactly when it ends a round in every group. -/
theorem cursor_none_iff (k : ℕ) : responseCursor json (keysBefore query db limit groupNames (k + 1)) = none ↔
      ∀ g ∈ groupNames, (groupPages query db limit g).count ∣ k + 1 := by
  have hnil : keysBefore query db limit groupNames (k + 1) = [] ↔
      ∀ g ∈ groupNames, (groupPages query db limit g).startAfter (k + 1) = none := by
    rw [keysBefore, List.filterMap_eq_nil_iff]
    simp only [Option.map_eq_none_iff]
  have hcursor : responseCursor json (keysBefore query db limit groupNames (k + 1)) = none ↔
      keysBefore query db limit groupNames (k + 1) = [] := by
    unfold responseCursor
    split
    · next h => exact ⟨fun _ => h, fun _ => rfl⟩
    · next h => exact ⟨nofun, fun h' => absurd h' h⟩
  rw [hcursor, hnil]
  exact forall₂_congr fun g _ => (groupPages query db limit g).done_iff k

omit [DecidableEq κ] in
/-- Some call ends a round in every group. -/
theorem exists_common_end (query : MemberQuery κ) (db : Db) (limit : ℕ) (groupNames : List String) :
    ∃ k, ∀ g ∈ groupNames, (groupPages query db limit g).count ∣ k + 1 := by
  have hpos : 0 < (groupNames.map fun g => (groupPages query db limit g).count).prod := by
    apply List.prod_pos
    intro n hn
    obtain ⟨g, -, rfl⟩ := List.mem_map.mp hn
    exact (groupPages query db limit g).count_pos
  refine ⟨(groupNames.map fun g => (groupPages query db limit g).count).prod - 1, fun g hg => ?_⟩
  rw [Nat.sub_add_cancel hpos]
  exact List.dvd_prod (List.mem_map.mpr ⟨g, hg, rfl⟩)

/-- **Paging through the members.** For distinct groups and a positive page size, the calls that hand each
cursor on come to a response without one, and every existing user that is a member of one of the groups is
listed in the responses up to it. -/
theorem paging_complete (query : MemberQuery κ) (json : JsonObjects (List (String × κ))) (db : Db)
    (hblank : ∀ g u, db.groupMembers.Has (g, u) → isEmpty u = false) (hne : groupNames ≠ [])
    (hnodup : groupNames.Nodup) (hlimit : 1 ≤ limit) : ∃ last,
    (∀ k ≤ last, ∃ r, response query json db limit groupNames k = .ok r ∧ (r.paginator.cursor = none ↔ k = last)) ∧
    ∀ g ∈ groupNames, ∀ u, db.groupMembers.Has (g, u) → ∀ row, db.users.getItem (sanitized u) = some row →
      ∃ k ≤ last, ∃ r, response query json db limit groupNames k = .ok r ∧
        UserDao.convertFromDb (sanitized u) row ∈ r.listing := by
  classical
  -- the first call that ends a round in every group
  have hends := exists_common_end query db limit groupNames
  refine ⟨Nat.find hends, fun k hk => ?_, fun g hg u hmember row hrow => ?_⟩
  · obtain ⟨r, hr, hlisted⟩ := response_ok query json hblank hne hnodup hlimit k
    refine ⟨r, hr, ?_⟩
    rw [hlisted.cursor, cursor_none_iff]
    constructor
    · intro hend
      exact le_antisymm hk (Nat.find_min' hends hend)
    · rintro rfl
      exact Nat.find_spec hends
  · have hrows : u ∈ (groupPages query db limit g).rows := by
      refine ((query.perm limit g db.groupMembers).mem_iff).mpr (List.mem_map.mpr ⟨(g, u), ?_, rfl⟩)
      exact Table.mem_queryKeys.mpr ⟨hmember, decide_eq_true rfl⟩
    obtain ⟨k, hk, hu⟩ := (groupPages query db limit g).mem_rows_iff.mp hrows
    have hround := Nat.le_of_dvd (Nat.succ_pos _) (Nat.find_spec hends g hg)
    obtain ⟨r, hr, hlisted⟩ := response_ok query json hblank hne hnodup hlimit k
    exact ⟨k, by omega, r, hr, hlisted.listed g hg u hu row hrow⟩

end Paging

/-- One member on a page. -/
def MemberQuery.oneByOne : MemberQuery ℕ where
  pages _ g t :=
    ⟨[] :: ((t.queryKeys fun key => key.1 = g).map fun key => [key.2]), List.cons_ne_nil _ _, id, Function.injective_id⟩
  perm _ g t := by
    rw [PagedRows.rows, List.flatten_cons, List.nil_append, ← List.flatMap_def, List.map_eq_flatMap]
  length_le limit g t hlimit page hpage := by
    obtain rfl | hpage := List.mem_cons.mp hpage
    · exact Nat.zero_le _
    · obtain ⟨key, -, rfl⟩ := List.mem_map.mp hpage
      exact hlimit

/-- Two groups of different sizes. -/
def twoGroups : Db :=
  (({ twoUsers with groupMembers := ∅ }.join "a" "alice").join "b" "alice").join "b" "bob"

/-- The members of two groups are listed. -/
theorem paging_twoGroups : ∃ last,
    (∀ k ≤ last, ∃ r, response MemberQuery.oneByOne (JsonObjects.ofEncodable _) twoGroups 1 ["a", "b"] k = .ok r ∧
      (r.paginator.cursor = none ↔ k = last)) ∧ ∀ g ∈ ["a", "b"], ∀ u, twoGroups.groupMembers.Has (g, u) → ∀ row,
      twoGroups.users.getItem (sanitized u) = some row → ∃ k ≤ last, ∃ r,
          response MemberQuery.oneByOne (JsonObjects.ofEncodable _) twoGroups 1 ["a", "b"] k = .ok r ∧
            UserDao.convertFromDb (sanitized u) row ∈ r.listing := by
  refine paging_complete MemberQuery.oneByOne (JsonObjects.ofEncodable _) twoGroups (fun g u hmember => ?_)
    (by decide) (by decide) le_rfl
  simp only [twoGroups, Db.join, Table.has_putItem, Prod.mk.injEq, Table.not_has_empty, or_false] at hmember
  obtain ⟨-, rfl⟩ | ⟨-, rfl⟩ | ⟨-, rfl⟩ := hmember
  · decide
  · decide
  · decide

end ContainRes.Accounts
