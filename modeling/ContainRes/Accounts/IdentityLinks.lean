import Mathlib.Data.List.Nodup
import ContainRes.Common.Exceptions
import ContainRes.Effects.Proc
import ContainRes.Store.PagedScan
import ContainRes.Text.Python

/-! # Links of existing users to the identity provider

When a single sign-on is set up, the users that are in the user pool already are linked to the identity provider one
by one. `link_existing_users` lists the pool in a loop and sends a request for each user that qualifies.

* **`PoolUser`**, **`UserPool`** — the users with their attributes, in the pages of `list_users`.
* **`linkUser`**, **`linkExistingUsers`** — the body of the loop over the users, and the method.
* **`ShouldLink`** — the users that the requests are for.
* **`CoversUsers`** — the method ends and has sent one request for each of them and none for any other user.
* **`run_linkUsers`** — what one round sends; **`run_linkExistingUsers_of_more`** — a second page is never asked for.
* **`coversUsers_iff`** — the pools and administrators for which the method does what it is for. -/

namespace ContainRes.Accounts

open Effects Store Text

/-! ## The user pool -/

/-- An entry of the `identities` attribute. -/
structure ProviderIdentity where
  providerName : String
  deriving DecidableEq

/-- The value of an attribute, as `Utils.get_value_as_string` and `Utils.get_value_as_list` tell it apart. -/
inductive UserAttributeValue
  | text (s : String)
  | identities (entries : List ProviderIdentity)

/-- A user as `list_users` answers it: every value is a text. -/
structure PoolUser where
  username : String
  userStatus : String
  attributes : List (String × String)
  nodup : (attributes.map Prod.fst).Nodup

/-- The value of an attribute of a user. -/
def PoolUser.attribute (u : PoolUser) (name : String) : Option String :=
  (u.attributes.find? fun a => a.1 = name).map Prod.snd

/-- A `PaginationToken`. -/
abbrev PaginationToken := {token : String // isEmpty token = false}

/-- The pages of a user pool, in which every user has a name of its own. -/
structure UserPool where
  pages : PagedRows PaginationToken PoolUser
  nodup : (pages.rows.map PoolUser.username).Nodup

/-- The settings that `link_existing_users` reads, all of them required. -/
structure LinkSettings where
  userPoolId : String
  providerName : String
  providerType : String
  providerEmailAttribute : String
  clusterAdminUsername : String

/-- The arguments of `admin_link_provider_for_user`. -/
structure LinkRequest where
  userPoolId : String
  destinationProviderName : String
  destinationAttributeName : String
  destinationAttributeValue : String
  sourceProviderName : String
  sourceAttributeName : String
  sourceAttributeValue : String
  deriving DecidableEq

/-- What is outside the method: how the `n`-th link call ends, what a link changes in a user, and `json.loads`. -/
structure LinkEnvironment where
  outcome : ℕ → Except Exc Unit
  linked : LinkRequest → PoolUser → PoolUser
  /-- The identities that the text of an `identities` attribute stands for. -/
  parseIdentities : String → List ProviderIdentity

/-- The pool, and the requests sent so far. -/
structure LinkState where
  pool : PagedRows PaginationToken PoolUser
  requests : List LinkRequest

/-- A change of every user of a pool. -/
def mapUsers (f : PoolUser → PoolUser) (pool : PagedRows PaginationToken PoolUser) :
    PagedRows PaginationToken PoolUser where
  pages := pool.pages.map (List.map f)
  pages_ne_nil h := pool.pages_ne_nil (List.map_eq_nil_iff.mp h)
  lastKey := pool.lastKey
  lastKey_injective := pool.lastKey_injective

@[simp] theorem count_mapUsers (f : PoolUser → PoolUser) (pool : PagedRows PaginationToken PoolUser) :
    (mapUsers f pool).count = pool.count := List.length_map _

/-! ## `link_existing_users` -/

/-- `Utils.get_value_as_list('Value', user_attribute, [])`. -/
def getAsList : UserAttributeValue → List ProviderIdentity
  | .text _ => []
  | .identities entries => entries

/-- `Utils.get_value_as_string('Value', user_attribute)` of a text. -/
def valueAsString : UserAttributeValue → Option String
  | .text s => getAsString (some s)
  | .identities _ => none

/-- One attribute in the loop over the attributes, which keeps the email and whether the user is linked. -/
def scanAttribute (providerName : String) (found : Option String × Bool) (userAttribute : String × UserAttributeValue) :
    Option String × Bool :=
  if userAttribute.1 = "email" then (valueAsString userAttribute.2, found.2)
  else if userAttribute.1 = "identities" then
    (found.1, found.2 || (getAsList userAttribute.2).any fun identity => identity.providerName = providerName)
  else found

/-- The loop over the attributes of a user. -/
def scanAttributes (providerName : String) (u : PoolUser) : Option String × Bool :=
  (u.attributes.map fun a => (a.1, UserAttributeValue.text a.2)).foldl (scanAttribute providerName) (none, false)

/-- The request for a user with an email. -/
def linkRequest (settings : LinkSettings) (username email : String) : LinkRequest where
  userPoolId := settings.userPoolId
  destinationProviderName := "Cognito"
  destinationAttributeName := "cognito:username"
  destinationAttributeValue := username
  sourceProviderName := settings.providerName
  sourceAttributeName := if settings.providerType = "OIDC" then "email" else settings.providerEmailAttribute
  sourceAttributeValue := email

variable (settings : LinkSettings) (env : LinkEnvironment)

/-- The call of `admin_link_provider_for_user`. -/
def adminLinkProviderForUser (request : LinkRequest) : Proc LinkState Exc PUnit := do
  let n ← Proc.gets fun s => s.requests.length
  Proc.modify fun s => { s with requests := s.requests ++ [request] }
  match env.outcome n with
  | .error e => Proc.raise e
  | .ok _ => Proc.modify fun s => { s with pool := mapUsers (env.linked request) s.pool }

/-- The body of the loop over the users, inside its `try`. -/
def linkUser (user : PoolUser) : Proc LinkState Exc PUnit :=
  if user.userStatus = "EXTERNAL_PROVIDER" then pure ⟨⟩
  else if contains user.username settings.clusterAdminUsername || startsWith user.username "clusteradmin" then pure ⟨⟩
  else match scanAttributes settings.providerName user with
    | (none, _) => pure ⟨⟩
    | (some _, true) => pure ⟨⟩
    | (some email, false) => adminLinkProviderForUser env (linkRequest settings user.username email)

/-- The loop over the users of an answer: an exception ends the turn of its user only. -/
def linkUsers (users : List PoolUser) : Proc LinkState Exc PUnit :=
  Proc.forEach (fun user => Proc.tryCatch (linkUser settings env user) fun _ => pure ⟨⟩) users

/-- `SingleSignOnHelper.link_existing_users()`: `none` when the fuel, the number of rounds, is used up. Every round
calls `list_users(UserPoolId=..)` without a token. -/
def linkExistingUsers : ℕ → Proc LinkState Exc (Option PUnit.{1})
  | 0 => pure none
  | fuel + 1 => do
    let listUsersResult ← Proc.gets fun s => s.pool.read none
    linkUsers settings env listUsersResult.1
    match listUsersResult.2 with
    | none => pure (some ⟨⟩)
    | some token => if isEmpty token.1 then pure (some ⟨⟩) else linkExistingUsers fuel

/-! ## What it is for -/

/-- The email of a user. -/
def PoolUser.email (u : PoolUser) : Option String := getAsString (u.attribute "email")

/-- The user is linked to the provider already. -/
def PoolUser.isLinked (u : PoolUser) : Bool :=
  (u.attribute "identities").any fun value =>
    (env.parseIdentities value).any fun identity => identity.providerName = settings.providerName

/-- The user has an email, comes from the pool itself and has no name of a system user. -/
def IsCandidate (u : PoolUser) : Prop :=
  u.email.isSome ∧ u.userStatus ≠ "EXTERNAL_PROVIDER" ∧ u.username ≠ settings.clusterAdminUsername ∧
    startsWith u.username "clusteradmin" = false

instance (u : PoolUser) : Decidable (IsCandidate settings u) :=
  inferInstanceAs (Decidable (_ ∧ _ ∧ _ ∧ _))

/-- The users that a request is sent for: the candidates that are not linked yet. -/
def ShouldLink (u : PoolUser) : Prop := IsCandidate settings u ∧ u.isLinked settings env = false

instance (u : PoolUser) : Decidable (ShouldLink settings env u) := inferInstanceAs (Decidable (_ ∧ _))

/-- The requests for the users that should be linked, one for each. -/
def requestsFor (users : List PoolUser) : List LinkRequest :=
  users.filterMap fun u => if ShouldLink settings env u then u.email.map (linkRequest settings u.username) else none

/-- **What linking is for.** The method ends, and it has sent one request for each user that should be linked and
none for any other user. -/
def CoversUsers (pool : UserPool) : Prop :=
  ∃ fuel final, Proc.Returns (linkExistingUsers settings env fuel) ⟨pool.pages, []⟩ (some ⟨⟩) final ∧
    final.requests.Perm (requestsFor settings env pool.pages.rows)

/-! ## One user -/

/-- The loop over the attributes finds the last email, and no identity in a text. -/
theorem foldl_scanAttribute (providerName : String) (attributes : List (String × String))
    (hnodup : (attributes.map Prod.fst).Nodup) (found : Option String × Bool) :
    (attributes.map fun a => (a.1, UserAttributeValue.text a.2)).foldl (scanAttribute providerName) found =
      (((attributes.find? fun a => a.1 = "email").map fun a => getAsString (some a.2)).getD found.1, found.2) := by
  induction attributes generalizing found with
  | nil => rfl
  | cons a attributes ih =>
    rw [List.map_cons, List.nodup_cons] at hnodup
    rw [List.map_cons, List.foldl_cons, ih hnodup.2, scanAttribute]
    by_cases hemail : a.1 = "email"
    · -- no later attribute is an email
      have hlater : (attributes.find? fun b => b.1 = "email") = none := by
        rw [List.find?_eq_none]
        intro b hb hname
        exact hnodup.1 (by rw [hemail, ← of_decide_eq_true hname]; exact List.mem_map_of_mem hb)
      rw [if_pos hemail, hlater, List.find?_cons_of_pos (by simpa using hemail)]
      rfl
    · rw [if_neg hemail, List.find?_cons_of_neg (by simpa using hemail)]
      split
      · simp [getAsList]
      · rfl

theorem scanAttributes_eq (providerName : String) (u : PoolUser) :
    scanAttributes providerName u = (u.email, false) := by
  rw [scanAttributes, foldl_scanAttribute _ _ u.nodup, PoolUser.email, PoolUser.attribute]
  cases u.attributes.find? fun a => a.1 = "email" <;> rfl

/-- The request that the loop sends for a user. -/
def requestOf (u : PoolUser) : Option LinkRequest :=
  if u.userStatus = "EXTERNAL_PROVIDER" ∨ contains u.username settings.clusterAdminUsername = true ∨
      startsWith u.username "clusteradmin" = true then none
  else u.email.map (linkRequest settings u.username)

variable {settings env}

/-- The call sends its request and keeps the number of pages, whether it succeeds or not. -/
theorem run_adminLinkProviderForUser (request : LinkRequest) (s : LinkState) :
    ((adminLinkProviderForUser env request).run s).2.requests = s.requests ++ [request] ∧
      ((adminLinkProviderForUser env request).run s).2.pool.count = s.pool.count := by
  unfold adminLinkProviderForUser
  rw [Proc.run_bind_of_ok (Proc.run_gets _ s), Proc.run_bind_of_ok (Proc.run_modify _ s)]
  cases env.outcome s.requests.length with
  | error e => exact ⟨rfl, rfl⟩
  | ok _ => exact ⟨rfl, count_mapUsers _ _⟩

theorem run_linkUser (settings : LinkSettings) (env : LinkEnvironment) (u : PoolUser) (s : LinkState) :
    ((linkUser settings env u).run s).2.requests = s.requests ++ (requestOf settings u).toList ∧
      ((linkUser settings env u).run s).2.pool.count = s.pool.count := by
  unfold linkUser requestOf
  by_cases hexternal : u.userStatus = "EXTERNAL_PROVIDER"
  · rw [if_pos hexternal, if_pos (Or.inl hexternal)]
    exact ⟨(List.append_nil _).symm, rfl⟩
  by_cases hsystem : contains u.username settings.clusterAdminUsername = true ∨
      startsWith u.username "clusteradmin" = true
  · rw [if_neg hexternal, if_pos (by simpa using hsystem), if_pos (Or.inr hsystem)]
    exact ⟨(List.append_nil _).symm, rfl⟩
  rw [if_neg hexternal, if_neg (by simpa using hsystem), if_neg (not_or.mpr ⟨hexternal, hsystem⟩), scanAttributes_eq]
  cases u.email with
  | none => exact ⟨(List.append_nil _).symm, rfl⟩
  | some email => exact run_adminLinkProviderForUser _ s

/-- **One round** sends the requests of its users in order, whatever becomes of the single calls. -/
theorem run_linkUsers (settings : LinkSettings) (env : LinkEnvironment) (users : List PoolUser) (s : LinkState) :
    ∃ t, (linkUsers settings env users).run s = (.ok ⟨⟩, t) ∧
      t.requests = s.requests ++ users.filterMap (requestOf settings) ∧ t.pool.count = s.pool.count := by
  induction users generalizing s with
  | nil => exact ⟨s, rfl, (List.append_nil _).symm, rfl⟩
  | cons u users ih =>
    obtain ⟨hrequests, hcount⟩ := run_linkUser settings env u s
    have hhead : (Proc.tryCatch (linkUser settings env u) fun _ => pure ⟨⟩).run s =
        (.ok ⟨⟩, ((linkUser settings env u).run s).2) := by
      rw [Proc.run_tryCatch]
      rcases (linkUser settings env u).run s with ⟨_ | _, t⟩ <;> rfl
    obtain ⟨t, hrun, hlater, hpages⟩ := ih ((linkUser settings env u).run s).2
    refine ⟨t, ?_, ?_, hpages.trans hcount⟩
    · rw [linkUsers, Proc.forEach_cons, Proc.run_bind_of_ok hhead]
      exact hrun
    · rw [hlater, hrequests, List.append_assoc, List.filterMap_cons]
      cases requestOf settings u <;> rfl

/-! ## The rounds -/

/-- **A second page is never asked for.** With more than one page, every round reads the first one and goes on. -/
theorem run_linkExistingUsers_of_more (settings : LinkSettings) (env : LinkEnvironment) (fuel : ℕ) (s : LinkState)
    (h : 1 < s.pool.count) : ((linkExistingUsers settings env fuel).run s).1 = .ok none := by
  induction fuel generalizing s with
  | zero => rfl
  | succ fuel ih =>
    obtain ⟨t, hrun, -, hcount⟩ := run_linkUsers settings env (s.pool.read none).1 s
    have htoken : (s.pool.read none).2 = some (s.pool.lastKey 0) := if_pos h
    rw [linkExistingUsers, Proc.run_bind_of_ok (Proc.run_gets _ s), Proc.run_bind_of_ok hrun, htoken]
    dsimp only
    rw [if_neg (by rw [(s.pool.lastKey 0).2]; exact Bool.false_ne_true)]
    exact ih t (by rw [hcount]; exact h)

/-- One page is one round. -/
theorem run_linkExistingUsers_of_one (settings : LinkSettings) (env : LinkEnvironment) (fuel : ℕ) (s : LinkState)
    (h : s.pool.count = 1) : ∃ t, (linkExistingUsers settings env (fuel + 1)).run s = (.ok (some ⟨⟩), t) ∧
      t.requests = s.requests ++ s.pool.rows.filterMap (requestOf settings) := by
  obtain ⟨t, hrun, hrequests, -⟩ := run_linkUsers settings env (s.pool.read none).1 s
  obtain ⟨users, husers⟩ : ∃ users, s.pool.pages = [users] := List.length_eq_one_iff.mp h
  have hread : s.pool.read none = (s.pool.rows, none) := by
    rw [PagedRows.read_none, PagedRows.page, PagedRows.rows, husers, if_neg (by omega), List.flatten_singleton]
    rfl
  rw [hread] at hrun hrequests
  refine ⟨t, ?_, hrequests⟩
  rw [linkExistingUsers, Proc.run_bind_of_ok (Proc.run_gets _ s), hread, Proc.run_bind_of_ok hrun]
  rfl

/-! ## When everyone is covered -/

/-- The loop and the purpose agree about a user, when the part of the administrator's name and the link go together. -/
theorem requestOf_eq_iff (u : PoolUser) : requestOf settings u =
        (if ShouldLink settings env u then u.email.map (linkRequest settings u.username) else none) ↔
      (IsCandidate settings u → (contains u.username settings.clusterAdminUsername = true ↔
        u.isLinked settings env = true)) := by
  by_cases hcandidate : IsCandidate settings u
  · obtain ⟨hmail, hexternal, -, hprefix⟩ := id hcandidate
    obtain ⟨email, hemail⟩ := Option.isSome_iff_exists.mp hmail
    have hskip : (u.userStatus = "EXTERNAL_PROVIDER" ∨ contains u.username settings.clusterAdminUsername = true ∨
        startsWith u.username "clusteradmin" = true) ↔ contains u.username settings.clusterAdminUsername = true := by
      simp [hexternal, hprefix]
    have hshould : ShouldLink settings env u ↔ u.isLinked settings env = false := and_iff_right hcandidate
    simp only [requestOf, hskip, hshould, hemail, hcandidate, true_implies]
    cases contains u.username settings.clusterAdminUsername <;> cases u.isLinked settings env <;> simp
  · have hshould : ¬ ShouldLink settings env u := fun h => hcandidate h.1
    rw [if_neg hshould]
    refine ⟨fun _ h => absurd h hcandidate, fun _ => ?_⟩
    unfold requestOf
    split
    · rfl
    · -- the only way left not to be a candidate is to have no email
      rename_i hskip
      obtain ⟨hexternal, hpart, hprefix⟩ : _ ∧ _ ∧ _ := by simpa only [not_or] using hskip
      have hadmin : u.username ≠ settings.clusterAdminUsername := fun h => hpart (by rw [h]; exact contains_self _)
      cases hmail : u.email with
      | none => rfl
      | some email =>
        exact absurd ⟨by rw [hmail]; rfl, hexternal, hadmin, Bool.eq_false_iff.mpr hprefix⟩ hcandidate

/-- Every request of a user carries the user's name, so two ways to choose the requests that send the same ones
choose the same for each user. -/
theorem eq_of_perm_filterMap {users : List PoolUser} (hnodup : (users.map PoolUser.username).Nodup)
    {f g : PoolUser → Option LinkRequest} (hf : ∀ u r, f u = some r → r.destinationAttributeValue = u.username)
    (hg : ∀ u r, g u = some r → r.destinationAttributeValue = u.username)
    (h : (users.filterMap f).Perm (users.filterMap g)) {u : PoolUser} (hu : u ∈ users) : f u = g u := by
  have hinj := List.inj_on_of_nodup_map hnodup
  ext r
  constructor
  · intro hr
    obtain ⟨v, hv, hvr⟩ := List.mem_filterMap.mp (h.mem_iff.mp (List.mem_filterMap.mpr ⟨u, hu, hr⟩))
    have hname : v.username = u.username := (hg v r hvr).symm.trans (hf u r hr)
    rwa [hinj hv hu hname] at hvr
  · intro hr
    obtain ⟨v, hv, hvr⟩ := List.mem_filterMap.mp (h.mem_iff.mpr (List.mem_filterMap.mpr ⟨u, hu, hr⟩))
    have hname : v.username = u.username := (hf v r hvr).symm.trans (hg u r hr)
    rwa [hinj hv hu hname] at hvr

theorem username_of_requestOf {u : PoolUser} {r : LinkRequest} (h : requestOf settings u = some r) :
    r.destinationAttributeValue = u.username := by
  unfold requestOf at h
  split at h
  · cases h
  · obtain ⟨email, -, rfl⟩ := Option.map_eq_some_iff.mp h
    rfl

/-- **The method ends and covers everyone exactly when** all users are on one page and, among the candidates, those
whose name is part of the administrator's are those that are linked already. -/
theorem coversUsers_iff (settings : LinkSettings) (env : LinkEnvironment) (pool : UserPool) :
    CoversUsers settings env pool ↔ pool.pages.count = 1 ∧ ∀ u ∈ pool.pages.rows, IsCandidate settings u →
      (contains u.username settings.clusterAdminUsername = true ↔ u.isLinked settings env = true) := by
  constructor
  · rintro ⟨fuel, final, hrun, hperm⟩
    have hone : pool.pages.count = 1 := by
      by_contra hmore
      have hpos := pool.pages.count_pos
      have hnever := run_linkExistingUsers_of_more settings env fuel ⟨pool.pages, []⟩
        (show 1 < pool.pages.count by omega)
      rw [show (linkExistingUsers settings env fuel).run ⟨pool.pages, []⟩ = (.ok (some ⟨⟩), final) from hrun] at hnever
      cases hnever
    refine ⟨hone, fun u hu => (requestOf_eq_iff u).mp ?_⟩
    cases fuel with
    | zero => cases hrun
    | succ fuel =>
      obtain ⟨t, hround, hrequests⟩ := run_linkExistingUsers_of_one settings env fuel
        ⟨pool.pages, []⟩ hone
      have hfinal : final = t := congrArg Prod.snd (hrun.symm.trans hround)
      rw [hfinal, hrequests, List.nil_append] at hperm
      refine eq_of_perm_filterMap pool.nodup (fun u r => username_of_requestOf) (fun u r hr => ?_) hperm hu
      split at hr
      · obtain ⟨email, -, rfl⟩ := Option.map_eq_some_iff.mp hr
        rfl
      · cases hr
  · rintro ⟨hone, hagree⟩
    obtain ⟨t, hround, hrequests⟩ := run_linkExistingUsers_of_one settings env 0
      ⟨pool.pages, []⟩ hone
    have hsame : pool.pages.rows.filterMap (requestOf settings) = requestsFor settings env pool.pages.rows :=
      List.filterMap_congr fun u hu => (requestOf_eq_iff u).mpr (hagree u hu)
    refine ⟨1, t, hround, ?_⟩
    rw [hrequests, List.nil_append, hsame]

/-! ## A pool of two pages -/

/-- The token after a page: as many letters as pages so far. -/
def pageToken (n : ℕ) : PaginationToken :=
  ⟨String.ofList (List.replicate (n + 1) 'p'), by
    rw [← Bool.not_eq_true, Text.isEmpty_iff]
    intro h
    have hp := h 'p' (by rw [String.toList_ofList]; exact List.mem_replicate.mpr ⟨n.succ_ne_zero, rfl⟩)
    exact absurd hp (by decide)⟩

theorem pageToken_injective : Function.Injective pageToken := by
  intro n m h
  have hlength := congrArg (fun token : PaginationToken => token.1.toList.length) h
  simpa [pageToken] using hlength

/-- A user with an email. -/
def mailUser (username email : String) : PoolUser where
  username := username
  userStatus := "CONFIRMED"
  attributes := [("email", email)]
  nodup := List.nodup_singleton _

/-- Two users on two pages. -/
def twoPagePool : UserPool where
  pages := ⟨[[mailUser "alice" "alice@example.com"], [mailUser "bob" "bob@example.com"]], List.cons_ne_nil _ _,
    pageToken, pageToken_injective⟩
  nodup := by decide

/-- The settings of a cluster with an OIDC provider. -/
def oidcSettings : LinkSettings where
  userPoolId := "pool"
  providerName := "idc"
  providerType := "OIDC"
  providerEmailAttribute := "email"
  clusterAdminUsername := "clusteradmin"

/-- Calls that succeed and leave the users as they are. -/
def quietCalls : LinkEnvironment where
  outcome _ := .ok ()
  linked _ u := u
  parseIdentities _ := []

/-- With two pages the method does not end. -/
theorem not_coversUsers_twoPages : ¬ CoversUsers oidcSettings quietCalls twoPagePool := by
  rintro ⟨fuel, final, hrun, -⟩
  have hnever := run_linkExistingUsers_of_more oidcSettings quietCalls fuel
    ⟨twoPagePool.pages, []⟩ (by decide)
  rw [show (linkExistingUsers oidcSettings quietCalls fuel).run ⟨twoPagePool.pages, []⟩ = (.ok (some ⟨⟩), final) from
    hrun] at hnever
  cases hnever

end ContainRes.Accounts
