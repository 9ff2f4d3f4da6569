import ContainRes.Projects.FileSystemMappings
import ContainRes.Projects.ServiceThreads
import ContainRes.Systems.Threads

/-! # The names of the projects

Calls of `create_project`, `update_project` and `delete_project`, interleaved at their accesses. A name is
looked up in an index of the table before it is written, and the write has no condition on the name.

* **`projectCalls`** — the system of the calls.
* **`NamesUnique`** — no two projects have the same name.
* **`NameUnraced`** — the condition on a step: no project gets a name that another call found free and may
  still write, or a blank one that another project has.
* **`nameProtocol`** — a name is written only after it was looked up; **`unique_of_unraced`** is the result for
  the interleavings. -/

namespace ContainRes.Projects

open Accounts Effects Store Systems Text Function

/-! ## The calls -/

/-- A call of the service. -/
inductive ProjectCall
  | create (ctx : CreationContext) (project : Project)
  | update (ctx : ProjectsContext) (project : Project)
  | delete (paginator : Paginator (String × String)) (texts : ListingTexts) (w : ProjectsWorld)
      (request : Option DeleteProjectRequest)

/-- The thread of a call. -/
def ProjectCall.thread (settings : Stepwise.RoleSettings) : ProjectCall → ServiceThread Exc PUnit
  | .create ctx project => Stepwise.createProject settings ctx project >>= fun _ => pure ⟨⟩
  | .update ctx project => Stepwise.updateProject settings ctx project
  | .delete paginator texts w request => Stepwise.deleteProject paginator texts w request

/-- Calls on a shared world. -/
abbrev ProjectCalls : Type := Threads ℕ ServiceWorld ServiceAccess ServiceAccess.Answer Exc PUnit

/-- No two projects have the same name. -/
def NamesUnique (projects : Table String ProjectRow) : Prop :=
  ∀ p q name, nameOf projects p = some name → nameOf projects q = some name → p = q

/-- The names are unique, and the ids are stored as they were given out. -/
structure WorldOk (w : ServiceWorld) : Prop where
  unique : NamesUnique w.db.projects
  plain : ∀ p name, nameOf w.db.projects p = some name → strip p = p
  issued : ∀ p name, nameOf w.db.projects p = some name → p ∈ w.issued

/-- Any number of calls. -/
def projectCalls (ids : IdSource) (settings : Stepwise.RoleSettings) : System ProjectCalls ℕ :=
  interleaved (ServiceAccess.serve ids) fun s =>
    WorldOk s.shared ∧ ∀ i, ∃ call : ProjectCall, s.thread i = call.thread settings

/-! ## The condition -/

/-- The access writes the name. -/
def WritesName (name : String) : ServiceAccess → Prop
  | .putProject row => row.name = name
  | .updateProject _ project => project.name = some name
  | _ => False

/-- The access reads projects. -/
def ReadsProjects : ServiceAccess → Prop
  | .findByName _ => True
  | .getProject _ => True
  | _ => False

/-- The call may still write the name without reading projects again. -/
def Committed (name : String) (t : ServiceThread Exc PUnit) : Prop := t.MayReach (WritesName name) ReadsProjects

/-- The name that an access gives to a project that does not have it. -/
def ServiceAccess.givesName (w : ServiceWorld) : ServiceAccess → Option String
  | .putProject row => some row.name
  | .updateProject p project =>
    match project.name, nameOf w.db.projects p with
    | some name, some old => if old = name then none else some name
    | _, _ => none
  | _ => none

/-- The condition on a step. When it gives a project a name, no other call may still write the name after it
has looked at the projects; and when the name is blank, no project has it. -/
def NameUnraced (s : ProjectCalls) (i : ℕ) : Prop :=
  ∀ op next name, s.thread i = .access op next → op.givesName s.shared = some name →
    (∀ j, j ≠ i → ¬ Committed name (s.thread j)) ∧
      (isEmpty name = true → ∀ p, nameOf s.shared.db.projects p ≠ some name)

/-! ## What an access does to the names -/

section Names

variable {ids : IdSource} {w : ServiceWorld}

/-- The project that an access gives a name. -/
def ServiceAccess.target (ids : IdSource) (w : ServiceWorld) : ServiceAccess → String
  | .updateProject p _ => p
  | _ => ids.next w.issued

/-- An access that gives no name leaves no project with another name. -/
theorem nameOf_serve_of_none {op : ServiceAccess} (h : op.givesName w = none) {p name : String}
    (hp : nameOf (op.serve ids w).2.db.projects p = some name) : nameOf w.db.projects p = some name := by
  cases op with
  | putProject row => cases h
  | updateProject q project =>
    have hrow := hp
    unfold nameOf ServiceAccess.serve at hrow
    rw [Table.getItem_updateItem] at hrow
    split at hrow
    · next heq =>
        subst heq
        obtain ⟨row', hrow', hname⟩ := Option.map_eq_some_iff.mp hrow
        obtain ⟨row, hget, rfl⟩ := Option.map_eq_some_iff.mp hrow'
        have hold : nameOf w.db.projects p = some row.name := by rw [nameOf, hget, Option.map_some]
        simp only [ServiceAccess.givesName, hold] at h
        cases hrequested : project.name with
        | none =>
          rw [hold, ← hname]
          simp [updatedRow, hrequested]
        | some requested =>
          rw [hrequested] at h
          simp only [ite_eq_left_iff, reduceCtorEq, imp_false, not_not] at h
          rw [hold, ← hname]
          simp [updatedRow, hrequested, h]
    · exact hrow
  | setEnabled q enabled =>
    have hrow := hp
    unfold nameOf ServiceAccess.serve at hrow
    rw [Table.getItem_updateItem] at hrow
    split at hrow
    · next heq =>
        subst heq
        rw [Option.map_map] at hrow
        exact hrow
    · exact hrow
  | deleteProject q =>
    have hrow := hp
    unfold ServiceAccess.serve at hrow
    rw [nameOf_deleteItem, update_apply] at hrow
    split at hrow
    · cases hrow
    · exact hrow
  | deleteUserProjects paginator q =>
    have hkeep : ((Projects.deleteUserProjects paginator q).run w.db).2.projects = w.db.projects :=
      (keeps_projects_deleteUserProjects paginator w.db.projects q).run rfl
    have hrow : nameOf ((Projects.deleteUserProjects paginator q).run w.db).2.projects p = some name := hp
    rw [hkeep] at hrow
    exact hrow
  | _ => exact hp

/-- An access that gives a name gives it to its target. -/
theorem nameOf_serve_of_some {op : ServiceAccess} {name : String} (h : op.givesName w = some name) :
    nameOf (op.serve ids w).2.db.projects = update (nameOf w.db.projects) (op.target ids w) (some name) := by
  cases op with
  | putProject row =>
    obtain rfl : row.name = name := Option.some.inj h
    funext p
    unfold nameOf ServiceAccess.serve ServiceAccess.target
    rw [Table.getItem_putItem, update_apply]
    split
    · rfl
    · rfl
  | updateProject q project =>
    simp only [ServiceAccess.givesName] at h
    split at h
    · next requested old hrequested hold =>
        split at h
        · cases h
        · obtain rfl : requested = name := Option.some.inj h
          obtain ⟨row, hrow, -⟩ := nameOf_eq_some hold
          show nameOf (w.db.projects.updateItem q (updatedRow project)) = _
          rw [nameOf_updateItem hrow]
          simp [updatedRow, hrequested, ServiceAccess.target]
    · cases h
  | _ => cases h

theorem issued_serve (op : ServiceAccess) : w.issued ⊆ (op.serve ids w).2.issued := by
  cases op with
  | putProject row => exact List.subset_cons_self _ _
  | _ => exact List.Subset.refl _

end Names

/-! ## The protocol of a call -/

/-- What a call knows of a name after it has read projects: that no project has it, or that only one may. -/
abbrev NamePoint : Type := Option (String × Option String)

/-- What is known after an access. -/
def knownAfter (known : NamePoint) : (op : ServiceAccess) → op.Answer → NamePoint
  | .findByName name, item => some (name, item.map Prod.fst)
  | .getProject p, row => row.map fun row => (row.name, some p)
  | .putProject _, _ => none
  | .updateProject _ _, _ => none
  | _, _ => known

/-- The protocol of a call: a name that is not blank is written only when it is known to be free, or to be that
of the project. -/
def nameProtocol : Protocol ServiceAccess ServiceAccess.Answer NamePoint where
  may known op := ∀ name, WritesName name op →
    match op with
    | .updateProject p _ =>
      isEmpty name = true ∨ known = some (name, none) ∨ ∃ q, known = some (name, some q) ∧ strip q = p
    | _ => known = some (name, none)
  expected _ _ := True
  after := knownAfter

section Methods

variable {ε α β : Type} {known : NamePoint}

/-- The thread writes no name, and reads no project. -/
def Neutral (t : ServiceThread ε α) : Prop :=
  ∀ known, t.Obeys nameProtocol (fun known' _ => known' = known) (fun known' _ => known' = known) known

namespace Neutral

theorem pure (a : α) : Neutral (Pure.pure a : ServiceThread ε α) := fun _ => Thread.Obeys.pure rfl

theorem raise (e : ε) : Neutral (Thread.raise e : ServiceThread ε α) := fun _ => Thread.Obeys.raise rfl

theorem liftExcept (r : Except ε α) : Neutral (Thread.liftExcept r : ServiceThread ε α) := fun _ =>
  Thread.Obeys.liftExcept (fun _ _ => rfl) fun _ _ => rfl

theorem perform {op : ServiceAccess} (hwrites : ∀ name, ¬ WritesName name op)
    (hreads : ∀ known answer, knownAfter known op answer = known) :
    Neutral (Stepwise.perform op : ServiceThread ε op.Answer) := fun known =>
  Thread.Obeys.perform (fun name hname => absurd hname (hwrites name)) fun answer _ => hreads known answer

theorem iam (call : IamAccess) : Neutral (Stepwise.perform (.iam call) : ServiceThread ε _) :=
  perform (fun _ h => h) fun _ _ => rfl

theorem bind {t : ServiceThread ε β} {f : β → ServiceThread ε α} (ht : Neutral t) (hf : ∀ b, Neutral (f b)) :
    Neutral (t >>= f) := fun known =>
  Thread.Obeys.bind (ht known) fun b _ h => h ▸ hf b known

theorem tryCatch {ε' : Type} {t : ServiceThread ε α} {handler : ε → ServiceThread ε' α} (ht : Neutral t)
    (hf : ∀ e, Neutral (handler e)) : Neutral (t.tryCatch handler) := fun known =>
  Thread.Obeys.tryCatch (ht known) fun e _ h => h ▸ hf e known

theorem ite {b : Prop} [Decidable b] {t t' : ServiceThread ε α} (ht : b → Neutral t) (ht' : ¬ b → Neutral t') :
    Neutral (if b then t else t') := fun known => Thread.Obeys.ite (fun h => ht h known) fun h => ht' h known

theorem when {b : Prop} [Decidable b] {t : ServiceThread ε PUnit} (ht : b → Neutral t) :
    Neutral (Thread.when b t) := ite ht fun _ => pure PUnit.unit

theorem forEach {f : β → ServiceThread ε PUnit} (hf : ∀ b, Neutral (f b)) (bs : List β) :
    Neutral (Thread.forEach f bs) := by
  induction bs with
  | nil => exact pure PUnit.unit
  | cons b bs ih => exact bind (hf b) fun _ => ih

end Neutral

namespace Stepwise

/-! ### The role of a project -/

theorem neutral_requireIam (call : IamAccess) (progress : RoleProgress) : Neutral (requireIam call progress) :=
  Neutral.bind (Neutral.iam call) fun
    | .ok _ => Neutral.pure _
    | .error _ => Neutral.raise _

variable (roleName : String) (policyArns : List String)

theorem neutral_attachPolicies (progress : RoleProgress) : Neutral (attachPolicies roleName policyArns progress) := by
  induction policyArns generalizing progress with
  | nil => exact Neutral.pure _
  | cons policyArn rest ih => exact Neutral.bind (neutral_requireIam _ _) fun _ => ih _

theorem neutral_undoIam (call : IamAccess) : Neutral (undoIam call) :=
  Neutral.bind (Neutral.iam call) fun
    | .ok _ => Neutral.pure _
    | .error _ => Neutral.ite (fun _ => Neutral.pure _) fun _ => Neutral.raise _

variable (settings : RoleSettings)

theorem neutral_createVdiRole (projectName : Option String)
    (policyArns : List String) : Neutral (createVdiRoleAndInstanceProfile settings projectName policyArns) := by
  refine Neutral.tryCatch ?_ fun progress => ?_
  · unfold createRoleAndProfile
    refine Neutral.bind (neutral_requireIam _ _) fun _ => Neutral.bind (neutral_requireIam _ _) fun _ => ?_
    refine Neutral.bind (neutral_attachPolicies _ _ _) fun _ => ?_
    refine Neutral.bind (neutral_attachPolicies _ _ _) fun _ => ?_
    exact Neutral.bind (Neutral.iam _) fun _ => Neutral.pure _
  · unfold rollBackRole
    refine Neutral.bind (Neutral.forEach (fun _ => neutral_undoIam _) _) fun _ => ?_
    refine Neutral.bind (Neutral.when fun _ => neutral_undoIam _) fun _ => ?_
    exact Neutral.bind (Neutral.when fun _ => neutral_undoIam _) fun _ => Neutral.raise _

theorem neutral_detachRemoved (progress : PolicyProgress) : Neutral (detachRemoved roleName policyArns progress) := by
  induction policyArns generalizing progress with
  | nil => exact Neutral.pure _
  | cons policyArn rest ih =>
    exact Neutral.bind (Neutral.iam _) fun
      | .ok _ => ih _
      | .error _ => Neutral.ite (fun _ => ih _) fun _ => Neutral.raise _

theorem neutral_attachAdded (progress : PolicyProgress) : Neutral (attachAdded roleName policyArns progress) := by
  induction policyArns generalizing progress with
  | nil => exact Neutral.pure _
  | cons policyArn rest ih =>
    exact Neutral.bind (Neutral.iam _) fun
      | .ok _ => ih _
      | .error _ => Neutral.raise _

theorem neutral_attachAgain (roleName policyArn : String) : Neutral (attachAgain roleName policyArn) :=
  Neutral.bind (Neutral.iam _) fun
    | .ok _ => Neutral.pure _
    | .error _ => Neutral.ite (fun _ => Neutral.raise _) fun _ => Neutral.raise _

theorem neutral_updateVdiRole (projectName : Option String) (policiesToDetach policiesToAttach : List String) :
    Neutral (updateVdiRole settings projectName policiesToDetach policiesToAttach) := by
  unfold updateVdiRole
  refine Neutral.bind (Neutral.perform (fun _ h => h) fun _ _ => rfl) fun role => Neutral.ite (fun _ => ?_)
    fun _ => neutral_createVdiRole settings projectName policiesToAttach
  refine Neutral.tryCatch ?_ fun progress => ?_
  · unfold changePolicies
    refine Neutral.bind (neutral_detachRemoved _ _ _) fun _ => ?_
    exact Neutral.bind (neutral_attachAdded _ _ _) fun _ => Neutral.pure _
  · unfold rollBackPolicies
    refine Neutral.bind (Neutral.forEach (fun _ => neutral_undoIam _) _) fun _ => ?_
    exact Neutral.bind (Neutral.forEach (neutral_attachAgain _) _) fun _ => Neutral.raise _

/-! ### The methods -/

theorem neutral_requireText (value message : String) : Neutral (requireText value message) :=
  Neutral.ite (fun _ => Neutral.raise _) fun _ => Neutral.pure _

theorem neutral_requireGroup (groupName : String) : Neutral (requireGroup groupName) :=
  Neutral.bind (neutral_requireText _ _) fun _ =>
    Neutral.bind (Neutral.perform (fun _ h => h) fun _ _ => rfl) fun
      | none => Neutral.raise _
      | some _ => Neutral.pure _

theorem neutral_requireUser (username : String) : Neutral (requireUser username) :=
  Neutral.bind (Neutral.liftExcept _) fun _ =>
    Neutral.bind (Neutral.perform (fun _ h => h) fun _ _ => rfl) fun
      | none => Neutral.raise _
      | some _ => Neutral.pure _

/-- A thread follows the protocol, with nothing said about its end. -/
abbrev Follows (t : ServiceThread Exc α) (known : NamePoint) : Prop :=
  t.Obeys nameProtocol (fun _ _ => True) (fun _ _ => True) known

/-- A thread follows the protocol and returns at a point that satisfies `Q`. -/
abbrev FollowsTo (Q : NamePoint → α → Prop) (t : ServiceThread Exc α) (known : NamePoint) : Prop :=
  t.Obeys nameProtocol Q (fun _ _ => True) known

variable {Q : NamePoint → α → Prop}

/-- What comes after a neutral thread starts with what was known before. -/
theorem follows_after_neutral {t : ServiceThread Exc β} {f : β → ServiceThread Exc α} (ht : Neutral t)
    (hf : ∀ b, FollowsTo Q (f b) known) : FollowsTo Q (t >>= f) known :=
  Thread.Obeys.bind ((ht known).mono (fun _ _ h => h) fun _ _ _ => trivial) fun b _ h => h ▸ hf b

/-- After a query of a name it is known whose name it is. -/
theorem follows_findByName {name : String} {f : Option (String × ProjectRow) → ServiceThread Exc α}
    (hf : ∀ item, FollowsTo Q (f item) (some (name, item.map Prod.fst))) :
    FollowsTo Q (getProjectByName name >>= f) known := by
  refine Thread.Obeys.bind (R := fun known' item => known' = some (name, item.map Prod.fst)) ?_
    fun item _ h => h ▸ hf item
  refine Thread.Obeys.bind (((neutral_requireText _ _) known).mono (fun _ _ _ => trivial) fun _ _ _ => trivial)
    fun _ _ _ => ?_
  exact Thread.Obeys.perform (fun _ h => h.elim) fun _ _ => rfl

/-- After a read of a project its name is known. -/
theorem follows_getProject {p : String} {f : Option ProjectRow → ServiceThread Exc α}
    (hf : ∀ row, FollowsTo Q (f row) (row.map fun row => (row.name, some p))) :
    FollowsTo Q (getProjectById p >>= f) known := by
  refine Thread.Obeys.bind (R := fun known' row => known' = row.map fun row => (row.name, some p)) ?_
    fun row _ h => h ▸ hf row
  refine Thread.Obeys.bind (((neutral_requireText _ _) known).mono (fun _ _ _ => trivial) fun _ _ _ => trivial)
    fun _ _ _ => ?_
  exact Thread.Obeys.perform (fun _ h => h.elim) fun _ _ => rfl

theorem follows_enableProject (shortUuid p : String) : Follows (enableProject shortUuid p) known := by
  refine follows_getProject fun
    | none => Thread.Obeys.raise trivial
    | some _ => follows_after_neutral (Neutral.perform (fun _ h => h) fun _ _ => rfl) fun
      | none => Thread.Obeys.raise trivial
      | some _ => Thread.Obeys.perform (fun _ h => h.elim) fun _ _ => trivial

theorem follows_createProject (ctx : CreationContext) (project : Project) :
    Follows (createProject settings ctx project) known := by
  unfold createProject
  refine follows_after_neutral (neutral_requireText _ _) fun _ => follows_findByName fun existing => ?_
  cases existing with
  | some item => exact Thread.Obeys.raise trivial
  | none =>
    refine follows_after_neutral (Neutral.when fun _ => Neutral.raise _) fun _ => ?_
    refine follows_after_neutral (Neutral.liftExcept _) fun _ => ?_
    refine follows_after_neutral (Neutral.when fun _ => neutral_createVdiRole _ _ _) fun _ => ?_
    -- the name was found free
    refine Thread.Obeys.bind (R := fun _ _ => True) (Thread.Obeys.perform ?_ fun _ _ => trivial) fun p _ _ => ?_
    · rintro name rfl
      rfl
    · refine Thread.Obeys.bind (follows_enableProject _ _) fun _ _ _ => follows_getProject fun
        | none => Thread.Obeys.raise trivial
        | some _ => Thread.Obeys.pure trivial

/-- The name of a project is checked before the project is written. What is known then: the name is blank or
absent, or no other project has it. -/
theorem follows_updateProject (ctx : ProjectsContext) (project : Project) :
    Follows (updateProject settings ctx project) known := by
  unfold updateProject
  refine follows_after_neutral (neutral_requireText _ _) fun _ => follows_getProject fun
    | none => Thread.Obeys.raise trivial
    | some existing => ?_
  -- the point after the check of the name allows the write
  refine Thread.Obeys.bind (R := fun known' _ => ∀ name, project.name = some name → isEmpty name = true ∨
    known' = some (name, none) ∨ ∃ q, known' = some (name, some q) ∧ strip q = strip (project.projectId.getD ""))
    ?_ fun _ known' hknown => ?_
  · cases hname : project.name with
    | none => exact Thread.Obeys.pure fun name h => nomatch h
    | some name =>
      refine Thread.Obeys.ite (fun hcheck => ?_) fun hcheck => Thread.Obeys.pure ?_
      · refine follows_findByName fun item => ?_
        cases item with
        | none =>
          refine Thread.Obeys.pure fun name' hname' => ?_
          obtain rfl := Option.some.inj hname'
          exact .inr (.inl rfl)
        | some item =>
          refine Thread.Obeys.when (fun _ => Thread.Obeys.raise trivial) fun hown name' hname' => ?_
          obtain rfl := Option.some.inj hname'
          exact .inr (.inr ⟨item.1, rfl, by rw [not_not.mp hown]⟩)
      · intro name' hname'
        obtain rfl := Option.some.inj hname'
        rw [not_and_or, not_not] at hcheck
        exact hcheck.imp (fun h => by simpa using h) fun h => .inr ⟨_, by rw [← h]; rfl, rfl⟩
  · refine follows_after_neutral (Neutral.liftExcept _) fun _ => ?_
    refine follows_after_neutral (Neutral.forEach neutral_requireGroup _) fun _ => ?_
    refine follows_after_neutral (Neutral.forEach neutral_requireUser _) fun _ => ?_
    refine follows_after_neutral (Neutral.liftExcept _) fun _ => ?_
    refine follows_after_neutral (Neutral.when fun _ => neutral_updateVdiRole _ _ _ _) fun _ => ?_
    refine Thread.Obeys.bind (R := fun _ _ => True) (Thread.Obeys.perform hknown fun _ _ => trivial)
      fun updated _ _ => ?_
    cases updated with
    | none => exact Thread.Obeys.raise trivial
    | some row =>
      exact Thread.Obeys.when (fun _ => Thread.Obeys.perform (fun _ h => h.elim) fun _ _ => trivial)
        fun _ => trivial

theorem follows_checkUnused {β : Type} (listing : Except Exc (List β)) (message : List β → String) :
    Neutral (checkUnused listing message) :=
  Neutral.bind (Neutral.liftExcept _) fun _ => Neutral.when fun _ => Neutral.raise _

theorem follows_deleteFound (paginator : Paginator (String × String)) (texts : ListingTexts) (w : ProjectsWorld)
    (projectId : Option String) : Follows (deleteFound paginator texts w projectId) known := by
  unfold deleteFound
  refine follows_after_neutral (follows_checkUnused _ _) fun _ => ?_
  refine follows_after_neutral (follows_checkUnused _ _) fun _ => ?_
  refine follows_after_neutral (Neutral.perform (fun _ h => h) fun _ _ => rfl) fun removed => ?_
  refine follows_after_neutral (Neutral.liftExcept _) fun _ => ?_
  refine follows_after_neutral (neutral_requireText _ _) fun _ => ?_
  exact Thread.Obeys.perform (fun _ h => h.elim) fun _ _ => trivial

theorem follows_deleteProject (paginator : Paginator (String × String)) (texts : ListingTexts) (w : ProjectsWorld)
    (request : Option DeleteProjectRequest) : Follows (deleteProject paginator texts w request) known := by
  cases request with
  | none => exact Thread.Obeys.raise trivial
  | some request =>
    refine Thread.Obeys.ite (fun _ => Thread.Obeys.raise trivial) fun _ => ?_
    refine Thread.Obeys.bind (R := fun _ _ => True) ?_ fun project known' _ => by
      -- a project that is found is deleted, whichever way it was found
      cases project with
      | none => exact Thread.Obeys.pure trivial
      | some project => exact follows_deleteFound _ _ _ _
    have hname : Follows (getProjectByName (request.projectName.getD "")) known := by
      refine Thread.Obeys.bind (((neutral_requireText _ _) known).mono (fun _ _ _ => trivial)
        fun _ _ _ => trivial) fun _ _ _ => ?_
      exact Thread.Obeys.perform (fun _ h => h.elim) fun _ _ => trivial
    unfold findProject
    cases request.projectId with
    | none => exact hname
    | some projectId =>
      refine Thread.Obeys.ite (fun _ => hname) fun _ => ?_
      exact follows_getProject fun _ => Thread.Obeys.pure trivial

end Stepwise

theorem follows_call (settings : Stepwise.RoleSettings) (call : ProjectCall) :
    Stepwise.Follows (call.thread settings) known := by
  cases call with
  | create ctx project =>
    exact Thread.Obeys.bind (Stepwise.follows_createProject _ _ _) fun _ _ _ => Thread.Obeys.pure trivial
  | update ctx project => exact Stepwise.follows_updateProject _ _ _
  | delete paginator texts w request => exact Stepwise.follows_deleteProject _ _ _ _

end Methods

/-! ## The interleavings -/

section Interleavings

variable {ids : IdSource} {settings : Stepwise.RoleSettings}

/-- A call that may still write a name knows it as it is. -/
def Informed (s : ProjectCalls) (point : ℕ → NamePoint) : Prop :=
  ∀ i name owner, point i = some (name, owner) → Committed name (s.thread i) →
    ∀ p, nameOf s.shared.db.projects p = some name → owner = some p

variable {op : ServiceAccess} {w : ServiceWorld} {name : String} {known : NamePoint} {owner : Option String}

/-- What an access finds out about a name is so. -/
theorem owner_of_knownAfter (h : NamesUnique w.db.projects) (hread : ReadsProjects op)
    (hknown : knownAfter known op (op.serve ids w).1 = some (name, owner)) {p : String}
    (hp : nameOf w.db.projects p = some name) : owner = some p := by
  cases op with
  | findByName name' =>
    obtain ⟨rfl, rfl⟩ := Prod.mk.inj (Option.some.inj hknown)
    show idOf w.db.projects name' = some p
    cases hid : idOf w.db.projects name' with
    | none => exact absurd hp (nameOf_ne_of_idOf hid p)
    | some q => rw [h _ _ _ (nameOf_idOf hid) hp]
  | getProject q =>
    obtain ⟨row, hrow, hpair⟩ := Option.map_eq_some_iff.mp hknown
    obtain ⟨rfl, rfl⟩ := Prod.mk.inj hpair
    have hq : nameOf w.db.projects q = some row.name := congrArg (Option.map ProjectRow.name) hrow
    rw [h _ _ _ hq hp]
  | _ => exact hread.elim

/-- An access that does not read projects says nothing new of a name. -/
theorem knownAfter_of_not_reads (hread : ¬ ReadsProjects op)
    {answer : op.Answer} (h : knownAfter known op answer = some (name, owner)) : known = some (name, owner) := by
  cases op with
  | findByName name' => exact absurd trivial hread
  | getProject q => exact absurd trivial hread
  | putProject row => cases h
  | updateProject q project => cases h
  | _ => exact h

/-- A call is informed after its own access, when that left the projects as they were or told it nothing. -/
theorem owner_after (h : NamesUnique w.db.projects)
    {next : op.Answer → ServiceThread Exc PUnit}
    (hbefore : ∀ owner', known = some (name, owner') → Committed name (.access op next) →
      ∀ p, nameOf w.db.projects p = some name → owner' = some p)
    (hknown : knownAfter known op (op.serve ids w).1 = some (name, owner))
    (hcommitted : Committed name (next (op.serve ids w).1)) {p : String}
    (hp : nameOf w.db.projects p = some name) : owner = some p := by
  by_cases hread : ReadsProjects op
  · exact owner_of_knownAfter h hread hknown hp
  · exact hbefore owner (knownAfter_of_not_reads hread hknown) (hcommitted.of_next hread) p hp

/-- A world stays right when no project gets a name. -/
theorem worldOk_serve_of_none (h : WorldOk w) (hnone : op.givesName w = none) : WorldOk (op.serve ids w).2 where
  unique p q name hp hq := h.unique p q name (nameOf_serve_of_none hnone hp) (nameOf_serve_of_none hnone hq)
  plain p name hp := h.plain p name (nameOf_serve_of_none hnone hp)
  issued p name hp := issued_serve op (h.issued p name (nameOf_serve_of_none hnone hp))

/-- The target of an access that gives a name is a stored id. -/
theorem target_ok (h : WorldOk w) (hgives : op.givesName w = some name) :
    strip (op.target ids w) = op.target ids w ∧ op.target ids w ∈ (op.serve ids w).2.issued := by
  cases op with
  | putProject row => exact ⟨ids.strip_next _, List.mem_cons_self⟩
  | updateProject q project =>
    simp only [ServiceAccess.givesName] at hgives
    split at hgives
    · next requested old _ hold => exact ⟨h.plain q old hold, h.issued q old hold⟩
    · cases hgives
  | _ => cases hgives

/-- A world stays right when a project gets a name that no other project has. -/
theorem worldOk_serve_of_some (h : WorldOk w) (hgives : op.givesName w = some name)
    (hfree : ∀ p, nameOf w.db.projects p = some name → p = op.target ids w) : WorldOk (op.serve ids w).2 := by
  have htarget : strip (op.target ids w) = op.target ids w ∧ op.target ids w ∈ (op.serve ids w).2.issued :=
    target_ok h hgives
  have hnames : nameOf (op.serve ids w).2.db.projects =
      update (nameOf w.db.projects) (op.target ids w) (some name) := nameOf_serve_of_some hgives
  -- another project than the target keeps its name
  have hother : ∀ {p name'}, nameOf (op.serve ids w).2.db.projects p = some name' →
      p ≠ op.target ids w → nameOf w.db.projects p = some name' := by
    intro p name' hp hne
    rwa [hnames, update_of_ne hne] at hp
  have hself : ∀ {name'}, nameOf (op.serve ids w).2.db.projects (op.target ids w) = some name' →
      name' = name := by
    intro name' hp
    rw [hnames, update_self] at hp
    exact (Option.some.inj hp).symm
  constructor
  · intro p q name' hp hq
    by_cases hpt : p = op.target ids w
    · subst hpt
      obtain rfl := hself hp
      by_cases hqt : q = op.target ids w
      · exact hqt.symm
      · exact (hfree q (hother hq hqt)).symm
    · by_cases hqt : q = op.target ids w
      · subst hqt
        obtain rfl := hself hq
        exact hfree p (hother hp hpt)
      · exact h.unique p q name' (hother hp hpt) (hother hq hqt)
  · intro p name' hp
    by_cases hpt : p = op.target ids w
    · rw [hpt]
      exact htarget.1
    · exact h.plain p name' (hother hp hpt)
  · intro p name' hp
    by_cases hpt : p = op.target ids w
    · rw [hpt]
      exact htarget.2
    · exact issued_serve op (h.issued p name' (hother hp hpt))

/-- What a call that is about to write knows: no project but its own has the name, or the name is blank. -/
theorem free_of_may (h : WorldOk w) (hgives : op.givesName w = some name) (hmay : nameProtocol.may known op)
    (hblank : isEmpty name = true → ∀ p, nameOf w.db.projects p ≠ some name)
    (hinformed : ∀ owner, known = some (name, owner) → ∀ p, nameOf w.db.projects p = some name → owner = some p)
    {p : String} (hp : nameOf w.db.projects p = some name) : p = op.target ids w := by
  cases op with
  | putProject row =>
    obtain rfl : row.name = name := Option.some.inj hgives
    cases hinformed none (hmay _ rfl) p hp
  | updateProject q project =>
    have hwrites : project.name = some name := by
      simp only [ServiceAccess.givesName] at hgives
      split at hgives
      · next requested old hrequested _ =>
          split at hgives
          · cases hgives
          · rw [hrequested, hgives]
      · cases hgives
    obtain hempty | hnone | ⟨owner, hknown, hstrip⟩ := hmay name hwrites
    · exact absurd hp (hblank hempty p)
    · cases hinformed none hnone p hp
    · obtain rfl := Option.some.inj (hinformed _ hknown p hp)
      exact (h.plain owner name hp).symm.trans hstrip
  | _ => cases hgives

/-- An access that gives a name may write it. -/
theorem writesName_of_gives (hgives : op.givesName w = some name) : WritesName name op := by
  cases op with
  | putProject row => exact Option.some.inj hgives
  | updateProject q project =>
    simp only [ServiceAccess.givesName] at hgives
    split at hgives
    · next requested old hrequested _ =>
        split at hgives
        · cases hgives
        · obtain rfl := Option.some.inj hgives
          exact hrequested
    · cases hgives
  | _ => cases hgives

theorem knownAfter_of_writes (h : WritesName name op) (answer : op.Answer) : knownAfter known op answer = none := by
  cases op with
  | putProject row => rfl
  | updateProject q project => rfl
  | _ => exact h.elim

/-- **Unique names.** As long as the steps meet the condition, no two projects have the same name. -/
theorem unique_of_unraced {s : ProjectCalls} (h : (projectCalls ids settings).Reach NameUnraced s) :
    NamesUnique s.shared.db.projects := by
  have hinv := Reach.threads_invariant (p := fun _ => nameProtocol) (Q := fun _ _ _ => True)
    (E := fun _ _ _ => True) (I := fun s point => WorldOk s.shared ∧ Informed s point) ?_ ?_ h
  · obtain ⟨_, hI, _⟩ := hinv
    exact hI.1.unique
  · rintro s ⟨hworld, hcalls⟩
    refine ⟨fun _ => none, ⟨hworld, fun i name owner hpoint => nomatch hpoint⟩, fun i => ?_⟩
    obtain ⟨call, hcall⟩ := hcalls i
    rw [hcall]
    exact follows_call settings call
  · rintro s point i op next ⟨hworld, hinformed⟩ hguard _ hthread hmay
    refine ⟨trivial, ?_⟩
    have hbefore : ∀ name owner, point i = some (name, owner) → Committed name (.access op next) →
        ∀ p, nameOf s.shared.db.projects p = some name → owner = some p := by
      intro name owner hpoint hcommitted
      exact hinformed i name owner hpoint (hthread ▸ hcommitted)
    cases hgives : op.givesName s.shared with
    | none =>
      -- no project gets a name: what is known stays true
      refine ⟨worldOk_serve_of_none hworld hgives, fun j name owner hpoint hcommitted p hp => ?_⟩
      have hold := nameOf_serve_of_none hgives hp
      by_cases hj : j = i
      · subst hj
        rw [update_self] at hpoint
        rw [Threads.thread_advance_self] at hcommitted
        exact owner_after hworld.unique (hbefore name) hpoint hcommitted hold
      · rw [update_of_ne hj] at hpoint
        rw [Threads.thread_advance_of_ne hj] at hcommitted
        exact hinformed j name owner hpoint hcommitted p hold
    | some name =>
      have hwrites := writesName_of_gives hgives
      obtain ⟨hraced, hblank⟩ := hguard op next name hthread hgives
      have hfree : ∀ p, nameOf s.shared.db.projects p = some name → p = op.target ids s.shared := fun p hp =>
        free_of_may hworld hgives hmay hblank
          (fun owner hknown => hbefore name owner hknown (.inl hwrites)) hp
      refine ⟨worldOk_serve_of_some hworld hgives hfree, fun j name' owner hpoint hcommitted p hp => ?_⟩
      by_cases hj : j = i
      · subst hj
        rw [update_self] at hpoint
        exact nomatch (knownAfter_of_writes hwrites _).symm.trans hpoint
      · rw [update_of_ne hj] at hpoint
        rw [Threads.thread_advance_of_ne hj] at hcommitted
        -- the other call is about another name
        have hname : name' ≠ name := by
          rintro rfl
          exact hraced j hj hcommitted
        refine hinformed j name' owner hpoint hcommitted p ?_
        have hnew : nameOf (op.serve ids s.shared).2.db.projects p = some name' := hp
        rw [nameOf_serve_of_some hgives, update_apply] at hnew
        split at hnew
        · exact absurd (Option.some.inj hnew).symm hname
        · exact hnew

end Interleavings

end ContainRes.Projects
