import ContainRes.Effects.Injection
import ContainRes.Projects.ServiceThreads

/-! # The role of a project when a call of IAM fails

`_update_vdi_role` and `_create_vdi_role_and_instance_profile` with nothing running beside them, where one of the
calls that attach or detach a policy is refused.

* **`policyFaults`** — the calls that can fail.
* **`attachments`** — the policies of every role; **`Changed`** is a change to those of one role.
* **`run_detachRemoved`**, **`run_attachAdded`**, **`run_attachPolicies`** — the loops, which end or stop.
* **`run_rollBackPolicies`**, **`run_rollBackRole`** — the handlers. -/

namespace ContainRes.Projects.VdiRole

open Accounts Effects Store Function Stepwise

/-! ## The calls that fail -/

/-- A refusal of IAM, for example since a role has as many policies as it may. That there is nothing to detach is no
failure of a detachment. -/
abbrev Refusal : Type := { e : IamError // e ≠ .noSuchEntity }

/-- A policy cannot be attached or detached. -/
def policyFaults : Injection ServiceAccess ServiceAccess.Answer Refusal where
  refuse
    | .iam (.attachRolePolicy _ _) => some fun e => .error e.1
    | .iam (.detachRolePolicy _ _) => some fun e => .error e.1
    | _ => none
  fails
    | .iam (.attachRolePolicy _ _), answer =>
      match answer with
      | .ok _ => false
      | .error _ => true
    | .iam (.detachRolePolicy _ _), answer =>
      match answer with
      | .ok _ => false
      | .error e => e ≠ .noSuchEntity
    | _, _ => false
  fails_refuse op answer e h := by
    cases op with
    | iam call =>
      cases call with
      | attachRolePolicy | detachRolePolicy =>
        obtain rfl := Option.some.inj h
        simp [e.2]
      | _ => exact absurd h (by simp)
    | _ => exact absurd h (by simp)

/-- The tables and IAM, with the failure that is to come. -/
abbrev FaultyWorld : Type := Injected ServiceWorld Refusal

/-- What an access does. -/
abbrev serveFaulty (ids : IdSource) : (op : ServiceAccess) → FaultyWorld → op.Answer × FaultyWorld :=
  policyFaults.inject (ServiceAccess.serve ids)

/-- A thread that runs alone. -/
abbrev runFaulty {ε α : Type} (ids : IdSource) (t : ServiceThread ε α) : FaultyWorld → Except ε α × FaultyWorld :=
  (t.toProc (serveFaulty ids)).run

/-! ## Attachments -/

/-- The policies that are attached to a role, if it is there. -/
def attachments (iam : Iam) (roleName : String) : Option (Set String) :=
  (iam.roles.getItem roleName).map fun role => { arn | arn ∈ role.policyArns }

variable {roleName : String}

theorem attachments_of_role {iam : Iam} {role : Role} (h : iam.roles.getItem roleName = some role) :
    attachments iam roleName = some { arn | arn ∈ role.policyArns } := by
  rw [attachments, h, Option.map_some]

theorem exists_role {iam : Iam} {X : Set String} (h : attachments iam roleName = some X) :
    ∃ role, iam.roles.getItem roleName = some role ∧ X = { arn | arn ∈ role.policyArns } := by
  obtain ⟨role, hrole, hX⟩ := Option.map_eq_some_iff.mp h
  exact ⟨role, hrole, hX.symm⟩

theorem attachments_eq_none {iam : Iam} :
    attachments iam roleName = none ↔ iam.roles.getItem roleName = none := Option.map_eq_none_iff

/-- A role that is put has its own attachments, and the others are left. -/
theorem attachments_putItem (iam : Iam) (roleName : String) (role : Role) :
    attachments { iam with roles := iam.roles.putItem roleName role } =
      update (attachments iam) roleName (some { arn | arn ∈ role.policyArns }) := by
  funext name
  unfold attachments
  by_cases h : name = roleName
  · rw [h, update_self, Table.getItem_putItem_self, Option.map_some]
  · rw [update_of_ne h, Table.getItem_putItem_of_ne _ _ h]

theorem attachments_deleteItem (iam : Iam) (roleName : String) :
    attachments { iam with roles := iam.roles.deleteItem roleName } =
      update (attachments iam) roleName none := by
  funext name
  unfold attachments
  by_cases h : name = roleName
  · rw [h, update_self, Table.getItem_deleteItem_self, Option.map_none]
  · rw [update_of_ne h, Table.getItem_deleteItem_of_ne _ h]

/-- Only the attachments of one role are changed, to a set of policies. -/
structure Changed (roleName : String) (X : Set String) (w w' : ServiceWorld) : Prop where
  attachments : attachments w'.iam = update (attachments w.iam) roleName (some X)
  policies : w'.iam.policies = w.iam.policies
  instanceProfiles : w'.iam.instanceProfiles = w.iam.instanceProfiles
  db : w'.db = w.db

namespace Changed

variable {roleName : String} {X Y : Set String} {w w' w'' : ServiceWorld}

theorem refl (h : VdiRole.attachments w.iam roleName = some X) : Changed roleName X w w :=
  ⟨by rw [← h, update_eq_self], rfl, rfl, rfl⟩

theorem at_role (h : Changed roleName X w w') : VdiRole.attachments w'.iam roleName = some X := by
  rw [h.attachments, update_self]

theorem trans (h : Changed roleName X w w') (h' : Changed roleName Y w' w'') : Changed roleName Y w w'' where
  attachments := by rw [h'.attachments, h.attachments, update_idem]
  policies := h'.policies.trans h.policies
  instanceProfiles := h'.instanceProfiles.trans h.instanceProfiles
  db := h'.db.trans h.db

theorem same (h : Changed roleName X w w') (hX : VdiRole.attachments w.iam roleName = some X) :
    VdiRole.attachments w'.iam = VdiRole.attachments w.iam := by
  rw [h.attachments, ← hX, update_eq_self]

end Changed

/-! ## Single calls -/

section Calls

variable (ids : IdSource) {roleName : String} {X : Set String} {w : ServiceWorld}

/-- The attachment of a policy fails when there is no such policy. -/
theorem fails_attach (h : attachments w.iam roleName = some X) (arn : String) :
    policyFaults.fails (.iam (.attachRolePolicy roleName arn))
        (ServiceAccess.serve ids (.iam (.attachRolePolicy roleName arn)) w).1 = decide (arn ∉ w.iam.policies) := by
  obtain ⟨role, hrole, -⟩ := exists_role h
  simp only [ServiceAccess.serve, IamAccess.serve, hrole]
  by_cases hpolicy : arn ∉ w.iam.policies
  · rw [if_pos hpolicy, decide_eq_true hpolicy]
    rfl
  · rw [if_neg hpolicy, decide_eq_false hpolicy]
    rfl

/-- A policy is attached. -/
theorem changed_attach (h : attachments w.iam roleName = some X) {arn : String} (hpolicy : arn ∈ w.iam.policies) :
    Changed roleName (insert arn X) w (ServiceAccess.serve ids (.iam (.attachRolePolicy roleName arn)) w).2 := by
  obtain ⟨role, hrole, rfl⟩ := exists_role h
  simp only [ServiceAccess.serve, IamAccess.serve, hrole]
  rw [if_neg (not_not.mpr hpolicy)]
  refine ⟨(attachments_putItem _ _ _).trans ?_, rfl, rfl, rfl⟩
  congr 2
  ext name
  by_cases hold : arn ∈ role.policyArns
  · rw [if_pos hold, Set.mem_insert_iff]
    exact ⟨.inr, fun hname => hname.elim (fun heq => heq ▸ hold) id⟩
  · rw [if_neg hold]
    simp [or_comm]

theorem serve_attach_of_unknown (h : attachments w.iam roleName = some X) {arn : String}
    (hpolicy : arn ∉ w.iam.policies) : (ServiceAccess.serve ids (.iam (.attachRolePolicy roleName arn)) w).2 = w := by
  obtain ⟨role, hrole, -⟩ := exists_role h
  simp only [ServiceAccess.serve, IamAccess.serve, hrole]
  rw [if_pos hpolicy]

/-- The detachment of a policy does not fail by itself. -/
theorem fails_detach (h : attachments w.iam roleName = some X) (arn : String) :
    policyFaults.fails (.iam (.detachRolePolicy roleName arn))
        (ServiceAccess.serve ids (.iam (.detachRolePolicy roleName arn)) w).1 = false := by
  obtain ⟨role, hrole, -⟩ := exists_role h
  simp only [ServiceAccess.serve, IamAccess.serve, hrole]
  by_cases hold : arn ∉ role.policyArns
  · rw [if_pos hold]
    rfl
  · rw [if_neg hold]
    rfl

/-- A policy is detached. -/
theorem changed_detach (h : attachments w.iam roleName = some X) (arn : String) :
    Changed roleName (X \ {arn}) w (ServiceAccess.serve ids (.iam (.detachRolePolicy roleName arn)) w).2 := by
  obtain ⟨role, hrole, rfl⟩ := exists_role h
  simp only [ServiceAccess.serve, IamAccess.serve, hrole]
  by_cases hold : arn ∉ role.policyArns
  · rw [if_pos hold]
    have hnot : arn ∉ { name | name ∈ role.policyArns } := hold
    refine .refl (h.trans (congrArg some ?_))
    exact (Set.sdiff_singleton_eq_self hnot).symm
  · rw [if_neg hold]
    refine ⟨(attachments_putItem _ _ _).trans ?_, rfl, rfl, rfl⟩
    congr 2
    ext name
    simp

end Calls

/-! ## The loops -/

section Loops

variable (ids : IdSource) {roleName : String} {X : Set String} {w : ServiceWorld}

/-- A policy that was detached is noted. -/
def noteRemoved (progress : PolicyProgress) (arn : String) : PolicyProgress :=
  { progress with policiesRemoved := progress.policiesRemoved ++ [arn] }

/-- A policy that was attached is noted. -/
def noteAdded (progress : PolicyProgress) (arn : String) : PolicyProgress :=
  { progress with policiesAdded := progress.policiesAdded ++ [arn] }

/-- A policy that was attached to a new role is noted. -/
def noteRoleAdded (progress : RoleProgress) (arn : String) : RoleProgress :=
  { progress with policiesAdded := progress.policiesAdded ++ [arn] }

variable (arns : List String) (progress : PolicyProgress)

theorem foldl_noteRemoved :
    arns.foldl noteRemoved progress = { progress with policiesRemoved := progress.policiesRemoved ++ arns } := by
  induction arns generalizing progress with
  | nil => rw [List.foldl_nil, List.append_nil]
  | cons arn arns ih =>
    rw [List.foldl_cons, ih, noteRemoved, List.append_assoc]
    rfl

theorem foldl_noteAdded :
    arns.foldl noteAdded progress = { progress with policiesAdded := progress.policiesAdded ++ arns } := by
  induction arns generalizing progress with
  | nil => rw [List.foldl_nil, List.append_nil]
  | cons arn arns ih =>
    rw [List.foldl_cons, ih, noteAdded, List.append_assoc]
    rfl

theorem foldl_noteRoleAdded (progress : RoleProgress) :
    arns.foldl noteRoleAdded progress = { progress with policiesAdded := progress.policiesAdded ++ arns } := by
  induction arns generalizing progress with
  | nil => rw [List.foldl_nil, List.append_nil]
  | cons arn arns ih =>
    rw [List.foldl_cons, ih, noteRoleAdded, List.append_assoc]
    rfl

theorem detachRemoved_eq (roleName : String) (arns : List String) (progress : PolicyProgress) :
    detachRemoved roleName arns progress = eachDone (fun arn => .iam (.detachRolePolicy roleName arn))
      policyFaults.fails noteRemoved arns progress := by
  induction arns generalizing progress with
  | nil => rfl
  | cons arn arns ih =>
    rw [detachRemoved, eachDone, perform, Thread.perform_bind]
    congr 1
    funext answer
    rcases answer with e | u
    · cases e <;> first | exact ih _ | rfl
    · exact ih _

theorem attachAdded_eq (roleName : String) (arns : List String) (progress : PolicyProgress) :
    attachAdded roleName arns progress = eachDone (fun arn => .iam (.attachRolePolicy roleName arn))
      policyFaults.fails noteAdded arns progress := by
  induction arns generalizing progress with
  | nil => rfl
  | cons arn arns ih =>
    rw [attachAdded, eachDone, perform, Thread.perform_bind]
    congr 1
    funext answer
    rcases answer with e | u
    · rfl
    · exact ih _

theorem attachPolicies_eq (roleName : String) (arns : List String) (progress : RoleProgress) :
    attachPolicies roleName arns progress = eachDone (fun arn => .iam (.attachRolePolicy roleName arn))
      policyFaults.fails noteRoleAdded arns progress := by
  induction arns generalizing progress with
  | nil => rfl
  | cons arn arns ih =>
    rw [attachPolicies, requireIam, eachDone, perform, Thread.perform_bind, Thread.bind_access]
    congr 1
    funext answer
    rcases answer with e | u
    · rfl
    · exact ih _

/-- What the calls have done that detach policies. -/
def Detached (roleName : String) (X : Set String) (w : ServiceWorld) (arns : List String) (w' : ServiceWorld) :
    Prop :=
  Changed roleName (X \ { arn | arn ∈ arns }) w w'

/-- What the calls have done that attach policies. -/
structure AttachedTo (roleName : String) (X : Set String) (w : ServiceWorld) (arns : List String)
    (w' : ServiceWorld) : Prop where
  changed : Changed roleName (X ∪ { arn | arn ∈ arns }) w w'
  known : ∀ arn ∈ arns, arn ∈ w.iam.policies

theorem Detached.nil (h : attachments w.iam roleName = some X) : Detached roleName X w [] w :=
  .refl (by rw [h]; simp)

theorem AttachedTo.nil (h : attachments w.iam roleName = some X) : AttachedTo roleName X w [] w :=
  ⟨.refl (by rw [h]; simp), fun _ harn => absurd harn List.not_mem_nil⟩

variable {t t' : ServiceWorld}

/-- One more policy is detached. -/
theorem Detached.snoc {pre : List String} {arn : String} (h : Detached roleName X w pre t)
    (h' : Changed roleName ((X \ { a | a ∈ pre }) \ {arn}) t t') : Detached roleName X w (pre ++ [arn]) t' := by
  have hset : (X \ { a | a ∈ pre }) \ {arn} = X \ { a | a ∈ pre ++ [arn] } := by
    ext name
    simp only [Set.mem_sdiff, Set.mem_ofPred_eq, Set.mem_singleton_iff, List.mem_append, List.mem_singleton, not_or,
      and_assoc]
  rw [hset] at h'
  exact h.trans h'

/-- One more policy is attached. -/
theorem AttachedTo.snoc {pre : List String} {arn : String} (h : AttachedTo roleName X w pre t)
    (h' : Changed roleName (insert arn (X ∪ { a | a ∈ pre })) t t') (hpolicy : arn ∈ w.iam.policies) :
    AttachedTo roleName X w (pre ++ [arn]) t' := by
  have hset : insert arn (X ∪ { a | a ∈ pre }) = X ∪ { a | a ∈ pre ++ [arn] } := by
    ext name
    simp only [Set.mem_insert_iff, Set.mem_union, Set.mem_ofPred_eq, List.mem_append, List.mem_singleton]
    tauto
  rw [hset] at h'
  refine ⟨h.changed.trans h', fun name hname => ?_⟩
  rcases List.mem_append.mp hname with hold | hnew
  · exact h.known name hold
  · exact List.mem_singleton.mp hnew ▸ hpolicy

/-- Policies are attached, and then more. -/
theorem AttachedTo.append {pre more : List String} (h : AttachedTo roleName X w pre t)
    (h' : AttachedTo roleName (X ∪ { a | a ∈ pre }) t more t') : AttachedTo roleName X w (pre ++ more) t' := by
  have hset : X ∪ { a | a ∈ pre } ∪ { a | a ∈ more } = X ∪ { a | a ∈ pre ++ more } := by
    ext name
    simp only [Set.mem_union, Set.mem_ofPred_eq, List.mem_append, or_assoc]
  have hchanged := h.changed.trans h'.changed
  rw [hset] at hchanged
  refine ⟨hchanged, fun name hname => ?_⟩
  rcases List.mem_append.mp hname with hold | hnew
  · exact h.known name hold
  · exact h.changed.policies ▸ h'.known name hnew

/-- **The policies are detached**, or one of the calls is refused. -/
theorem run_detachRemoved {s : FaultyWorld}
    (h : attachments s.state.iam roleName = some X) : (∃ s', runFaulty ids (detachRemoved roleName arns progress) s =
        (.ok { progress with policiesRemoved := progress.policiesRemoved ++ arns }, s') ∧
      Completed (Detached roleName X s.state) arns s s') ∨
    ∃ pre arn post s', arns = pre ++ arn :: post ∧ runFaulty ids (detachRemoved roleName arns progress) s =
        (.error { progress with policiesRemoved := progress.policiesRemoved ++ pre }, s') ∧
      Detached roleName X s.state pre s'.state ∧ s'.failed = true ∧ s'.fault = none ∧
      ∃ f, s.fault = some f ∧ f.1 = pre.length := by
  have hworks : ∀ pre (arn : String) t, Detached roleName X s.state pre t →
      policyFaults.fails (.iam (.detachRolePolicy roleName arn))
        (ServiceAccess.serve ids (.iam (.detachRolePolicy roleName arn)) t).1 ≠ true := by
    intro pre arn t ht
    rw [fails_detach ids ht.at_role arn]
    simp
  rw [detachRemoved_eq]
  rcases run_eachDone (ServiceAccess.serve ids) noteRemoved (fun arn => ⟨_, rfl⟩)
    (fun pre arn t ht _ => ht.snoc (changed_detach ids ht.at_role arn))
    (fun pre arn t ht hfails => absurd hfails (hworks pre arn t ht)) arns progress s (Detached.nil h) with
    ⟨s', hrun, hdone⟩ | ⟨pre, arn, post, s', heq, hrun, hstopped⟩
  · rw [foldl_noteRemoved] at hrun
    exact .inl ⟨s', hrun, hdone⟩
  · rw [foldl_noteRemoved] at hrun
    refine .inr ⟨pre, arn, post, s', heq, hrun, hstopped.done, hstopped.failed, hstopped.fault, ?_⟩
    rcases hstopped.cause with hfault | ⟨t, ht, hfails⟩
    · exact hfault
    · exact absurd hfails (hworks pre arn t ht)

/-- A loop that attaches policies has stopped in front of a call that is refused, or a policy that is not there. -/
structure AttachStopped (roleName : String) (X : Set String) (pre : List String) (arn : String)
    (s s' : FaultyWorld) : Prop where
  done : AttachedTo roleName X s.state pre s'.state
  failed : s'.failed = true
  fault : s'.fault = none
  spared : ∀ f, s.fault = some f → pre.length ≤ f.1
  cause : (∃ f, s.fault = some f ∧ f.1 = pre.length) ∨ arn ∉ s.state.iam.policies

/-- **The policies are attached**, or the loop stops. -/
theorem run_attaching {γ : Type} (note : γ → String → γ) (arns : List String) (progress : γ) {s : FaultyWorld}
    (h : attachments s.state.iam roleName = some X) :
    (∃ s', runFaulty ids (eachDone (fun arn => .iam (.attachRolePolicy roleName arn)) policyFaults.fails note arns
        progress) s = (.ok (arns.foldl note progress), s') ∧ Completed (AttachedTo roleName X s.state) arns s s') ∨
    ∃ pre arn post s', arns = pre ++ arn :: post ∧
      runFaulty ids (eachDone (fun arn => .iam (.attachRolePolicy roleName arn)) policyFaults.fails note arns
        progress) s = (.error (pre.foldl note progress), s') ∧ AttachStopped roleName X pre arn s s' := by
  have hfails : ∀ pre (arn : String) t, AttachedTo roleName X s.state pre t →
      policyFaults.fails (.iam (.attachRolePolicy roleName arn))
        (ServiceAccess.serve ids (.iam (.attachRolePolicy roleName arn)) t).1 =
          decide (arn ∉ s.state.iam.policies) := by
    intro pre arn t ht
    rw [fails_attach ids ht.changed.at_role arn, ht.changed.policies]
  rcases run_eachDone (ServiceAccess.serve ids) note (fun arn => ⟨_, rfl⟩)
    (R := AttachedTo roleName X s.state)
    (fun pre arn t ht hok => by
      rw [hfails pre arn t ht] at hok
      have hpolicy := not_not.mp (of_decide_eq_false hok)
      exact ht.snoc (changed_attach ids ht.changed.at_role (ht.changed.policies ▸ hpolicy)) hpolicy)
    (fun pre arn t ht hbad => by
      rw [hfails pre arn t ht] at hbad
      rw [serve_attach_of_unknown ids ht.changed.at_role (ht.changed.policies ▸ of_decide_eq_true hbad)]
      exact ht)
    arns progress s (AttachedTo.nil h) with ⟨s', hrun, hdone⟩ | ⟨pre, arn, post, s', heq, hrun, hstopped⟩
  · exact .inl ⟨s', hrun, hdone⟩
  · refine .inr ⟨pre, arn, post, s', heq, hrun, hstopped.done, hstopped.failed, hstopped.fault, hstopped.spared, ?_⟩
    rcases hstopped.cause with hfault | ⟨t, ht, hbad⟩
    · exact .inl hfault
    · rw [hfails pre arn t ht] at hbad
      exact .inr (of_decide_eq_true hbad)

end Loops

end ContainRes.Projects.VdiRole
