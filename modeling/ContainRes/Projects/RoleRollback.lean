import ContainRes.Projects.ReusedNames
import ContainRes.Projects.RoleFaults

/-! # What a failed change of a role leaves

The handlers of `_update_vdi_role` and `_create_vdi_role_and_instance_profile` detach what was attached and attach
again what was detached, or delete the new role.

* **`Interrupted`** — how far the calls of `_update_vdi_role` can have come when one fails.
* **`run_updateVdiRole_of_role`**, **`interrupts`** — the change of a role that is there, which ends or is undone.
* **`run_createVdiRole`** — the creation of a role, which ends or leaves no role. -/

namespace ContainRes.Projects.VdiRole

open Accounts Effects Store Function Stepwise

section Undo

variable (ids : IdSource) {roleName : String} {X : Set String}

/-- A step after the failure: no further call is refused, and none is counted as failed. -/
structure Undone (P : ServiceWorld → Prop) (s s' : FaultyWorld) : Prop where
  done : P s'.state
  fault : s'.fault = none
  failed : s'.failed = s.failed

variable {s : FaultyWorld}

/-- A call that works when no failure is to come. -/
theorem serve_of_no_fault (hfault : s.fault = none) (op : ServiceAccess)
    {answer : Refusal → op.Answer} (h : policyFaults.refuse op = some answer)
    (hworks : policyFaults.fails op (ServiceAccess.serve ids op s.state).1 = false) : serveFaulty ids op s =
      ((ServiceAccess.serve ids op s.state).1, ⟨(ServiceAccess.serve ids op s.state).2, none, s.failed⟩) := by
  unfold serveFaulty
  rw [Injection.inject_of_pass h (by rw [hfault]; simp), if_neg (by rw [hworks]; simp), hfault, later_none]

/-- The undoing of an attachment. -/
theorem run_undo_attach (hfault : s.fault = none) (h : attachments s.state.iam roleName = some X)
    (arn : String) : ∃ s', runFaulty ids (undoIam (.detachRolePolicy roleName arn)) s = (.ok ⟨⟩, s') ∧
      Undone (Changed roleName (X \ {arn}) s.state) s s' := by
  have hserve := serve_of_no_fault ids hfault (.iam (.detachRolePolicy roleName arn)) rfl (fails_detach ids h arn)
  have hanswer := fails_detach ids h arn
  refine ⟨⟨(ServiceAccess.serve ids (.iam (.detachRolePolicy roleName arn)) s.state).2, none, s.failed⟩, ?_,
    changed_detach ids h arn, rfl, rfl⟩
  unfold runFaulty undoIam perform
  rw [Thread.perform_bind, Thread.run_toProc_access, hserve]
  revert hanswer
  generalize (ServiceAccess.serve ids (.iam (.detachRolePolicy roleName arn)) s.state).1 = answer
  intro hanswer
  rcases answer with e | u
  · have hnone : e = .noSuchEntity := by simpa [policyFaults] using hanswer
    dsimp only
    rw [if_pos hnone]
    rfl
  · rfl

/-- The undoing of a detachment, of a policy that there is. -/
theorem run_undo_detach (hfault : s.fault = none) (h : attachments s.state.iam roleName = some X)
    {arn : String} (hpolicy : arn ∈ s.state.iam.policies) :
    ∃ s', runFaulty ids (attachAgain roleName arn) s = (.ok ⟨⟩, s') ∧
      Undone (Changed roleName (insert arn X) s.state) s s' := by
  have hanswer : policyFaults.fails (.iam (.attachRolePolicy roleName arn))
      (ServiceAccess.serve ids (.iam (.attachRolePolicy roleName arn)) s.state).1 = false := by
    rw [fails_attach ids h arn, decide_eq_false (not_not.mpr hpolicy)]
  have hserve := serve_of_no_fault ids hfault (.iam (.attachRolePolicy roleName arn)) rfl hanswer
  refine ⟨⟨(ServiceAccess.serve ids (.iam (.attachRolePolicy roleName arn)) s.state).2, none, s.failed⟩, ?_,
    changed_attach ids h hpolicy, rfl, rfl⟩
  unfold runFaulty attachAgain perform
  rw [Thread.perform_bind, Thread.run_toProc_access, hserve]
  revert hanswer
  generalize (ServiceAccess.serve ids (.iam (.attachRolePolicy roleName arn)) s.state).1 = answer
  intro hanswer
  rcases answer with e | u
  · exact absurd hanswer (by simp [policyFaults])
  · rfl

/-- All attachments are undone. -/
theorem run_undo_attachments (arns : List String) (hfault : s.fault = none)
    (h : attachments s.state.iam roleName = some X) :
    ∃ s', runFaulty ids (Thread.forEach (fun arn => undoIam (.detachRolePolicy roleName arn)) arns) s =
        (.ok ⟨⟩, s') ∧ Undone (Detached roleName X s.state arns) s s' := by
  unfold runFaulty
  rw [Thread.toProc_forEach]
  refine run_forEach_of_ok (R := fun pre t => Undone (Detached roleName X s.state pre) s t) arns ?_ s
    ⟨Detached.nil h, hfault, rfl⟩
  intro arn _ pre t ht
  obtain ⟨t', hrun, hundone⟩ := run_undo_attach ids ht.fault ht.done.at_role arn
  exact ⟨t', hrun, ht.done.snoc hundone.done, hundone.fault, hundone.failed.trans ht.failed⟩

/-- All detachments are undone. -/
theorem run_undo_detachments (arns : List String) (hfault : s.fault = none)
    (h : attachments s.state.iam roleName = some X) (hknown : ∀ arn ∈ arns, arn ∈ s.state.iam.policies) :
    ∃ s', runFaulty ids (Thread.forEach (attachAgain roleName) arns) s = (.ok ⟨⟩, s') ∧
      Undone (AttachedTo roleName X s.state arns) s s' := by
  unfold runFaulty
  rw [Thread.toProc_forEach]
  refine run_forEach_of_ok (R := fun pre t => Undone (AttachedTo roleName X s.state pre) s t) arns ?_ s
    ⟨AttachedTo.nil h, hfault, rfl⟩
  intro arn harn pre t ht
  have hpolicy := hknown arn harn
  obtain ⟨t', hrun, hundone⟩ := run_undo_detach ids ht.fault ht.done.changed.at_role
    (ht.done.changed.policies ▸ hpolicy)
  exact ⟨t', hrun, ht.done.snoc hundone.done hpolicy, hundone.fault, hundone.failed.trans ht.failed⟩

/-- **The handler of `_update_vdi_role`.** What was attached is detached, and what was detached is attached. -/
theorem run_rollBackPolicies (progress : PolicyProgress) (hfault : s.fault = none)
    (h : attachments s.state.iam roleName = some X)
    (hknown : ∀ arn ∈ progress.policiesRemoved, arn ∈ s.state.iam.policies) :
    ∃ s', runFaulty ids (rollBackPolicies roleName progress) s =
        (.error (generalException "Could not update role with given policies"), s') ∧ Undone (Changed roleName
        (X \ { arn | arn ∈ progress.policiesAdded } ∪ { arn | arn ∈ progress.policiesRemoved }) s.state) s s' := by
  obtain ⟨s₁, hrun₁, hundone₁⟩ := run_undo_attachments ids progress.policiesAdded hfault h
  obtain ⟨s₂, hrun₂, hundone₂⟩ := run_undo_detachments ids progress.policiesRemoved hundone₁.fault
    hundone₁.done.at_role fun arn harn => hundone₁.done.policies ▸ hknown arn harn
  refine ⟨s₂, ?_, hundone₁.done.trans hundone₂.done.changed, hundone₂.fault, hundone₂.failed.trans hundone₁.failed⟩
  unfold runFaulty rollBackPolicies
  rw [Thread.toProc_bind, Proc.run_bind_of_ok hrun₁, Thread.toProc_bind, Proc.run_bind_of_ok hrun₂]
  rfl

end Undo

/-! ## The change of a role that is there -/

/-- How far the calls of `_update_vdi_role` can have come when one fails: what was detached and attached. -/
inductive Interrupted (policies policiesToDetach policiesToAttach : List String) :
    List String → List String → Prop
  | detaching {pre post : List String} {arn : String} (h : policiesToDetach = pre ++ arn :: post) :
      Interrupted policies policiesToDetach policiesToAttach pre []
  | attaching {pre post : List String} {arn : String} (h : policiesToAttach = pre ++ arn :: post)
      (known : ∀ name ∈ pre, name ∈ policies) :
      Interrupted policies policiesToDetach policiesToAttach policiesToDetach pre

namespace Interrupted

variable {policies policiesToDetach policiesToAttach removed added removed' added' : List String}

theorem mem_of_mem (h : Interrupted policies policiesToDetach policiesToAttach removed added) :
    ∀ arn ∈ removed, arn ∈ policiesToDetach := by
  rcases h with ⟨heq⟩ | ⟨-, -⟩
  · exact fun arn harn => heq ▸ List.mem_append_left _ harn
  · exact fun _ harn => harn

theorem mem_of_mem_added (h : Interrupted policies policiesToDetach policiesToAttach removed added) :
    ∀ arn ∈ added, arn ∈ policiesToAttach := by
  rcases h with ⟨heq⟩ | ⟨heq, -⟩
  · exact fun _ harn => absurd harn List.not_mem_nil
  · exact fun arn harn => heq ▸ List.mem_append_left _ harn

theorem length_lt (h : Interrupted policies policiesToDetach policiesToAttach removed added) :
    removed.length + added.length < policiesToDetach.length + policiesToAttach.length := by
  rcases h with ⟨heq⟩ | ⟨heq, -⟩
  · rw [heq]
    simp only [List.length_append, List.length_cons, List.length_nil]
    omega
  · rw [heq]
    simp only [List.length_append, List.length_cons]
    omega

/-- An interruption is known by the number of calls before it. -/
theorem eq_of_length (h : Interrupted policies policiesToDetach policiesToAttach removed added)
    (h' : Interrupted policies policiesToDetach policiesToAttach removed' added')
    (hlength : removed'.length + added'.length = removed.length + added.length) :
    removed' = removed ∧ added' = added := by
  rcases h with @⟨_, _, _, heq⟩ | @⟨_, _, _, heq, -⟩ <;> rcases h' with @⟨_, _, _, heq'⟩ | @⟨_, _, _, heq', -⟩
  · exact ⟨List.append_inj_left (heq'.symm.trans heq) (by simpa using hlength), rfl⟩
  · rw [heq] at hlength
    simp only [List.length_append, List.length_cons, List.length_nil] at hlength
    omega
  · rw [heq'] at hlength
    simp only [List.length_append, List.length_cons, List.length_nil] at hlength
    omega
  · exact ⟨rfl, List.append_inj_left (heq'.symm.trans heq) (by omega)⟩

/-- No call before an interruption failed by itself. -/
theorem length_le (h : Interrupted policies policiesToDetach policiesToAttach removed added) {arn : String}
    {post : List String} (heq' : policiesToAttach = added' ++ arn :: post) (hunknown : arn ∉ policies) :
    removed.length + added.length ≤ policiesToDetach.length + added'.length := by
  rcases h with @⟨_, _, _, heq⟩ | @⟨_, _, _, heq, hknown⟩
  · rw [heq]
    simp only [List.length_append, List.length_cons, List.length_nil]
    omega
  · by_contra hlonger
    have hlonger' : added' ++ [arn] <+: policiesToAttach := by
      refine ⟨post, ?_⟩
      rw [heq', List.append_assoc]
      rfl
    have hshorter : added' ++ [arn] <+: added := by
      refine List.prefix_of_prefix_length_le hlonger' ⟨_, heq.symm⟩ ?_
      rw [List.length_append, List.length_singleton]
      omega
    exact hunknown (hknown arn (hshorter.subset (by simp)))

end Interrupted

section Update

variable (ids : IdSource) {roleName : String} {X : Set String} {w : ServiceWorld}
  {policiesToDetach policiesToAttach : List String}

/-- The calls have all been made. -/
structure Finished (roleName : String) (X : Set String) (policiesToDetach policiesToAttach : List String)
    (s s' : FaultyWorld) : Prop where
  changed : Changed roleName (X \ { arn | arn ∈ policiesToDetach } ∪ { arn | arn ∈ policiesToAttach })
    s.state s'.state
  known : ∀ arn ∈ policiesToAttach, arn ∈ s.state.iam.policies
  failed : s'.failed = s.failed
  spared : ∀ f, s.fault = some f → policiesToDetach.length + policiesToAttach.length ≤ f.1

/-- One of the calls has failed. -/
structure Failed (roleName : String) (X : Set String) (policiesToDetach policiesToAttach : List String)
    (removed added : List String) (s s' : FaultyWorld) : Prop where
  interrupted : Interrupted s.state.iam.policies policiesToDetach policiesToAttach removed added
  changed : Changed roleName (X \ { arn | arn ∈ removed } ∪ { arn | arn ∈ added }) s.state s'.state
  failed : s'.failed = true
  fault : s'.fault = none
  spared : ∀ f, s.fault = some f → removed.length + added.length ≤ f.1
  cause : (∃ f, s.fault = some f ∧ f.1 = removed.length + added.length) ∨
    removed = policiesToDetach ∧ ∃ arn post, policiesToAttach = added ++ arn :: post ∧
      arn ∉ s.state.iam.policies

/-- The body of `_update_vdi_role`. -/
theorem run_changePolicies {s : FaultyWorld} (h : attachments s.state.iam roleName = some X) :
    (∃ s', runFaulty ids (changePolicies roleName policiesToDetach policiesToAttach) s = (.ok ⟨⟩, s') ∧
      Finished roleName X policiesToDetach policiesToAttach s s') ∨
    ∃ removed added s', runFaulty ids (changePolicies roleName policiesToDetach policiesToAttach) s =
        (.error { policiesAdded := added, policiesRemoved := removed }, s') ∧
      Failed roleName X policiesToDetach policiesToAttach removed added s s' := by
  unfold runFaulty changePolicies
  rw [Thread.toProc_bind]
  rcases run_detachRemoved ids policiesToDetach {} h with
    ⟨s₁, hrun₁, hdone⟩ | ⟨pre, arn, post, s₁, heq, hrun₁, hdetached, hfailed, hfault, f, hf, hposition⟩
  · rw [Proc.run_bind_of_ok hrun₁, Thread.toProc_bind, attachAdded_eq]
    rcases run_attaching ids noteAdded policiesToAttach { policiesRemoved := policiesToDetach }
      hdone.done.at_role with ⟨s₂, hrun₂, hdone₂⟩ | ⟨pre, arn, post, s₂, heq, hrun₂, hstopped⟩
    · refine .inl ⟨s₂, Proc.run_bind_of_ok hrun₂, hdone.done.trans hdone₂.done.changed, ?_,
        hdone₂.failed.trans hdone.failed, ?_⟩
      · exact fun name hname => hdone.done.policies ▸ hdone₂.done.known name hname
      · intro f hf
        have hspared := hdone.spared f hf
        have hlater := hdone₂.spared (f.1 - policiesToDetach.length, f.2) (by rw [hdone.fault, hf]; rfl)
        dsimp only at hlater
        omega
    · refine .inr ⟨policiesToDetach, pre, s₂, ?_, .attaching heq ?_, hdone.done.trans hstopped.done.changed,
        hstopped.failed, hstopped.fault, ?_, ?_⟩
      · refine (Proc.run_bind_of_error hrun₂).trans ?_
        rw [foldl_noteAdded]
        rfl
      · exact fun name hname => hdone.done.policies ▸ hstopped.done.known name hname
      · intro f hf
        have hspared := hdone.spared f hf
        have hlater := hstopped.spared (f.1 - policiesToDetach.length, f.2) (by rw [hdone.fault, hf]; rfl)
        dsimp only at hlater
        omega
      · rcases hstopped.cause with ⟨f', hf', hposition⟩ | hunknown
        · rw [hdone.fault] at hf'
          obtain ⟨f, hf, rfl⟩ := Option.map_eq_some_iff.mp hf'
          have hspared := hdone.spared f hf
          dsimp only at hposition
          exact .inl ⟨f, hf, by omega⟩
        · exact .inr ⟨rfl, arn, post, heq, hdone.done.policies ▸ hunknown⟩
  · refine .inr ⟨pre, [], s₁, Proc.run_bind_of_error hrun₁, .detaching heq, ?_, hfailed, hfault, ?_, ?_⟩
    · have hset : X \ { a | a ∈ pre } ∪ { a | a ∈ ([] : List String) } = X \ { a | a ∈ pre } := by simp
      rw [hset]
      exact hdetached
    · intro f' hf'
      rw [hf] at hf'
      obtain rfl := Option.some.inj hf'
      simp [hposition]
    · exact .inl ⟨f, hf, by simp [hposition]⟩

/-- After the failure the handler has put back what the role had, but for what the calls found already done. -/
def putBack (X : Set String) (removed added : List String) : Set String :=
  (X \ { arn | arn ∈ removed } ∪ { arn | arn ∈ added }) \ { arn | arn ∈ added } ∪ { arn | arn ∈ removed }

/-- The role is as before when exactly what was detached had been attached, and what was attached had not. -/
theorem putBack_eq_iff {removed added : List String} (hdisjoint : ∀ arn ∈ removed, arn ∉ added) :
    putBack X removed added = X ↔ (∀ arn ∈ removed, arn ∈ X) ∧ ∀ arn ∈ added, arn ∉ X := by
  constructor
  · intro heq
    refine ⟨fun arn harn => ?_, fun arn harn hX => ?_⟩
    · rw [← heq]
      exact .inr harn
    · rw [← heq] at hX
      rcases hX with ⟨-, hnot⟩ | hremoved
      · exact hnot harn
      · exact hdisjoint arn hremoved harn
  · rintro ⟨hremoved, hadded⟩
    ext arn
    constructor
    · rintro (⟨⟨hX, -⟩ | hnew, hnot⟩ | hback)
      · exact hX
      · exact absurd hnew hnot
      · exact hremoved arn hback
    · intro hX
      by_cases hback : arn ∈ removed
      · exact .inr hback
      · exact .inl ⟨.inl ⟨hX, hback⟩, fun hnew => hadded arn hnew hX⟩

/-- `_update_vdi_role` has failed, and its handler has run. -/
structure RolledBack (roleName : String) (X : Set String) (policiesToDetach policiesToAttach : List String)
    (removed added : List String) (s s' : FaultyWorld) : Prop where
  interrupted : Interrupted s.state.iam.policies policiesToDetach policiesToAttach removed added
  changed : Changed roleName (putBack X removed added) s.state s'.state
  failed : s'.failed = true
  spared : ∀ f, s.fault = some f → removed.length + added.length ≤ f.1
  cause : (∃ f, s.fault = some f ∧ f.1 = removed.length + added.length) ∨
    removed = policiesToDetach ∧ ∃ arn post, policiesToAttach = added ++ arn :: post ∧
      arn ∉ s.state.iam.policies

variable (policiesToAttach) in
/-- **The change of a role that is there.** All calls are made, or one fails and the handler runs. -/
theorem run_updateVdiRole_of_role {settings : RoleSettings} {projectName : Option String} {s : FaultyWorld}
    {role : Role} (hrole : s.state.iam.roles.getItem (getVdiRoleName settings projectName) = some role)
    (hpath : role.hasVdiPath = true) (hknown : ∀ arn ∈ policiesToDetach, arn ∈ s.state.iam.policies) :
    (∃ s', runFaulty ids (updateVdiRole settings projectName policiesToDetach policiesToAttach) s = (.ok ⟨⟩, s') ∧
      Finished (getVdiRoleName settings projectName) { arn | arn ∈ role.policyArns } policiesToDetach
        policiesToAttach s s') ∨ ∃ removed added s' e,
      runFaulty ids (updateVdiRole settings projectName policiesToDetach policiesToAttach) s = (.error e, s') ∧
      RolledBack (getVdiRoleName settings projectName) { arn | arn ∈ role.policyArns } policiesToDetach
        policiesToAttach removed added s s' := by
  have hquiet : serveFaulty ids (.getRole (getVdiRoleName settings projectName)) s = (some role, s) := by
    unfold serveFaulty
    rw [Injection.inject_of_quiet rfl]
    simp only [ServiceAccess.serve, hrole]
  have hrun : runFaulty ids (updateVdiRole settings projectName policiesToDetach policiesToAttach) s =
      runFaulty ids (Thread.tryCatch (rollBackPolicies (getVdiRoleName settings projectName))
        (changePolicies (getVdiRoleName settings projectName) policiesToDetach policiesToAttach)) s := by
    unfold runFaulty updateVdiRole perform
    rw [Thread.perform_bind, Thread.run_toProc_access, hquiet]
    dsimp only
    rw [if_pos (by simp [hpath])]
  rw [hrun]
  rcases run_changePolicies ids (attachments_of_role hrole) with ⟨s', hbody, hfinished⟩ |
    ⟨removed, added, s₁, hbody, hfailed⟩
  · exact .inl ⟨s', Thread.run_toProc_tryCatch_of_ok _ hbody, hfinished⟩
  · obtain ⟨s', hhandler, hundone⟩ := run_rollBackPolicies ids
      { policiesAdded := added, policiesRemoved := removed } hfailed.fault hfailed.changed.at_role
      fun arn harn => hfailed.changed.policies ▸ hknown arn (hfailed.interrupted.mem_of_mem arn harn)
    exact .inr ⟨removed, added, s', _, (Thread.run_toProc_tryCatch_of_error _ hbody).trans hhandler,
      hfailed.interrupted, hfailed.changed.trans hundone.done, hundone.failed.trans hfailed.failed,
      hfailed.spared, hfailed.cause⟩

/-- **Every interruption can happen**: the refusal of the call after it. -/
theorem interrupts {settings : RoleSettings} {projectName : Option String} {w : ServiceWorld} (e : Refusal)
    {role : Role} (hrole : w.iam.roles.getItem (getVdiRoleName settings projectName) = some role)
    (hpath : role.hasVdiPath = true) (hknown : ∀ arn ∈ policiesToDetach, arn ∈ w.iam.policies)
    {removed added : List String} (h : Interrupted w.iam.policies policiesToDetach policiesToAttach removed added) :
    ∃ s' e', runFaulty ids (updateVdiRole settings projectName policiesToDetach policiesToAttach)
        ⟨w, some (removed.length + added.length, e), false⟩ = (.error e', s') ∧ s'.failed = true ∧
      Changed (getVdiRoleName settings projectName) (putBack { arn | arn ∈ role.policyArns } removed added)
        w s'.state := by
  rcases run_updateVdiRole_of_role ids policiesToAttach
      (s := ⟨w, some (removed.length + added.length, e), false⟩) hrole hpath hknown with
    ⟨s', -, hfinished⟩ | ⟨removed', added', s', e', hrun, hrolled⟩
  · -- the calls after the interruption have not been made
    have hspared := hfinished.spared _ rfl
    have hlength := h.length_lt
    dsimp only at hspared
    omega
  · have hlength : removed'.length + added'.length = removed.length + added.length := by
      rcases hrolled.cause with ⟨f, hf, hposition⟩ | ⟨rfl, arn, post, heq, hunknown⟩
      · obtain rfl := Option.some.inj hf
        exact hposition.symm
      · exact le_antisymm (hrolled.spared _ rfl) (h.length_le heq hunknown)
    obtain ⟨rfl, rfl⟩ := h.eq_of_length hrolled.interrupted hlength
    exact ⟨s', e', hrun, hrolled.failed, hrolled.changed⟩

end Update

/-! ## The creation of a role -/

section Create

variable (ids : IdSource) {roleName : String} {w : ServiceWorld}

/-- What IAM keeps to: a policy that is attached is there, and so is a role in an instance profile. -/
structure ValidIam (iam : Iam) : Prop where
  attached : ∀ roleName role, iam.roles.getItem roleName = some role →
    ∀ arn ∈ role.policyArns, arn ∈ iam.policies
  inProfile : ∀ profileName roleName, iam.instanceProfiles.getItem profileName = some (some roleName) →
    iam.roles.Has roleName

variable {call : IamAccess}

/-- A call that cannot fail runs as it does otherwise. -/
theorem run_requireIam (hquiet : policyFaults.refuse (.iam call) = none) (progress : RoleProgress)
    (s : FaultyWorld) : runFaulty ids (requireIam call progress) s =
      ((((requireIam call progress).toProc (ServiceAccess.serve ids)).run s.state).1,
        { s with state := (((requireIam call progress).toProc (ServiceAccess.serve ids)).run s.state).2 }) := by
  have hobeys : (requireIam call progress).Obeys policyFaults.quiet (fun _ _ => True) (fun _ _ => True) ⟨⟩ := by
    refine ⟨hquiet, fun answer _ => ?_⟩
    cases answer <;> trivial
  exact Injection.run_of_quiet hobeys s

variable {s : FaultyWorld}

/-- A call of the handler that works. -/
theorem run_undoIam {iam : Iam}
    (hserve : call.serve s.state.iam = (.ok ⟨⟩, iam)) (hquiet : policyFaults.refuse (.iam call) = none) :
    runFaulty ids (undoIam call) s = (.ok ⟨⟩, { s with state := { s.state with iam := iam } }) := by
  unfold runFaulty undoIam perform serveFaulty
  rw [Thread.perform_bind, Thread.run_toProc_access, Injection.inject_of_quiet hquiet]
  simp only [ServiceAccess.serve, hserve]
  rfl

/-- A role without policies that is in no instance profile is deleted. -/
theorem serve_deleteRole {iam : Iam} (h : attachments iam roleName = some ∅)
    (hprofiles : ∀ profileName, iam.instanceProfiles.getItem profileName ≠ some (some roleName)) :
    (IamAccess.deleteRole roleName).serve iam = (.ok ⟨⟩, { iam with roles := iam.roles.deleteItem roleName }) := by
  obtain ⟨role, hrole, hempty⟩ := exists_role h
  have hnone : role.policyArns = [] := by
    refine List.eq_nil_iff_forall_not_mem.mpr fun arn harn => ?_
    have hmem : arn ∈ (∅ : Set String) := by
      rw [hempty]
      exact harn
    exact absurd hmem (Set.notMem_empty arn)
  have hfree : ¬ (role.policyArns ≠ [] ∨
      iam.instanceProfiles.scan.any (fun item => item.2 = some roleName) = true) := by
    rintro (hsome | hany)
    · exact hsome hnone
    · obtain ⟨⟨profileName, entry⟩, hitem, hentry⟩ := List.any_eq_true.mp hany
      obtain rfl : entry = some roleName := of_decide_eq_true hentry
      exact hprofiles profileName (Table.mem_scan.mp hitem)
  simp only [IamAccess.serve, hrole]
  exact if_neg hfree

/-- The world with the new role. -/
def withBareRole (w : ServiceWorld) (roleName : String) : ServiceWorld :=
  { w with iam := { w.iam with roles := w.iam.roles.putItem roleName ⟨true, []⟩ } }

/-- The world with the new role, and its instance profile. -/
def withRole (w : ServiceWorld) (roleName : String) : ServiceWorld :=
  { withBareRole w roleName with iam := { (withBareRole w roleName).iam with
    instanceProfiles := w.iam.instanceProfiles.putItem roleName none } }

theorem attachments_withBareRole :
    attachments (withBareRole w roleName).iam = update (attachments w.iam) roleName (some ∅) := by
  refine (attachments_putItem w.iam roleName ⟨true, []⟩).trans ?_
  simp

theorem attachments_withRole : attachments (withRole w roleName).iam = update (attachments w.iam) roleName (some ∅) :=
  attachments_withBareRole

/-- The world without a role and its instance profile. -/
def withoutRole (w : ServiceWorld) (roleName : String) : ServiceWorld :=
  { w with iam := { w.iam with
    roles := w.iam.roles.deleteItem roleName
    instanceProfiles := w.iam.instanceProfiles.deleteItem roleName } }

theorem attachments_withoutRole : attachments (withoutRole w roleName).iam = update (attachments w.iam) roleName none :=
  attachments_deleteItem w.iam roleName

/-- **The handler of a creation** takes back the policies, the role and the instance profile. -/
theorem run_rollBackRole {added : List String} (hfault : s.fault = none) (hnone : attachments w.iam roleName = none)
    (hprofiles : ∀ profileName, w.iam.instanceProfiles.getItem profileName ≠ some (some roleName))
    (h : AttachedTo roleName ∅ (withRole w roleName) added s.state) :
    ∃ s', runFaulty ids (rollBackRole roleName ⟨true, true, added⟩) s =
        (.error (generalException "Could not create role with given policies"), s') ∧
      attachments s'.state.iam = attachments w.iam ∧ s'.state.db = w.db := by
  obtain ⟨s₁, hrun₁, hundone⟩ := run_undo_attachments ids added hfault h.changed.at_role
  have hchanged := h.changed.trans hundone.done
  have hempty : attachments s₁.state.iam roleName = some ∅ := by
    rw [hundone.done.at_role]
    simp
  have hlisted : ∀ profileName, s₁.state.iam.instanceProfiles.getItem profileName ≠ some (some roleName) := by
    intro profileName
    rw [hchanged.instanceProfiles, withRole, Table.getItem_putItem]
    by_cases hname : profileName = roleName
    · rw [if_pos hname]
      simp
    · rw [if_neg hname]
      exact hprofiles profileName
  -- the role has no policies any more, and its instance profile is empty
  have hdeleteRole := run_undoIam ids (serve_deleteRole hempty hlisted) rfl
  have hprofile : s₁.state.iam.instanceProfiles.getItem roleName = some none := by
    rw [hchanged.instanceProfiles]
    exact Table.getItem_putItem_self _ _ _
  have hserve : (IamAccess.deleteInstanceProfile roleName).serve
      { s₁.state.iam with roles := s₁.state.iam.roles.deleteItem roleName } =
        (.ok ⟨⟩, { s₁.state.iam with
          roles := s₁.state.iam.roles.deleteItem roleName
          instanceProfiles := s₁.state.iam.instanceProfiles.deleteItem roleName }) := by
    simp only [IamAccess.serve, hprofile]
  have hdeleteProfile := run_undoIam ids (s := { s₁ with state := { s₁.state with
    iam := { s₁.state.iam with roles := s₁.state.iam.roles.deleteItem roleName } } }) hserve rfl
  refine ⟨{ s₁ with state := withoutRole s₁.state roleName }, ?_, ?_, hchanged.db⟩
  · unfold runFaulty rollBackRole
    rw [Thread.toProc_bind, Proc.run_bind_of_ok hrun₁, Thread.toProc_bind, Thread.toProc_when,
      Proc.run_bind_of_ok ((Proc.run_when_pos rfl _).trans hdeleteRole), Thread.toProc_bind, Thread.toProc_when,
      Proc.run_bind_of_ok ((Proc.run_when_pos rfl _).trans hdeleteProfile)]
    rfl
  · rw [attachments_withoutRole, hchanged.attachments, attachments_withRole, update_idem, update_idem, ← hnone,
      update_eq_self]

theorem run_requireIam_ok {iam : Iam}
    (hserve : call.serve s.state.iam = (.ok ⟨⟩, iam)) (hquiet : policyFaults.refuse (.iam call) = none)
    (progress : RoleProgress) : runFaulty ids (requireIam call progress) s =
      (.ok ⟨⟩, { s with state := { s.state with iam := iam } }) := by
  rw [run_requireIam ids hquiet, run_requireIam_of_ok ids hserve]

theorem run_requireIam_error {e : IamError}
    (hserve : call.serve s.state.iam = (.error e, s.state.iam)) (hquiet : policyFaults.refuse (.iam call) = none)
    (progress : RoleProgress) : runFaulty ids (requireIam call progress) s = (.error progress, s) := by
  rw [run_requireIam ids hquiet, run_requireIam_of_error ids hserve]

/-- What the creation of a role needs beside the role not being there. -/
structure Creatable (settings : RoleSettings) (iam : Iam) (roleName : String) (policyArns : List String) :
    Prop where
  free : ¬ iam.instanceProfiles.Has roleName
  known : ∀ arn ∈ policyArns, arn ∈ iam.policies
  required : ∀ arn ∈ settings.requiredPolicyArns, arn ∈ iam.policies

theorem roles_addRole (iam : Iam) (roleName profileName : String) :
    ((IamAccess.addRoleToInstanceProfile roleName profileName).serve iam).2.roles = iam.roles := by
  unfold IamAccess.serve
  dsimp only
  split
  · rfl
  · split <;> rfl

variable {settings : RoleSettings} (policyArns : List String)

/-- The body of `_create_vdi_role_and_instance_profile`, when neither the role nor the instance profile is there. -/
theorem run_createRoleAndProfile
    (hrole : ¬ s.state.iam.roles.Has roleName) (hprofile : ¬ s.state.iam.instanceProfiles.Has roleName) :
    (∃ s', runFaulty ids (createRoleAndProfile settings roleName policyArns) s = (.ok ⟨⟩, s') ∧
      attachments s'.state.iam = update (attachments s.state.iam) roleName
        (some { arn | arn ∈ policyArns ∨ arn ∈ settings.requiredPolicyArns }) ∧
      s'.state.db = s.state.db ∧ s'.failed = s.failed ∧ Creatable settings s.state.iam roleName policyArns) ∨
    ∃ added s', runFaulty ids (createRoleAndProfile settings roleName policyArns) s = (.error ⟨true, true, added⟩, s') ∧
      AttachedTo roleName ∅ (withRole s.state roleName) added s'.state ∧ s'.fault = none ∧
      (s.fault = none → ¬ Creatable settings s.state.iam roleName policyArns) := by
  have hcreated : runFaulty ids (requireIam (.createRole roleName) {}) s =
      (.ok ⟨⟩, { s with state := withBareRole s.state roleName }) :=
    run_requireIam_ok ids (serve_createRole_of_free hrole) rfl {}
  have hprofiled : runFaulty ids (requireIam (.createInstanceProfile roleName) { isVdiRoleCreated := true })
      { s with state := withBareRole s.state roleName } = (.ok ⟨⟩, { s with state := withRole s.state roleName }) :=
    run_requireIam_ok ids (s := { s with state := withBareRole s.state roleName })
      (serve_createInstanceProfile_of_free hprofile) rfl _
  have hempty : attachments (withRole s.state roleName).iam roleName = some ∅ := by
    rw [attachments_withRole, update_self]
  unfold runFaulty createRoleAndProfile
  rw [Thread.toProc_bind, Proc.run_bind_of_ok hcreated, Thread.toProc_bind, Proc.run_bind_of_ok hprofiled,
    Thread.toProc_bind, attachPolicies_eq]
  rcases run_attaching ids noteRoleAdded policyArns ⟨true, true, []⟩
      (s := { s with state := withRole s.state roleName }) hempty with
    ⟨s₁, hrun₁, hdone₁⟩ | ⟨pre, arn, post, s₁, heq, hrun₁, hstopped⟩
  · rw [Proc.run_bind_of_ok hrun₁, Thread.toProc_bind, attachPolicies_eq]
    rcases run_attaching ids noteRoleAdded settings.requiredPolicyArns
        (policyArns.foldl noteRoleAdded ⟨true, true, []⟩) hdone₁.done.changed.at_role with
      ⟨s₂, hrun₂, hdone₂⟩ | ⟨pre, arn, post, s₂, heq, hrun₂, hstopped⟩
    · have hattached := hdone₁.done.append hdone₂.done
      refine .inl ⟨{ s₂ with state := { s₂.state with
        iam := ((IamAccess.addRoleToInstanceProfile roleName roleName).serve s₂.state.iam).2 } }, ?_, ?_,
        hattached.changed.db, hdone₂.failed.trans hdone₁.failed, hprofile, hdone₁.done.known, ?_⟩
      · rw [Proc.run_bind_of_ok hrun₂]
        rfl
      · have hsame : attachments ((IamAccess.addRoleToInstanceProfile roleName roleName).serve s₂.state.iam).2 =
            attachments s₂.state.iam := by
          funext name
          rw [attachments, roles_addRole, attachments]
        rw [hsame, hattached.changed.attachments, attachments_withRole, update_idem]
        congr 2
        ext name
        simp
      · exact fun arn harn => hdone₁.done.changed.policies ▸ hdone₂.done.known arn harn
    · -- a required policy was not attached
      refine .inr ⟨policyArns ++ pre, s₂, ?_, hdone₁.done.append hstopped.done, hstopped.fault, ?_⟩
      · rw [Proc.run_bind_of_error hrun₂, foldl_noteRoleAdded, foldl_noteRoleAdded]
        rfl
      · intro hfault hcreatable
        rcases hstopped.cause with ⟨f, hf, -⟩ | hunknown
        · rw [hdone₁.fault, hfault, later_none] at hf
          exact absurd hf (by simp)
        · rw [hdone₁.done.changed.policies] at hunknown
          exact hunknown (hcreatable.required arn (heq ▸ by simp))
  · -- a policy of the project was not attached
    refine .inr ⟨pre, s₁, ?_, hstopped.done, hstopped.fault, ?_⟩
    · rw [Proc.run_bind_of_error hrun₁, foldl_noteRoleAdded]
      rfl
    · intro hfault hcreatable
      rcases hstopped.cause with ⟨f, hf, -⟩ | hunknown
      · rw [hfault] at hf
        exact absurd hf (by simp)
      · exact hunknown (hcreatable.known arn (heq ▸ by simp))

/-- The body of `_create_vdi_role_and_instance_profile`, when the instance profile is there already. -/
theorem run_createRoleAndProfile_of_profile (settings : RoleSettings) (policyArns : List String)
    (hrole : ¬ s.state.iam.roles.Has roleName) (hprofile : s.state.iam.instanceProfiles.Has roleName) :
    runFaulty ids (createRoleAndProfile settings roleName policyArns) s =
      (.error { isVdiRoleCreated := true }, { s with state := withBareRole s.state roleName }) := by
  have hcreated : runFaulty ids (requireIam (.createRole roleName) {}) s =
      (.ok ⟨⟩, { s with state := withBareRole s.state roleName }) :=
    run_requireIam_ok ids (serve_createRole_of_free hrole) rfl {}
  have hrefused : runFaulty ids (requireIam (.createInstanceProfile roleName) { isVdiRoleCreated := true })
      { s with state := withBareRole s.state roleName } =
        (.error { isVdiRoleCreated := true }, { s with state := withBareRole s.state roleName }) :=
    run_requireIam_error ids (s := { s with state := withBareRole s.state roleName })
      (serve_createInstanceProfile_of_taken hprofile) rfl _
  unfold runFaulty createRoleAndProfile
  rw [Thread.toProc_bind, Proc.run_bind_of_ok hcreated, Thread.toProc_bind, Proc.run_bind_of_error hrefused]

/-- The handler of a creation that has come to the role only. -/
theorem run_rollBackBareRole (hnone : attachments s.state.iam roleName = none)
    (hprofiles : ∀ profileName, s.state.iam.instanceProfiles.getItem profileName ≠ some (some roleName)) :
    ∃ s', runFaulty ids (rollBackRole roleName { isVdiRoleCreated := true })
        { s with state := withBareRole s.state roleName } =
        (.error (generalException "Could not create role with given policies"), s') ∧
      attachments s'.state.iam = attachments s.state.iam ∧ s'.state.db = s.state.db := by
  have hempty : attachments (withBareRole s.state roleName).iam roleName = some ∅ := by
    rw [attachments_withBareRole, update_self]
  have hdelete := run_undoIam ids (s := { s with state := withBareRole s.state roleName })
    (serve_deleteRole hempty hprofiles) rfl
  refine ⟨{ s with state := { withBareRole s.state roleName with iam := { (withBareRole s.state roleName).iam with
    roles := (withBareRole s.state roleName).iam.roles.deleteItem roleName } } }, ?_, ?_, rfl⟩
  · unfold runFaulty rollBackRole
    rw [Thread.toProc_bind, Thread.toProc_forEach, Proc.forEach_nil, Proc.run_bind_of_ok (Proc.run_pure _ _),
      Thread.toProc_bind, Thread.toProc_when, Proc.run_bind_of_ok ((Proc.run_when_pos rfl _).trans hdelete)]
    rfl
  · rw [attachments_deleteItem, attachments_withBareRole, update_idem, ← hnone, update_eq_self]

variable {projectName : Option String}

/-- **The creation of a role** that is not there ends, or leaves no role. -/
theorem run_createVdiRole (hrole : s.state.iam.roles.getItem (getVdiRoleName settings projectName) = none)
    (hvalid : ValidIam s.state.iam) :
    (∃ s', runFaulty ids (createVdiRoleAndInstanceProfile settings projectName policyArns) s = (.ok ⟨⟩, s') ∧
      attachments s'.state.iam = update (attachments s.state.iam) (getVdiRoleName settings projectName)
        (some { arn | arn ∈ policyArns ∨ arn ∈ settings.requiredPolicyArns }) ∧
      s'.state.db = s.state.db ∧ s'.failed = s.failed ∧
      Creatable settings s.state.iam (getVdiRoleName settings projectName) policyArns) ∨
    ∃ s' e, runFaulty ids (createVdiRoleAndInstanceProfile settings projectName policyArns) s = (.error e, s') ∧
      attachments s'.state.iam = attachments s.state.iam ∧ s'.state.db = s.state.db ∧
      (s.fault = none → ¬ Creatable settings s.state.iam (getVdiRoleName settings projectName) policyArns) := by
  have hnot : ¬ s.state.iam.roles.Has (getVdiRoleName settings projectName) := Table.not_has_iff.mpr hrole
  have hnone : attachments s.state.iam (getVdiRoleName settings projectName) = none := attachments_eq_none.mpr hrole
  have hprofiles : ∀ profileName, s.state.iam.instanceProfiles.getItem profileName ≠
      some (some (getVdiRoleName settings projectName)) :=
    fun profileName hentry => hnot (hvalid.inProfile profileName _ hentry)
  by_cases hprofile : s.state.iam.instanceProfiles.Has (getVdiRoleName settings projectName)
  · -- the new role is deleted, since its instance profile is there already
    have hbody := run_createRoleAndProfile_of_profile ids settings policyArns hnot hprofile
    obtain ⟨s', hhandler, hsame, hdb⟩ := run_rollBackBareRole ids hnone hprofiles
    exact .inr ⟨s', _, (Thread.run_toProc_tryCatch_of_error _ hbody).trans hhandler, hsame, hdb,
      fun _ hcreatable => hcreatable.free hprofile⟩
  · rcases run_createRoleAndProfile ids policyArns hnot hprofile with
      ⟨s', hbody, hattachments, hdb, hfailed, hcreatable⟩ | ⟨added, s₁, hbody, hattached, hfault, hcause⟩
    · exact .inl ⟨s', Thread.run_toProc_tryCatch_of_ok _ hbody, hattachments, hdb, hfailed, hcreatable⟩
    · obtain ⟨s', hhandler, hsame, hdb⟩ := run_rollBackRole ids hfault hnone hprofiles hattached
      exact .inr ⟨s', _, (Thread.run_toProc_tryCatch_of_error _ hbody).trans hhandler, hsame, hdb, hcause⟩

/-- A role of another path is in the way, and nothing is done. -/
theorem run_createVdiRole_of_taken (hrole : s.state.iam.roles.Has (getVdiRoleName settings projectName)) :
    ∃ e, runFaulty ids (createVdiRoleAndInstanceProfile settings projectName policyArns) s = (.error e, s) := by
  have hserve : (IamAccess.createRole (getVdiRoleName settings projectName)).serve s.state.iam =
      (.error .entityAlreadyExists, s.state.iam) := if_pos hrole
  have hbody : runFaulty ids (createRoleAndProfile settings (getVdiRoleName settings projectName) policyArns) s =
      (.error {}, s) := by
    have hrefused := run_requireIam_error ids hserve rfl {}
    unfold runFaulty createRoleAndProfile
    unfold runFaulty at hrefused
    rw [Thread.toProc_bind, Proc.run_bind_of_error hrefused]
  exact ⟨_, (Thread.run_toProc_tryCatch_of_error _ hbody).trans rfl⟩

/-- `_update_vdi_role` creates a role that is not there. -/
theorem run_updateVdiRole_of_missing (policiesToDetach policiesToAttach : List String)
    (hrole : (s.state.iam.roles.getItem (getVdiRoleName settings projectName)).any Role.hasVdiPath = false) :
    runFaulty ids (updateVdiRole settings projectName policiesToDetach policiesToAttach) s =
      runFaulty ids (createVdiRoleAndInstanceProfile settings projectName policiesToAttach) s := by
  have hquiet : serveFaulty ids (.getRole (getVdiRoleName settings projectName)) s =
      (s.state.iam.roles.getItem (getVdiRoleName settings projectName), s) := by
    unfold serveFaulty
    rw [Injection.inject_of_quiet rfl]
    rfl
  unfold runFaulty updateVdiRole perform
  rw [Thread.perform_bind, Thread.run_toProc_access, hquiet]
  dsimp only
  rw [if_neg (by rw [hrole]; simp)]

end Create

end ContainRes.Projects.VdiRole
