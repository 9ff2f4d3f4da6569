import ContainRes.Snapshots.Records
import ContainRes.Store.UnorderedLists

/-! # The equality of records

Whether a record of a snapshot is already there is asked with `==` of the data model. `Project`,
`VirtualDesktopSoftwareStack` and `VirtualDesktopPermissionProfile` define it themselves: some attributes are
compared as they are, and of the lists the lengths and whether each element of the other's is in one's own.

* **`Project`** — the whole model, where every attribute may be `None`, and its `__eq__`.
* **`projectShape`**, **`softwareStackShape`**, **`permissionProfileShape`** — what the three compare.
* **`lawfulEquality_iff`** — each of them is an equality up to the order of the lists exactly where the record on
  the right has no element of a list twice. -/

namespace ContainRes.DataModel

open Store
open VirtualDesktop.PermissionProfiles VirtualDesktop.SessionPermissions
open VirtualDesktop.SoftwareStacks

/-! ## Projects -/

structure Script where
  scriptLocation : String
  arguments : Option (List String)
  deriving DecidableEq, Repr

structure ScriptEvents where
  onVdiStart : Option (List Script)
  onVdiConfigured : Option (List Script)
  deriving DecidableEq, Repr

structure Scripts where
  windows : Option ScriptEvents
  linux : Option ScriptEvents
  deriving DecidableEq, Repr

structure SocaAmount where
  amount : ℚ
  unit : Option String
  deriving DecidableEq, Repr

structure AwsProjectBudget where
  budgetName : Option String := none
  budgetLimit : Option SocaAmount := none
  actualSpend : Option SocaAmount := none
  forecastedSpend : Option SocaAmount := none
  deriving DecidableEq, Repr

structure SocaKeyValue where
  key : Option String
  value : Option String
  deriving DecidableEq, Repr

/-- `Project`. A date is in milliseconds. -/
structure Project where
  projectId : Option String := none
  name : Option String := none
  title : Option String := none
  description : Option String := none
  enabled : Option Bool := none
  ldapGroups : Option (List String) := some []
  users : Option (List String) := none
  enableBudgets : Option Bool := none
  budget : Option AwsProjectBudget := none
  tags : Option (List SocaKeyValue) := none
  createdOn : Option Int := none
  updatedOn : Option Int := none
  securityGroups : Option (List String) := some []
  policyArns : Option (List String) := none
  scripts : Option Scripts := none
  deriving DecidableEq, Repr

/-- `Project.__eq__`. The budgets and the scripts have the equality of their attributes. -/
def Project.eq (self other : Project) : Bool :=
  decide (self.name = other.name) && decide (self.title = other.title) &&
    decide (self.description = other.description) && decide (self.enableBudgets = other.enableBudgets) &&
    decide (self.budget = other.budget) &&
    sameMembers (self.ldapGroups.getD []) (other.ldapGroups.getD []) &&
    sameMembers (self.users.getD []) (other.users.getD []) &&
    sameMembers (self.tags.getD []) (other.tags.getD []) &&
    sameMembers (self.policyArns.getD []) (other.policyArns.getD []) &&
    sameMembers (self.securityGroups.getD []) (other.securityGroups.getD []) &&
    decide (self.scripts = other.scripts)

/-! ## What is compared -/

/-- The comparison of two lists is that the first covers the second. -/
theorem sameMembers_iff {α : Type} [DecidableEq α] {xs ys : List α} : sameMembers xs ys = true ↔ Covers xs ys := by
  unfold sameMembers Covers
  rw [Bool.and_eq_true, beq_iff_eq, List.all_eq_true]
  simp only [decide_eq_true_eq]
  rfl

theorem exists_fresh_string (xs : List String) : ∃ x, x ∉ xs :=
  ⟨IdSource.longest.next xs, IdSource.longest.next_not_mem xs⟩

theorem exists_fresh_of_leftInverse {α : Type} (make : String → α) (text : α → String)
    (h : Function.LeftInverse text make) (xs : List α) : ∃ x, x ∉ xs := by
  obtain ⟨fresh, hfresh⟩ := exists_fresh_string (xs.map text)
  refine ⟨make fresh, fun hmem => hfresh ?_⟩
  rw [← h fresh]
  exact List.mem_map_of_mem hmem

/-- The lists of a project that are compared. -/
inductive ProjectList
  | ldapGroups
  | users
  | tags
  | policyArns
  | securityGroups

/-- What two projects are compared by. -/
def projectShape : RecordShape Project where
  Scalars := Option String × Option String × Option String × Option Bool × Option AwsProjectBudget × Option Scripts
  scalars project :=
    (project.name, project.title, project.description, project.enableBudgets, project.budget, project.scripts)
  Field := ProjectList
  Elem field := match field with
    | .tags => SocaKeyValue
    | _ => String
  lists project field := match field with
    | .ldapGroups => project.ldapGroups.getD []
    | .users => project.users.getD []
    | .tags => project.tags.getD []
    | .policyArns => project.policyArns.getD []
    | .securityGroups => project.securityGroups.getD []
  withList project field xs := match field with
    | .ldapGroups => { project with ldapGroups := some xs }
    | .users => { project with users := some xs }
    | .tags => { project with tags := some xs }
    | .policyArns => { project with policyArns := some xs }
    | .securityGroups => { project with securityGroups := some xs }
  scalars_withList _ field _ := by cases field <;> rfl
  lists_withList_self _ field _ := by cases field <;> rfl
  lists_withList_of_ne _ field _ other h := by cases field <;> cases other <;> first | rfl | exact absurd rfl h
  fresh field xs := by
    cases field with
    | tags =>
      exact exists_fresh_of_leftInverse (fun text => (⟨some text, none⟩ : SocaKeyValue))
        (fun tag => tag.key.getD "") (fun _ => rfl) xs
    | ldapGroups => exact exists_fresh_string xs
    | users => exact exists_fresh_string xs
    | policyArns => exact exists_fresh_string xs
    | securityGroups => exact exists_fresh_string xs

/-- What two stacks are compared by: of the memory the bytes, and of the projects the ids. -/
def softwareStackShape : RecordShape SoftwareStack where
  Scalars := Option BaseOS × Option String × Option String × Option String × Option Int × Option Int × Option GPU
  scalars softwareStack :=
    (softwareStack.baseOs, softwareStack.name, softwareStack.description, softwareStack.amiId,
      softwareStack.minStorage.map SocaMemory.bytes, softwareStack.minRam.map SocaMemory.bytes, softwareStack.gpu)
  Field := Unit
  Elem _ := Option String
  lists softwareStack _ := softwareStack.projects.getD []
  withList softwareStack _ xs := { softwareStack with projects := some xs }
  scalars_withList _ _ _ := rfl
  lists_withList_self _ _ _ := rfl
  lists_withList_of_ne _ _ _ _ h := absurd rfl h
  fresh _ xs := exists_fresh_of_leftInverse some (fun id => id.getD "") (fun _ => rfl) xs

/-- What two permission profiles are compared by. -/
def permissionProfileShape : RecordShape PermissionProfile where
  Scalars := Option String × Option String × Option String
  scalars profile := (profile.profileId, profile.title, profile.description)
  Field := Unit
  Elem _ := Permission
  lists profile _ := profile.permissions.getD []
  withList profile _ xs := { profile with permissions := some xs }
  scalars_withList _ _ _ := rfl
  lists_withList_self _ _ _ := rfl
  lists_withList_of_ne _ _ _ _ h := absurd rfl h
  fresh _ xs :=
    exists_fresh_of_leftInverse (fun text => (⟨some text, none, none, none⟩ : Permission))
      (fun permission => permission.key.getD "") (fun _ => rfl) xs

theorem project_eq_iff (a b : Project) : a.eq b = true ↔ projectShape.Equal a b := by
  unfold Project.eq RecordShape.Equal
  simp only [Bool.and_eq_true, decide_eq_true_eq, sameMembers_iff]
  constructor
  · rintro ⟨⟨⟨⟨⟨⟨⟨⟨⟨⟨hname, htitle⟩, hdescription⟩, henable⟩, hbudget⟩, hgroups⟩, husers⟩, htags⟩, hpolicies⟩,
      hsecurity⟩, hscripts⟩
    refine ⟨?_, fun field => ?_⟩
    · show (_, _, _, _, _, _) = (_, _, _, _, _, _)
      rw [hname, htitle, hdescription, henable, hbudget, hscripts]
    · cases field with
      | ldapGroups => exact hgroups
      | users => exact husers
      | tags => exact htags
      | policyArns => exact hpolicies
      | securityGroups => exact hsecurity
  · rintro ⟨hscalars, hlists⟩
    simp only [projectShape, Prod.mk.injEq] at hscalars
    obtain ⟨hname, htitle, hdescription, henable, hbudget, hscripts⟩ := hscalars
    exact ⟨⟨⟨⟨⟨⟨⟨⟨⟨⟨hname, htitle⟩, hdescription⟩, henable⟩, hbudget⟩, hlists .ldapGroups⟩, hlists .users⟩,
      hlists .tags⟩, hlists .policyArns⟩, hlists .securityGroups⟩, hscripts⟩

theorem softwareStack_equal_iff (a b : SoftwareStack) : a.equal b = true ↔ softwareStackShape.Equal a b := by
  unfold SoftwareStack.equal RecordShape.Equal
  simp only [Bool.and_eq_true, decide_eq_true_eq, sameMembers_iff]
  constructor
  · rintro ⟨⟨⟨⟨⟨⟨⟨hos, hname⟩, hdescription⟩, hami⟩, hstorage⟩, hram⟩, hgpu⟩, hprojects⟩
    refine ⟨?_, fun _ => hprojects⟩
    show (_, _, _, _, _, _, _) = (_, _, _, _, _, _, _)
    rw [hos, hname, hdescription, hami, hstorage, hram, hgpu]
  · rintro ⟨hscalars, hlists⟩
    simp only [softwareStackShape, Prod.mk.injEq] at hscalars
    obtain ⟨hos, hname, hdescription, hami, hstorage, hram, hgpu⟩ := hscalars
    exact ⟨⟨⟨⟨⟨⟨⟨hos, hname⟩, hdescription⟩, hami⟩, hstorage⟩, hram⟩, hgpu⟩, hlists ()⟩

theorem profileEqual_iff (a b : PermissionProfile) :
    Snapshots.profileEqual a b = true ↔ permissionProfileShape.Equal a b := by
  unfold Snapshots.profileEqual RecordShape.Equal
  simp only [Bool.and_eq_true, decide_eq_true_eq, sameMembers_iff]
  constructor
  · rintro ⟨⟨⟨hid, htitle⟩, hdescription⟩, hpermissions⟩
    refine ⟨?_, fun _ => hpermissions⟩
    show (_, _, _) = (_, _, _)
    rw [hid, htitle, hdescription]
  · rintro ⟨hscalars, hlists⟩
    simp only [permissionProfileShape, Prod.mk.injEq] at hscalars
    obtain ⟨hid, htitle, hdescription⟩ := hscalars
    exact ⟨⟨⟨hid, htitle⟩, hdescription⟩, hlists ()⟩

/-! ## The laws -/

/-- **Equality up to the order of lists.** Each of the three equalities is reflexive, symmetric and transitive
at a record, and says of every other one that the lists are permutations of its lists, exactly when no list of
the record has an element twice. -/
theorem lawfulEquality_iff (project : Project) (softwareStack : SoftwareStack) (profile : PermissionProfile) :
    (LawfulAt Project.eq projectShape.Same project ↔ projectShape.NoRepeats project) ∧
      (LawfulAt SoftwareStack.equal softwareStackShape.Same softwareStack ↔
        softwareStackShape.NoRepeats softwareStack) ∧
      (LawfulAt Snapshots.profileEqual permissionProfileShape.Same profile ↔
        permissionProfileShape.NoRepeats profile) := by
  refine ⟨?_, ?_, ?_⟩
  · exact RecordShape.lawfulAt_iff project_eq_iff
  · exact RecordShape.lawfulAt_iff softwareStack_equal_iff
  · exact RecordShape.lawfulAt_iff profileEqual_iff

/-- **Twice the same user.** A project of two users equals one that has the first of them twice, and not the
other way round. -/
theorem twice_the_same_user : ¬ ∀ a b : Project, a.eq b = true → b.eq a = true := by
  intro h
  have hback := h { users := some ["ada", "bob"] } { users := some ["ada", "ada"] } (by decide)
  revert hback
  decide

end ContainRes.DataModel
