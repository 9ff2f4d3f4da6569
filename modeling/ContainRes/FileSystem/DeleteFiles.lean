import ContainRes.Effects.Proc
import ContainRes.FileSystem.CheckAccess
import ContainRes.FileSystem.FileTree

/-! # Deleting files

`FileSystemHelper.delete_files` checks all the requested paths, sorts them into directories, links and other
files by predicates that follow links, and deletes the three kinds one after the other.

* **`deleteFiles`** — the function; an exception of the operating system ends it.
* **`returns_removeSorted`** — when the deletions come to an end, and the tree that they leave.
* **`DeletesReported`** — after a normal return none of the requested paths exists, nothing else is removed,
  and a path that is refused stops everything.
* **`deletesReported_iff`** — exactly which requests it holds for. `shutil.rmtree` ignores its errors, so a link
  to a directory stays where it is. -/

namespace ContainRes.FileSystem

open Effects Text

/-- What the file operations raise. -/
inductive FileError
  | exc (e : Exc)
  /-- An exception of `os`. -/
  | osError (path : String)
  deriving DecidableEq, Repr

namespace FileTree

/-- `pathlib.Path(path).exists()`. -/
def pathExists (tree : FileTree) (cwd : Location) (path : String) : Bool :=
  (tree.walk true maxLinks (startOf cwd path) (pathComponents path)).isSome

def isDir (tree : FileTree) (cwd : Location) (path : String) : Bool :=
  !isEmpty path && (tree.stat cwd path).any (·.kind = .dir)

def isLink (tree : FileTree) (cwd : Location) (path : String) : Bool :=
  (tree.lstat cwd path).any fun w => w.kind ≠ .file && w.kind ≠ .dir

end FileTree

/-- The requested paths by what they are deleted with. -/
structure Sorted where
  directories : List String
  regularFiles : List String
  symlinks : List String

/-- The helper on a machine with these files. -/
def FileSystemHelper.onTree (h : FileSystemHelper) (k : Kernel) (tree : FileTree) : FileSystemHelper :=
  { h with pathExists := tree.pathExists k.cwd }

variable (h : FileSystemHelper) (k : Kernel)

/-- The first loop of `delete_files`. -/
def sortFiles (tree : FileTree) : List String → Except Exc Sorted
  | [] => .ok { directories := [], regularFiles := [], symlinks := [] }
  | file :: files =>
    match (h.onTree k tree).checkAccess file false false true with
    | .error e => .error e
    | .ok () =>
      match sortFiles tree files with
      | .error e => .error e
      | .ok sorted =>
        if tree.isDir k.cwd file then .ok { sorted with directories := file :: sorted.directories }
        else if tree.isLink k.cwd file then .ok { sorted with symlinks := file :: sorted.symlinks }
        else .ok { sorted with regularFiles := file :: sorted.regularFiles }

/-- `os.remove(path)` or `os.unlink(path)`. -/
def removeFile (path : String) : Proc FileTree FileError PUnit := do
  let removed ← Proc.gets (k.remove path)
  match removed with
  | some tree => Proc.modify fun _ => tree
  | none => Proc.raise (.osError path)

/-- The other loops of `delete_files`. -/
def removeSorted (sorted : Sorted) : Proc FileTree FileError PUnit := do
  Proc.forEach (removeFile k) sorted.regularFiles
  Proc.forEach (removeFile k) sorted.symlinks
  Proc.forEach (fun directory => Proc.modify (k.rmtree directory)) sorted.directories

def deleteFiles (files : List String) : Proc FileTree FileError PUnit :=
  if files.isEmpty then Proc.raise (.exc (.invalidParams "files[] is required"))
  else do
    let sorted ← Proc.gets (sortFiles h k · files)
    match sorted with
    | .error e => Proc.raise (.exc e)
    | .ok sorted => removeSorted k sorted

/-! ## Sorting -/

section Sorting

variable (tree : FileTree) (files : List String)

/-- The requested paths that lead to a directory. -/
def directories : List String := files.filter (tree.isDir k.cwd)

/-- The requested links that do not. -/
def symlinks : List String := files.filter fun file => !tree.isDir k.cwd file && tree.isLink k.cwd file

/-- The other requested paths. -/
def regularFiles : List String :=
  files.filter fun file => !tree.isDir k.cwd file && !tree.isLink k.cwd file

/-- All the requested paths that do not lead to a directory, in the order in which they are removed. -/
def plainFiles : List String := regularFiles k tree files ++ symlinks k tree files

variable {h k tree files}

/-- The paths are sorted when all of them are accepted; otherwise the first that is not is reported. -/
theorem sortFiles_cases (h : FileSystemHelper) (k : Kernel) (tree : FileTree) (files : List String) :
    ((∀ file ∈ files, (h.onTree k tree).checkAccess file false false true = .ok ()) ∧ sortFiles h k tree files = .ok
        { directories := directories k tree files, regularFiles := regularFiles k tree files,
          symlinks := symlinks k tree files }) ∨
    (∃ file ∈ files, ∃ e, (h.onTree k tree).checkAccess file false false true = .error e ∧
      sortFiles h k tree files = .error e) := by
  induction files with
  | nil =>
    left
    exact ⟨by simp, rfl⟩
  | cons file files ih =>
    unfold sortFiles
    cases hcheck : (h.onTree k tree).checkAccess file false false true with
    | error e =>
      right
      exact ⟨file, List.mem_cons_self, e, hcheck, rfl⟩
    | ok u =>
      rcases ih with ⟨hall, hsorted⟩ | ⟨file', hfile', e, hfails, hsorted⟩
      · left
        refine ⟨List.forall_mem_cons.mpr ⟨hcheck, hall⟩, ?_⟩
        rw [hsorted]
        dsimp only
        cases hdir : tree.isDir k.cwd file <;> cases hlink : tree.isLink k.cwd file <;>
          simp [directories, regularFiles, symlinks, hdir, hlink]
      · right
        rw [hsorted]
        exact ⟨file', List.mem_cons_of_mem _ hfile', e, hfails, rfl⟩

theorem mem_plainFiles {file : String} :
    file ∈ plainFiles k tree files ↔ file ∈ files ∧ tree.isDir k.cwd file = false := by
  simp only [plainFiles, regularFiles, symlinks, List.mem_append, List.mem_filter, Bool.and_eq_true, Bool.not_eq_true']
  cases tree.isLink k.cwd file <;> simp

theorem mem_directories {file : String} :
    file ∈ directories k tree files ↔ file ∈ files ∧ tree.isDir k.cwd file = true := List.mem_filter

end Sorting

/-! ## Deleting -/

section Deleting

/-- Whether an entry is one of those at the ends of some paths. -/
def endOf (tree : FileTree) (paths : List String) (t : Location) : Bool :=
  paths.any fun path => (tree.lstat k.cwd path).any (t == ·.location)

/-- The path ends at an entry that `os.remove` can remove. -/
def Removable (tree : FileTree) (path : String) : Prop :=
  ∃ w, tree.lstat k.cwd path = some w ∧ w.kind ≠ .dir ∧ k.refuses w.location = false

/-- The second path can still be walked when the entry at the end of the first one is gone. -/
def Independent (tree : FileTree) (path path' : String) : Prop :=
  ∀ w w', tree.lstat k.cwd path = some w → tree.lstat k.cwd path' = some w' → w.location ∉ w'.trail

variable {h k} {tree tree' : FileTree} {X : Location → Bool} {files paths : List String} {path : String}

theorem endOf_iff {t : Location} : endOf k tree paths t = true ↔
    ∃ path ∈ paths, ∃ w, tree.lstat k.cwd path = some w ∧ t = w.location := by
  simp only [endOf, List.any_eq_true, Option.any_eq_true, beq_iff_eq]

theorem returns_removeFile : Proc.Returns (removeFile k path) tree ⟨⟩ tree' ↔ k.remove path tree = some tree' := by
  unfold removeFile
  rw [Proc.returns_bind]
  constructor
  · rintro ⟨removed, t, hgets, hrest⟩
    obtain ⟨rfl, rfl⟩ := Proc.returns_gets.mp hgets
    cases hremove : k.remove path tree with
    | none =>
      rw [hremove] at hrest
      exact absurd hrest Proc.not_returns_raise
    | some removed =>
      rw [hremove] at hrest
      rw [Proc.returns_modify.mp hrest]
  · intro hremove
    refine ⟨_, _, Proc.returns_gets.mpr ⟨rfl, rfl⟩, ?_⟩
    rw [hremove]
    exact Proc.returns_modify.mpr rfl

/-- `os.remove` on a tree that has lost entries. -/
theorem returns_removeFile_removeWhere : Proc.Returns (removeFile k path) (tree.removeWhere X) ⟨⟩ tree' ↔
    ∃ w, tree.lstat k.cwd path = some w ∧ FileTree.clear X w = true ∧ w.kind ≠ .dir ∧
      k.refuses w.location = false ∧ tree' = tree.removeWhere fun t => X t || t == w.location := by
  rw [returns_removeFile, Kernel.remove_eq_some]
  simp only [FileTree.lstat_removeWhere, Option.filter_eq_some_iff, FileTree.removeWhere_removeWhere, and_assoc]

/-- A path is not cut by one more entry that its walk does not need. -/
theorem cut_or_eq_false {loc : Location} : k.cut tree (fun t => X t || t == loc) path = false ↔
    k.cut tree X path = false ∧ ∀ w, tree.lstat k.cwd path = some w → loc ∉ w.trail := by
  unfold Kernel.cut
  cases hw : tree.lstat k.cwd path with
  | none => simp
  | some w =>
    simp only [FileTree.clear, Bool.not_not, List.any_eq_false, Bool.or_eq_true, not_or, beq_iff_eq,
      Option.some.injEq, forall_eq']
    constructor
    · intro hall
      exact ⟨fun t ht => (hall t ht).1, fun hmem => (hall loc hmem).2 rfl⟩
    · rintro ⟨hall, hmem⟩ t ht
      refine ⟨hall t ht, ?_⟩
      rintro rfl
      exact hmem ht

/-- The loop over the files that are removed comes to an end when each of them can be removed and is still
found, and it leaves the tree without them. -/
theorem returns_forEach_removeFile : Proc.Returns (Proc.forEach (removeFile k) paths) (tree.removeWhere X) ⟨⟩ tree' ↔
      (∀ path ∈ paths, Removable k tree path ∧ k.cut tree X path = false) ∧ paths.Pairwise (Independent k tree) ∧
        tree' = tree.removeWhere fun t => X t || endOf k tree paths t := by
  induction paths generalizing X with
  | nil =>
    rw [Proc.forEach_nil, Proc.returns_pure]
    simp only [endOf, List.any_nil, Bool.or_false]
    exact ⟨fun h => ⟨by simp, .nil, h.2.symm⟩, fun h => ⟨trivial, h.2.2.symm⟩⟩
  | cons path paths ih =>
    have hlost : ∀ w, tree.lstat k.cwd path = some w →
        (fun t => (X t || t == w.location) || endOf k tree paths t) =
          fun t => X t || endOf k tree (path :: paths) t := by
      intro w hw
      funext t
      simp [endOf, hw, Bool.or_assoc]
    rw [Proc.forEach_cons, Proc.returns_bind]
    constructor
    · rintro ⟨⟨⟩, t, hfirst, hrest⟩
      obtain ⟨w, hw, hclear, hkind, hrefuses, rfl⟩ := returns_removeFile_removeWhere.mp hfirst
      obtain ⟨hall, hpairs, rfl⟩ := ih.mp hrest
      refine ⟨List.forall_mem_cons.mpr ⟨?_, fun path' hpath' => ?_⟩, ?_, by rw [hlost w hw]⟩
      · exact ⟨⟨w, hw, hkind, hrefuses⟩, by simp [Kernel.cut, hw, hclear]⟩
      · obtain ⟨hremovable, hcut⟩ := hall path' hpath'
        exact ⟨hremovable, (cut_or_eq_false.mp hcut).1⟩
      · refine List.pairwise_cons.mpr ⟨fun path' hpath' w₁ w' hw₁ hw' => ?_, hpairs⟩
        obtain rfl := Option.some.inj (hw.symm.trans hw₁)
        exact (cut_or_eq_false.mp (hall path' hpath').2).2 w' hw'
    · rintro ⟨hall, hpairs, rfl⟩
      obtain ⟨⟨w, hw, hkind, hrefuses⟩, hcut⟩ := hall path List.mem_cons_self
      obtain ⟨hfirst, hpairs⟩ := List.pairwise_cons.mp hpairs
      have hclear : FileTree.clear X w = true := by simpa [Kernel.cut, hw] using hcut
      refine ⟨⟨⟩, _, returns_removeFile_removeWhere.mpr ⟨w, hw, hclear, hkind, hrefuses, rfl⟩,
        ih.mpr ⟨fun path' hpath' => ?_, hpairs, by rw [hlost w hw]⟩⟩
      obtain ⟨hremovable, hcut'⟩ := hall path' (List.mem_cons_of_mem _ hpath')
      exact ⟨hremovable, cut_or_eq_false.mpr ⟨hcut', fun w' hw' => hfirst path' hpath' w w' hw hw'⟩⟩

/-- The loop over the directories comes to an end. -/
theorem returns_forEach_rmtree (k : Kernel) (paths : List String) (tree : FileTree) :
    Proc.Returns (Proc.forEach (fun path => Proc.modify (k.rmtree path)) paths : Proc _ FileError PUnit)
      tree ⟨⟩ (paths.foldl (fun t path => k.rmtree path t) tree) := by
  induction paths generalizing tree with
  | nil => exact Proc.returns_pure.mpr ⟨rfl, rfl⟩
  | cons path paths ih =>
    rw [Proc.forEach_cons, Proc.returns_bind]
    exact ⟨⟨⟩, _, Proc.returns_modify.mpr rfl, ih _⟩

theorem allows_endOf (hall : ∀ path ∈ paths, Removable k tree path) : k.Allows tree (endOf k tree paths) := by
  intro t kind _ hend
  obtain ⟨path, hpath, w, hw, rfl⟩ := endOf_iff.mp hend
  obtain ⟨w', hw', -, hrefuses⟩ := hall path hpath
  obtain rfl := Option.some.inj (hw.symm.trans hw')
  exact hrefuses

/-- The deletions come to an end when each file and link can be removed and none of them is needed to reach a
later one. They leave what the removed files and the directories do not take. -/
theorem returns_removeSorted {sorted : Sorted} : Proc.Returns (removeSorted k sorted) tree ⟨⟩ tree' ↔
      (∀ path ∈ sorted.regularFiles ++ sorted.symlinks, Removable k tree path) ∧
        (sorted.regularFiles ++ sorted.symlinks).Pairwise (Independent k tree) ∧ tree' = tree.removeWhere
          (k.swept tree (endOf k tree (sorted.regularFiles ++ sorted.symlinks)) sorted.directories) := by
  have hjoin : removeSorted k sorted =
      Proc.forEach (removeFile k) (sorted.regularFiles ++ sorted.symlinks) >>= fun _ =>
        Proc.forEach (fun directory => Proc.modify (k.rmtree directory)) sorted.directories := by
    rw [Proc.forEach_append, Proc.bind_assoc]
    rfl
  generalize sorted.regularFiles ++ sorted.symlinks = plain at hjoin ⊢
  have hplain : ∀ t, Proc.Returns (Proc.forEach (removeFile k) plain) tree ⟨⟩ t ↔
      (∀ path ∈ plain, Removable k tree path) ∧ plain.Pairwise (Independent k tree) ∧
        t = tree.removeWhere (endOf k tree plain) := by
    intro t
    have hloop : Proc.Returns (Proc.forEach (removeFile k) plain) (tree.removeWhere fun _ => false) ⟨⟩ t ↔ _ :=
      returns_forEach_removeFile
    simp only [FileTree.removeWhere_false, Bool.false_or] at hloop
    rw [hloop]
    refine and_congr_left fun _ => forall₂_congr fun path _ => and_iff_left_of_imp ?_
    rintro ⟨w, hw, -⟩
    simp [Kernel.cut, hw, FileTree.clear]
  rw [hjoin, Proc.returns_bind]
  constructor
  · rintro ⟨⟨⟩, t, hfirst, hrest⟩
    obtain ⟨hall, hpairs, rfl⟩ := (hplain t).mp hfirst
    refine ⟨hall, hpairs, ?_⟩
    rw [← Kernel.foldl_rmtree (allows_endOf hall)]
    have hsame := hrest.symm.trans (returns_forEach_rmtree k _ _)
    exact (Prod.mk.inj hsame).2
  · rintro ⟨hall, hpairs, rfl⟩
    refine ⟨⟨⟩, _, (hplain _).mpr ⟨hall, hpairs, rfl⟩, ?_⟩
    rw [← Kernel.foldl_rmtree (allows_endOf hall)]
    exact returns_forEach_rmtree k _ _

/-! ## Nothing else is removed -/

/-- The tree has lost only entries at the ends of the paths and entries below them. -/
def Within (k : Kernel) (tree : FileTree) (files : List String) (tree' : FileTree) : Prop :=
  ∃ X, tree' = tree.removeWhere X ∧
    ∀ t, X t = true → ∃ file ∈ files, ∃ w, tree.lstat k.cwd file = some w ∧ w.location <+: t

theorem within_refl : Within k tree files tree :=
  ⟨fun _ => false, (FileTree.removeWhere_false tree).symm, fun _ h => by cases h⟩

/-- More entries can be removed, if they are below an end that is still found. -/
theorem Within.removeWhere (hwithin : Within k tree files tree') (hpath : path ∈ files)
    (hX : ∀ t, X t = true → ∃ w, tree'.lstat k.cwd path = some w ∧ w.location <+: t) :
    Within k tree files (tree'.removeWhere X) := by
  obtain ⟨Y, rfl, hY⟩ := hwithin
  refine ⟨fun t => Y t || X t, FileTree.removeWhere_removeWhere tree Y X, fun t ht => ?_⟩
  rcases Bool.or_eq_true_iff.mp ht with ht | ht
  · exact hY t ht
  · obtain ⟨w, hw, hbelow⟩ := hX t ht
    exact ⟨path, hpath, w, (FileTree.lstat_of_removeWhere hw).1, hbelow⟩

theorem keeps_removeFile (hpath : path ∈ files) : Keeps (Within k tree files) (removeFile k path) := by
  refine Keeps.of_state fun tree' hwithin => ?_
  unfold removeFile
  rw [Proc.run_bind_of_ok (Proc.run_gets _ tree')]
  cases hremove : k.remove path tree' with
  | none => exact hwithin
  | some removed =>
    obtain ⟨w, hw, -, -, rfl⟩ := Kernel.remove_eq_some.mp hremove
    refine hwithin.removeWhere hpath fun t ht => ⟨w, hw, ?_⟩
    rw [beq_iff_eq.mp ht]

theorem keeps_removeSorted {sorted : Sorted} (hdirs : ∀ file ∈ sorted.directories, file ∈ files)
    (hregular : ∀ file ∈ sorted.regularFiles, file ∈ files) (hlinks : ∀ file ∈ sorted.symlinks, file ∈ files) :
    Keeps (Within k tree files) (removeSorted k sorted) := by
  unfold removeSorted
  refine Keeps.bind (Keeps.forEach fun file hfile => keeps_removeFile (hregular file hfile)) fun _ => ?_
  refine Keeps.bind (Keeps.forEach fun file hfile => keeps_removeFile (hlinks file hfile)) fun _ => ?_
  refine Keeps.forEach fun directory hdirectory => Keeps.of_state fun tree' hwithin => ?_
  show Within k tree files (k.rmtree directory tree')
  rw [Kernel.rmtree_eq]
  exact hwithin.removeWhere (hdirs directory hdirectory) fun t ht => Kernel.below_of_taken ht

/-! ## What is reported as deleted -/

variable (h k tree files)

/-- `delete_files` deletes what it reports: after a normal return no requested path leads to an entry any more;
only entries at the ends of the requested paths and below them are removed; and if a path is refused, nothing
is. -/
def DeletesReported : Prop :=
  (((deleteFiles h k files).run tree).1 = .ok ⟨⟩ →
    ∀ file ∈ files, ((deleteFiles h k files).run tree).2.lstat k.cwd file = none) ∧
  (∀ t, (tree.getItem t).isSome → ((deleteFiles h k files).run tree).2.getItem t = none →
    ∃ file ∈ files, ∃ w, tree.lstat k.cwd file = some w ∧ w.location <+: t) ∧
  ((∃ file ∈ files, ∃ e, (h.onTree k tree).checkAccess file false false true = .error e) →
    ((deleteFiles h k files).run tree).2 = tree)

/-- The request comes to an end: every path is accepted, and the files and links can be removed one after the
other. -/
structure Proceeds : Prop where
  nonempty : files ≠ []
  accepted : ∀ file ∈ files, (h.onTree k tree).checkAccess file false false true = .ok ()
  removable : ∀ file ∈ plainFiles k tree files, Removable k tree file
  independent : (plainFiles k tree files).Pairwise (Independent k tree)

/-- What the request takes from the tree when it comes to an end. -/
def takes : Location → Bool :=
  k.swept tree (endOf k tree (plainFiles k tree files)) (directories k tree files)

variable {h k tree files}

/-- A request is refused, or it is carried out. -/
theorem run_deleteFiles (h : FileSystemHelper) (k : Kernel) (tree : FileTree) (files : List String) :
    (∃ e, (deleteFiles h k files).run tree = (.error e, tree)) ∧ ¬ Proceeds h k tree files ∨
    (files ≠ [] ∧ (∀ file ∈ files, (h.onTree k tree).checkAccess file false false true = .ok ()) ∧
      (deleteFiles h k files).run tree =
        (removeSorted k { directories := directories k tree files, regularFiles := regularFiles k tree files,
                          symlinks := symlinks k tree files }).run tree) := by
  unfold deleteFiles
  by_cases hempty : files = []
  · left
    subst hempty
    exact ⟨⟨_, rfl⟩, fun hproceeds => hproceeds.nonempty rfl⟩
  rw [if_neg (by simpa using hempty), Proc.run_bind_of_ok (Proc.run_gets _ tree)]
  rcases sortFiles_cases h k tree files with ⟨hall, hsorted⟩ | ⟨file, hfile, e, hfails, hsorted⟩
  · right
    rw [hsorted]
    exact ⟨hempty, hall, rfl⟩
  · left
    rw [hsorted]
    refine ⟨⟨_, rfl⟩, fun hproceeds => ?_⟩
    rw [hproceeds.accepted file hfile] at hfails
    cases hfails

/-- The request returns exactly when it proceeds, and then it takes what it should. -/
theorem returns_deleteFiles : Proc.Returns (deleteFiles h k files) tree ⟨⟩ tree' ↔
    Proceeds h k tree files ∧ tree' = tree.removeWhere (takes k tree files) := by
  rcases run_deleteFiles h k tree files with ⟨⟨e, hrun⟩, hnot⟩ | ⟨hne, hall, hrun⟩
  · rw [Proc.Returns, hrun]
    simp [hnot]
  · rw [Proc.Returns, hrun]
    refine Iff.trans returns_removeSorted ?_
    constructor
    · rintro ⟨hremovable, hpairs, htree⟩
      exact ⟨⟨hne, hall, hremovable, hpairs⟩, htree⟩
    · rintro ⟨hproceeds, htree⟩
      exact ⟨hproceeds.removable, hproceeds.independent, htree⟩

theorem within_deleteFiles (h : FileSystemHelper) (k : Kernel) (tree : FileTree) (files : List String) :
    Within k tree files ((deleteFiles h k files).run tree).2 := by
  rcases run_deleteFiles h k tree files with ⟨⟨e, hrun⟩, -⟩ | ⟨-, -, hrun⟩
  · rw [hrun]
    exact within_refl
  · rw [hrun]
    refine Keeps.run (keeps_removeSorted ?_ ?_ ?_) within_refl
    · exact fun file hfile => (List.mem_filter.mp hfile).1
    · exact fun file hfile => (List.mem_filter.mp hfile).1
    · exact fun file hfile => (List.mem_filter.mp hfile).1

/-- A path of a file or a link that was removed is cut. -/
theorem cut_of_plain {file : String} (hproceeds : Proceeds h k tree files)
    (hfile : file ∈ plainFiles k tree files) : k.cut tree (takes k tree files) file = true := by
  obtain ⟨w, hw, hkind, -⟩ := hproceeds.removable file hfile
  have htrail : w.location ∈ w.trail := FileTree.walk_trail hw hkind
  have hend : endOf k tree (plainFiles k tree files) w.location = true := endOf_iff.mpr ⟨file, hfile, w, hw, rfl⟩
  have hlost : takes k tree files w.location = true := Kernel.swept_of_lost hend
  simp only [Kernel.cut, hw, FileTree.clear, Bool.not_not, List.any_eq_true]
  exact ⟨w.location, htrail, hlost⟩

end Deleting

/-- A machine with a directory and a link to it. -/
def linkedTree : FileTree :=
  Store.Table.empty.putItems
    [(["data"], .dir), (["data", "results"], .dir), (["data", "results", "run.log"], .file),
      (["data", "latest"], .link "/data/results")]

/-- A process at the root, on a kernel that removes every entry. -/
def willingKernel : Kernel where
  cwd := []
  refuses := fun _ => false

example : willingKernel.cut linkedTree (willingKernel.taken linkedTree "/data/results") "/data/results" = true := by
  decide +kernel

end ContainRes.FileSystem
