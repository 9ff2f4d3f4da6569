import ContainRes.Store.Table
import ContainRes.Text.Python

/-! # File trees with symbolic links

The entries of a POSIX file system under their locations, the walk that finds the entry which a path names,
and the removal of entries.

* **`FileTree`** — files, directories and symbolic links, each at its location.
* **`FileTree.walk`** — the entry that some components lead to. Links are followed, at most `maxLinks` of
  them; a last one only on demand. The **trail** lists the entries that were looked up.
* **`walk_removeWhere`** — without some of the entries a walk ends as before, or fails because its trail meets
  one of them.
* **`Kernel.remove`**, **`Kernel.rmtree`** — `os.remove` and `shutil.rmtree` with ignored errors, on a kernel
  that may refuse to remove some entries.
* **`Kernel.remove_removeWhere`**, **`Kernel.rmtree_removeWhere`** — what they take from a tree that has lost
  entries already: what they take from the whole tree, or nothing if their path is cut. -/

namespace ContainRes.FileSystem

open Store Text

/-- Where an entry is: the names on the way to it from the root. -/
abbrev Location := List String

/-- What an entry is. -/
inductive Kind
  | file
  | dir
  | link (target : String)
  deriving DecidableEq, Repr

/-- The entries of a file system. The root is a directory without an entry of its own. -/
abbrev FileTree := Table Location Kind

/-- Where a walk ends. -/
structure Walk where
  location : Location
  kind : Kind
  /-- The entries that were looked up on the way. -/
  trail : List Location
  deriving DecidableEq, Repr

/-- The walk with one more entry before it. -/
def Walk.visit (loc : Location) (w : Walk) : Walk := { w with trail := loc :: w.trail }

/-- The components of a path: the pieces between its slashes. -/
def components (path : String) : List String := splitChar '/' path

/-- The directory in which the walk of a path starts. -/
def startOf (dir : Location) (path : String) : Location := if startsWith path "/" then [] else dir

/-- The location is strictly below another one. -/
def strictlyBelow (loc t : Location) : Bool := loc.isPrefixOf t && t != loc

theorem strictlyBelow_iff {loc t : Location} : strictlyBelow loc t = true ↔ loc <+: t ∧ t ≠ loc := by
  rw [strictlyBelow, Bool.and_eq_true, List.isPrefixOf_iff_prefix, bne_iff_ne]

namespace FileTree

/-! ## Walks -/

/-- Walk along some components from a directory. `jump` goes on where a link leads. A blank component is
another slash, which only a directory can stand before. -/
def walkComponents (tree : FileTree) (jump : Location → List String → Option Walk) (follow : Bool) :
    Location → List String → Option Walk
  | dir, [] => some { location := dir, kind := .dir, trail := [] }
  | dir, c :: rest =>
    if c = "" ∨ c = "." then walkComponents tree jump follow dir rest
    else if c = ".." then walkComponents tree jump follow dir.dropLast rest
    else
      match tree.getItem (dir ++ [c]) with
      | none => none
      | some .file =>
        if rest = [] then some { location := dir ++ [c], kind := .file, trail := [dir ++ [c]] } else none
      | some .dir => (walkComponents tree jump follow (dir ++ [c]) rest).map (Walk.visit (dir ++ [c]))
      | some (.link target) =>
        if rest = [] ∧ follow = false then
          some { location := dir ++ [c], kind := .link target, trail := [dir ++ [c]] }
        else (jump (startOf dir target) (components target ++ rest)).map (Walk.visit (dir ++ [c]))

/-- Walk along some components from a directory through at most `links` links. -/
def walk (tree : FileTree) (follow : Bool) : ℕ → Location → List String → Option Walk
  | 0 => walkComponents tree (fun _ _ => none) follow
  | links + 1 => walkComponents tree (walk tree follow links) follow

/-- The number of links after which the kernel gives up. -/
def maxLinks : ℕ := 40

/-- `os.stat(path)` for a process in `cwd`. -/
def stat (tree : FileTree) (cwd : Location) (path : String) : Option Walk :=
  tree.walk true maxLinks (startOf cwd path) (components path)

/-- `os.lstat(path)`: a link at the end is not followed. -/
def lstat (tree : FileTree) (cwd : Location) (path : String) : Option Walk :=
  tree.walk false maxLinks (startOf cwd path) (components path)

/-! ## Removing entries -/

/-- The tree without some of its entries. -/
def removeWhere (tree : FileTree) (X : Location → Bool) : FileTree :=
  tree.filterMapItems fun loc kind => if X loc then none else some kind

variable {tree : FileTree} {X Y : Location → Bool} {follow : Bool} {dir : Location} {cs : List String}
  {w : Walk}

@[simp] theorem getItem_removeWhere (tree : FileTree) (X : Location → Bool) (loc : Location) :
    (tree.removeWhere X).getItem loc = if X loc then none else tree.getItem loc := by
  rw [removeWhere, Table.getItem_filterMapItems]
  cases tree.getItem loc <;> simp

theorem changedEntry_removeWhere (X : Location → Bool) (e : Sigma fun _ : Location => Kind) :
    Table.changedEntry (fun loc kind => if X loc then none else some kind) e =
      if X e.1 then none else some e := by
  unfold Table.changedEntry
  by_cases h : X e.1 = true <;> simp [h]

/-- Entries can be removed one set after the other. -/
theorem removeWhere_removeWhere (tree : FileTree) (X Y : Location → Bool) :
    (tree.removeWhere X).removeWhere Y = tree.removeWhere fun loc => X loc || Y loc := by
  unfold removeWhere Table.filterMapItems
  congr 1
  apply AList.ext
  show (tree.items.entries.filterMap _).filterMap _ = _
  rw [List.filterMap_filterMap]
  apply List.filterMap_congr
  intro e _
  rw [changedEntry_removeWhere, changedEntry_removeWhere]
  by_cases h : X e.1 = true <;> simp [h, changedEntry_removeWhere]

@[simp] theorem removeWhere_false (tree : FileTree) : (tree.removeWhere fun _ => false) = tree := by
  unfold removeWhere Table.filterMapItems
  cases tree with
  | mk items =>
    congr 1
    apply AList.ext
    show List.filterMap _ items.entries = items.entries
    rw [List.filterMap_congr fun e _ => changedEntry_removeWhere _ e]
    exact List.filterMap_some

/-- The walk goes on when its trail meets none of the removed entries. -/
def clear (X : Location → Bool) (w : Walk) : Bool := !w.trail.any X

theorem filter_visit (X : Location → Bool) (loc : Location) (r : Option Walk) :
    (r.map (Walk.visit loc)).filter (clear X) = if X loc then none else (r.filter (clear X)).map (Walk.visit loc) := by
  cases r with
  | none => simp
  | some w =>
    cases hloc : X loc with
    | true => simp [clear, Walk.visit, hloc]
    | false =>
      have hsame : clear X (w.visit loc) = clear X w := by simp [clear, Walk.visit, hloc]
      rw [Option.map_some, Option.filter_some, Option.filter_some, hsame]
      cases clear X w <;> simp

theorem filter_end (X : Location → Bool) (loc : Location) (kind : Kind) :
    (some { location := loc, kind := kind, trail := [loc] } : Option Walk).filter (clear X) =
      if X loc then none else some { location := loc, kind := kind, trail := [loc] } := by
  rw [Option.filter_some]
  cases hloc : X loc <;> simp [clear, hloc]

/-- A step of a walk in a tree without some entries, if the walks behind the links are cut as they should. -/
theorem walkComponents_removeWhere {jump jump' : Location → List String → Option Walk}
    (hjump : ∀ dir cs, jump' dir cs = (jump dir cs).filter (clear X)) (dir : Location) (cs : List String) :
    walkComponents (tree.removeWhere X) jump' follow dir cs =
      (walkComponents tree jump follow dir cs).filter (clear X) := by
  induction cs generalizing dir with
  | nil => rfl
  | cons c rest ih =>
    unfold walkComponents
    by_cases hblank : c = "" ∨ c = "."
    · rw [if_pos hblank, if_pos hblank, ih]
    rw [if_neg hblank, if_neg hblank]
    by_cases hup : c = ".."
    · rw [if_pos hup, if_pos hup, ih]
    rw [if_neg hup, if_neg hup, getItem_removeWhere]
    cases hX : X (dir ++ [c]) with
    | true =>
      rw [if_pos rfl]
      cases tree.getItem (dir ++ [c]) with
      | none => rfl
      | some kind =>
        cases kind with
        | file =>
          dsimp only
          split
          · rw [filter_end, if_pos hX]
          · rfl
        | dir => rw [filter_visit, if_pos hX]
        | link target =>
          dsimp only
          split
          · rw [filter_end, if_pos hX]
          · rw [filter_visit, if_pos hX]
    | false =>
      rw [if_neg (by simp)]
      cases tree.getItem (dir ++ [c]) with
      | none => rfl
      | some kind =>
        cases kind with
        | file =>
          dsimp only
          split
          · rw [filter_end, hX, if_neg Bool.false_ne_true]
          · rfl
        | dir =>
          dsimp only
          rw [filter_visit, hX, if_neg Bool.false_ne_true, ih]
        | link target =>
          dsimp only
          split
          · rw [filter_end, hX, if_neg Bool.false_ne_true]
          · rw [filter_visit, hX, if_neg Bool.false_ne_true, hjump]

/-- **Walks in a tree that has lost entries.** A walk ends where it ended before, unless its trail meets one of
the lost entries. -/
theorem walk_removeWhere (tree : FileTree) (X : Location → Bool) (follow : Bool) (links : ℕ)
    (dir : Location) (cs : List String) :
    (tree.removeWhere X).walk follow links dir cs = (tree.walk follow links dir cs).filter (clear X) := by
  induction links generalizing dir cs with
  | zero =>
    unfold walk
    apply walkComponents_removeWhere
    intro _ _
    rfl
  | succ links ih => exact walkComponents_removeWhere ih dir cs

theorem lstat_removeWhere (tree : FileTree) (X : Location → Bool) (cwd : Location) (path : String) :
    (tree.removeWhere X).lstat cwd path = (tree.lstat cwd path).filter (clear X) :=
  walk_removeWhere tree X _ _ _ _

/-- What is found in the tree that has lost entries was found before. -/
theorem lstat_of_removeWhere {cwd : Location} {path : String} (h : (tree.removeWhere X).lstat cwd path = some w) :
    tree.lstat cwd path = some w ∧ clear X w = true := by
  rw [lstat_removeWhere, Option.filter_eq_some_iff] at h
  exact h

/-! ## What a walk tells about its end -/

/-- A walk that ends at a file or a link has looked it up. -/
theorem walkComponents_trail {jump : Location → List String → Option Walk}
    (hjump : ∀ dir cs w, jump dir cs = some w → w.kind ≠ .dir → w.location ∈ w.trail)
    (h : walkComponents tree jump follow dir cs = some w) (hkind : w.kind ≠ .dir) : w.location ∈ w.trail := by
  induction cs generalizing dir w with
  | nil =>
    cases h
    exact absurd rfl hkind
  | cons c rest ih =>
    unfold walkComponents at h
    split at h
    · exact ih h hkind
    split at h
    · exact ih h hkind
    split at h
    · cases h
    · split at h
      · cases h
        exact List.mem_singleton.mpr rfl
      · cases h
    · obtain ⟨w', hrest, rfl⟩ := Option.map_eq_some_iff.mp h
      exact List.mem_cons_of_mem _ (ih hrest hkind)
    · split at h
      · cases h
        exact List.mem_singleton.mpr rfl
      · obtain ⟨w', hrest, rfl⟩ := Option.map_eq_some_iff.mp h
        exact List.mem_cons_of_mem _ (hjump _ _ _ hrest hkind)

theorem walk_trail {links : ℕ} (h : tree.walk follow links dir cs = some w) (hkind : w.kind ≠ .dir) :
    w.location ∈ w.trail := by
  induction links generalizing dir cs w with
  | zero => exact walkComponents_trail (fun _ _ _ h => by cases h) h hkind
  | succ links ih => exact walkComponents_trail (fun _ _ _ h hkind => ih h hkind) h hkind

/-- A walk that ends at a directory may be told so by one more slash. -/
theorem walkComponents_append_blank {jump : Location → List String → Option Walk}
    (hjump : ∀ dir cs w, jump dir cs = some w → w.kind = .dir → jump dir (cs ++ [""]) = some w)
    (h : walkComponents tree jump follow dir cs = some w) (hkind : w.kind = .dir) :
    walkComponents tree jump follow dir (cs ++ [""]) = some w := by
  induction cs generalizing dir w with
  | nil => exact h
  | cons c rest ih =>
    unfold walkComponents at h
    rw [List.cons_append, walkComponents]
    by_cases hblank : c = "" ∨ c = "."
    · rw [if_pos hblank] at h ⊢
      exact ih h hkind
    rw [if_neg hblank] at h ⊢
    by_cases hup : c = ".."
    · rw [if_pos hup] at h ⊢
      exact ih h hkind
    rw [if_neg hup] at h ⊢
    rcases hitem : tree.getItem (dir ++ [c]) with _ | (_ | _ | target)
    · simp only [hitem] at h
      cases h
    · simp only [hitem] at h
      split at h
      · cases h
        cases hkind
      · cases h
    · simp only [hitem] at h ⊢
      obtain ⟨w', hrest, rfl⟩ := Option.map_eq_some_iff.mp h
      rw [ih hrest hkind, Option.map_some]
    · simp only [hitem] at h ⊢
      split at h
      · cases h
        cases hkind
      · obtain ⟨w', hrest, rfl⟩ := Option.map_eq_some_iff.mp h
        rw [if_neg (by simp), ← List.append_assoc, hjump _ _ _ hrest hkind, Option.map_some]

/-- More slashes do not change where the walk to a directory ends. -/
theorem walk_append_blanks {links : ℕ} (n : ℕ) (h : tree.walk follow links dir cs = some w)
    (hkind : w.kind = .dir) : tree.walk follow links dir (cs ++ List.replicate n "") = some w := by
  have hone : ∀ links dir cs w, tree.walk follow links dir cs = some w → w.kind = .dir →
      tree.walk follow links dir (cs ++ [""]) = some w := by
    intro links
    induction links with
    | zero => exact fun dir cs w h hkind => walkComponents_append_blank (fun _ _ _ h => by cases h) h hkind
    | succ links ih => exact fun dir cs w h hkind => walkComponents_append_blank ih h hkind
  induction n with
  | zero => rwa [List.replicate_zero, List.append_nil]
  | succ n ih =>
    rw [List.replicate_succ', ← List.append_assoc]
    exact hone _ _ _ _ ih hkind

end FileTree

/-! ## Removing what a path names -/

/-- What the removal of an entry depends on besides the tree: the working directory of the process, and the
entries that cannot be removed, such as mount points and immutable files. -/
structure Kernel where
  cwd : Location
  refuses : Location → Bool

namespace Kernel

open FileTree

variable (k : Kernel)

/-- `os.remove(path)` and `os.unlink(path)`; nothing if they raise. -/
def remove (path : String) (tree : FileTree) : Option FileTree :=
  match tree.lstat k.cwd path with
  | none => none
  | some w =>
    if w.kind = .dir ∨ k.refuses w.location then none else some (tree.removeWhere (· == w.location))

/-- The components of a path without the slashes at its end. -/
def ownComponents (path : String) : List String := (components path).rdropWhile (· == "")

/-- The directory that `os.rmdir(path)` is about. The path must name its own entry: the root, `.` and `..`
have none, and a link is none whatever follows it. -/
def rmdirTarget (path : String) (tree : FileTree) : Option Walk :=
  match (ownComponents path).getLast? with
  | none => none
  | some c =>
    if c = "." ∨ c = ".." then none
    else (tree.walk false maxLinks (startOf k.cwd path) (ownComponents path)).filter (·.kind = .dir)

/-- There is something in a directory. -/
def occupied (tree : FileTree) (loc : Location) : Bool := tree.scan.any fun e => strictlyBelow loc e.1

/-- `os.rmdir(path)`; nothing if it raises. -/
def rmdir (path : String) (tree : FileTree) : Option FileTree :=
  match k.rmdirTarget path tree with
  | none => none
  | some w =>
    if occupied tree w.location ∨ k.refuses w.location then none
    else some (tree.removeWhere (· == w.location))

/-- The entry cannot be removed, or something in it cannot. -/
def pinned (tree : FileTree) (loc : Location) : Bool :=
  tree.scan.any fun e => loc.isPrefixOf e.1 && k.refuses e.1

/-- The tree after everything that can be removed from a directory has been removed. -/
def emptied (loc : Location) (tree : FileTree) : FileTree :=
  tree.removeWhere fun t => strictlyBelow loc t && !k.pinned tree t

/-- `shutil.rmtree(path, ignore_errors=True)`. The path must not name a link; the contents are removed first,
and what cannot be removed stays. -/
def rmtree (path : String) (tree : FileTree) : FileTree :=
  match tree.lstat k.cwd path with
  | none => tree
  | some w =>
    if w.kind = .dir then
      let rest := k.emptied w.location tree
      (k.rmdir path rest).getD rest
    else tree

/-- The path is cut when the entries are removed: it names nothing any more. -/
def cut (tree : FileTree) (X : Location → Bool) (path : String) : Bool :=
  match tree.lstat k.cwd path with
  | none => true
  | some w => !clear X w

/-- What `rmtree` alone takes from a tree. -/
def taken (tree : FileTree) (path : String) (t : Location) : Bool :=
  match tree.lstat k.cwd path with
  | none => false
  | some w =>
    decide (w.kind = .dir) &&
      (strictlyBelow w.location t && !k.pinned tree t ||
        t == w.location && (k.rmdir path (k.emptied w.location tree)).isSome)

/-- What calls of `rmtree` one after the other take from a tree that has lost entries already: each takes what it
alone would take, unless its path has been cut. -/
def swept (tree : FileTree) (X : Location → Bool) : List String → Location → Bool
  | [] => X
  | path :: paths => swept tree (fun t => X t || !k.cut tree X path && k.taken tree path t) paths

/-- None of the entries is one that cannot be removed. -/
def Allows (tree : FileTree) (X : Location → Bool) : Prop :=
  ∀ t kind, tree.getItem t = some kind → X t = true → k.refuses t = false

variable {k} {tree : FileTree} {X : Location → Bool} {path : String} {w : Walk} {loc t : Location}

theorem cut_iff : k.cut tree X path = true ↔ (tree.removeWhere X).lstat k.cwd path = none := by
  rw [lstat_removeWhere]
  unfold cut
  cases tree.lstat k.cwd path with
  | none => simp
  | some w => cases hclear : clear X w <;> simp [hclear]

theorem pinned_iff : k.pinned tree loc = true ↔
    ∃ t kind, tree.getItem t = some kind ∧ loc <+: t ∧ k.refuses t = true := by
  simp only [pinned, List.any_eq_true, Bool.and_eq_true, List.isPrefixOf_iff_prefix, Prod.exists, Table.mem_scan]

theorem occupied_iff : occupied tree loc = true ↔ ∃ t kind, tree.getItem t = some kind ∧ loc <+: t ∧ t ≠ loc := by
  simp only [occupied, List.any_eq_true, strictlyBelow_iff, Prod.exists, Table.mem_scan]

/-- `os.remove` takes the entry at the end of the path. -/
theorem remove_eq_some {tree' : FileTree} : k.remove path tree = some tree' ↔
    ∃ w, tree.lstat k.cwd path = some w ∧ w.kind ≠ .dir ∧ k.refuses w.location = false ∧
      tree' = tree.removeWhere (· == w.location) := by
  unfold remove
  cases tree.lstat k.cwd path with
  | none => simp
  | some w =>
    dsimp only
    by_cases hkind : w.kind = .dir
    · simp [hkind]
    · cases hrefuses : k.refuses w.location with
      | true => simp [hkind, hrefuses]
      | false =>
        rw [if_neg (by simp [hkind])]
        constructor
        · rintro h
          exact ⟨w, rfl, hkind, hrefuses, (Option.some.inj h).symm⟩
        · rintro ⟨w', hw, -, -, rfl⟩
          rw [Option.some.inj hw]

/-- Entries that cannot be removed are never lost, so what they pin stays pinned. -/
theorem pinned_removeWhere (hX : k.Allows tree X) (loc : Location) :
    k.pinned (tree.removeWhere X) loc = k.pinned tree loc := by
  rw [Bool.eq_iff_iff, pinned_iff, pinned_iff]
  constructor
  · rintro ⟨t, kind, hitem, hbelow, hrefuses⟩
    rw [getItem_removeWhere] at hitem
    split at hitem
    · cases hitem
    · exact ⟨t, kind, hitem, hbelow, hrefuses⟩
  · rintro ⟨t, kind, hitem, hbelow, hrefuses⟩
    refine ⟨t, kind, ?_, hbelow, hrefuses⟩
    rw [getItem_removeWhere, if_neg, hitem]
    intro hlost
    rw [hX t kind hitem hlost] at hrefuses
    cases hrefuses

theorem emptied_removeWhere (hX : k.Allows tree X) (loc : Location) :
    k.emptied loc (tree.removeWhere X) = (k.emptied loc tree).removeWhere X := by
  unfold emptied
  rw [removeWhere_removeWhere, removeWhere_removeWhere]
  apply congrArg
  funext t
  rw [pinned_removeWhere hX, Bool.or_comm]

/-- A directory from which everything was removed that can be is still occupied when more entries are lost. -/
theorem occupied_removeWhere (hX : k.Allows tree X) (loc : Location) :
    occupied ((k.emptied loc tree).removeWhere X) loc = occupied (k.emptied loc tree) loc := by
  rw [Bool.eq_iff_iff, occupied_iff, occupied_iff]
  constructor
  · rintro ⟨t, kind, hitem, hbelow⟩
    rw [getItem_removeWhere] at hitem
    split at hitem
    · cases hitem
    · exact ⟨t, kind, hitem, hbelow⟩
  · rintro ⟨t, kind, hitem, hbelow, hne⟩
    -- what is left there is pinned by an entry that is never lost
    have hpinned : k.pinned tree t = true := by
      rw [emptied, getItem_removeWhere] at hitem
      split at hitem
      · cases hitem
      · next hstays =>
          by_contra hfree
          exact hstays (by simp [strictlyBelow_iff.mpr ⟨hbelow, hne⟩, hfree])
    obtain ⟨r, kind', hr, htr, hrefuses⟩ := pinned_iff.mp hpinned
    have hkept : (k.emptied loc tree).getItem r = some kind' := by
      rw [emptied, getItem_removeWhere, if_neg, hr]
      have hself : k.pinned tree r = true := pinned_iff.mpr ⟨r, kind', hr, List.prefix_rfl, hrefuses⟩
      simp [hself]
    refine ⟨r, kind', ?_, hbelow.trans htr, ?_⟩
    · rw [getItem_removeWhere, if_neg, hkept]
      intro hlost
      rw [hX r kind' hr hlost] at hrefuses
      cases hrefuses
    · rintro rfl
      exact hne (htr.eq_of_length (le_antisymm htr.length_le hbelow.length_le))

/-- The slashes at the end of a path are blank components. -/
theorem components_eq (path : String) : ∃ n, components path = ownComponents path ++ List.replicate n "" := by
  have hsplit : components path =
      ownComponents path ++ (components path).rtakeWhile (· == "") :=
    List.rdropWhile_append_rtakeWhile.symm
  refine ⟨((components path).rtakeWhile (· == "")).length, ?_⟩
  conv_lhs => rw [hsplit]
  congr 1
  rw [List.eq_replicate_iff]
  refine ⟨rfl, fun c hc => ?_⟩
  have hblank : (c == "") = true := List.mem_rtakeWhile_imp (p := fun c => c == "") hc
  exact beq_iff_eq.mp hblank

/-- The directory that `os.rmdir` is about is the one that `os.lstat` finds. -/
theorem lstat_of_rmdirTarget (h : k.rmdirTarget path tree = some w) :
    tree.lstat k.cwd path = some w ∧ w.kind = .dir := by
  unfold rmdirTarget at h
  split at h
  · cases h
  split at h
  · cases h
  obtain ⟨hwalk, hkind⟩ := Option.filter_eq_some_iff.mp h
  have hkind : w.kind = .dir := of_decide_eq_true hkind
  obtain ⟨n, hblanks⟩ := components_eq path
  refine ⟨?_, hkind⟩
  rw [lstat, hblanks]
  exact walk_append_blanks n hwalk hkind

/-! ## What is taken from a tree that has lost entries -/

theorem filter_rmdirTarget (hclear : ∀ w', k.rmdirTarget path tree = some w' → clear X w' = true) :
    k.rmdirTarget path (tree.removeWhere X) = k.rmdirTarget path tree := by
  unfold rmdirTarget at hclear ⊢
  split
  · rfl
  · next c hlast =>
      simp only [hlast] at hclear
      split
      · rfl
      · next hname =>
          rw [if_neg hname] at hclear
          rw [walk_removeWhere]
          cases hw : tree.walk false maxLinks (startOf k.cwd path) (ownComponents path) with
          | none => rfl
          | some w =>
            by_cases hkind : w.kind = .dir
            · have hpass : clear X w = true := hclear w (by simp [hw, hkind])
              simp [Option.filter_some, hpass, hkind]
            · simp [Option.filter_some, hkind]

/-- `os.rmdir` after the contents are gone, in a tree that has lost entries which the path does not need. -/
theorem rmdir_removeWhere (hX : k.Allows tree X) (hw : tree.lstat k.cwd path = some w) (hclear : clear X w = true) :
    k.rmdir path ((k.emptied w.location tree).removeWhere X) =
      (k.rmdir path (k.emptied w.location tree)).map (removeWhere · X) := by
  -- the directory is the one that the walk has found
  have htarget : ∀ w', k.rmdirTarget path (k.emptied w.location tree) = some w' → w' = w := by
    intro w' h
    have hlstat := (lstat_of_removeWhere (lstat_of_rmdirTarget h).1).1
    exact Option.some.inj (hlstat.symm.trans hw)
  unfold rmdir
  rw [filter_rmdirTarget (fun w' h => by rw [htarget w' h]; exact hclear)]
  cases h : k.rmdirTarget path (k.emptied w.location tree) with
  | none => rfl
  | some w' =>
    obtain rfl := htarget w' h
    dsimp only
    rw [occupied_removeWhere hX]
    split
    · rfl
    · rw [Option.map_some, removeWhere_removeWhere, removeWhere_removeWhere]
      congr 2
      funext t
      exact Bool.or_comm _ _

/-- `os.rmdir` takes the directory that the walk has found. -/
theorem rmdir_eq_some {tree' : FileTree} (hw : tree.lstat k.cwd path = some w)
    (h : k.rmdir path (k.emptied w.location tree) = some tree') :
    tree' = (k.emptied w.location tree).removeWhere (· == w.location) ∧ k.refuses w.location = false := by
  unfold rmdir at h
  split at h
  · cases h
  · next w' htarget =>
      have hlstat := (lstat_of_removeWhere (lstat_of_rmdirTarget htarget).1).1
      obtain rfl := Option.some.inj (hlstat.symm.trans hw)
      split at h
      · cases h
      · next hfree =>
          rw [not_or, Bool.not_eq_true] at hfree
          exact ⟨(Option.some.inj h).symm, Bool.not_eq_true _ ▸ hfree.2⟩

/-- `rmtree` takes what `taken` says. -/
theorem rmtree_eq (k : Kernel) (path : String) (tree : FileTree) :
    k.rmtree path tree = tree.removeWhere (k.taken tree path) := by
  unfold rmtree taken
  cases hw : tree.lstat k.cwd path with
  | none => exact (removeWhere_false tree).symm
  | some w =>
    by_cases hkind : w.kind = .dir
    · simp only [hkind, if_true, decide_true, Bool.true_and]
      cases hrmdir : k.rmdir path (k.emptied w.location tree) with
      | none =>
        rw [Option.getD_none, emptied]
        congr 1
        funext t
        simp
      | some tree' =>
        rw [Option.getD_some, (rmdir_eq_some hw hrmdir).1, emptied, removeWhere_removeWhere]
        congr 1
        funext t
        simp
    · simp only [hkind, if_false, decide_false, Bool.false_and]
      exact (removeWhere_false tree).symm

/-- `rmtree` never takes an entry that cannot be removed. -/
theorem allows_taken (k : Kernel) (tree : FileTree) (path : String) : k.Allows tree (k.taken tree path) := by
  intro t kind hitem h
  unfold taken at h
  split at h
  · cases h
  · next w hw =>
      rw [Bool.and_eq_true, Bool.or_eq_true] at h
      rcases h.2 with hcontents | hself
      · rw [Bool.and_eq_true, Bool.not_eq_true'] at hcontents
        by_contra hrefuses
        have hpinned : k.pinned tree t = true :=
          pinned_iff.mpr ⟨t, kind, hitem, List.prefix_rfl, Bool.not_eq_false _ ▸ hrefuses⟩
        rw [hpinned] at hcontents
        cases hcontents.2
      · rw [Bool.and_eq_true, beq_iff_eq] at hself
        obtain ⟨rfl, hrmdir⟩ := hself
        obtain ⟨tree', hrmdir⟩ := Option.isSome_iff_exists.mp hrmdir
        exact (rmdir_eq_some hw hrmdir).2

theorem allows_or {Y : Location → Bool} (hX : k.Allows tree X) (hY : k.Allows tree Y) :
    k.Allows tree fun t => X t || Y t := by
  intro t kind hitem h
  rcases Bool.or_eq_true_iff.mp h with h | h
  · exact hX t kind hitem h
  · exact hY t kind hitem h

/-- **`rmtree` on a tree that has lost entries.** If the path is cut nothing happens; otherwise it takes what it
would take from the whole tree. -/
theorem rmtree_removeWhere (hX : k.Allows tree X) (path : String) : k.rmtree path (tree.removeWhere X) =
      tree.removeWhere fun t => X t || !k.cut tree X path && k.taken tree path t := by
  cases hcut : k.cut tree X path with
  | true =>
    have hgone := cut_iff.mp hcut
    simp [rmtree, hgone]
  | false =>
    simp only [Bool.not_false, Bool.true_and]
    rw [← removeWhere_removeWhere]
    unfold cut at hcut
    unfold rmtree taken
    rw [lstat_removeWhere]
    cases hw : tree.lstat k.cwd path with
    | none => simp [hw] at hcut
    | some w =>
      have hclear : clear X w = true := by simpa [hw] using hcut
      simp only [Option.filter_some, hclear, if_true]
      by_cases hkind : w.kind = .dir
      · simp only [hkind, if_true, decide_true, Bool.true_and]
        rw [emptied_removeWhere hX, rmdir_removeWhere hX hw hclear]
        cases hrmdir : k.rmdir path (k.emptied w.location tree) with
        | none =>
          rw [Option.map_none, Option.getD_none, emptied, removeWhere_removeWhere, removeWhere_removeWhere]
          congr 1
          funext t
          simp [Bool.or_comm]
        | some tree' =>
          rw [Option.map_some, Option.getD_some, (rmdir_eq_some hw hrmdir).1, emptied]
          simp only [removeWhere_removeWhere]
          congr 1
          funext t
          simp [Bool.or_comm]
      · simp only [hkind, if_false, decide_false, Bool.false_and]
        exact (removeWhere_false _).symm

theorem allows_swept_step (hX : k.Allows tree X) (path : String) :
    k.Allows tree fun t => X t || !k.cut tree X path && k.taken tree path t := by
  refine allows_or hX fun t kind hitem h => ?_
  exact allows_taken k tree path t kind hitem (Bool.and_eq_true_iff.mp h).2

theorem foldl_rmtree (hX : k.Allows tree X) (paths : List String) :
    paths.foldl (fun t path => k.rmtree path t) (tree.removeWhere X) = tree.removeWhere (k.swept tree X paths) := by
  induction paths generalizing X with
  | nil => rfl
  | cons path paths ih =>
    rw [List.foldl_cons, rmtree_removeWhere hX, ih (allows_swept_step hX path)]
    rfl

theorem swept_of_lost {paths : List String} (h : X t = true) : k.swept tree X paths t = true := by
  induction paths generalizing X with
  | nil => exact h
  | cons path paths ih => exact ih (by simp [h])

/-- `rmtree` takes only the entry at the end of the path and what is below it. -/
theorem below_of_taken (h : k.taken tree path t = true) : ∃ w, tree.lstat k.cwd path = some w ∧ w.location <+: t := by
  unfold taken at h
  split at h
  · cases h
  · next w hw =>
      refine ⟨w, hw, ?_⟩
      rw [Bool.and_eq_true, Bool.or_eq_true] at h
      rcases h.2 with hcontents | hself
      · exact (strictlyBelow_iff.mp (Bool.and_eq_true_iff.mp hcontents).1).1
      · rw [beq_iff_eq.mp (Bool.and_eq_true_iff.mp hself).1]

theorem cut_mono {Y : Location → Bool} (hXY : ∀ t, X t = true → Y t = true)
    (hcut : k.cut tree X path = true) : k.cut tree Y path = true := by
  unfold cut at hcut ⊢
  cases hw : tree.lstat k.cwd path with
  | none => rfl
  | some w =>
    simp only [hw, clear, Bool.not_not, List.any_eq_true] at hcut ⊢
    obtain ⟨t, ht, hlost⟩ := hcut
    exact ⟨t, ht, hXY t hlost⟩

/-- A path that `rmtree` alone cuts is cut by the calls of `rmtree` of which it is one. -/
theorem cut_swept {paths : List String} (hpath : path ∈ paths)
    (hcut : k.cut tree (k.taken tree path) path = true) : k.cut tree (k.swept tree X paths) path = true := by
  induction paths generalizing X with
  | nil => cases hpath
  | cons path' paths ih =>
    rcases List.mem_cons.mp hpath with rfl | hlater
    · show k.cut tree (k.swept tree (fun t => X t || !k.cut tree X path && k.taken tree path t) paths)
        path = true
      refine cut_mono (fun t => swept_of_lost) ?_
      by_cases hbefore : k.cut tree X path = true
      · refine cut_mono (fun t ht => ?_) hbefore
        rw [ht, Bool.true_or]
      · refine cut_mono (fun t ht => ?_) hcut
        rw [ht, (Bool.not_eq_true _).mp hbefore, Bool.not_false, Bool.true_and, Bool.or_true]
    · exact ih hlater

end Kernel

end ContainRes.FileSystem
