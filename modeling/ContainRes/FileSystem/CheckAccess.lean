import ContainRes.Common.Exceptions
import ContainRes.Text.Python

/-! # The file browser's access check

`FileSystemHelper.check_access` decides, from the raw string of a path, whether the file browser may
touch it. What the kernel opens is the resolved path, so the two are compared here.

* **`posixResolve`** — the components of the absolute path a string names: empty and `.` components
  vanish, `..` climbs, a relative path starts at the working directory.
* **`FileSystemHelper.checkAccess`** — the check, clause by clause.
* **`Protects`** — an accepted path is inside the home mount or outside every restricted folder.
* **`protects_iff`** — exactly which strings keep that promise. The check looks at the piece between
  the first two slashes and at a string prefix; a doubled slash, a `.` component, a relative path or
  a sibling directory with the mount's name as a prefix of its own slips past. -/

namespace ContainRes.FileSystem

open Text

def restrictedRootFolders : List String :=
  ["boot", "bin", "dev", "etc", "home", "local", "lib", "lib64", "media", "opt", "proc", "root",
    "run", "srv", "sys", "sbin", "tmp", "usr", "var"]

/-- What `FileSystemHelper` is built with and what it asks the machine. -/
structure FileSystemHelper where
  /-- The user on whose behalf the shell tests run. -/
  username : String
  /-- `config().get_string('shared-storage.home.mount_dir')`. -/
  dataMountDir : Option String
  /-- `pathlib.Path(file).exists()`. -/
  pathExists : String → Bool
  /-- The return code of `shell.invoke(command)`. -/
  shellInvoke : List String → Int

namespace FileSystemHelper

variable (h : FileSystemHelper)

/-- The command `su <username> -c 'test -<flag> "<file>"'`. -/
def testCommand (flag file : String) : List String :=
  ["su", h.username, "-c", s!"test -{flag} \"{file}\""]

/-- One of the three shell tests: it runs only when it is asked for. -/
def shellTestPasses (asked : Bool) (flag file : String) : Bool :=
  !asked || h.shellInvoke (h.testCommand flag file) == 0

/-- `is_data_mount`: the string prefix test against the configured mount directory. -/
def isDataMount (file : String) : Bool :=
  match h.dataMountDir with
  | some dir => !isEmpty dir && startsWith file dir
  | none => false

/-- `len(tokens) > 1 and tokens[1] in RESTRICTED_ROOT_FOLDERS` for `tokens = file.split('/')`. -/
def secondTokenRestricted (file : String) : Bool :=
  match splitChar '/' file with
  | _ :: token :: _ => restrictedRootFolders.contains token
  | _ => false

def checkAccess (file : String) (checkDir checkRead checkWrite : Bool) : Except Exc Unit :=
  if isEmpty file then .error (.unauthorizedAccess none)
  else if contains ".." file then .error (.unauthorizedAccess none)
  else if !h.pathExists file then .error (.unauthorizedAccess none)
  -- do not allow any access to system folders
  else if secondTokenRestricted file && !h.isDataMount file then .error (.unauthorizedAccess none)
  else if !h.shellTestPasses checkDir "d" file then .error (.unauthorizedAccess none)
  else if !h.shellTestPasses checkRead "r" file then .error (.unauthorizedAccess none)
  else if !h.shellTestPasses checkWrite "w" file then .error (.unauthorizedAccess none)
  else .ok ()

/-- The checks of `check_access` other than the one for system folders. -/
def otherChecksPass (file : String) (checkDir checkRead checkWrite : Bool) : Bool :=
  !isEmpty file && !contains ".." file && h.pathExists file &&
    h.shellTestPasses checkDir "d" file && h.shellTestPasses checkRead "r" file &&
    h.shellTestPasses checkWrite "w" file

/-- The check accepts a path when its other checks pass and the system-folder test does not fire. -/
theorem checkAccess_ok_iff (file : String) (checkDir checkRead checkWrite : Bool) :
    h.checkAccess file checkDir checkRead checkWrite = .ok () ↔ h.otherChecksPass file checkDir checkRead checkWrite ∧
        ¬ (secondTokenRestricted file ∧ ¬ h.isDataMount file) := by
  unfold checkAccess otherChecksPass
  split_ifs <;> simp_all

end FileSystemHelper

/-! ## What a string names -/

/-- The components of a path that are neither empty nor `.`. -/
def pathComponents (path : String) : List String :=
  (splitChar '/' path).filter fun c => c != "" && c != "."

/-- One component of a walk: `..` climbs, anything else descends. -/
def walk (dir : List String) (component : String) : List String :=
  if component = ".." then dir.dropLast else dir ++ [component]

/-- The path starts with a slash. -/
def isAbsolute (path : String) : Bool := startsWith path "/"

/-- The components of the absolute path that `path` names for a process in `cwd`. -/
def posixResolve (cwd : List String) (path : String) : List String :=
  (pathComponents path).foldl walk (if isAbsolute path then [] else cwd)

/-- The path lies at or below a restricted folder of the root. -/
def UnderRestricted (cwd : List String) (path : String) : Prop :=
  ∃ folder ∈ restrictedRootFolders, [folder] <+: posixResolve cwd path

/-- The path lies in the configured home mount directory. -/
def InsideMount (h : FileSystemHelper) (cwd : List String) (path : String) : Prop :=
  ∃ dir, h.dataMountDir = some dir ∧ isEmpty dir = false ∧
    posixResolve cwd dir <+: posixResolve cwd path

/-- What `check_access` is for: an accepted path is in the home mount or in no restricted folder. -/
def Protects (h : FileSystemHelper) (cwd : List String) (file : String)
    (checkDir checkRead checkWrite : Bool) : Prop :=
  h.checkAccess file checkDir checkRead checkWrite = .ok () →
    InsideMount h cwd file ∨ ¬ UnderRestricted cwd file

/-! ## Splitting a path -/

/-- A piece is contiguous in the joined list, whatever stands around it. -/
theorem isInfix_intercalate {sep x : List Char} {pieces : List (List Char)} (h : x ∈ pieces) :
    x <:+: sep.intercalate pieces := by
  induction pieces with
  | nil => cases h
  | cons y ys ih =>
    rcases List.mem_cons.mp h with rfl | hys
    · by_cases hnil : ys = []
      · rw [hnil, List.intercalate_singleton]
      · rw [List.intercalate_cons_of_ne_nil hnil, List.append_assoc]
        exact (List.prefix_append _ _).isInfix
    · rw [List.intercalate_cons_of_ne_nil (List.ne_nil_of_mem hys)]
      exact (ih hys).trans (List.suffix_append _ _).isInfix

theorem isInfix_of_mem_splitOn {a : Char} {l x : List Char} (h : x ∈ l.splitOn a) : x <:+: l := by
  have hinfix : x <:+: [a].intercalate (l.splitOn a) := isInfix_intercalate h
  rwa [List.intercalate_splitOn] at hinfix

variable {path : String}

/-- A path without `..` in its string has no `..` component. -/
theorem dotdot_not_mem_pathComponents (h : contains ".." path = false) : ".." ∉ pathComponents path := by
  intro hmem
  obtain ⟨piece, hpiece, hof⟩ := List.mem_map.mp (List.mem_filter.mp hmem).1
  have hlist : piece = "..".toList := by
    rw [← hof, String.toList_ofList]
  have hin : "..".toList <:+: path.toList := hlist ▸ isInfix_of_mem_splitOn hpiece
  obtain ⟨before, after, heq⟩ := hin
  have : contains ".." path = true := by
    rw [contains, List.any_eq_true]
    refine ⟨"..".toList ++ after, ?_, ?_⟩
    · rw [List.mem_tails]
      exact ⟨before, by rw [← heq, List.append_assoc]⟩
    · rw [List.isPrefixOf_iff_prefix]
      exact List.prefix_append _ _
  rw [h] at this
  exact Bool.false_ne_true this

theorem foldl_walk_of_no_dotdot {components : List String} (h : ".." ∉ components)
    (dir : List String) : components.foldl walk dir = dir ++ components := by
  induction components generalizing dir with
  | nil => simp
  | cons c cs ih =>
    rw [List.mem_cons, not_or] at h
    rw [List.foldl_cons, walk, if_neg (Ne.symm h.1), ih h.2, List.append_assoc, List.singleton_append]

theorem posixResolve_of_absolute {cwd : List String}
    (habs : isAbsolute path = true) (hdots : contains ".." path = false) :
    posixResolve cwd path = pathComponents path := by
  rw [posixResolve, if_pos habs, foldl_walk_of_no_dotdot (dotdot_not_mem_pathComponents hdots), List.nil_append]

/-- The pieces of an absolute path: nothing before the first slash, and at least one more piece. -/
theorem splitChar_of_absolute (habs : isAbsolute path = true) :
    ∃ token tokens, splitChar '/' path = "" :: token :: tokens := by
  rw [isAbsolute, startsWith, List.isPrefixOf_iff_prefix] at habs
  obtain ⟨rest, hrest⟩ := habs
  have hsplit : path.toList.splitOn '/' = [] :: rest.splitOn '/' := by
    rw [← hrest]
    have hnil : '/' ∉ ([] : List Char) := List.not_mem_nil
    exact List.splitOn_append_cons_self_of_not_mem hnil rest
  obtain ⟨token, tokens, htokens⟩ := List.exists_cons_of_ne_nil (List.splitOn_ne_nil '/' rest)
  refine ⟨String.ofList token, tokens.map String.ofList, ?_⟩
  rw [splitChar, hsplit, htokens]
  rfl

/-! ## When the raw string shows the restricted folder -/

/-- The first component stands right behind the leading slash: the piece between the first two
slashes is neither empty nor `.`. -/
def startsPlainly (path : String) : Bool :=
  match splitChar '/' path with
  | _ :: token :: _ => token != "" && token != "."
  | _ => false

/-- For an absolute path into a restricted folder, `check_access` sees the folder exactly when the
path starts plainly. -/
theorem secondTokenRestricted_iff_startsPlainly {cwd : List String}
    (habs : isAbsolute path = true) (hdots : contains ".." path = false) (hrestricted : UnderRestricted cwd path) :
    FileSystemHelper.secondTokenRestricted path = true ↔ startsPlainly path = true := by
  obtain ⟨token, tokens, hsplit⟩ := splitChar_of_absolute habs
  obtain ⟨folder, hfolder, hprefix⟩ := hrestricted
  rw [posixResolve_of_absolute habs hdots, pathComponents, hsplit] at hprefix
  simp only [FileSystemHelper.secondTokenRestricted, startsPlainly, hsplit, List.contains_iff_mem,
    Bool.and_eq_true, bne_iff_ne]
  constructor
  · intro hmem
    constructor <;> rintro rfl <;> revert hmem <;> decide
  · rintro ⟨hne, hdot⟩
    have hkeep : (token != "" && token != ".") = true := by simp [hne, hdot]
    have hhead : folder = token := by
      rw [List.filter_cons_of_neg (by simp), List.filter_cons, if_pos hkeep] at hprefix
      simpa using hprefix
    exact hhead ▸ hfolder

/-- The raw string shows a path that must be rejected: it does not begin with the mount directory's
string, and an absolute path starts plainly, a relative one has a restricted name behind its first
slash. -/
def ShowsRestricted (h : FileSystemHelper) (file : String) : Prop :=
  h.isDataMount file = false ∧
    if isAbsolute file then startsPlainly file = true
    else FileSystemHelper.secondTokenRestricted file = true

/-- **The exact strings on which the check protects the system folders.** It does so precisely when
every path that passes the other checks and lies in a restricted folder outside the mount shows
this in its raw string. -/
theorem protects_iff (h : FileSystemHelper) (cwd : List String) (file : String) (checkDir checkRead checkWrite : Bool) :
    Protects h cwd file checkDir checkRead checkWrite ↔ (h.otherChecksPass file checkDir checkRead checkWrite = true →
        UnderRestricted cwd file → ¬ InsideMount h cwd file → ShowsRestricted h file) := by
  have hdots : h.otherChecksPass file checkDir checkRead checkWrite = true →
      contains ".." file = false := by
    intro hother
    simp only [FileSystemHelper.otherChecksPass, Bool.and_eq_true, Bool.not_eq_true'] at hother
    exact hother.1.1.1.1.2
  have hshows : contains ".." file = false → UnderRestricted cwd file →
      (ShowsRestricted h file ↔ FileSystemHelper.secondTokenRestricted file = true ∧ ¬ h.isDataMount file = true) := by
    intro hnodots hrestricted
    rw [ShowsRestricted, and_comm, Bool.not_eq_true]
    by_cases habs : isAbsolute file = true
    · rw [if_pos habs, secondTokenRestricted_iff_startsPlainly habs hnodots hrestricted]
    · rw [if_neg habs]
  rw [Protects, FileSystemHelper.checkAccess_ok_iff]
  constructor
  · intro hprot hother hrestricted houtside
    rw [hshows (hdots hother) hrestricted]
    by_contra hsees
    rcases hprot ⟨hother, hsees⟩ with hin | hout
    · exact houtside hin
    · exact hout hrestricted
  · rintro hcond ⟨hother, hpass⟩
    by_contra hbad
    rw [not_or, not_not] at hbad
    have := hcond hother hbad.2 hbad.1
    exact hpass ((hshows (hdots hother) hbad.2).mp this)

/-- A helper on a machine where every path exists and every shell test succeeds, with the default
home mount. -/
def permissiveHelper : FileSystemHelper where
  username := "alice"
  dataMountDir := some "/home"
  pathExists := fun _ => true
  shellInvoke := fun _ => 0

/-- `check_access` accepts `//etc/shadow`, which names `/etc/shadow`. -/
theorem not_protects_doubled_slash : ¬ Protects permissiveHelper [] "//etc/shadow" false true true := by
  intro hprot
  have hok : permissiveHelper.checkAccess "//etc/shadow" false true true = .ok () := by decide
  rcases hprot hok with ⟨dir, hdir, -, hprefix⟩ | hout
  · cases hdir
    revert hprefix
    decide
  · exact hout ⟨"etc", by decide, by decide⟩

end ContainRes.FileSystem
