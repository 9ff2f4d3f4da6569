import ContainRes.FileSystem.DeleteFiles

/-! # Uploads

`FileSystemHelper.upload_files` writes each uploaded file into a directory of the user, under a name that
`Utils.to_secure_filename` has made harmless.

* **`toSecureFilename`** — the name; `secureName_of_toSecureFilename` tells what it consists of.
* **`uploadFiles`** — the function, with the files that it writes as its state.
* **`pathComponents_prefix_iff`** — when the components of a path begin with those of one of its string
  prefixes.
* **`UploadsContained`** — every file is written directly into the directory, and the directory lies in the
  user's home and in no other user's.
* **`uploadsContained_iff`** — exactly when this holds: the home must be a prefix that ends at a component. -/

namespace ContainRes.FileSystem

open Effects Text

/-! ## Names -/

/-- The characters that `FILENAME_ASCII_STRIP_RE` leaves. -/
def secureChar (c : Char) : Bool := c.isAlphanum || c == '_' || c == '.' || c == '-'

/-- `str.split()`: the pieces between white space. -/
def splitWords (l : List Char) : List (List Char) := (l.splitOnP isSpace).filter fun word => !word.isEmpty

/-- The characters of `str.strip('._')`. -/
def dotOrUnderscore (c : Char) : Bool := c == '.' || c == '_'

/-- `str.strip('._')`. -/
def stripDots (l : List Char) : List Char := (l.dropWhile dotOrUnderscore).rdropWhile dotOrUnderscore

/-- `Utils.to_secure_filename(file)`, with `unicodedata.normalize('NFKD', ·)` for `nfkd`. The only separator of
the platform is the slash. -/
def toSecureFilename (nfkd : String → String) (file : String) : Option String :=
  let ascii := (nfkd file).toList.filter fun c => c.toNat < 128
  let spaced := ascii.map fun c => if c = '/' then ' ' else c
  let joined := ['_'].intercalate (splitWords spaced)
  let filename := String.ofList (stripDots (joined.filter secureChar))
  if isEmpty filename then none else some filename

/-- A file name of harmless characters that is neither hidden nor `.` or `..`. -/
structure SecureName (name : String) : Prop where
  chars : ∀ c ∈ name.toList, secureChar c = true
  nonempty : name ≠ ""
  not_hidden : name.toList.head? ≠ some '.'

/-- **Secure names.** Whatever the uploaded name and its normal form are, the name that is used is secure. -/
theorem secureName_of_toSecureFilename {nfkd : String → String} {file name : String}
    (h : toSecureFilename nfkd file = some name) : SecureName name := by
  unfold toSecureFilename at h
  dsimp only at h
  split at h
  · cases h
  next hblank =>
    obtain rfl := Option.some.inj h
    generalize ['_'].intercalate _ = joined at hblank ⊢
    have hsub : ∀ c ∈ stripDots (joined.filter secureChar), secureChar c = true := by
      intro c hc
      have hmem : c ∈ joined.filter secureChar :=
        (List.dropWhile_sublist _).mem ((List.rdropWhile_prefix _ _).sublist.mem hc)
      exact (List.mem_filter.mp hmem).2
    refine ⟨by rwa [String.toList_ofList], ?_, ?_⟩
    · intro hempty
      rw [hempty] at hblank
      exact hblank (by decide)
    · rw [String.toList_ofList]
      intro hhead
      -- the first character that is left is the first one after the dots
      have hpre : stripDots (joined.filter secureChar) <+:
          (joined.filter secureChar).dropWhile dotOrUnderscore := List.rdropWhile_prefix _ _
      obtain ⟨t, ht⟩ := hpre
      have hfirst : ((joined.filter secureChar).dropWhile dotOrUnderscore).head? = some '.' := by
        rw [← ht, List.head?_append, hhead, Option.some_or]
      have hnot := List.head?_dropWhile_not dotOrUnderscore (joined.filter secureChar)
      rw [hfirst] at hnot
      exact absurd hnot (by decide)

variable {name : String}

theorem SecureName.ne_dot (h : SecureName name) : name ≠ "." := by
  rintro rfl
  exact h.not_hidden rfl

theorem SecureName.ne_dotdot (h : SecureName name) : name ≠ ".." := by
  rintro rfl
  exact h.not_hidden rfl

theorem SecureName.slash_not_mem (h : SecureName name) : '/' ∉ name.toList := by
  intro hmem
  have hslash := h.chars '/' hmem
  revert hslash
  decide

/-! ## Components of joined paths -/

/-- `os.path.join(a, b)`. -/
def pathJoin (a b : String) : String :=
  if startsWith b "/" then b
  else if a = "" ∨ a.toList.getLast? = some '/' then a ++ b
  else a ++ "/" ++ b

def basename (path : String) : String := String.ofList (path.toList.rtakeWhile (· != '/'))

/-- The components of a list of characters. -/
def listComponents (l : List Char) : List String :=
  ((l.splitOn '/').map String.ofList).filter fun c => c != "" && c != "."

theorem pathComponents_eq (path : String) : pathComponents path = listComponents path.toList := rfl

theorem listComponents_append_slash (l m : List Char) :
    listComponents (l ++ '/' :: m) = listComponents l ++ listComponents m := by
  rw [listComponents, List.splitOn_append_cons_self, List.map_append, List.filter_append]
  rfl

/-- A piece without a slash is one component, or none. -/
theorem listComponents_of_slash_not_mem {p : List Char} (h : '/' ∉ p) :
    listComponents p = if p = [] ∨ p = ['.'] then [] else [String.ofList p] := by
  rw [listComponents, List.splitOn_eq_singleton h]
  by_cases hnil : p = []
  · subst hnil
    rfl
  by_cases hdot : p = ['.']
  · subst hdot
    rfl
  have hne : String.ofList p ≠ "" := fun h => hnil (by simpa using congrArg String.toList h)
  have hne' : String.ofList p ≠ "." := fun h => hdot (by simpa using congrArg String.toList h)
  simp [hnil, hdot, hne, hne']

/-- What follows a list of characters continues its last piece. -/
theorem exists_listComponents_append (s : List Char) :
    ∃ before, ∀ t, listComponents (s ++ t) = before ++ listComponents (s.rtakeWhile (· != '/') ++ t) := by
  have hsplit : s = s.rdropWhile (· != '/') ++ s.rtakeWhile (· != '/') := List.rdropWhile_append_rtakeWhile.symm
  rcases List.eq_nil_or_concat (s.rdropWhile (· != '/')) with hnil | ⟨front, c, hfront⟩
  · refine ⟨[], fun t => ?_⟩
    rw [hnil, List.nil_append] at hsplit
    rw [← hsplit, List.nil_append]
  · have hc : c = '/' := by
      have hne : s.rdropWhile (· != '/') ≠ [] := by simp [hfront]
      have hlast := List.rdropWhile_last_not (· != '/') s hne
      simpa [hfront] using hlast
    refine ⟨listComponents front, fun t => ?_⟩
    conv_lhs => rw [hsplit, hfront, hc]
    rw [List.concat_eq_append, List.append_assoc, List.append_assoc, List.singleton_append, listComponents_append_slash]

/-- When the components of a path begin with those of one of its string prefixes: the prefix ends at a slash or
at the end of the path, or its last piece counts for nothing. -/
theorem listComponents_prefix_iff (s t : List Char) : listComponents s <+: listComponents (s ++ t) ↔
      t = [] ∨ t.head? = some '/' ∨ s.rtakeWhile (· != '/') = [] ∨ s.rtakeWhile (· != '/') = ['.'] := by
  obtain ⟨before, hbefore⟩ := exists_listComponents_append s
  have hs := hbefore []
  rw [List.append_nil, List.append_nil] at hs
  rw [hs, hbefore t, List.prefix_append_right_inj]
  have hp : '/' ∉ s.rtakeWhile (· != '/') := by
    intro hmem
    have hne := List.mem_rtakeWhile_imp hmem
    revert hne
    decide
  generalize s.rtakeWhile (· != '/') = p at hp ⊢
  by_cases hplain : p = [] ∨ p = ['.']
  · rw [listComponents_of_slash_not_mem hp, if_pos hplain]
    simp [hplain]
  cases t with
  | nil => simp
  | cons c t =>
    by_cases hc : c = '/'
    · subst hc
      rw [listComponents_append_slash]
      simp
    · -- the last piece goes on with the characters up to the next slash
      have hcut : p ++ c :: t =
          (p ++ (c :: t).takeWhile (· != '/')) ++ (c :: t).dropWhile (· != '/') := by
        rw [List.append_assoc, List.takeWhile_append_dropWhile]
      have hlonger : (c :: t).takeWhile (· != '/') ≠ [] := by simp [hc]
      have hclean : '/' ∉ p ++ (c :: t).takeWhile (· != '/') := by
        rw [List.mem_append, not_or]
        refine ⟨hp, fun hmem => ?_⟩
        have hne := List.mem_takeWhile_imp hmem
        revert hne
        decide
      generalize (c :: t).takeWhile (· != '/') = x at hcut hlonger hclean
      have hkept : ¬ (p ++ x = [] ∨ p ++ x = ['.']) := by
        rintro (hnil | hdot)
        · exact hlonger (List.append_eq_nil_iff.mp hnil).2
        · rcases p with _ | ⟨d, _ | ⟨d', p⟩⟩
          · exact hplain (.inl rfl)
          · rw [List.singleton_append, List.cons.injEq] at hdot
            exact hlonger hdot.2
          · simp at hdot
      have hhead : ∃ rest, listComponents (p ++ c :: t) = String.ofList (p ++ x) :: rest := by
        rw [hcut]
        rcases hrest : (c :: t).dropWhile (· != '/') with _ | ⟨e, rest⟩
        · refine ⟨[], ?_⟩
          rw [List.append_nil, listComponents_of_slash_not_mem hclean, if_neg hkept]
        · have he : e = '/' := by
            have hnot := List.head?_dropWhile_not (· != '/') (c :: t)
            rw [hrest] at hnot
            simpa using hnot
          refine ⟨listComponents rest, ?_⟩
          rw [he, listComponents_append_slash, listComponents_of_slash_not_mem hclean, if_neg hkept]
          rfl
      obtain ⟨rest, hrest⟩ := hhead
      rw [hrest, listComponents_of_slash_not_mem hp, if_neg hplain, List.cons_prefix_cons]
      have hne : String.ofList p ≠ String.ofList (p ++ x) := by
        intro heq
        have hlist := congrArg String.toList heq
        rw [String.toList_ofList, String.toList_ofList] at hlist
        exact hlonger (List.self_eq_append_right.mp hlist)
      constructor
      · rintro ⟨heq, -⟩
        exact absurd heq hne
      · rintro (hnil | hslash | hblank)
        · cases hnil
        · exact absurd (Option.some.inj hslash) hc
        · exact absurd hblank hplain

/-- The walk along a path in whose string there are no `..` ends at its components. -/
theorem posixResolve_of_no_dotdot (dir : List String) {path : String} (hdots : contains ".." path = false) :
    posixResolve dir path = (if isAbsolute path then [] else dir) ++ pathComponents path := by
  rw [posixResolve, foldl_walk_of_no_dotdot (dotdot_not_mem_pathComponents hdots)]

theorem startsWith_iff {hay pre : String} : startsWith hay pre = true ↔ pre.toList <+: hay.toList := by
  rw [startsWith, List.isPrefixOf_iff_prefix]

theorem contains_of_isPrefix {needle pre path : String} (h : pre.toList <+: path.toList)
    (hnot : contains needle path = false) : contains needle pre = false := by
  rw [← Bool.not_eq_true, contains_iff] at hnot ⊢
  exact fun hin => hnot (hin.trans h.isInfix)

/-- A longer path is absolute when its prefix is. -/
theorem isAbsolute_of_isPrefix {pre path : String} (h : pre.toList <+: path.toList) (hne : pre ≠ "") :
    isAbsolute path = isAbsolute pre := by
  obtain ⟨t, ht⟩ := h
  have hlist : pre.toList ≠ [] := fun hnil => hne (by simpa using hnil)
  rw [Bool.eq_iff_iff, isAbsolute, isAbsolute, startsWith_iff, startsWith_iff, ← ht]
  cases hpre : pre.toList with
  | nil => exact absurd hpre hlist
  | cons c cs =>
    show ['/'] <+: c :: cs ++ t ↔ ['/'] <+: c :: cs
    simp [List.cons_prefix_cons]

/-- A file in a directory. -/
theorem posixResolve_pathJoin (dir : List String) {cwd name : String} (hcwd : cwd ≠ "")
    (hname : '/' ∉ name.toList) (hne : name ≠ "") (hdot : name ≠ ".") (hdots : name ≠ "..") :
    posixResolve dir (pathJoin cwd name) = posixResolve dir cwd ++ [name] := by
  have hplain : listComponents name.toList = [name] := by
    rw [listComponents_of_slash_not_mem hname, if_neg, String.ofList_toList]
    rintro (hnil | hone)
    · exact hne (by simpa using hnil)
    · exact hdot (by rw [← String.ofList_toList (s := name), hone])
  have hrelative : startsWith name "/" = false := by
    rw [← Bool.not_eq_true, startsWith_iff]
    exact fun hpre => hname (hpre.subset List.mem_cons_self)
  have hprefix : cwd.toList <+: (pathJoin cwd name).toList := by
    unfold pathJoin
    rw [hrelative, if_neg Bool.false_ne_true]
    split
    · rw [String.toList_append]
      exact List.prefix_append _ _
    · rw [String.toList_append, String.toList_append, List.append_assoc]
      exact List.prefix_append _ _
  have hcomponents : pathComponents (pathJoin cwd name) = pathComponents cwd ++ [name] := by
    rw [pathComponents_eq, pathComponents_eq]
    unfold pathJoin
    rw [hrelative, if_neg Bool.false_ne_true]
    split
    · next hends =>
        have hlast : cwd.toList.getLast? = some '/' := hends.resolve_left hcwd
        obtain ⟨front, hfront⟩ := List.getLast?_eq_some_iff.mp hlast
        rw [String.toList_append, hfront, List.append_assoc, List.singleton_append,
          listComponents_append_slash, listComponents_append_slash, hplain]
        simp [listComponents]
    · rw [String.toList_append, String.toList_append, List.append_assoc]
      show listComponents (cwd.toList ++ '/' :: name.toList) = _
      rw [listComponents_append_slash, hplain]
  rw [posixResolve, hcomponents, List.foldl_append, isAbsolute_of_isPrefix hprefix hcwd, ← posixResolve,
    List.foldl_cons, List.foldl_nil, walk, if_neg hdots]

/-! ## `upload_files` -/

/-- An uploaded file. -/
structure UploadedFile where
  name : String
  body : List UInt8

/-- The result of `upload_files`. -/
structure UploadResult where
  success : Bool
  filesUploaded : List String
  filesSkipped : List String

/-- A `FileSystemHelper` that uploads, and what it asks the machine. -/
structure UploadHelper where
  username : String
  /-- `__init__` raises for a blank name. -/
  username_given : isEmpty username = false
  /-- `config().get_string('shared-storage.home.mount_dir', required=True)`. -/
  mountDir : String
  /-- `os.path.isdir(path)`. -/
  isdir : String → Bool
  /-- `unicodedata.normalize('NFKD', text)`. -/
  nfkd : String → String
  /-- Whether `open(path, 'wb')` succeeds. -/
  opens : String → Bool
  /-- Whether `shutil.chown(path, user, group)` succeeds. -/
  chowns : String → Bool

/-- The home of a user: `os.path.join(mount_dir, username)`. -/
def homeOf (mountDir username : String) : String := pathJoin mountDir username

namespace UploadHelper

variable (u : UploadHelper)

def getUserHome : String := homeOf u.mountDir u.username

/-- The checks of `upload_files` on the directory. -/
def checkCwd (cwd : String) : Except Exc Unit :=
  if isEmpty cwd then .error (.unauthorizedAccess none)
  else if !u.isdir cwd then .error (.unauthorizedAccess none)
  else if !startsWith cwd u.getUserHome then .error (.unauthorizedAccess none)
  else if contains ".." cwd then .error (.unauthorizedAccess none)
  else .ok ()

/-- Write a file and hand it over to the user. -/
def writeFile (path : String) (body : List UInt8) : Proc (List (String × List UInt8)) FileError PUnit := do
  if u.opens path then Proc.modify fun written => written ++ [(path, body)]
  else Proc.raise (.osError path)
  Proc.when (u.chowns path = false) (Proc.raise (.osError path))

/-- The loop of `upload_files`, with the lists that it has filled so far. -/
def uploadEach (cwd : String) : List UploadedFile → List String → List String →
    Proc (List (String × List UInt8)) FileError UploadResult
  | [], uploaded, skipped => pure { success := true, filesUploaded := uploaded, filesSkipped := skipped }
  | file :: files, uploaded, skipped =>
    match toSecureFilename u.nfkd file.name with
    | none => uploadEach cwd files uploaded (skipped ++ [file.name])
    | some name => do
      u.writeFile (pathJoin cwd name) file.body
      uploadEach cwd files (uploaded ++ [pathJoin cwd name]) skipped

/-- `upload_files(cwd, files)`. The state lists the files that were written. -/
def uploadFiles (cwd : String) (files : List UploadedFile) :
    Proc (List (String × List UInt8)) FileError UploadResult :=
  if files.isEmpty then pure { success := false, filesUploaded := [], filesSkipped := [] }
  else do
    Proc.liftExcept ((u.checkCwd cwd).mapError .exc)
    u.uploadEach cwd files [] []

/-- A file lies directly in a directory under a secure name. -/
def DirectlyIn (cwd : String) (dir : List String) (path : String) : Prop :=
  ∃ name, path = pathJoin cwd name ∧ SecureName name ∧
    posixResolve dir path = posixResolve dir cwd ++ [name]

variable {u} {cwd : String} {dir : List String} {files : List UploadedFile}

theorem checkCwd_ok_iff : u.checkCwd cwd = .ok () ↔
    isEmpty cwd = false ∧ u.isdir cwd = true ∧ startsWith cwd u.getUserHome = true ∧ contains ".." cwd = false := by
  unfold checkCwd
  cases isEmpty cwd <;> cases u.isdir cwd <;> cases startsWith cwd u.getUserHome <;>
    cases contains ".." cwd <;> simp

theorem directlyIn_of_secureName (dir : List String) (hcwd : cwd ≠ "") (hname : SecureName name) :
    DirectlyIn cwd dir (pathJoin cwd name) :=
  ⟨name, rfl, hname, posixResolve_pathJoin dir hcwd hname.slash_not_mem hname.nonempty hname.ne_dot hname.ne_dotdot⟩

/-- A file that is written is one more. -/
theorem keeps_writeFile {P : String → Prop} {path : String} (hpath : P path) (body : List UInt8) :
    Keeps (fun written => ∀ entry ∈ written, P entry.1) (u.writeFile path body) := by
  unfold writeFile
  have hwrites : Keeps (fun written => ∀ entry ∈ written, P entry.1)
      (Proc.modify (fun written => written ++ [(path, body)]) : Proc _ FileError PUnit) := by
    refine Keeps.modify fun written hwritten entry hentry => ?_
    rcases List.mem_append.mp hentry with hbefore | hnew
    · exact hwritten entry hbefore
    · rw [List.mem_singleton.mp hnew]
      exact hpath
  split
  · exact Keeps.bind hwrites fun _ => Keeps.when fun _ => Keeps.raise _
  · exact Keeps.bind (Keeps.raise _) fun _ => Keeps.when fun _ => Keeps.raise _

/-- Whatever is written lies directly in the directory. -/
theorem keeps_uploadEach (hcwd : cwd ≠ "") (uploaded skipped : List String) :
    Keeps (fun written => ∀ entry ∈ written, DirectlyIn cwd dir entry.1) (u.uploadEach cwd files uploaded skipped) := by
  induction files generalizing uploaded skipped with
  | nil => exact Keeps.pure _
  | cons file files ih =>
    unfold uploadEach
    cases hsecure : toSecureFilename u.nfkd file.name with
    | none => exact ih uploaded _
    | some name =>
      have hname := directlyIn_of_secureName dir hcwd (secureName_of_toSecureFilename hsecure)
      exact Keeps.bind (keeps_writeFile hname file.body) fun _ => ih _ skipped

theorem written_directly (hcwd : cwd ≠ "") :
    ∀ entry ∈ ((u.uploadFiles cwd files).run []).2, DirectlyIn cwd dir entry.1 := by
  have hkeeps : Keeps (fun written => ∀ entry ∈ written, DirectlyIn cwd dir entry.1)
      (u.uploadFiles cwd files) := by
    unfold uploadFiles
    split
    · exact Keeps.pure _
    · exact Keeps.bind (Keeps.liftExcept _) fun _ => keeps_uploadEach hcwd [] []
  exact hkeeps.run (by simp)

/-! ## Staying at home -/

/-- Neither of two directories contains the other one. -/
def Apart (a b : List String) : Prop := ¬ a <+: b ∧ ¬ b <+: a

variable (u cwd dir files)

/-- Uploads stay inside the user's own home: if the directory is accepted, every file is written directly into
it under a secure name, it is the home or lies below it, and it does not lie in a home apart from that one. -/
def UploadsContained : Prop :=
  files ≠ [] → u.checkCwd cwd = .ok () →
    (∀ entry ∈ ((u.uploadFiles cwd files).run []).2, DirectlyIn cwd dir entry.1) ∧
      posixResolve dir u.getUserHome <+: posixResolve dir cwd ∧
      ∀ other, Apart (posixResolve dir u.getUserHome) (posixResolve dir (homeOf u.mountDir other)) →
        ¬ posixResolve dir (homeOf u.mountDir other) <+: posixResolve dir cwd

/-- The directory continues the string of the home at a component: the two are the same, or a slash follows.
A home that ends in a slash or in `.` ends nowhere else. -/
def ContinuesHome : Prop :=
  cwd = u.getUserHome ∨ startsWith cwd (u.getUserHome ++ "/") = true ∨
    basename u.getUserHome = "" ∨ basename u.getUserHome = "."

variable {u cwd dir files}

theorem getUserHome_ne_empty (u : UploadHelper) : u.getUserHome ≠ "" := by
  intro hempty
  have hname : u.username = "" := by
    unfold getUserHome homeOf pathJoin at hempty
    split at hempty
    · exact hempty
    split at hempty
    · exact (String.append_eq_empty_iff.mp hempty).2
    · exact (String.append_eq_empty_iff.mp hempty).2
  have hgiven := u.username_given
  rw [hname] at hgiven
  revert hgiven
  decide

/-- An accepted directory is in the home when it continues the string of the home at a component. -/
theorem home_prefix_iff (dir : List String) (hcheck : u.checkCwd cwd = .ok ()) :
    posixResolve dir u.getUserHome <+: posixResolve dir cwd ↔ u.ContinuesHome cwd := by
  obtain ⟨-, -, hstarts, hdots⟩ := checkCwd_ok_iff.mp hcheck
  have hprefix := startsWith_iff.mp hstarts
  rw [posixResolve_of_no_dotdot dir hdots, posixResolve_of_no_dotdot dir (contains_of_isPrefix hprefix hdots),
    isAbsolute_of_isPrefix hprefix u.getUserHome_ne_empty, List.prefix_append_right_inj, pathComponents_eq,
    pathComponents_eq]
  obtain ⟨t, ht⟩ := hprefix
  rw [← ht, listComponents_prefix_iff, ContinuesHome]
  have hsame : t = [] ↔ cwd = u.getUserHome := by
    rw [← String.toList_inj, ← ht, List.append_right_eq_self]
  have hslash : t.head? = some '/' ↔ startsWith cwd (u.getUserHome ++ "/") = true := by
    rw [startsWith_iff, ← ht, String.toList_append, List.prefix_append_right_inj]
    show _ ↔ ['/'] <+: t
    cases t with
    | nil => simp
    | cons c t => simp [List.cons_prefix_cons, eq_comm]
  have hbase : ∀ l : List Char, u.getUserHome.toList.rtakeWhile (· != '/') = l ↔
      basename u.getUserHome = String.ofList l := by
    intro l
    rw [basename, String.ofList_inj]
  rw [hsame, hslash, hbase [], hbase ['.']]

/-- **Uploads stay at home.** Uploads are contained exactly when the directory, if it is accepted, continues the
string of the home at a component. -/
theorem uploadsContained_iff (u : UploadHelper) (cwd : String) (dir : List String) (files : List UploadedFile) :
    u.UploadsContained cwd dir files ↔ (files ≠ [] → u.checkCwd cwd = .ok () → u.ContinuesHome cwd) := by
  constructor
  · intro hcontained hne hcheck
    exact (home_prefix_iff dir hcheck).mp (hcontained hne hcheck).2.1
  · intro hcond hne hcheck
    have hhome := (home_prefix_iff dir hcheck).mpr (hcond hne hcheck)
    have hcwd : cwd ≠ "" := by
      rintro rfl
      have hblank := (checkCwd_ok_iff.mp hcheck).1
      revert hblank
      decide
    refine ⟨written_directly hcwd, hhome, fun other hapart hother => ?_⟩
    -- two homes around one directory are not apart
    rcases List.prefix_or_prefix_of_prefix hhome hother with hin | hin
    · exact hapart.1 hin
    · exact hapart.2 hin

/-- A helper for `ali` on a machine where every directory exists and every file can be written. -/
def helperOfAli : UploadHelper where
  username := "ali"
  username_given := by decide
  mountDir := "/home"
  isdir := fun _ => true
  nfkd := id
  opens := fun _ => true
  chowns := fun _ => true

/-- The user `ali` writes into the home of `alice`. -/
theorem ali_writes_to_alice : ((helperOfAli.uploadFiles "/home/alice" [⟨".ssh/authorized_keys", []⟩]).run []).2 =
        [("/home/alice/ssh_authorized_keys", [])] ∧
      ¬ helperOfAli.UploadsContained "/home/alice" [] [⟨".ssh/authorized_keys", []⟩] := by
  refine ⟨by decide +kernel, fun hcontained => ?_⟩
  have hcheck : helperOfAli.checkCwd "/home/alice" = .ok () := by decide +kernel
  have hhome := (hcontained (List.cons_ne_nil _ _) hcheck).2.1
  revert hhome
  decide +kernel

end UploadHelper

end ContainRes.FileSystem
