import ContainRes.Systems.Guarded
import ContainRes.Text.Pieces
import ContainRes.Text.Python

/-! # Tailing a file that is written

`FileSystemHelper.tail_file` returns the last lines of a file, and with the token of the call before the lines that
came after it. The file is written at its end while the calls run.

* **`TailState`**, **`Reader`** — the file, the call that is running, and the lines and the cursor returned so far.
* **`tailing`** — the system: appends, the beginning of a call, its reads one by one, and its end.
* **`Contiguous`** — what was returned is a piece of the file, from the beginning of a line up to the cursor.
* **`Harmless`** — the steps that lose nothing: no carriage return is read, nothing is appended between the last read
  and the seek of a first call, and stripping its lines takes away nothing but blank lines in front.
* **`Inv.next`**, **`tailed_contiguous`** — every such step keeps the invariant, so every such run is contiguous. -/

namespace ContainRes.FileSystem

open Systems Text

def tailFileMaxLineCount : ℤ := 10000

def tailFileDefaultLineCount : ℤ := 1000

def tailFileMinIntervalSeconds : ℕ := 5

/-- How far a call has come. -/
inductive Reader
  /-- No call is running. -/
  | idle
  /-- A first call reads the file and keeps the last lines, no more than `limit`. -/
  | prefetching (pos : ℕ) (kept : List (List Char)) (limit : ℕ)
  /-- A first call has read up to the end of the file and has not sought it yet. -/
  | prefetched (kept : List (List Char))
  /-- A call with a token reads from its offset on. -/
  | following (pos : ℕ) (lines : List (List Char)) (limit : ℕ)
  /-- A call with a token has read all that it will. -/
  | followed (pos : ℕ) (lines : List (List Char))

/-- The file and its reader. -/
structure TailState where
  content : List Char
  reader : Reader
  /-- The lines of all results, in order. -/
  returned : List (List Char)
  /-- The last `next_token`: the position, and the time of the call. -/
  cursor : Option (ℕ × ℕ)

/-- A step of the writer or of the reader. -/
inductive TailAction
  | append (text : List Char)
  /-- A call of `tail_file` with the last token, if there is one, at a time in milliseconds. -/
  | call (lineCount : Option ℤ) (now : ℕ)
  /-- `readline()`. -/
  | read
  /-- The rest of the call, at a time. -/
  | finish (now : ℕ)

def maxLineCount (lineCount : Option ℤ) : ℤ := min (lineCount.getD tailFileDefaultLineCount) tailFileMaxLineCount

/-- The beginning of a call: it may be throttled, and a first call refuses a negative number of lines. -/
def beginCall (s : TailState) (lineCount : Option ℤ) (now : ℕ) : TailState :=
  match s.cursor with
  | none =>
    if maxLineCount lineCount < 0 then s
    else { s with reader := .prefetching 0 [] (maxLineCount lineCount).toNat }
  | some (offset, lastRead) =>
    if now < lastRead + tailFileMinIntervalSeconds * 1000 then s
    else { s with reader := .following offset [] (maxLineCount lineCount).toNat }

/-- One read of a call. -/
def readStep (s : TailState) : Option TailState :=
  match s.reader with
  | .prefetching pos kept limit =>
    let line := takeLine (s.content.drop pos)
    if line.1 = [] then some { s with reader := .prefetched kept }
    else some { s with reader := .prefetching (pos + line.2) ((kept ++ [line.1]).rtake limit) limit }
  | .following pos lines limit =>
    let line := takeLine (s.content.drop pos)
    if lines.length < limit ∧ line.1 ≠ [] then
      some { s with reader := .following (pos + line.2) (lines ++ [line.1]) limit }
    else some { s with reader := .followed pos lines }
  | _ => none

/-- The end of a call: a first call strips its lines and seeks the end of the file. -/
def finishCall (s : TailState) (now : ℕ) : Option TailState :=
  match s.reader with
  | .prefetched kept =>
    some { s with
      reader := .idle
      returned := s.returned ++ kept.map stripList
      cursor := some (s.content.length, now) }
  | .followed pos lines =>
    some { s with reader := .idle, returned := s.returned ++ lines, cursor := some (pos, now) }
  | _ => none

/-- Any number of appends and of calls, one after another, with their steps in any order. -/
def tailing : System TailState TailAction where
  init s := s.reader = .idle ∧ s.returned = [] ∧ s.cursor = none
  next s action :=
    match action with
    | .append text => some { s with content := s.content ++ text }
    | .call lineCount now =>
      match s.reader with
      | .idle => some (beginCall s lineCount now)
      | _ => none
    | .read => readStep s
    | .finish now => finishCall s now

/-! ## What the calls return -/

/-- **Nothing is lost**: the lines returned so far make a piece of the file, which begins at the beginning of a line
and ends at the cursor. -/
def Contiguous (s : TailState) : Prop :=
  ∀ cursor ∈ s.cursor, cursor.1 ≤ s.content.length ∧
    ∃ a ≤ cursor.1, LineStart a s.content ∧ s.returned.flatten = between a cursor.1 s.content

/-- The lines that a first call kept are blank ones, and then the end of the file from the beginning of a line on,
with nothing in these lines to strip. -/
def StripsNothing (content : List Char) (kept : List (List Char)) : Prop :=
  ∃ blank tail, kept = blank ++ tail ∧ (∀ line ∈ blank, stripList line = []) ∧
    (∀ line ∈ tail, stripList line = line) ∧ LineStart (content.length - tail.flatten.length) content

/-- The steps that lose nothing. -/
def Harmless (s : TailState) : TailAction → Prop
  | .append text => ∀ kept, s.reader = .prefetched kept → text = []
  | .call _ _ => True
  | .read =>
    ∀ pos, ((∃ kept limit, s.reader = .prefetching pos kept limit) ∨
      ∃ lines limit, s.reader = .following pos lines limit) →
      '\r' ∉ (s.content.drop pos).take (takeLine (s.content.drop pos)).2
  | .finish _ => ∀ kept, s.reader = .prefetched kept → StripsNothing s.content kept

/-! ## The invariant -/

/-- What a running call has read. -/
def ReaderOk (s : TailState) : Prop :=
  match s.reader with
  | .idle => True
  | .prefetching pos kept _ => s.cursor = none ∧ pos ≤ s.content.length ∧ kept.flatten <:+ s.content.take pos
  | .prefetched kept => s.cursor = none ∧ kept.flatten <:+ s.content
  | .following pos lines _ => ∃ cursor ∈ s.cursor, cursor.1 ≤ pos ∧ pos ≤ s.content.length ∧
      lines.flatten = between cursor.1 pos s.content
  | .followed pos lines => ∃ cursor ∈ s.cursor, cursor.1 ≤ pos ∧ pos ≤ s.content.length ∧
      lines.flatten = between cursor.1 pos s.content

/-- What holds after every step that loses nothing. -/
structure Inv (s : TailState) : Prop where
  contiguous : Contiguous s
  fresh : s.cursor = none → s.returned = []
  reader : ReaderOk s

variable {s : TailState}

/-- The piece that was returned stays a piece of the file when it grows. -/
theorem Contiguous.append (h : Contiguous s) (text : List Char) :
    Contiguous { s with content := s.content ++ text } := by
  intro cursor hcursor
  obtain ⟨hle, a, ha, hstart, hpiece⟩ := h cursor hcursor
  refine ⟨?_, a, ha, hstart.append text, ?_⟩
  · rw [List.length_append]
    exact Nat.le_add_right_of_le hle
  · rw [hpiece, between_append_of_le hle]

/-- The lines of a call with a token are the piece after its cursor, also when the file grows. -/
theorem exists_piece_append {pos : ℕ} {lines : List (List Char)}
    (h : ∃ cursor ∈ s.cursor, cursor.1 ≤ pos ∧ pos ≤ s.content.length ∧ lines.flatten = between cursor.1 pos s.content)
    (text : List Char) : ∃ cursor ∈ s.cursor, cursor.1 ≤ pos ∧ pos ≤ (s.content ++ text).length ∧
      lines.flatten = between cursor.1 pos (s.content ++ text) := by
  obtain ⟨cursor, hcursor, hle, hpos, hlines⟩ := h
  refine ⟨cursor, hcursor, hle, ?_, ?_⟩
  · rw [List.length_append]
    exact Nat.le_add_right_of_le hpos
  · rw [hlines, between_append_of_le hpos]

/-- An append, unless a first call is between its last read and its seek. -/
theorem Inv.append (h : Inv s) {text : List Char} (hg : Harmless s (.append text)) :
    Inv { s with content := s.content ++ text } := by
  refine ⟨h.contiguous.append text, h.fresh, ?_⟩
  have hreader := h.reader
  unfold ReaderOk at hreader ⊢
  cases hs : s.reader with
  | idle => trivial
  | prefetching pos kept limit =>
    rw [hs] at hreader
    obtain ⟨hnone, hpos, hkept⟩ := hreader
    refine ⟨hnone, ?_, ?_⟩
    · rw [List.length_append]
      exact Nat.le_add_right_of_le hpos
    · rw [List.take_append_of_le_length hpos]
      exact hkept
  | prefetched kept =>
    rw [hs] at hreader
    rw [hg kept hs, List.append_nil]
    exact hreader
  | following pos lines limit =>
    rw [hs] at hreader
    exact exists_piece_append hreader text
  | followed pos lines =>
    rw [hs] at hreader
    exact exists_piece_append hreader text

/-- The beginning of a call. -/
theorem Inv.beginCall (h : Inv s) (lineCount : Option ℤ) (now : ℕ) : Inv (beginCall s lineCount now) := by
  unfold FileSystem.beginCall
  split
  · rename_i hnone
    split
    · exact h
    · exact ⟨h.contiguous, h.fresh, hnone, Nat.zero_le _, List.suffix_nil.mpr rfl⟩
  · rename_i offset lastRead hsome
    split
    · exact h
    · have hle := (h.contiguous (offset, lastRead) hsome).1
      exact ⟨h.contiguous, h.fresh, (offset, lastRead), hsome, Nat.le_refl _, hle, (between_self _ _).symm⟩

/-- A line that was read is the piece after the position. -/
theorem readLine_spec {content : List Char} {pos : ℕ} (hpos : pos ≤ content.length)
    (h : '\r' ∉ (content.drop pos).take (takeLine (content.drop pos)).2) :
    (takeLine (content.drop pos)).1 = between pos (pos + (takeLine (content.drop pos)).2) content ∧
      pos + (takeLine (content.drop pos)).2 ≤ content.length := by
  have hle := takeLine_le (content.drop pos)
  rw [List.length_drop] at hle
  exact ⟨(takeLine_eq_take h).trans (take_drop_eq_between _ _ _), by omega⟩

/-- One more line at the end of what was read so far. -/
theorem suffix_of_read {content : List Char} {pos n : ℕ} {lines : List (List Char)} {line : List Char}
    (h : lines.flatten <:+ content.take pos)
    (hline : line = between pos (pos + n) content) : (lines ++ [line]).flatten <:+ content.take (pos + n) := by
  have hnext : content.take (pos + n) = content.take pos ++ line := by
    rw [hline, ← take_drop_eq_between, ← List.take_add]
  rw [hnext, List.flatten_append, List.flatten_singleton]
  exact suffix_append_right h line

variable {s t : TailState}

/-- One read. -/
theorem Inv.readStep (h : Inv s) (hg : Harmless s .read) (hn : readStep s = some t) : Inv t := by
  have hreader := h.reader
  unfold FileSystem.readStep at hn
  unfold ReaderOk at hreader
  split at hn
  · rename_i pos kept limit hs
    rw [hs] at hreader
    obtain ⟨hnone, hpos, hkept⟩ := hreader
    obtain ⟨hline, hle⟩ := readLine_spec hpos (hg pos (.inl ⟨kept, limit, hs⟩))
    dsimp only at hn
    split at hn
    · -- the end of the file: all of it is read
      rename_i hend
      rw [← Option.some.inj hn]
      have hall : s.content.take pos = s.content :=
        List.take_of_length_le (List.drop_eq_nil_iff.mp (takeLine_eq_nil hend))
      rw [hall] at hkept
      exact ⟨h.contiguous, h.fresh, hnone, hkept⟩
    · rw [← Option.some.inj hn]
      have hlast : ((kept ++ [(takeLine (s.content.drop pos)).1]).rtake limit).flatten <:+
          (kept ++ [(takeLine (s.content.drop pos)).1]).flatten := flatten_suffix (List.drop_suffix _ _)
      exact ⟨h.contiguous, h.fresh, hnone, hle, hlast.trans (suffix_of_read hkept hline)⟩
  · rename_i pos lines limit hs
    rw [hs] at hreader
    obtain ⟨cursor, hcursor, hfrom, hpos, hlines⟩ := hreader
    dsimp only at hn
    split at hn
    · rw [← Option.some.inj hn]
      obtain ⟨hline, hle⟩ := readLine_spec hpos (hg pos (.inr ⟨lines, limit, hs⟩))
      refine ⟨h.contiguous, h.fresh, cursor, hcursor, Nat.le_add_right_of_le hfrom, hle, ?_⟩
      rw [List.flatten_append, List.flatten_singleton, hlines, hline]
      exact between_append hfrom (Nat.le_add_right _ _) hle
    · rw [← Option.some.inj hn]
      exact ⟨h.contiguous, h.fresh, cursor, hcursor, hfrom, hpos, hlines⟩
  · cases hn

/-- What is left of blank lines, and of lines with nothing to strip. -/
theorem flatten_map_stripList {blank tail : List (List Char)} (hblank : ∀ line ∈ blank, stripList line = [])
    (htail : ∀ line ∈ tail, stripList line = line) : ((blank ++ tail).map stripList).flatten = tail.flatten := by
  have hfront : (blank.map stripList).flatten = [] := List.flatten_eq_nil_iff.mpr fun line hline => by
    obtain ⟨line', hline', rfl⟩ := List.mem_map.mp hline
    exact hblank line' hline'
  have hsame : tail.map stripList = tail := by rw [List.map_congr_left htail, List.map_id']
  rw [List.map_append, List.flatten_append, hfront, hsame, List.nil_append]

/-- The end of a call. -/
theorem Inv.finishCall (h : Inv s) {now : ℕ} (hg : Harmless s (.finish now))
    (hn : finishCall s now = some t) : Inv t := by
  have hreader := h.reader
  unfold FileSystem.finishCall at hn
  unfold ReaderOk at hreader
  split at hn
  · rename_i kept hs
    rw [hs] at hreader
    obtain ⟨hnone, hkept⟩ := hreader
    obtain ⟨blank, tail, hsplit, hblank, htail, hstart⟩ := hg kept hs
    have hend : tail.flatten <:+ s.content := by
      rw [hsplit] at hkept
      exact (flatten_suffix (List.suffix_append blank tail)).trans hkept
    rw [← Option.some.inj hn]
    refine ⟨?_, nofun, trivial⟩
    rintro cursor hcursor
    cases hcursor
    refine ⟨Nat.le_refl _, _, Nat.sub_le _ tail.flatten.length, hstart, ?_⟩
    rw [h.fresh hnone, List.nil_append, hsplit, flatten_map_stripList hblank htail, between_of_suffix hend]
  · rename_i pos lines hs
    rw [hs] at hreader
    obtain ⟨cursor, hcursor, hfrom, hpos, hlines⟩ := hreader
    obtain ⟨-, a, ha, hstart, hpiece⟩ := h.contiguous cursor hcursor
    rw [← Option.some.inj hn]
    refine ⟨?_, nofun, trivial⟩
    rintro cursor' hcursor'
    cases hcursor'
    refine ⟨hpos, a, Nat.le_trans ha hfrom, hstart, ?_⟩
    rw [List.flatten_append, hpiece, hlines]
    exact between_append ha hfrom hpos
  · cases hn

/-- **Every step that loses nothing keeps the invariant.** -/
theorem Inv.next {action : TailAction} (h : Inv s) (hg : Harmless s action)
    (hn : tailing.next s action = some t) : Inv t := by
  cases action with
  | append text =>
    rw [← Option.some.inj hn]
    exact h.append hg
  | call lineCount now =>
    unfold tailing at hn
    dsimp only at hn
    split at hn
    · rw [← Option.some.inj hn]
      exact h.beginCall lineCount now
    · cases hn
  | read => exact h.readStep hg hn
  | finish now => exact h.finishCall hg hn

theorem inv_init (h : tailing.init s) : Inv s := by
  obtain ⟨hidle, hnone, hcursor⟩ := h
  refine ⟨fun cursor hsome => ?_, fun _ => hnone, ?_⟩
  · rw [hcursor] at hsome
    cases hsome
  · unfold ReaderOk
    rw [hidle]
    trivial

/-- **Tailing loses nothing** in the runs whose steps lose nothing: in every state of such a run, the lines returned
so far are a piece of the file, from the beginning of a line up to the last cursor. -/
theorem tailed_contiguous {s : TailState} (h : tailing.Reach Harmless s) : Contiguous s :=
  (h.invariant (fun _ => inv_init) fun _ _ _ hinv hg hn => hinv.next hg hn).contiguous

/-! ## Two runs -/

/-- An empty file that nobody has read yet. -/
def emptyFile : TailState := ⟨[], .idle, [], none⟩

/-- A first call on the empty file, an append, and a call with the token. -/
def followedRun : List TailAction :=
  [.call none 0, .read, .finish 0, .append ['a', '\n'], .call none 5000, .read, .read, .finish 5000]

/-- What the two calls have returned: the line that was appended in between. -/
def afterFollowing : TailState := ⟨['a', '\n'], .idle, [['a', '\n']], some (2, 5000)⟩

theorem exec_followedRun : tailing.exec emptyFile followedRun = some afterFollowing := rfl

theorem meets_followedRun : tailing.Meets Harmless emptyFile followedRun := by
  refine ⟨trivial, fun t ht => ?_⟩
  cases ht
  refine ⟨?_, fun t ht => ?_⟩
  · rintro pos -
    have hnothing : (beginCall emptyFile none 0).content.drop pos = [] := List.drop_nil
    rw [hnothing]
    exact List.not_mem_nil
  cases ht
  refine ⟨?_, fun t ht => ?_⟩
  · rintro kept hkept
    cases hkept
    exact ⟨[], [], rfl, nofun, nofun, .inl rfl⟩
  cases ht
  refine ⟨nofun, fun t ht => ?_⟩
  cases ht
  refine ⟨trivial, fun t ht => ?_⟩
  cases ht
  refine ⟨?_, fun t ht => ?_⟩
  · rintro pos (⟨kept, limit, hs⟩ | ⟨lines, limit, hs⟩)
    · cases hs
    · cases hs
      decide
  cases ht
  refine ⟨?_, fun t ht => ?_⟩
  · rintro pos (⟨kept, limit, hs⟩ | ⟨lines, limit, hs⟩)
    · cases hs
    · cases hs
      decide
  cases ht
  refine ⟨nofun, fun t ht => ?_⟩
  cases ht
  trivial

/-- The appended line is returned once, and as it is. -/
theorem tailed_contiguous_followedRun : Contiguous afterFollowing :=
  tailed_contiguous (System.Reach.of_exec (.init ⟨rfl, rfl, rfl⟩) meets_followedRun exec_followedRun)

/-- A file of one line. -/
def oneLine : TailState := ⟨['a', '\n'], .idle, [], none⟩

/-- A first call on a file of one line returns the line without its end, which is no piece of the file up to the
cursor. -/
theorem not_contiguous_oneLine : ∃ s, tailing.exec oneLine [.call none 0, .read, .read, .finish 0] = some s ∧
    tailing.init oneLine ∧ ¬ Contiguous s := by
  refine ⟨⟨['a', '\n'], .idle, [['a']], some (2, 0)⟩, rfl, ⟨rfl, rfl, rfl⟩, fun h => ?_⟩
  obtain ⟨-, a, ha, -, hpiece⟩ := h (2, 0) rfl
  have hcases : a = 0 ∨ a = 1 ∨ a = 2 := by
    dsimp only at ha
    omega
  rcases hcases with rfl | rfl | rfl
  all_goals cases hpiece

end ContainRes.FileSystem
