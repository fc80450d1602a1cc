import Mathlib.Data.List.DropRight
import Mathlib.Logic.Function.Basic
import ProductionOptimizer.Library.EditScript
import ProductionOptimizer.Library.LineCut

/-!
# The text of a patch

`_build_unified_diff` of S03.80 with the way its text goes: into the sealed `PatchArtifact`,
which strips it, back out of it, through the last newline S06.90 adds, and into an applier that
reads it line by line. The edit script itself is a parameter.
-/

namespace ProductionOptimizer.PatchText
open EditScript LineCut
set_option autoImplicit false

abbrev Text := List Char
abbrev Line := Text

/-- The text of every file, `none` where there is no file. -/
abbrev Tree := Text → Option Text

/-! ### Reading -/

/-- What text mode makes of the line ends of a file. -/
def universalNewlines : Text → Text
  | [] => []
  | '\r' :: '\n' :: text => '\n' :: universalNewlines text
  | c :: text => (if c = '\r' then '\n' else c) :: universalNewlines text

/-- What `core.autocrlf` makes of them. -/
def autocrlf : Text → Text
  | [] => []
  | '\r' :: '\n' :: text => '\n' :: autocrlf text
  | c :: text => c :: autocrlf text

/-- Where `str.splitlines` cuts. -/
def isLineBreak (c : Char) : Bool :=
  (10 ≤ c.toNat && c.toNat ≤ 13) || (28 ≤ c.toNat && c.toNat ≤ 30) ||
    c.toNat == 0x85 || c.toNat == 0x2028 || c.toNat == 0x2029

def isNewline (c : Char) : Bool := c == '\n'

/-- `read_text().splitlines(keepends=True)`, of a file that may be missing. -/
def readLines (tree : Tree) (rel : Text) : List Line :=
  match tree rel with
  | none => []
  | some text => cut isLineBreak (universalNewlines text)

/-- The lines an applier sees, which end at newlines only. -/
def treeLines (tree : Tree) (rel : Text) : List Line :=
  match tree rel with
  | none => []
  | some text => cut isNewline (autocrlf text)

/-! ### Writing -/

/-- `difflib`: for any two lists of lines a script that turns the one into the other. -/
structure Differ where
  script : List Line → List Line → List (Hunk Line)
  correct : ∀ old new, patch (script old new) old = some new

def mark : Tag → Char
  | .keep => ' '
  | .delete => '-'
  | .insert => '+'

/-- `_format_range_unified`. -/
def formatRange (start length : Nat) : Text :=
  if length = 1 then Nat.toDigits 10 (start + 1)
  else Nat.toDigits 10 (if length = 0 then start else start + 1) ++ ',' :: Nat.toDigits 10 length

def hunkLine (hunk : Hunk Line) : Line :=
  ['@', '@', ' ', '-'] ++ (formatRange hunk.oldStart (oldCount hunk.body) ++
    ([' ', '+'] ++ (formatRange hunk.newStart (newCount hunk.body) ++ [' ', '@', '@', '\n'])))

def entryLine (entry : Tag × Line) : Line := mark entry.1 :: entry.2

def renderHunk (hunk : Hunk Line) : List Line := hunkLine hunk :: hunk.body.map entryLine

def oldMark : Text := ['-', '-', '-', ' ', 'a', '/']

def newMark : Text := ['+', '+', '+', ' ', 'b', '/']

/-- `unified_diff`: without hunks there are no file lines either. -/
def unifiedDiff (rel : Text) (hunks : List (Hunk Line)) : List Line :=
  if hunks.isEmpty then []
  else (oldMark ++ (rel ++ ['\n'])) :: (newMark ++ (rel ++ ['\n'])) :: hunks.flatMap renderHunk

def fileHunks (differ : Differ) (source workspace : Tree) (rel : Text) : List (Hunk Line) :=
  differ.script (readLines source rel) (readLines workspace rel)

def diffLines (differ : Differ) (source workspace : Tree) (changed : List Text) : List Line :=
  changed.flatMap fun rel => unifiedDiff rel (fileHunks differ source workspace rel)

/-- `_build_unified_diff`. -/
def buildUnifiedDiff (differ : Differ) (source workspace : Tree) (changed : List Text) : Text :=
  (diffLines differ source workspace changed).flatten

/-! ### The sealed text -/

/-- What `str_strip_whitespace` takes off both ends. -/
def isWhitespace (c : Char) : Bool :=
  (9 ≤ c.toNat && c.toNat ≤ 13) || c.toNat == 0x20 || c.toNat == 0x85 || c.toNat == 0xA0 ||
    c.toNat == 0x1680 || (0x2000 ≤ c.toNat && c.toNat ≤ 0x200A) || c.toNat == 0x2028 ||
    c.toNat == 0x2029 || c.toNat == 0x202F || c.toNat == 0x205F || c.toNat == 0x3000

def stripWhitespace (text : Text) : Text :=
  (text.dropWhile isWhitespace).rdropWhile isWhitespace

def noDiff : Text := "(no textual diff -- no files changed)".toList

/-- `diff` of the `PatchArtifact` S03.80 seals. -/
def sealedDiff (diff : Text) : Text := stripWhitespace (if diff.isEmpty then noDiff else diff)

/-- The model is validated again when the artifact is read. -/
def readBack (stored : Text) : Text := stripWhitespace stored

/-- The patch file S06.90 writes. -/
def patchFile (diff : Text) : Text :=
  if diff.getLast? = some '\n' then diff else diff ++ ['\n']

def patchText (differ : Differ) (source workspace : Tree) (changed : List Text) : Text :=
  patchFile (readBack (sealedDiff (buildUnifiedDiff differ source workspace changed)))

/-! ### Applying -/

/-- What follows `mark` in a text that begins with it. -/
def after : Text → Text → Option Text
  | [], text => some text
  | _ :: _, [] => none
  | m :: marks, c :: text => if m = c then after marks text else none

/-- A file name ends at the tab before a date, or with its line. -/
def nameOf (text : Text) : Text := text.takeWhile fun c => c != '\n' && c != '\t'

def number (text : Text) : Option (Nat × Text) :=
  if (text.takeWhile Char.isDigit).isEmpty then none
  else some (Nat.ofDigitChars 10 (text.takeWhile Char.isDigit) 0, text.dropWhile Char.isDigit)

/-- A first line with a length, which is 1 when it is not given. -/
def range (text : Text) : Option (Nat × Nat × Text) := do
  let (first, text) ← number text
  match text with
  | ',' :: text =>
    let (length, text) ← number text
    pure (first, length, text)
  | text => pure (first, 1, text)

/-- Lines count from one, and an empty range names the line before it. -/
def startOf (first length : Nat) : Option Nat :=
  if length = 0 then some first else if first = 0 then none else some (first - 1)

/-- Where a hunk begins, and how many lines it reads and writes. -/
def hunkHead (line : Line) : Option (Nat × Nat × Nat) := do
  let text ← after ['@', '@', ' ', '-'] line
  let (first, old, text) ← range text
  let text ← after [' ', '+'] text
  let (_, new, text) ← range text
  let _ ← after [' ', '@', '@'] text
  let start ← startOf first old
  pure (start, old, new)

/-- What the applier expects next: the first file, the second line of a file's head, a hunk or
another file, or the rest of a hunk. -/
inductive Mode where
  | idle
  | target (rel : Text)
  | ready (rel : Text) (cursor : Cursor Line)
  | inside (rel : Text) (cursor : Cursor Line) (old new : Nat)

structure Applier where
  tree : Text → List Line
  mode : Mode := .idle

def settle (rel : Text) (cursor : Cursor Line) (old new : Nat) : Mode :=
  if old = 0 ∧ new = 0 then .ready rel cursor else .inside rel cursor old new

/-- The tree with the open file written back. -/
def Applier.closed (s : Applier) : Text → List Line :=
  match s.mode with
  | .ready rel cursor | .inside rel cursor _ _ => Function.update s.tree rel cursor.result
  | _ => s.tree

def openFile (tree : Text → List Line) (line : Line) : Option Applier :=
  (after oldMark line).map fun text => ⟨tree, .target (nameOf text)⟩

/-- The counts left after an entry; a hunk has no more entries than its head says. -/
def countDown : Tag → Nat → Nat → Option (Nat × Nat)
  | .keep, old + 1, new + 1 => some (old, new)
  | .delete, old + 1, new => some (old, new)
  | .insert, old, new + 1 => some (old, new)
  | _, _, _ => none

def tagOf (c : Char) : Option Tag :=
  if c = ' ' then some .keep else if c = '-' then some .delete
  else if c = '+' then some .insert else none

/-- One line of the patch. -/
def Applier.feed (s : Applier) (line : Line) : Option Applier :=
  match s.mode with
  | .idle => openFile s.tree line
  | .target rel => do
    let text ← after newMark line
    if nameOf text = rel then some { s with mode := .ready rel { rest := s.tree rel } } else none
  | .ready rel cursor =>
    match hunkHead line with
    | some (start, old, new) => do
      let cursor ← cursor.seek start
      pure { s with mode := settle rel cursor old new }
    | none => openFile s.closed line
  | .inside rel cursor old new =>
    match line with
    | [] => none
    | c :: text => do
      let tag ← tagOf c
      let (old, new) ← countDown tag old new
      let cursor ← cursor.edit (tag, text)
      pure { s with mode := settle rel cursor old new }

/-- A patch may only end after a whole hunk. -/
def Applier.finish (s : Applier) : Option (Text → List Line) :=
  match s.mode with
  | .ready _ _ => some s.closed
  | _ => none

def applyPatch (text : Text) (tree : Text → List Line) : Option (Text → List Line) :=
  ((cut isNewline text).foldlM Applier.feed ⟨tree, .idle⟩).bind Applier.finish

/-! ### Reading the lines of a head back -/

@[simp] theorem after_append (marks text : Text) : after marks (marks ++ text) = some text := by
  induction marks with
  | nil => rfl
  | cons m marks ih => simpa [after] using ih

theorem isDigit_toDigits (n : Nat) : ∀ c ∈ Nat.toDigits 10 n, c.isDigit = true := by
  intro c hc
  exact Nat.isDigit_of_mem_toDigits (Nat.zero_lt_succ 9) (Nat.le_refl 10) hc

theorem number_toDigits {n : Nat} {c : Char} {rest : Text} (hc : c.isDigit = false) :
    number (Nat.toDigits 10 n ++ c :: rest) = some (n, c :: rest) := by
  have htake : (Nat.toDigits 10 n ++ c :: rest).takeWhile Char.isDigit = Nat.toDigits 10 n := by
    rw [List.takeWhile_append_of_pos (isDigit_toDigits n)]
    simp [hc]
  have hdrop : (Nat.toDigits 10 n ++ c :: rest).dropWhile Char.isDigit = c :: rest := by
    rw [List.dropWhile_append_of_pos (isDigit_toDigits n)]
    simp [hc]
  have hne : (Nat.toDigits 10 n).isEmpty = false := by
    simp [Nat.toDigits_ne_nil]
  simp [number, htake, hdrop, hne]

theorem range_formatRange (start length : Nat) (rest : Text) :
    ∃ first, range (formatRange start length ++ ' ' :: rest) = some (first, length, ' ' :: rest) ∧
      startOf first length = some start := by
  by_cases hone : length = 1
  · subst hone
    refine ⟨start + 1, ?_, rfl⟩
    simp [range, formatRange, number_toDigits]
  · refine ⟨if length = 0 then start else start + 1, ?_, ?_⟩
    · have hcomma : (',').isDigit = false := rfl
      have hspace : (' ').isDigit = false := rfl
      simp only [formatRange, if_neg hone, List.append_assoc, List.cons_append, range,
        number_toDigits hcomma, number_toDigits hspace, Option.bind_eq_bind, Option.bind_some]
      rfl
    · unfold startOf
      split
      · rfl
      · simp

theorem hunkHead_hunkLine (hunk : Hunk Line) :
    hunkHead (hunkLine hunk) =
      some (hunk.oldStart, oldCount hunk.body, newCount hunk.body) := by
  obtain ⟨first, hold, hstart⟩ := range_formatRange hunk.oldStart (oldCount hunk.body)
    ('+' :: (formatRange hunk.newStart (newCount hunk.body) ++ [' ', '@', '@', '\n']))
  obtain ⟨first', hnew, -⟩ := range_formatRange hunk.newStart (newCount hunk.body)
    ['@', '@', '\n']
  have hclose : after [' ', '@', '@'] [' ', '@', '@', '\n'] = some ['\n'] := rfl
  unfold hunkHead hunkLine
  rw [after_append]
  simp only [List.cons_append, List.nil_append, Option.bind_eq_bind, Option.bind_some] at hold ⊢
  rw [hold]
  simp only [Option.bind_some]
  have hplus : after [' ', '+']
      (' ' :: '+' :: (formatRange hunk.newStart (newCount hunk.body) ++ [' ', '@', '@', '\n'])) =
      some (formatRange hunk.newStart (newCount hunk.body) ++ [' ', '@', '@', '\n']) := rfl
  rw [hplus, Option.bind_some, hnew]
  simp [hclose, hstart]

theorem nameOf_line {rel : Text} (hnewline : '\n' ∉ rel) (htab : '\t' ∉ rel) :
    nameOf (rel ++ ['\n']) = rel := by
  have hname : ∀ c ∈ rel, (c != '\n' && c != '\t') = true := by
    intro c hc
    have h1 : c ≠ '\n' := fun h => hnewline (h ▸ hc)
    have h2 : c ≠ '\t' := fun h => htab (h ▸ hc)
    simp [h1, h2]
  unfold nameOf
  rw [List.takeWhile_append_of_pos hname]
  simp

/-! ### What one line does -/

section Steps
variable {tree : Text → List Line} {rel : Text} {c : Cursor Line}

theorem feed_append {s s' : Applier} {lines : List Line}
    (h : lines.foldlM Applier.feed s = some s') (lines' : List Line) :
    (lines ++ lines').foldlM Applier.feed s = lines'.foldlM Applier.feed s' := by
  rw [List.foldlM_append, h]
  rfl

/-- The applier inside `rel` with the entries `post` of a hunk before it. -/
def within (tree : Text → List Line) (rel : Text) (c : Cursor Line) (post : List (Tag × Line)) :
    Applier :=
  ⟨tree, settle rel c (oldCount post) (newCount post)⟩

theorem tagOf_mark (tag : Tag) : tagOf (mark tag) = some tag := by
  cases tag <;> rfl

theorem countDown_cons (entry : Tag × Line) (post : List (Tag × Line)) :
    countDown entry.1 (oldCount (entry :: post)) (newCount (entry :: post)) =
      some (oldCount post, newCount post) := by
  obtain ⟨tag, text⟩ := entry
  cases tag <;> simp [oldCount, newCount, countDown]

theorem within_cons (entry : Tag × Line) (post : List (Tag × Line)) :
    within tree rel c (entry :: post) =
      ⟨tree, .inside rel c (oldCount (entry :: post)) (newCount (entry :: post))⟩ := by
  obtain ⟨tag, text⟩ := entry
  unfold within settle
  rw [if_neg]
  cases tag <;> simp [oldCount, newCount]

/-- A line with the mark of the entry that comes next edits the file. -/
theorem feed_within (tag : Tag) (text text' : Line) (post : List (Tag × Line)) :
    (within tree rel c ((tag, text) :: post)).feed (mark tag :: text') =
      (c.edit (tag, text')).map fun c' => within tree rel c' post := by
  rw [within_cons]
  have hcount := countDown_cons (tag, text) post
  simp only [Applier.feed, tagOf_mark, hcount, Option.bind_eq_bind, Option.bind_some]
  cases c.edit (tag, text') <;> rfl

theorem feed_entries (entries post : List (Tag × Line)) :
    (entries.map entryLine).foldlM Applier.feed (within tree rel c (entries ++ post)) =
      (entries.foldlM Cursor.edit c).map fun c' => within tree rel c' post := by
  induction entries generalizing c with
  | nil => rfl
  | cons entry entries ih =>
    obtain ⟨tag, text⟩ := entry
    rw [List.map_cons, List.foldlM_cons, List.foldlM_cons, List.cons_append, entryLine,
      feed_within]
    cases hedit : c.edit (tag, text) with
    | none => rfl
    | some c' => exact ih

theorem feed_hunkLine (hunk : Hunk Line) :
    (⟨tree, .ready rel c⟩ : Applier).feed (hunkLine hunk) =
      (c.seek hunk.oldStart).map fun c' => within tree rel c' hunk.body := by
  simp only [Applier.feed, hunkHead_hunkLine, Option.bind_eq_bind]
  cases c.seek hunk.oldStart <;> rfl

theorem feed_hunk (hunk : Hunk Line) :
    (renderHunk hunk).foldlM Applier.feed ⟨tree, .ready rel c⟩ =
      (c.applyHunk hunk).map fun c' => ⟨tree, .ready rel c'⟩ := by
  rw [renderHunk, List.foldlM_cons, feed_hunkLine, Cursor.applyHunk]
  cases hseek : c.seek hunk.oldStart with
  | none => rfl
  | some c' =>
    have hbody := @feed_entries tree rel c' hunk.body []
    rw [List.append_nil] at hbody
    exact hbody

theorem feed_hunks (hunks : List (Hunk Line)) :
    (hunks.flatMap renderHunk).foldlM Applier.feed ⟨tree, .ready rel c⟩ =
      (hunks.foldlM Cursor.applyHunk c).map fun c' => ⟨tree, .ready rel c'⟩ := by
  induction hunks generalizing c with
  | nil => rfl
  | cons hunk hunks ih =>
    rw [List.flatMap_cons, List.foldlM_append, feed_hunk, List.foldlM_cons]
    cases happly : c.applyHunk hunk with
    | none => rfl
    | some c' => exact ih

/-- Between two files. -/
def Applier.Resting (s : Applier) : Prop := s.mode = .idle ∨ ∃ rel c, s.mode = .ready rel c

theorem hunkHead_oldMark (text : Text) : hunkHead (oldMark ++ text) = none := rfl

theorem feed_files {s : Applier} (hs : s.Resting) {rel : Text} (hnewline : '\n' ∉ rel)
    (htab : '\t' ∉ rel) :
    [oldMark ++ (rel ++ ['\n']), newMark ++ (rel ++ ['\n'])].foldlM Applier.feed s =
      some ⟨s.closed, .ready rel { rest := s.closed rel }⟩ := by
  have hopen : s.feed (oldMark ++ (rel ++ ['\n'])) = some ⟨s.closed, .target rel⟩ := by
    obtain hidle | ⟨rel', c, hready⟩ := hs
    · simp [Applier.feed, hidle, openFile, nameOf_line hnewline htab, Applier.closed]
    · simp [Applier.feed, hready, openFile, hunkHead_oldMark, nameOf_line hnewline htab]
  rw [List.foldlM_cons, hopen]
  simp [Applier.feed, nameOf_line hnewline htab]

end Steps

/-! ### What the lines of all files do -/

section Files
variable {s : Applier} {rel : Text} {hunks : Text → List (Hunk Line)} {new : Text → List Line}
  {changed : List Text}

/-- A name that one line of the patch can hold. -/
def Plain (rel : Text) : Prop := '\n' ∉ rel ∧ '\t' ∉ rel

instance (rel : Text) : Decidable (Plain rel) := inferInstanceAs (Decidable (_ ∧ _))

theorem feed_unifiedDiff (hs : s.Resting) (hplain : Plain rel) {hunks : List (Hunk Line)}
    (hne : hunks ≠ []) :
    (unifiedDiff rel hunks).foldlM Applier.feed s =
      (hunks.foldlM Cursor.applyHunk { rest := s.closed rel }).map fun c =>
        ⟨s.closed, .ready rel c⟩ := by
  have hheads := feed_files hs hplain.1 hplain.2
  have hlines : unifiedDiff rel hunks =
      [oldMark ++ (rel ++ ['\n']), newMark ++ (rel ++ ['\n'])] ++ hunks.flatMap renderHunk := by
    simp [unifiedDiff, hne]
  rw [hlines, feed_append hheads]
  exact feed_hunks hunks

/-- The section of one file writes that file and no other. -/
theorem feed_section (hs : s.Resting) {hunks : List (Hunk Line)}
    (hplain : hunks ≠ [] → Plain rel) {new : List Line}
    (hpatch : patch hunks (s.closed rel) = some new) :
    ∃ s', (unifiedDiff rel hunks).foldlM Applier.feed s = some s' ∧ s'.Resting ∧
      s'.closed = Function.update s.closed rel new ∧
      (s.mode ≠ .idle ∨ hunks ≠ [] → s'.mode ≠ .idle) := by
  by_cases hne : hunks = []
  · subst hne
    have hnew : s.closed rel = new := Option.some.inj hpatch
    refine ⟨s, rfl, hs, ?_, ?_⟩
    · rw [← hnew, Function.update_eq_self]
    · intro h
      exact h.resolve_right fun h' => h' rfl
  · obtain ⟨c, hrun, hresult⟩ := Option.map_eq_some_iff.mp hpatch
    refine ⟨⟨s.closed, .ready rel c⟩, ?_, .inr ⟨rel, c, rfl⟩, ?_, ?_⟩
    · rw [feed_unifiedDiff hs (hplain hne) hne, hrun, Option.map_some]
    · rw [← hresult]
      rfl
    · intro _ hidle
      cases hidle

/-- The sections of distinct files write each of them once. -/
theorem feed_sections (hs : s.Resting) (hnodup : changed.Nodup)
    (hplain : ∀ rel ∈ changed, hunks rel ≠ [] → Plain rel)
    (hpatch : ∀ rel ∈ changed, patch (hunks rel) (s.closed rel) = some (new rel)) :
    ∃ s', (changed.flatMap fun rel => unifiedDiff rel (hunks rel)).foldlM Applier.feed s =
        some s' ∧ s'.Resting ∧ (∀ rel ∈ changed, s'.closed rel = new rel) ∧
      (∀ rel, rel ∉ changed → s'.closed rel = s.closed rel) ∧
      (s.mode ≠ .idle ∨ (∃ rel ∈ changed, hunks rel ≠ []) → s'.mode ≠ .idle) := by
  induction changed generalizing s with
  | nil =>
    refine ⟨s, rfl, hs, by simp, fun _ _ => rfl, ?_⟩
    intro h
    exact h.resolve_right (by simp)
  | cons rel changed ih =>
    obtain ⟨hrel, hnodup⟩ := List.nodup_cons.mp hnodup
    obtain ⟨s₁, hfirst, hrest, hclosed, hmode⟩ := feed_section hs (hplain rel List.mem_cons_self)
      (hpatch rel List.mem_cons_self)
    -- The other files are still as they were, so their scripts still fit.
    have hothers : ∀ rel' ∈ changed, patch (hunks rel') (s₁.closed rel') = some (new rel') := by
      intro rel' hmem
      have hne : rel' ≠ rel := fun h => hrel (h ▸ hmem)
      rw [hclosed, Function.update_of_ne hne]
      exact hpatch rel' (List.mem_cons_of_mem _ hmem)
    obtain ⟨s', hrun, hrest', hnew, hold, hmode'⟩ := ih hrest hnodup
      (fun r hr => hplain r (List.mem_cons_of_mem _ hr)) hothers
    refine ⟨s', ?_, hrest', ?_, ?_, ?_⟩
    · rw [List.flatMap_cons, feed_append hfirst]
      exact hrun
    · intro r hr
      rcases List.mem_cons.mp hr with rfl | hr
      · rw [hold r hrel, hclosed, Function.update_self]
      · exact hnew r hr
    · intro r hr
      obtain ⟨hne, hr⟩ := not_or.mp (List.mem_cons.not.mp hr)
      rw [hold r hr, hclosed, Function.update_of_ne hne]
    · intro h
      apply hmode'
      rcases h with h | ⟨r, hr, hne⟩
      · exact .inl (hmode (.inl h))
      · rcases List.mem_cons.mp hr with rfl | hr
        · exact .inl (hmode (.inr hne))
        · exact .inr ⟨r, hr, hne⟩

theorem finish_of_resting (hs : s.Resting) (hmode : s.mode ≠ .idle) :
    s.finish = some s.closed := by
  obtain hidle | ⟨rel, c, hready⟩ := hs
  · exact absurd hidle hmode
  · simp [Applier.finish, hready]

end Files

end ProductionOptimizer.PatchText
