import Mathlib.Data.List.Sort
import Mathlib.Data.String.Basic
import ProductionOptimizer.Library.Runs
import ProductionOptimizer.Library.TransactionLog
import ProductionOptimizer.S3ArtifactStore

/-!
# Schema migrations

`apply_migrations` runs the scripts of a directory in the order of their names and records
each by its number. It takes the wrapper off a script so that script and record commit
together; the wrapper is looked for on the first and the last line.
-/

namespace ProductionOptimizer.Migrations
open Runs TransactionLog
set_option autoImplicit false

/-! ### Files -/

inductive LineEffect where
  | nothing
  | begin_
  | commit
  | change
  deriving DecidableEq, Repr

/-- `str.strip`. -/
def strip (text : List Char) : List Char := (text.dropWhile S3.isSpace).rdropWhile S3.isSpace

/-- `str.upper` as far as the two words can tell: only one letter outside the alphabet has one
of their letters as its upper case. -/
def upper (c : Char) : Char := if c = 'ı' then 'I' else c.toUpper

def isKeyword (word : String) (text : List Char) : Bool :=
  ((strip text).rdropWhile (· == ';')).map upper == word.toList

/-- A line of a script and what the server does when it has read it. A statement over several
lines is done at its last one, so no line that is empty or a bare keyword is a change. -/
structure ScriptLine where
  text : List Char
  effect : LineEffect
  bare : text = [] ∨ isKeyword "BEGIN" text = true ∨ isKeyword "COMMIT" text = true →
    effect ≠ .change
  deriving DecidableEq

structure MigrationFile where
  name : String
  content : List ScriptLine
  deriving DecidableEq

/-- `migration_version`; none where it raises. -/
def migrationVersion (name : String) : Option Nat :=
  let digits := name.toList.takeWhile Char.isDigit
  match digits, name.toList.drop digits.length with
  | _ :: _, '_' :: _ => some (digits.foldl (fun n c => 10 * n + (c.toNat - '0'.toNat)) 0)
  | _, _ => none

def removeBegin : List ScriptLine → List ScriptLine
  | [] => []
  | first :: rest => if isKeyword "BEGIN" first.text then rest else first :: rest

def removeCommit (lines : List ScriptLine) : List ScriptLine :=
  match lines.getLast? with
  | none => lines
  | some last => if isKeyword "COMMIT" last.text then lines.dropLast else lines

def stripTransactionWrapper (script : List ScriptLine) : List ScriptLine :=
  removeCommit <| removeBegin <|
    (script.dropWhile (·.text.isEmpty)).rdropWhile (·.text.isEmpty)

/-- `sorted` by name. -/
def applyOrder (dir : List MigrationFile) : List MigrationFile :=
  dir.insertionSort fun a b => a.name ≤ b.name

/-! ### The process -/

inductive Event (D : Type) where
  | change (version : Nat) (text : List Char)
  | row (version : Nat) (checksum : D)
  deriving DecidableEq

/-- Where the process is. `next` is before the lookup of a version, `script` inside the
script, and the row and the commit follow. -/
inductive Pc where
  | idle
  | next (todo : List MigrationFile)
  | script (version : Nat) (file : MigrationFile) (lines : List ScriptLine)
      (todo : List MigrationFile)
  | insert (version : Nat) (file : MigrationFile) (todo : List MigrationFile)
  | commit (version : Nat) (file : MigrationFile) (todo : List MigrationFile)
  | raised
  | finished
  deriving DecidableEq

structure Config (D : Type) where
  pc : Pc
  db : Log (Event D)
  deriving DecidableEq

section Process
variable {D : Type} [DecidableEq D] (sha256 : List ScriptLine → D) (dir : List MigrationFile)

def rowChecksum (version : Nat) : Event D → Option D
  | .row v checksum => if v = version then some checksum else none
  | .change _ _ => none

/-- The `SELECT`, which sees its own transaction. -/
def recorded (db : Log (Event D)) (version : Nat) : Option D :=
  (db.committed.flatten ++ db.pending).findSome? (rowChecksum version)

def execute (version : Nat) (line : ScriptLine) (db : Log (Event D)) : Log (Event D) :=
  match line.effect with
  | .nothing => db
  | .begin_ => db.begin_
  | .commit => db.commit
  | .change => db.write (.change version line.text)

/-- The next statement of `apply_migrations`. A process that is not running is started: its
bootstrap commits and leaves no event. -/
def proceed (c : Config D) : Config D :=
  match c.pc with
  | .idle | .raised | .finished => ⟨.next (applyOrder dir), c.db.lose⟩
  | .next [] => ⟨.finished, c.db.commit⟩
  | .next (file :: todo) =>
    match migrationVersion file.name with
    | none => ⟨.raised, c.db.lose⟩
    | some version =>
      match recorded c.db version with
      | some checksum =>
        if checksum = sha256 file.content then ⟨.next todo, c.db.begin_⟩
        else ⟨.raised, c.db.lose⟩
      | none => ⟨.script version file (stripTransactionWrapper file.content) todo, c.db.begin_⟩
  | .script version file (line :: lines) todo =>
    ⟨.script version file lines todo, execute version line c.db⟩
  | .script version file [] todo => ⟨.insert version file todo, c.db.endQuery⟩
  | .insert version file todo =>
    ⟨.commit version file todo, c.db.begin_.write (.row version (sha256 file.content))⟩
  | .commit _ _ todo => ⟨.next todo, c.db.commit⟩

inductive Move where
  | statement
  | crash
  deriving DecidableEq, Repr

/-- The process goes on, or it dies and the server rolls its transaction back. -/
def advance (c : Config D) : Move → Config D
  | .statement => proceed sha256 dir c
  | .crash => ⟨.idle, c.db.lose⟩

def Step (c : Config D) (m : Move) (c' : Config D) : Prop := c' = advance sha256 dir c m

end Process

/-! ### What a history of runs owes -/

def version (file : MigrationFile) : Nat := (migrationVersion file.name).getD 0

def changeOf {D : Type} (version : Nat) (line : ScriptLine) : Option (Event D) :=
  if line.effect = .change then some (.change version line.text) else none

/-- The effect of a script. -/
def changes {D : Type} (version : Nat) (lines : List ScriptLine) : List (Event D) :=
  lines.filterMap (changeOf version)

/-- A script's whole effect together with its row. -/
def transactionOf {D : Type} (sha256 : List ScriptLine → D) (file : MigrationFile) :
    List (Event D) :=
  changes (version file) file.content ++ [.row (version file) (sha256 file.content)]

section Soundness
variable {D : Type} [DecidableEq D] (sha256 : List ScriptLine → D) (dir : List MigrationFile)

/-- Every transaction that committed is one script of the directory with its row, none comes
twice, and they come in the order of the numbers; after a completed run all are there. -/
structure Sound (c : Config D) : Prop where
  history : ∃ applied : List MigrationFile, (∀ file ∈ applied, file ∈ dir) ∧
    (applied.map version).Pairwise (· < ·) ∧
    c.db.committed = applied.map (transactionOf sha256)
  complete : c.pc = .finished → ∀ file ∈ dir,
    recorded c.db (version file) = some (sha256 file.content)

def Pc.runs (pc : Pc) (file : MigrationFile) : Prop :=
  match pc with
  | .script _ f _ _ => f = file
  | .insert _ f _ => f = file
  | .commit _ f _ => f = file
  | _ => False

/-- Once a file is recorded under another checksum, no run gets to a script with a later
number or to its end. -/
structure StopsAt (changed : MigrationFile) (c : Config D) : Prop where
  earlier : ∀ file, c.pc.runs file → version file < version changed
  unfinished : c.pc ≠ .finished

/-- A `COMMIT` left in a script ends no change, and a change after it has a `BEGIN` of its
own. -/
def Unwrapped (lines : List ScriptLine) : Prop :=
  ∀ before line after, lines = before ++ line :: after → line.effect = .commit →
    (∀ l ∈ before, l.effect ≠ .change) ∧
      ((∀ l ∈ after, l.effect ≠ .change) ∨ ∃ l ∈ after, l.effect = .begin_)

/-- The names sort as their numbers do, and no script commits on its own. -/
structure Orderly : Prop where
  versions : (applyOrder dir).Pairwise fun a b => version a < version b
  unwrapped : ∀ file ∈ dir, Unwrapped (stripTransactionWrapper file.content)

end Soundness

/-! ### Scripts -/

section Scripts
variable {D : Type}

theorem filterMap_dropWhile {α β : Type} {f : α → Option β} {p : α → Bool}
    (h : ∀ x, p x = true → f x = none) (l : List α) :
    (l.dropWhile p).filterMap f = l.filterMap f := by
  induction l with
  | nil => rfl
  | cons x l ih =>
    rw [List.dropWhile_cons]
    split
    · rename_i hx
      rw [ih, List.filterMap_cons_none (h x hx)]
    · rfl

theorem filterMap_rdropWhile {α β : Type} {f : α → Option β} {p : α → Bool}
    (h : ∀ x, p x = true → f x = none) (l : List α) :
    (l.rdropWhile p).filterMap f = l.filterMap f := by
  unfold List.rdropWhile
  rw [List.filterMap_reverse, filterMap_dropWhile h, ← List.filterMap_reverse,
    List.reverse_reverse]

theorem changeOf_of_ne {v : Nat} {line : ScriptLine} (h : line.effect ≠ .change) :
    (changeOf v line : Option (Event D)) = none := if_neg h

theorem changes_eq_nil {v : Nat} {lines : List ScriptLine}
    (h : ∀ line ∈ lines, line.effect ≠ .change) : (changes v lines : List (Event D)) = [] := by
  apply List.filterMap_eq_nil_iff.mpr
  intro line hline
  exact changeOf_of_ne (h line hline)

theorem changes_append (v : Nat) (xs ys : List ScriptLine) :
    (changes v (xs ++ ys) : List (Event D)) = changes v xs ++ changes v ys :=
  List.filterMap_append

theorem changes_singleton (v : Nat) (line : ScriptLine) :
    (changes v [line] : List (Event D)) = (changeOf v line).toList := by
  unfold changes
  cases hline : (changeOf v line : Option (Event D)) with
  | none => rw [List.filterMap_cons_none hline, List.filterMap_nil, Option.toList_none]
  | some event => rw [List.filterMap_cons_some hline, List.filterMap_nil, Option.toList_some]

theorem changes_removeBegin (v : Nat) (lines : List ScriptLine) :
    (changes v (removeBegin lines) : List (Event D)) = changes v lines := by
  cases lines with
  | nil => rfl
  | cons first rest =>
    simp only [removeBegin]
    by_cases hkeyword : isKeyword "BEGIN" first.text = true
    · have hbare := first.bare (Or.inr (Or.inl hkeyword))
      rw [if_pos hkeyword]
      exact (List.filterMap_cons_none (changeOf_of_ne hbare)).symm
    · rw [if_neg hkeyword]

theorem changes_removeCommit (v : Nat) (lines : List ScriptLine) :
    (changes v (removeCommit lines) : List (Event D)) = changes v lines := by
  unfold removeCommit
  split
  · rfl
  · rename_i last hlast
    split
    · rename_i hkeyword
      have hbare := last.bare (Or.inr (Or.inr hkeyword))
      obtain ⟨init, rfl⟩ := List.getLast?_eq_some_iff.mp hlast
      rw [List.dropLast_concat, changes_append, changes_singleton, changeOf_of_ne hbare,
        Option.toList_none, List.append_nil]
    · rfl

/-- Taking the wrapper off takes no change off. -/
theorem changes_strip (v : Nat) (script : List ScriptLine) :
    (changes v (stripTransactionWrapper script) : List (Event D)) = changes v script := by
  have hempty : ∀ line : ScriptLine, line.text.isEmpty = true →
      (changeOf v line : Option (Event D)) = none := by
    intro line htext
    exact changeOf_of_ne (line.bare (Or.inl (List.isEmpty_iff.mp htext)))
  unfold stripTransactionWrapper
  rw [changes_removeCommit, changes_removeBegin]
  unfold changes
  rw [filterMap_rdropWhile hempty, filterMap_dropWhile hempty]

/-- What is recorded after the given scripts. -/
theorem findSome?_transactions (sha256 : List ScriptLine → D) (applied : List MigrationFile)
    (v : Nat) :
    (applied.map (transactionOf sha256)).flatten.findSome? (rowChecksum v) =
      (applied.find? (version · == v)).map fun file => sha256 file.content := by
  induction applied with
  | nil => rfl
  | cons file applied ih =>
    have hchanges : (changes (version file) file.content : List (Event D)).findSome?
        (rowChecksum v) = none := by
      rw [List.findSome?_eq_none_iff]
      intro event hevent
      obtain ⟨line, -, hline⟩ := List.mem_filterMap.mp hevent
      unfold changeOf at hline
      split at hline
      · cases hline
        rfl
      · cases hline
    rw [List.map_cons, List.flatten_cons, List.findSome?_append, ih, transactionOf,
      List.findSome?_append, hchanges, List.find?_cons]
    by_cases hv : version file = v
    · simp [rowChecksum, hv]
    · simp [rowChecksum, hv, beq_false_of_ne hv]

end Scripts

/-! ### Histories -/

section Histories
variable {D : Type} {sha256 : List ScriptLine → D} {dir : List MigrationFile}

theorem mem_applyOrder {file : MigrationFile} : file ∈ applyOrder dir ↔ file ∈ dir :=
  List.mem_insertionSort _

theorem migrationVersion_eq (hnames : ∀ file ∈ dir, (migrationVersion file.name).isSome)
    {file : MigrationFile} (hfile : file ∈ applyOrder dir) :
    migrationVersion file.name = some (version file) := by
  obtain ⟨v, hv⟩ := Option.isSome_iff_exists.mp (hnames file (mem_applyOrder.mp hfile))
  rw [version, hv, Option.getD_some]

/-- Among files in the order of their numbers a file is found by its number. -/
theorem find?_version {files : List MigrationFile}
    (hfiles : files.Pairwise fun a b => version a < version b) {file : MigrationFile}
    (hfile : file ∈ files) : files.find? (version · == version file) = some file := by
  induction files with
  | nil => cases hfile
  | cons first files ih =>
    obtain ⟨hfirst, hrest⟩ := List.pairwise_cons.mp hfiles
    rcases List.mem_cons.mp hfile with rfl | hfile
    · simp
    · have hlt := hfirst file hfile
      have hne : (version first == version file) = false := beq_false_of_ne (by omega)
      rw [List.find?_cons, hne]
      exact ih hrest hfile

/-- The lookup once the first `k` scripts are in. -/
theorem recorded_take {db : Log (Event D)} {k : Nat}
    (hdb : db.committed = ((applyOrder dir).take k).map (transactionOf sha256))
    (hpending : db.pending = []) (v : Nat) :
    recorded db v =
      (((applyOrder dir).take k).find? (version · == v)).map fun file => sha256 file.content := by
  rw [recorded, hdb, hpending, List.append_nil, findSome?_transactions]

theorem recorded_of_lt (horder : Orderly dir) {db : Log (Event D)} {k i : Nat}
    (hdb : db.committed = ((applyOrder dir).take k).map (transactionOf sha256))
    (hpending : db.pending = []) {file : MigrationFile} {todo : List MigrationFile}
    (hdrop : (applyOrder dir).drop i = file :: todo) (hi : i < k) :
    recorded db (version file) = some (sha256 file.content) := by
  have hget : (applyOrder dir)[i]? = some file := by
    rw [← List.head?_drop, hdrop, List.head?_cons]
  have hmem : file ∈ (applyOrder dir).take k := by
    apply List.mem_of_getElem?
    rw [List.getElem?_take_of_lt hi]
    exact hget
  have hpairs := horder.versions.sublist (List.take_sublist k _)
  rw [recorded_take hdb hpending, find?_version hpairs hmem, Option.map_some]

theorem recorded_of_eq (horder : Orderly dir) {db : Log (Event D)} {k : Nat}
    (hdb : db.committed = ((applyOrder dir).take k).map (transactionOf sha256))
    (hpending : db.pending = []) {file : MigrationFile} {todo : List MigrationFile}
    (hdrop : (applyOrder dir).drop k = file :: todo) : recorded db (version file) = none := by
  have hpairs := horder.versions
  rw [← List.take_append_drop k (applyOrder dir), hdrop] at hpairs
  have hbefore := (List.pairwise_append.mp hpairs).2.2
  have hnone : ((applyOrder dir).take k).find? (version · == version file) = none := by
    rw [List.find?_eq_none]
    intro earlier hearlier
    have hlt := hbefore earlier hearlier file List.mem_cons_self
    rw [beq_iff_eq]
    omega
  rw [recorded_take hdb hpending, hnone, Option.map_none]

/-- Inside a script: `done` has been read, and what it changed is pending in a transaction
that will still be open at the end. -/
structure InScript (db : Log (Event D)) (file : MigrationFile) (lines : List ScriptLine) :
    Prop where
  read : ∃ done, stripTransactionWrapper file.content = done ++ lines ∧
    db.pending = changes (version file) done
  opened : db.explicit = true ∨
    (∀ line ∈ stripTransactionWrapper file.content, line.effect ≠ .change) ∨
      ∃ line ∈ lines, line.effect = .begin_

/-- `k` scripts are in, and the process is in the middle of the next one or before it. -/
def AtStage (sha256 : List ScriptLine → D) (dir : List MigrationFile) (k : Nat)
    (db : Log (Event D)) : Pc → Prop
  | .idle | .raised => True
  | .finished => db.pending = [] ∧ (applyOrder dir).length ≤ k
  | .next todo => db.pending = [] ∧ ∃ i ≤ k, todo = (applyOrder dir).drop i
  | .script v file lines todo =>
    v = version file ∧ (applyOrder dir).drop k = file :: todo ∧ InScript db file lines
  | .insert v file todo =>
    v = version file ∧ (applyOrder dir).drop k = file :: todo ∧
      db.pending = changes v file.content
  | .commit _ file todo =>
    (applyOrder dir).drop k = file :: todo ∧ db.pending = transactionOf sha256 file

def Progress (sha256 : List ScriptLine → D) (dir : List MigrationFile) (c : Config D) : Prop :=
  ∃ k, c.db.committed = ((applyOrder dir).take k).map (transactionOf sha256) ∧
    AtStage sha256 dir k c.db c.pc

theorem inScript_start (file : MigrationFile) {db : Log (Event D)} (hpending : db.pending = []) :
    InScript db.begin_ file (stripTransactionWrapper file.content) where
  read := ⟨[], rfl, hpending⟩
  opened := Or.inl rfl

/-- One line of a script commits nothing and stays inside the script. -/
theorem inScript_execute {file : MigrationFile} {line : ScriptLine} {lines : List ScriptLine}
    {db : Log (Event D)} (hunwrapped : Unwrapped (stripTransactionWrapper file.content))
    (h : InScript db file (line :: lines)) :
    (execute (version file) line db).committed = db.committed ∧
      InScript (execute (version file) line db) file lines := by
  obtain ⟨done, hdone, hpending⟩ := h.read
  have hnext : stripTransactionWrapper file.content = (done ++ [line]) ++ lines := by
    rw [hdone, List.append_assoc, List.singleton_append]
  have hchanges : (changes (version file) (done ++ [line]) : List (Event D)) =
      db.pending ++ (changeOf (version file) line).toList := by
    rw [changes_append, hpending, changes_singleton]
  have hopened : line.effect ≠ .begin_ → (∃ l ∈ line :: lines, l.effect = .begin_) →
      ∃ l ∈ lines, l.effect = .begin_ := by
    intro hne hbegin
    obtain ⟨l, hl, heffect⟩ := hbegin
    rcases List.mem_cons.mp hl with rfl | hl
    · exact absurd heffect hne
    · exact ⟨l, hl, heffect⟩
  unfold execute
  cases heffect : line.effect with
  | nothing =>
    have hnone : (changeOf (version file) line : Option (Event D)) = none :=
      changeOf_of_ne (by rw [heffect]; decide)
    refine ⟨rfl, ⟨_, hnext, ?_⟩, ?_⟩
    · rw [hchanges, hnone, Option.toList_none, List.append_nil]
    · exact h.opened.imp_right (Or.imp_right (hopened (by rw [heffect]; decide)))
  | begin_ =>
    have hnone : (changeOf (version file) line : Option (Event D)) = none :=
      changeOf_of_ne (by rw [heffect]; decide)
    refine ⟨rfl, ⟨_, hnext, ?_⟩, Or.inl rfl⟩
    rw [hchanges, hnone, Option.toList_none, List.append_nil, Log.begin_pending]
  | commit =>
    have hnone : (changeOf (version file) line : Option (Event D)) = none :=
      changeOf_of_ne (by rw [heffect]; decide)
    obtain ⟨hbefore, hafter⟩ := hunwrapped done line lines hdone heffect
    have hempty : db.pending = [] := by rw [hpending, changes_eq_nil hbefore]
    refine ⟨Log.commit_of_nil hempty, ⟨_, hnext, ?_⟩, Or.inr (hafter.imp_left ?_)⟩
    · rw [hchanges, hnone, hempty]; rfl
    · intro hafter l hl
      rw [hdone] at hl
      rcases List.mem_append.mp hl with hl | hl
      · exact hbefore l hl
      · rcases List.mem_cons.mp hl with rfl | hl
        · rw [heffect]; decide
        · exact hafter l hl
  | change =>
    have hsome : (changeOf (version file) line : Option (Event D)) =
        some (.change (version file) line.text) := if_pos heffect
    refine ⟨rfl, ⟨_, hnext, ?_⟩, ?_⟩
    · rw [hchanges, hsome]; rfl
    · exact h.opened.imp_right (Or.imp_right (hopened (by rw [heffect]; decide)))

/-- At the end of the script its whole effect is pending still. -/
theorem inScript_end {file : MigrationFile} {db : Log (Event D)} (h : InScript db file []) :
    db.endQuery.committed = db.committed ∧
      db.endQuery.pending = changes (version file) file.content := by
  obtain ⟨done, hdone, hpending⟩ := h.read
  rw [List.append_nil] at hdone
  rw [← hdone, changes_strip] at hpending
  rcases h.opened with hexplicit | hnone | hbegin
  · rw [Log.endQuery_of_explicit hexplicit]
    exact ⟨rfl, hpending⟩
  · have hempty : db.pending = [] := by rw [hpending, ← changes_strip, changes_eq_nil hnone]
    unfold Log.endQuery
    split
    · exact ⟨rfl, hpending⟩
    · refine ⟨Log.commit_of_nil hempty, ?_⟩
      rw [Log.commit_pending, ← hpending, hempty]
  · obtain ⟨line, hline, -⟩ := hbegin
    cases hline

theorem progress_start {c : Config D} (h : Progress sha256 dir c) :
    Progress sha256 dir ⟨.next (applyOrder dir), c.db.lose⟩ := by
  obtain ⟨k, hcommitted, -⟩ := h
  exact ⟨k, hcommitted, rfl, 0, Nat.zero_le k, rfl⟩

theorem sound_of_progress (horder : Orderly dir) {c : Config D} (h : Progress sha256 dir c) :
    Sound sha256 dir c := by
  obtain ⟨k, hcommitted, hstage⟩ := h
  constructor
  · refine ⟨(applyOrder dir).take k, ?_, ?_, hcommitted⟩
    · intro file hfile
      exact mem_applyOrder.mp (List.mem_of_mem_take hfile)
    · rw [List.pairwise_map]
      exact horder.versions.sublist (List.take_sublist k _)
  · intro hfinished file hfile
    rw [hfinished] at hstage
    obtain ⟨hpending, hlength⟩ := hstage
    rw [recorded_take hcommitted hpending, List.take_of_length_le hlength,
      find?_version horder.versions (mem_applyOrder.mpr hfile), Option.map_some]

variable [DecidableEq D]

theorem progress_next (hnames : ∀ file ∈ dir, (migrationVersion file.name).isSome)
    (horder : Orderly dir) {db : Log (Event D)} {file : MigrationFile}
    {todo : List MigrationFile} (h : Progress sha256 dir ⟨.next (file :: todo), db⟩) :
    Progress sha256 dir (proceed sha256 dir ⟨.next (file :: todo), db⟩) := by
  obtain ⟨k, hcommitted, hpending, i, hi, hdrop⟩ := h
  have hmem : file ∈ applyOrder dir :=
    List.mem_of_mem_drop (hdrop ▸ List.mem_cons_self)
  have hversion := migrationVersion_eq hnames hmem
  rcases Nat.lt_or_eq_of_le hi with hlt | rfl
  · -- the file is in: it is skipped
    have hrow := recorded_of_lt horder hcommitted hpending hdrop.symm hlt
    simp only [proceed, hversion, hrow, if_pos]
    refine ⟨k, hcommitted, hpending, i + 1, hlt, ?_⟩
    rw [← List.tail_drop, ← hdrop, List.tail_cons]
  · -- the file is the next one: its script starts
    have hrow := recorded_of_eq horder hcommitted hpending hdrop.symm
    simp only [proceed, hversion, hrow]
    exact ⟨i, hcommitted, rfl, hdrop.symm, inScript_start file hpending⟩

theorem progress_proceed (hnames : ∀ file ∈ dir, (migrationVersion file.name).isSome)
    (horder : Orderly dir) {c : Config D} (h : Progress sha256 dir c) :
    Progress sha256 dir (proceed sha256 dir c) := by
  obtain ⟨pc, db⟩ := c
  cases pc with
  | idle => exact progress_start h
  | raised => exact progress_start h
  | finished => exact progress_start h
  | next todo =>
    cases todo with
    | cons file todo => exact progress_next hnames horder h
    | nil =>
      obtain ⟨k, hcommitted, hpending, i, hi, hdrop⟩ := h
      have hlength : (applyOrder dir).length ≤ i := List.drop_eq_nil_iff.mp hdrop.symm
      refine ⟨k, ?_, rfl, hlength.trans hi⟩
      exact (Log.commit_of_nil hpending).trans hcommitted
  | script v file lines todo =>
    obtain ⟨k, hcommitted, rfl, hdrop, hscript⟩ := h
    have hmem : file ∈ applyOrder dir :=
      List.mem_of_mem_drop (hdrop ▸ List.mem_cons_self)
    cases lines with
    | cons line lines =>
      have hunwrapped := horder.unwrapped file (mem_applyOrder.mp hmem)
      obtain ⟨hsame, hnext⟩ := inScript_execute hunwrapped hscript
      exact ⟨k, hsame.trans hcommitted, rfl, hdrop, hnext⟩
    | nil =>
      obtain ⟨hsame, hpending⟩ := inScript_end hscript
      exact ⟨k, hsame.trans hcommitted, rfl, hdrop, hpending⟩
  | insert v file todo =>
    obtain ⟨k, hcommitted, rfl, hdrop, hpending⟩ := h
    refine ⟨k, hcommitted, hdrop, ?_⟩
    exact congrArg (· ++ [Event.row (version file) (sha256 file.content)]) hpending
  | commit v file todo =>
    obtain ⟨k, hcommitted, hdrop, hpending⟩ := h
    have hne : db.pending ≠ [] := by
      rw [hpending, transactionOf]
      exact List.append_ne_nil_of_right_ne_nil _ (List.cons_ne_nil _ _)
    have htake : (applyOrder dir).take (k + 1) = (applyOrder dir).take k ++ [file] := by
      rw [List.take_add_one, ← List.head?_drop, hdrop, List.head?_cons, Option.toList_some]
    refine ⟨k + 1, ?_, rfl, k + 1, le_refl _, ?_⟩
    · rw [htake, List.map_append, ← hcommitted]
      exact (Log.commit_of_ne hne).trans (congrArg (db.committed ++ [·]) hpending)
    · rw [← List.tail_drop, hdrop, List.tail_cons]

theorem progress_step (hnames : ∀ file ∈ dir, (migrationVersion file.name).isSome)
    (horder : Orderly dir) {c c' : Config D} {m : Move} (h : Progress sha256 dir c)
    (hstep : Step sha256 dir c m c') : Progress sha256 dir c' := by
  subst hstep
  cases m with
  | statement => exact progress_proceed hnames horder h
  | crash =>
    obtain ⟨k, hcommitted, -⟩ := h
    exact ⟨k, hcommitted, trivial⟩

theorem sound_of_run (hnames : ∀ file ∈ dir, (migrationVersion file.name).isSome)
    (horder : Orderly dir) {tr : List (Transition (Config D) Move)} {c : Config D}
    (h : Run (Step sha256 dir) ⟨.idle, {}⟩ tr c) : Sound sha256 dir c := by
  have hprogress : Progress sha256 dir c := by
    apply h.invariant
    · exact ⟨0, rfl, trivial⟩
    · intro s l s' hs hstep
      exact progress_step hnames horder hs hstep
  exact sound_of_progress horder hprogress

end Histories

/-! ### A changed file -/

section Changed
variable {D : Type} {sha256 : List ScriptLine → D} {dir : List MigrationFile}

/-- The first row of a version stays what it is. -/
theorem findSome?_extends {xs ys : List (List (Event D))} (hgrows : xs <+: ys) {v : Nat}
    {checksum : D} (h : xs.flatten.findSome? (rowChecksum v) = some checksum) :
    ys.flatten.findSome? (rowChecksum v) = some checksum := by
  obtain ⟨more, rfl⟩ := hgrows
  rw [List.flatten_append, List.findSome?_append, h, Option.some_or]

theorem committed_prefix_execute (v : Nat) (line : ScriptLine) (db : Log (Event D)) :
    db.committed <+: (execute v line db).committed := by
  unfold execute
  split
  · exact List.prefix_rfl
  · exact List.prefix_rfl
  · exact db.committed_prefix_commit
  · exact List.prefix_rfl

theorem recorded_of_committed {db : Log (Event D)} {v : Nat} {checksum : D}
    (h : db.committed.flatten.findSome? (rowChecksum v) = some checksum) :
    recorded db v = some checksum := by
  rw [recorded, List.findSome?_append, h, Option.some_or]

/-- A run has the changed file still before it. -/
def Awaits (dir : List MigrationFile) (changed : MigrationFile) : Pc → Prop
  | .idle | .raised => True
  | .finished => False
  | .next todo => todo <:+ applyOrder dir ∧ changed ∈ todo
  | .script _ file _ todo | .insert _ file todo | .commit _ file todo =>
    (file :: todo) <:+ applyOrder dir ∧ changed ∈ todo

/-- The row with the other checksum stands, and no run is past it. -/
structure Blocked (dir : List MigrationFile) (changed : MigrationFile) (checksum : D)
    (c : Config D) : Prop where
  row : c.db.committed.flatten.findSome? (rowChecksum (version changed)) = some checksum
  awaits : Awaits dir changed c.pc

theorem stopsAt_of_awaits (horder : Orderly dir) {changed : MigrationFile} {c : Config D}
    (h : Awaits dir changed c.pc) : StopsAt changed c := by
  have hbefore : ∀ {file todo}, (file :: todo) <:+ applyOrder dir → changed ∈ todo →
      version file < version changed := by
    intro file todo hsuffix hmem
    have hpairs := horder.versions.sublist hsuffix.sublist
    exact (List.pairwise_cons.mp hpairs).1 changed hmem
  obtain ⟨pc, db⟩ := c
  constructor
  · intro file hruns
    cases pc with
    | script v f lines todo =>
      cases hruns
      exact hbefore h.1 h.2
    | insert v f todo =>
      cases hruns
      exact hbefore h.1 h.2
    | commit v f todo =>
      cases hruns
      exact hbefore h.1 h.2
    | idle => cases hruns
    | raised => cases hruns
    | finished => cases hruns
    | next todo => cases hruns
  · intro hfinished
    cases hfinished
    exact h

variable [DecidableEq D]

theorem committed_prefix_proceed (c : Config D) :
    c.db.committed <+: (proceed sha256 dir c).db.committed := by
  unfold proceed
  split
  any_goals exact List.prefix_rfl
  · exact c.db.committed_prefix_commit
  · split
    · exact List.prefix_rfl
    · split
      · split
        · exact List.prefix_rfl
        · exact List.prefix_rfl
      · exact List.prefix_rfl
  · exact committed_prefix_execute _ _ _
  · exact c.db.committed_prefix_endQuery
  · exact c.db.committed_prefix_commit

theorem awaits_proceed (hnames : ∀ file ∈ dir, (migrationVersion file.name).isSome)
    {changed : MigrationFile} (hchanged : changed ∈ dir) {checksum : D}
    (hdrift : checksum ≠ sha256 changed.content) {c : Config D}
    (hrow : c.db.committed.flatten.findSome? (rowChecksum (version changed)) = some checksum)
    (h : Awaits dir changed c.pc) : Awaits dir changed (proceed sha256 dir c).pc := by
  have hstart : Awaits dir changed (.next (applyOrder dir)) :=
    ⟨List.suffix_rfl, mem_applyOrder.mpr hchanged⟩
  obtain ⟨pc, db⟩ := c
  cases pc with
  | idle => exact hstart
  | raised => exact hstart
  | finished => exact h.elim
  | next todo =>
    obtain ⟨hsuffix, hmem⟩ := h
    cases todo with
    | nil => cases hmem
    | cons file todo =>
      have hversion := migrationVersion_eq hnames (hsuffix.subset List.mem_cons_self)
      rcases List.mem_cons.mp hmem with rfl | hmem
      · have hrecorded := recorded_of_committed hrow
        simp only [proceed, hversion, hrecorded, if_neg hdrift]
        exact trivial
      · simp only [proceed, hversion]
        split
        · split
          · exact ⟨(List.suffix_cons file todo).trans hsuffix, hmem⟩
          · exact trivial
        · exact ⟨hsuffix, hmem⟩
  | script v file lines todo =>
    cases lines with
    | nil => exact h
    | cons line lines => exact h
  | insert v file todo => exact h
  | commit v file todo => exact ⟨(List.suffix_cons file todo).trans h.1, h.2⟩

theorem stopsAt_of_run (hnames : ∀ file ∈ dir, (migrationVersion file.name).isSome)
    (horder : Orderly dir) {changed : MigrationFile} (hchanged : changed ∈ dir) {checksum : D}
    (hdrift : checksum ≠ sha256 changed.content) {db : Log (Event D)}
    (hrow : db.committed.flatten.findSome? (rowChecksum (version changed)) = some checksum)
    {tr : List (Transition (Config D) Move)} {c : Config D}
    (h : Run (Step sha256 dir) ⟨.idle, db⟩ tr c) : StopsAt changed c := by
  have hinv : Blocked dir changed checksum c := by
    apply h.invariant
    · exact ⟨hrow, trivial⟩
    · intro s m s' hs hstep
      subst hstep
      cases m with
      | statement =>
        constructor
        · exact findSome?_extends (committed_prefix_proceed s) hs.row
        · exact awaits_proceed hnames hchanged hdrift hs.row hs.awaits
      | crash => exact ⟨hs.row, trivial⟩
  exact stopsAt_of_awaits horder hinv.awaits

/-- A script that is not interrupted ends. -/
theorem script_ends (sha256 : List ScriptLine → D) (dir : List MigrationFile) (v : Nat)
    (file : MigrationFile) (todo : List MigrationFile)
    (lines : List ScriptLine) (db : Log (Event D)) :
    ∃ n db', (proceed sha256 dir)^[n] ⟨.script v file lines todo, db⟩ = ⟨.next todo, db'⟩ ∧
      db.committed <+: db'.committed := by
  induction lines generalizing db with
  | nil =>
    -- the end of the message, the row and the commit
    let ended := db.endQuery.begin_.write (.row v (sha256 file.content))
    refine ⟨3, ended.commit, rfl, ?_⟩
    exact db.committed_prefix_endQuery.trans ended.committed_prefix_commit
  | cons line lines ih =>
    obtain ⟨n, db', hreach, hgrows⟩ := ih (execute v line db)
    refine ⟨n + 1, db', ?_, (committed_prefix_execute v line db).trans hgrows⟩
    rw [Function.iterate_succ_apply]
    exact hreach

theorem raises_next (hnames : ∀ file ∈ dir, (migrationVersion file.name).isSome)
    {changed : MigrationFile} {checksum : D} (hdrift : checksum ≠ sha256 changed.content)
    (todo : List MigrationFile) (hsuffix : todo <:+ applyOrder dir) (hmem : changed ∈ todo)
    (db : Log (Event D))
    (hrow : db.committed.flatten.findSome? (rowChecksum (version changed)) = some checksum) :
    ∃ n, ((proceed sha256 dir)^[n] ⟨.next todo, db⟩).pc = .raised := by
  induction todo generalizing db with
  | nil => cases hmem
  | cons file todo ih =>
    have hversion := migrationVersion_eq hnames (hsuffix.subset List.mem_cons_self)
    have hrest := (List.suffix_cons file todo).trans hsuffix
    cases hrecorded : recorded db (version file) with
    | some found =>
      by_cases hfound : found = sha256 file.content
      · -- skipped, so it is not the changed file
        have hmem' : changed ∈ todo := by
          rcases List.mem_cons.mp hmem with rfl | hmem
          · rw [recorded_of_committed hrow] at hrecorded
            cases hrecorded
            exact absurd hfound hdrift
          · exact hmem
        obtain ⟨n, hn⟩ := ih hrest hmem' db.begin_ hrow
        refine ⟨n + 1, ?_⟩
        rw [Function.iterate_succ_apply]
        simpa only [proceed, hversion, hrecorded, if_pos hfound] using hn
      · refine ⟨1, ?_⟩
        simp only [Function.iterate_one, proceed, hversion, hrecorded, if_neg hfound]
    | none =>
      have hmem' : changed ∈ todo := by
        rcases List.mem_cons.mp hmem with rfl | hmem
        · rw [recorded_of_committed hrow] at hrecorded
          cases hrecorded
        · exact hmem
      obtain ⟨n, db', hreach, hgrows⟩ := script_ends sha256 dir (version file) file todo
        (stripTransactionWrapper file.content) db.begin_
      obtain ⟨m, hm⟩ := ih hrest hmem' db' (findSome?_extends hgrows hrow)
      refine ⟨m + n + 1, ?_⟩
      rw [Function.iterate_succ_apply, Function.iterate_add_apply]
      simpa only [proceed, hversion, hrecorded, hreach] using hm

end Changed

/-! ### Every history -/

section Results
variable {D : Type} [DecidableEq D] {sha256 : List ScriptLine → D} {dir : List MigrationFile}

/-- Whatever crashes and completes, the history is the scripts in the order of their numbers,
each with its row; and a run over a changed file raises before any later script. -/
theorem migrations_apply_once_in_order
    (hnames : ∀ file ∈ dir, (migrationVersion file.name).isSome) (horder : Orderly dir) :
    (∀ tr c, Run (Step sha256 dir) ⟨.idle, {}⟩ tr c → Sound sha256 dir c) ∧
    ∀ (db : Log (Event D)) (changed : MigrationFile) (checksum : D), db.pending = [] →
      changed ∈ dir → recorded db (version changed) = some checksum →
      checksum ≠ sha256 changed.content →
      (∀ tr c, Run (Step sha256 dir) ⟨.idle, db⟩ tr c → StopsAt changed c) ∧
        ∃ n, ((proceed sha256 dir)^[n] ⟨.idle, db⟩).pc = .raised := by
  constructor
  · intro tr c hrun
    exact sound_of_run hnames horder hrun
  · intro db changed checksum hpending hchanged hrecorded hdrift
    have hrow : db.committed.flatten.findSome? (rowChecksum (version changed)) =
        some checksum := by
      rw [recorded, hpending, List.append_nil] at hrecorded
      exact hrecorded
    constructor
    · intro tr c hrun
      exact stopsAt_of_run hnames horder hchanged hdrift hrow hrun
    · obtain ⟨n, hn⟩ := raises_next hnames hdrift (applyOrder dir) List.suffix_rfl
        (mem_applyOrder.mpr hchanged) db.lose hrow
      refine ⟨n + 1, ?_⟩
      rw [Function.iterate_succ_apply]
      exact hn

end Results

theorem unwrapped_of_no_commit {lines : List ScriptLine}
    (h : ∀ line ∈ lines, line.effect ≠ .commit) : Unwrapped lines := by
  intro before line after hlines heffect
  have hmem : line ∈ lines := by
    rw [hlines]
    exact List.mem_append_right before List.mem_cons_self
  exact absurd heffect (h line hmem)

def beginLine : ScriptLine := ⟨"BEGIN;".toList, .begin_, by decide⟩
def commitLine : ScriptLine := ⟨"COMMIT;".toList, .commit, by decide⟩
def blankLine : ScriptLine := ⟨[], .nothing, by decide⟩
def commentLine : ScriptLine := ⟨"-- done".toList, .nothing, by decide⟩
def schemaLine : ScriptLine := ⟨"CREATE SCHEMA optimizer_control;".toList, .change, by decide⟩
def columnLine : ScriptLine := ⟨"ALTER TABLE node_intents ADD x;".toList, .change, by decide⟩

def controlPlane : MigrationFile where
  name := "001_control_plane.sql"
  content := [blankLine, beginLine, blankLine, schemaLine, commitLine, blankLine]

def shipped : List MigrationFile :=
  [⟨"002_node_intents_artifact_ref.sql", [beginLine, columnLine, commitLine]⟩, controlPlane]

example : (applyOrder shipped).map version = [1, 2] := by decide

theorem shipped_orderly : Orderly shipped := by
  constructor
  · have hpairs : ((applyOrder shipped).map version).Pairwise (· < ·) := by decide
    exact List.pairwise_map.mp hpairs
  · intro file hfile
    apply unwrapped_of_no_commit
    revert file
    decide

/-- The first file was applied when its script had another line. -/
def drifted : Log (Event (List ScriptLine)) where
  committed := [transactionOf id ⟨"001_control_plane.sql", [columnLine]⟩]

theorem shipped_migrations_in_order :
    (∀ tr c, Run (Step id shipped) ⟨.idle, {}⟩ tr c → Sound id shipped c) ∧
      ∃ n, ((proceed id shipped)^[n] ⟨.idle, drifted⟩).pc = .raised := by
  obtain ⟨hsound, hdrift⟩ :=
    @migrations_apply_once_in_order _ _ id shipped (by decide) shipped_orderly
  refine ⟨hsound, (hdrift drifted controlPlane [columnLine] rfl ?_ ?_ ?_).2⟩
  · decide
  · decide
  · decide

/-- A comment below the wrapper keeps the `COMMIT`. -/
def trailed : List MigrationFile :=
  [⟨"001_control_plane.sql", [beginLine, schemaLine, commitLine, commentLine]⟩]

def misnamed : List MigrationFile := [⟨"9_nine.sql", []⟩, ⟨"10_ten.sql", []⟩]

def logged (dir : List MigrationFile) (c : Config (List ScriptLine)) (m : Move) :
    Option (Move × Config (List ScriptLine)) :=
  some (m, advance id dir c m)

theorem step_of_logged {dir : List MigrationFile} (c : Config (List ScriptLine)) (a l : Move)
    (c' : Config (List ScriptLine)) (h : logged dir c a = some (l, c')) : Step id dir c l c' := by
  cases h
  rfl

/-- The script's effect is committed without its row; and the tenth script runs before the
ninth. -/
theorem migrations_break_apart_and_swap :
    (∃ dir : List MigrationFile, (∀ file ∈ dir, (migrationVersion file.name).isSome) ∧
      (dir.map version).Nodup ∧ ∃ tr c, Run (Step id dir) ⟨.idle, {}⟩ tr c ∧
        c.db.committed = [[.change 1 schemaLine.text]] ∧ ¬ Sound id dir c) ∧
    ∃ dir : List MigrationFile, (∀ file ∈ dir, (migrationVersion file.name).isSome) ∧
      (dir.map version).Nodup ∧ ∃ tr c, Run (Step id dir) ⟨.idle, {}⟩ tr c ∧
        c.db.committed = [[.row 10 []], [.row 9 []]] ∧ ¬ Sound id dir c := by
  constructor
  · obtain ⟨tr, c, hrun, hcheck⟩ := exists_run_of_replay (logged trailed) step_of_logged
      ⟨.idle, {}⟩ [.statement, .statement, .statement, .statement, .crash]
      (fun out => out.2.db.committed == [[.change 1 schemaLine.text]]) (by decide)
    have hcommitted := beq_iff_eq.mp hcheck
    refine ⟨trailed, by decide, by decide, tr, c, hrun, hcommitted, ?_⟩
    intro hsound
    obtain ⟨applied, -, -, happlied⟩ := hsound.history
    rw [hcommitted] at happlied
    cases applied with
    | nil => cases happlied
    | cons file applied =>
      have hlast := congrArg List.getLast? (List.cons.inj happlied).1
      simp [transactionOf] at hlast
  · obtain ⟨tr, c, hrun, hcheck⟩ := exists_run_of_replay (logged misnamed) step_of_logged
      ⟨.idle, {}⟩ (List.replicate 12 .statement)
      (fun out => out.2.db.committed == [[.row 10 []], [.row 9 []]]) (by decide)
    have hcommitted := beq_iff_eq.mp hcheck
    refine ⟨misnamed, by decide, by decide, tr, c, hrun, hcommitted, ?_⟩
    intro hsound
    obtain ⟨applied, -, hpairs, happlied⟩ := hsound.history
    rw [hcommitted] at happlied
    have hlength : applied.length = 2 := by
      rw [← List.length_map (transactionOf id), ← happlied, List.length_cons,
        List.length_singleton]
    obtain ⟨first, second, rfl⟩ := List.length_eq_two.mp hlength
    have hlasts := congrArg (List.map List.getLast?) happlied
    simp [transactionOf] at hlasts
    simp [← hlasts.1.1, ← hlasts.2.1] at hpairs

end ProductionOptimizer.Migrations
