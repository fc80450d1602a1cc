import Mathlib.Data.List.Sort
import Mathlib.Data.Prod.Lex
import Mathlib.Data.String.Basic
import ProductionOptimizer.Library.Runs
import ProductionOptimizer.SourceCheckout

/-!
# Capturing a source tree while it changes

`_capture_stable_source` against an environment that writes and deletes files between any two
of its steps. Listing the tree, a `stat` and a read of one file are one step each. Every write
is stamped with a later time than all before it.
-/

namespace ProductionOptimizer.StableCapture
open Runs
set_option autoImplicit false

structure File where
  bytes : List UInt8
  executable : Bool
  mtime : Nat
  deriving DecidableEq, Repr

structure Stat where
  size : Nat
  mtime : Nat
  deriving DecidableEq, Repr

def File.stat (f : File) : Stat := ⟨f.bytes.length, f.mtime⟩

/-- The files of a tree by their relative paths. -/
structure Tree where
  file? : String → Option File
  paths : List String
  nodup : paths.Nodup
  mem_paths : ∀ p, p ∈ paths ↔ (file? p).isSome

namespace Tree

def write (tree : Tree) (path : String) (f : File) : Tree where
  file? := Function.update tree.file? path (some f)
  paths := if path ∈ tree.paths then tree.paths else path :: tree.paths
  nodup := by
    split
    · exact tree.nodup
    · exact List.nodup_cons.mpr ⟨by assumption, tree.nodup⟩
  mem_paths p := by
    by_cases hp : p = path
    · subst hp
      rw [Function.update_self]
      split <;> simp_all
    · rw [Function.update_of_ne hp]
      split
      · exact tree.mem_paths p
      · rw [List.mem_cons, tree.mem_paths p]
        simp [hp]

def delete (tree : Tree) (path : String) : Tree where
  file? := Function.update tree.file? path none
  paths := tree.paths.filter (· ≠ path)
  nodup := tree.nodup.filter _
  mem_paths p := by
    rw [List.mem_filter, tree.mem_paths]
    by_cases hp : p = path
    · subst hp
      simp
    · rw [Function.update_of_ne hp]
      simp [hp]

end Tree

structure World where
  tree : Tree
  clock : Nat
  stamped : ∀ p f, tree.file? p = some f → f.mtime < clock

/-- What the environment does to one path. -/
inductive Act where
  | write (path : String) (bytes : List UInt8) (executable : Bool)
  | delete (path : String)
  deriving DecidableEq, Repr

def Act.path : Act → String
  | .write path _ _ => path
  | .delete path => path

def World.act (w : World) : Act → World
  | .write path bytes executable =>
    { tree := w.tree.write path ⟨bytes, executable, w.clock⟩
      clock := w.clock + 1
      stamped := by
        intro p f hf
        change Function.update w.tree.file? path _ p = some f at hf
        by_cases hp : p = path
        · subst hp
          rw [Function.update_self] at hf
          cases hf
          exact Nat.lt_succ_self _
        · rw [Function.update_of_ne hp] at hf
          exact (w.stamped p f hf).trans (Nat.lt_succ_self _) }
  | .delete path =>
    { tree := w.tree.delete path
      clock := w.clock
      stamped := by
        intro p f hf
        change Function.update w.tree.file? path none p = some f at hf
        by_cases hp : p = path
        · subst hp
          rw [Function.update_self] at hf
          cases hf
        · rw [Function.update_of_ne hp] at hf
          exact w.stamped p f hf }

/-! ### `_capture_stable_source` -/

/-- `_is_disallowed_path` of a path with slashes. -/
def isDisallowedRelative (relative : String) : Bool :=
  isDisallowedPath ((relative.toList.splitOn '/').map String.ofList)

section Capture
variable (isDisallowed : String → Bool)

/-- `_source_candidates`: the eligible paths in order. -/
def sourceCandidates (tree : Tree) : List String :=
  (tree.paths.filter (!isDisallowed ·)).insertionSort (· ≤ ·)

def exclusions (tree : Tree) : List String :=
  (tree.paths.filter isDisallowed).insertionSort (· ≤ ·)

/-- The texts of the error that is raised in the end. -/
inductive Reason where
  | changedWhileCaptured
  | cannotCapture (relative : String)
  | changedDuringCapture (relative : String)
  deriving DecidableEq, Repr

structure Attempt where
  number : Nat
  exclusions : List String
  captured : List (String × List UInt8 × Bool)
  deriving DecidableEq, Repr

/-- Where the capture stands, named by its next step; `todo` are the candidates after the
current one. With nothing left to read, the tree is listed once more. -/
inductive Control where
  | list (number : Nat) (lastReason : Reason)
  | stat (attempt : Attempt) (todo : List String) (lastReason : Reason)
  | read (attempt : Attempt) (path : String) (todo : List String) (before : Stat)
      (lastReason : Reason)
  | restat (attempt : Attempt) (path : String) (todo : List String) (before : Stat)
      (content : List UInt8) (lastReason : Reason)
  | returned (attempt : Attempt)
  | raised (reason : Reason)
  deriving DecidableEq, Repr

/-- The next of the two attempts, or the error. -/
def nextAttempt (number : Nat) (reason : Reason) : Control :=
  if number + 1 < 2 then .list (number + 1) reason else .raised reason

def advance (tree : Tree) : Control → Option Control
  | .list number reason =>
    some (.stat ⟨number, exclusions isDisallowed tree, []⟩ (sourceCandidates isDisallowed tree)
      reason)
  | .stat attempt [] reason =>
    if sourceCandidates isDisallowed tree = attempt.captured.map (·.1) then
      some (.returned attempt)
    else some (nextAttempt attempt.number reason)
  | .stat attempt (path :: todo) reason =>
    match tree.file? path with
    | none => some (nextAttempt attempt.number (.cannotCapture path))
    | some f => some (.read attempt path todo f.stat reason)
  | .read attempt path todo before reason =>
    match tree.file? path with
    | none => some (nextAttempt attempt.number (.cannotCapture path))
    | some f => some (.restat attempt path todo before f.bytes reason)
  | .restat attempt path todo before content reason =>
    match tree.file? path with
    | none => some (nextAttempt attempt.number (.cannotCapture path))
    | some f =>
      if before ≠ f.stat then
        some (nextAttempt attempt.number (.changedDuringCapture path))
      else
        some (.stat { attempt with
          captured := attempt.captured ++ [(path, content, f.executable)] } todo reason)
  | .returned _ => none
  | .raised _ => none

structure CaptureState where
  world : World
  control : Control

inductive Move where
  | environment (act : Act)
  | capture
  deriving DecidableEq, Repr

def step (s : CaptureState) : Move → Option CaptureState
  | .environment act => some { s with world := s.world.act act }
  | .capture => (advance isDisallowed s.world.tree s.control).map fun control =>
      { s with control := control }

def Step (s : CaptureState) (m : Move) (s' : CaptureState) : Prop :=
  step isDisallowed s m = some s'

def callIn (w : World) : CaptureState := ⟨w, .list 0 .changedWhileCaptured⟩

/-! ### One state of the tree -/

/-- The eligible tree as a map from paths to bytes. -/
def eligibleMap (tree : Tree) : List (String × List UInt8) :=
  (sourceCandidates isDisallowed tree).filterMap fun p =>
    (tree.file? p).map fun f => (p, f.bytes)

def Attempt.contents (attempt : Attempt) : List (String × List UInt8) :=
  attempt.captured.map fun entry => (entry.1, entry.2.1)

def Control.Running : Control → Prop
  | .returned _ => False
  | .raised _ => False
  | _ => True

/-- At some instant of the call the eligible tree was this map. -/
def Witnessed (tr : List (Transition CaptureState Move)) (s : CaptureState)
    (contents : List (String × List UInt8)) : Prop :=
  ∃ s' ∈ visited tr s, s'.control.Running ∧ eligibleMap isDisallowed s'.world.tree = contents

/-- While a read is still to come: the attempt and the candidates whose second `stat` has not
been made. -/
def Control.unchecked : Control → Option (Nat × List String)
  | .stat attempt (path :: todo) _ => some (attempt.number, path :: todo)
  | .read attempt path todo _ _ => some (attempt.number, path :: todo)
  | .restat attempt path (next :: todo) _ _ _ => some (attempt.number, path :: next :: todo)
  | _ => none

/-- The environment leaves alone what attempt `number` has already checked, and creates no
further eligible file, until its last read. -/
def Undisturbed (number : Nat) (t : Transition CaptureState Move) : Prop :=
  ∀ act, t.label = .environment act → isDisallowed act.path = false →
    ∀ unchecked, t.before.control.unchecked = some (number, unchecked) → act.path ∈ unchecked

variable {isDisallowed}

theorem mem_sourceCandidates {tree : Tree} {p : String} :
    p ∈ sourceCandidates isDisallowed tree ↔
      isDisallowed p = false ∧ (tree.file? p).isSome := by
  unfold sourceCandidates
  rw [List.mem_insertionSort, List.mem_filter, tree.mem_paths]
  simp [and_comm]

/-- Candidates in strict order, all eligible. -/
structure Ordered (isDisallowed : String → Bool) (paths : List String) : Prop where
  sorted : paths.Pairwise (· < ·)
  eligible : ∀ p ∈ paths, isDisallowed p = false

theorem ordered_sourceCandidates (tree : Tree) :
    Ordered isDisallowed (sourceCandidates isDisallowed tree) where
  sorted := by
    have hsorted := List.pairwise_insertionSort (· ≤ ·) (tree.paths.filter (!isDisallowed ·))
    have hnodup : (sourceCandidates isDisallowed tree).Nodup :=
      (List.perm_insertionSort (· ≤ ·) _).nodup_iff.mpr (tree.nodup.filter _)
    exact (hsorted.and hnodup).imp fun h => lt_of_le_of_ne h.1 h.2
  eligible p hp := (mem_sourceCandidates.mp hp).1

/-- A tree with exactly these eligible files has them as its candidates. -/
theorem sourceCandidates_eq {tree : Tree} {paths : List String}
    (hordered : Ordered isDisallowed paths)
    (hmem : ∀ p, isDisallowed p = false → ((tree.file? p).isSome ↔ p ∈ paths)) :
    sourceCandidates isDisallowed tree = paths := by
  have hcandidates : Ordered isDisallowed (sourceCandidates isDisallowed tree) :=
    ordered_sourceCandidates tree
  have hperm : (sourceCandidates isDisallowed tree).Perm paths := by
    apply (List.perm_ext_iff_of_nodup (hcandidates.sorted.imp ne_of_lt)
      (hordered.sorted.imp ne_of_lt)).mpr
    intro p
    rw [mem_sourceCandidates]
    constructor
    · rintro ⟨heligible, hsome⟩
      exact (hmem p heligible).mp hsome
    · intro hp
      exact ⟨hordered.eligible p hp, (hmem p (hordered.eligible p hp)).mpr hp⟩
  apply hperm.eq_of_pairwise ?_ hcandidates.sorted hordered.sorted
  intro p q _ _ hpq hqp
  exact absurd (hpq.trans hqp) (lt_irrefl p)

/-- What has been captured is still so, and no eligible file is unknown. -/
structure Current (isDisallowed : String → Bool) (tree : Tree)
    (contents : List (String × List UInt8)) (todo : List String) : Prop where
  same : ∀ entry ∈ contents, ∃ f, tree.file? entry.1 = some f ∧ f.bytes = entry.2
  known : ∀ p, isDisallowed p = false → (tree.file? p).isSome → p ∈ contents.map (·.1) ++ todo

/-- With one file left to read, its read is an instant at which the whole map is there. -/
theorem eligibleMap_of_current {tree : Tree} {contents : List (String × List UInt8)}
    {p : String} {f : File} (hordered : Ordered isDisallowed (contents.map (·.1) ++ [p]))
    (hcurrent : Current isDisallowed tree contents [p]) (hf : tree.file? p = some f) :
    eligibleMap isDisallowed tree = contents ++ [(p, f.bytes)] := by
  have hcandidates : sourceCandidates isDisallowed tree = contents.map (·.1) ++ [p] := by
    apply sourceCandidates_eq hordered
    intro q hq
    refine ⟨hcurrent.known q hq, fun hmem => ?_⟩
    rcases List.mem_append.mp hmem with hdone | hlast
    · obtain ⟨entry, hentry, rfl⟩ := List.mem_map.mp hdone
      obtain ⟨g, hg, _⟩ := hcurrent.same entry hentry
      rw [hg]
      rfl
    · rw [List.mem_singleton.mp hlast, hf]
      rfl
  unfold eligibleMap
  rw [hcandidates, List.filterMap_append, List.filterMap_map]
  congr 1
  · have hentry : ∀ entry ∈ contents,
        ((fun q => (tree.file? q).map fun g => (q, g.bytes)) ∘ Prod.fst) entry = some entry := by
      intro entry hentry
      obtain ⟨g, hg, hbytes⟩ := hcurrent.same entry hentry
      change (tree.file? entry.1).map _ = _
      rw [hg, Option.map_some, hbytes]
    rw [List.filterMap_congr hentry]
    exact List.filterMap_some
  · simp [hf]

/-! ### What one step of the capture can do -/

/-- The attempt in which files are being read. -/
def Control.attemptNumber : Control → Option Nat
  | .stat attempt _ _ => some attempt.number
  | .read attempt _ _ _ _ => some attempt.number
  | .restat attempt _ _ _ _ _ => some attempt.number
  | _ => none

inductive Advances (isDisallowed : String → Bool) (tree : Tree) : Control → Control → Prop where
  | list (number : Nat) (reason : Reason) :
      Advances isDisallowed tree (.list number reason)
        (.stat ⟨number, exclusions isDisallowed tree, []⟩ (sourceCandidates isDisallowed tree)
          reason)
  | finish (attempt : Attempt) (reason : Reason) :
      sourceCandidates isDisallowed tree = attempt.captured.map (·.1) →
      Advances isDisallowed tree (.stat attempt [] reason) (.returned attempt)
  | giveUp (control : Control) (number : Nat) (reason : Reason) :
      control.attemptNumber = some number →
      Advances isDisallowed tree control (nextAttempt number reason)
  | stat (attempt : Attempt) (path : String) (todo : List String) (reason : Reason) (f : File) :
      tree.file? path = some f →
      Advances isDisallowed tree (.stat attempt (path :: todo) reason)
        (.read attempt path todo f.stat reason)
  | read (attempt : Attempt) (path : String) (todo : List String) (before : Stat)
      (reason : Reason) (f : File) : tree.file? path = some f →
      Advances isDisallowed tree (.read attempt path todo before reason)
        (.restat attempt path todo before f.bytes reason)
  | restat (attempt : Attempt) (path : String) (todo : List String) (before : Stat)
      (content : List UInt8) (reason : Reason) (f : File) : tree.file? path = some f →
      before = f.stat →
      Advances isDisallowed tree (.restat attempt path todo before content reason)
        (.stat { attempt with
          captured := attempt.captured ++ [(path, content, f.executable)] } todo reason)

theorem advances_of_advance {tree : Tree} {control control' : Control}
    (h : advance isDisallowed tree control = some control') :
    Advances isDisallowed tree control control' := by
  cases control with
  | list number reason =>
    cases h
    exact .list number reason
  | stat attempt todo reason =>
    cases todo with
    | nil =>
      simp only [advance] at h
      split at h
      · rename_i hsame
        cases h
        exact .finish attempt reason hsame
      · cases h
        exact .giveUp _ _ _ rfl
    | cons path todo =>
      simp only [advance] at h
      split at h
      · cases h
        exact .giveUp _ _ _ rfl
      · rename_i f hf
        cases h
        exact .stat attempt path todo reason f hf
  | read attempt path todo before reason =>
    simp only [advance] at h
    split at h
    · cases h
      exact .giveUp _ _ _ rfl
    · rename_i f hf
      cases h
      exact .read attempt path todo before reason f hf
  | restat attempt path todo before content reason =>
    simp only [advance] at h
    split at h
    · cases h
      exact .giveUp _ _ _ rfl
    · rename_i f hf
      split at h
      · cases h
        exact .giveUp _ _ _ rfl
      · rename_i hstat
        cases h
        exact .restat attempt path todo before content reason f hf (not_not.mp hstat)
  | returned attempt => cases h
  | raised reason => cases h

/-! ### Steps of the environment -/

theorem file?_act_of_ne {w : World} {act : Act} {p : String} (h : p ≠ act.path) :
    (w.act act).tree.file? p = w.tree.file? p := by
  cases act with
  | write path bytes executable => exact Function.update_of_ne h _ _
  | delete path => exact Function.update_of_ne h _ _

theorem clock_le_act (w : World) (act : Act) : w.clock ≤ (w.act act).clock := by
  cases act with
  | write path bytes executable => exact Nat.le_succ _
  | delete path => exact Nat.le_refl _

/-- A file that is there after an action on it carries the time of the action. -/
theorem mtime_of_act {w : World} {act : Act} {f : File}
    (h : (w.act act).tree.file? act.path = some f) : w.clock ≤ f.mtime := by
  cases act with
  | write path bytes executable =>
    change Function.update w.tree.file? path (some ⟨bytes, executable, w.clock⟩) path = some f at h
    rw [Function.update_self] at h
    cases h
    exact Nat.le_refl _
  | delete path =>
    change Function.update w.tree.file? path none path = some f at h
    rw [Function.update_self] at h
    cases h

theorem Current.act {w : World} {act : Act} {contents : List (String × List UInt8)}
    {todo : List String} (hcurrent : Current isDisallowed w.tree contents todo)
    (hordered : Ordered isDisallowed (contents.map (·.1) ++ todo))
    (hquiet : isDisallowed act.path = false → act.path ∈ todo) :
    Current isDisallowed (w.act act).tree contents todo where
  same entry hentry := by
    have hdone : entry.1 ∈ contents.map (·.1) := List.mem_map_of_mem hentry
    have hne : entry.1 ≠ act.path := by
      intro heq
      have htodo := hquiet (heq ▸ hordered.eligible _ (List.mem_append_left _ hdone))
      have hlt := (List.pairwise_append.mp hordered.sorted).2.2 _ hdone _ htodo
      exact absurd heq (ne_of_lt hlt)
    rw [file?_act_of_ne hne]
    exact hcurrent.same entry hentry
  known p hp hsome := by
    by_cases heq : p = act.path
    · exact List.mem_append_right _ (heq ▸ hquiet (heq ▸ hp))
    · rw [file?_act_of_ne heq] at hsome
      exact hcurrent.known p hp hsome

theorem Witnessed.cons {tr : List (Transition CaptureState Move)} {s s' : CaptureState} {m : Move}
    {contents : List (String × List UInt8)} (h : Witnessed isDisallowed tr s contents) :
    Witnessed isDisallowed (⟨s, m, s'⟩ :: tr) s' contents := by
  obtain ⟨seen, hmem, hseen⟩ := h
  exact ⟨seen, List.mem_cons_of_mem _ hmem, hseen⟩

/-! ### The invariant of the attempt that returns -/

/-- Where the file stands between its read and its second `stat`: unless it was touched since,
it holds what was read. -/
structure ReadAs (w : World) (path : String) (before : Stat) (content : List UInt8) : Prop where
  past : before.mtime < w.clock
  same : ∀ f, w.tree.file? path = some f → f.mtime = before.mtime → f.bytes = content

theorem ReadAs.act {w : World} {path : String} {before : Stat} {content : List UInt8}
    (h : ReadAs w path before content) (act : Act) : ReadAs (w.act act) path before content where
  past := Nat.lt_of_lt_of_le h.past (clock_le_act w act)
  same f hf hmtime := by
    by_cases hpath : path = act.path
    · subst hpath
      have hlate := mtime_of_act hf
      have hpast := h.past
      omega
    · rw [file?_act_of_ne hpath] at hf
      exact h.same f hf hmtime

/-- The map has been seen, or it is still being collected and so far current. -/
def Collected (isDisallowed : String → Bool) (tr : List (Transition CaptureState Move))
    (s : CaptureState) (contents : List (String × List UInt8)) (todo : List String) : Prop :=
  Ordered isDisallowed (contents.map (·.1) ++ todo) ∧
    if todo = [] then Witnessed isDisallowed tr s contents
    else Current isDisallowed s.world.tree contents todo

/-- What holds in every state of attempt `number`. -/
def Progress (isDisallowed : String → Bool) (number : Nat)
    (tr : List (Transition CaptureState Move)) (s : CaptureState) : Prop :=
  match s.control with
  | .list _ _ => True
  | .stat attempt todo _ => attempt.number = number →
      Collected isDisallowed tr s attempt.contents todo
  | .read attempt path todo before _ => attempt.number = number →
      Collected isDisallowed tr s attempt.contents (path :: todo) ∧
        before.mtime < s.world.clock
  | .restat attempt path todo before content _ => attempt.number = number →
      ReadAs s.world path before content ∧
        if todo = [] then Collected isDisallowed tr s (attempt.contents ++ [(path, content)]) []
        else Collected isDisallowed tr s attempt.contents (path :: todo)
  | .returned attempt => attempt.number = number →
      Witnessed isDisallowed tr s attempt.contents
  | .raised _ => True

section Steps
variable {number : Nat} {tr : List (Transition CaptureState Move)} {s : CaptureState}
  {contents : List (String × List UInt8)} {todo : List String}

theorem Collected.environment {act : Act} (h : Collected isDisallowed tr s contents todo)
    (hquiet : todo ≠ [] → isDisallowed act.path = false → act.path ∈ todo) :
    Collected isDisallowed (⟨s, .environment act, { s with world := s.world.act act }⟩ :: tr)
      { s with world := s.world.act act } contents todo := by
  obtain ⟨hordered, hcollected⟩ := h
  refine ⟨hordered, ?_⟩
  split
  · rename_i htodo
    rw [if_pos htodo] at hcollected
    exact hcollected.cons
  · rename_i htodo
    rw [if_neg htodo] at hcollected
    exact hcollected.act hordered (hquiet htodo)

theorem Collected.capture {control : Control} (h : Collected isDisallowed tr s contents todo) :
    Collected isDisallowed (⟨s, .capture, { s with control := control }⟩ :: tr)
      { s with control := control } contents todo := by
  obtain ⟨hordered, hcollected⟩ := h
  refine ⟨hordered, ?_⟩
  split
  · rename_i htodo
    rw [if_pos htodo] at hcollected
    exact hcollected.cons
  · rename_i htodo
    rw [if_neg htodo] at hcollected
    exact hcollected

/-- The next candidate has been read and checked. -/
theorem Collected.checked {path : String} {content : List UInt8} {f : File} (htodo : todo ≠ [])
    (h : Collected isDisallowed tr s contents (path :: todo))
    (hf : s.world.tree.file? path = some f) (hbytes : f.bytes = content) :
    Collected isDisallowed tr s (contents ++ [(path, content)]) todo := by
  obtain ⟨hordered, hcurrent⟩ := h
  rw [if_neg (List.cons_ne_nil _ _)] at hcurrent
  have hpaths : (contents ++ [(path, content)]).map (·.1) ++ todo =
      contents.map (·.1) ++ path :: todo := by simp
  refine ⟨hpaths ▸ hordered, ?_⟩
  rw [if_neg htodo]
  refine ⟨fun entry hentry => ?_, fun p hp hsome => ?_⟩
  · rcases List.mem_append.mp hentry with hold | hnew
    · exact hcurrent.same entry hold
    · rw [List.mem_singleton.mp hnew]
      exact ⟨f, hf, hbytes⟩
  · rw [hpaths]
    exact hcurrent.known p hp hsome

theorem progress_environment {act : Act} (h : Progress isDisallowed number tr s)
    (hquiet : Undisturbed isDisallowed number
      ⟨s, .environment act, { s with world := s.world.act act }⟩) :
    Progress isDisallowed number
      (⟨s, .environment act, { s with world := s.world.act act }⟩ :: tr)
      { s with world := s.world.act act } := by
  have hallowed := hquiet act rfl
  obtain ⟨w, control⟩ := s
  cases control with
  | list number' reason => trivial
  | stat attempt todo reason =>
    intro hnumber
    apply (h hnumber).environment
    intro htodo hpath
    cases todo with
    | nil => exact absurd rfl htodo
    | cons path todo => exact hallowed hpath _ (by rw [← hnumber]; rfl)
  | read attempt path todo before reason =>
    intro hnumber
    obtain ⟨hcollected, hpast⟩ := h hnumber
    refine ⟨hcollected.environment fun _ hpath => ?_, ?_⟩
    · exact hallowed hpath _ (by rw [← hnumber]; rfl)
    · exact Nat.lt_of_lt_of_le hpast (clock_le_act w act)
  | restat attempt path todo before content reason =>
    intro hnumber
    obtain ⟨hread, hcollected⟩ := h hnumber
    refine ⟨hread.act act, ?_⟩
    split
    · rename_i htodo
      rw [if_pos htodo] at hcollected
      exact hcollected.environment fun hne => absurd rfl hne
    · rename_i htodo
      rw [if_neg htodo] at hcollected
      apply hcollected.environment
      intro _ hpath
      cases todo with
      | nil => exact absurd rfl htodo
      | cons next todo => exact hallowed hpath _ (by rw [← hnumber]; rfl)
  | returned attempt =>
    intro hnumber
    exact (h hnumber).cons
  | raised reason => trivial

theorem progress_nextAttempt (number' : Nat) (reason : Reason) (world : World) :
    Progress isDisallowed number tr ⟨world, nextAttempt number' reason⟩ := by
  unfold nextAttempt
  split <;> trivial

/-- The listing: everything is still to be read, or there is nothing. -/
theorem collected_list (world : World) (number' : Nat) (reason : Reason) (control : Control) :
    Collected isDisallowed (⟨⟨world, .list number' reason⟩, .capture, ⟨world, control⟩⟩ :: tr)
      ⟨world, control⟩ [] (sourceCandidates isDisallowed world.tree) := by
  refine ⟨ordered_sourceCandidates world.tree, ?_⟩
  split
  · rename_i hnone
    refine ⟨⟨world, .list number' reason⟩, by simp [visited], trivial, ?_⟩
    unfold eligibleMap
    rw [hnone]
    rfl
  · refine ⟨fun entry hentry => absurd hentry List.not_mem_nil, fun p hp hsome => ?_⟩
    exact mem_sourceCandidates.mpr ⟨hp, hsome⟩

/-- The read of the last candidate is the instant. -/
theorem collected_last_read {attempt : Attempt} {path : String} {before : Stat}
    {reason : Reason} {world : World} {f : File} (control : Control)
    (h : Collected isDisallowed tr ⟨world, .read attempt path [] before reason⟩
      attempt.contents [path]) (hf : world.tree.file? path = some f) :
    Collected isDisallowed
      (⟨⟨world, .read attempt path [] before reason⟩, .capture, ⟨world, control⟩⟩ :: tr)
      ⟨world, control⟩ (attempt.contents ++ [(path, f.bytes)]) [] := by
  obtain ⟨hordered, hcurrent⟩ := h
  rw [if_neg (List.cons_ne_nil _ _)] at hcurrent
  refine ⟨?_, ?_⟩
  · rw [List.append_nil, List.map_append, List.map_singleton]
    exact hordered
  · rw [if_pos rfl]
    exact ⟨_, List.mem_cons_of_mem _ List.mem_cons_self, trivial,
      eligibleMap_of_current hordered hcurrent hf⟩

theorem progress_capture {world : World} {before after : Control}
    (h : Progress isDisallowed number tr ⟨world, before⟩)
    (hadvances : Advances isDisallowed world.tree before after) :
    Progress isDisallowed number (⟨⟨world, before⟩, .capture, ⟨world, after⟩⟩ :: tr)
      ⟨world, after⟩ := by
  cases hadvances with
  | list number' reason => exact fun _ => collected_list world number' reason _
  | finish attempt reason _ =>
    intro hnumber
    have hseen := (h hnumber).2
    rw [if_pos rfl] at hseen
    exact hseen.cons
  | giveUp _ number' reason _ => exact progress_nextAttempt number' reason world
  | stat attempt path todo reason f hf =>
    exact fun hnumber => ⟨(h hnumber).capture, world.stamped path f hf⟩
  | read attempt path todo before reason f hf =>
    intro hnumber
    obtain ⟨hcollected, hpast⟩ := h hnumber
    refine ⟨⟨hpast, fun g hg _ => ?_⟩, ?_⟩
    · cases hf.symm.trans hg
      rfl
    · split
      · rename_i htodo
        subst htodo
        exact collected_last_read _ hcollected hf
      · exact hcollected.capture
  | restat attempt path todo before content reason f hf hstat =>
    intro hnumber
    obtain ⟨hread, hcollected⟩ := h hnumber
    have hbytes : f.bytes = content := hread.same f hf (by rw [hstat]; rfl)
    have hcontents : ({ attempt with
        captured := attempt.captured ++ [(path, content, f.executable)] } : Attempt).contents =
        attempt.contents ++ [(path, content)] := by
      simp [Attempt.contents]
    change Collected isDisallowed _ _ (Attempt.contents _) todo
    rw [hcontents]
    split at hcollected
    · rename_i htodo
      subst htodo
      exact hcollected.capture
    · rename_i htodo
      exact (hcollected.checked htodo hf hbytes).capture

theorem progress_of_run {w : World} (hrun : Run (Step isDisallowed) (callIn w) tr s)
    (hquiet : ∀ t ∈ tr, Undisturbed isDisallowed number t) :
    Progress isDisallowed number tr s := by
  induction hrun with
  | nil => trivial
  | @snoc tr s s' m _ hstep ih =>
    obtain ⟨hlast, hearlier⟩ := List.forall_mem_cons.mp hquiet
    have hprogress := ih hearlier
    cases m with
    | environment act =>
      cases hstep
      exact progress_environment hprogress hlast
    | capture =>
      obtain ⟨control, hadvance, rfl⟩ := Option.map_eq_some_iff.mp hstep
      exact progress_capture hprogress (advances_of_advance hadvance)

end Steps

/-! ### The call ends -/

/-- Attempts left, then steps left in the attempt. -/
def Control.rank : Control → ℕ ×ₗ ℕ
  | .list number _ => toLex (2 * (2 - number) + 2, 0)
  | .stat attempt todo _ => toLex (2 * (2 - attempt.number) + 1, 3 * todo.length)
  | .read attempt _ todo _ _ => toLex (2 * (2 - attempt.number) + 1, 3 * todo.length + 2)
  | .restat attempt _ todo _ _ _ => toLex (2 * (2 - attempt.number) + 1, 3 * todo.length + 1)
  | .returned _ => toLex (0, 0)
  | .raised _ => toLex (0, 0)

theorem rank_nextAttempt_lt (number : Nat) (reason : Reason) (steps : Nat) :
    (nextAttempt number reason).rank < toLex (2 * (2 - number) + 1, steps) := by
  unfold nextAttempt
  split
  · apply Prod.Lex.toLex_lt_toLex.mpr
    left
    dsimp only
    omega
  · apply Prod.Lex.toLex_lt_toLex.mpr
    left
    dsimp only
    omega

theorem rank_lt {tree : Tree} {control control' : Control}
    (h : Advances isDisallowed tree control control') : control'.rank < control.rank := by
  cases h with
  | list number reason =>
    apply Prod.Lex.toLex_lt_toLex.mpr
    exact .inl (Nat.lt_succ_self _)
  | finish attempt reason _ =>
    apply Prod.Lex.toLex_lt_toLex.mpr
    exact .inl (Nat.succ_pos _)
  | giveUp _ number reason hnumber =>
    cases control <;> cases hnumber <;> exact rank_nextAttempt_lt _ _ _
  | stat attempt path todo reason f _ =>
    apply Prod.Lex.toLex_lt_toLex.mpr
    right
    refine ⟨rfl, ?_⟩
    rw [List.length_cons]
    omega
  | read attempt path todo before reason f _ =>
    apply Prod.Lex.toLex_lt_toLex.mpr
    exact .inr ⟨rfl, Nat.lt_succ_self _⟩
  | restat attempt path todo before content reason f _ _ =>
    apply Prod.Lex.toLex_lt_toLex.mpr
    exact .inr ⟨rfl, Nat.lt_succ_self _⟩

/-- Whatever the trees are that it sees, the call makes finitely many steps. -/
theorem wellFounded_advance :
    WellFounded fun control' control =>
      ∃ tree, advance isDisallowed tree control = some control' := by
  apply Subrelation.wf (r := InvImage (· < ·) Control.rank)
  · rintro control' control ⟨tree, h⟩
    exact rank_lt (advances_of_advance h)
  · exact InvImage.wf _ wellFounded_lt

/-- A call that cannot go on has returned or raised. -/
theorem ended_of_advance_eq_none {tree : Tree} {control : Control}
    (h : advance isDisallowed tree control = none) :
    (∃ attempt, control = .returned attempt) ∨ ∃ reason, control = .raised reason := by
  cases control with
  | list number reason => cases h
  | stat attempt todo reason =>
    cases todo with
    | nil =>
      simp only [advance] at h
      split at h <;> cases h
    | cons path todo =>
      simp only [advance] at h
      split at h <;> cases h
  | read attempt path todo before reason =>
    simp only [advance] at h
    split at h <;> cases h
  | restat attempt path todo before content reason =>
    simp only [advance] at h
    split at h
    · cases h
    · split at h <;> cases h
  | returned attempt => exact .inl ⟨attempt, rfl⟩
  | raised reason => exact .inr ⟨reason, rfl⟩

end Capture

/-! ### Two files of one change -/

def emptyWorld : World :=
  ⟨⟨fun _ => none, [], List.nodup_nil, by simp⟩, 0, by simp⟩

/-- Both files are at version 1. -/
def versionOne : World := (emptyWorld.act (.write "a.py" [1] false)).act (.write "b.py" [1] false)

/-- A commit replaces both files after the first has been read and before the second. -/
def tornMoves : List Move :=
  [.capture, .capture, .capture, .capture, .environment (.write "a.py" [2] false),
    .environment (.write "b.py" [2] false), .capture, .capture, .capture, .capture]

def replayMove (s : CaptureState) (m : Move) : Option (Move × CaptureState) :=
  (step isDisallowedRelative s m).map fun s' => (m, s')

theorem step_of_replayMove (s : CaptureState) (a l : Move) (s' : CaptureState)
    (h : replayMove s a = some (l, s')) : Step isDisallowedRelative s l s' := by
  obtain ⟨s'', hs'', heq⟩ := Option.map_eq_some_iff.mp h
  cases heq
  exact hs''

def returnsMixture (out : List (Transition CaptureState Move) × CaptureState) : Bool :=
  match out.2.control with
  | .returned attempt => (visited out.1 out.2).all fun s =>
      decide (eligibleMap isDisallowedRelative s.world.tree ≠ attempt.contents)
  | _ => false

def returnsAlone (out : List (Transition CaptureState Move) × CaptureState) : Bool :=
  match out.2.control with
  | .returned _ => out.1.all fun t => decide (t.label = .capture)
  | _ => false

end ProductionOptimizer.StableCapture
