import Mathlib.Logic.Function.Basic
import ProductionOptimizer.Handlers.PolicyDecision

/-!
# Committing a kept patch into the real repository

`_apply_patch_to_real_repo` of S06.90 with the refs it writes. Every git call either has its
documented effect or fails without one; the clean-up in the `finally` block ignores failures.
-/

namespace ProductionOptimizer.RepositoryApply
set_option autoImplicit false

inductive Head where
  | onBranch (name : String)
  | detached (revision : String)
  deriving DecidableEq, Repr

structure Repository where
  head : Head
  branches : String → Option String
  parent : String → Option String
  /-- The branches that other worktrees have checked out. -/
  worktrees : List String

/-- `git rev-parse HEAD`; a branch without a commit has none. -/
def Repository.revision (repo : Repository) : Option String :=
  match repo.head with
  | .onBranch name => repo.branches name
  | .detached revision => some revision

/-- Which of the calls succeed. A git call that may succeed can still be refused. -/
structure Calls where
  readHead : Bool := true
  makeDir : Bool := true
  worktreeAdd : Bool := true
  writePatch : Bool := true
  applyCheck : Bool := true
  apply : Bool := true
  add : Bool := true
  commit : Bool := true
  readCommit : Bool := true
  sealResult : Bool := true
  worktreeRemove : Bool := true
  branchDelete : Bool := true
  /-- The name that git gives the new commit. -/
  newCommit : String

/-! ### The git calls -/

def Repository.withBranch (repo : Repository) (branch revision : String) : Repository :=
  { repo with branches := Function.update repo.branches branch (some revision) }

/-- `git worktree add -b` refuses a branch that exists or that a worktree has checked out. -/
def worktreeAdd (succeeds : Bool) (branch base : String) (repo : Repository) :
    Option Repository :=
  if succeeds ∧ repo.branches branch = none ∧ branch ∉ repo.worktrees then
    some (repo.withBranch branch base)
  else none

/-- `git commit` in a worktree on `branch`. -/
def commit (succeeds : Bool) (branch sha : String) (repo : Repository) : Option Repository :=
  match repo.branches branch with
  | some tip =>
    if succeeds then
      some { repo.withBranch branch sha with parent := Function.update repo.parent sha (some tip) }
    else none
  | none => none

/-- Whether a worktree has the branch checked out, the main one included. -/
def CheckedOut (branch : String) (repo : Repository) : Prop :=
  repo.head = .onBranch branch ∨ branch ∈ repo.worktrees

instance (branch : String) (repo : Repository) : Decidable (CheckedOut branch repo) :=
  inferInstanceAs (Decidable (_ ∨ _))

/-- `git branch -D` refuses a branch that is checked out, `registered` saying so of the
temporary worktree. -/
def branchDelete (succeeds : Bool) (branch : String) (registered : Bool) (repo : Repository) :
    Repository :=
  if succeeds ∧ registered = false ∧ ¬ CheckedOut branch repo then
    { repo with branches := Function.update repo.branches branch none }
  else repo

/-! ### `_apply_patch_to_real_repo` -/

abbrev ApplyOutcome := Except ApplyFailure (String × String)

/-- From the patch file to the second `rev-parse`, in the temporary worktree. Without an
outcome the call has raised. -/
def applyInWorktree (calls : Calls) (branch : String) (repo : Repository) :
    Repository × Option ApplyOutcome :=
  if !calls.writePatch then (repo, none)
  else if !calls.applyCheck then (repo, some (.error .applyCheck))
  else if !calls.apply then (repo, some (.error .apply))
  else if !calls.add then (repo, some (.error .add))
  else
    match commit calls.commit branch calls.newCommit repo with
    | none => (repo, some (.error .commit))
    | some committed =>
      match committed.branches branch with
      | none => (committed, some (.error .revParse))
      | some sha =>
        if !calls.readCommit then (committed, some (.error .revParse))
        else (committed, some (.ok (branch, sha)))

def Succeeded (outcome : Option ApplyOutcome) : Bool :=
  match outcome with
  | some (.ok _) => true
  | _ => false

/-- The `finally` block. `registered` says whether the temporary worktree was added. -/
def cleanUp (calls : Calls) (branch : String) (registered succeeded : Bool) (repo : Repository) :
    Repository :=
  if succeeded then repo
  else branchDelete calls.branchDelete branch (registered && !calls.worktreeRemove) repo

/-- The result is sealed before the clean-up; without one nothing was sealed. -/
def applyPatchToRealRepo (calls : Calls) (patch : PatchView) (branch : String)
    (repo : Repository) : Repository × Option ApplyOutcome :=
  let sealed := Option.filter fun _ => calls.sealResult
  if calls.readHead = false ∨ repo.revision ≠ some patch.baseRevision then
    (repo, sealed (some (.error .headMoved)))
  else if !calls.makeDir then (repo, none)
  else
    match worktreeAdd calls.worktreeAdd branch patch.baseRevision repo with
    | none => (cleanUp calls branch false false repo, sealed (some (.error .worktreeAdd)))
    | some added =>
      let applied := applyInWorktree calls branch added
      (cleanUp calls branch true (Succeeded applied.2) applied.1, sealed applied.2)

/-! ### What the calls do to the refs -/

/-- Every call after `worktree add` succeeds. -/
def Completes (calls : Calls) : Prop :=
  calls.applyCheck ∧ calls.apply ∧ calls.add ∧ calls.commit ∧ calls.readCommit

theorem branches_withBranch_self (repo : Repository) (branch revision : String) :
    (repo.withBranch branch revision).branches branch = some revision :=
  Function.update_self _ _ _

theorem worktreeAdd_eq_some {succeeds : Bool} {branch base : String} {repo added : Repository}
    (h : worktreeAdd succeeds branch base repo = some added) :
    succeeds ∧ repo.branches branch = none ∧ branch ∉ repo.worktrees ∧
      added = repo.withBranch branch base := by
  unfold worktreeAdd at h
  split at h
  · rename_i hok
    exact ⟨hok.1, hok.2.1, hok.2.2, (Option.some.inj h).symm⟩
  · cases h

theorem commit_eq_some {succeeds : Bool} {branch sha : String} {repo committed : Repository}
    (h : commit succeeds branch sha repo = some committed) :
    succeeds ∧ ∃ tip, repo.branches branch = some tip ∧
      committed = { repo.withBranch branch sha with
        parent := Function.update repo.parent sha (some tip) } := by
  unfold commit at h
  split at h
  · rename_i tip htip
    split at h
    · rename_i hok
      exact ⟨hok, tip, htip, (Option.some.inj h).symm⟩
    · cases h
  · cases h

theorem commit_eq_none {succeeds : Bool} {branch sha tip : String} {repo : Repository}
    (htip : repo.branches branch = some tip) (h : commit succeeds branch sha repo = none) :
    succeeds = false := by
  unfold commit at h
  rw [htip] at h
  cases succeeds
  · rfl
  · simp at h

/-- Only the branch of the worktree moves. -/
structure MovesOnly (branch : String) (before after : Repository) : Prop where
  head : after.head = before.head
  worktrees : after.worktrees = before.worktrees
  others : ∀ name, name ≠ branch → after.branches name = before.branches name
  kept : (after.branches branch).isSome = (before.branches branch).isSome

theorem MovesOnly.refl (branch : String) (repo : Repository) : MovesOnly branch repo repo :=
  ⟨rfl, rfl, fun _ _ => rfl, rfl⟩

/-- What the worktree is left with when a call has failed: an error is reported, unless the
patch file could not be written, which raises. -/
structure Stopped (calls : Calls) (branch : String) (before : Repository)
    (stopped : Repository × Option ApplyOutcome) : Prop where
  moves : MovesOnly branch before stopped.1
  incomplete : ¬ (calls.writePatch ∧ Completes calls)
  raised : calls.writePatch = false → stopped.2 = none
  reported : calls.writePatch → ∃ e, stopped.2 = some (.error e)

theorem Stopped.of_error {calls : Calls} {branch : String} {before after : Repository}
    {e : ApplyFailure} (hwrite : calls.writePatch) (hfail : ¬ Completes calls)
    (hmoves : MovesOnly branch before after) :
    Stopped calls branch before (after, some (.error e)) where
  moves := hmoves
  incomplete h := hfail h.2
  raised h := by simp [hwrite] at h
  reported _ := ⟨e, rfl⟩

/-- In a worktree at `base` the calls make one commit on `base`, or some call has failed. -/
theorem applyInWorktree_spec (calls : Calls) {branch base : String} {repo : Repository}
    (hbase : repo.branches branch = some base) :
    (Completes calls ∧
      applyInWorktree calls branch repo = ({ repo.withBranch branch calls.newCommit with
        parent := Function.update repo.parent calls.newCommit (some base) },
        some (.ok (branch, calls.newCommit)))) ∨
    Stopped calls branch repo (applyInWorktree calls branch repo) := by
  cases hwrite : calls.writePatch with
  | false =>
    have hraised : applyInWorktree calls branch repo = (repo, none) := by
      simp [applyInWorktree, hwrite]
    rw [hraised]
    right
    refine ⟨.refl branch repo, fun h => ?_, fun _ => rfl, fun h => ?_⟩
    · rw [hwrite] at h
      exact absurd h.1 (by decide)
    · rw [hwrite] at h
      cases h
  | true =>
    have hstop : ∀ e, ¬ Completes calls → Stopped calls branch repo (repo, some (.error e)) :=
      fun e hfail => .of_error hwrite hfail (.refl branch repo)
    unfold applyInWorktree
    rw [hwrite]
    simp only [Bool.not_true, Bool.false_eq_true, if_false]
    split
    · rename_i hcheck
      exact .inr (hstop _ fun h => by simp [h.1] at hcheck)
    split
    · rename_i happly
      exact .inr (hstop _ fun h => by simp [h.2.1] at happly)
    split
    · rename_i hadd
      exact .inr (hstop _ fun h => by simp [h.2.2.1] at hadd)
    rename_i hcheck happly hadd
    cases hcommit : commit calls.commit branch calls.newCommit repo with
    | none =>
      have hno := commit_eq_none hbase hcommit
      exact .inr (hstop _ fun h => Bool.false_ne_true (hno.symm.trans h.2.2.2.1))
    | some committed =>
      obtain ⟨hok, tip, htip, rfl⟩ := commit_eq_some hcommit
      cases hbase.symm.trans htip
      simp only [branches_withBranch_self]
      split
      · rename_i hread
        refine .inr (.of_error hwrite (fun h => by simp [h.2.2.2.2] at hread) ⟨rfl, rfl, ?_, ?_⟩)
        · intro name hne
          exact Function.update_of_ne hne _ _
        · simp [hbase, branches_withBranch_self]
      · rename_i hread
        refine .inl ⟨⟨?_, ?_, ?_, hok, ?_⟩, rfl⟩
        · simpa using hcheck
        · simpa using happly
        · simpa using hadd
        · simpa using hread

/-! ### All or nothing -/

/-- A result that was not applied leaves HEAD and the branches as they were. An applied one
leaves one new branch, at a commit on the base revision. -/
structure AllOrNothing (before : Repository) (branch base : String)
    (run : Repository × Option ApplyOutcome) : Prop where
  nothing : ∀ e, run.2 = some (.error e) →
    run.1.head = before.head ∧ run.1.branches = before.branches
  all : ∀ name sha, run.2 = some (.ok (name, sha)) →
    name = branch ∧ run.1.head = before.head ∧ before.branches branch = none ∧
      run.1.branches = Function.update before.branches branch (some sha) ∧
      run.1.parent sha = some base

/-- The calls get as far as `worktree add`, and the result will be sealed. -/
def Starts (calls : Calls) (base : String) (repo : Repository) : Prop :=
  (calls.readHead ∧ repo.revision = some base) ∧ calls.makeDir ∧ calls.sealResult

/-- What the `finally` block needs: a branch that was there before cannot be deleted, and
both calls succeed when the new branch is not to stay. -/
structure CleansUp (calls : Calls) (branch : String) (repo : Repository) : Prop where
  old : (repo.branches branch).isSome → calls.branchDelete = false ∨ CheckedOut branch repo
  new : repo.branches branch = none → branch ∉ repo.worktrees → calls.worktreeAdd →
    calls.writePatch → ¬ Completes calls → calls.worktreeRemove ∧ calls.branchDelete

section Run
variable {calls : Calls} {patch : PatchView} {branch base : String} {repo : Repository}

theorem branches_branchDelete (succeeds registered : Bool) :
    (branchDelete succeeds branch registered repo).branches =
      if succeeds ∧ registered = false ∧ ¬ CheckedOut branch repo then
        Function.update repo.branches branch none
      else repo.branches := by
  unfold branchDelete
  split <;> rfl

theorem head_branchDelete (succeeds registered : Bool) :
    (branchDelete succeeds branch registered repo).head = repo.head := by
  unfold branchDelete
  split <;> rfl

theorem update_none_eq_self_iff (branches : String → Option String) :
    Function.update branches branch none = branches ↔ branches branch = none := by
  rw [Function.update_eq_iff]
  exact ⟨fun h => h.1.symm, fun h => ⟨h.symm, fun _ _ => rfl⟩⟩

/-- HEAD has a commit, so a branch without one is not checked out there. -/
theorem not_checkedOut_of_free (hrevision : repo.revision = some base)
    (hfree : repo.branches branch = none) (hworktrees : branch ∉ repo.worktrees) :
    ¬ CheckedOut branch repo := by
  rintro (hhead | hmem)
  · unfold Repository.revision at hrevision
    rw [hhead] at hrevision
    cases hfree.symm.trans hrevision
  · exact hworktrees hmem

/-- Deleting a branch that was there before is the one way to lose it. -/
theorem old_kept_iff (succeeds : Bool) :
    (branchDelete succeeds branch false repo).branches = repo.branches ↔
      ((repo.branches branch).isSome → succeeds = false ∨ CheckedOut branch repo) := by
  rw [branches_branchDelete]
  split
  · rename_i hdeletes
    rw [update_none_eq_self_iff]
    constructor
    · intro hnone hsome
      simp [hnone] at hsome
    · intro hkept
      cases hbranch : repo.branches branch with
      | none => rfl
      | some tip =>
        rcases hkept (by simp [hbranch]) with hfalse | hout
        · exact absurd hdeletes.1 (by simp [hfalse])
        · exact absurd hout hdeletes.2.2
  · rename_i hkeeps
    refine ⟨fun _ _ => ?_, fun _ => rfl⟩
    by_cases hout : CheckedOut branch repo
    · exact .inr hout
    · left
      apply Bool.eq_false_iff.mpr
      intro hok
      exact hkeeps ⟨hok, rfl, hout⟩

/-- The new branch goes exactly if `branch -D` succeeds and the worktree is gone. -/
theorem new_removed_iff {moved : Repository} (hrevision : repo.revision = some base)
    (hfree : repo.branches branch = none) (hworktrees : branch ∉ repo.worktrees)
    (hmoves : MovesOnly branch (repo.withBranch branch base) moved)
    (succeeds registered : Bool) :
    (branchDelete succeeds branch registered moved).branches = repo.branches ↔
      succeeds ∧ registered = false := by
  have hunused : ¬ CheckedOut branch moved := by
    have hbefore := not_checkedOut_of_free hrevision hfree hworktrees
    unfold CheckedOut
    rw [hmoves.head, hmoves.worktrees]
    exact hbefore
  have hsome : (moved.branches branch).isSome := by
    rw [hmoves.kept, branches_withBranch_self]
    rfl
  rw [branches_branchDelete]
  split
  · rename_i hdeletes
    refine ⟨fun _ => ⟨hdeletes.1, hdeletes.2.1⟩, fun _ => ?_⟩
    rw [Function.update_eq_iff]
    refine ⟨hfree.symm, fun name hne => ?_⟩
    rw [hmoves.others name hne]
    exact Function.update_of_ne hne _ _
  · rename_i hkeeps
    constructor
    · intro heq
      rw [heq, hfree] at hsome
      cases hsome
    · intro hdeletes
      exact absurd ⟨hdeletes.1, hdeletes.2, hunused⟩ hkeeps

theorem allOrNothing_of_raised {after : Repository} :
    AllOrNothing repo branch base (after, none) := by
  constructor
  · intro e h
    cases h
  · intro name sha h
    cases h

theorem allOrNothing_error_iff {after : Repository} {e : ApplyFailure}
    (hhead : after.head = repo.head) :
    AllOrNothing repo branch base
        (after, (some (.error e) : Option ApplyOutcome).filter fun _ => calls.sealResult) ↔
      (calls.sealResult → after.branches = repo.branches) := by
  cases hseal : calls.sealResult with
  | false =>
    refine ⟨fun _ h => absurd h Bool.false_ne_true, fun _ => ?_⟩
    exact allOrNothing_of_raised
  | true =>
    refine ⟨fun h _ => (h.nothing e rfl).2, fun h => ⟨fun _ _ => ⟨hhead, h rfl⟩, ?_⟩⟩
    intro name sha hok
    cases hok

/-- A commit on the base revision, whether or not its result is sealed. -/
theorem allOrNothing_of_commit {after : Repository} {sha : String} (hhead : after.head = repo.head)
    (hfree : repo.branches branch = none)
    (hbranches : after.branches = Function.update repo.branches branch (some sha))
    (hparent : after.parent sha = some base) :
    AllOrNothing repo branch base (after,
      (some (.ok (branch, sha)) : Option ApplyOutcome).filter fun _ => calls.sealResult) := by
  cases hseal : calls.sealResult with
  | false => exact allOrNothing_of_raised
  | true =>
    constructor
    · intro e h
      cases h
    · intro name sha' h
      cases h
      exact ⟨rfl, hhead, hfree, hbranches, hparent⟩

/-- Once the branch is made: it stays with its commit, or the clean-up has to remove it. -/
theorem allOrNothing_added_iff (hrevision : repo.revision = some base)
    (hfree : repo.branches branch = none) (hworktrees : branch ∉ repo.worktrees) :
    AllOrNothing repo branch base
        (cleanUp calls branch true
          (Succeeded (applyInWorktree calls branch (repo.withBranch branch base)).2)
          (applyInWorktree calls branch (repo.withBranch branch base)).1,
        (applyInWorktree calls branch (repo.withBranch branch base)).2.filter
          fun _ => calls.sealResult) ↔
      (calls.sealResult → calls.writePatch → ¬ Completes calls →
        calls.worktreeRemove ∧ calls.branchDelete) := by
  rcases applyInWorktree_spec calls (branches_withBranch_self repo branch base) with
    ⟨hcomplete, heq⟩ | hstopped
  · rw [heq]
    refine ⟨fun _ _ _ hfail => absurd hcomplete hfail, fun _ => ?_⟩
    refine allOrNothing_of_commit ?_ hfree ?_ ?_
    · rfl
    · exact Function.update_idem _ _ _
    · exact Function.update_self _ _ _
  · generalize applyInWorktree calls branch (repo.withBranch branch base) = run at hstopped
    obtain ⟨moved, outcome⟩ := run
    cases hwrite : calls.writePatch with
    | false =>
      cases hstopped.raised hwrite
      exact ⟨fun _ _ h => absurd h Bool.false_ne_true, fun _ => allOrNothing_of_raised⟩
    | true =>
      obtain ⟨e, houtcome⟩ := hstopped.reported hwrite
      cases houtcome
      have hincomplete : ¬ Completes calls := fun h => hstopped.incomplete ⟨hwrite, h⟩
      have hafter : cleanUp calls branch true (Succeeded (some (.error e))) moved =
          branchDelete calls.branchDelete branch (!calls.worktreeRemove) moved := by
        simp [cleanUp, Succeeded]
      have hhead : (branchDelete calls.branchDelete branch (!calls.worktreeRemove) moved).head =
          repo.head := (head_branchDelete _ _).trans hstopped.moves.head
      dsimp only
      rw [hafter, allOrNothing_error_iff hhead,
        new_removed_iff hrevision hfree hworktrees hstopped.moves]
      refine forall_congr' fun _ => ⟨fun h _ _ => ⟨by simpa using h.2, h.1⟩, fun h => ?_⟩
      have hcleaned := h rfl hincomplete
      exact ⟨hcleaned.2, by simpa using hcleaned.1⟩

/-- Every repository and every pattern of failures: the apply is all or nothing exactly if
the clean-up finds nothing that it must not delete and deletes what it must. -/
theorem all_or_nothing_iff (calls : Calls) (patch : PatchView) (branch : String)
    (repo : Repository) :
    AllOrNothing repo branch patch.baseRevision (applyPatchToRealRepo calls patch branch repo) ↔
      (Starts calls patch.baseRevision repo → CleansUp calls branch repo) := by
  unfold applyPatchToRealRepo
  dsimp only
  split
  · -- drift: nothing has been written yet
    rename_i hdrift
    rw [allOrNothing_error_iff rfl]
    refine ⟨fun _ hstarts => ?_, fun _ _ => rfl⟩
    rcases hdrift with hread | hne
    · exact absurd hstarts.1.1 (by simp [hread])
    · exact absurd hstarts.1.2 hne
  rename_i hhead
  have hread : calls.readHead ∧ repo.revision = some patch.baseRevision := by
    simpa using hhead
  split
  · rename_i hdir
    refine ⟨fun _ hstarts => ?_, fun _ => allOrNothing_of_raised⟩
    exact absurd hstarts.2.1 (by simpa using hdir)
  rename_i hdir
  have hstarts : Starts calls patch.baseRevision repo ↔ calls.sealResult :=
    ⟨fun h => h.2.2, fun h => ⟨hread, by simpa using hdir, h⟩⟩
  rw [hstarts]
  cases hadd : worktreeAdd calls.worktreeAdd branch patch.baseRevision repo with
  | none =>
    dsimp only [cleanUp]
    simp only [Bool.false_eq_true, if_false, Bool.false_and]
    rw [allOrNothing_error_iff (head_branchDelete _ _), old_kept_iff]
    refine forall_congr' fun _ => ⟨fun hold => ⟨hold, ?_⟩, fun h => h.old⟩
    intro hfree hworktrees hok
    unfold worktreeAdd at hadd
    rw [if_pos ⟨hok, hfree, hworktrees⟩] at hadd
    cases hadd
  | some added =>
    obtain ⟨hok, hfree, hworktrees, rfl⟩ := worktreeAdd_eq_some hadd
    dsimp only
    rw [allOrNothing_added_iff hread.2 hfree hworktrees]
    refine forall_congr' fun _ => ⟨fun hnew => ⟨?_, ?_⟩, fun h => ?_⟩
    · intro hsome
      simp [hfree] at hsome
    · intro _ _ _ hwrite hfail
      exact hnew hwrite hfail
    · exact h.new hfree hworktrees hok

/-- The answers of git that S06.90's handler sees in a run. -/
def answersIn (calls : Calls) (base branch : String) (repo : Repository) (a : Answers) : Answers :=
  { a with
    headRevision := if calls.readHead then repo.revision else none
    worktreeForApply := (worktreeAdd calls.worktreeAdd branch base repo).isSome
    applyCheck := calls.applyCheck
    applyPatch := calls.apply
    addFiles := calls.add
    commitPatch := calls.commit
    commitSha := if calls.readCommit then some calls.newCommit else none }

theorem outcome_applyInWorktree (hwrite : calls.writePatch)
    (hbase : repo.branches branch = some base) :
    (applyInWorktree calls branch repo).2 = some
      (if !calls.applyCheck then .error .applyCheck
      else if !calls.apply then .error .apply
      else if !calls.add then .error .add
      else if !calls.commit then .error .commit
      else if !calls.readCommit then .error .revParse
      else .ok (branch, calls.newCommit)) := by
  unfold applyInWorktree commit
  rw [hwrite, hbase]
  cases calls.applyCheck
  · rfl
  cases calls.apply
  · rfl
  cases calls.add
  · rfl
  cases calls.commit
  · rfl
  cases calls.readCommit <;> simp [branches_withBranch_self]

/-- What is sealed is what the handler of S06.90 seals on these answers. -/
theorem outcome_eq_applyPatch (hdir : calls.makeDir) (hwrite : calls.writePatch)
    (hseal : calls.sealResult) (a : Answers) :
    (applyPatchToRealRepo calls patch branch repo).2 =
      some (applyPatch (answersIn calls patch.baseRevision branch repo a) patch branch) := by
  unfold applyPatchToRealRepo applyPatch answersIn
  simp only [hdir, hseal]
  cases hread : calls.readHead with
  | false => simp
  | true =>
    by_cases hhead : repo.revision = some patch.baseRevision
    · simp only [hhead]
      cases hadd : worktreeAdd calls.worktreeAdd branch patch.baseRevision repo with
      | none => simp
      | some added =>
        obtain ⟨_, _, _, rfl⟩ := worktreeAdd_eq_some hadd
        have hbase := branches_withBranch_self repo branch patch.baseRevision
        have houtcome := outcome_applyInWorktree hwrite hbase
        cases hreads : calls.readCommit <;> simp [houtcome, hreads]
    · simp [hhead]

end Run

/-- A branch of an earlier apply, `main` checked out. -/
def appliedBefore : Repository where
  head := .onBranch "main"
  branches name :=
    if name = "main" then some "v1" else if name = "optimizer/case-p1" then some "c0" else none
  parent _ := none
  worktrees := []

/-- No call fails, but the branch is there: the second apply deletes the first one's commit. -/
theorem earlier_branch_deleted :
    (applyPatchToRealRepo { newCommit := "c1" } ⟨"p1", "v1", ["a.py"], true⟩ "optimizer/case-p1"
        appliedBefore).2 = some (.error .worktreeAdd) ∧
      ¬ AllOrNothing appliedBefore "optimizer/case-p1" "v1"
        (applyPatchToRealRepo { newCommit := "c1" } ⟨"p1", "v1", ["a.py"], true⟩
          "optimizer/case-p1" appliedBefore) := by
  refine ⟨rfl, fun h => ?_⟩
  have hkept := congrFun (h.nothing .worktreeAdd rfl).2 "optimizer/case-p1"
  revert hkept
  decide

end ProductionOptimizer.RepositoryApply
