import Mathlib.Data.List.Infix
import ProductionOptimizer.Handlers.Convergence
import ProductionOptimizer.Handlers.PolicyDecision

/-!
# Which directory do the git checks look at?

`A2.20` reads the revision of the requester's work tree and hands on the path of a copy
under the temp directory, made without `.git`. C0.50, S03.20, S06.60 and S06.90 run git in
the copy.
-/

namespace ProductionOptimizer
set_option autoImplicit false

abbrev Path := List String

structure DiskFile where
  path : Path
  content : String
  executable : Bool
  deriving DecidableEq, Repr

/-- The files of a host, and for each work tree what git says about it. -/
structure Disk where
  files : List DiskFile
  head : Path → String
  changes : Path → List String

namespace Disk

/-- Whether `.git` is a file or a directory with files in `dir`. -/
def hasGit (d : Disk) (dir : Path) : Bool :=
  d.files.any fun f => (dir ++ [".git"]).isPrefixOf f.path

/-- `git rev-parse --show-toplevel`: the nearest directory upwards with a `.git` entry. -/
def toplevel (d : Disk) (dir : Path) : Option Path := dir.inits.reverse.find? d.hasGit

def revParseHead (d : Disk) (dir : Path) : Option String := (d.toplevel dir).map d.head

def statusPorcelain (d : Disk) (dir : Path) : Option (List String) :=
  (d.toplevel dir).map d.changes

end Disk

def disallowedPaths : List String :=
  [".git", ".env", "node_modules", "venv", ".venv", "__pycache__", ".pytest_cache"]

def isDisallowedPath (relative : Path) : Bool := relative.any (disallowedPaths.contains ·)

/-- `_capture_stable_source`, with the paths made relative. -/
def captureSource (d : Disk) (root : Path) : List DiskFile :=
  ((d.files.filter fun f => root.isPrefixOf f.path).map fun f =>
    { f with path := f.path.drop root.length }).filter (!isDisallowedPath ·.path)

inductive CaptureFailure where
  | revisionMismatch
  | unexpectedFiles
  | digestCollision
  deriving DecidableEq, Repr

/-- One round of the loop of `_materialize_immutable_workspace`. -/
def writeCaptured (target : Path) (files : List DiskFile) (captured : DiskFile) :
    Except CaptureFailure (List DiskFile) :=
  match files.find? (·.path == target ++ captured.path) with
  | some existing =>
    if existing.content = captured.content then .ok files else .error .digestCollision
  | none => .ok (files ++ [{ captured with path := target ++ captured.path }])

def materializeWorkspace (d : Disk) (target : Path) (captured : List DiskFile) :
    Except CaptureFailure Disk := do
  if d.files.any fun f => target.isPrefixOf f.path &&
      !captured.any fun g => target ++ g.path == f.path then
    .error .unexpectedFiles
  else
    let files ← captured.foldlM (writeCaptured target) d.files
    .ok { d with files := files }

def snapshotsDir (tmp : Path) : Path := tmp ++ ["production-optimizer", "a2-snapshots"]

structure CapturedSource where
  canonicalPathRef : Path
  gitRevision : Option String
  deriving DecidableEq, Repr

/-- What a local source is captured with. The digest of the archive names the copy. -/
structure CaptureRequest where
  tmp : Path
  source : Path
  requestedRevision : Option String
  archiveDigest : List DiskFile → String

/-- A revision is recorded only for a directory that is the root of its work tree. -/
def resolvedRevision (d : Disk) (source : Path) : Option String :=
  if d.toplevel source = some source ∧ d.head source ≠ "" then some (d.head source) else none

/-- `A2.20` for a local source. -/
def handleA220 (d : Disk) (request : CaptureRequest) :
    Except CaptureFailure (CapturedSource × Disk) := do
  let revision := resolvedRevision d request.source
  if request.requestedRevision.any fun r => revision != some r then .error .revisionMismatch
  else
    let captured := captureSource d request.source
    let target := snapshotsDir request.tmp ++ [request.archiveDigest captured]
    let after ← materializeWorkspace d target captured
    .ok (⟨target, revision⟩, after)

def CapturedSource.snapshot (c : CapturedSource) : SourceSnapshot :=
  ⟨"/" ++ "/".intercalate c.canonicalPathRef, c.gitRevision⟩

/-- What git answers in `root` at the time of `d`. -/
def answersAt (d : Disk) (root : Path) (a : Answers) : Answers :=
  { a with
    worktreeAdded := (d.toplevel root).isSome
    statusIsClean := decide (d.statusPorcelain root = some [])
    headRevision := d.revParseHead root
    worktreeForApply := a.worktreeForApply && (d.toplevel root).isSome }

def caseAnswersAt (d : Disk) (root : Path) (a : CaseAnswers) : CaseAnswers :=
  { a with revParseHead := fun _ => d.revParseHead root }

/-- `S06.60` and `S06.70` on a revert leave it one. -/
def RevertStands (a : Answers) (s : OptimizationState) : Prop :=
  ∀ rollback, handleS0660 a s = .ok rollback →
    rollback.updates = [.s06Rollback ⟨true, true⟩] ∧
    ∀ routed, handleS0670 a (s.setAll rollback.updates) = .ok routed →
      routed.updates = [.s06Decision .revert]

/-- The checks of the later stages are about the repository at `source`, from which
revision `v` was read. -/
structure ChecksRepository (d : Disk) (source : Path) (v : String) (c : CapturedSource) : Prop where
  toplevel : d.toplevel c.canonicalPathRef = some source
  stale : d.head source ≠ v → ∀ a : CaseAnswers, a.pathExists c.snapshot.canonicalPathRef = true →
    sourceFresh (caseAnswersAt d c.canonicalPathRef a) c.snapshot.canonicalPathRef (some v) = false
  rollback : d.changes source = [] → ∀ a s, s.s06Decision = some .revert →
    s.readSnapshot = .ok c.snapshot → RevertStands (answersAt d c.canonicalPathRef a) s
  drift : d.head source = v → ∀ a patch branchName, patch.baseRevision = v →
    applyPatch (answersAt d c.canonicalPathRef a) patch branchName ≠ .error .headMoved

section Copies
variable {d after : Disk} {target : Path}

theorem mem_captureSource {root : Path} {f : DiskFile} (h : f ∈ captureSource d root) :
    ".git" ∉ f.path := by
  intro hgit
  have hallowed := (List.mem_filter.mp h).2
  have hdisallowed : isDisallowedPath f.path = true :=
    List.any_eq_true.mpr ⟨".git", hgit, by decide⟩
  rw [hdisallowed] at hallowed
  cases hallowed

theorem writeCaptured_ok {files out : List DiskFile} {captured : DiskFile}
    (h : writeCaptured target files captured = .ok out) {f : DiskFile} (hf : f ∈ out) :
    f ∈ files ∨ f.path = target ++ captured.path := by
  unfold writeCaptured at h
  split at h
  · split at h
    · cases h
      exact Or.inl hf
    · cases h
  · cases h
    rcases List.mem_append.mp hf with hf | hf
    · exact Or.inl hf
    · rw [List.mem_singleton.mp hf]
      exact Or.inr rfl

theorem writeAll_ok {captured files out : List DiskFile}
    (h : captured.foldlM (writeCaptured target) files = .ok out) {f : DiskFile} (hf : f ∈ out) :
    f ∈ files ∨ ∃ g ∈ captured, f.path = target ++ g.path := by
  induction captured generalizing files with
  | nil =>
    cases h
    exact Or.inl hf
  | cons g captured ih =>
    rw [List.foldlM_cons] at h
    obtain ⟨mid, hmid, h⟩ := except_bind_ok h
    rcases ih h with hold | ⟨g', hg', hpath⟩
    · rcases writeCaptured_ok hmid hold with hold | hpath
      · exact Or.inl hold
      · exact Or.inr ⟨g, List.mem_cons_self, hpath⟩
    · exact Or.inr ⟨g', List.mem_cons_of_mem _ hg', hpath⟩

theorem materializeWorkspace_ok {captured : List DiskFile}
    (h : materializeWorkspace d target captured = .ok after) {f : DiskFile}
    (hf : f ∈ after.files) (hunder : target <+: f.path) :
    ∃ g ∈ captured, f.path = target ++ g.path := by
  unfold materializeWorkspace at h
  split at h
  · cases h
  · rename_i hexpected
    obtain ⟨files, hfiles, h⟩ := except_bind_ok h
    cases h
    rcases writeAll_ok hfiles hf with hold | hnew
    · by_contra hnone
      refine hexpected (List.any_eq_true.mpr ⟨f, hold, ?_⟩)
      have hno : captured.any (fun g => target ++ g.path == f.path) = false := by
        rw [List.any_eq_false]
        intro g hg heq
        exact hnone ⟨g, hg, (by simpa using heq : target ++ g.path = f.path).symm⟩
      simp [hno, List.isPrefixOf_iff_prefix, hunder]
    · exact hnew

theorem hasGit_workspace {root : Path}
    (h : materializeWorkspace d target (captureSource d root) = .ok after) :
    after.hasGit target = false := by
  rw [Disk.hasGit, List.any_eq_false]
  intro f hf hgit
  have hwithin := List.isPrefixOf_iff_prefix.mp hgit
  obtain ⟨g, hg, hpath⟩ := materializeWorkspace_ok h hf ((List.prefix_append _ _).trans hwithin)
  rw [hpath, List.prefix_append_right_inj] at hwithin
  exact mem_captureSource hg (hwithin.subset (List.mem_singleton_self ".git"))

end Copies

/-- Nobody writes into the workspace after it was made. -/
def LeftAlone (target : Path) (after later : Disk) : Prop :=
  ∀ f, target <+: f.path → f ∈ later.files → f ∈ after.files

/-- The temp directory lies in no work tree, and A2 keeps no repository there. -/
def OutsideWorkTrees (d : Disk) (tmp : Path) : Prop := d.toplevel (snapshotsDir tmp) = none

section Runs
variable {d after later : Disk} {request : CaptureRequest} {c : CapturedSource} {v : String}

theorem handleA220_ok (h : handleA220 d request = .ok (c, after)) :
    c.gitRevision = resolvedRevision d request.source ∧
      ∃ name, c.canonicalPathRef = snapshotsDir request.tmp ++ [name] ∧
        materializeWorkspace d c.canonicalPathRef (captureSource d request.source) = .ok after := by
  unfold handleA220 at h
  dsimp only at h
  split at h
  · cases h
  · obtain ⟨disk, hdisk, h⟩ := except_bind_ok h
    cases h
    exact ⟨rfl, _, rfl, hdisk⟩

theorem resolvedRevision_some {source : Path} (h : resolvedRevision d source = some v) :
    d.toplevel source = some source ∧ d.head source = v ∧ v ≠ "" := by
  unfold resolvedRevision at h
  split at h
  · rename_i hexact
    cases h
    exact ⟨hexact.1, rfl, hexact.2⟩
  · cases h

/-- Git finds no work tree at `canonical_path_ref`, then or later. -/
theorem toplevel_workspace (h : handleA220 d request = .ok (c, after))
    (halone : LeftAlone c.canonicalPathRef after later)
    (htemp : OutsideWorkTrees later request.tmp) : later.toplevel c.canonicalPathRef = none := by
  obtain ⟨_, name, hpath, hcopy⟩ := handleA220_ok h
  rw [Disk.toplevel, List.find?_eq_none]
  intro dir hdir hgit
  rw [List.mem_reverse, List.mem_inits, hpath, List.prefix_concat_iff] at hdir
  rcases hdir with hroot | hparent
  · rw [← hpath] at hroot
    obtain ⟨f, hf, hwithin⟩ := List.any_eq_true.mp hgit
    have hunder : c.canonicalPathRef <+: f.path := by
      rw [hroot] at hwithin
      exact (List.prefix_append _ _).trans (List.isPrefixOf_iff_prefix.mp hwithin)
    have hnone := hasGit_workspace hcopy
    rw [Disk.hasGit, List.any_eq_false] at hnone
    exact hnone f (halone f hunder hf) (hroot ▸ hwithin)
  · have hnone := List.find?_eq_none.mp htemp dir (by
      rw [List.mem_reverse, List.mem_inits]
      exact hparent)
    exact hnone hgit

variable {root : Path}

/-- `C0.50` has nothing to compare and calls the source fresh. -/
theorem sourceFresh_of_no_worktree (hnone : later.toplevel root = none) (a : CaseAnswers)
    (path : String) (revision : Option String) :
    sourceFresh (caseAnswersAt later root a) path revision = true := by
  unfold sourceFresh
  split
  · rfl
  · split
    · simp [caseAnswersAt, Disk.revParseHead, hnone]
    · rfl

/-- `S06.60` cannot verify the rollback, so `S06.70` escalates. -/
theorem escalates_of_no_worktree (hnone : later.toplevel root = none) {a : Answers}
    {s : OptimizationState} {snapshot : SourceSnapshot} (hsnapshot : s.readSnapshot = .ok snapshot)
    (hrevision : snapshot.gitRevision.any (· != "") = true) (hrevert : s.s06Decision = some .revert)
    {rollback : NodeExecution} (h : handleS0660 (answersAt later root a) s = .ok rollback) :
    rollback.updates = [.s06Rollback ⟨true, false⟩] ∧
      handleS0670 (answersAt later root a) (s.setAll rollback.updates) =
        .ok { updates := [.s06Decision .escalate] } := by
  unfold handleS0660 at h
  rw [if_neg (not_not.mpr hrevert), hsnapshot] at h
  obtain ⟨_, hok, h⟩ := except_bind_ok h
  cases hok
  obtain ⟨_, _, h⟩ := except_bind_ok h
  obtain ⟨_, _, h⟩ := except_bind_ok h
  obtain ⟨_, _, h⟩ := except_bind_ok h
  cases h
  have hdirty : (answersAt later root a).statusIsClean = false := by
    simp [answersAt, Disk.statusPorcelain, hnone]
  have hupdates : (!snapshot.gitRevision.any (· != "") ||
      (answersAt later root a).statusIsClean) = false := by
    rw [hrevision, hdirty]
    rfl
  dsimp only
  rw [hupdates]
  refine ⟨rfl, ?_⟩
  have hdecision : (s.setAll [.s06Rollback ⟨true, false⟩]).s06Decision = some .revert := hrevert
  have hrollback : (s.setAll [.s06Rollback ⟨true, false⟩]).s06Rollback = some ⟨true, false⟩ := rfl
  simp [handleS0670, hdecision, hrollback]

/-- `S06.90` takes the missing answer for a moved HEAD. -/
theorem applyPatch_of_no_worktree (hnone : later.toplevel root = none) (a : Answers)
    (patch : PatchView) (branchName : String) :
    applyPatch (answersAt later root a) patch branchName = .error .headMoved := by
  unfold applyPatch
  have hhead : (answersAt later root a).headRevision = none := by
    simp [answersAt, Disk.revParseHead, hnone]
  rw [hhead, if_pos (by simp)]

/-- Whatever happens to the requester's repository, the checks do not see it: a moved HEAD
is called fresh, a clean tree is not verified, and an unmoved HEAD is refused. -/
theorem checks_miss_repository (h : handleA220 d request = .ok (c, after))
    (hrevision : c.gitRevision = some v)
    (halone : LeftAlone c.canonicalPathRef after later)
    (htemp : OutsideWorkTrees later request.tmp) :
    (later.head request.source ≠ v → ∀ a,
      sourceFresh (caseAnswersAt later c.canonicalPathRef a) c.snapshot.canonicalPathRef (some v) =
        true) ∧
    (later.changes request.source = [] → ∀ a s rollback, s.s06Decision = some .revert →
      s.readSnapshot = .ok c.snapshot →
      handleS0660 (answersAt later c.canonicalPathRef a) s = .ok rollback →
      rollback.updates = [.s06Rollback ⟨true, false⟩] ∧
        handleS0670 (answersAt later c.canonicalPathRef a) (s.setAll rollback.updates) =
          .ok { updates := [.s06Decision .escalate] }) ∧
    (later.head request.source = v → ∀ a patch branchName,
      applyPatch (answersAt later c.canonicalPathRef a) patch branchName = .error .headMoved) ∧
    ¬ ChecksRepository later request.source v c := by
  have hnone := toplevel_workspace h halone htemp
  refine ⟨?_, ?_, ?_, ?_⟩
  · intro _ a
    exact sourceFresh_of_no_worktree hnone a _ _
  · intro _ a s rollback hrevert hsnapshot hrollback
    refine escalates_of_no_worktree hnone hsnapshot ?_ hrevert hrollback
    obtain ⟨_, _, hversioned⟩ := resolvedRevision_some ((handleA220_ok h).1.symm.trans hrevision)
    rw [CapturedSource.snapshot, hrevision]
    simpa using hversioned
  · intro _ a patch branchName
    exact applyPatch_of_no_worktree hnone a patch branchName
  · intro hchecks
    by_cases hmoved : later.head request.source = v
    · exact hchecks.drift hmoved {} ⟨"", v, [], true⟩ "" rfl
        (applyPatch_of_no_worktree hnone {} _ _)
    · have hstale := hchecks.stale hmoved {} rfl
      rw [sourceFresh_of_no_worktree hnone] at hstale
      cases hstale

end Runs

/-! ### A clean repository whose HEAD stays where it is -/

def repositoryPath : Path := ["home", "owner", "repo"]

def ownerDisk : Disk where
  files := [⟨repositoryPath ++ [".git", "HEAD"], "ref: refs/heads/main", false⟩,
    ⟨repositoryPath ++ ["a.py"], "print(1)", false⟩]
  head _ := "v1"
  changes _ := []

def captureOwner : CaptureRequest where
  tmp := ["tmp"]
  source := repositoryPath
  requestedRevision := none
  archiveDigest files := files.length.repr

def ownerSnapshot : CapturedSource :=
  ⟨["tmp", "production-optimizer", "a2-snapshots", "1"], some "v1"⟩

def capturedDisk : Disk :=
  { ownerDisk with
    files := ownerDisk.files ++ [⟨ownerSnapshot.canonicalPathRef ++ ["a.py"], "print(1)", false⟩] }

theorem handleA220_ownerDisk :
    handleA220 ownerDisk captureOwner = .ok (ownerSnapshot, capturedDisk) := by
  rfl

def revertingState : OptimizationState where
  caseId := "case"
  threadId := "thread"
  tenantId := "tenant"
  s03ActivePhaseId := some "p1"
  s06Decision := some .revert
  artifactRefs := [⟨.base, .sourceSnapshot ownerSnapshot.snapshot⟩,
    ⟨.phasePass ⟨.S03, 80⟩ "p1" 0, .patchArtifact 0 .absent .absent "p1" ["t1"] "v1" ["a.py"] "diff"
      [] []⟩]

theorem toplevel_ownerSnapshot : capturedDisk.toplevel ownerSnapshot.canonicalPathRef = none := by
  decide +kernel

theorem owner_checks_miss :
    handleA220 ownerDisk captureOwner = .ok (ownerSnapshot, capturedDisk) ∧
      ¬ ChecksRepository capturedDisk repositoryPath "v1" ownerSnapshot := by
  refine ⟨handleA220_ownerDisk, ?_⟩
  exact (checks_miss_repository handleA220_ownerDisk rfl (fun _ _ hf => hf)
    (by unfold OutsideWorkTrees; decide +kernel)).2.2.2

/-- Nothing has moved and nothing is dirty: the revert is escalated and the patch refused.
Then HEAD moves, and the source is called fresh. -/
theorem clean_repository_misjudged :
    (∃ rollback, handleS0660 (answersAt capturedDisk ownerSnapshot.canonicalPathRef {})
        revertingState = .ok rollback ∧
      handleS0670 (answersAt capturedDisk ownerSnapshot.canonicalPathRef {})
        (revertingState.setAll rollback.updates) = .ok { updates := [.s06Decision .escalate] }) ∧
    applyPatch (answersAt capturedDisk ownerSnapshot.canonicalPathRef {}) ⟨"p1", "v1", ["a.py"], true⟩
      "optimizer/case-p1" = .error .headMoved ∧
    sourceFresh (caseAnswersAt { capturedDisk with head := fun _ => "v2" }
      ownerSnapshot.canonicalPathRef {}) ownerSnapshot.snapshot.canonicalPathRef (some "v1") = true ∧
    ¬ ChecksRepository capturedDisk repositoryPath "v1" ownerSnapshot := by
  have hrefused := applyPatch_of_no_worktree toplevel_ownerSnapshot {}
    ⟨"p1", "v1", ["a.py"], true⟩ "optimizer/case-p1"
  refine ⟨⟨_, rfl, ?_⟩, hrefused, ?_, fun hchecks => ?_⟩
  · exact (escalates_of_no_worktree toplevel_ownerSnapshot rfl rfl rfl rfl).2
  · exact sourceFresh_of_no_worktree (by decide +kernel) _ _ _
  · exact hchecks.drift rfl {} _ _ rfl hrefused

end ProductionOptimizer
