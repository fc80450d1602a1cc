import ProductionOptimizer.Handlers.ImplementPhase

/-!
# S04: verify the patched workspace

The exit codes of the repository's own commands are answers. `S04.80` only records and
routes the verdict; `S04.90` computes it again, seals it, and either promotes the phase's
tasks or bumps the pass.
-/

namespace ProductionOptimizer
set_option autoImplicit false

def mandatoryKinds : List CommandKind := [.build, .lint, .type, .unit]
def staticKinds : List CommandKind := [.build, .lint, .type]

def handleS0410 (a : Answers) (s : OptimizationState) : Except Failure NodeExecution := do
  let planRef ← s.requireRef .executionPlan
  let patchRef ← s.requirePhaseRef ⟨.S03, 80⟩ .patchArtifact
  .ok { route := if a.workspaceIsDirectory then .continue_ else .rejected
        updates := [
          .s04Manifest
            { planDigest := planRef.contentDigest
              patchDigest := patchRef.contentDigest
              workspaceOk := a.workspaceIsDirectory },
          .s04CheckResults [], .s04FailureAttributions []] }

/-- `state.get("s04_manifest") or {}`. -/
def verificationState (s : OptimizationState) : VerificationState :=
  s.s04Manifest.getD { planDigest := .absent, patchDigest := .absent, workspaceOk := false }

def handleS0420 (_ : Answers) (s : OptimizationState) : Except Failure NodeExecution := do
  let manifest ← s.readManifest
  let kinds := manifest.commands.dedup.filter (· != .benchmark)
  .ok { updates := [.s04Manifest
          { verificationState s with
            resolvedKinds := kinds.insertionSort fun x y => x.name ≤ y.name }] }

/-- A job that is refused or does not answer counts as exit code `-1`. -/
def runCheck (a : Answers) (kind : CommandKind) : CheckResult :=
  match a.checkExitCode kind with
  | some code => ⟨a.checkCommandId kind, kind, code, code == 0⟩
  | none => ⟨kind.name, kind, -1, false⟩

def runChecks (a : Answers) (s : OptimizationState) (kinds : List CommandKind) :
    Except Failure (List CheckResult) :=
  if kinds.isEmpty then .ok []
  else do
    let _ ← s.requireRef .repositoryManifest
    let _ ← requireWorkspace s
    .ok (kinds.map (runCheck a))

/-- `S04.30`, `S04.40` and `S04.50` differ in the kinds they run. -/
def checkNode (candidates : List CommandKind) (a : Answers) (s : OptimizationState) :
    Except Failure NodeExecution := do
  let kinds := candidates.filter ((verificationState s).resolvedKinds.contains ·)
  let results ← runChecks a s kinds
  .ok { updates := [.s04CheckResults (s.s04CheckResults ++ results)] }

def handleS0430 : Answers → OptimizationState → Except Failure NodeExecution :=
  checkNode staticKinds

def handleS0440 : Answers → OptimizationState → Except Failure NodeExecution :=
  checkNode [.unit]

def handleS0450 : Answers → OptimizationState → Except Failure NodeExecution :=
  checkNode [.integration, .security]

def underRoot (path root : String) : Bool :=
  path == root || (root ++ "/").toList.isPrefixOf path.toList

structure PatchView where
  phaseId : String
  baseRevision : String
  changedFiles : List String
  inScope : Bool

def readPatch (ref : ArtifactRef) : Except Failure PatchView :=
  match ref.contentDigest with
  | .patchArtifact _ _ _ phaseId _ baseRevision files _ violations _ =>
    .ok ⟨phaseId, baseRevision, files, violations.isEmpty⟩
  | _ => .error (.unreadable .patchArtifact)

def handleS0460 (_ : Answers) (s : OptimizationState) : Except Failure NodeExecution := do
  let patchRef ← s.requirePhaseRef ⟨.S03, 80⟩ .patchArtifact
  let patch ← readPatch patchRef
  let manifest ← s.readManifest
  .ok { updates := [.s04Manifest
          { verificationState s with
            touchedExistingTestFiles := patch.changedFiles.filter fun path =>
              manifest.testRoots.any (underRoot path) }] }

/-- Whether the baseline already recorded a failing run of this kind. -/
def failsInBaseline (baseline : BaselineSnapshot) (kind : CommandKind) : Bool :=
  baseline.aggregates.any fun aggregate =>
    aggregate.metricId == kind.metricId && aggregate.mean != 0

def readBaselineIfAny (s : OptimizationState) : Except Failure (Option BaselineSnapshot) :=
  match s.tryRef .baselineSnapshot with
  | none => .ok none
  | some _ => do
    let baseline ← s.readBaseline
    .ok (some baseline)

def handleS0470 (_ : Answers) (s : OptimizationState) : Except Failure NodeExecution :=
  let failed := s.s04CheckResults.filter (!·.passed)
  if failed.isEmpty then .ok { updates := [.s04FailureAttributions []] }
  else do
    let baseline ← readBaselineIfAny s
    .ok { updates := [.s04FailureAttributions (failed.map fun result =>
            ⟨result.kind, if baseline.any (failsInBaseline · result.kind)
              then .baselineExistingFailure else .patchRegression⟩)] }

/-- The verdict that `S04.80` and `S04.90` each compute: a mandatory check ran and
nothing that ran failed. -/
def checksPassed (results : List CheckResult) : Bool :=
  results.any (mandatoryKinds.contains ·.kind) && results.all (·.passed)

def handleS0480 (_ : Answers) (s : OptimizationState) : Except Failure NodeExecution :=
  let passed := checksPassed s.s04CheckResults
  .ok { route := if passed then .continue_ else .revision
        updates := [.s04Manifest { verificationState s with gatePassed := some passed }] }

def noChecksResolved : CheckResult := ⟨"no-checks-resolved", .integration, 1, false⟩

def handleS0490 (a : Answers) (s : OptimizationState) : Except Failure NodeExecution := do
  let patchRef ← s.requirePhaseRef ⟨.S03, 80⟩ .patchArtifact
  let provenanceRef ← s.requirePhaseRef ⟨.S03, 80⟩ .executionProvenance
  let tasks ← s.readTaskList
  let phaseId ← s.activePhaseId
  let stageId ← s.phaseStage ⟨.S04, 90⟩
  let passed := checksPassed s.s04CheckResults
  let results := if s.s04CheckResults.isEmpty then [noChecksResolved] else s.s04CheckResults
  .ok { artifactRefs := [⟨stageId, .verificationReport a.now patchRef.contentDigest
          provenanceRef.contentDigest phaseId results s.s04FailureAttributions passed⟩]
        updates :=
          if passed then [.s03CompletedTaskIds
            (sortedSet (s.s03CompletedTaskIds ++ phaseTaskIds tasks phaseId))]
          else [.s03RevisionAttempts (s.s03RevisionAttempts + 1)] }

def handleS04 (number : Nat) : Answers → OptimizationState → Except Failure NodeExecution :=
  match number with
  | 10 => handleS0410
  | 20 => handleS0420
  | 30 => handleS0430
  | 40 => handleS0440
  | 50 => handleS0450
  | 60 => handleS0460
  | 70 => handleS0470
  | 80 => handleS0480
  | 90 => handleS0490
  | _ => fun _ _ => .error (.nodeNotEnabled ⟨.S04, number⟩)

def s04Fields : Nat → List Field
  | 10 => [.s04Manifest, .s04CheckResults, .s04FailureAttributions]
  | 20 | 60 | 80 => [.s04Manifest]
  | 30 | 40 | 50 => [.s04CheckResults]
  | 70 => [.s04FailureAttributions]
  | 90 => [.s03CompletedTaskIds, .s03RevisionAttempts]
  | _ => []

def s04Types : Nat → List ArtifactType
  | 90 => [.verificationReport]
  | _ => []

section Writes
variable (a : Answers) (s : OptimizationState)

theorem checkNode_writes (candidates : List CommandKind) :
    Yields (WritesOnly [.s04CheckResults] []) (checkNode candidates a s) :=
  Yields.bind fun _ _ => Yields.ok rfl

theorem handleS0470_writes :
    Yields (WritesOnly (s04Fields 70) (s04Types 70)) (handleS0470 a s) := by
  unfold handleS0470
  dsimp only
  split
  · exact Yields.ok rfl
  · exact Yields.bind fun baseline _ => Yields.ok rfl

theorem handleS0490_writes :
    Yields (WritesOnly (s04Fields 90) (s04Types 90)) (handleS0490 a s) := by
  unfold handleS0490
  refine Yields.bind fun patchRef _ => Yields.bind fun provenanceRef _ => ?_
  refine Yields.bind fun tasks _ => Yields.bind fun phaseId _ => ?_
  refine Yields.bind fun stageId _ => Yields.ok ?_
  cases checksPassed s.s04CheckResults with
  | true => rfl
  | false => rfl

theorem handleS04_writes (number : Nat) :
    Yields (WritesOnly (s04Fields number) (s04Types number)) (handleS04 number a s) := by
  unfold handleS04
  split
  · exact Yields.bind fun planRef _ => Yields.bind fun patchRef _ => Yields.ok rfl
  · exact Yields.bind fun manifest _ => Yields.ok rfl
  · exact checkNode_writes a s _
  · exact checkNode_writes a s _
  · exact checkNode_writes a s _
  · refine Yields.bind fun patchRef _ => Yields.bind fun patch _ => ?_
    exact Yields.bind fun manifest _ => Yields.ok rfl
  · exact handleS0470_writes a s
  · exact Yields.ok rfl
  · exact handleS0490_writes a s
  · exact Yields.error

end Writes

/-- `S04.90` seals a verdict for the active phase and pass, and moves exactly one of the
two records. -/
theorem handleS0490_ok {a : Answers} {s : OptimizationState} {execution : NodeExecution}
    (h : handleS0490 a s = .ok execution) :
    ∃ tasks phaseId patchDigest provenanceDigest results, s.readTaskList = .ok tasks ∧
      s.activePhaseId = .ok phaseId ∧
      execution.artifactRefs = [⟨.phasePass ⟨.S04, 90⟩ phaseId s.s03RevisionAttempts,
        .verificationReport a.now patchDigest provenanceDigest phaseId results
          s.s04FailureAttributions (checksPassed s.s04CheckResults)⟩] ∧
      ((checksPassed s.s04CheckResults = true ∧ execution.updates = [.s03CompletedTaskIds
        (sortedSet (s.s03CompletedTaskIds ++ phaseTaskIds tasks phaseId))]) ∨
      (checksPassed s.s04CheckResults = false ∧
        execution.updates = [.s03RevisionAttempts (s.s03RevisionAttempts + 1)])) := by
  obtain ⟨patchRef, _, h⟩ := except_bind_ok h
  obtain ⟨provenanceRef, _, h⟩ := except_bind_ok h
  obtain ⟨tasks, htasks, h⟩ := except_bind_ok h
  obtain ⟨phaseId, hphase, h⟩ := except_bind_ok h
  obtain ⟨stageId, hstage, h⟩ := except_bind_ok h
  cases OptimizationState.phaseStage_eq hphase hstage
  cases h
  refine ⟨tasks, phaseId, _, _, _, htasks, hphase, rfl, ?_⟩
  cases hpassed : checksPassed s.s04CheckResults with
  | true => exact Or.inl ⟨rfl, rfl⟩
  | false => exact Or.inr ⟨rfl, rfl⟩

end ProductionOptimizer
