import ProductionOptimizer.Handlers.VerifyPhase

/-!
# S05: remeasure in the patched workspace

`S05.30` and `S05.70` are the two places where a pass is rejected; `S05.90` binds the
baseline, the patch and the reports of the pass.
-/

namespace ProductionOptimizer
set_option autoImplicit false

def handleS0510 (_ : Answers) (s : OptimizationState) : Except Failure NodeExecution := do
  let _ ← s.readRequest
  let baseline ← s.readBaseline
  .ok { updates := [.s05Protocol ⟨baseline.workloadId, baseline.environmentId⟩] }

/-- The scope report, then manifest files the patch changed, then those that drifted
without it. -/
def isolationViolations (a : Answers) (patch : PatchView) (manifest : RepositoryManifest) :
    List IsolationViolation :=
  (if patch.inScope then [] else [.scopeViolation]) ++
  (sortedSet (patch.changedFiles.filter (manifest.manifestFiles.contains ·))).map
    .dependencyDrift ++
  ((manifest.manifestFiles.insertionSort (· ≤ ·)).filter fun path =>
    !patch.changedFiles.contains path && a.driftedManifestFiles.contains path).map
    .dependencyDrift

def handleS0520 (a : Answers) (s : OptimizationState) : Except Failure NodeExecution := do
  let patchRef ← s.requirePhaseRef ⟨.S03, 80⟩ .patchArtifact
  let patch ← readPatch patchRef
  let manifest ← s.readManifest
  let _ ← s.readSnapshot
  let stageId ← s.phaseStage ⟨.S05, 20⟩
  let violations := isolationViolations a patch manifest
  .ok { artifactRefs := [⟨stageId, .isolationReport a.now patchRef.contentDigest
          violations.isEmpty violations⟩]
        updates := [.s05Isolation { isolated := violations.isEmpty }] }

def handleS0530 (a : Answers) (s : OptimizationState) : Except Failure NodeExecution :=
  .ok { route := if a.workspaceIsDirectory then .continue_ else .rejected
        updates := [.s05Isolation
          { s.s05Isolation.getD { isolated := false } with
            environmentReady := some a.workspaceIsDirectory }] }

/-- `_resolve_kind`: the command behind a criterion's `<kind>_command_result` metric. -/
def resolveKind (criterion : Criterion) (manifest : RepositoryManifest) : Option CommandKind :=
  manifest.commands.find? (·.metricId == criterion.metricId)

/-- The loop of `S05.40`. `_remeasure_one` raises when the job does not answer, and when a
benchmark answers without a round. -/
def remeasureAll (a : Answers) (manifest : RepositoryManifest) :
    List Criterion → Except Failure (List (String × MetricAggregate) × List String)
  | [] => .ok ([], [])
  | criterion :: criteria =>
    match resolveKind criterion manifest with
    | none => do
      let rest ← remeasureAll a manifest criteria
      .ok (rest.1, criterion.criterionId :: rest.2)
    | some kind =>
      match a.remeasured criterion.criterionId with
      | none => .error .workerFailed
      | some (count, mean) =>
        if kind = .benchmark ∧ count = 0 then .error .workerFailed
        else do
          let rest ← remeasureAll a manifest criteria
          .ok ((criterion.criterionId,
            ⟨criterion.metricId, if kind = .benchmark then count else 1, mean⟩) :: rest.1, rest.2)

def handleS0540 (a : Answers) (s : OptimizationState) : Except Failure NodeExecution := do
  let request ← s.readRequest
  let manifest ← s.readManifest
  let _ ← requireWorkspace s
  let measured ← remeasureAll a manifest request.criteria
  .ok { updates := [.s05TreatmentAggregates
          { byCriterion := dictOf measured.1, unmeasurableCriterionIds := measured.2 }] }

/-- `state.get("s05_treatment_aggregates") or {}`. -/
def treatmentAggregates (s : OptimizationState) : TreatmentAggregates :=
  s.s05TreatmentAggregates.getD { byCriterion := [], unmeasurableCriterionIds := [] }

def handleS0550 (_ : Answers) (s : OptimizationState) : Except Failure NodeExecution :=
  let treatment := treatmentAggregates s
  .ok { updates := [.s05TreatmentAggregates
          { treatment with
            preservedCriterionIds :=
              (treatment.byCriterion.map (·.1)).insertionSort (· ≤ ·) }] }

def minimumSamples (request : OptimizationRequest) (criterionId : String) : Nat :=
  match lastWhere request.evidenceRequirements (·.criterionId == criterionId) with
  | some requirement => requirement.minimumSamples
  | none => 1

def sampleProblem (request : OptimizationRequest) (baseline : BaselineSnapshot)
    (treatment : TreatmentAggregates) (criterion : Criterion) : Option SampleProblem :=
  let minimum := minimumSamples request criterion.criterionId
  if treatment.unmeasurableCriterionIds.contains criterion.criterionId then some .noCommand
  else if !baseline.aggregates.any (·.metricId == criterion.metricId) then some .noBaseline
  else
    match treatment.byCriterion.lookup criterion.criterionId with
    | none => some (.tooFewSamples minimum)
    | some aggregate => if aggregate.count < minimum then some (.tooFewSamples minimum) else none

def handleS0560 (_ : Answers) (s : OptimizationState) : Except Failure NodeExecution := do
  let request ← s.readRequest
  let baseline ← s.readBaseline
  let treatment := treatmentAggregates s
  let reasons := request.criteria.filterMap fun criterion =>
    (sampleProblem request baseline treatment criterion).map fun problem =>
      (criterion.criterionId, problem)
  .ok { updates := [.s05Quality ⟨reasons.isEmpty, reasons⟩] }

/-- The four dimensions of `S05.70`, all of them material. -/
def comparabilityDimensions (request : OptimizationRequest) (baseline : BaselineSnapshot)
    (s : OptimizationState) : List (ComparabilityDimension × Bool) :=
  [(.isolation, s.s05Isolation.any (·.isolated)),
   (.sampleQuality, s.s05Quality.any (·.passed)),
   (.workloadId, s.s05Protocol.any (·.workloadId == request.workloadId)),
   (.environmentId, s.s05Protocol.any (·.environmentId == baseline.environmentId))]

def handleS0570 (a : Answers) (s : OptimizationState) : Except Failure NodeExecution := do
  let request ← s.readRequest
  let baseline ← s.readBaseline
  let stageId ← s.phaseStage ⟨.S05, 70⟩
  let dimensions := comparabilityDimensions request baseline s
  let comparable := dimensions.all (·.2)
  .ok { route := if comparable then .continue_ else .rejected
        artifactRefs := [⟨stageId, .comparabilityReport a.now comparable dimensions⟩] }

/-- A criterion without a treatment or without a baseline aggregate has no effect. -/
def effectOf (baseline : BaselineSnapshot) (treatment : TreatmentAggregates)
    (criterion : Criterion) : Option EffectResult := do
  let aggregate ← treatment.byCriterion.lookup criterion.criterionId
  let before ← lastWhere baseline.aggregates (·.metricId == criterion.metricId)
  pure ⟨criterion.criterionId, criterion.metricId, before.mean, aggregate.mean, aggregate.count⟩

def handleS0580 (a : Answers) (s : OptimizationState) : Except Failure NodeExecution := do
  let request ← s.readRequest
  let baseline ← s.readBaseline
  let stageId ← s.phaseStage ⟨.S05, 80⟩
  let effects := request.criteria.filterMap (effectOf baseline (treatmentAggregates s))
  -- `effects` has `min_length=1`
  if effects.isEmpty then .error (.invalidContract .statisticalReport)
  else .ok { artifactRefs := [⟨stageId, .statisticalReport a.now effects⟩] }

def handleS0590 (a : Answers) (s : OptimizationState) : Except Failure NodeExecution := do
  let baselineRef ← s.requireRef .baselineSnapshot
  let patchRef ← s.requirePhaseRef ⟨.S03, 80⟩ .patchArtifact
  let isolationRef ← s.requirePhaseRef ⟨.S05, 20⟩ .isolationReport
  let comparabilityRef ← s.requirePhaseRef ⟨.S05, 70⟩ .comparabilityReport
  let statisticalRef ← s.requirePhaseRef ⟨.S05, 80⟩ .statisticalReport
  let phaseId ← s.activePhaseId
  let stageId ← s.phaseStage ⟨.S05, 90⟩
  .ok { artifactRefs := [⟨stageId, .measurement a.now baselineRef.contentDigest
          patchRef.contentDigest isolationRef.contentDigest comparabilityRef.contentDigest
          statisticalRef.contentDigest phaseId⟩] }

def handleS05 (number : Nat) : Answers → OptimizationState → Except Failure NodeExecution :=
  match number with
  | 10 => handleS0510
  | 20 => handleS0520
  | 30 => handleS0530
  | 40 => handleS0540
  | 50 => handleS0550
  | 60 => handleS0560
  | 70 => handleS0570
  | 80 => handleS0580
  | 90 => handleS0590
  | _ => fun _ _ => .error (.nodeNotEnabled ⟨.S05, number⟩)

def s05Fields : Nat → List Field
  | 10 => [.s05Protocol]
  | 20 | 30 => [.s05Isolation]
  | 40 | 50 => [.s05TreatmentAggregates]
  | 60 => [.s05Quality]
  | _ => []

def s05Types : Nat → List ArtifactType
  | 20 => [.isolationReport]
  | 70 => [.comparabilityReport]
  | 80 => [.statisticalReport]
  | 90 => [.measurement]
  | _ => []

section Writes
variable (a : Answers) (s : OptimizationState)

theorem handleS0580_writes :
    Yields (WritesOnly (s05Fields 80) (s05Types 80)) (handleS0580 a s) := by
  unfold handleS0580
  refine Yields.bind fun request _ => Yields.bind fun baseline _ => ?_
  refine Yields.bind fun stageId _ => ?_
  dsimp only
  split
  · exact Yields.error
  · exact Yields.ok rfl

theorem handleS05_writes (number : Nat) :
    Yields (WritesOnly (s05Fields number) (s05Types number)) (handleS05 number a s) := by
  unfold handleS05
  split
  · exact Yields.bind fun request _ => Yields.bind fun baseline _ => Yields.ok rfl
  · refine Yields.bind fun patchRef _ => Yields.bind fun patch _ => ?_
    refine Yields.bind fun manifest _ => Yields.bind fun snapshot _ => ?_
    exact Yields.bind fun stageId _ => Yields.ok rfl
  · exact Yields.ok rfl
  · refine Yields.bind fun request _ => Yields.bind fun manifest _ => ?_
    exact Yields.bind fun workspace _ => Yields.bind fun measured _ => Yields.ok rfl
  · exact Yields.ok rfl
  · exact Yields.bind fun request _ => Yields.bind fun baseline _ => Yields.ok rfl
  · refine Yields.bind fun request _ => Yields.bind fun baseline _ => ?_
    exact Yields.bind fun stageId _ => Yields.ok rfl
  · exact handleS0580_writes a s
  · refine Yields.bind fun baselineRef _ => Yields.bind fun patchRef _ => ?_
    refine Yields.bind fun isolationRef _ => Yields.bind fun comparabilityRef _ => ?_
    refine Yields.bind fun statisticalRef _ => Yields.bind fun phaseId _ => ?_
    exact Yields.bind fun stageId _ => Yields.ok rfl
  · exact Yields.error

end Writes

end ProductionOptimizer
