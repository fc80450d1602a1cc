import ProductionOptimizer.Handlers.Remeasure

/-!
# S06: the decision on a measured phase

`S06.50` is the decision table, `S06.70` may turn a revert into an escalation, `S06.80`
seals the decision and moves the counters, `S06.90` applies a kept patch to the real
repository.
-/

namespace ProductionOptimizer
set_option autoImplicit false

def s06PolicyVersion : String := "s06-decision-v1"
def targetEpsilon : ℚ := 1 / 1000000000

structure VerificationView where
  checkResults : List CheckResult
  passed : Bool

def readVerification (ref : ArtifactRef) : Except Failure VerificationView :=
  match ref.contentDigest with
  | .verificationReport _ _ _ _ results _ passed => .ok ⟨results, passed⟩
  | _ => .error (.unreadable .verificationReport)

def readStatistical (ref : ArtifactRef) : Except Failure (List EffectResult) :=
  match ref.contentDigest with
  | .statisticalReport _ effects => .ok effects
  | _ => .error (.unreadable .statisticalReport)

def handleS0610 (_ : Answers) (s : OptimizationState) : Except Failure NodeExecution := do
  let request ← s.readRequest
  let verificationRef ← s.requirePhaseRef ⟨.S04, 90⟩ .verificationReport
  let verification ← readVerification verificationRef
  let measurementRef ← s.requirePhaseRef ⟨.S05, 90⟩ .measurement
  let statisticalRef ← s.requirePhaseRef ⟨.S05, 80⟩ .statisticalReport
  let effects ← readStatistical statisticalRef
  let complete := verification.passed && request.criteria.all fun criterion =>
    effects.any (·.criterionId == criterion.criterionId)
  .ok { route := if complete then .continue_ else .rejected
        updates := [.s06Intake
          ⟨verificationRef.contentDigest, measurementRef.contentDigest, complete⟩] }

def targetMet (criterion : Criterion) (value : ℚ) : Bool :=
  match criterion.direction with
  | .minimize => value ≤ criterion.target
  | .maximize => criterion.target ≤ value
  | .target => |value - criterion.target| ≤ targetEpsilon

def evaluateTarget (criterion : Criterion) (effect : Option EffectResult) : TargetEvaluation where
  criterionId := criterion.criterionId
  metricId := criterion.metricId
  direction := criterion.direction
  target := criterion.target
  treatmentValue := effect.map (·.treatmentMean)
  met := effect.any fun e => targetMet criterion e.treatmentMean

def handleS0620 (_ : Answers) (s : OptimizationState) : Except Failure NodeExecution := do
  let request ← s.readRequest
  let statisticalRef ← s.requirePhaseRef ⟨.S05, 80⟩ .statisticalReport
  let effects ← readStatistical statisticalRef
  .ok { updates := [.s06TargetEvaluations (request.criteria.map fun criterion =>
          evaluateTarget criterion
            (lastWhere effects (·.criterionId == criterion.criterionId)))] }

def applyOperator (value : ℚ) (operator : GuardrailOperator) (threshold : ℚ) : Bool :=
  match operator with
  | .lt => value < threshold
  | .lte => value ≤ threshold
  | .eq => value = threshold
  | .gte => threshold ≤ value
  | .gt => threshold < value

/-- A measured effect comes first, then an exit code; without either the guardrail fails. -/
def evaluateGuardrail (guardrail : Guardrail) (effects : List EffectResult)
    (checks : List CheckResult) : GuardrailEvaluation :=
  match lastWhere effects (·.metricId == guardrail.metricId) with
  | some effect =>
    ⟨guardrail.guardrailId, guardrail.metricId, .statisticalEffect, some effect.treatmentMean,
      applyOperator effect.treatmentMean guardrail.operator guardrail.threshold⟩
  | none =>
    match lastWhere checks (·.kind.metricId == guardrail.metricId) with
    | some check =>
      ⟨guardrail.guardrailId, guardrail.metricId, .verificationCheck, some check.exitCode,
        applyOperator check.exitCode guardrail.operator guardrail.threshold⟩
    | none => ⟨guardrail.guardrailId, guardrail.metricId, .unavailable, none, false⟩

def handleS0630 (_ : Answers) (s : OptimizationState) : Except Failure NodeExecution := do
  let request ← s.readRequest
  let verificationRef ← s.requirePhaseRef ⟨.S04, 90⟩ .verificationReport
  let verification ← readVerification verificationRef
  let statisticalRef ← s.requirePhaseRef ⟨.S05, 80⟩ .statisticalReport
  let effects ← readStatistical statisticalRef
  .ok { updates := [.s06GuardrailEvaluations (request.guardrails.map fun guardrail =>
          evaluateGuardrail guardrail effects verification.checkResults)] }

def classifyPhase (evaluations : List TargetEvaluation) : PhaseClassification :=
  let met := (evaluations.filter (·.met)).length
  if evaluations.length = 0 then .noEvidence
  else if met = evaluations.length then .allTargetsMet
  else if met = 0 then .wrongDirection
  else .repairable

def handleS0640 (_ : Answers) (s : OptimizationState) : Except Failure NodeExecution := do
  let phaseId ← s.activePhaseId
  .ok { updates := [.s06Attribution ⟨phaseId, classifyPhase s.s06TargetEvaluations⟩] }

def decideOutcome (guardrails : List GuardrailEvaluation) (attribution : Option PhaseAttribution) :
    Outcome :=
  if !guardrails.all (·.passed) then .revert
  else
    match attribution with
    | some ⟨_, .allTargetsMet⟩ => .keep
    | some ⟨_, .repairable⟩ => .fixOnePart
    | _ => .revert

def handleS0650 (_ : Answers) (s : OptimizationState) : Except Failure NodeExecution :=
  .ok { updates := [.s06Decision (decideOutcome s.s06GuardrailEvaluations s.s06Attribution)] }

/-- `S06.60`. Nothing is restored: the report says whether the original tree is clean. -/
def handleS0660 (a : Answers) (s : OptimizationState) : Except Failure NodeExecution :=
  if s.s06Decision ≠ some .revert then .ok { updates := [.s06Rollback ⟨false, true⟩] }
  else do
    let snapshot ← s.readSnapshot
    let patchRef ← s.requirePhaseRef ⟨.S03, 80⟩ .patchArtifact
    let phaseId ← s.activePhaseId
    let stageId ← s.phaseStage ⟨.S06, 60⟩
    let untouched := !snapshot.gitRevision.any (· != "") || a.statusIsClean
    .ok { artifactRefs := [⟨stageId, .rollbackReport a.now phaseId patchRef.contentDigest
            untouched⟩]
          updates := [.s06Rollback ⟨true, untouched⟩] }

/-- `S06.70` writes the decision back, as an escalation when a revert is unverified. -/
def handleS0670 (_ : Answers) (s : OptimizationState) : Except Failure NodeExecution :=
  let verified := s.s06Rollback.any (·.verified)
  match s.s06Decision with
  | none => .ok {}
  | some outcome =>
    .ok { updates := [.s06Decision
            (if outcome = .revert ∧ !verified then .escalate else outcome)] }

/-- The counters that `S06.80` moves: a repair opens a new pass, a revert excludes the
selected strategy. -/
def decisionUpdates (s : OptimizationState) (outcome : Outcome) :
    Except Failure (List FieldUpdate) :=
  match outcome with
  | .fixOnePart => .ok [.s03RevisionAttempts (s.s03RevisionAttempts + 1)]
  | .revert => do
    let selected ← s.readSelected
    .ok [.s01ExcludedStrategyIds (sortedSet (s.s01ExcludedStrategyIds ++ [selected]))]
  | _ => .ok []

def rollbackDigest (s : OptimizationState) (outcome : Outcome) : Except Failure Artifact :=
  if outcome = .revert then do
    let ref ← s.requirePhaseRef ⟨.S06, 60⟩ .rollbackReport
    .ok ref.contentDigest
  else .ok .absent

def handleS0680 (a : Answers) (s : OptimizationState) : Except Failure NodeExecution := do
  let outcome := s.s06Decision.getD .escalate
  let phaseId ← s.activePhaseId
  let verificationRef ← s.requirePhaseRef ⟨.S04, 90⟩ .verificationReport
  let measurementRef ← s.requirePhaseRef ⟨.S05, 90⟩ .measurement
  match s.s06Attribution with
  | none => .error (.invalidContract .decision)
  | some attribution =>
    let rollback ← rollbackDigest s outcome
    if s.s06TargetEvaluations.isEmpty then .error (.invalidContract .decision)
    else
      let stageId ← s.phaseStage ⟨.S06, 80⟩
      let updates ← decisionUpdates s outcome
      .ok { artifactRefs := [⟨stageId, .decision a.now phaseId measurementRef.contentDigest
              verificationRef.contentDigest s.s06TargetEvaluations s.s06GuardrailEvaluations
              attribution outcome rollback⟩]
            updates := .s06Decision outcome :: updates }

/-- The git commands of `_apply_patch_to_real_repo` in order, up to the first that fails. -/
def applyPatch (a : Answers) (patch : PatchView) (branchName : String) :
    Except ApplyFailure (String × String) :=
  if a.headRevision ≠ some patch.baseRevision then .error .headMoved
  else if !a.worktreeForApply then .error .worktreeAdd
  else if !a.applyCheck then .error .applyCheck
  else if !a.applyPatch then .error .apply
  else if !a.addFiles then .error .add
  else if !a.commitPatch then .error .commit
  else
    match a.commitSha with
    | none => .error .revParse
    | some sha => .ok (branchName, sha)

structure ApplyRequest where
  patchRef : ArtifactRef
  phaseId : String
  baseRevision : String
  stageId : ArtifactId

/-- `_seal_apply_result`. A patch that was not applied still continues. -/
def sealApplyResult (a : Answers) (request : ApplyRequest)
    (result : Except ApplyFailure (String × String)) (approval : ApplyApproval)
    (actorId : Option String) : NodeExecution :=
  let commit := match result with
    | .ok identity => some identity
    | .error _ => none
  let failure := match result with
    | .ok _ => none
    | .error reason => some reason
  { artifactRefs := [⟨request.stageId, .repositoryApplyResult a.now request.phaseId
      request.patchRef.contentDigest commit request.baseRevision failure approval actorId⟩]
    updates := [.s06Apply ⟨commit.isSome, true⟩] }

/-- `S06.90`. The policy is asked only while no resume command is in the state. -/
def handleS0690 (a : Answers) (s : OptimizationState) : Except Failure NodeExecution :=
  if s.s06Decision ≠ some .keep then .ok { updates := [.s06Apply ⟨false, false⟩] }
  else
    match a.policy with
    | none => .error .missingPort
    | some policy => do
      let _ ← s.readSnapshot
      let patchRef ← s.requirePhaseRef ⟨.S03, 80⟩ .patchArtifact
      let patch ← readPatch patchRef
      let phaseId ← s.activePhaseId
      let stageId ← s.phaseStage ⟨.S06, 90⟩
      let branchName := "optimizer/" ++ s.caseId ++ "-" ++ patch.phaseId
      let request := ApplyRequest.mk patchRef phaseId patch.baseRevision stageId
      match s.resumeCommand with
      | none =>
        if !policy.allowed then
          .ok (sealApplyResult a request (.error .policyDenied) .denied none)
        else if policy.decision = "allow" then
          .ok (sealApplyResult a { request with phaseId := patch.phaseId }
            (applyPatch a patch branchName) .autoAllowed none)
        else
          .ok { route := .approval
                updates := [
                  .pendingInterrupt (gateInterrupt s a ⟨.S06, 90⟩ "-S06-APPLY"
                    patchRef.contentDigest s06PolicyVersion),
                  .s06Apply ⟨false, false⟩] }
      | some command =>
        if command.decision = "approve" then
          .ok (sealApplyResult a { request with phaseId := patch.phaseId }
            (applyPatch a patch branchName) .approved (some command.actorId))
        else
          .ok (sealApplyResult a request (.error (.resumedWith command.decision)) .rejected
            (some command.actorId))

def handleS06 (number : Nat) : Answers → OptimizationState → Except Failure NodeExecution :=
  match number with
  | 10 => handleS0610
  | 20 => handleS0620
  | 30 => handleS0630
  | 40 => handleS0640
  | 50 => handleS0650
  | 60 => handleS0660
  | 70 => handleS0670
  | 80 => handleS0680
  | 90 => handleS0690
  | _ => fun _ _ => .error (.nodeNotEnabled ⟨.S06, number⟩)

def s06Fields : Nat → List Field
  | 10 => [.s06Intake]
  | 20 => [.s06TargetEvaluations]
  | 30 => [.s06GuardrailEvaluations]
  | 40 => [.s06Attribution]
  | 50 | 70 => [.s06Decision]
  | 60 => [.s06Rollback]
  | 80 => [.s06Decision, .s03RevisionAttempts, .s01ExcludedStrategyIds]
  | 90 => [.s06Apply, .pendingInterrupt]
  | _ => []

def s06Types : Nat → List ArtifactType
  | 60 => [.rollbackReport]
  | 80 => [.decision]
  | 90 => [.repositoryApplyResult]
  | _ => []

section Writes
variable (a : Answers) (s : OptimizationState)

theorem handleS0660_writes :
    Yields (WritesOnly (s06Fields 60) (s06Types 60)) (handleS0660 a s) := by
  unfold handleS0660
  split
  · exact Yields.ok rfl
  · refine Yields.bind fun snapshot _ => Yields.bind fun patchRef _ => ?_
    exact Yields.bind fun phaseId _ => Yields.bind fun stageId _ => Yields.ok rfl

theorem handleS0670_writes :
    Yields (WritesOnly (s06Fields 70) (s06Types 70)) (handleS0670 a s) := by
  unfold handleS0670
  dsimp only
  split
  · exact Yields.ok rfl
  · exact Yields.ok rfl

theorem decisionUpdates_cases {outcome : Outcome} {updates : List FieldUpdate}
    (h : decisionUpdates s outcome = .ok updates) :
    (outcome ≠ .fixOnePart ∧ outcome ≠ .revert ∧ updates = []) ∨
      (outcome = .fixOnePart ∧ updates = [.s03RevisionAttempts (s.s03RevisionAttempts + 1)]) ∨
      ∃ selected, outcome = .revert ∧ s.readSelected = .ok selected ∧
        updates = [.s01ExcludedStrategyIds (sortedSet (s.s01ExcludedStrategyIds ++ [selected]))] := by
  cases outcome with
  | keep =>
    cases h
    exact Or.inl ⟨by decide, by decide, rfl⟩
  | fixOnePart =>
    cases h
    exact Or.inr (Or.inl ⟨rfl, rfl⟩)
  | revert =>
    obtain ⟨selected, hselected, hok⟩ := except_bind_ok h
    cases hok
    exact Or.inr (Or.inr ⟨selected, rfl, hselected, rfl⟩)
  | escalate =>
    cases h
    exact Or.inl ⟨by decide, by decide, rfl⟩

theorem handleS0680_writes :
    Yields (WritesOnly (s06Fields 80) (s06Types 80)) (handleS0680 a s) := by
  unfold handleS0680
  refine Yields.bind fun phaseId _ => Yields.bind fun verificationRef _ => ?_
  refine Yields.bind fun measurementRef _ => ?_
  split
  · exact Yields.error
  · refine Yields.bind fun rollback _ => ?_
    split
    · exact Yields.error
    · refine Yields.bind fun stageId _ => Yields.bind fun updates hupdates => Yields.ok ?_
      rcases decisionUpdates_cases s hupdates with ⟨_, _, rfl⟩ | ⟨_, rfl⟩ | ⟨_, _, _, rfl⟩
      · rfl
      · rfl
      · rfl

theorem handleS0690_writes :
    Yields (WritesOnly (s06Fields 90) (s06Types 90)) (handleS0690 a s) := by
  unfold handleS0690
  split
  · exact Yields.ok rfl
  · split
    · exact Yields.error
    · refine Yields.bind fun snapshot _ => Yields.bind fun patchRef _ => ?_
      refine Yields.bind fun patch _ => Yields.bind fun phaseId _ => ?_
      refine Yields.bind fun stageId _ => ?_
      dsimp only
      split
      · split
        · exact Yields.ok rfl
        · split
          · exact Yields.ok rfl
          · exact Yields.ok rfl
      · split
        · exact Yields.ok rfl
        · exact Yields.ok rfl

theorem handleS06_writes (number : Nat) :
    Yields (WritesOnly (s06Fields number) (s06Types number)) (handleS06 number a s) := by
  unfold handleS06
  split
  · refine Yields.bind fun request _ => Yields.bind fun verificationRef _ => ?_
    refine Yields.bind fun verification _ => Yields.bind fun measurementRef _ => ?_
    exact Yields.bind fun statisticalRef _ => Yields.bind fun effects _ => Yields.ok rfl
  · refine Yields.bind fun request _ => Yields.bind fun statisticalRef _ => ?_
    exact Yields.bind fun effects _ => Yields.ok rfl
  · refine Yields.bind fun request _ => Yields.bind fun verificationRef _ => ?_
    refine Yields.bind fun verification _ => Yields.bind fun statisticalRef _ => ?_
    exact Yields.bind fun effects _ => Yields.ok rfl
  · exact Yields.bind fun phaseId _ => Yields.ok rfl
  · exact Yields.ok rfl
  · exact handleS0660_writes a s
  · exact handleS0670_writes a s
  · exact handleS0680_writes a s
  · exact handleS0690_writes a s
  · exact Yields.error

end Writes

theorem handleS0680_ok {a : Answers} {s : OptimizationState} {execution : NodeExecution}
    (h : handleS0680 a s = .ok execution) :
    ∃ phaseId verificationRef updates, s.activePhaseId = .ok phaseId ∧
      verificationRef ∈ s.artifactRefs ∧ verificationRef.artifactType = .verificationReport ∧
      verificationRef.artifactId = .phasePass ⟨.S04, 90⟩ phaseId s.s03RevisionAttempts ∧
      decisionUpdates s (s.s06Decision.getD .escalate) = .ok updates ∧
      execution.updates = .s06Decision (s.s06Decision.getD .escalate) :: updates := by
  obtain ⟨phaseId, hphase, h⟩ := except_bind_ok h
  obtain ⟨verificationRef, hverification, h⟩ := except_bind_ok h
  obtain ⟨measurementRef, _, h⟩ := except_bind_ok h
  obtain ⟨hmem, htype, hid⟩ := OptimizationState.requirePhaseRef_ok hphase hverification
  split at h
  · cases h
  · obtain ⟨rollback, _, h⟩ := except_bind_ok h
    split at h
    · cases h
    · obtain ⟨stageId, _, h⟩ := except_bind_ok h
      obtain ⟨updates, hupdates, h⟩ := except_bind_ok h
      cases h
      exact ⟨phaseId, verificationRef, updates, hphase, hmem, htype, hid, hupdates, rfl⟩

theorem handleS0680_decision {a : Answers} {s : OptimizationState} {execution : NodeExecution}
    (h : handleS0680 a s = .ok execution) :
    ∃ phaseId measurementDigest verificationDigest targets guardrails attribution rollback,
      s.activePhaseId = .ok phaseId ∧
      execution.artifactRefs = [⟨.phasePass ⟨.S06, 80⟩ phaseId s.s03RevisionAttempts,
        .decision a.now phaseId measurementDigest verificationDigest targets guardrails attribution
          (s.s06Decision.getD .escalate) rollback⟩] := by
  obtain ⟨phaseId, hphase, h⟩ := except_bind_ok h
  obtain ⟨verificationRef, _, h⟩ := except_bind_ok h
  obtain ⟨measurementRef, _, h⟩ := except_bind_ok h
  split at h
  · cases h
  · obtain ⟨rollback, _, h⟩ := except_bind_ok h
    split at h
    · cases h
    · obtain ⟨stageId, hstage, h⟩ := except_bind_ok h
      obtain ⟨updates, _, h⟩ := except_bind_ok h
      cases h
      rw [OptimizationState.phaseStage_eq hphase hstage]
      exact ⟨phaseId, _, _, _, _, _, _, hphase, rfl⟩

/-- `S06.80` writes the outcome back that it found. -/
theorem handleS0680_outcome {a : Answers} {s : OptimizationState} {execution : NodeExecution}
    (h : handleS0680 a s = .ok execution) (s' : OptimizationState) :
    (s'.setAll execution.updates).s06Decision = some (s.s06Decision.getD .escalate) := by
  obtain ⟨_, _, updates, _, _, _, _, hupdates, hu⟩ := handleS0680_ok h
  rw [hu]
  rcases decisionUpdates_cases s hupdates with ⟨_, _, rfl⟩ | ⟨_, rfl⟩ | ⟨_, _, _, rfl⟩
  · rfl
  · rfl
  · rfl

end ProductionOptimizer
