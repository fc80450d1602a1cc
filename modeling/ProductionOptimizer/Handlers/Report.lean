import Mathlib.Algebra.Order.Group.Nat
import Mathlib.Data.Multiset.OrderedMonoid
import Mathlib.Algebra.GroupWithZero.Nat
import ProductionOptimizer.Handlers.PolicyDecision

/-!
# S07: the audited report

`S07.30` to `S07.60` collect the outcomes, the evidence, the source change and the cost of
the active phase, `S07.80` seals them and `S07.90` judges the sealed report. Nothing outside
S07 runs between these nodes and they write no channel of another stage, so each of them is
a function of the state at the entry of S07. Every ref is found by guessing its id from the
active phase and a pass number.
-/

namespace ProductionOptimizer
set_option autoImplicit false

inductive OutcomeCategory where
  | completed
  | repaired
  | simplified
  | reverted
  | missing
  deriving DecidableEq, Repr

structure OutcomeEntry where
  category : OutcomeCategory
  subject : String
  detail : String
  passNumber : Nat
  deriving DecidableEq

structure EvidenceSummary where
  criterionId : String
  metricId : String
  baselineMean : ℚ
  treatmentMean : ℚ
  absoluteChange : ℚ
  relativeChange : Option ℚ
  comparable : Bool
  met : Bool
  deriving DecidableEq

structure SourceChangeSummary where
  phaseId : String
  baseRevision : String
  changedFiles : List String
  patchDigest : Artifact
  rollbackCommand : Option String
  rollbackExecuted : Bool
  appliedToRepository : Bool
  appliedBranchName : Option String
  appliedCommitSha : Option String
  appliedFailureReason : Option ApplyFailure
  deriving DecidableEq

structure CostSummary where
  modelInputTokens : Nat
  modelOutputTokens : Nat
  phaseRepairAttempts : Nat
  deriving DecidableEq

/-- `case_outcome` is always `KEEP`. -/
structure OptimizationReport where
  phaseId : String
  decisionDigest : Artifact
  outcomes : List OutcomeEntry
  evidence : List EvidenceSummary
  sourceChange : SourceChangeSummary
  cost : CostSummary

/-! ### What is read back -/

namespace Artifact

def selectedSolutionDigest : Artifact → Option Artifact
  | executionPlan _ digest _ => some digest
  | _ => none

def executionPlanDigest : Artifact → Option Artifact
  | taskList _ digest _ => some digest
  | patchArtifact _ digest _ _ _ _ _ _ _ _ => some digest
  | executionProvenance _ digest _ _ _ _ _ _ _ => some digest
  | _ => none

def executionProvenanceDigest : Artifact → Option Artifact
  | patchArtifact _ _ digest _ _ _ _ _ _ _ => some digest
  | verificationReport _ _ digest _ _ _ _ => some digest
  | _ => none

def patchDigest : Artifact → Option Artifact
  | verificationReport _ digest _ _ _ _ _ => some digest
  | measurement _ _ digest _ _ _ _ => some digest
  | _ => none

def baselineDigest : Artifact → Option Artifact
  | measurement _ digest _ _ _ _ _ => some digest
  | _ => none

def measurementDigest : Artifact → Option Artifact
  | decision _ _ digest _ _ _ _ _ _ => some digest
  | _ => none

def verificationDigest : Artifact → Option Artifact
  | decision _ _ _ digest _ _ _ _ _ => some digest
  | _ => none

/-- The input and the output tokens of an `ExecutionProvenance`. -/
def tokens : Artifact → Option (Nat × Nat)
  | executionProvenance _ _ _ _ _ input output _ _ => some (input, output)
  | _ => none

end Artifact

structure DecisionView where
  targetEvaluations : List TargetEvaluation
  guardrailEvaluations : List GuardrailEvaluation
  outcome : Outcome

def readDecision (ref : ArtifactRef) : Except Failure DecisionView :=
  match ref.contentDigest with
  | .decision _ _ _ _ targets guardrails _ outcome _ => .ok ⟨targets, guardrails, outcome⟩
  | _ => .error (.unreadable .decision)

def readComparability (ref : ArtifactRef) : Except Failure Bool :=
  match ref.contentDigest with
  | .comparabilityReport _ comparable _ => .ok comparable
  | _ => .error (.unreadable .comparabilityReport)

def readTokens (ref : ArtifactRef) : Except Failure (Nat × Nat) :=
  match ref.contentDigest.tokens with
  | some tokens => .ok tokens
  | none => .error (.unreadable .executionProvenance)

structure ApplyView where
  commit : Option (String × String)
  failureReason : Option ApplyFailure

def readApplyResult (ref : ArtifactRef) : Except Failure ApplyView :=
  match ref.contentDigest with
  | .repositoryApplyResult _ _ _ commit _ failure _ _ => .ok ⟨commit, failure⟩
  | _ => .error (.unreadable .repositoryApplyResult)

/-- A ref that was not found is read as `None`. -/
def readIfAny {V : Type} (read : ArtifactRef → Except Failure V) :
    Option ArtifactRef → Except Failure (Option V)
  | none => .ok none
  | some ref => do
    let value ← read ref
    .ok (some value)

/-! ### The rationale of a sealed decision

`S06.40`, `S06.50` and `S06.70` choose a text with what they decide, and `S06.80` seals it
behind a count. It is a function of the sealed evaluations and outcome. -/

def Outcome.name : Outcome → String
  | .keep => "KEEP"
  | .fixOnePart => "FIX_ONE_PART"
  | .revert => "REVERT"
  | .escalate => "ESCALATE"

def metCount (evaluations : List TargetEvaluation) : Nat := (evaluations.filter (·.met)).length

def attributionRationale (evaluations : List TargetEvaluation) : String :=
  let total := toString evaluations.length
  match classifyPhase evaluations with
  | .noEvidence => "no primary criteria were evaluated"
  | .allTargetsMet => "all " ++ total ++ " primary criteria met their target"
  | .wrongDirection => "none of " ++ total ++ " primary criteria improved toward target"
  | .repairable => toString (metCount evaluations) ++ " of " ++ total ++
      " primary criteria met target; the active phase is repairable"

def outcomeRationale (decision : DecisionView) : String :=
  match decision.outcome with
  | .keep => "all primary targets met and every guardrail passed"
  | .fixOnePart => attributionRationale decision.targetEvaluations
  | .revert =>
    if decision.guardrailEvaluations.all (·.passed) then
      attributionRationale decision.targetEvaluations
    else "guardrail failure forces revert (BR-04-005/BR-05-005)"
  | .escalate => "REVERT was decided but rollback verification failed -- escalating " ++
      "instead of marking the case reverted"

def DecisionView.rationale (decision : DecisionView) : String :=
  "Decision: " ++ decision.outcome.name ++ ". " ++
    toString (metCount decision.targetEvaluations) ++ "/" ++
    toString decision.targetEvaluations.length ++ " primary criteria met. " ++
    outcomeRationale decision

/-! ### The nodes -/

/-- `S07.10`. A chain that is not intact ends the stage. -/
def digestChainIntact (s : OptimizationState) : Except Failure Bool := do
  let _ ← s.activePhaseId
  let selectedRef ← s.selectedSolutionRef
  let planRef ← s.requireRef .executionPlan
  let taskListRef ← s.requireRef .taskList
  let patchRef ← s.requirePhaseRef ⟨.S03, 80⟩ .patchArtifact
  let provenanceRef ← s.requirePhaseRef ⟨.S03, 80⟩ .executionProvenance
  let verificationRef ← s.requirePhaseRef ⟨.S04, 90⟩ .verificationReport
  let measurementRef ← s.requirePhaseRef ⟨.S05, 90⟩ .measurement
  let decisionRef ← s.requirePhaseRef ⟨.S06, 80⟩ .decision
  let baselineRef ← s.requireRef .baselineSnapshot
  .ok (decide (
    planRef.contentDigest.selectedSolutionDigest = some selectedRef.contentDigest ∧
    taskListRef.contentDigest.executionPlanDigest = some planRef.contentDigest ∧
    patchRef.contentDigest.executionPlanDigest = some planRef.contentDigest ∧
    patchRef.contentDigest.executionProvenanceDigest = some provenanceRef.contentDigest ∧
    provenanceRef.contentDigest.executionPlanDigest = some planRef.contentDigest ∧
    verificationRef.contentDigest.patchDigest = some patchRef.contentDigest ∧
    verificationRef.contentDigest.executionProvenanceDigest =
      some provenanceRef.contentDigest ∧
    measurementRef.contentDigest.patchDigest = some patchRef.contentDigest ∧
    measurementRef.contentDigest.baselineDigest = some baselineRef.contentDigest ∧
    decisionRef.contentDigest.measurementDigest = some measurementRef.contentDigest ∧
    decisionRef.contentDigest.verificationDigest = some verificationRef.contentDigest))

structure PassRecord where
  passNumber : Nat
  verification : Option VerificationView
  decision : Option DecisionView

def passRecord (s : OptimizationState) (phaseId : String) (passNumber : Nat) :
    Except Failure PassRecord := do
  let verification ← readIfAny readVerification
    (s.tryStageRef (.phasePass ⟨.S04, 90⟩ phaseId passNumber) .verificationReport)
  let decision ← readIfAny readDecision
    (s.tryStageRef (.phasePass ⟨.S06, 80⟩ phaseId passNumber) .decision)
  .ok ⟨passNumber, verification, decision⟩

/-- `_reconstruct_passes`: the passes `0` to `s03_revision_attempts` of one phase. -/
def reconstructPasses (s : OptimizationState) (phaseId : String) :
    Except Failure (List PassRecord) :=
  (List.range (s.s03RevisionAttempts + 1)).mapM (passRecord s phaseId)

def repairDetail (record : PassRecord) : String :=
  if record.verification.any (!·.passed) then
    "verification failed a mandatory check; the phase was re-implemented"
  else
    match record.decision with
    | some decision => decision.rationale
    | none => "pass ended without a sealed decision"

def repairEntry (phaseId : String) (record : PassRecord) : OutcomeEntry :=
  ⟨.repaired, phaseId, repairDetail record, record.passNumber⟩

/-- `met_by_criterion.get(criterion_id, False)`. -/
def metByCriterion (decision : DecisionView) (criterionId : String) : Bool :=
  (lastWhere decision.targetEvaluations (·.criterionId == criterionId)).any (·.met)

def criterionEntry (decision : DecisionView) (passNumber : Nat) (criterion : Criterion) :
    OutcomeEntry :=
  let met := metByCriterion decision criterion.criterionId
  { category := if met then .completed else .missing
    subject := criterion.criterionId
    detail := criterion.criterionId ++ " " ++ (if met then "met" else "did not meet") ++
      " its target"
    passNumber := passNumber }

def handleS0730 (s : OptimizationState) : Except Failure (List OutcomeEntry) := do
  let request ← s.readRequest
  let phaseId ← s.activePhaseId
  let passes ← reconstructPasses s phaseId
  match passes.getLast? with
  | none => .error (.invalidContract .decision)
  | some final =>
    match final.decision with
    | none => .error (.invalidContract .decision)
    | some decision =>
      if decision.outcome ≠ .keep then .error (.invalidContract .decision)
      else .ok (passes.dropLast.map (repairEntry phaseId) ++
        request.criteria.map (criterionEntry decision final.passNumber))

/-- The two changes are the ones `S05.80` seals with the means. -/
def evidenceSummary (comparable : Bool) (decision : DecisionView) (effect : EffectResult) :
    EvidenceSummary :=
  let change := effect.treatmentMean - effect.baselineMean
  { criterionId := effect.criterionId
    metricId := effect.metricId
    baselineMean := effect.baselineMean
    treatmentMean := effect.treatmentMean
    absoluteChange := change
    relativeChange := if effect.baselineMean = 0 then none else some (change / effect.baselineMean)
    comparable := comparable
    met := metByCriterion decision effect.criterionId }

def handleS0740 (s : OptimizationState) : Except Failure (List EvidenceSummary) := do
  let statisticalRef ← s.requirePhaseRef ⟨.S05, 80⟩ .statisticalReport
  let effects ← readStatistical statisticalRef
  let comparabilityRef ← s.requirePhaseRef ⟨.S05, 70⟩ .comparabilityReport
  let comparable ← readComparability comparabilityRef
  let decisionRef ← s.requirePhaseRef ⟨.S06, 80⟩ .decision
  let decision ← readDecision decisionRef
  .ok (effects.map (evidenceSummary comparable decision))

def handleS0750 (s : OptimizationState) : Except Failure SourceChangeSummary := do
  let phaseId ← s.activePhaseId
  let patchRef ← s.requirePhaseRef ⟨.S03, 80⟩ .patchArtifact
  let patch ← readPatch patchRef
  let phases ← s.readPlan
  match phases.find? (·.phaseId == phaseId) with
  | none => .error (.unknownPhase phaseId)
  | some phase =>
    let applyRef ← s.requirePhaseRef ⟨.S06, 90⟩ .repositoryApplyResult
    let applyResult ← readApplyResult applyRef
    .ok { phaseId := phaseId
          baseRevision := patch.baseRevision
          changedFiles := patch.changedFiles
          patchDigest := patchRef.contentDigest
          rollbackCommand := phase.rollbackCommand
          rollbackExecuted := false
          appliedToRepository := applyResult.commit.isSome
          appliedBranchName := applyResult.commit.map (·.1)
          appliedCommitSha := applyResult.commit.map (·.2)
          appliedFailureReason := applyResult.failureReason }

/-- A pass whose provenance is not found costs nothing. -/
def passTokens (s : OptimizationState) (phaseId : String) (passNumber : Nat) :
    Except Failure (Nat × Nat) :=
  match s.tryStageRef (.phasePass ⟨.S03, 80⟩ phaseId passNumber) .executionProvenance with
  | none => .ok (0, 0)
  | some ref => readTokens ref

def handleS0760 (s : OptimizationState) : Except Failure CostSummary := do
  let phaseId ← s.activePhaseId
  let tokens ← (List.range (s.s03RevisionAttempts + 1)).mapM (passTokens s phaseId)
  .ok ⟨(tokens.map (·.1)).sum, (tokens.map (·.2)).sum, s.s03RevisionAttempts⟩

/-- `S07.80`. `outcomes` and `evidence` have `min_length=1`. -/
def handleS0780 (s : OptimizationState) (outcomes : List OutcomeEntry)
    (evidence : List EvidenceSummary) (sourceChange : SourceChangeSummary) (cost : CostSummary) :
    Except Failure OptimizationReport := do
  let phaseId ← s.activePhaseId
  let decisionRef ← s.requirePhaseRef ⟨.S06, 80⟩ .decision
  if outcomes.isEmpty || evidence.isEmpty then .error (.invalidContract .other)
  else .ok ⟨phaseId, decisionRef.contentDigest, outcomes, evidence, sourceChange, cost⟩

/-- `S07.90`. A pass is covered by a repair entry of that number, whatever its subject. -/
def handleS0790 (s : OptimizationState) (report : OptimizationReport) :
    Except Failure NodeRoute := do
  let request ← s.readRequest
  let _ ← s.activePhaseId
  let criteriaCovered := request.criteria.all fun criterion =>
    report.outcomes.any (·.subject == criterion.criterionId)
  let passesCovered := (List.range s.s03RevisionAttempts).all fun passNumber =>
    report.outcomes.any fun entry =>
      entry.category == .repaired && entry.passNumber == passNumber
  .ok (if criteriaCovered && passesCovered then .continue_ else .rejected)

/-- S07 from its entry: the sealed report and the route of `S07.90`, or `none` when
`S07.10` rejects the chain. -/
def runReport (s : OptimizationState) :
    Except Failure (Option (OptimizationReport × NodeRoute)) := do
  let intact ← digestChainIntact s
  if !intact then .ok none
  else
    let outcomes ← handleS0730 s
    let evidence ← handleS0740 s
    let sourceChange ← handleS0750 s
    let cost ← handleS0760 s
    let report ← handleS0780 s outcomes evidence sourceChange cost
    let route ← handleS0790 s report
    .ok (some (report, route))

end ProductionOptimizer
