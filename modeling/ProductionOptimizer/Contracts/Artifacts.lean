import Mathlib.Data.Rat.Defs
import Mathlib.Algebra.Order.Ring.Rat
import ProductionOptimizer.Contracts.Nodes

/-!
# Contract models and sealed artifacts

Only the fields some modelled function reads or writes are kept. Numbers that the code
holds as floats are exact rationals. A content digest is the sealed content itself, so
two digests agree exactly when the contents do; every sealed artifact keeps its
`created_at`, which makes a second sealing a different content.
-/

namespace ProductionOptimizer
set_option autoImplicit false

inductive RiskTier where
  | experimentConfig
  | prompt
  | code
  | architecture
  deriving DecidableEq, Repr

inductive Effort where
  | low
  | medium
  | high
  deriving DecidableEq, Repr

inductive Reversibility where
  | instant
  | fast
  | slow
  | irreversible
  deriving DecidableEq, Repr

inductive ImpactDirection where
  | improves
  | worsens
  | neutral
  | unknown
  deriving DecidableEq, Repr

structure CriterionImpact where
  criterionId : String
  direction : ImpactDirection
  confidence : ℚ
  deriving DecidableEq

structure ScopeResolutionEntry where
  pathOrSymbol : String
  proposedCreation : Bool
  deriving DecidableEq

structure SolutionStrategy where
  strategyId : String
  riskCeiling : RiskTier
  criterionImpacts : List CriterionImpact
  effort : Effort
  reversibility : Reversibility
  uncertainty : ℚ
  rollbackReversible : Bool
  scopeEntries : List ScopeResolutionEntry
  fullyResolved : Bool
  eligible : Bool
  deriving DecidableEq

structure SolutionPortfolio where
  strategies : List SolutionStrategy
  deriving DecidableEq

inductive Direction where
  | minimize
  | maximize
  | target
  deriving DecidableEq, Repr

structure Criterion where
  criterionId : String
  metricId : String
  direction : Direction
  target : ℚ
  weight : ℚ
  deriving DecidableEq

inductive GuardrailOperator where
  | lt
  | lte
  | eq
  | gte
  | gt
  deriving DecidableEq, Repr

structure Guardrail where
  guardrailId : String
  metricId : String
  operator : GuardrailOperator
  threshold : ℚ
  deriving DecidableEq

structure EvidenceRequirement where
  criterionId : String
  minimumSamples : Nat
  deriving DecidableEq

structure OptimizationRequest where
  criteria : List Criterion
  guardrails : List Guardrail
  evidenceRequirements : List EvidenceRequirement
  workloadId : String
  deadlineSeconds : Nat
  deriving DecidableEq

inductive CommandKind where
  | build
  | lint
  | type
  | unit
  | integration
  | security
  | benchmark
  deriving DecidableEq, Repr

def CommandKind.name : CommandKind → String
  | .build => "build"
  | .lint => "lint"
  | .type => "type"
  | .unit => "unit"
  | .integration => "integration"
  | .security => "security"
  | .benchmark => "benchmark"

/-- The metric an exit-code command is measured under. -/
def CommandKind.metricId (kind : CommandKind) : String := kind.name ++ "_command_result"

/-- The command the model proposes for a repository that declares none. -/
structure CommandProposal where
  argv : List String
  kind : CommandKind
  deriving DecidableEq

structure RepositoryManifest where
  commands : List CommandKind
  testRoots : List String
  manifestFiles : List String
  deriving DecidableEq

structure SourceSnapshot where
  canonicalPathRef : String
  gitRevision : Option String
  deriving DecidableEq

structure MetricAggregate where
  metricId : String
  count : Nat
  mean : ℚ
  deriving DecidableEq

structure BaselineSnapshot where
  workloadId : String
  environmentId : String
  aggregates : List MetricAggregate
  deriving DecidableEq

structure StrategyScore where
  strategyId : String
  riskTier : RiskTier
  criterionScores : List (String × ℚ)
  effortScore : ℚ
  reversibilityScore : ℚ
  riskPenalty : ℚ
  totalScore : ℚ
  deriving DecidableEq

inductive SelectionDecision where
  | autoSelected
  | approved
  | rejected
  | pending
  deriving DecidableEq, Repr

structure SelectionApproval where
  decision : SelectionDecision
  actorId : Option String
  actorRole : Option String
  policyVersion : String
  deriving DecidableEq

inductive PhaseKind where
  | diagnostic
  | implementation
  deriving DecidableEq, Repr

structure ExecutionPhase where
  phaseId : String
  sequence : Nat
  phaseKind : PhaseKind
  riskTier : RiskTier
  rollbackCommand : Option String
  deriving DecidableEq

structure PlanTask where
  taskId : String
  phaseId : String
  files : List String
  symbols : List String
  dependsOn : List String
  proposedCreation : Bool
  deriving DecidableEq

inductive PlanDimension where
  | phasesWellFormed
  | tasksWellFormed
  | dependencyDagAcyclic
  | phaseOrderingByRisk
  | riskLadderOrdering
  | pathsResolve
  | noSilentPathRepairs
  | criteriaCoverage
  | rollbackDefined
  | criticApproved
  deriving DecidableEq, Repr

structure PlanQualityResult where
  dimension : PlanDimension
  passed : Bool
  deriving DecidableEq

inductive PlanDecision where
  | autoApproved
  | approved
  | rejected
  | pending
  deriving DecidableEq, Repr

structure PlanApproval where
  decision : PlanDecision
  actorId : Option String
  actorRole : Option String
  policyVersion : String
  deriving DecidableEq

inductive ExecutorKind where
  | deterministicConfig
  | llmDriven
  deriving DecidableEq, Repr

inductive Isolation where
  | gitWorktree
  | directoryCopy
  deriving DecidableEq, Repr

inductive ScopeViolation where
  | path (path : String)
  | symbol (path : String) (name : String)
  deriving DecidableEq, Repr

inductive SanitationFinding where
  | secret (path : String)
  | forbiddenBinary (path : String)
  | lockfileChange (path : String)
  | migrationChange (path : String)
  deriving DecidableEq, Repr

structure CheckResult where
  commandId : String
  kind : CommandKind
  exitCode : Int
  passed : Bool
  deriving DecidableEq

inductive FailureClassification where
  | patchRegression
  | baselineExistingFailure
  deriving DecidableEq, Repr

structure FailureAttribution where
  checkKind : CommandKind
  classification : FailureClassification
  deriving DecidableEq

inductive IsolationViolation where
  | scopeViolation
  | dependencyDrift (path : String)
  deriving DecidableEq, Repr

inductive ComparabilityDimension where
  | isolation
  | sampleQuality
  | workloadId
  | environmentId
  deriving DecidableEq, Repr

structure EffectResult where
  criterionId : String
  metricId : String
  baselineMean : ℚ
  treatmentMean : ℚ
  sampleCount : Nat
  deriving DecidableEq

/-- `treatmentValue` is `none` for the `nan` of an unmeasured criterion. -/
structure TargetEvaluation where
  criterionId : String
  metricId : String
  direction : Direction
  target : ℚ
  treatmentValue : Option ℚ
  met : Bool
  deriving DecidableEq

inductive EvidenceSource where
  | statisticalEffect
  | verificationCheck
  | unavailable
  deriving DecidableEq, Repr

structure GuardrailEvaluation where
  guardrailId : String
  metricId : String
  evidenceSource : EvidenceSource
  observedValue : Option ℚ
  passed : Bool
  deriving DecidableEq

inductive PhaseClassification where
  | allTargetsMet
  | repairable
  | wrongDirection
  | noEvidence
  deriving DecidableEq, Repr

structure PhaseAttribution where
  phaseId : String
  classification : PhaseClassification
  deriving DecidableEq

inductive Outcome where
  | keep
  | fixOnePart
  | revert
  | escalate
  deriving DecidableEq, Repr

inductive ApplyApproval where
  | denied
  | autoAllowed
  | approved
  | rejected
  deriving DecidableEq, Repr

inductive ApplyFailure where
  | policyDenied
  | resumedWith (decision : String)
  | headMoved
  | worktreeAdd
  | applyCheck
  | apply
  | add
  | commit
  | revParse
  deriving DecidableEq, Repr

inductive ProposalRoute where
  | ownerReview
  | autoForward
  deriving DecidableEq, Repr

structure ProposalRoutingDecision where
  decisionId : String
  route : ProposalRoute
  reasons : List String
  policyVersion : String
  requiredActorRole : Option String
  deriving DecidableEq

inductive ProposalDecision where
  | pending
  | approved
  | rejected
  | revisionRequested
  deriving DecidableEq, Repr

structure ProposalApproval where
  approvalId : Option String
  actorId : Option String
  actorRole : Option String
  decision : ProposalDecision
  policyVersion : String
  deriving DecidableEq

inductive StalenessAction where
  | refresh
  | proceed
  deriving DecidableEq, Repr

structure StalenessDecision where
  decisionId : String
  stale : Bool
  changedDimensions : List String
  action : StalenessAction
  deriving DecidableEq

inductive ArtifactType where
  | optimizationRequest
  | solutionPortfolio
  | convergedCase
  | sourceSnapshot
  | repositoryManifest
  | baselineSnapshot
  | a1ApprovalDecision
  | verificationManifest
  | blob
  | rankingResult
  | selectedSolution
  | executionPlan
  | taskList
  | planQualityReport
  | executionProvenance
  | patchArtifact
  | verificationReport
  | isolationReport
  | comparabilityReport
  | statisticalReport
  | measurement
  | rollbackReport
  | decision
  | repositoryApplyResult
  | qualifiedOpportunity
  | evidenceBundle
  | findingSet
  | a3QualityReport
  | proposalEnvelope
  | other
  deriving DecidableEq, Repr

/-- Sealed contents. A field of type `Artifact` is the digest of that artifact, `absent`
an optional digest that is not set. -/
inductive Artifact where
  | absent
  | optimizationRequest (request : OptimizationRequest)
  | solutionPortfolio (portfolio : SolutionPortfolio)
  | convergedCase
  | sourceSnapshot (snapshot : SourceSnapshot)
  | repositoryManifest (manifest : RepositoryManifest)
  | baselineSnapshot (baseline : BaselineSnapshot)
  | a1ApprovalDecision (createdAt : Nat) (approval : Option (String × String))
      (fingerprint : Nat) (route : NodeRoute)
  | verificationManifest (createdAt : Nat) (commands : List CommandKind)
      (adoptedProposal : Option CommandProposal)
  | commandProposal (proposal : CommandProposal)
  | rankingResult (createdAt : Nat) (solutionPortfolioDigest : Artifact)
      (scores : List StrategyScore) (rankedStrategyIds : List String)
      (sensitivityFlags : List String)
  | selectedSolution (createdAt : Nat) (rankingResultDigest : Artifact)
      (solutionPortfolioDigest : Artifact) (strategyId : String)
      (approval : SelectionApproval) (excludedStrategyIds : List String)
  | executionPlan (createdAt : Nat) (selectedSolutionDigest : Artifact)
      (phases : List ExecutionPhase)
  | taskList (createdAt : Nat) (executionPlanDigest : Artifact) (tasks : List PlanTask)
  | planQualityReport (createdAt : Nat) (executionPlanDigest : Artifact)
      (taskListDigest : Artifact) (results : List PlanQualityResult)
  | executionProvenance (createdAt : Nat) (executionPlanDigest : Artifact) (phaseId : String)
      (executorKind : ExecutorKind) (toolCalls : Nat) (inputTokens outputTokens : Nat)
      (baseRevision : String) (isolation : Isolation)
  | patchArtifact (createdAt : Nat) (executionPlanDigest : Artifact)
      (executionProvenanceDigest : Artifact) (phaseId : String) (taskIds : List String)
      (baseRevision : String) (changedFiles : List String) (diff : String)
      (scopeViolations : List ScopeViolation) (sanitationFindings : List SanitationFinding)
  | verificationReport (createdAt : Nat) (patchDigest : Artifact)
      (executionProvenanceDigest : Artifact) (phaseId : String)
      (checkResults : List CheckResult) (failureAttributions : List FailureAttribution)
      (passed : Bool)
  | isolationReport (createdAt : Nat) (patchDigest : Artifact) (isolated : Bool)
      (violations : List IsolationViolation)
  | comparabilityReport (createdAt : Nat) (comparable : Bool)
      (dimensions : List (ComparabilityDimension × Bool))
  | statisticalReport (createdAt : Nat) (effects : List EffectResult)
  | measurement (createdAt : Nat) (baselineDigest patchDigest isolationReportDigest
      comparabilityReportDigest statisticalReportDigest : Artifact) (phaseId : String)
  | rollbackReport (createdAt : Nat) (phaseId : String) (patchDigest : Artifact)
      (originalUntouched : Bool)
  | decision (createdAt : Nat) (phaseId : String) (measurementDigest : Artifact)
      (verificationDigest : Artifact) (targetEvaluations : List TargetEvaluation)
      (guardrailEvaluations : List GuardrailEvaluation) (attribution : PhaseAttribution)
      (outcome : Outcome) (rollbackReportDigest : Artifact)
  | repositoryApplyResult (createdAt : Nat) (phaseId : String) (patchDigest : Artifact)
      (commit : Option (String × String)) (baseRevision : String)
      (failureReason : Option ApplyFailure) (approvalDecision : ApplyApproval)
      (approvalActorId : Option String)
  | qualifiedOpportunity (content : Nat)
  | evidenceBundle (content : Nat)
  | findingSet (createdAt : Nat) (content : Nat)
  | a3QualityReport (createdAt : Nat) (content : Nat)
  | proposalEnvelope (createdAt : Nat) (opportunityDigest findingSetDigest
      solutionPortfolioDigest qualityReportDigest : Artifact)
      (routingDecision : ProposalRoutingDecision) (approval : ProposalApproval)
      (staleness : StalenessDecision)
  | other (content : Nat)
  deriving DecidableEq

namespace Artifact

def artifactType : Artifact → ArtifactType
  | absent => .other
  | optimizationRequest _ => .optimizationRequest
  | solutionPortfolio _ => .solutionPortfolio
  | convergedCase => .convergedCase
  | sourceSnapshot _ => .sourceSnapshot
  | repositoryManifest _ => .repositoryManifest
  | baselineSnapshot _ => .baselineSnapshot
  | a1ApprovalDecision .. => .a1ApprovalDecision
  | verificationManifest .. => .verificationManifest
  | commandProposal _ => .blob
  | rankingResult .. => .rankingResult
  | selectedSolution .. => .selectedSolution
  | executionPlan .. => .executionPlan
  | taskList .. => .taskList
  | planQualityReport .. => .planQualityReport
  | executionProvenance .. => .executionProvenance
  | patchArtifact .. => .patchArtifact
  | verificationReport .. => .verificationReport
  | isolationReport .. => .isolationReport
  | comparabilityReport .. => .comparabilityReport
  | statisticalReport .. => .statisticalReport
  | measurement .. => .measurement
  | rollbackReport .. => .rollbackReport
  | decision .. => .decision
  | repositoryApplyResult .. => .repositoryApplyResult
  | qualifiedOpportunity _ => .qualifiedOpportunity
  | evidenceBundle _ => .evidenceBundle
  | findingSet .. => .findingSet
  | a3QualityReport .. => .a3QualityReport
  | proposalEnvelope .. => .proposalEnvelope
  | other _ => .other

end Artifact

/-- The part of an `artifact_id` after the case id: `base` is `<case>-<type>`, the two
scoped forms are `<case>-<node>-pass<n>-<type>` and `<case>-<node>-<phase>-pass<n>-<type>`. -/
inductive ArtifactId where
  | base
  | stagePass (node : NodeId) (passNumber : Nat)
  | phasePass (node : NodeId) (phaseId : String) (passNumber : Nat)
  | external (name : String)
  deriving DecidableEq, Repr

structure ArtifactRef where
  artifactId : ArtifactId
  contentDigest : Artifact
  deriving DecidableEq

namespace ArtifactRef

def artifactType (ref : ArtifactRef) : ArtifactType := ref.contentDigest.artifactType

/-- Two refs are the same entry of `artifact_refs` when type and id agree. -/
def sameKey (a b : ArtifactRef) : Bool :=
  a.artifactType == b.artifactType && a.artifactId == b.artifactId

end ArtifactRef

structure InterruptEnvelope where
  interruptId : String
  caseId : String
  threadId : String
  stage : NodeId
  artifactDigest : Artifact
  allowedDecisions : List String
  requiredActorRole : String
  policyVersion : String
  issuedAt : Nat
  expiresAt : Nat
  deriving DecidableEq

structure ResumeInterruptCommand where
  tenantId : String
  caseId : String
  threadId : String
  interruptId : String
  actorId : String
  actorRoles : List String
  decision : String
  artifactDigest : Artifact
  policyVersion : String
  deriving DecidableEq

structure ActorContext where
  actorId : String
  tenantId : String
  roles : List String
  deriving DecidableEq

structure PolicyDecision where
  allowed : Bool
  decision : String
  policyVersion : String
  reasons : List String
  deriving DecidableEq

end ProductionOptimizer
