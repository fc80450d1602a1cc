import Mathlib.Data.Finset.Basic
import ProductionOptimizer.Contracts.Artifacts
import ProductionOptimizer.Contracts.Canonical

/-!
# The optimization request and what it is frozen from

The contracts of `contracts/a1.py` and `contracts/evaluation.py` with all their fields, as values:
a set is a finite set, a float the number it stands for.
-/

namespace ProductionOptimizer.Freeze
open Canonical (ArtifactEnvelope MinimumTrust Priority)
open CanonicalJson
set_option autoImplicit false

/-! ### Parts of a request -/

structure SourceReference where
  repositoryId : String
  allowedRootId : String
  relativePath : String
  requestedRevision : Option String
  sourceKind : String := "local_directory"
  locator : Option String := none

structure Objective where
  statement : String
  featureId : String

structure Criterion where
  criterionId : String
  metricId : String
  direction : Direction
  target : ℚ
  unit : String
  weight : ℚ
  aggregation : Canonical.Aggregation
  acceptanceOperator : GuardrailOperator
  tolerance : ℚ
  metricSchemaVersion : String

inductive GuardrailCategory where
  | correctness
  | security
  | reliability
  | cost
  | quality
  deriving DecidableEq, Repr

inductive GuardrailSeverity where
  | warning
  | blocking
  deriving DecidableEq, Repr

structure Guardrail where
  guardrailId : String
  metricId : String
  operator : GuardrailOperator
  threshold : ℚ
  unit : String
  category : GuardrailCategory
  severity : GuardrailSeverity
  mandatory : Bool
  metricSchemaVersion : String

structure WorkloadContract where
  workloadId : String
  datasetId : Option String
  environmentId : String
  commands : Option (List (CommandKind × String))
  repetitions : Nat
  warmupRuns : Nat
  concurrency : Nat
  cacheState : String
  protocolVersion : String
  datasetDigest : Option String
  parameters : List (String × Tree)
  seed : Option Int

structure ContainerCommandSpec where
  service : String
  argv : List String
  workingDirectory : Option String
  timeoutSeconds : Nat

structure EvaluationSpec where
  evaluationId : String
  command : ContainerCommandSpec
  repetitions : Nat
  warmupRuns : Nat
  expectedMetricIds : Finset String

structure ComposeExecutionContract where
  composeFile : String
  applicationServices : List String
  evaluations : List EvaluationSpec
  startupTimeoutSeconds : Nat
  cleanupTimeoutSeconds : Nat

structure EvidenceRequirement where
  requirementId : String
  criterionId : String
  acceptedSourceTypes : Finset String
  minimumSamples : Nat
  mandatory : Bool
  metricId : Option String
  canonicalUnit : Option String
  aggregation : Canonical.Aggregation
  requiredDimensions : Finset String
  freshnessSeconds : Option Nat
  minimumTrustLevel : MinimumTrust

structure ExecutionBudget where
  deadlineSeconds : Nat
  maximumWorkerSeconds : Nat
  maximumModelTokens : Nat
  maximumStorageBytes : Nat
  allowedAnalyzers : Finset String
  maximumRetries : Nat
  maximumConcurrency : Nat
  priority : Priority

inductive Verdict where
  | approve
  | reject
  deriving DecidableEq, Repr

structure ApprovalBinding where
  approvalId : String
  actorId : String
  actorRole : String
  decision : Verdict
  artifactDigest : String
  policyVersion : String

/-! ### Artifacts -/

/-- An artifact as it is read back or sealed. -/
structure Artifact (α : Type) where
  contentDigest : String
  envelope : ArtifactEnvelope
  body : α

structure LocalSourceIdentity where
  repositoryId : String
  allowedRootId : String
  canonicalPath : String
  relativePath : String
  gitRevision : Option String
  dirty : Bool
  untrackedCount : Nat
  submoduleRevisions : List (String × String)

structure FeatureScope where
  featureId : String
  includePaths : List String
  excludePaths : List String
  confidence : ℚ
  rationale : String
  supportingPaths : List String
  alternativePaths : List String

structure CanonicalObjective where
  objective : Option Objective
  requesterHypothesis : Option String
  missingFields : List String

structure CriterionSet where
  criteria : List Criterion
  missingFields : List String

structure GuardrailSet where
  guardrails : List Guardrail
  missingFields : List String

structure ExecutionBudgetArtifact where
  budget : ExecutionBudget
  policyVersion : String

structure WorkloadIdentity where
  workload : Option WorkloadContract
  execution : Option ComposeExecutionContract
  missingFields : List String

structure EvidenceRequirementSet where
  evidenceRequirements : List EvidenceRequirement
  missingFields : List String

structure A1QualityReport where
  passed : Bool
  missingFields : List String
  conflicts : List String
  invalidValues : List String

inductive DecisionRoute where
  | continue_
  | approval
  | rejected
  deriving DecidableEq, Repr

structure A1ApprovalDecision where
  approved : Bool
  approval : Option ApprovalBinding
  decisionRoute : DecisionRoute
  reasons : List String
  policyVersion : String

inductive Origin where
  | manual
  | automatic
  deriving DecidableEq, Repr

inductive ScopeProfile where
  | localSandbox
  | connectedProduction
  deriving DecidableEq, Repr

structure OptimizationRequest where
  origin : Origin
  scopeProfile : ScopeProfile
  source : SourceReference
  featureScope : Artifact FeatureScope
  objective : Objective
  criteria : List Criterion
  guardrails : List Guardrail
  workload : WorkloadContract
  execution : Option ComposeExecutionContract
  evidenceRequirements : List EvidenceRequirement
  budget : ExecutionBudget
  approval : ApprovalBinding
  requestFingerprint : String

/-! ### The eight artifacts of a request -/

/-- In the order they are read in. -/
inductive Part where
  | source
  | objective
  | scope
  | criteria
  | guardrails
  | budget
  | workload
  | evidence
  deriving DecidableEq, Repr

namespace Part

def artifactType : Part → String
  | .source => "LocalSourceIdentity"
  | .objective => "CanonicalObjective"
  | .scope => "FeatureScope"
  | .criteria => "CriterionSet"
  | .guardrails => "GuardrailSet"
  | .budget => "ExecutionBudgetArtifact"
  | .workload => "WorkloadIdentity"
  | .evidence => "EvidenceRequirementSet"

/-- What `_request_fingerprint` calls the part. -/
def key : Part → String
  | .source => "source"
  | .objective => "objective"
  | .scope => "scope"
  | .criteria => "criteria"
  | .guardrails => "guardrails"
  | .budget => "budget"
  | .workload => "workload"
  | .evidence => "evidence"

def Body : Part → Type
  | .source => LocalSourceIdentity
  | .objective => CanonicalObjective
  | .scope => FeatureScope
  | .criteria => CriterionSet
  | .guardrails => GuardrailSet
  | .budget => ExecutionBudgetArtifact
  | .workload => WorkloadIdentity
  | .evidence => EvidenceRequirementSet

end Part

abbrev Inputs := ∀ part : Part, Artifact part.Body

end ProductionOptimizer.Freeze
