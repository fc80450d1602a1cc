import Mathlib.Data.List.MinMax
import Mathlib.Data.Prod.Lex
import Mathlib.Data.String.Basic
import ProductionOptimizer.BootstrapPolicy
import ProductionOptimizer.Contracts.Request
import ProductionOptimizer.Library.KeyedMerge
import ProductionOptimizer.Library.LineCut
import ProductionOptimizer.Library.Runs
import ProductionOptimizer.Library.Samples

/-!
# The automatic scan

The nodes of B1 and its graph. A ref carries the model it was sealed from, which is what a node
reads back; times are in microseconds. The embedded A2 is one node that hands artifacts and
completion markers to the scan. Its list channels are summed again there, and no node behind it
reads them.
-/

namespace ProductionOptimizer.Scan
open KeyedMerge Policy
set_option autoImplicit false

/-! ### Contracts -/

structure RegisteredSource where
  sourceId : String
  featureId : String
  repositoryId : String
  localPath : String
  deriving DecidableEq, Repr

structure HistoricalRevision where
  revisionId : String
  observedAt : Int
  deriving DecidableEq, Repr

inductive QueryKind where
  | metrics
  | logs
  | traces
  | llmEvidence
  deriving DecidableEq, Repr

structure HistoricalEvidenceItem where
  evidenceId : String
  featureId : String
  workloadId : String
  environmentId : String
  observedAt : Int
  deriving DecidableEq, Repr

structure RunGroup where
  groupId : String
  featureId : String
  workloadId : String
  environmentId : String
  sampleIds : List String
  windowStart : Int
  windowEnd : Int
  deriving DecidableEq, Repr

inductive SignalKind where
  | threshold
  | regression
  | hotspot
  | llmQuality
  deriving DecidableEq, Repr

structure DetectionSignal where
  signalId : String
  signalKind : SignalKind
  runGroupIds : List String
  metricId : String
  description : String
  baselineValue : Option ℚ
  observedValue : ℚ
  unit : String
  severity : ℚ
  runGroupIds_ne_nil : runGroupIds ≠ []
  severity_nonneg : 0 ≤ severity
  severity_le_one : severity ≤ 1

structure FeatureBinding where
  bindingId : String
  signalIds : List String
  featureId : Option String
  confidence : ℚ
  resolved : Bool

structure SourceBinding where
  bindingId : String
  repositoryId : String
  gitRevision : Option String
  resolved : Bool
  unresolvedReason : Option String

structure OwnershipBinding where
  bindingId : String
  codeOwner : Option String
  serviceOwner : Option String
  decisionOwner : Option String
  conflicts : List String
  resolved : Bool

structure OpportunityScore where
  scoreId : String
  severity : ℚ
  frequency : ℚ
  businessImpact : ℚ
  evidenceTrust : ℚ
  addressability : ℚ
  strategicPriority : ℚ
  composite : ℚ

structure QualificationDecision where
  decisionId : String
  qualified : Bool
  reasons : List String

structure CooldownDecision where
  decisionId : String
  suppressed : Bool

structure DetectionReport where
  scanId : String
  windowStart : Int
  windowEnd : Int
  runGroups : List RunGroup
  signals : List DetectionSignal
  featureBindings : List FeatureBinding
  sourceBindings : List SourceBinding
  ownershipBindings : List OwnershipBinding
  scores : List OpportunityScore
  qualificationDecisions : List QualificationDecision
  cooldownDecisions : List CooldownDecision

/-- The request of `B1.90`: no feature scope, no guardrails and no Compose contract. -/
structure OptimizationRequest where
  origin : Freeze.Origin
  scopeProfile : Freeze.ScopeProfile
  source : Freeze.SourceReference
  objective : Freeze.Objective
  criteria : List Freeze.Criterion
  workload : Freeze.WorkloadContract
  evidenceRequirements : List Freeze.EvidenceRequirement
  budget : Freeze.ExecutionBudget
  approval : Freeze.ApprovalBinding
  requestFingerprint : String

structure QualifiedOpportunity (D : Type) where
  detectionReportDigest : D
  requestDigest : D
  sourceSnapshotDigest : D
  baselineDigest : D
  evidenceBundleDigest : D
  comparabilityReportDigest : D
  sourceBinding : SourceBinding
  ownerBinding : OwnershipBinding
  caseStartId : String

/-- What the embedded A2 seals and `B1.96` refers to. -/
inductive RecoveredType where
  | sourceSnapshot
  | baselineSnapshot
  | evidenceBundle
  | comparabilityReport
  deriving DecidableEq, Repr

inductive ScanType where
  | discoveryScanContext
  | registeredSourceSet
  | observedSourceIdentity
  | historicalSourceInventory
  | readAuthorization
  | historicalEvidenceBranch
  | detectionReport
  | optimizationRequest
  | qualifiedOpportunity
  | recovered (type : RecoveredType)
  deriving DecidableEq, Repr

def ScanType.name : ScanType → String
  | .discoveryScanContext => "DiscoveryScanContext"
  | .registeredSourceSet => "RegisteredSourceSet"
  | .observedSourceIdentity => "ObservedSourceIdentity"
  | .historicalSourceInventory => "HistoricalSourceInventory"
  | .readAuthorization => "ReadAuthorization"
  | .historicalEvidenceBranch => "HistoricalEvidenceBranch"
  | .detectionReport => "DetectionReport"
  | .optimizationRequest => "OptimizationRequest"
  | .qualifiedOpportunity => "QualifiedOpportunity"
  | .recovered .sourceSnapshot => "SourceSnapshot"
  | .recovered .baselineSnapshot => "BaselineSnapshot"
  | .recovered .evidenceBundle => "EvidenceBundle"
  | .recovered .comparabilityReport => "ComparabilityReport"

inductive Body (D : Type) where
  | discoveryScanContext (scanId : String) (windowStart windowEnd : Int)
  | registeredSourceSet (sources : List RegisteredSource)
  | observedSourceIdentity (sourceId repositoryId : String) (gitRevision : Option String)
      (contentFingerprint : String)
  | historicalSourceInventory (sourceId : String) (revisions : List HistoricalRevision)
  | readAuthorization (scanId : String) (allowed : Bool) (reasons : List String)
      (authorizedQueryKinds : List QueryKind)
  | historicalEvidenceBranch (branchId : Nat) (kind : QueryKind)
      (evidence : List HistoricalEvidenceItem) (unavailableReason : Option String)
  | detectionReport (report : DetectionReport)
  | optimizationRequest (request : OptimizationRequest)
  | qualifiedOpportunity (opportunity : QualifiedOpportunity D)
  | recovered (type : RecoveredType)

def Body.type {D : Type} : Body D → ScanType
  | .discoveryScanContext .. => .discoveryScanContext
  | .registeredSourceSet .. => .registeredSourceSet
  | .observedSourceIdentity .. => .observedSourceIdentity
  | .historicalSourceInventory .. => .historicalSourceInventory
  | .readAuthorization .. => .readAuthorization
  | .historicalEvidenceBranch .. => .historicalEvidenceBranch
  | .detectionReport .. => .detectionReport
  | .optimizationRequest .. => .optimizationRequest
  | .qualifiedOpportunity .. => .qualifiedOpportunity
  | .recovered type => .recovered type

/-- An artifact as it is sealed, without its digest. -/
structure Envelope (D : Type) where
  artifactId : String
  createdAt : Int
  parentDigests : List D
  body : Body D

structure Ref (D : Type) where
  envelope : Envelope D
  digest : D

namespace Ref
variable {D : Type}

def body (ref : Ref D) : Body D := ref.envelope.body

def type (ref : Ref D) : ScanType := ref.body.type

def key (ref : Ref D) : String ×ₗ String := toLex (ref.type.name, ref.envelope.artifactId)

end Ref

def mergeArtifactRefs {D : Type} [DecidableEq D] :
    List (Ref D) → List (Ref D) → Option (List (Ref D)) :=
  mergeSorted Ref.key Ref.digest

/-! ### State and ports -/

structure ScanState (D : Type) where
  caseId : String
  tenantId : String
  artifactRefs : List (Ref D)
  requestRef : Option (Ref D) := none
  runGroups : List RunGroup := []
  signals : List DetectionSignal := []
  featureBindings : List FeatureBinding := []
  sourceBindings : List SourceBinding := []
  ownershipBindings : List OwnershipBinding := []
  scores : List OpportunityScore := []
  qualificationDecisions : List QualificationDecision := []
  cooldownDecisions : List CooldownDecision := []
  completedNodes : List NodeId := []
  /-- The nodes of the next superstep; none at the end. -/
  pending : List Nat := [10]

/-- What a node hands to the reducers. -/
structure Updates (D : Type) where
  artifactRefs : List (Ref D) := []
  requestRef : Option (Ref D) := none
  runGroups : List RunGroup := []
  signals : List DetectionSignal := []
  featureBindings : List FeatureBinding := []
  sourceBindings : List SourceBinding := []
  ownershipBindings : List OwnershipBinding := []
  scores : List OpportunityScore := []
  qualificationDecisions : List QualificationDecision := []
  cooldownDecisions : List CooldownDecision := []

structure Execution (D : Type) where
  route : NodeRoute := .continue_
  updates : Updates D := {}

inductive Failure where
  | missingField (key : String)
  | missingRef (type : ScanType)
  | missingBranch (node : Nat)
  | unreadable (type : ScanType)
  | invalidModel (type : ScanType)
  | missingPolicy (node : Nat)
  | policy (failure : PolicyFailure)
  | refConflict
  | notEnabled (node : Nat)
  | recovery
  deriving DecidableEq, Repr

/-- An artifact that the embedded A2 hands over. -/
structure RecoveredRef (D : Type) where
  type : RecoveredType
  artifactId : String
  createdAt : Int
  parentDigests : List D
  digest : D

def RecoveredRef.toRef {D : Type} (ref : RecoveredRef D) : Ref D where
  envelope := ⟨ref.artifactId, ref.createdAt, ref.parentDigests, .recovered ref.type⟩
  digest := ref.digest

/-- `git` is a command in a directory, `resolve` the resolved path, `round4` and `show` are
`round(_, 4)` and the text of a float, `recover` is a run of the embedded A2. -/
structure Ports (D : Type) where
  policy : Option (PolicyRequest → Except PolicyFailure PolicyDecision)
  git : String → List String → Option String
  pathExists : String → Bool
  resolve : String → String
  fromIsoformat : String → Option Int
  round4 : ℚ → ℚ
  showFloat : ℚ → String
  contentFingerprint : String → Option String → String
  requestFingerprint : Freeze.Objective → List Freeze.Criterion → Freeze.WorkloadContract → String
  digest : Envelope D → D
  recover : ScanState D → Except Failure (List (RecoveredRef D) × List Nat)

/-! ### Helpers of the nodes -/

section Nodes
variable {D : Type} (ports : Ports D) (now : Int) (s : ScanState D)

def requiredStateStr (key value : String) : Except Failure String :=
  if value = "" then .error (.missingField key) else .ok value

/-- `_base_envelope` and `_seal`, under an artifact id of its own. -/
def sealAs (artifactId : String) (parents : List D) (body : Body D) : Ref D :=
  let envelope : Envelope D := ⟨artifactId, now, parents, body⟩
  ⟨envelope, ports.digest envelope⟩

def sealModel (parents : List D) (body : Body D) : Except Failure (Ref D) := do
  let caseId ← requiredStateStr "case_id" s.caseId
  let _ ← requiredStateStr "tenant_id" s.tenantId
  .ok (sealAs ports now (caseId ++ "-" ++ body.type.name) parents body)

def tryRef (type : ScanType) : Option (Ref D) := s.artifactRefs.find? (·.type == type)

def requireRef (type : ScanType) : Except Failure (Ref D) :=
  match tryRef s type with
  | some ref => .ok ref
  | none => .error (.missingRef type)

def branchArtifactId (caseId : String) (node : Nat) : String :=
  caseId ++ "-" ++ (NodeId.mk .B1 node).render ++ "-HistoricalEvidenceBranch"

def requireBranchRef (node : Nat) : Except Failure (Ref D) := do
  let caseId ← requiredStateStr "case_id" s.caseId
  match s.artifactRefs.find? fun ref => ref.type == .historicalEvidenceBranch &&
      ref.envelope.artifactId == branchArtifactId caseId node with
  | some ref => .ok ref
  | none => .error (.missingBranch node)

def readRegistry : Except Failure (List RegisteredSource) := do
  match (← requireRef s .registeredSourceSet).body with
  | .registeredSourceSet sources => .ok sources
  | _ => .error (.unreadable .registeredSourceSet)

def readReport (ref : Ref D) : Except Failure DetectionReport :=
  match ref.body with
  | .detectionReport report => .ok report
  | _ => .error (.unreadable .detectionReport)

/-- The update that hands over one artifact. -/
def sealing (ref : Ref D) : Execution D := { updates := { artifactRefs := [ref] } }

/-! ### Scan, registry, fingerprint, inventory, authorization -/

def day : Int := 24 * 3600 * 1000000

def handleB110 : Except Failure (Execution D) := do
  let scanId ← requiredStateStr "case_id" s.caseId
  let ref ← sealModel ports now s [] (.discoveryScanContext scanId (now - day) now)
  .ok (sealing ref)

def handleB120 : Except Failure (Execution D) := do
  let seed ← requireRef s .registeredSourceSet
  match seed.body with
  | .registeredSourceSet sources =>
    let ref ← sealModel ports now s [seed.digest] (.registeredSourceSet sources)
    .ok (sealing ref)
  | _ => .error (.unreadable .registeredSourceSet)

/-- The directory is the root of its repository. -/
def exactGitRoot (root : String) : Bool :=
  match ports.git root ["rev-parse", "--show-toplevel"] with
  | some gitRoot => gitRoot != "" && ports.resolve gitRoot == ports.resolve root
  | none => false

def observedRevision (source : RegisteredSource) : Option String :=
  if ports.pathExists source.localPath && exactGitRoot ports source.localPath then
    ports.git source.localPath ["rev-parse", "HEAD"]
  else none

def zeroDigest : String := "sha256:" ++ String.ofList (List.replicate 64 '0')

def handleB121 : Except Failure (Execution D) := do
  match ← readRegistry s with
  | [] =>
    let ref ← sealModel ports now s [] (.observedSourceIdentity "none" "none" none zeroDigest)
    .ok (sealing ref)
  | source :: _ =>
    let revision := observedRevision ports source
    let ref ← sealModel ports now s [] (.observedSourceIdentity source.sourceId source.repositoryId
      revision (ports.contentFingerprint source.repositoryId revision))
    .ok (sealing ref)

/-- `str.splitlines` breaks here; the breaks themselves are stripped from every line. -/
def isLineBreak (c : Char) : Bool :=
  c.toNat ∈ [0x0a, 0x0b, 0x0c, 0x0d, 0x1c, 0x1d, 0x1e, 0x85, 0x2028, 0x2029]

/-- A line `<revision> <time>`; any other is skipped. -/
def revisionOf (line : List Char) : Option HistoricalRevision :=
  let stripped := S3.trim line
  match stripped.dropWhile (· != ' ') with
  | [] => none
  | _ :: time => (ports.fromIsoformat (String.ofList time)).map fun observedAt =>
      ⟨String.ofList (stripped.takeWhile (· != ' ')), observedAt⟩

def revisionsOf (source : RegisteredSource) : List HistoricalRevision :=
  if ports.pathExists source.localPath && exactGitRoot ports source.localPath then
    match ports.git source.localPath ["log", "-n", "20", "--format=%H %cI"] with
    | some log => (LineCut.cut isLineBreak log.toList).filterMap (revisionOf ports)
    | none => []
  else []

def handleB130 : Except Failure (Execution D) := do
  let sources ← readRegistry s
  let body : Body D := match sources with
    | [] => .historicalSourceInventory "none" []
    | source :: _ => .historicalSourceInventory source.sourceId (revisionsOf ports source)
  let ref ← sealModel ports now s [] body
  .ok (sealing ref)

def requirePolicy (node : Nat) :
    Except Failure (PolicyRequest → Except PolicyFailure PolicyDecision) :=
  match ports.policy with
  | some evaluate => .ok evaluate
  | none => .error (.missingPolicy node)

def readRequest : PolicyRequest where
  decisionType := "automatic_discovery_read"
  policyVersion := "b1-read-authorization-v1"
  tenantId := s.tenantId
  facts := [("scan_id", .text s.caseId)]

def handleB131 : Except Failure (Execution D) := do
  let evaluate ← requirePolicy ports 31
  let _ ← requiredStateStr "tenant_id" s.tenantId
  let scanId ← requiredStateStr "case_id" s.caseId
  let decision ← (evaluate (readRequest s)).mapError .policy
  -- a denial without a reason is no valid `ReadAuthorization`
  if !decision.allowed && decision.reasons.isEmpty then .error (.invalidModel .readAuthorization)
  else
    let ref ← sealModel ports now s [] (.readAuthorization scanId decision.allowed decision.reasons
      (if decision.allowed then [.metrics, .logs, .traces, .llmEvidence] else []))
    .ok (sealing ref)

/-! ### Queries -/

def QueryKind.text : QueryKind → String
  | .metrics => "metrics"
  | .logs => "logs"
  | .traces => "traces"
  | .llmEvidence => "llm_evidence"

def QueryKind.label : QueryKind → String
  | .metrics => "metrics"
  | .logs => "logs"
  | .traces => "traces and profiles"
  | .llmEvidence => "LLM execution evidence"

/-- The reason why a branch has no evidence. -/
def unavailable (kind : QueryKind) (allowed : Bool) (reasons : List String) : String :=
  if allowed then
    kind.text ++ ": no " ++ kind.label ++ " query adapter is wired into NodePorts"
  else kind.text ++ ": read authorization was denied (" ++ "; ".intercalate reasons ++ ")"

def queryBranch (node : Nat) (kind : QueryKind) : Except Failure (Execution D) := do
  let authorization ← requireRef s .readAuthorization
  match authorization.body with
  | .readAuthorization _ allowed reasons _ =>
    let caseId ← requiredStateStr "case_id" s.caseId
    let _ ← requiredStateStr "tenant_id" s.tenantId
    .ok (sealing (sealAs ports now (branchArtifactId caseId node) [authorization.digest]
      (.historicalEvidenceBranch node kind [] (some (unavailable kind allowed reasons)))))
  | _ => .error (.unreadable .readAuthorization)

def handleB132 : Except Failure (Execution D) := queryBranch ports now s 32 .metrics

def handleB133 : Except Failure (Execution D) := queryBranch ports now s 33 .logs

def handleB134 : Except Failure (Execution D) := queryBranch ports now s 34 .traces

def handleB135 : Except Failure (Execution D) := queryBranch ports now s 35 .llmEvidence

/-! ### Normalize, detect, bind, score, qualify -/

def queryBranchIds : List Nat := [32, 33, 34, 35]

def readEvidence (node : Nat) : Except Failure (List HistoricalEvidenceItem) := do
  match (← requireBranchRef s node).body with
  | .historicalEvidenceBranch _ _ evidence _ => .ok evidence
  | _ => .error (.unreadable .historicalEvidenceBranch)

def groupKey (item : HistoricalEvidenceItem) : Option (String × String × String) :=
  some (item.featureId, item.workloadId, item.environmentId)

def runGroup (index : Nat) (group : (String × String × String) × List HistoricalEvidenceItem) :
    RunGroup where
  groupId := "run-group-" ++ index.repr
  featureId := group.1.1
  workloadId := group.1.2.1
  environmentId := group.1.2.2
  sampleIds := group.2.map (·.evidenceId)
  windowStart := (group.2.map (·.observedAt)).min?.getD 0
  windowEnd := (group.2.map (·.observedAt)).max?.getD 0 + 1000000

def handleB140 : Except Failure (Execution D) := do
  let evidence ← queryBranchIds.mapM (readEvidence s)
  let groups := Samples.grouped groupKey evidence.flatten
  .ok { updates := { runGroups := groups.mapIdx fun index group => runGroup (index + 1) group } }

def handleB141 : Except Failure (Execution D) := .ok {}

/-- The four detectors see the run groups and find nothing in them. -/
def detector : Except Failure (Execution D) := .ok { updates := { signals := [] } }

def handleB160 : Except Failure (Execution D) :=
  .ok { updates := { featureBindings := s.signals.map fun signal =>
    { bindingId := "feature-binding-" ++ signal.signalId
      signalIds := [signal.signalId]
      featureId := none
      confidence := 0
      resolved := false } } }

def handleB161 : Except Failure (Execution D) := do
  if s.signals.isEmpty then .ok {}
  else
    match (← requireRef s .observedSourceIdentity).body with
    | .observedSourceIdentity _ repositoryId gitRevision _ =>
      let caseId ← requiredStateStr "case_id" s.caseId
      let resolved := repositoryId != "none"
      .ok { updates := { sourceBindings := [{
        bindingId := "source-binding-" ++ caseId
        repositoryId
        gitRevision
        resolved
        unresolvedReason :=
          if resolved then none else some "no registered source observed for this scan" }] } }
    | _ => .error (.unreadable .observedSourceIdentity)

def handleB162 : Except Failure (Execution D) := do
  if s.signals.isEmpty then .ok {}
  else
    let caseId ← requiredStateStr "case_id" s.caseId
    .ok { updates := { ownershipBindings := [{
      bindingId := "owner-binding-" ++ caseId
      codeOwner := none
      serviceOwner := none
      decisionOwner := none
      conflicts := []
      resolved := false }] } }

def composite (severity : ℚ) : ℚ := ports.round4 (7 / 10 * severity + 3 / 10 * (1 / 2))

def score (signal : DetectionSignal) : OpportunityScore where
  scoreId := "score-" ++ signal.signalId
  severity := signal.severity
  frequency := min 1 (signal.runGroupIds.length / 10)
  businessImpact := signal.severity
  evidenceTrust := 1 / 2
  addressability := 1 / 2
  strategicPriority := 1 / 2
  composite := composite ports signal.severity

def handleB170 : Except Failure (Execution D) :=
  .ok { updates := { scores := s.signals.map (score ports) } }

def qualificationThreshold : ℚ := 3 / 5

def handleB171 : Except Failure (Execution D) := do
  let caseId ← requiredStateStr "case_id" s.caseId
  match s.scores.argmax (·.composite) with
  | none => .ok { route := .rejected, updates := { qualificationDecisions :=
      [⟨"qualification-" ++ caseId, false, ["no detection signal met eligibility"]⟩] } }
  | some top =>
    let qualified := decide (qualificationThreshold ≤ top.composite)
    let decision : QualificationDecision :=
      ⟨"qualification-" ++ caseId, qualified, if qualified then [] else
        ["composite score " ++ ports.showFloat top.composite ++ " below threshold"]⟩
    let route : NodeRoute :=
      if qualified then .continue_
      else if s.ownershipBindings.any fun binding =>
        !binding.resolved && !binding.conflicts.isEmpty then .quarantine
      else .rejected
    .ok { route, updates := { qualificationDecisions := [decision] } }

def handleB180 : Except Failure (Execution D) :=
  let seenMetrics := (s.signals.map (·.metricId)).dedup
  .ok { route := if seenMetrics.length < s.signals.length then .merged else .continue_ }

def detectionReport (scanId : String) (cooldown : CooldownDecision) : DetectionReport where
  scanId
  windowStart := now - day
  windowEnd := now
  runGroups := s.runGroups
  signals := s.signals
  featureBindings := s.featureBindings
  sourceBindings := s.sourceBindings
  ownershipBindings := s.ownershipBindings
  scores := s.scores
  qualificationDecisions := s.qualificationDecisions
  cooldownDecisions := [cooldown]

def handleB181 : Except Failure (Execution D) := do
  let caseId ← requiredStateStr "case_id" s.caseId
  let cooldown : CooldownDecision := ⟨"cooldown-" ++ caseId, false⟩
  if s.qualificationDecisions.any (·.qualified) then
    let context ← requireRef s .discoveryScanContext
    let ref ← sealModel ports now s [context.digest]
      (.detectionReport (detectionReport now s caseId cooldown))
    .ok { updates := { artifactRefs := [ref], cooldownDecisions := [cooldown] } }
  else .ok { route := .closed, updates := { cooldownDecisions := [cooldown] } }

/-! ### Request, intake, opportunity -/

def topSignal (report : DetectionReport) : Option DetectionSignal :=
  report.signals.argmax (·.severity)

/-- The feature of the binding of the top signal, or else the case itself. -/
def featureIdOf (caseId : String) (report : DetectionReport) : String :=
  let binding := report.featureBindings.find? fun binding =>
    (topSignal report).any fun top => binding.signalIds.contains top.signalId
  (binding.bind (·.featureId)).getD caseId

def objectiveOf (caseId : String) (report : DetectionReport) : Freeze.Objective where
  statement := match topSignal report with
    | some top => top.description
    | none => "Automatically detected optimization opportunity"
  featureId := featureIdOf caseId report

def criterionFor (criterionId metricId : String) (target : ℚ) (unit : String) :
    Freeze.Criterion where
  criterionId
  metricId
  direction := .minimize
  target
  unit
  weight := 1
  aggregation := .mean
  acceptanceOperator := .lte
  tolerance := 0
  metricSchemaVersion := "1.0"

def criterionOf : Option DetectionSignal → Freeze.Criterion
  | some top => criterionFor ("auto-" ++ top.signalId) top.metricId
      (top.baselineValue.getD top.observedValue) top.unit
  | none => criterionFor "auto-criterion" "unknown_metric" 0 "unitless"

def workloadOf (featureId : String) : Freeze.WorkloadContract where
  workloadId := "auto-" ++ featureId
  datasetId := none
  environmentId := "production"
  commands := none
  repetitions := 3
  warmupRuns := 0
  concurrency := 1
  cacheState := "warm"
  protocolVersion := "1.0"
  datasetDigest := none
  parameters := []
  seed := none

def evidenceRequirementOf (criterion : Freeze.Criterion) : Freeze.EvidenceRequirement where
  requirementId := "evidence-" ++ criterion.criterionId
  criterionId := criterion.criterionId
  acceptedSourceTypes := {"benchmark", "test", "telemetry"}
  minimumSamples := 3
  mandatory := true
  metricId := none
  canonicalUnit := none
  aggregation := .mean
  requiredDimensions := ∅
  freshnessSeconds := none
  minimumTrustLevel := .verified

def automaticBudget : Freeze.ExecutionBudget where
  deadlineSeconds := 3600
  maximumWorkerSeconds := 180
  maximumModelTokens := 100000
  maximumStorageBytes := 10000000
  allowedAnalyzers := ∅
  maximumRetries := 1
  maximumConcurrency := 1
  priority := .normal

def approvalOf (caseId fingerprint : String) : Freeze.ApprovalBinding where
  approvalId := caseId ++ "-B1-APPROVAL"
  actorId := "system-discovery"
  actorRole := "automatic"
  decision := .approve
  artifactDigest := fingerprint
  policyVersion := "b1-intake-v1"

/-- The registered source of the bound repository, or else the first one. -/
def matchingSource (binding : Option SourceBinding) (sources : List RegisteredSource) :
    Option RegisteredSource :=
  (sources.find? fun candidate =>
    binding.any fun bound => candidate.repositoryId == bound.repositoryId).or sources.head?

def sourceReferenceOf (binding : Option SourceBinding) (sources : List RegisteredSource) :
    Freeze.SourceReference where
  repositoryId := (binding.map (·.repositoryId)).getD "unknown"
  allowedRootId := ((matchingSource binding sources).map (·.localPath)).getD "unknown"
  relativePath := "."
  requestedRevision := binding.bind (·.gitRevision)

def requestOf (caseId : String) (report : DetectionReport) (sources : List RegisteredSource) :
    OptimizationRequest :=
  let objective := objectiveOf caseId report
  let criterion := criterionOf (topSignal report)
  let workload := workloadOf objective.featureId
  let fingerprint := ports.requestFingerprint objective [criterion] workload
  { origin := .automatic
    scopeProfile := .localSandbox
    source := sourceReferenceOf report.sourceBindings.head? sources
    objective
    criteria := [criterion]
    workload
    evidenceRequirements := [evidenceRequirementOf criterion]
    budget := automaticBudget
    approval := approvalOf caseId fingerprint
    requestFingerprint := fingerprint }

def handleB190 : Except Failure (Execution D) := do
  let reportRef ← requireRef s .detectionReport
  let report ← readReport reportRef
  let caseId ← requiredStateStr "case_id" s.caseId
  let sources ← readRegistry s
  let ref ← sealModel ports now s [reportRef.digest]
    (.optimizationRequest (requestOf ports caseId report sources))
  .ok { updates := { artifactRefs := [ref], requestRef := some ref } }

def intakeRequest (featureId : String) : PolicyRequest where
  decisionType := "automatic_intake"
  policyVersion := "b1-intake-v1"
  tenantId := s.tenantId
  facts := [("feature_id", .text featureId)]

def handleB191 : Except Failure (Execution D) := do
  let evaluate ← requirePolicy ports 91
  match (← requireRef s .optimizationRequest).body with
  | .optimizationRequest request =>
    let _ ← requiredStateStr "tenant_id" s.tenantId
    let decision ← (evaluate (intakeRequest s request.objective.featureId)).mapError .policy
    .ok { route :=
      if decision.allowed then .continue_
      else if decision.decision == "deny" then .rejected
      else .approval }
  | _ => .error (.unreadable .optimizationRequest)

def missingSourceBinding : SourceBinding :=
  ⟨"none", "unknown", none, false, some "no source binding available"⟩

def missingOwnerBinding : OwnershipBinding := ⟨"none", none, none, none, [], false⟩

def handleB196 : Except Failure (Execution D) := do
  let reportRef ← requireRef s .detectionReport
  let requestRef ← requireRef s .optimizationRequest
  let sourceSnapshot ← requireRef s (.recovered .sourceSnapshot)
  let baseline ← requireRef s (.recovered .baselineSnapshot)
  let evidenceBundle ← requireRef s (.recovered .evidenceBundle)
  let comparability ← requireRef s (.recovered .comparabilityReport)
  let report ← readReport reportRef
  let caseId ← requiredStateStr "case_id" s.caseId
  let ref ← sealModel ports now s [reportRef.digest, requestRef.digest, baseline.digest]
    (.qualifiedOpportunity {
      detectionReportDigest := reportRef.digest
      requestDigest := requestRef.digest
      sourceSnapshotDigest := sourceSnapshot.digest
      baselineDigest := baseline.digest
      evidenceBundleDigest := evidenceBundle.digest
      comparabilityReportDigest := comparability.digest
      sourceBinding := report.sourceBindings.head?.getD missingSourceBinding
      ownerBinding := report.ownershipBindings.head?.getD missingOwnerBinding
      caseStartId := "case-start-" ++ caseId })
  .ok (sealing ref)

end Nodes

/-! ### The graph -/

section Graph
variable {D : Type} (ports : Ports D) (now : Int) (s : ScanState D)

/-- The registered handlers; the id `B1.95` is the embedded graph's. -/
def handle (node : Nat) : Except Failure (Execution D) :=
  match node with
  | 10 => handleB110 ports now s
  | 20 => handleB120 ports now s
  | 21 => handleB121 ports now s
  | 30 => handleB130 ports now s
  | 31 => handleB131 ports now s
  | 32 => handleB132 ports now s
  | 33 => handleB133 ports now s
  | 34 => handleB134 ports now s
  | 35 => handleB135 ports now s
  | 40 => handleB140 s
  | 41 => handleB141
  | 50 | 51 | 52 | 53 => detector
  | 60 => handleB160 s
  | 61 => handleB161 s
  | 62 => handleB162 s
  | 70 => handleB170 ports s
  | 71 => handleB171 ports s
  | 80 => handleB180 s
  | 81 => handleB181 ports now s
  | 90 => handleB190 ports now s
  | 91 => handleB191 ports s
  | 96 => handleB196 ports now s
  | _ => .error (.notEnabled node)

/-- Where the graph goes on behind a node: a fan-out is a superstep of several nodes. -/
def after : Nat → NodeRoute → List Nat
  | 10, _ => [20]
  | 20, _ => [21]
  | 21, _ => [30]
  | 30, _ => [31]
  | 31, _ => [32, 33, 34, 35]
  | 32, _ | 33, _ | 34, _ | 35, _ => [40]
  | 40, _ => [41]
  | 41, _ => [50, 51, 52, 53]
  | 50, _ | 51, _ | 52, _ | 53, _ => [60]
  | 60, _ => [61]
  | 61, _ => [62]
  | 62, _ => [70]
  | 70, _ => [71]
  | 71, .continue_ => [80]
  | 80, .continue_ => [81]
  | 81, .continue_ => [90]
  | 90, _ => [91]
  | 91, .continue_ => [95]
  | _, _ => []

def markCompleted (nodes : List NodeId) (node : NodeId) : List NodeId :=
  if node ∈ nodes then nodes else nodes ++ [node]

variable [DecidableEq D]

/-- The reducers of the channels. -/
def commit (updates : Updates D) : Except Failure (ScanState D) :=
  match mergeArtifactRefs s.artifactRefs updates.artifactRefs with
  | none => .error .refConflict
  | some artifactRefs => .ok { s with
      artifactRefs
      requestRef := updates.requestRef.or s.requestRef
      runGroups := s.runGroups ++ updates.runGroups
      signals := s.signals ++ updates.signals
      featureBindings := s.featureBindings ++ updates.featureBindings
      sourceBindings := s.sourceBindings ++ updates.sourceBindings
      ownershipBindings := s.ownershipBindings ++ updates.ownershipBindings
      scores := s.scores ++ updates.scores
      qualificationDecisions := s.qualificationDecisions ++ updates.qualificationDecisions
      cooldownDecisions := s.cooldownDecisions ++ updates.cooldownDecisions }

/-- The nodes of one superstep all read the state it starts from; their updates are merged in
the order of the nodes. -/
def superstep : List Nat → ScanState D → Except Failure (ScanState D)
  | [], merged => .ok merged
  | node :: nodes, merged => do
    let execution ← handle ports now s node
    let merged ← commit merged execution.updates
    superstep nodes { merged with
      completedNodes := markCompleted merged.completedNodes ⟨.B1, node⟩
      pending := after node execution.route }

/-- The values of the summed channels that the embedded graph hands back. -/
def recoveredUpdates (refs : List (RecoveredRef D)) : Updates D where
  artifactRefs := refs.map (·.toRef)
  runGroups := s.runGroups
  signals := s.signals
  featureBindings := s.featureBindings
  sourceBindings := s.sourceBindings
  ownershipBindings := s.ownershipBindings
  scores := s.scores
  qualificationDecisions := s.qualificationDecisions
  cooldownDecisions := s.cooldownDecisions

def recoverBaseline : Except Failure (ScanState D) := do
  let (refs, nodes) ← ports.recover s
  let merged ← commit s (recoveredUpdates s refs)
  let completedNodes :=
    (nodes.map (NodeId.mk .A2 ·)).foldl markCompleted merged.completedNodes
  .ok { merged with
    completedNodes
    pending := if ⟨.A2, 95⟩ ∈ completedNodes then [96] else [] }

def step : Except Failure (ScanState D) :=
  match s.pending with
  | [] => .ok s
  | [95] => recoverBaseline ports s
  | nodes => superstep ports now s nodes s

def Step (s : ScanState D) (now : Int) (s' : ScanState D) : Prop :=
  s.pending ≠ [] ∧ step ports now s = .ok s'

end Graph

end ProductionOptimizer.Scan
