import ProductionOptimizer.Contracts.Request
import ProductionOptimizer.Handlers.Answers
import ProductionOptimizer.S3ArtifactStore

/-!
# A1.90 and A1.95: approving and freezing a request

Both nodes read the parts of the request from the store and compute a fingerprint over their
content digests. `A1.90` binds an approval to the fingerprint, `A1.95` compares it and seals.
-/

namespace ProductionOptimizer.Freeze
open Canonical (ArtifactEnvelope sha256Digest)
open CanonicalJson
set_option autoImplicit false

/-! ### State, store and failures -/

def isDigest (text : String) : Bool :=
  S3.digestPrefix.isPrefixOf text.toList &&
    (text.toList.drop S3.digestPrefix.length).length == 64 &&
    (text.toList.drop S3.digestPrefix.length).all ("0123456789abcdef".toList.contains ·)

structure ArtifactRef where
  artifactType : String
  schemaVersion : String
  artifactId : String
  contentDigest : String
  uri : String
  digest : isDigest contentDigest = true

structure ResumeCommand where
  decision : String
  actorId : String
  actorRoles : List String
  policyVersion : String
  roles_ne : actorRoles ≠ []

/-- What the two nodes read of the case state. -/
structure A1State where
  caseId : Option String
  tenantId : Option String
  artifactRefs : List ArtifactRef
  resumeCommand : Option ResumeCommand := none

inductive Failure where
  | missingField (key : String)
  | missingRef (artifactType : String)
  | unreadable (artifactType : String)
  | invalidArtifact (artifactType : String)
  | withoutObjective
  | withoutWorkload
  | withoutApproval
  | digestMismatch
  | invalidRequest
  | notStored
  deriving DecidableEq, Repr

/-- What the nodes themselves raise; the store and validation have texts of their own. -/
def Failure.message : Failure → Option String
  | .missingField key => some ("A1 state is missing required field '" ++ key ++ "'")
  | .missingRef artifactType => some ("missing required artifact ref: " ++ artifactType)
  | .withoutObjective => some "A1.95 cannot freeze without CanonicalObjective.objective"
  | .withoutWorkload => some "A1.95 cannot freeze without WorkloadIdentity.workload"
  | .withoutApproval => some "A1.95 cannot freeze without an approved A1ApprovalDecision"
  | .digestMismatch => some "A1 approval digest does not match the frozen request fingerprint"
  | _ => none

structure ManualCasePayload where
  actorId : String
  actorRole : String
  policyVersion : String

structure PolicyRequest where
  decisionType : String
  policyVersion : String
  tenantId : String
  facts : List (String × Tree)

structure PolicyDecision where
  allowed : Bool
  decision : String
  policyVersion : String
  reasons : List String

/-- The items of a JSON object. -/
abbrev Items := List (String × Tree)

/-- The hash, Python's `repr` of a `str`, the store, the policy, and what pydantic does: JSON to a
dict, the fields of a class other than `content_digest`, and a model to the items of its dump. -/
structure Environment (σ : Type) where
  hexdigest : ByteArray → String
  repr : String → String
  read : σ → String → ArtifactRef → Option ByteArray
  putJson : σ → String → ByteArray → String → String → Option String × σ
  policy : Option (PolicyRequest → PolicyDecision)
  validateJson : ByteArray → Option Items
  validate : ∀ part : Part, Items → Option (ArtifactEnvelope × part.Body)
  validateApproval : Items → Option (ArtifactEnvelope × A1ApprovalDecision)
  validateQuality : Items → Option (ArtifactEnvelope × A1QualityReport)
  validatePayload : Items → Option ManualCasePayload
  dump : ArtifactEnvelope → OptimizationRequest → Items

/-- A state of A1 with the store it meets. -/
structure Scene (σ : Type) where
  state : A1State
  store : σ

/-! ### Reading -/

def require {α : Type} (value : Option α) (failure : Failure) : Except Failure α :=
  match value with
  | some a => .ok a
  | none => .error failure

def check (holds : Bool) (failure : Failure) : Except Failure Unit :=
  if holds then .ok () else .error failure

def requiredStateStr (value : Option String) (key : String) : Except Failure String :=
  match value with
  | some text => if text = "" then .error (.missingField key) else .ok text
  | none => .error (.missingField key)

def requireRef (s : A1State) (artifactType : String) : Except Failure ArtifactRef :=
  require (s.artifactRefs.find? (·.artifactType == artifactType)) (.missingRef artifactType)

def digestKey : String := "content_digest"

/-- `raw.setdefault("content_digest", ...)`. -/
def setDefaultDigest (raw : Items) (digest : String) : Items :=
  if raw.any (·.1 == digestKey) then raw else raw ++ [(digestKey, .string digest)]

/-- `model_validate` of an artifact class. The digest is stripped and matched against its pattern;
no check relates it to the other fields. -/
def validateModel {α : Type} (validate : Items → Option (ArtifactEnvelope × α)) (raw : Items) :
    Option (Artifact α) :=
  match raw.lookup digestKey with
  | some (.string text) =>
    let digest := String.ofList (S3.trim text.toList)
    if isDigest digest then
      (validate (raw.filter (·.1 != digestKey))).map fun fields => ⟨digest, fields.1, fields.2⟩
    else none
  | _ => none

section Reading
variable {σ : Type} (env : Environment σ) (scene : Scene σ)

/-- The bytes that the first ref of the type leads to. -/
def readContent (artifactType : String) : Except Failure (ArtifactRef × ByteArray) := do
  let ref ← requireRef scene.state artifactType
  let tenantId ← requiredStateStr scene.state.tenantId "tenant_id"
  let content ← require (env.read scene.store tenantId ref) (.unreadable artifactType)
  return (ref, content)

/-- `_read_model` of the first ref of an artifact class. -/
def readModel {α : Type} (artifactType : String)
    (validate : Items → Option (ArtifactEnvelope × α)) : Except Failure (Artifact α) := do
  let (ref, content) ← readContent env scene artifactType
  let raw ← require (env.validateJson content) (.invalidArtifact artifactType)
  require (validateModel validate (setDefaultDigest raw ref.contentDigest))
    (.invalidArtifact artifactType)

/-- `_read_model` of the payload, which is no artifact. -/
def readPayload : Except Failure ManualCasePayload := do
  let (_, content) ← readContent env scene "ManualCasePayload"
  let raw ← require (env.validateJson content) (.invalidArtifact "ManualCasePayload")
  require (env.validatePayload raw) (.invalidArtifact "ManualCasePayload")

def readPart (part : Part) : Except Failure (Artifact part.Body) :=
  readModel env scene part.artifactType (env.validate part)

def readInputs : Except Failure Inputs := do
  let source ← readPart env scene .source
  let objective ← readPart env scene .objective
  let scope ← readPart env scene .scope
  let criteria ← readPart env scene .criteria
  let guardrails ← readPart env scene .guardrails
  let budget ← readPart env scene .budget
  let workload ← readPart env scene .workload
  let evidence ← readPart env scene .evidence
  return fun
    | .source => source
    | .objective => objective
    | .scope => scope
    | .criteria => criteria
    | .guardrails => guardrails
    | .budget => budget
    | .workload => workload
    | .evidence => evidence

/-- The same in the order of `A1.90`, which shows in what is found missing first. -/
def readInputsForApproval : Except Failure Inputs := do
  let objective ← readPart env scene .objective
  let criteria ← readPart env scene .criteria
  let guardrails ← readPart env scene .guardrails
  let workload ← readPart env scene .workload
  let evidence ← readPart env scene .evidence
  let budget ← readPart env scene .budget
  let source ← readPart env scene .source
  let scope ← readPart env scene .scope
  return fun
    | .source => source
    | .objective => objective
    | .scope => scope
    | .criteria => criteria
    | .guardrails => guardrails
    | .budget => budget
    | .workload => workload
    | .evidence => evidence

end Reading

/-! ### The fingerprint -/

/-- The parts in the order of the dict of `_request_fingerprint`. -/
def fingerprintParts : List Part :=
  [.source, .scope, .objective, .criteria, .guardrails, .workload, .evidence, .budget]

def fingerprintItems (caseId : String) (inputs : Inputs) : List (String × String) :=
  ("case_id", caseId) :: fingerprintParts.map fun part => (part.key, (inputs part).contentDigest)

def fingerprintBytes (caseId : String) (inputs : Inputs) : ByteArray :=
  Canonical.canonicalJson (.dict (stringItems (fingerprintItems caseId inputs)))

section Nodes
variable {σ : Type} (env : Environment σ) (scene : Scene σ)

def requestFingerprint (inputs : Inputs) : Except Failure String := do
  let caseId ← requiredStateStr scene.state.caseId "case_id"
  return sha256Digest env.hexdigest (fingerprintBytes caseId inputs)

/-! ### A1.90 -/

def bindingOf (caseId actorId actorRole fingerprint policyVersion : String) : ApprovalBinding :=
  ⟨caseId ++ "-A1-APPROVAL", actorId, actorRole, .approve, fingerprint, policyVersion⟩

def approvalRequest (payload : ManualCasePayload) (inputs : Inputs)
    (tenantId fingerprint : String) : PolicyRequest :=
  ⟨"a1.request_approval", payload.policyVersion, tenantId,
    [("actor_id", .string payload.actorId), ("actor_role", .string payload.actorRole),
      ("request_fingerprint", .string fingerprint),
      ("repository_id", .string (inputs .source).body.repositoryId),
      ("feature_id", .string (inputs .scope).body.featureId),
      ("dirty", .bool (inputs .source).body.dirty)]⟩

/-- What a policy's decision makes of the request. -/
def policyDecision (repr : String → String) (caseId : String) (payload : ManualCasePayload)
    (fingerprint : String) (d : PolicyDecision) : A1ApprovalDecision :=
  if !d.allowed then ⟨false, none, .rejected, d.reasons, d.policyVersion⟩
  else if d.decision = "require_approval" then ⟨false, none, .approval, d.reasons, d.policyVersion⟩
  else if d.decision = "allow" then
    ⟨true, some (bindingOf caseId payload.actorId payload.actorRole fingerprint d.policyVersion),
      .continue_, d.reasons, d.policyVersion⟩
  else ⟨false, none, .rejected,
    d.reasons ++ ["unsupported policy decision " ++ repr d.decision], d.policyVersion⟩

/-- The decision that `A1.90` seals. -/
def approvalDecision (caseId tenantId fingerprint : String) (payload : ManualCasePayload)
    (quality : A1QualityReport) (inputs : Inputs) : A1ApprovalDecision :=
  match scene.state.resumeCommand with
  | some command =>
    if command.decision = "approve" then
      ⟨true, some (bindingOf caseId command.actorId
        ((command.actorRoles.insertionSort (· ≤ ·)).headD "") fingerprint command.policyVersion),
        .continue_, [], command.policyVersion⟩
    else ⟨false, none, .rejected, ["resumed with decision " ++ env.repr command.decision],
      command.policyVersion⟩
  | none =>
    if !quality.passed then
      ⟨false, none, .rejected, quality.missingFields ++ quality.conflicts ++ quality.invalidValues,
        payload.policyVersion⟩
    else
      match env.policy with
      | some evaluate => policyDecision env.repr caseId payload fingerprint
          (evaluate (approvalRequest payload inputs tenantId fingerprint))
      | none =>
        if ["owner", "approver", "platform_owner"].contains payload.actorRole then
          ⟨true, some (bindingOf caseId payload.actorId payload.actorRole fingerprint
            payload.policyVersion), .continue_, [], payload.policyVersion⟩
        else ⟨false, none, .approval, ["actor role requires approval"], payload.policyVersion⟩

/-- `A1.90` up to the artifact it seals. -/
def handleA190 : Except Failure A1ApprovalDecision := do
  let payload ← readPayload env scene
  let quality ← readModel env scene "A1QualityReport" env.validateQuality
  let inputs ← readInputsForApproval env scene
  let fingerprint ← requestFingerprint env scene inputs
  let caseId ← requiredStateStr scene.state.caseId "case_id"
  let tenantId ← requiredStateStr scene.state.tenantId "tenant_id"
  return approvalDecision env scene caseId tenantId fingerprint payload quality.body inputs

/-! ### A1.95 -/

def stripped (text : String) : String := String.ofList (S3.trim text.toList)

/-! What every envelope of A1 has. -/

theorem wellFormed_noExtensions : (Tree.dict []).WellFormed := by
  simp [Tree.WellFormed, Tree.Distinct]

theorem distinct_a1Policies : ([("a1", "production-v1")].map Prod.fst).Nodup := by decide

/-- `_base_envelope`, as the class of the artifact validates it. -/
def baseEnvelope (caseId tenantId now artifactType : String) (parents : List String) :
    Option ArtifactEnvelope :=
  let artifactId := stripped (caseId ++ "-" ++ artifactType)
  if h : (∀ s ∈ [artifactId, stripped tenantId, stripped caseId, "a1-production-handler", "1.0.0"],
        1 ≤ s.length ∧ s.length ≤ 100) ∧
      parents.Nodup ∧ ∀ d ∈ parents, "sha256:".toList <+: d.toList ∧ d.length = 71 then
    some
      { artifactId
        tenantId := stripped tenantId
        caseId := stripped caseId
        createdAt := now
        producerName := "a1-production-handler"
        producerVersion := "1.0.0"
        policyVersions := [("a1", "production-v1")]
        parentDigests := parents
        extensions := ⟨[], wellFormed_noExtensions⟩
        texts_length := h.1
        policies_distinct := distinct_a1Policies
        parents_distinct := h.2.1
        parents_sha256 := h.2.2 }
  else none

def sourceReference (source : LocalSourceIdentity) : SourceReference where
  repositoryId := source.repositoryId
  allowedRootId := source.allowedRootId
  relativePath := source.relativePath
  requestedRevision := source.gitRevision

/-- The order of `parent_digests`. -/
def parentParts : List Part :=
  [.source, .scope, .objective, .criteria, .guardrails, .budget, .workload, .evidence]

def requestOf (inputs : Inputs) (objective : Objective) (workload : WorkloadContract)
    (approval : ApprovalBinding) (fingerprint : String) : OptimizationRequest where
  origin := .manual
  scopeProfile := .localSandbox
  source := sourceReference (inputs .source).body
  featureScope := inputs .scope
  objective := objective
  criteria := (inputs .criteria).body.criteria
  guardrails := (inputs .guardrails).body.guardrails
  workload := workload
  execution := (inputs .workload).body.execution
  evidenceRequirements := (inputs .evidence).body.evidenceRequirements
  budget := (inputs .budget).body.budget
  approval := approval
  requestFingerprint := fingerprint

/-- What the class of the request demands of its own fields. -/
def validRequest (r : OptimizationRequest) : Bool :=
  !r.criteria.isEmpty && !r.evidenceRequirements.isEmpty && isDigest r.requestFingerprint

/-- `_seal`. -/
def sealRequest (envelope : ArtifactEnvelope) (r : OptimizationRequest) :
    Artifact OptimizationRequest :=
  ⟨sha256Digest env.hexdigest (Canonical.canonicalJson (.dict (env.dump envelope r))), envelope, r⟩

def optimizationRequest (now : String) : Except Failure (Artifact OptimizationRequest) := do
  let inputs ← readInputs env scene
  let approval ← readModel env scene "A1ApprovalDecision" env.validateApproval
  let objective ← require (inputs .objective).body.objective .withoutObjective
  let workload ← require (inputs .workload).body.workload .withoutWorkload
  let binding ← require approval.body.approval .withoutApproval
  check approval.body.approved .withoutApproval
  let fingerprint ← requestFingerprint env scene inputs
  check (binding.artifactDigest == fingerprint) .digestMismatch
  let caseId ← requiredStateStr scene.state.caseId "case_id"
  let tenantId ← requiredStateStr scene.state.tenantId "tenant_id"
  let parents := parentParts.map (fun part => (inputs part).contentDigest) ++
    [approval.contentDigest]
  let envelope ← require (baseEnvelope caseId tenantId now "OptimizationRequest" parents)
    .invalidRequest
  let request := requestOf inputs objective workload binding fingerprint
  check (validRequest request) .invalidRequest
  return sealRequest env envelope request

def handleA195 (now : String) : Except Failure ArtifactRef × σ :=
  match optimizationRequest env scene now with
  | .error e => (.error e, scene.store)
  | .ok request =>
    match env.putJson scene.store (scene.state.tenantId.getD "")
        (Canonical.canonicalJson (.dict (env.dump request.envelope request.body)))
        request.contentDigest (scene.state.caseId.getD "" ++ ":A1.95:OptimizationRequest") with
    | (none, store) => (.error .notStored, store)
    | (some uri, store) =>
      if h : isDigest request.contentDigest = true then
        (.ok ⟨"OptimizationRequest", "1.0", request.envelope.artifactId, request.contentDigest,
          uri, h⟩, store)
      else (.error .invalidRequest, store)

end Nodes

end ProductionOptimizer.Freeze
