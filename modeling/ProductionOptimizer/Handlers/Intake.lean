import ProductionOptimizer.EvidenceBaseline

/-!
# A1: from a payload to the frozen request

`A1.20` drafts, `A1.61` to `A1.71` derive criteria, guardrail, workload and evidence
requirements from the draft, `A1.80` checks them and `A1.95` freezes them. Artifacts of
the other nodes (scope, profile, budget, the approval) are answers.
-/

namespace ProductionOptimizer.Intake
open EvidenceGate (Aggregation)
set_option autoImplicit false

/-! ### Metrics -/

/-- `str.lower` and `str.isalnum`. What they do outside ASCII is a table of the Unicode
version at hand. -/
structure UnicodeData where
  lower : List Char → List Char
  isAlnum : Char → Bool
  lower_ascii : ∀ text, (∀ c ∈ text, c.toNat < 128) → lower text = text.map Char.toLower
  isAlnum_ascii : ∀ c, c.toNat < 128 → isAlnum c = c.isAlphanum

structure MetricDefinition where
  metricId : String
  schemaVersion : String := "1.0"
  canonicalUnit : String
  defaultDirection : Direction
  aggregation : Aggregation
  acceptedSourceTypes : List String
  minimumSamples : Nat := 1
  acceptedSourceTypes_ne : acceptedSourceTypes ≠ [] := by exact List.cons_ne_nil _ _
  minimumSamples_pos : 1 ≤ minimumSamples := by exact Nat.succ_pos _

def builtinMetrics : List MetricDefinition :=
  [{ metricId := "p50_latency_ms", canonicalUnit := "ms", defaultDirection := .minimize
     aggregation := .p50, acceptedSourceTypes := ["benchmark", "telemetry"], minimumSamples := 3 },
   { metricId := "p95_latency_ms", canonicalUnit := "ms", defaultDirection := .minimize
     aggregation := .p95, acceptedSourceTypes := ["benchmark", "telemetry"], minimumSamples := 3 },
   { metricId := "p99_latency_ms", canonicalUnit := "ms", defaultDirection := .minimize
     aggregation := .p99, acceptedSourceTypes := ["benchmark", "telemetry"], minimumSamples := 3 },
   { metricId := "throughput_rps", canonicalUnit := "requests_per_second"
     defaultDirection := .maximize, aggregation := .rate
     acceptedSourceTypes := ["benchmark", "telemetry"], minimumSamples := 3 },
   { metricId := "peak_memory_mb", canonicalUnit := "MiB", defaultDirection := .minimize
     aggregation := .maximum, acceptedSourceTypes := ["telemetry", "profiler"] },
   { metricId := "cpu_utilization_percent", canonicalUnit := "percent"
     defaultDirection := .minimize, aggregation := .p95
     acceptedSourceTypes := ["telemetry", "profiler"], minimumSamples := 3 },
   { metricId := "input_tokens", canonicalUnit := "tokens", defaultDirection := .minimize
     aggregation := .sum, acceptedSourceTypes := ["evaluator", "telemetry"] },
   { metricId := "output_tokens", canonicalUnit := "tokens", defaultDirection := .minimize
     aggregation := .sum, acceptedSourceTypes := ["evaluator", "telemetry"] },
   { metricId := "total_tokens", canonicalUnit := "tokens", defaultDirection := .minimize
     aggregation := .sum, acceptedSourceTypes := ["evaluator", "telemetry"] },
   { metricId := "cost_usd", canonicalUnit := "USD", defaultDirection := .minimize
     aggregation := .sum, acceptedSourceTypes := ["evaluator", "telemetry"] },
   { metricId := "quality_score", canonicalUnit := "score", defaultDirection := .maximize
     aggregation := .mean, acceptedSourceTypes := ["evaluator", "judge"], minimumSamples := 3 },
   { metricId := "correctness", canonicalUnit := "exit_code", defaultDirection := .target
     aggregation := .verdict, acceptedSourceTypes := ["test", "evaluator"] },
   { metricId := "unit_command_result", canonicalUnit := "exit_code"
     defaultDirection := .target, aggregation := .verdict, acceptedSourceTypes := ["test"] }]

/-- A text that Python takes for true. -/
def truthy (text : Option String) : Option String := text.filter (· ≠ "")

/-- An exact built-in, or a custom metric with the declared unit. -/
def resolveMetric (metricId : String) (declaredUnit : Option String)
    (declaredDirection : Option Direction) : MetricDefinition :=
  match builtinMetrics.find? (·.metricId == metricId) with
  | some definition => definition
  | none =>
    { metricId
      canonicalUnit := (truthy declaredUnit).getD "scalar"
      defaultDirection := declaredDirection.getD .target
      aggregation := .mean
      acceptedSourceTypes := ["benchmark", "telemetry", "evaluator"] }

def strip (p : Char → Bool) (text : List Char) : List Char :=
  ((text.dropWhile p).reverse.dropWhile p).reverse

/-- The characters of `_criterion_id`. Whatever is not alphanumeric becomes a dash. -/
def slug (unicode : UnicodeData) (metricId : String) : List Char :=
  strip (· == '-') <|
    (unicode.lower metricId.toList).map fun c => if unicode.isAlnum c then c else '-'

def criterionId (unicode : UnicodeData) (metricId : String) : String :=
  if (slug unicode metricId).isEmpty then "criterion" else String.ofList (slug unicode metricId)

/-! ### The payload and the draft -/

structure CriterionInput where
  metricId : String
  direction : Direction
  target : ℚ
  unit : String
  weight : ℚ := 1
  deriving DecidableEq

inductive ExecutionProfile where
  | legacyDiscovery
  | dockerCompose
  deriving DecidableEq, Repr

structure EvaluationSpec where
  evaluationId : String
  expectedMetricIds : List String
  deriving DecidableEq, Repr

inductive CacheState where
  | cold
  | warm
  | mixed
  deriving DecidableEq, Repr

structure ManualCasePayload where
  rawText : Option String := none
  featureId : Option String := none
  metricId : Option String := none
  direction : Option Direction := none
  target : Option ℚ := none
  unit : Option String := none
  criteria : List CriterionInput := []
  workloadId : Option String := none
  environmentId : Option String := none
  commands : Option (List (CommandKind × String)) := none
  executionProfile : ExecutionProfile := .legacyDiscovery
  composeFile : Option String := none
  applicationServices : List String := []
  evaluations : List EvaluationSpec := []
  guardrailMetricId : Option String := none
  datasetId : Option String := none
  requesterHypothesis : Option String := none
  repetitions : Option Nat := none
  warmupRuns : Option Nat := none
  concurrency : Option Nat := none
  cacheState : Option CacheState := none
  deriving DecidableEq

inductive PayloadError where
  | noBusinessField
  | repeatedMetric
  | composeIncomplete
  | composeFieldsOutsideCompose
  deriving DecidableEq, Repr

/-- The validator `require_business_intent`. -/
def ManualCasePayload.requireBusinessIntent (payload : ManualCasePayload) :
    Except PayloadError Unit :=
  let structured := payload.featureId.isSome || payload.metricId.isSome ||
    payload.direction.isSome || payload.target.isSome || payload.unit.isSome ||
    payload.workloadId.isSome || payload.environmentId.isSome || payload.commands.isSome
  let metricIds := payload.criteria.map (·.metricId)
  if payload.rawText.isNone && payload.criteria.isEmpty && !structured then
    .error .noBusinessField
  else if metricIds.length ≠ metricIds.dedup.length then .error .repeatedMetric
  else if payload.executionProfile = .dockerCompose ∧
      (payload.composeFile.isNone ∨ payload.evaluations.isEmpty) then
    .error .composeIncomplete
  else if payload.executionProfile = .legacyDiscovery ∧ (payload.composeFile.isSome ∨
      !payload.evaluations.isEmpty ∨ !payload.applicationServices.isEmpty) then
    .error .composeFieldsOutsideCompose
  else .ok ()

/-- What the model read out of the raw text. -/
structure ExtractedIntent where
  objectiveStatement : Option String := none
  featureId : Option String := none
  metricId : Option String := none
  direction : Option Direction := none
  target : Option ℚ := none
  unit : Option String := none
  guardrailMetricId : Option String := none
  workloadId : Option String := none
  datasetId : Option String := none
  environmentId : Option String := none
  requesterHypothesis : Option String := none

structure RawRequestDraft where
  objectiveStatement : Option String
  featureId : Option String
  metricId : Option String
  direction : Option Direction
  target : Option ℚ
  unit : Option String
  criteria : List CriterionInput
  guardrailMetricId : Option String
  workloadId : Option String
  datasetId : Option String
  environmentId : Option String
  commands : Option (List (CommandKind × String))
  unresolvedFields : List String
  requesterHypothesis : Option String
  conflicts : List String

/-- `max` by weight: the first of the heaviest. -/
def primaryCriterion : List CriterionInput → Option CriterionInput
  | [] => none
  | first :: rest =>
    some (rest.foldl (fun best c => if best.weight < c.weight then c else best) first)

/-- One round of the loop over the scalar fields: a structured value beats a raw one, which
beats what the criteria suggested. -/
def mergeField {V : Type} (suggested raw structured : Option V) : Option V :=
  structured.or (raw.or suggested)

def fieldConflict {V : Type} [DecidableEq V] (field : String) (raw structured : Option V) :
    List String :=
  match raw, structured with
  | some r, some s => if r = s then [] else [field ++ ": raw and structured values disagree"]
  | _, _ => []

def directionText : Option Direction → String
  | some .minimize => "minimize"
  | some .maximize => "maximize"
  | some .target => "target"
  | none => "unspecified"

/-- `_draft_from_payload`. -/
def draftFromPayload (extracted : Option ExtractedIntent) (payload : ManualCasePayload) :
    RawRequestDraft :=
  let raw := extracted.getD {}
  let primary := primaryCriterion payload.criteria
  let featureId := mergeField none raw.featureId payload.featureId
  let metricId := mergeField (primary.map (·.metricId)) raw.metricId payload.metricId
  let direction := mergeField (primary.map (·.direction)) raw.direction payload.direction
  let target := mergeField (primary.map (·.target)) raw.target payload.target
  let unit := mergeField (primary.map (·.unit)) raw.unit payload.unit
  let workloadId := mergeField none raw.workloadId payload.workloadId
  let environmentId := mergeField none raw.environmentId payload.environmentId
  let stated := (truthy raw.objectiveStatement).or payload.rawText
  let derived := do
    let feature ← truthy featureId
    let metric ← truthy metricId
    some ("Optimize " ++ feature ++ ": " ++ metric ++ " (" ++ directionText direction ++ ")")
  { objectiveStatement := (truthy stated).or derived
    featureId, metricId, direction, target, unit
    criteria := payload.criteria
    guardrailMetricId := (truthy (mergeField none raw.guardrailMetricId
      payload.guardrailMetricId)).or (some "unit_command_result")
    workloadId
    datasetId := mergeField none raw.datasetId payload.datasetId
    environmentId
    commands := payload.commands.filter (!·.isEmpty)
    unresolvedFields :=
      [("feature_id", featureId.isSome), ("metric_id", metricId.isSome),
       ("direction", direction.isSome), ("target", target.isSome), ("unit", unit.isSome),
       ("workload_id", workloadId.isSome), ("environment_id", environmentId.isSome)].filterMap
        fun entry => if entry.2 then none else some entry.1
    requesterHypothesis := mergeField none raw.requesterHypothesis payload.requesterHypothesis
    conflicts :=
      fieldConflict "feature_id" raw.featureId payload.featureId ++
      fieldConflict "metric_id" raw.metricId payload.metricId ++
      fieldConflict "direction" raw.direction payload.direction ++
      fieldConflict "target" raw.target payload.target ++
      fieldConflict "unit" raw.unit payload.unit ++
      fieldConflict "guardrail_metric_id" raw.guardrailMetricId payload.guardrailMetricId ++
      fieldConflict "workload_id" raw.workloadId payload.workloadId ++
      fieldConflict "dataset_id" raw.datasetId payload.datasetId ++
      fieldConflict "environment_id" raw.environmentId payload.environmentId ++
      fieldConflict "requester_hypothesis" raw.requesterHypothesis payload.requesterHypothesis }

/-! ### Criteria, guardrail and workload -/

structure Criterion where
  criterionId : String
  metricId : String
  direction : Direction
  target : ℚ
  unit : String
  weight : ℚ
  aggregation : Aggregation
  acceptanceOperator : GuardrailOperator
  metricSchemaVersion : String

structure Guardrail where
  guardrailId : String
  metricId : String
  operator : GuardrailOperator
  threshold : ℚ
  unit : String
  metricSchemaVersion : String

structure CriterionSet where
  criteria : List Criterion
  missingFields : List String

structure GuardrailSet where
  guardrails : List Guardrail
  missingFields : List String

def acceptanceOperator : Option Direction → GuardrailOperator
  | some .maximize => .gte
  | some .target => .eq
  | _ => .lte

def declaredCriterion (unicode : UnicodeData) (declared : CriterionInput) : Criterion :=
  let metric := resolveMetric declared.metricId (some declared.unit) (some declared.direction)
  { criterionId := criterionId unicode declared.metricId
    metricId := declared.metricId
    direction := declared.direction
    target := declared.target
    unit := declared.unit
    weight := declared.weight
    aggregation := metric.aggregation
    acceptanceOperator := acceptanceOperator (some declared.direction)
    metricSchemaVersion := metric.schemaVersion }

def shorthandMissing (draft : RawRequestDraft) : List String :=
  (if (truthy draft.metricId).isNone then ["metric_id"] else []) ++
  (if draft.direction.isNone then ["direction"] else []) ++
  (if draft.target.isNone then ["target"] else []) ++
  (if (truthy draft.unit).isNone then ["unit"] else [])

def shorthandCriterion (draft : RawRequestDraft) : Criterion :=
  let metricId := draft.metricId.getD ""
  let metric := resolveMetric metricId draft.unit draft.direction
  { criterionId := "primary"
    metricId
    direction := draft.direction.getD .target
    target := draft.target.getD 0
    unit := draft.unit.getD ""
    weight := 1
    aggregation := metric.aggregation
    acceptanceOperator := acceptanceOperator draft.direction
    metricSchemaVersion := metric.schemaVersion }

def handleA161 (unicode : UnicodeData) (draft : RawRequestDraft) : CriterionSet :=
  if draft.criteria.isEmpty then
    { criteria := if (shorthandMissing draft).isEmpty then [shorthandCriterion draft] else []
      missingFields := shorthandMissing draft }
  else { criteria := draft.criteria.map (declaredCriterion unicode), missingFields := [] }

def handleA162 (draft : RawRequestDraft) : GuardrailSet :=
  match truthy draft.guardrailMetricId with
  | none => { guardrails := [], missingFields := ["correctness_guardrail"] }
  | some metricId =>
    let definition := resolveMetric metricId (some "exit_code") (some .target)
    { guardrails :=
        [{ guardrailId := "correctness", metricId, operator := .eq, threshold := 0
           unit := definition.canonicalUnit, metricSchemaVersion := definition.schemaVersion }]
      missingFields := [] }

structure ProjectProfile where
  languages : List (String × ℚ)
  fileCount : Nat
  discoveryTruncated : Bool

structure WorkloadContract where
  workloadId : String
  datasetId : Option String
  environmentId : String
  commands : Option (List (CommandKind × String))
  repetitions : Nat
  warmupRuns : Nat
  concurrency : Nat
  cacheState : CacheState

structure ComposeExecutionContract where
  composeFile : String
  applicationServices : List String
  evaluations : List EvaluationSpec

structure WorkloadIdentity where
  workload : Option WorkloadContract
  execution : Option ComposeExecutionContract
  missingFields : List String

def mostCommonLanguage : List (String × ℚ) → String
  | [] => "unknown"
  | first :: rest => (rest.foldl (fun best e => if best.2 < e.2 then e else best) first).1

/-- Repetitions and warmup runs. -/
def workloadDefaultsForLanguage (language : String) : Nat × Nat :=
  ([("python", 1, 0), ("go", 2, 1), ("rust", 2, 1), ("typescript", 3, 1), ("javascript", 3, 1),
    ("java", 2, 1), ("csharp", 2, 1)].lookup language).getD (1, 0)

def workloadDefaultsForMetric (metricId : Option String) : Nat × Nat :=
  if (resolveMetric (metricId.getD "") none none).aggregation = .verdict then (1, 0) else (3, 1)

def handleA170 (payload : ManualCasePayload) (draft : RawRequestDraft) (profile : ProjectProfile) :
    WorkloadIdentity :=
  match truthy draft.workloadId, truthy draft.environmentId with
  | some workloadId, some environmentId =>
    let metricDefaults := workloadDefaultsForMetric draft.metricId
    let languageDefaults := workloadDefaultsForLanguage (mostCommonLanguage profile.languages)
    { workload := some
        { workloadId, environmentId
          datasetId := draft.datasetId
          commands := draft.commands
          repetitions := match payload.repetitions with
            | some (n + 1) => n + 1
            | _ => max metricDefaults.1 languageDefaults.1
          warmupRuns := payload.warmupRuns.getD (max metricDefaults.2 languageDefaults.2)
          concurrency := match payload.concurrency with
            | some (n + 1) => n + 1
            | _ => 1
          cacheState := payload.cacheState.getD .warm }
      execution := if payload.executionProfile = .dockerCompose then
        some ⟨payload.composeFile.getD "", payload.applicationServices, payload.evaluations⟩
        else none
      missingFields := [] }
  | workloadId, environmentId =>
    { workload := none
      execution := none
      missingFields := (if workloadId.isNone then ["workload_id"] else []) ++
        (if environmentId.isNone then ["environment_id"] else []) }

/-! ### Evidence requirements -/

structure EvidenceRequirement where
  requirementId : String
  criterionId : String
  acceptedSourceTypes : List String
  minimumSamples : Nat
  mandatory : Bool
  metricId : String
  canonicalUnit : String
  aggregation : Aggregation
  requiredDimensions : List String
  acceptedSourceTypes_ne : acceptedSourceTypes ≠ []
  minimumSamples_pos : 1 ≤ minimumSamples

structure EvidenceRequirementSet where
  evidenceRequirements : List EvidenceRequirement
  missingFields : List String

def criterionRequirement (workload : WorkloadContract) (criterion : Criterion) :
    EvidenceRequirement :=
  let metric := resolveMetric criterion.metricId (some criterion.unit) (some criterion.direction)
  { requirementId := "evidence-" ++ criterion.criterionId
    criterionId := criterion.criterionId
    acceptedSourceTypes := metric.acceptedSourceTypes
    minimumSamples := max workload.repetitions metric.minimumSamples
    mandatory := true
    metricId := criterion.metricId
    canonicalUnit := metric.canonicalUnit
    aggregation := criterion.aggregation
    requiredDimensions := ["environment_id", "workload_id"]
    acceptedSourceTypes_ne := metric.acceptedSourceTypes_ne
    minimumSamples_pos := metric.minimumSamples_pos.trans (le_max_right _ _) }

def guardrailRequirement (guardrail : Guardrail) : EvidenceRequirement :=
  let metric := resolveMetric guardrail.metricId (some guardrail.unit) none
  { requirementId := "guardrail-" ++ guardrail.guardrailId
    criterionId := guardrail.guardrailId
    acceptedSourceTypes := metric.acceptedSourceTypes
    minimumSamples := 1
    mandatory := true
    metricId := guardrail.metricId
    canonicalUnit := guardrail.unit
    aggregation := .verdict
    requiredDimensions := ["environment_id"]
    acceptedSourceTypes_ne := metric.acceptedSourceTypes_ne
    minimumSamples_pos := le_refl 1 }

def handleA171 (criteria : CriterionSet) (guardrails : GuardrailSet)
    (workload : WorkloadIdentity) : EvidenceRequirementSet :=
  let missing := criteria.missingFields ++ guardrails.missingFields ++ workload.missingFields
  match workload.workload with
  | some contract =>
    { evidenceRequirements := criteria.criteria.map (criterionRequirement contract) ++
        guardrails.guardrails.map guardrailRequirement
      missingFields := sortedSet missing }
  | none =>
    { evidenceRequirements := []
      missingFields := sortedSet
        (if missing.contains "workload_id" then missing else missing ++ ["workload_id"]) }

/-! ### The quality gate -/

structure FeatureScope where
  featureId : String
  confidence : ℚ

structure Objective where
  statement : String
  featureId : String

structure ExecutionBudget where
  deadlineSeconds : Nat
  maximumWorkerSeconds : Nat
  maximumConcurrency : Nat

structure CanonicalObjective where
  objective : Option Objective
  missingFields : List String

def handleA160 (draft : RawRequestDraft) (scope : FeatureScope) : CanonicalObjective :=
  let missing :=
    (if (truthy draft.objectiveStatement).isNone then ["objective_statement"] else []) ++
    (if scope.confidence ≤ 0 ∨ scope.featureId = "unknown-feature" then ["feature_id"] else [])
  { objective := if missing.isEmpty then
      some ⟨draft.objectiveStatement.getD "", scope.featureId⟩ else none
    missingFields := missing }

inductive QualityConflict where
  | draft (text : String)
  | scopeConfidence
  | objectiveNotCanonicalized
  | noCriterion
  | noGuardrail
  | noWorkload
  | noExecutionContract
  | composeFileOutside
  | metricNotEvaluated (metricId : String)
  | noEvidenceRequirements
  | noRequirement (criterionId : String)
  | incompatibleSources (criterionId metricId : String)
  | inconsistentUnit (criterionId : String)
  | discoveryTruncated (fileCount : Nat)
  deriving DecidableEq, Repr

inductive InvalidValue where
  | workerSecondsTooFew
  | concurrencyExceedsBudget
  deriving DecidableEq, Repr

def validateComposeContract (composeFileInside : Bool) (payload : ManualCasePayload)
    (workload : WorkloadIdentity) (criteria : CriterionSet) (guardrails : GuardrailSet) :
    List QualityConflict :=
  if payload.executionProfile = .legacyDiscovery then []
  else
    match workload.execution with
    | none => [.noExecutionContract]
    | some execution =>
      let emitted := execution.evaluations.flatMap (·.expectedMetricIds)
      let needed := criteria.criteria.map (·.metricId) ++ guardrails.guardrails.map (·.metricId)
      (if composeFileInside then [] else [.composeFileOutside]) ++
        (sortedSet (needed.filter (!emitted.contains ·))).map .metricNotEvaluated

/-- `_validate_evidence_bindings`: the dictionary keeps the last requirement of an id. -/
def validateEvidenceBindings (criteria : CriterionSet) (evidence : EvidenceRequirementSet) :
    List QualityConflict :=
  criteria.criteria.flatMap fun criterion =>
    match lastWhere evidence.evidenceRequirements (·.criterionId == criterion.criterionId) with
    | none => [.noRequirement criterion.criterionId]
    | some requirement =>
      let expected :=
        resolveMetric criterion.metricId (some criterion.unit) (some criterion.direction)
      (if requirement.acceptedSourceTypes.all (expected.acceptedSourceTypes.contains ·) then []
        else [.incompatibleSources criterion.criterionId criterion.metricId]) ++
      (if requirement.canonicalUnit = criterion.unit then []
        else [.inconsistentUnit criterion.criterionId])

def validateBudget (workload : WorkloadIdentity) (budget : ExecutionBudget) : List InvalidValue :=
  match workload.workload with
  | none => []
  | some contract =>
    (if budget.maximumWorkerSeconds < contract.repetitions + contract.warmupRuns then
      [.workerSecondsTooFew] else []) ++
    (if budget.maximumConcurrency < contract.concurrency then [.concurrencyExceedsBudget] else [])

/-- What the nodes of A1 that are not modelled here sealed, and what they found outside the
case. -/
structure IntakeAnswers where
  extracted : Option ExtractedIntent := none
  scope : FeatureScope
  profile : ProjectProfile
  budget : ExecutionBudget
  composeFileInside : Bool := false
  approved : Bool

structure A1QualityReport where
  missingFields : List String
  conflicts : List QualityConflict
  invalidValues : List InvalidValue

def A1QualityReport.passed (report : A1QualityReport) : Bool :=
  report.missingFields.isEmpty && report.conflicts.isEmpty && report.invalidValues.isEmpty

/-- The artifacts that `A1.80` checks and `A1.95` freezes. -/
structure IntakeArtifacts where
  draft : RawRequestDraft
  objective : CanonicalObjective
  criteria : CriterionSet
  guardrails : GuardrailSet
  workload : WorkloadIdentity
  evidence : EvidenceRequirementSet

def intakeArtifacts (unicode : UnicodeData) (a : IntakeAnswers) (payload : ManualCasePayload) :
    IntakeArtifacts :=
  let draft := draftFromPayload a.extracted payload
  let criteria := handleA161 unicode draft
  let guardrails := handleA162 draft
  let workload := handleA170 payload draft a.profile
  { draft
    objective := handleA160 draft a.scope
    criteria
    guardrails
    workload
    evidence := handleA171 criteria guardrails workload }

def handleA180 (a : IntakeAnswers) (payload : ManualCasePayload) (artifacts : IntakeArtifacts) :
    A1QualityReport where
  missingFields := sortedSet <| artifacts.objective.missingFields ++
    artifacts.criteria.missingFields ++ artifacts.guardrails.missingFields ++
    artifacts.workload.missingFields ++ artifacts.evidence.missingFields ++
    artifacts.draft.unresolvedFields
  conflicts := artifacts.draft.conflicts.map .draft ++
    (if a.scope.confidence < 7 / 10 then [.scopeConfidence] else []) ++
    (if artifacts.objective.objective.isNone then [.objectiveNotCanonicalized] else []) ++
    (if artifacts.criteria.criteria.isEmpty then [.noCriterion] else []) ++
    (if artifacts.guardrails.guardrails.isEmpty then [.noGuardrail] else []) ++
    (if artifacts.workload.workload.isNone then [.noWorkload] else []) ++
    validateComposeContract a.composeFileInside payload artifacts.workload artifacts.criteria
      artifacts.guardrails ++
    (if artifacts.evidence.evidenceRequirements.isEmpty then [.noEvidenceRequirements] else []) ++
    validateEvidenceBindings artifacts.criteria artifacts.evidence ++
    (if a.profile.discoveryTruncated then [.discoveryTruncated a.profile.fileCount] else [])
  invalidValues := validateBudget artifacts.workload a.budget

structure OptimizationRequest where
  objective : Objective
  criteria : List Criterion
  guardrails : List Guardrail
  workload : WorkloadContract
  execution : Option ComposeExecutionContract
  evidenceRequirements : List EvidenceRequirement
  budget : ExecutionBudget

/-- `A1.95`, which the graph reaches over an approval. -/
def handleA195 (a : IntakeAnswers) (artifacts : IntakeArtifacts) : Option OptimizationRequest := do
  let objective ← artifacts.objective.objective
  let workload ← artifacts.workload.workload
  if a.approved then
    some { objective, workload
           criteria := artifacts.criteria.criteria
           guardrails := artifacts.guardrails.guardrails
           execution := artifacts.workload.execution
           evidenceRequirements := artifacts.evidence.evidenceRequirements
           budget := a.budget }
  else none

/-- The request that A1 freezes for a payload; none if the payload is refused, a field is
asked for, or the approval is missing. -/
def freezeRequest (unicode : UnicodeData) (a : IntakeAnswers) (payload : ManualCasePayload) :
    Option OptimizationRequest :=
  let artifacts := intakeArtifacts unicode a payload
  match payload.requireBusinessIntent with
  | .error _ => none
  | .ok () => if (handleA180 a payload artifacts).passed then handleA195 a artifacts else none

/-! ### What the frozen request holds -/

section Frozen
variable {unicode : UnicodeData} {a : IntakeAnswers} {payload : ManualCasePayload}
  {request : OptimizationRequest}

/-- The criteria of a payload, under the ids that `A1.61` gives them. -/
def criteriaOf (unicode : UnicodeData) (a : IntakeAnswers) (payload : ManualCasePayload) :
    List Criterion :=
  if payload.criteria.isEmpty then [shorthandCriterion (draftFromPayload a.extracted payload)]
  else payload.criteria.map (declaredCriterion unicode)

theorem freezeRequest_eq (h : freezeRequest unicode a payload = some request) :
    payload.requireBusinessIntent = .ok () ∧
      (handleA180 a payload (intakeArtifacts unicode a payload)).passed = true ∧
      handleA195 a (intakeArtifacts unicode a payload) = some request := by
  unfold freezeRequest at h
  dsimp only at h
  split at h
  · cases h
  · rename_i haccept
    split at h
    · rename_i hpassed
      exact ⟨haccept, hpassed, h⟩
    · cases h

theorem handleA195_eq {artifacts : IntakeArtifacts} (h : handleA195 a artifacts = some request) :
    artifacts.workload.workload = some request.workload ∧
      request.criteria = artifacts.criteria.criteria ∧
      request.guardrails = artifacts.guardrails.guardrails ∧
      request.evidenceRequirements = artifacts.evidence.evidenceRequirements := by
  unfold handleA195 at h
  obtain ⟨objective, _, h⟩ := Option.bind_eq_some_iff.mp h
  obtain ⟨workload, hworkload, h⟩ := Option.bind_eq_some_iff.mp h
  split at h
  · cases h
    exact ⟨hworkload, rfl, rfl, rfl⟩
  · cases h

theorem handleA171_requirements {criteria : CriterionSet} {guardrails : GuardrailSet}
    {workload : WorkloadIdentity} {contract : WorkloadContract}
    (h : workload.workload = some contract) :
    (handleA171 criteria guardrails workload).evidenceRequirements =
      criteria.criteria.map (criterionRequirement contract) ++
        guardrails.guardrails.map guardrailRequirement := by
  unfold handleA171
  rw [h]

theorem guardrails_eq (draft : RawRequestDraft) (metricId : String)
    (h : truthy draft.guardrailMetricId = some metricId) :
    (handleA162 draft).guardrails.map (·.guardrailId) = ["correctness"] := by
  unfold handleA162
  rw [h]
  rfl

/-- A draft always names a guardrail metric. -/
theorem exists_guardrailMetricId (extracted : Option ExtractedIntent)
    (payload : ManualCasePayload) :
    ∃ metricId, truthy (draftFromPayload extracted payload).guardrailMetricId = some metricId := by
  unfold draftFromPayload
  dsimp only
  cases hmerge : truthy (mergeField none (extracted.getD {}).guardrailMetricId
      payload.guardrailMetricId) with
  | none => exact ⟨_, rfl⟩
  | some metricId =>
    refine ⟨metricId, ?_⟩
    have hne : metricId ≠ "" := by simpa using (Option.filter_eq_some_iff.mp hmerge).2
    rw [Option.some_or, truthy, Option.filter_some]
    simp [hne]

/-- A frozen request holds the criteria of its payload, the one guardrail, and a requirement
for each of them. -/
theorem frozen_spec (h : freezeRequest unicode a payload = some request) :
    request.criteria = criteriaOf unicode a payload ∧
      request.guardrails.map (·.guardrailId) = ["correctness"] ∧
      request.evidenceRequirements =
        request.criteria.map (criterionRequirement request.workload) ++
          request.guardrails.map guardrailRequirement := by
  obtain ⟨-, hpassed, hfreeze⟩ := freezeRequest_eq h
  obtain ⟨hworkload, hcriteria, hguardrails, hevidence⟩ := handleA195_eq hfreeze
  refine ⟨?_, ?_, ?_⟩
  · rw [hcriteria]
    have hne : (intakeArtifacts unicode a payload).criteria.criteria ≠ [] := by
      intro hnil
      simp [A1QualityReport.passed, handleA180, hnil] at hpassed
    change (handleA161 unicode (draftFromPayload a.extracted payload)).criteria = _
    change (handleA161 unicode (draftFromPayload a.extracted payload)).criteria ≠ [] at hne
    unfold handleA161 criteriaOf at *
    split at hne
    · split at hne
      · rename_i hempty hmissing
        have hpayload : payload.criteria.isEmpty = true := hempty
        rw [if_pos hempty, if_pos hmissing, if_pos hpayload]
      · exact absurd rfl hne
    · rename_i hnonempty
      have hpayload : ¬ payload.criteria.isEmpty = true := hnonempty
      rw [if_neg hnonempty, if_neg hpayload]
      rfl
  · rw [hguardrails]
    obtain ⟨metricId, hmetric⟩ := exists_guardrailMetricId a.extracted payload
    exact guardrails_eq _ metricId hmetric
  · rw [hevidence, hcriteria, hguardrails]
    exact handleA171_requirements hworkload

end Frozen

end ProductionOptimizer.Intake
