import ProductionOptimizer.Handlers.PolicyDecision

/-!
# A3.20: the baseline against criteria and guardrails

What `A3.20` reads of the request, the baseline, the evidence catalogue and the evidence
bundle, and the signals it raises. The statistic that is compared is the one the aggregation
of the criterion, or of the guardrail's metric, names.
-/

namespace ProductionOptimizer
set_option autoImplicit false

inductive Aggregation where
  | mean
  | p50
  | p95
  | p99
  | sum
  | rate
  | maximum
  | verdict
  deriving DecidableEq, Repr

def Aggregation.name : Aggregation → String
  | .mean => "mean"
  | .p50 => "p50"
  | .p95 => "p95"
  | .p99 => "p99"
  | .sum => "sum"
  | .rate => "rate"
  | .maximum => "maximum"
  | .verdict => "verdict"

def Direction.name : Direction → String
  | .minimize => "minimize"
  | .maximize => "maximize"
  | .target => "target"

def GuardrailOperator.name : GuardrailOperator → String
  | .lt => "lt"
  | .lte => "lte"
  | .eq => "eq"
  | .gte => "gte"
  | .gt => "gt"

/-- A criterion with the fields that only A3 reads. -/
structure AnalysedCriterion extends Criterion where
  unit : String
  aggregation : Aggregation := .mean
  deriving DecidableEq

structure AnalysedGuardrail extends Guardrail where
  unit : String
  deriving DecidableEq

/-- An aggregate with its statistics; a summary of no samples cannot be built. -/
structure SampleAggregate extends MetricAggregate where
  sampleIds : List String
  maximum : ℚ
  percentile50 : Option ℚ := none
  percentile95 : Option ℚ := none
  sampled : sampleIds ≠ []
  counted : 0 < count
  deriving DecidableEq

inductive EvidenceValue where
  | number (value : ℚ)
  | text (value : String)
  | flag (value : Bool)
  | missing
  deriving DecidableEq

structure EvidenceItem where
  evidenceId : String
  metricId : Option String
  value : EvidenceValue
  deriving DecidableEq

inductive SignalKind where
  | thresholdBreach
  | regression
  | hotspot
  | costInflation
  deriving DecidableEq, Repr

structure ProblemSignal where
  signalId : String
  criterionId : String
  metricId : String
  signalKind : SignalKind
  description : String
  baselineValue : ℚ
  targetValue : ℚ
  unit : String
  evidenceIds : List String
  detectedAt : Nat
  deriving DecidableEq

inductive DetectionFailure where
  | noPercentile (metricId : String) (strategy : Aggregation)
  | invalidDefinition (metricId : String)
  | invalidSignal (signalId : String)
  deriving DecidableEq

/-- The models `A3.20` has read. -/
structure DetectionInputs where
  criteria : List AnalysedCriterion
  guardrails : List AnalysedGuardrail
  aggregates : List SampleAggregate
  byMetric : List (String × List String)
  evidence : List EvidenceItem
  deriving DecidableEq

def selectAggregateValue (aggregate : SampleAggregate) (strategy : Aggregation) :
    Except DetectionFailure ℚ :=
  match strategy with
  | .mean | .rate => .ok aggregate.mean
  | .p50 => (aggregate.percentile50.map .ok).getD (.error (.noPercentile aggregate.metricId .p50))
  | .p95 => (aggregate.percentile95.map .ok).getD (.error (.noPercentile aggregate.metricId .p95))
  | .p99 | .maximum | .verdict => .ok aggregate.maximum
  | .sum => .ok (aggregate.mean * aggregate.count)

def criterionBreached (criterion : Criterion) (observed : ℚ) : Bool :=
  match criterion.direction with
  | .minimize => criterion.target < observed
  | .maximize => observed < criterion.target
  | .target => observed ≠ criterion.target

/-- The aggregation of the metrics that `resolve_metric` knows. -/
def builtinMetrics : List (String × Aggregation) :=
  [("p50_latency_ms", .p50), ("p95_latency_ms", .p95), ("p99_latency_ms", .p99),
   ("throughput_rps", .rate), ("peak_memory_mb", .maximum), ("cpu_utilization_percent", .p95),
   ("input_tokens", .sum), ("output_tokens", .sum), ("total_tokens", .sum), ("cost_usd", .sum),
   ("quality_score", .mean), ("correctness", .verdict), ("unit_command_result", .verdict)]

/-- The aggregation of a metric. A metric that is not built in gets a definition of its own,
whose name and unit are bounded. -/
def resolveMetric (metricId declaredUnit : String) : Except DetectionFailure Aggregation :=
  match builtinMetrics.lookup metricId with
  | some aggregation => .ok aggregation
  | none =>
    if metricId.length ≤ 255 ∧ declaredUnit.length ≤ 100 then .ok .mean
    else .error (.invalidDefinition metricId)

def numericValue (item : EvidenceItem) : Option ℚ :=
  match item.value with
  | .number value => some value
  | .flag value => some (if value then 1 else 0)
  | .text _ | .missing => none

/-- The evidence for a metric whose own value breaches. -/
def supportingEvidenceIds (evidence : List EvidenceItem) (metricId : String)
    (breaches : ℚ → Bool) : List String :=
  (evidence.filter fun item =>
    item.metricId == some metricId && (numericValue item).any breaches).map (·.evidenceId)

def criterionSupportingEvidenceIds (evidence : List EvidenceItem) (criterion : Criterion) :
    List String :=
  supportingEvidenceIds evidence criterion.metricId (criterionBreached criterion)

def guardrailSupportingEvidenceIds (evidence : List EvidenceItem) (guardrail : Guardrail) :
    List String :=
  supportingEvidenceIds evidence guardrail.metricId fun value =>
    !applyOperator value guardrail.operator guardrail.threshold

/-- What grounds a signal: the evidence that breaches, else the evidence for the metric, else
the samples of the aggregate. -/
def evidenceIdsFor (inputs : DetectionInputs) (metricId : String) (aggregate : SampleAggregate)
    (preciseIds : List String) : List String :=
  if preciseIds ≠ [] then preciseIds
  else
    match inputs.byMetric.lookup metricId with
    | some (id :: ids) => id :: ids
    | _ => aggregate.sampleIds

def groundingSuffix (evidenceIds preciseIds : List String) : String :=
  if preciseIds ≠ [] then ""
  else if evidenceIds = [] then " [evidence: none available]"
  else " [evidence: same-metric, not numerically confirmed]"

/-- A signal of kind `threshold_breach`; `description` and `evidence_ids` are bounded. -/
def breachSignal (now : Nat) (inputs : DetectionInputs) (signalId subjectId metricId unit : String)
    (aggregate : SampleAggregate) (observed bound : ℚ) (headline : String)
    (preciseIds : List String) : Except DetectionFailure ProblemSignal :=
  let evidenceIds := evidenceIdsFor inputs metricId aggregate preciseIds
  let description := headline ++ groundingSuffix evidenceIds preciseIds
  if description.length ≤ 2000 ∧ evidenceIds ≠ [] then
    .ok ⟨signalId, subjectId, metricId, .thresholdBreach, description, observed, bound, unit,
      evidenceIds, now⟩
  else .error (.invalidSignal signalId)

section Signals
-- how a float is written into a description
variable (floatText : ℚ → String) (now : Nat) (inputs : DetectionInputs)

/-- One turn of the loop over the criteria. -/
def criterionSignal (criterion : AnalysedCriterion) :
    Except DetectionFailure (Option ProblemSignal) :=
  match lastWhere inputs.aggregates (·.metricId == criterion.metricId) with
  | none => .ok none
  | some aggregate => do
    let observed ← selectAggregateValue aggregate criterion.aggregation
    if criterionBreached criterion.toCriterion observed then
      let headline := criterion.metricId ++ " " ++ criterion.aggregation.name ++ " " ++
        floatText observed ++ " breaches " ++ criterion.direction.name ++ " target " ++
        floatText criterion.target
      let signal ← breachSignal now inputs ("signal-" ++ criterion.criterionId)
        criterion.criterionId criterion.metricId criterion.unit aggregate observed
        criterion.target headline
        (criterionSupportingEvidenceIds inputs.evidence criterion.toCriterion)
      .ok (some signal)
    else .ok none

/-- One turn of the loop over the guardrails. The signal has no field for a guardrail, so its
id goes where the id of a criterion does. -/
def guardrailSignal (guardrail : AnalysedGuardrail) :
    Except DetectionFailure (Option ProblemSignal) :=
  match lastWhere inputs.aggregates (·.metricId == guardrail.metricId) with
  | none => .ok none
  | some aggregate => do
    let aggregation ← resolveMetric guardrail.metricId guardrail.unit
    let observed ← selectAggregateValue aggregate aggregation
    if applyOperator observed guardrail.operator guardrail.threshold then .ok none
    else
      let headline := "guardrail " ++ guardrail.guardrailId ++ " violated: " ++
        guardrail.metricId ++ " " ++ aggregation.name ++ " " ++ floatText observed ++ " fails " ++
        guardrail.operator.name ++ " " ++ floatText guardrail.threshold
      let signal ← breachSignal now inputs ("signal-guardrail-" ++ guardrail.guardrailId)
        guardrail.guardrailId guardrail.metricId guardrail.unit aggregate observed
        guardrail.threshold headline
        (guardrailSupportingEvidenceIds inputs.evidence guardrail.toGuardrail)
      .ok (some signal)

/-- The signals `A3.20` seals: those of the criteria, then those of the guardrails. -/
def handleA320 : Except DetectionFailure (List ProblemSignal) := do
  let criterionSignals ← inputs.criteria.mapM (criterionSignal floatText now inputs)
  let guardrailSignals ← inputs.guardrails.mapM (guardrailSignal floatText now inputs)
  .ok ((criterionSignals ++ guardrailSignals).filterMap id)

end Signals

end ProductionOptimizer
