import Mathlib.Data.Prod.Lex
import Mathlib.Data.String.Basic
import Mathlib.Algebra.Order.Ring.Rat
import ProductionOptimizer.Handlers.Answers
import ProductionOptimizer.Library.Samples

/-!
# From the evidence gate to the baseline

The evaluator's output becomes evidence at `A2.62`, `A2.90` judges the bundle and `A2.95`
aggregates it. The gate counts items and the aggregation counts numbers.
-/

namespace ProductionOptimizer.EvidenceGate
open Samples
set_option autoImplicit false

/-! ### Contracts -/

inductive TrustLevel where
  | T0
  | T1
  | T2
  | T3
  | T4
  deriving DecidableEq, Repr

def TrustLevel.name : TrustLevel → String
  | .T0 => "T0"
  | .T1 => "T1"
  | .T2 => "T2"
  | .T3 => "T3"
  | .T4 => "T4"

def trustRank : TrustLevel → Nat
  | .T0 => 0
  | .T1 => 1
  | .T2 => 2
  | .T3 => 3
  | .T4 => 4

inductive MinimumTrust where
  | unverified
  | verified
  | attested
  deriving DecidableEq, Repr

def MinimumTrust.level : MinimumTrust → TrustLevel
  | .unverified => .T0
  | .verified => .T2
  | .attested => .T3

inductive Aggregation where
  | mean
  | p50
  | p95
  | p99
  | sum
  | rate
  | maximum
  | verdict
  deriving DecidableEq, Repr

structure EvidenceRequirement where
  requirementId : String
  acceptedSourceTypes : List String
  minimumSamples : Nat
  mandatory : Bool
  metricId : Option String
  canonicalUnit : Option String
  aggregation : Aggregation
  requiredDimensions : List String
  freshnessSeconds : Option Nat
  minimumTrustLevel : MinimumTrust
  acceptedSourceTypes_ne : acceptedSourceTypes ≠ []
  minimumSamples_pos : 1 ≤ minimumSamples

structure OptimizationRequest where
  contentDigest : String
  workloadId : String
  environmentId : String
  evidenceRequirements : List EvidenceRequirement
  deadlineSeconds : Nat
  evidenceRequirements_ne : evidenceRequirements ≠ []

/-- A scalar that a collector may report. -/
inductive EvidenceValue where
  | number (value : ℚ)
  | text (value : String)
  | flag (value : Bool)
  deriving DecidableEq

/-- `float(value)` where `isinstance(value, int | float)`; a `bool` is an `int`. -/
def EvidenceValue.toFloat : EvidenceValue → Option ℚ
  | .number value => some value
  | .text _ => none
  | .flag value => some (if value then 1 else 0)

/-- Times are in microseconds. -/
structure EvidenceItem where
  evidenceId : String
  evidenceType : String
  trustLevel : TrustLevel
  sampleId : String
  observedAt : Int
  rawRef : String
  normalizedRef : Option String
  value : Option EvidenceValue
  unit : Option String
  requirementId : Option String
  metricId : Option String
  dimensions : List (String × String)
  deriving DecidableEq

def EvidenceItem.number (item : EvidenceItem) : Option ℚ := item.value.bind EvidenceValue.toFloat

structure EvidenceBundle where
  evidence : List EvidenceItem

structure BranchEvidenceRefs where
  branchId : String
  unavailableReason : Option String

structure EvidenceQualityReport where
  passed : Bool
  mandatoryCoverage : List (String × Bool)
  sampleFailures : List String
  trustFailures : List String
  freshnessFailures : List String
  integrityFailures : List String
  redactionFailures : List String
  collectorFailures : List (String × String)

structure ComparabilityReport where
  comparable : Bool

structure MetricAggregate where
  metricId : String
  unit : String
  sampleIds : List String
  count : Nat
  minimum : ℚ
  maximum : ℚ
  mean : ℚ
  percentile50 : ℚ
  percentile95 : ℚ
  deriving DecidableEq

structure BaselineSnapshot where
  requestDigest : String
  sourceSnapshotDigest : String
  workloadId : String
  environmentId : String
  windowStart : Int
  windowEnd : Int
  aggregates : List MetricAggregate

inductive EvidenceFailure where
  | unreadable (rawRef : String)
  | didNotPass
  | notComparable
  | noEvidence
  | indexError
  deriving DecidableEq, Repr

/-- The ports of the two nodes: the store, the clock and the rendering of times.
`readLowered` is the blob decoded and lowered, `none` where `read` raises. -/
structure NodePorts where
  verify : String → Bool
  readLowered : String → Option String
  now : Int
  isoformat : Int → String

/-! ### `A2.62`: evidence from the evaluator's output -/

structure EvaluationAttempt where
  evaluationId : String
  repetition : Nat
  metrics : Option (List (String × Option EvidenceValue))

/-- An evaluator's verdict in the unit of exit codes, where zero means pass. -/
def canonicalMetricValue (value : Option EvidenceValue) (canonicalUnit : Option String) :
    Option EvidenceValue :=
  match value with
  | some (.flag passed) =>
    if canonicalUnit = some "exit_code" then some (.number (if passed then 0 else 1)) else value
  | _ => value

def firstSourceType (requirement : EvidenceRequirement) : String :=
  (requirement.acceptedSourceTypes.insertionSort (· ≤ ·)).head fun hnil =>
    requirement.acceptedSourceTypes_ne <| List.Perm.eq_nil <|
      hnil ▸ (List.perm_insertionSort (· ≤ ·) requirement.acceptedSourceTypes).symm

/-- The item of one attempt for one requirement, when the evaluator names its metric. -/
def composeItem (ports : NodePorts) (caseId rawRef : String) (dimensions : List (String × String))
    (attempt : EvaluationAttempt) (metrics : List (String × Option EvidenceValue))
    (requirement : EvidenceRequirement) : Option EvidenceItem := do
  let metricId ← requirement.metricId
  let value ← metrics.lookup metricId
  let repetition := toString attempt.repetition
  some {
    evidenceId := caseId ++ ":A2.62:" ++ attempt.evaluationId ++ ":" ++ repetition ++ ":"
      ++ requirement.requirementId
    evidenceType := firstSourceType requirement
    trustLevel := .T2
    sampleId := attempt.evaluationId ++ "-" ++ repetition ++ "-" ++ requirement.requirementId
    observedAt := ports.now
    rawRef := rawRef
    normalizedRef := none
    value := canonicalMetricValue value requirement.canonicalUnit
    unit := requirement.canonicalUnit
    requirementId := some requirement.requirementId
    metricId := some metricId
    dimensions := dimensions }

def composeEvidence (ports : NodePorts) (caseId rawRef : String)
    (dimensions : List (String × String)) (request : OptimizationRequest)
    (attempts : List EvaluationAttempt) : List EvidenceItem :=
  attempts.flatMap fun attempt =>
    match attempt.metrics with
    | none => []
    | some metrics =>
      request.evidenceRequirements.filterMap
        (composeItem ports caseId rawRef dimensions attempt metrics)

/-! ### `A2.90`: the gate -/

def evidenceTypeSourceType (evidenceType : String) : Option String :=
  [("unit_command_result", "test"), ("lint_command_result", "static"),
    ("type_command_result", "static"), ("benchmark_command_result", "benchmark"),
    ("source_map", "source_map")].lookup evidenceType

def sampledSourceTypes : List String := ["benchmark", "telemetry"]

def isSampled (item : EvidenceItem) : Bool :=
  (evidenceTypeSourceType item.evidenceType).any sampledSourceTypes.contains

/-- `minimum_samples`, except that deterministic evidence is complete at one. -/
def effectiveMinimumSamples (requirement : EvidenceRequirement) (matching : List EvidenceItem) :
    Nat :=
  if requirement.aggregation = .verdict then 1
  else if matching.isEmpty then requirement.minimumSamples
  else if matching.any isSampled then requirement.minimumSamples
  else 1

def matchesRequirement (requirement : EvidenceRequirement) (item : EvidenceItem) : Bool :=
  item.requirementId == some requirement.requirementId
    && requirement.metricId.all (fun metricId => item.metricId == some metricId)
    && requirement.canonicalUnit.all (fun unit => item.unit == some unit)
    && requirement.requiredDimensions.all fun dimension =>
      item.dimensions.any (·.1 == dimension)

def isTrusted (requirement : EvidenceRequirement) (item : EvidenceItem) : Bool :=
  trustRank requirement.minimumTrustLevel.level ≤ trustRank item.trustLevel

namespace EvidenceBundle
variable (bundle : EvidenceBundle) (requirement : EvidenceRequirement)

def matching : List EvidenceItem := bundle.evidence.filter (matchesRequirement requirement)

def eligible : List EvidenceItem := (bundle.matching requirement).filter (isTrusted requirement)

def required : Nat := effectiveMinimumSamples requirement (bundle.matching requirement)

def satisfied : Bool := bundle.required requirement ≤ (bundle.eligible requirement).length

def sampleFailure : Option String :=
  if bundle.satisfied requirement then none
  else some (requirement.requirementId ++ ": collected "
    ++ toString (bundle.matching requirement).length ++ ", needs "
    ++ toString (bundle.required requirement))

def trustFailure : Option String :=
  if (bundle.eligible requirement).length ≠ (bundle.matching requirement).length then
    some (requirement.requirementId ++ ": "
      ++ toString ((bundle.matching requirement).length - (bundle.eligible requirement).length)
      ++ " sample(s) below " ++ requirement.minimumTrustLevel.level.name)
  else none

end EvidenceBundle

/-- The limit of the first requirement with the item's id, or the deadline of the case. -/
def freshnessLimit (request : OptimizationRequest) (item : EvidenceItem) : Nat :=
  match request.evidenceRequirements.find? (some ·.requirementId == item.requirementId) with
  | some requirement => requirement.freshnessSeconds.getD request.deadlineSeconds
  | none => request.deadlineSeconds

def isStale (ports : NodePorts) (request : OptimizationRequest) (item : EvidenceItem) : Bool :=
  (freshnessLimit request item : Int) * 1000000 < ports.now - item.observedAt

def isIntact (ports : NodePorts) (item : EvidenceItem) : Bool :=
  ports.verify item.rawRef && item.normalizedRef.any ports.verify

def redactionKeywords : List String := ["password", "secret", "api_key", "apikey", "token="]

def redactionFailures (ports : NodePorts) : List EvidenceItem → Except EvidenceFailure (List String)
  | [] => .ok []
  | item :: rest => do
    let some lowered := ports.readLowered item.rawRef | throw (.unreadable item.rawRef)
    let failures ← redactionFailures ports rest
    if redactionKeywords.any fun keyword => decide (keyword.toList <:+: lowered.toList) then
      pure (item.evidenceId :: failures)
    else pure failures

def collectorFailure (branch : BranchEvidenceRefs) : Option (String × String) :=
  match branch.unavailableReason with
  | some reason => if reason = "" then none else some (branch.branchId, reason)
  | none => none

def gateRoute (passed mandatorySatisfied : Bool) : NodeRoute :=
  if passed then .continue_ else if !mandatorySatisfied then .missing else .rejected

def evaluateEvidence (ports : NodePorts) (request : OptimizationRequest) (bundle : EvidenceBundle)
    (branches : List BranchEvidenceRefs) :
    Except EvidenceFailure (NodeRoute × EvidenceQualityReport) := do
  let mandatoryCoverage := dictOf <| request.evidenceRequirements.filterMap fun requirement =>
    if requirement.mandatory then
      some (requirement.requirementId, bundle.satisfied requirement) else none
  let sampleFailures := request.evidenceRequirements.filterMap bundle.sampleFailure
  let trustFailures := request.evidenceRequirements.filterMap bundle.trustFailure
  let freshnessFailures := (bundle.evidence.filter (isStale ports request)).map fun item =>
    item.evidenceId ++ ": observed " ++ ports.isoformat item.observedAt
  let integrityFailures := (bundle.evidence.filter (!isIntact ports ·)).map (·.evidenceId)
  let redactionFailures ← redactionFailures ports bundle.evidence
  let mandatorySatisfied := mandatoryCoverage.all (·.2)
  let passed := mandatorySatisfied && sampleFailures.isEmpty && trustFailures.isEmpty
    && freshnessFailures.isEmpty && integrityFailures.isEmpty && redactionFailures.isEmpty
  pure (gateRoute passed mandatorySatisfied,
    { passed, mandatoryCoverage, sampleFailures, trustFailures, freshnessFailures
      integrityFailures, redactionFailures
      collectorFailures := branches.filterMap collectorFailure })

/-! ### `A2.95`: the aggregation -/

/-- The group of an item that is bound to a requirement and holds a number. -/
def aggregateKey (item : EvidenceItem) : Option (String × String) := do
  let _ ← item.requirementId
  let metricId ← item.metricId
  let unit ← item.unit
  let _ ← item.number
  some (metricId, unit)

/-- `values[0]`, `values[-1]` and the two percentiles are looked up and may fail. -/
def metricAggregate (metricId unit : String) (items : List EvidenceItem) :
    Except EvidenceFailure MetricAggregate :=
  let values := (items.filterMap (·.number)).insertionSort (· ≤ ·)
  match values[0]?, values[values.length - 1]?, values[nearestRank 50 values.length]?,
    values[nearestRank 95 values.length]? with
  | some minimum, some maximum, some percentile50, some percentile95 =>
    .ok { metricId, unit, sampleIds := items.map (·.sampleId), count := values.length
          minimum, maximum, mean := values.sum / values.length, percentile50, percentile95 }
  | _, _, _, _ => .error .indexError

def sortedGroups (bundle : EvidenceBundle) : List ((String × String) × List EvidenceItem) :=
  (grouped aggregateKey bundle.evidence).insertionSort fun left right =>
    toLex left.1 ≤ toLex right.1

/-- The first and the last time, at least a microsecond apart. -/
def observationWindow (bundle : EvidenceBundle) : Except EvidenceFailure (Int × Int) :=
  let times := bundle.evidence.map (·.observedAt)
  match times.min?, times.max? with
  | some start, some last => .ok (start, if last ≤ start then start + 1 else last)
  | _, _ => .error .noEvidence

def aggregateEvidence (request : OptimizationRequest) (snapshotDigest : String)
    (bundle : EvidenceBundle) (quality : EvidenceQualityReport)
    (comparability : ComparabilityReport) : Except EvidenceFailure BaselineSnapshot := do
  if !quality.passed then throw .didNotPass
  if !comparability.comparable then throw .notComparable
  let aggregates ← (sortedGroups bundle).mapM fun group =>
    metricAggregate group.1.1 group.1.2 group.2
  let window ← observationWindow bundle
  pure { requestDigest := request.contentDigest, sourceSnapshotDigest := snapshotDigest
         workloadId := request.workloadId, environmentId := request.environmentId
         windowStart := window.1, windowEnd := window.2, aggregates }

/-! ### What the aggregation yields -/

theorem mapM_ok_of_forall {A B : Type} {f : A → Except EvidenceFailure B} :
    ∀ {xs : List A}, (∀ x ∈ xs, ∃ y, f x = .ok y) →
      ∃ ys, xs.mapM f = .ok ys ∧ ∀ y, y ∈ ys ↔ ∃ x ∈ xs, f x = .ok y
  | [], _ => ⟨[], rfl, by simp⟩
  | x :: xs, h => by
    obtain ⟨y, hy⟩ := h x (.head _)
    obtain ⟨ys, hys, hmem⟩ := mapM_ok_of_forall fun x' hx' => h x' (.tail _ hx')
    refine ⟨y :: ys, ?_, ?_⟩
    · exact mapM_cons_ok.mpr ⟨y, ys, hy, hys, rfl⟩
    · intro y'
      rw [List.mem_cons, hmem]
      constructor
      · rintro (rfl | ⟨x', hx', hy'⟩)
        · exact ⟨x, .head _, hy⟩
        · exact ⟨x', .tail _ hx', hy'⟩
      · rintro ⟨x', hx', hy'⟩
        rcases List.mem_cons.mp hx' with rfl | hx'
        · exact .inl (Except.ok.inj (hy'.symm.trans hy))
        · exact .inr ⟨x', hx', hy'⟩

/-- The numbers of a list of items, in their order. -/
def numbers (items : List EvidenceItem) : List ℚ := items.filterMap (·.number)

/-- An aggregate of one metric and unit computed from exactly these items. -/
structure IsAggregateOf (items : List EvidenceItem) (aggregate : MetricAggregate) : Prop where
  samples : aggregate.sampleIds = items.map (·.sampleId)
  count : aggregate.count = items.length
  minimum : aggregate.minimum ∈ numbers items ∧ ∀ v ∈ numbers items, aggregate.minimum ≤ v
  maximum : aggregate.maximum ∈ numbers items ∧ ∀ v ∈ numbers items, v ≤ aggregate.maximum
  mean : aggregate.mean = (numbers items).sum / items.length
  percentile50 : IsPercentile 50 (numbers items) aggregate.percentile50
  percentile95 : IsPercentile 95 (numbers items) aggregate.percentile95

/-- The order among the figures of an aggregate. -/
structure InOrder (aggregate : MetricAggregate) : Prop where
  minimum_le_percentile50 : aggregate.minimum ≤ aggregate.percentile50
  percentile50_le_percentile95 : aggregate.percentile50 ≤ aggregate.percentile95
  percentile95_le_maximum : aggregate.percentile95 ≤ aggregate.maximum
  minimum_le_mean : aggregate.minimum ≤ aggregate.mean
  mean_le_maximum : aggregate.mean ≤ aggregate.maximum

theorem length_numbers {items : List EvidenceItem} (h : ∀ item ∈ items, item.number.isSome) :
    (numbers items).length = items.length := by
  induction items with
  | nil => rfl
  | cons item items ih =>
    obtain ⟨v, hv⟩ := Option.isSome_iff_exists.mp (h item (.head _))
    have hrest := ih fun item' hitem' => h item' (.tail _ hitem')
    simpa [numbers, hv] using hrest

/-- A group of items that all hold a number has its aggregate. -/
theorem metricAggregate_spec (metricId unit : String) {items : List EvidenceItem}
    (hne : items ≠ []) (hnumbers : ∀ item ∈ items, item.number.isSome) :
    ∃ aggregate, metricAggregate metricId unit items = .ok aggregate ∧
      aggregate.metricId = metricId ∧ aggregate.unit = unit ∧
      IsAggregateOf items aggregate ∧ InOrder aggregate := by
  have hlength := length_numbers hnumbers
  obtain ⟨values, hvalues⟩ : ∃ values, values = (numbers items).insertionSort (· ≤ ·) := ⟨_, rfl⟩
  have hperm : values.Perm (numbers items) := hvalues ▸ List.perm_insertionSort _ _
  have hsorted : values.Pairwise (· ≤ ·) := hvalues ▸ List.pairwise_insertionSort _ _
  have hcount : values.length = items.length := hperm.length_eq.trans hlength
  have hpos : 0 < values.length := hcount ▸ List.length_pos_iff.mpr hne
  have hlast : values.length - 1 < values.length := Nat.sub_lt hpos Nat.one_pos
  have h50 : nearestRank 50 values.length < values.length := nearestRank_lt (by decide) hpos
  have h95 : nearestRank 95 values.length < values.length := nearestRank_lt (by decide) hpos
  have hmem : ∀ v, v ∈ numbers items ↔ v ∈ values := fun v => hperm.mem_iff.symm
  -- the ends of the sorted values bound all of them
  have hleast : ∀ v ∈ values, values[0] ≤ v := by
    intro v hv
    obtain ⟨i, hi, rfl⟩ := List.getElem_of_mem hv
    exact getElem_le_getElem hsorted (Nat.zero_le i) hi
  have hgreatest : ∀ v ∈ values, v ≤ values[values.length - 1] := by
    intro v hv
    obtain ⟨i, hi, rfl⟩ := List.getElem_of_mem hv
    exact getElem_le_getElem hsorted (Nat.le_sub_one_of_lt hi) hlast
  have hmean : values.sum / values.length = (numbers items).sum / items.length := by
    rw [hperm.sum_eq, hcount]
  have hnonempty : values ≠ [] := List.length_pos_iff.mp hpos
  refine ⟨{ metricId, unit, sampleIds := items.map (·.sampleId), count := values.length
            minimum := values[0], maximum := values[values.length - 1]
            mean := values.sum / values.length
            percentile50 := values[nearestRank 50 values.length]
            percentile95 := values[nearestRank 95 values.length] }, ?_, rfl, rfl, ?_, ?_⟩
  · unfold metricAggregate
    rw [← numbers, ← hvalues]
    simp only [List.getElem?_eq_getElem, hpos, hlast, h50, h95]
  · exact {
      samples := rfl
      count := hcount
      minimum := ⟨(hmem _).mpr (List.getElem_mem hpos), fun v hv => hleast v ((hmem v).mp hv)⟩
      maximum := ⟨(hmem _).mpr (List.getElem_mem hlast),
        fun v hv => hgreatest v ((hmem v).mp hv)⟩
      mean := hmean
      percentile50 := (isPercentile_getElem hsorted (by decide) h50).perm hperm
      percentile95 := (isPercentile_getElem hsorted (by decide) h95).perm hperm }
  · exact {
      minimum_le_percentile50 := hleast _ (List.getElem_mem h50)
      percentile50_le_percentile95 :=
        getElem_le_getElem hsorted (nearestRank_mono _ (by decide)) h95
      percentile95_le_maximum := hgreatest _ (List.getElem_mem h95)
      minimum_le_mean := le_mean hnonempty hleast
      mean_le_maximum := mean_le hnonempty hgreatest }

theorem aggregateKey_eq_some {item : EvidenceItem} {metricId unit : String} :
    aggregateKey item = some (metricId, unit) ↔ item.requirementId.isSome ∧
      item.metricId = some metricId ∧ item.unit = some unit ∧ item.number.isSome := by
  unfold aggregateKey
  cases item.requirementId <;> cases item.metricId <;> cases item.unit <;>
    cases item.number <;> simp

namespace EvidenceBundle
variable (bundle : EvidenceBundle) (metricId unit : String)

/-- The numeric samples of a metric and unit. -/
def samples : List EvidenceItem :=
  bundle.evidence.filter fun item =>
    item.metricId == some metricId && item.unit == some unit && item.number.isSome

/-- The numeric samples of a metric and unit that name the requirement they are for. -/
def boundSamples : List EvidenceItem :=
  (bundle.samples metricId unit).filter (·.requirementId.isSome)

theorem boundSamples_eq_filter_key : bundle.boundSamples metricId unit =
    bundle.evidence.filter fun item => aggregateKey item = some (metricId, unit) := by
  unfold boundSamples samples
  rw [List.filter_filter]
  apply List.filter_congr
  intro item _
  rw [← Bool.coe_iff_coe, decide_eq_true_iff, aggregateKey_eq_some]
  simp [and_assoc]

variable {bundle metricId unit}

theorem number_isSome_of_mem_samples {item : EvidenceItem}
    (h : item ∈ bundle.samples metricId unit) : item.number.isSome := by
  unfold samples at h
  simp only [List.mem_filter, Bool.and_eq_true] at h
  exact h.2.2

theorem number_isSome_of_mem_boundSamples {item : EvidenceItem}
    (h : item ∈ bundle.boundSamples metricId unit) : item.number.isSome :=
  number_isSome_of_mem_samples (List.mem_of_mem_filter h)

theorem mem_sortedGroups {group : List EvidenceItem} :
    ((metricId, unit), group) ∈ sortedGroups bundle ↔
      group = bundle.boundSamples metricId unit ∧ group ≠ [] := by
  rw [sortedGroups, List.mem_insertionSort,
    (groups_grouped aggregateKey bundle.evidence).mem, boundSamples_eq_filter_key]

end EvidenceBundle

/-- The aggregates of a bundle: one for each metric and unit with a bound sample. -/
structure Aggregates (bundle : EvidenceBundle) (aggregates : List MetricAggregate) : Prop where
  bound : ∀ aggregate ∈ aggregates,
    IsAggregateOf (bundle.boundSamples aggregate.metricId aggregate.unit) aggregate ∧
      InOrder aggregate
  complete : ∀ metricId unit, bundle.boundSamples metricId unit ≠ [] →
    ∃ aggregate ∈ aggregates, aggregate.metricId = metricId ∧ aggregate.unit = unit

theorem mapM_metricAggregate (bundle : EvidenceBundle) :
    ∃ aggregates, ((sortedGroups bundle).mapM fun group =>
        metricAggregate group.1.1 group.1.2 group.2) = .ok aggregates ∧
      Aggregates bundle aggregates := by
  have hgroup : ∀ group ∈ sortedGroups bundle,
      group.2 = bundle.boundSamples group.1.1 group.1.2 ∧
      ∃ aggregate, metricAggregate group.1.1 group.1.2 group.2 = .ok aggregate ∧
        aggregate.metricId = group.1.1 ∧ aggregate.unit = group.1.2 ∧
        IsAggregateOf group.2 aggregate ∧ InOrder aggregate := by
    rintro ⟨⟨metricId, unit⟩, group⟩ hmem
    obtain ⟨rfl, hne⟩ := EvidenceBundle.mem_sortedGroups.mp hmem
    exact ⟨rfl, metricAggregate_spec metricId unit hne fun _ =>
      EvidenceBundle.number_isSome_of_mem_boundSamples⟩
  obtain ⟨aggregates, hok, hmem⟩ := mapM_ok_of_forall fun group hmem =>
    (hgroup group hmem).2.imp fun _ h => h.1
  refine ⟨aggregates, hok, ?_, ?_⟩
  · intro aggregate haggregate
    obtain ⟨group, hgroupMem, hagg⟩ := (hmem aggregate).mp haggregate
    obtain ⟨hsamples, aggregate', hagg', hmetric, hunit, hof, horder⟩ := hgroup group hgroupMem
    cases hagg.symm.trans hagg'
    rw [hmetric, hunit, ← hsamples]
    exact ⟨hof, horder⟩
  · intro metricId unit hne
    have hin := EvidenceBundle.mem_sortedGroups.mpr ⟨rfl, hne⟩
    obtain ⟨-, aggregate, hagg, hmetric, hunit, -⟩ := hgroup _ hin
    exact ⟨aggregate, (hmem aggregate).mpr ⟨_, hin, hagg⟩, hmetric, hunit⟩

theorem observationWindow_ok {bundle : EvidenceBundle} (hne : bundle.evidence ≠ []) :
    ∃ window, observationWindow bundle = .ok window := by
  obtain ⟨item, rest, hevidence⟩ := List.exists_cons_of_ne_nil hne
  unfold observationWindow
  rw [hevidence, List.map_cons]
  exact ⟨_, rfl⟩

/-- With evidence at hand, the two gates are all that can stop the aggregation. -/
theorem aggregateEvidence_ok (request : OptimizationRequest) (snapshotDigest : String)
    {bundle : EvidenceBundle} {quality : EvidenceQualityReport}
    (hne : bundle.evidence ≠ []) (hpassed : quality.passed = true) :
    ∃ baseline, aggregateEvidence request snapshotDigest bundle quality ⟨true⟩ = .ok baseline ∧
      Aggregates bundle baseline.aggregates := by
  obtain ⟨aggregates, hok, haggregates⟩ := mapM_metricAggregate bundle
  obtain ⟨window, hwindow⟩ := observationWindow_ok hne
  unfold aggregateEvidence
  rw [hpassed, hok, hwindow]
  exact ⟨_, rfl, haggregates⟩

/-! ### What a passed gate promises -/

theorem effectiveMinimumSamples_pos (requirement : EvidenceRequirement)
    (matching : List EvidenceItem) : 1 ≤ effectiveMinimumSamples requirement matching := by
  have hpos := requirement.minimumSamples_pos
  unfold effectiveMinimumSamples
  split_ifs <;> omega

theorem evaluateEvidence_ok {ports : NodePorts} {request : OptimizationRequest}
    {bundle : EvidenceBundle} {branches : List BranchEvidenceRefs} {route : NodeRoute}
    {report : EvidenceQualityReport}
    (h : evaluateEvidence ports request bundle branches = .ok (route, report))
    (hpassed : report.passed = true) :
    ∀ requirement ∈ request.evidenceRequirements, bundle.satisfied requirement = true := by
  obtain ⟨failures, -, h⟩ := except_bind_ok h
  cases h
  simp only [Bool.and_eq_true, List.isEmpty_iff] at hpassed
  obtain ⟨⟨⟨⟨⟨-, hsamples⟩, -⟩, -⟩, -⟩, -⟩ := hpassed
  intro requirement hmem
  have hnone := List.filterMap_eq_nil_iff.mp hsamples requirement hmem
  by_contra hnot
  simp [EvidenceBundle.sampleFailure, hnot] at hnone

theorem evidence_ne_of_satisfied {bundle : EvidenceBundle} {requirement : EvidenceRequirement}
    (h : bundle.satisfied requirement = true) : bundle.evidence ≠ [] := by
  intro hnil
  have hpos := effectiveMinimumSamples_pos requirement (bundle.matching requirement)
  have hle : bundle.required requirement ≤ (bundle.eligible requirement).length :=
    of_decide_eq_true h
  have hnone : bundle.eligible requirement = [] := by
    simp [EvidenceBundle.eligible, EvidenceBundle.matching, hnil]
  rw [hnone, List.length_nil] at hle
  exact absurd (hpos.trans hle) (by decide)

/-! ### Usable baselines -/

/-- The metric and the unit are the requirement's, where it names them. -/
def EvidenceRequirement.Accepts (requirement : EvidenceRequirement) (metricId unit : String) :
    Prop :=
  (∀ named ∈ requirement.metricId, named = metricId) ∧
    ∀ named ∈ requirement.canonicalUnit, named = unit

structure Usable (request : OptimizationRequest) (bundle : EvidenceBundle)
    (baseline : BaselineSnapshot) : Prop where
  covered : ∀ requirement ∈ request.evidenceRequirements, requirement.mandatory = true →
    ∃ aggregate ∈ baseline.aggregates, requirement.Accepts aggregate.metricId aggregate.unit ∧
      bundle.required requirement ≤ aggregate.count
  computed : ∀ aggregate ∈ baseline.aggregates,
    IsAggregateOf (bundle.samples aggregate.metricId aggregate.unit) aggregate
  inOrder : ∀ aggregate ∈ baseline.aggregates, InOrder aggregate

/-- For every mandatory requirement the bundle holds enough bound samples with a number. -/
def EnoughNumbers (request : OptimizationRequest) (bundle : EvidenceBundle) : Prop :=
  ∀ requirement ∈ request.evidenceRequirements, requirement.mandatory = true →
    ∃ metricId unit, requirement.Accepts metricId unit ∧
      bundle.required requirement ≤ (bundle.boundSamples metricId unit).length

/-- No number without a requirement stands beside bound samples of its metric and unit. -/
def NumbersBound (bundle : EvidenceBundle) : Prop :=
  ∀ metricId unit, bundle.boundSamples metricId unit ≠ [] →
    ∀ item ∈ bundle.samples metricId unit, item.requirementId.isSome

theorem enoughNumbers_of_usable {request : OptimizationRequest} {bundle : EvidenceBundle}
    {baseline : BaselineSnapshot} (haggregates : Aggregates bundle baseline.aggregates)
    (h : Usable request bundle baseline) : EnoughNumbers request bundle := by
  intro requirement hmem hmandatory
  obtain ⟨aggregate, haggregate, haccepts, hcount⟩ := h.covered requirement hmem hmandatory
  have hbound := (haggregates.bound aggregate haggregate).1.count
  exact ⟨_, _, haccepts, hbound ▸ hcount⟩

theorem numbersBound_of_usable {request : OptimizationRequest} {bundle : EvidenceBundle}
    {baseline : BaselineSnapshot} (haggregates : Aggregates bundle baseline.aggregates)
    (h : Usable request bundle baseline) : NumbersBound bundle := by
  intro metricId unit hne
  obtain ⟨aggregate, haggregate, rfl, rfl⟩ := haggregates.complete metricId unit hne
  -- the aggregate counts the bound samples, and it counts all of them
  have hbound := (haggregates.bound aggregate haggregate).1.count
  have hall := (h.computed aggregate haggregate).count
  have hlength := hbound.symm.trans hall
  unfold EvidenceBundle.boundSamples at hlength
  intro item hitem
  exact List.length_filter_eq_length_iff.mp hlength item hitem

theorem usable_of_numbers {request : OptimizationRequest} {bundle : EvidenceBundle}
    {baseline : BaselineSnapshot} (haggregates : Aggregates bundle baseline.aggregates)
    (henough : EnoughNumbers request bundle) (hbound : NumbersBound bundle) :
    Usable request bundle baseline := by
  refine ⟨?_, ?_, fun aggregate hmem => (haggregates.bound aggregate hmem).2⟩
  · intro requirement hmem hmandatory
    obtain ⟨metricId, unit, haccepts, hle⟩ := henough requirement hmem hmandatory
    have hpos := effectiveMinimumSamples_pos requirement (bundle.matching requirement)
    have hne : bundle.boundSamples metricId unit ≠ [] :=
      List.length_pos_iff.mp (Nat.lt_of_lt_of_le Nat.zero_lt_one (hpos.trans hle))
    obtain ⟨aggregate, haggregate, rfl, rfl⟩ := haggregates.complete metricId unit hne
    have hcount := (haggregates.bound aggregate haggregate).1.count
    exact ⟨aggregate, haggregate, haccepts, hcount ▸ hle⟩
  · intro aggregate haggregate
    have hof := (haggregates.bound aggregate haggregate).1
    have hne : bundle.boundSamples aggregate.metricId aggregate.unit ≠ [] := by
      intro hnil
      have hmem := hof.minimum.1
      rw [hnil] at hmem
      exact absurd hmem List.not_mem_nil
    have hsame : bundle.boundSamples aggregate.metricId aggregate.unit =
        bundle.samples aggregate.metricId aggregate.unit :=
      List.filter_eq_self.mpr (hbound _ _ hne)
    exact hsame ▸ hof

theorem usable_baseline_iff (ports : NodePorts) (request : OptimizationRequest)
    (bundle : EvidenceBundle) (branches : List BranchEvidenceRefs) (route : NodeRoute)
    (report : EvidenceQualityReport) (snapshotDigest : String)
    (hgate : evaluateEvidence ports request bundle branches = .ok (route, report))
    (hpassed : report.passed = true) :
    (∃ baseline, aggregateEvidence request snapshotDigest bundle report ⟨true⟩ = .ok baseline ∧
        Usable request bundle baseline) ↔
      EnoughNumbers request bundle ∧ NumbersBound bundle := by
  obtain ⟨requirement, rest, hrequirements⟩ :=
    List.exists_cons_of_ne_nil request.evidenceRequirements_ne
  have hsatisfied := evaluateEvidence_ok hgate hpassed requirement (hrequirements ▸ .head rest)
  obtain ⟨baseline, hok, haggregates⟩ := aggregateEvidence_ok request snapshotDigest
    (evidence_ne_of_satisfied hsatisfied) hpassed
  constructor
  · rintro ⟨baseline', hok', husable⟩
    cases hok.symm.trans hok'
    exact ⟨enoughNumbers_of_usable haggregates husable,
      numbersBound_of_usable haggregates husable⟩
  · rintro ⟨henough, hbound⟩
    exact ⟨baseline, hok, usable_of_numbers haggregates henough hbound⟩

/-! ### An evaluator that reports no number -/

theorem three_samples_pos : 1 ≤ 3 := by decide

def latencyRequirement : EvidenceRequirement :=
  { requirementId := "evidence-latency", acceptedSourceTypes := ["benchmark"]
    minimumSamples := 3, mandatory := true, metricId := some "latency"
    canonicalUnit := some "ms", aggregation := .mean
    requiredDimensions := ["environment_id", "workload_id"], freshnessSeconds := none
    minimumTrustLevel := .verified, acceptedSourceTypes_ne := by decide
    minimumSamples_pos := three_samples_pos }

def latencyRequest : OptimizationRequest :=
  { contentDigest := "sha256:request", workloadId := "checkout", environmentId := "staging"
    evidenceRequirements := [latencyRequirement], deadlineSeconds := 3600
    evidenceRequirements_ne := by decide }

/-- A store in which every blob is intact and holds no keyword. -/
def quietPorts : NodePorts :=
  { verify := fun _ => true, readLowered := fun _ => some "latency", now := 0
    isoformat := fun _ => "1970-01-01T00:00:00+00:00" }

/-- The bundle of one evaluation, as `A2.71` leaves items in their canonical unit. -/
def evaluationBundle (latencies : List (Option EvidenceValue)) : EvidenceBundle :=
  let attempts := latencies.zipIdx.map fun entry =>
    { evaluationId := "load", repetition := entry.2 + 1
      metrics := some [("latency", entry.1)] : EvaluationAttempt }
  let dimensions := [("workload_id", "checkout"), ("environment_id", "staging")]
  let items := composeEvidence quietPorts "case" "raw" dimensions latencyRequest attempts
  ⟨items.map fun item => { item with normalizedRef := some "normalized" }⟩

def passedReport : EvidenceQualityReport :=
  { passed := true, mandatoryCoverage := [("evidence-latency", true)], sampleFailures := []
    trustFailures := [], freshnessFailures := [], integrityFailures := []
    redactionFailures := [], collectorFailures := [] }

/-- The gate counts three samples and the baseline holds none. -/
theorem null_samples_pass_gate :
    let bundle := evaluationBundle [none, none, none]
    evaluateEvidence quietPorts latencyRequest bundle [] = .ok (.continue_, passedReport) ∧
      ¬ ∃ baseline, aggregateEvidence latencyRequest "sha256:source" bundle passedReport ⟨true⟩ =
          .ok baseline ∧ Usable latencyRequest bundle baseline := by
  refine ⟨by rfl, ?_⟩
  rintro ⟨baseline, hok, husable⟩
  have hempty : baseline.aggregates = [] := by
    cases hok
    rfl
  obtain ⟨aggregate, hmem, -⟩ := husable.covered latencyRequirement (.head _) rfl
  rw [hempty] at hmem
  exact absurd hmem List.not_mem_nil

/-- Two numbers and a missing one are enough where one sample is required. -/
theorem usable_baseline_two_numbers :
    let bundle := evaluationBundle [some (.number 12), some (.number 7), none]
    ∃ baseline, aggregateEvidence latencyRequest "sha256:source" bundle passedReport ⟨true⟩ =
      .ok baseline ∧ Usable latencyRequest bundle baseline := by
  intro bundle
  have hgate : evaluateEvidence quietPorts latencyRequest bundle [] =
      .ok (.continue_, passedReport) := rfl
  have hbound : ∀ item ∈ bundle.evidence, item.requirementId.isSome := by decide
  apply (usable_baseline_iff quietPorts latencyRequest bundle [] .continue_ passedReport
    "sha256:source" hgate rfl).mpr
  constructor
  · intro requirement hmem _
    cases List.mem_singleton.mp hmem
    refine ⟨"latency", "ms", ⟨?_, ?_⟩, by decide⟩
    · rintro named ⟨⟩
      rfl
    · rintro named ⟨⟩
      rfl
  · intro metricId unit _ item hitem
    exact hbound item (List.mem_of_mem_filter hitem)

end ProductionOptimizer.EvidenceGate
