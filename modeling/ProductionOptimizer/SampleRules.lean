import ProductionOptimizer.Handlers.Remeasure
import ProductionOptimizer.RequestIds

/-!
# Enough samples, before and after the change

`A2.90` is content with one exit code, because a second run of the same command says
nothing new. `S05.60` asks for the number in the requirement, whatever was measured.
-/

namespace ProductionOptimizer.Intake
open EvidenceGate (EvidenceBundle)
set_option autoImplicit false

/-! ### The request as A2 and S05 read it -/

/-- A requirement without a freshness of its own and with the default trust level. -/
def EvidenceRequirement.forGate (requirement : EvidenceRequirement) :
    EvidenceGate.EvidenceRequirement where
  requirementId := requirement.requirementId
  acceptedSourceTypes := requirement.acceptedSourceTypes
  minimumSamples := requirement.minimumSamples
  mandatory := requirement.mandatory
  metricId := some requirement.metricId
  canonicalUnit := some requirement.canonicalUnit
  aggregation := requirement.aggregation
  requiredDimensions := requirement.requiredDimensions
  freshnessSeconds := none
  minimumTrustLevel := .verified
  acceptedSourceTypes_ne := requirement.acceptedSourceTypes_ne
  minimumSamples_pos := requirement.minimumSamples_pos

def Criterion.forRemeasure (criterion : Criterion) : ProductionOptimizer.Criterion where
  criterionId := criterion.criterionId
  metricId := criterion.metricId
  direction := criterion.direction
  target := criterion.target
  weight := criterion.weight

def OptimizationRequest.forRemeasure (request : OptimizationRequest) :
    ProductionOptimizer.OptimizationRequest where
  criteria := request.criteria.map Criterion.forRemeasure
  guardrails := request.guardrails.map fun g =>
    ⟨g.guardrailId, g.metricId, g.operator, g.threshold⟩
  evidenceRequirements := request.evidenceRequirements.map fun requirement =>
    ⟨requirement.criterionId, requirement.minimumSamples⟩
  workloadId := request.workload.workloadId
  deadlineSeconds := request.budget.deadlineSeconds

/-! ### The two rules -/

/-- What A2 collected for a requirement are observations of one command: its exit code, or
the rounds of the benchmark. -/
structure Observes (kind : CommandKind) (count : Nat)
    (requirement : EvidenceGate.EvidenceRequirement) (bundle : EvidenceBundle) : Prop where
  length : (bundle.matching requirement).length = count
  evidenceType : ∀ item ∈ bundle.matching requirement, item.evidenceType = kind.metricId
  trustLevel : ∀ item ∈ bundle.matching requirement, item.trustLevel = .T2
  single : kind ≠ .benchmark → count = 1
  exitCode : kind ≠ .benchmark → ∀ item ∈ bundle.matching requirement, item.unit = some "exit_code"

/-- As many observations of the command as satisfied `A2.90` satisfy `S05.60`. -/
def SamplesAgree (request : OptimizationRequest) (criterion : Criterion) (kind : CommandKind) :
    Prop :=
  ∀ (count : Nat) (bundle : EvidenceBundle),
    let requirement := (criterionRequirement request.workload criterion).forGate
    Observes kind count requirement bundle → bundle.satisfied requirement = true →
      ∀ (baseline : BaselineSnapshot) (treatment : TreatmentAggregates)
        (aggregate : MetricAggregate),
        baseline.aggregates.any (·.metricId == criterion.metricId) = true →
        treatment.unmeasurableCriterionIds.contains criterion.criterionId = false →
        treatment.byCriterion.lookup criterion.criterionId = some aggregate →
        aggregate.count = count →
          sampleProblem request.forRemeasure baseline treatment criterion.forRemeasure = none

/-! ### Metrics of commands -/

/-- A text of ASCII characters. -/
def isAscii (text : String) : Bool :=
  text.toList.all fun c => decide (c.toNat < 128 ∧ c.toLower.toNat < 128)

theorem criterionId_of_ascii (unicode : UnicodeData) {metricId : String}
    (h : isAscii metricId = true) :
    criterionId unicode metricId = criterionId asciiData metricId := by
  have hchars : ∀ c ∈ metricId.toList, c.toNat < 128 ∧ c.toLower.toNat < 128 := by
    intro c hc
    exact of_decide_eq_true (List.all_eq_true.mp h c hc)
  have hslug : slug unicode metricId = slug asciiData metricId := by
    unfold slug
    rw [unicode.lower_ascii _ fun c hc => (hchars c hc).1]
    congr 1
    apply List.map_congr_left
    intro c hc
    obtain ⟨d, hd, rfl⟩ := List.mem_map.mp hc
    rw [unicode.isAlnum_ascii _ (hchars d hd).2]
    rfl
  unfold criterionId
  rw [hslug]

/-- A metric of a command asks for one sample, and only the unit tests are built in. -/
theorem resolveMetric_command (kind : CommandKind) (unit : Option String)
    (direction : Option Direction) :
    (resolveMetric kind.metricId unit direction).minimumSamples = 1 ∧
      (kind ≠ .unit → (resolveMetric kind.metricId unit direction).aggregation = .mean) ∧
      (kind = .unit → (resolveMetric kind.metricId unit direction).aggregation = .verdict) := by
  have hfind : ∀ kind : CommandKind, kind ≠ .unit →
      builtinMetrics.find? (·.metricId == kind.metricId) = none := by
    intro kind hkind
    cases kind <;> first | rfl | exact absurd rfl hkind
  by_cases hkind : kind = .unit
  · subst hkind
    exact ⟨rfl, fun h => absurd rfl h, fun _ => rfl⟩
  · unfold resolveMetric
    rw [hfind kind hkind]
    exact ⟨rfl, fun _ => rfl, fun h => absurd h hkind⟩

/-- The slugs of the commands' metrics. -/
def commandIds : List String :=
  ["build-command-result", "lint-command-result", "type-command-result", "unit-command-result",
   "integration-command-result", "security-command-result", "benchmark-command-result"]

theorem criterionId_command (unicode : UnicodeData) (kind : CommandKind) :
    criterionId unicode kind.metricId ∈ commandIds := by
  have hascii : isAscii kind.metricId = true := by cases kind <;> decide +kernel
  rw [criterionId_of_ascii unicode hascii]
  cases kind <;> decide +kernel

/-- The metrics that ask for more than one sample are built in, and none of them has the
slug of a command's metric. -/
theorem minimumSamples_of_slug {unicode : UnicodeData} {metricId : String}
    (h : criterionId unicode metricId ∈ commandIds)
    (unit : Option String) (direction : Option Direction) :
    (resolveMetric metricId unit direction).minimumSamples = 1 := by
  unfold resolveMetric
  split
  · rename_i definition hfind
    have hmem := List.mem_of_find?_eq_some hfind
    have hid : definition.metricId = metricId := by simpa using List.find?_some hfind
    have hbuiltin : builtinMetrics.all (fun d => isAscii d.metricId &&
        (d.minimumSamples == 1 || !commandIds.contains (criterionId asciiData d.metricId))) =
          true := by
      decide +kernel
    have hcheck := List.all_eq_true.mp hbuiltin definition hmem
    simp only [Bool.and_eq_true, Bool.or_eq_true, beq_iff_eq, Bool.not_eq_true',
      List.contains_eq_mem, decide_eq_false_iff_not] at hcheck
    rcases hcheck.2 with hone | hne
    · exact hone
    · rw [← hid, criterionId_of_ascii unicode hcheck.1] at h
      exact absurd h hne
  · rfl

/-! ### What a frozen request asks for -/

section Frozen
variable {unicode : UnicodeData} {a : IntakeAnswers} {payload : ManualCasePayload}
  {request : OptimizationRequest} {criterion : Criterion} {kind : CommandKind}

theorem metricId_of_resolveKind {manifest : RepositoryManifest}
    (h : resolveKind criterion.forRemeasure manifest = some kind) :
    criterion.metricId = kind.metricId := by
  unfold resolveKind at h
  have hfound := List.find?_some h
  exact (beq_iff_eq.mp hfound).symm

theorem workload_repetitions_pos {draft : RawRequestDraft} {profile : ProjectProfile}
    {contract : WorkloadContract}
    (h : (handleA170 payload draft profile).workload = some contract) :
    1 ≤ contract.repetitions := by
  have hmetric : 1 ≤ (workloadDefaultsForMetric draft.metricId).1 := by
    unfold workloadDefaultsForMetric
    split <;> simp
  unfold handleA170 at h
  split at h
  · cases h
    dsimp only
    split
    · omega
    · exact hmetric.trans (le_max_left _ _)
  · cases h

theorem repetitions_pos (h : freezeRequest unicode a payload = some request) :
    1 ≤ request.workload.repetitions :=
  workload_repetitions_pos (handleA195_eq (freezeRequest_eq h).2.2).1

theorem aggregation_eq (h : freezeRequest unicode a payload = some request)
    (hc : criterion ∈ request.criteria) :
    ∃ unit direction, criterion.aggregation =
      (resolveMetric criterion.metricId unit direction).aggregation := by
  rw [(frozen_spec h).1] at hc
  unfold criteriaOf at hc
  split at hc
  · cases List.mem_singleton.mp hc
    exact ⟨_, _, rfl⟩
  · obtain ⟨declared, -, rfl⟩ := List.mem_map.mp hc
    exact ⟨_, _, rfl⟩

/-- What shares the id of a command's criterion asks for one sample, and the guardrail does
not share it. -/
theorem shares_id (h : freezeRequest unicode a payload = some request)
    (hc : criterion ∈ request.criteria) (hmetric : criterion.metricId = kind.metricId) :
    criterion.criterionId ≠ "correctness" ∧
      ∀ other ∈ request.criteria, other.criterionId = criterion.criterionId →
        ∀ unit direction, (resolveMetric other.metricId unit direction).minimumSamples = 1 := by
  rw [(frozen_spec h).1] at hc ⊢
  unfold criteriaOf at hc ⊢
  split at hc
  · rename_i hempty
    rw [if_pos hempty]
    cases List.mem_singleton.mp hc
    refine ⟨by simp [shorthandCriterion], fun other hother _ unit direction => ?_⟩
    rw [List.mem_singleton.mp hother, hmetric]
    exact (resolveMetric_command kind unit direction).1
  · rename_i hnonempty
    rw [if_neg hnonempty]
    obtain ⟨declared, -, rfl⟩ := List.mem_map.mp hc
    have hdeclared : declared.metricId = kind.metricId := hmetric
    constructor
    · intro hid
      have hcorrectness : criterionId unicode declared.metricId = "correctness" := hid
      have hmem := criterionId_command unicode kind
      rw [← hdeclared, hcorrectness] at hmem
      exact absurd hmem (by decide)
    · intro other hother hid unit direction
      obtain ⟨input, -, rfl⟩ := List.mem_map.mp hother
      have hslug : criterionId unicode input.metricId = criterionId unicode kind.metricId := by
        rw [← hdeclared]
        exact hid
      exact minimumSamples_of_slug (hslug ▸ criterionId_command unicode kind) unit direction

/-- `S05.60` asks for the repetitions of the workload. -/
theorem minimumSamples_eq (h : freezeRequest unicode a payload = some request)
    (hc : criterion ∈ request.criteria) (hmetric : criterion.metricId = kind.metricId) :
    minimumSamples request.forRemeasure criterion.criterionId = request.workload.repetitions := by
  obtain ⟨hguardrail, hone⟩ := shares_id h hc hmetric
  have hrequirements := (frozen_spec h).2.2
  have hpos := repetitions_pos h
  unfold minimumSamples lastWhere
  split
  · rename_i found hfind
    have hmem := List.mem_reverse.mp (List.mem_of_find?_eq_some hfind)
    have hid := List.find?_some hfind
    obtain ⟨requirement, hrequirement, rfl⟩ := List.mem_map.mp hmem
    have hid : requirement.criterionId = criterion.criterionId := beq_iff_eq.mp hid
    rw [hrequirements] at hrequirement
    rcases List.mem_append.mp hrequirement with hmem | hmem
    · obtain ⟨other, hother, rfl⟩ := List.mem_map.mp hmem
      have hsamples := hone other hother hid (some other.unit) (some other.direction)
      change max request.workload.repetitions _ = _
      rw [hsamples]
      exact max_eq_left hpos
    · obtain ⟨g, hg, rfl⟩ := List.mem_map.mp hmem
      have hgid : g.guardrailId ∈ request.guardrails.map (·.guardrailId) := List.mem_map_of_mem hg
      rw [(frozen_spec h).2.1, List.mem_singleton] at hgid
      exact absurd (hid.symm.trans hgid) hguardrail
  · rename_i hfind
    have hown : criterionRequirement request.workload criterion ∈ request.evidenceRequirements := by
      rw [hrequirements]
      exact List.mem_append_left _ (List.mem_map_of_mem hc)
    have hnone := List.find?_eq_none.mp hfind _ (List.mem_reverse.mpr (List.mem_map_of_mem hown))
    exact absurd (beq_iff_eq.mpr rfl) hnone

/-- The sample check of `S05.60` for a criterion that was measured. -/
theorem sampleProblem_eq_none_iff {baseline : BaselineSnapshot} {treatment : TreatmentAggregates}
    {aggregate : MetricAggregate}
    (hbaseline : baseline.aggregates.any (·.metricId == criterion.metricId) = true)
    (hmeasured : treatment.unmeasurableCriterionIds.contains criterion.criterionId = false)
    (haggregate : treatment.byCriterion.lookup criterion.criterionId = some aggregate) :
    sampleProblem request.forRemeasure baseline treatment criterion.forRemeasure = none ↔
      minimumSamples request.forRemeasure criterion.criterionId ≤ aggregate.count := by
  have hcontains : treatment.unmeasurableCriterionIds.contains
      criterion.forRemeasure.criterionId = false := hmeasured
  have hany : baseline.aggregates.any (·.metricId == criterion.forRemeasure.metricId) = true :=
    hbaseline
  have hlookup : treatment.byCriterion.lookup criterion.forRemeasure.criterionId =
      some aggregate := haggregate
  simp only [sampleProblem, hcontains, hany, hlookup, Bool.false_eq_true, if_false, Bool.not_true]
  change (if aggregate.count < minimumSamples request.forRemeasure criterion.criterionId
    then _ else _) = none ↔ _
  split
  · rename_i hfew
    exact ⟨fun h => (Option.some_ne_none _ h).elim, fun h => absurd hfew (by omega)⟩
  · rename_i henough
    exact ⟨fun _ => by omega, fun _ => rfl⟩

end Frozen

/-! ### Where the rules agree -/

section Claim
variable {unicode : UnicodeData} {a : IntakeAnswers} {payload : ManualCasePayload}
  {request : OptimizationRequest} {criterion : Criterion} {kind : CommandKind}
  {manifest : RepositoryManifest}

/-- The rounds of a benchmark are samples for `A2.90` too. -/
theorem required_benchmark (h : freezeRequest unicode a payload = some request)
    (hc : criterion ∈ request.criteria)
    (hmetric : criterion.metricId = CommandKind.benchmark.metricId)
    {count : Nat} {bundle : EvidenceBundle}
    (hobserves : Observes .benchmark count
      (criterionRequirement request.workload criterion).forGate bundle) :
    bundle.required (criterionRequirement request.workload criterion).forGate =
      max request.workload.repetitions 1 := by
  have hsamples : (criterionRequirement request.workload criterion).forGate.minimumSamples =
      max request.workload.repetitions 1 := by
    change max _ (resolveMetric criterion.metricId _ _).minimumSamples = _
    rw [hmetric, (resolveMetric_command .benchmark _ _).1]
  have haggregation : (criterionRequirement request.workload criterion).forGate.aggregation ≠
      .verdict := by
    obtain ⟨unit, direction, heq⟩ := aggregation_eq h hc
    change criterion.aggregation ≠ .verdict
    rw [heq, hmetric, (resolveMetric_command .benchmark _ _).2.1 (by decide)]
    decide
  unfold EvidenceBundle.required EvidenceGate.effectiveMinimumSamples
  rw [if_neg haggregation]
  split
  · exact hsamples
  · rename_i hnonempty
    obtain ⟨item, hitem⟩ := List.exists_mem_of_ne_nil _ (mt List.isEmpty_iff.mpr hnonempty)
    have hsampled : (bundle.matching
        (criterionRequirement request.workload criterion).forGate).any
          EvidenceGate.isSampled = true := by
      refine List.any_eq_true.mpr ⟨item, hitem, ?_⟩
      unfold EvidenceGate.isSampled
      rw [hobserves.evidenceType item hitem]
      decide
    rw [if_pos hsampled]
    exact hsamples

/-- One exit code is enough for `A2.90`. -/
theorem required_exit_code {requirement : EvidenceGate.EvidenceRequirement}
    {bundle : EvidenceBundle} (hkind : kind ≠ .benchmark)
    (hobserves : Observes kind 1 requirement bundle) : bundle.required requirement = 1 := by
  have hlength := hobserves.length
  unfold EvidenceBundle.required EvidenceGate.effectiveMinimumSamples
  split
  · rfl
  · have hempty : ¬ (bundle.matching requirement).isEmpty = true := by
      intro hnil
      rw [List.isEmpty_iff.mp hnil] at hlength
      cases hlength
    have hsampled : ¬ (bundle.matching requirement).any EvidenceGate.isSampled = true := by
      intro hany
      obtain ⟨item, hitem, hsampled⟩ := List.any_eq_true.mp hany
      unfold EvidenceGate.isSampled at hsampled
      rw [hobserves.evidenceType item hitem] at hsampled
      revert hsampled
      cases kind <;> first | decide | exact absurd rfl hkind
    rw [if_neg hempty, if_neg hsampled]

/-- The exit code of a command, as the command branches of A2 bind it to a requirement. -/
def exitCodeItem (kind : CommandKind) (requirement : EvidenceGate.EvidenceRequirement) :
    EvidenceGate.EvidenceItem where
  evidenceId := "exit-code"
  evidenceType := kind.metricId
  trustLevel := .T2
  sampleId := "1"
  observedAt := 0
  rawRef := "raw"
  normalizedRef := some "normalized"
  value := some (.number 0)
  unit := some "exit_code"
  requirementId := some requirement.requirementId
  metricId := requirement.metricId
  dimensions := requirement.requiredDimensions.map fun dimension => (dimension, dimension)

theorem matching_exitCodeItem {requirement : EvidenceGate.EvidenceRequirement}
    (hunit : requirement.canonicalUnit = some "exit_code") :
    (EvidenceBundle.mk [exitCodeItem kind requirement]).matching requirement =
      [exitCodeItem kind requirement] := by
  have hmatches : EvidenceGate.matchesRequirement requirement (exitCodeItem kind requirement) =
      true := by
    unfold EvidenceGate.matchesRequirement exitCodeItem
    rw [hunit]
    cases requirement.metricId <;> simp
  unfold EvidenceBundle.matching
  rw [List.filter_cons, if_pos hmatches, List.filter_nil]

theorem observes_exitCodeItem {requirement : EvidenceGate.EvidenceRequirement}
    (hunit : requirement.canonicalUnit = some "exit_code") :
    Observes kind 1 requirement ⟨[exitCodeItem kind requirement]⟩ where
  length := by
    rw [matching_exitCodeItem hunit]
    rfl
  evidenceType item hitem := by
    rw [matching_exitCodeItem hunit, List.mem_singleton] at hitem
    rw [hitem]
    rfl
  trustLevel item hitem := by
    rw [matching_exitCodeItem hunit, List.mem_singleton] at hitem
    rw [hitem]
    rfl
  single _ := rfl
  exitCode _ item hitem := by
    rw [matching_exitCodeItem hunit, List.mem_singleton] at hitem
    rw [hitem]
    rfl

theorem satisfied_exitCodeItem {requirement : EvidenceGate.EvidenceRequirement}
    (hkind : kind ≠ .benchmark) (hunit : requirement.canonicalUnit = some "exit_code")
    (htrust : requirement.minimumTrustLevel = .verified) :
    (EvidenceBundle.mk [exitCodeItem kind requirement]).satisfied requirement = true := by
  have htrusted : EvidenceGate.isTrusted requirement (exitCodeItem kind requirement) = true := by
    unfold EvidenceGate.isTrusted
    rw [htrust]
    rfl
  unfold EvidenceBundle.satisfied EvidenceBundle.eligible
  rw [required_exit_code hkind (observes_exitCodeItem hunit), matching_exitCodeItem hunit,
    List.filter_cons, if_pos htrusted]
  rfl

/-- Where an exit code is enough for `A2.90` but not the benchmark's, `S05.60` is satisfied
by as many only if one repetition was asked for. -/
theorem repetitions_of_agree (h : freezeRequest unicode a payload = some request)
    (hc : criterion ∈ request.criteria) (hmetric : criterion.metricId = kind.metricId)
    (hkind : kind ≠ .benchmark)
    (hunit : (criterionRequirement request.workload criterion).canonicalUnit = "exit_code")
    (hagree : SamplesAgree request criterion kind) : request.workload.repetitions = 1 := by
  have haggregate : [(criterion.criterionId, (⟨criterion.metricId, 1, 0⟩ : MetricAggregate))].lookup
      criterion.criterionId = some ⟨criterion.metricId, 1, 0⟩ := by simp
  have hbaseline : [(⟨criterion.metricId, 1, 0⟩ : MetricAggregate)].any
      (·.metricId == criterion.metricId) = true := by simp
  have hnone := hagree 1 _ (observes_exitCodeItem (congrArg some hunit))
    (satisfied_exitCodeItem hkind (congrArg some hunit) rfl) ⟨"", "", [⟨criterion.metricId, 1, 0⟩]⟩
    ⟨[(criterion.criterionId, ⟨criterion.metricId, 1, 0⟩)], [], []⟩ _ hbaseline rfl haggregate rfl
  have hle := (sampleProblem_eq_none_iff hbaseline rfl haggregate).mp hnone
  rw [minimumSamples_eq h hc hmetric] at hle
  exact le_antisymm hle (repetitions_pos h)

/-- The two rules agree for the benchmark, where one repetition was asked for, and where no
exit code is evidence for the criterion anyway. -/
theorem samples_agree_iff (h : freezeRequest unicode a payload = some request)
    (hc : criterion ∈ request.criteria)
    (hkind : resolveKind criterion.forRemeasure manifest = some kind) :
    SamplesAgree request criterion kind ↔
      kind = .benchmark ∨ request.workload.repetitions = 1 ∨
        (criterionRequirement request.workload criterion).canonicalUnit ≠ "exit_code" := by
  have hmetric := metricId_of_resolveKind hkind
  have hminimum := minimumSamples_eq h hc hmetric
  constructor
  · intro hagree
    by_contra hnot
    rw [not_or, not_or, not_not] at hnot
    obtain ⟨hexit, hmany, hunit⟩ := hnot
    exact hmany (repetitions_of_agree h hc hmetric hexit hunit hagree)
  · intro hcondition count bundle requirement hobserves hsatisfied baseline treatment aggregate
      hbaseline hmeasured haggregate hcount
    rw [sampleProblem_eq_none_iff hbaseline hmeasured haggregate, hminimum, hcount]
    have heligible : (bundle.eligible requirement).length ≤ count := by
      rw [← hobserves.length]
      exact List.length_filter_le _ _
    by_cases hbenchmark : kind = .benchmark
    · subst hbenchmark
      have hrequired := required_benchmark h hc hmetric hobserves
      have hle : bundle.required requirement ≤ (bundle.eligible requirement).length :=
        of_decide_eq_true hsatisfied
      rw [hrequired] at hle
      exact (le_max_left _ _).trans (hle.trans heligible)
    · have hsingle := hobserves.single hbenchmark
      rcases hcondition with hkind | hone | hunit
      · exact absurd hkind hbenchmark
      · omega
      · -- the one observation is an exit code, so the requirement is in exit codes
        have hlength := hobserves.length
        rw [hsingle] at hlength
        obtain ⟨item, hitem⟩ := List.length_eq_one_iff.mp hlength
        have hmem : item ∈ bundle.matching requirement := by
          rw [hitem]
          exact List.mem_singleton.mpr rfl
        have hmatches := (List.mem_filter.mp hmem).2
        unfold EvidenceGate.matchesRequirement at hmatches
        simp only [Bool.and_eq_true] at hmatches
        have hcanonical := hmatches.1.2
        rw [hobserves.exitCode hbenchmark item hmem] at hcanonical
        have hsame : "exit_code" =
            (criterionRequirement request.workload criterion).canonicalUnit := by
          simpa [requirement, EvidenceRequirement.forGate] using hcanonical
        exact absurd hsame.symm hunit

end Claim

/-! ### Unit tests of a TypeScript project -/

def unitTestPayload : ManualCasePayload :=
  checkoutPayload [⟨"unit_command_result", .target, 0, "exit_code", 1⟩]

/-- The default for TypeScript is three repetitions, that for Python one. -/
def languageAnswers (language : String) : IntakeAnswers :=
  { readyAnswers with profile := ⟨[(language, 1)], 12, false⟩ }

def unitTestManifest : RepositoryManifest := ⟨[.unit], [], []⟩

def unitTestCriterion : Criterion :=
  declaredCriterion asciiData ⟨"unit_command_result", .target, 0, "exit_code", 1⟩

theorem exists_frozen_unitTest (language : String)
    (h : (freezeRequest asciiData (languageAnswers language) unitTestPayload).isSome = true) :
    ∃ request, freezeRequest asciiData (languageAnswers language) unitTestPayload = some request ∧
      unitTestCriterion ∈ request.criteria := by
  obtain ⟨request, hrequest⟩ := Option.isSome_iff_exists.mp h
  refine ⟨request, hrequest, ?_⟩
  rw [(frozen_spec hrequest).1]
  exact List.mem_singleton.mpr rfl

/-- One passing test run is a baseline and no treatment. -/
theorem one_exit_code_is_too_few :
    ∃ request, freezeRequest asciiData (languageAnswers "typescript") unitTestPayload =
        some request ∧
      unitTestCriterion ∈ request.criteria ∧
      resolveKind unitTestCriterion.forRemeasure unitTestManifest = some .unit ∧
      ¬ SamplesAgree request unitTestCriterion .unit := by
  obtain ⟨request, hrequest, hmem⟩ := exists_frozen_unitTest "typescript"
    (by decide +kernel)
  refine ⟨request, hrequest, hmem, by decide, fun hagree => ?_⟩
  have hone := repetitions_of_agree hrequest hmem rfl (by decide) rfl hagree
  have hworkload := (handleA195_eq (freezeRequest_eq hrequest).2.2).1
  have hthree : (intakeArtifacts asciiData (languageAnswers "typescript")
      unitTestPayload).workload.workload.map (·.repetitions) = some 3 := by decide +kernel
  rw [hworkload, Option.map_some, hone] at hthree
  exact absurd hthree (by decide)

theorem unit_tests_of_python_agree :
    ∃ request, freezeRequest asciiData (languageAnswers "python") unitTestPayload =
        some request ∧
      unitTestCriterion ∈ request.criteria ∧
      resolveKind unitTestCriterion.forRemeasure unitTestManifest = some .unit ∧
      SamplesAgree request unitTestCriterion .unit := by
  obtain ⟨request, hrequest, hmem⟩ := exists_frozen_unitTest "python"
    (by decide +kernel)
  have hkind : resolveKind unitTestCriterion.forRemeasure unitTestManifest = some .unit := by
    decide
  refine ⟨request, hrequest, hmem, hkind, ?_⟩
  have hworkload := (handleA195_eq (freezeRequest_eq hrequest).2.2).1
  have hone : (intakeArtifacts asciiData (languageAnswers "python")
      unitTestPayload).workload.workload.map (·.repetitions) = some 1 := by decide +kernel
  rw [hworkload, Option.map_some, Option.some_inj] at hone
  exact (samples_agree_iff hrequest hmem hkind).mpr (Or.inr (Or.inl hone))

end ProductionOptimizer.Intake
