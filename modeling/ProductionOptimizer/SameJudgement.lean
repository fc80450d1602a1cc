import ProductionOptimizer.Handlers.Detection
import ProductionOptimizer.DecisionTable

/-!
# Detection and decision on the same numbers

`A3.20` compares the statistic that the aggregation of a criterion names; `S05.80` reports
means and `S06.20` compares those, with a tolerance where the direction is `target`. The two
judgements agree exactly when the target does not tell the statistic and the mean apart.
-/

namespace ProductionOptimizer
set_option autoImplicit false

/-- Both optional statistics are there. -/
def SampleAggregate.Complete (g : SampleAggregate) : Prop :=
  g.percentile50.isSome ∧ g.percentile95.isSome

/-- The target lies between the mean and the observed statistic, on the side where one of
them meets it and the other does not. -/
def Separates (criterion : Criterion) (mean observed : ℚ) : Prop :=
  match criterion.direction with
  | .minimize => min mean observed ≤ criterion.target ∧ criterion.target < max mean observed
  | .maximize => min mean observed < criterion.target ∧ criterion.target ≤ max mean observed
  | .target =>
    (observed = criterion.target ∧ targetEpsilon < |mean - criterion.target|) ∨
      (observed ≠ criterion.target ∧ |mean - criterion.target| ≤ targetEpsilon)

def SeparatedStatistic (criterion : AnalysedCriterion) (g : SampleAggregate) : Prop :=
  ∃ observed, selectAggregateValue g criterion.aggregation = .ok observed ∧
    Separates criterion.toCriterion g.mean observed

section Statistic
variable {g : SampleAggregate} {criterion : AnalysedCriterion}

theorem SampleAggregate.Complete.select (hg : g.Complete) (strategy : Aggregation) :
    ∃ observed, selectAggregateValue g strategy = .ok observed := by
  obtain ⟨p50, h50⟩ := Option.isSome_iff_exists.mp hg.1
  obtain ⟨p95, h95⟩ := Option.isSome_iff_exists.mp hg.2
  cases strategy with
  | p50 => exact ⟨p50, by simp [selectAggregateValue, h50]⟩
  | p95 => exact ⟨p95, by simp [selectAggregateValue, h95]⟩
  | _ => exact ⟨_, rfl⟩

theorem met_iff_not_breached (criterion : Criterion) (mean observed : ℚ) :
    (targetMet criterion mean = true ↔ criterionBreached criterion observed = false) ↔
      ¬ Separates criterion mean observed := by
  unfold targetMet criterionBreached Separates
  cases criterion.direction with
  | minimize =>
    simp only [decide_eq_true_eq, decide_eq_false_iff_not, not_lt, min_le_iff, lt_max_iff]
    constructor
    · rintro h ⟨hmin | hmin, hmax | hmax⟩
      · exact absurd hmin (not_le.mpr hmax)
      · exact absurd (h.mp hmin) (not_le.mpr hmax)
      · exact absurd (h.mpr hmin) (not_le.mpr hmax)
      · exact absurd hmin (not_le.mpr hmax)
    · intro h
      constructor
      · exact fun hmean => not_lt.mp fun hlt => h ⟨Or.inl hmean, Or.inr hlt⟩
      · exact fun hobserved => not_lt.mp fun hlt => h ⟨Or.inr hobserved, Or.inl hlt⟩
  | maximize =>
    simp only [decide_eq_true_eq, decide_eq_false_iff_not, not_lt, min_lt_iff, le_max_iff]
    constructor
    · rintro h ⟨hmin | hmin, hmax | hmax⟩
      · exact absurd hmax (not_le.mpr hmin)
      · exact absurd (h.mpr hmax) (not_le.mpr hmin)
      · exact absurd (h.mp hmax) (not_le.mpr hmin)
      · exact absurd hmax (not_le.mpr hmin)
    · intro h
      constructor
      · exact fun hmean => not_lt.mp fun hlt => h ⟨Or.inr hlt, Or.inl hmean⟩
      · exact fun hobserved => not_lt.mp fun hlt => h ⟨Or.inl hlt, Or.inr hobserved⟩
  | target =>
    simp only [decide_eq_true_eq, decide_eq_false_iff_not, not_not]
    constructor
    · rintro h (⟨hobserved, hfar⟩ | ⟨hobserved, hnear⟩)
      · exact absurd (h.mpr hobserved) (not_le.mpr hfar)
      · exact hobserved (h.mp hnear)
    · intro h
      constructor
      · exact fun hnear => by_contra fun hne => h (Or.inr ⟨hne, hnear⟩)
      · exact fun hobserved => not_lt.mp fun hfar => h (Or.inl ⟨hobserved, hfar⟩)

/-- The loop over the criteria passes a criterion over exactly when its statistic does not
breach. -/
theorem criterionSignal_eq_none_iff {floatText : ℚ → String} {now : Nat} {inputs : DetectionInputs}
    {observed : ℚ} (hg : lastWhere inputs.aggregates (·.metricId == criterion.metricId) = some g)
    (hobserved : selectAggregateValue g criterion.aggregation = .ok observed) :
    criterionSignal floatText now inputs criterion = .ok none ↔
      criterionBreached criterion.toCriterion observed = false := by
  unfold criterionSignal
  rw [hg]
  dsimp only
  rw [hobserved]
  change (if criterionBreached criterion.toCriterion observed = true then _ else Except.ok none) =
    _ ↔ _
  split
  · rename_i hbreached
    rw [hbreached]
    simp only [Bool.true_eq_false, iff_false]
    intro h
    obtain ⟨signal, _, hsome⟩ := except_bind_ok h
    cases hsome
  · rename_i hfine
    exact ⟨fun _ => Bool.eq_false_iff.mpr hfine, fun _ => rfl⟩

end Statistic

/-! ### From the treatment aggregate to the evaluation -/

theorem eq_of_mem_zip_map {A B : Type} {f : A → B} {l : List A} {a : A} {b : B}
    (h : (a, b) ∈ l.zip (l.map f)) : b = f a := by
  have hzip : l.zip (l.map f) = l.map fun a => (a, f a) := by
    simpa using List.zip_map' (f := id) (g := f) (l := l)
  rw [hzip, List.mem_map] at h
  obtain ⟨_, _, heq⟩ := h
  cases heq
  rfl

/-- `S05.80` at `measuring` sealed the report that `S06.20` read at `deciding`; both worked on
one request. -/
structure DecisionPass where
  measuring : OptimizationState
  deciding : OptimizationState
  request : OptimizationRequest
  baseline : BaselineSnapshot
  evaluations : List TargetEvaluation
  measuredRequest : measuring.readRequest = .ok request
  measuredBaseline : measuring.readBaseline = .ok baseline
  decidedRequest : deciding.readRequest = .ok request
  measured : ∃ a execution ref, handleS0580 a measuring = .ok execution ∧
    ref ∈ execution.artifactRefs ∧
    deciding.requirePhaseRef ⟨.S05, 80⟩ .statisticalReport = .ok ref
  decided : ∃ a execution, handleS0620 a deciding = .ok execution ∧
    execution.updates = [.s06TargetEvaluations evaluations]

namespace DecisionPass
variable (pass : DecisionPass)

def effects : List EffectResult :=
  pass.request.criteria.filterMap (effectOf pass.baseline (treatmentAggregates pass.measuring))

theorem evaluations_eq : pass.evaluations = pass.request.criteria.map fun criterion =>
    evaluateTarget criterion
      (lastWhere pass.effects (·.criterionId == criterion.criterionId)) := by
  obtain ⟨a, execution, ref, hok, href, hread⟩ := pass.measured
  obtain ⟨a', execution', hdecided, hupdates⟩ := pass.decided
  obtain ⟨request, hrequest, hok⟩ := except_bind_ok hok
  obtain ⟨baseline, hbaseline, hok⟩ := except_bind_ok hok
  obtain ⟨stageId, _, hok⟩ := except_bind_ok hok
  cases hrequest.symm.trans pass.measuredRequest
  cases hbaseline.symm.trans pass.measuredBaseline
  dsimp only at hok
  split at hok
  · cases hok
  cases hok
  obtain rfl := List.mem_singleton.mp href
  obtain ⟨request, hrequest, hdecided⟩ := except_bind_ok hdecided
  cases hrequest.symm.trans pass.decidedRequest
  obtain ⟨ref, href', hdecided⟩ := except_bind_ok hdecided
  cases href'.symm.trans hread
  obtain ⟨effects, heffects, hdecided⟩ := except_bind_ok hdecided
  cases heffects
  cases hdecided
  simp only [List.cons.injEq, FieldUpdate.s06TargetEvaluations.injEq, and_true] at hupdates
  exact hupdates.symm

/-- Every effect under the id of a criterion carries the mean that was measured for it. -/
theorem treatmentMean_of_mem {effect : EffectResult} {aggregate : MetricAggregate}
    (h : effect ∈ pass.effects)
    (hlookup : (treatmentAggregates pass.measuring).byCriterion.lookup effect.criterionId =
      some aggregate) : effect.treatmentMean = aggregate.mean := by
  obtain ⟨criterion, _, h⟩ := List.mem_filterMap.mp h
  unfold effectOf at h
  obtain ⟨measured, hmeasured, h⟩ := Option.bind_eq_some_iff.mp h
  obtain ⟨before, _, h⟩ := Option.bind_eq_some_iff.mp h
  cases h
  cases hmeasured.symm.trans hlookup
  rfl

theorem treatmentValue_of_measured {criterion : Criterion} {aggregate : MetricAggregate}
    (hc : criterion ∈ pass.request.criteria)
    (hlookup : (treatmentAggregates pass.measuring).byCriterion.lookup criterion.criterionId =
      some aggregate)
    (hbaseline : ∃ before ∈ pass.baseline.aggregates, before.metricId = criterion.metricId) :
    treatmentValue pass.effects criterion = some aggregate.mean := by
  obtain ⟨before, hbefore, hmetric⟩ := hbaseline
  have hlast : (lastWhere pass.baseline.aggregates (·.metricId == criterion.metricId)).isSome := by
    rw [lastWhere, List.find?_isSome]
    exact ⟨before, List.mem_reverse.mpr hbefore, beq_iff_eq.mpr hmetric⟩
  obtain ⟨last, hlast⟩ := Option.isSome_iff_exists.mp hlast
  have heffect : effectOf pass.baseline (treatmentAggregates pass.measuring) criterion =
      some ⟨criterion.criterionId, criterion.metricId, last.mean, aggregate.mean,
        aggregate.count⟩ := by
    unfold effectOf
    rw [hlookup, hlast]
    rfl
  have hmem : _ ∈ pass.effects := List.mem_filterMap.mpr ⟨criterion, hc, heffect⟩
  have hfound : (lastWhere pass.effects (·.criterionId == criterion.criterionId)).isSome := by
    rw [lastWhere, List.find?_isSome]
    exact ⟨_, List.mem_reverse.mpr hmem, beq_iff_eq.mpr rfl⟩
  obtain ⟨effect, heffect⟩ := Option.isSome_iff_exists.mp hfound
  have hid : effect.criterionId = criterion.criterionId := by
    have hp := List.find?_some heffect
    exact beq_iff_eq.mp hp
  have hmem : effect ∈ pass.effects := List.mem_reverse.mp (List.mem_of_find?_eq_some heffect)
  rw [treatmentValue, heffect, Option.map_some, pass.treatmentMean_of_mem hmem (hid ▸ hlookup)]

end DecisionPass

/-- The evaluation of a criterion and the signal for it agree on an aggregate that is measured
again unchanged, exactly when the target does not separate its mean from the statistic that
the criterion names. -/
theorem judged_alike_iff (floatText : ℚ → String) (now : Nat) (inputs : DetectionInputs)
    (pass : DecisionPass) (hsame : pass.request.criteria = inputs.criteria.map (·.toCriterion))
    {criterion : AnalysedCriterion} {evaluation : TargetEvaluation}
    (hevaluation : (criterion, evaluation) ∈ inputs.criteria.zip pass.evaluations)
    {g : SampleAggregate} (hcomplete : g.Complete)
    (hg : lastWhere inputs.aggregates (·.metricId == criterion.metricId) = some g)
    (htreatment : (treatmentAggregates pass.measuring).byCriterion.lookup criterion.criterionId =
      some g.toMetricAggregate)
    (hbaseline : ∃ before ∈ pass.baseline.aggregates, before.metricId = criterion.metricId) :
    (evaluation.met = true ↔ criterionSignal floatText now inputs criterion = .ok none) ↔
      ¬ SeparatedStatistic criterion g := by
  obtain ⟨observed, hobserved⟩ := hcomplete.select criterion.aggregation
  have hc : criterion.toCriterion ∈ pass.request.criteria := by
    rw [hsame]
    exact List.mem_map_of_mem (List.of_mem_zip hevaluation).1
  rw [pass.evaluations_eq, hsame, List.map_map] at hevaluation
  obtain rfl := eq_of_mem_zip_map hevaluation
  have hmet : (evaluateTarget criterion.toCriterion (lastWhere pass.effects
      (·.criterionId == criterion.toCriterion.criterionId))).met = true ↔
      targetMet criterion.toCriterion g.mean = true := by
    rw [evaluateTarget_met, CriterionHolds,
      pass.treatmentValue_of_measured hc htreatment hbaseline]
    simp
  have hseparated : SeparatedStatistic criterion g ↔
      Separates criterion.toCriterion g.mean observed := by
    simp [SeparatedStatistic, hobserved]
  rw [criterionSignal_eq_none_iff hg hobserved, hseparated, ← met_iff_not_breached]
  exact iff_congr hmet Iff.rfl

/-! A request with a criterion on the 95th percentile of the latency and one on the mean of a
quality score, measured again with the same numbers. -/

def latencyAggregate : SampleAggregate where
  metricId := "p95_latency_ms"
  count := 3
  mean := 80
  sampleIds := ["run-1", "run-2", "run-3"]
  maximum := 160
  percentile50 := some 70
  percentile95 := some 150
  sampled := by decide
  counted := by decide

def qualityAggregate : SampleAggregate where
  metricId := "quality_score"
  count := 3
  mean := 9 / 10
  sampleIds := ["eval-1", "eval-2", "eval-3"]
  maximum := 1
  percentile50 := some (9 / 10)
  percentile95 := some 1
  sampled := by decide
  counted := by decide

def latencyCriterion : AnalysedCriterion where
  criterionId := "latency"
  metricId := "p95_latency_ms"
  direction := .minimize
  target := 100
  weight := 1
  unit := "ms"
  aggregation := .p95

def qualityCriterion : AnalysedCriterion where
  criterionId := "quality"
  metricId := "quality_score"
  direction := .maximize
  target := 4 / 5
  weight := 1
  unit := "score"

def unchangedInputs : DetectionInputs where
  criteria := [latencyCriterion, qualityCriterion]
  guardrails := []
  aggregates := [latencyAggregate, qualityAggregate]
  byMetric := []
  evidence := []

def unchangedRequest : OptimizationRequest :=
  ⟨unchangedInputs.criteria.map (·.toCriterion), [], [], "workload", 60⟩

def unchangedBaseline : BaselineSnapshot :=
  ⟨"workload", "environment", unchangedInputs.aggregates.map (·.toMetricAggregate)⟩

def unchangedEffects : List EffectResult :=
  [⟨"latency", "p95_latency_ms", 80, 80, 3⟩, ⟨"quality", "quality_score", 9 / 10, 9 / 10, 3⟩]

def unchangedMeasuring : OptimizationState :=
  { caseId := "case"
    threadId := "thread"
    tenantId := "tenant"
    artifactRefs := [⟨.base, .optimizationRequest unchangedRequest⟩,
      ⟨.base, .baselineSnapshot unchangedBaseline⟩]
    s03ActivePhaseId := some "phase-1"
    s05TreatmentAggregates := some
      { byCriterion := [("latency", latencyAggregate.toMetricAggregate),
          ("quality", qualityAggregate.toMetricAggregate)]
        unmeasurableCriterionIds := [] } }

def unchangedDeciding : OptimizationState :=
  { unchangedMeasuring with
    artifactRefs := unchangedMeasuring.artifactRefs ++
      [⟨.phasePass ⟨.S05, 80⟩ "phase-1" 0, .statisticalReport 0 unchangedEffects⟩] }

def latencyEvaluation : TargetEvaluation :=
  ⟨"latency", "p95_latency_ms", .minimize, 100, some 80, true⟩

def qualityEvaluation : TargetEvaluation :=
  ⟨"quality", "quality_score", .maximize, 4 / 5, some (9 / 10), true⟩

def unchangedPass : DecisionPass where
  measuring := unchangedMeasuring
  deciding := unchangedDeciding
  request := unchangedRequest
  baseline := unchangedBaseline
  evaluations := [latencyEvaluation, qualityEvaluation]
  measuredRequest := rfl
  measuredBaseline := rfl
  decidedRequest := rfl
  measured := ⟨{}, _, _, rfl, List.mem_singleton.mpr rfl, rfl⟩
  decided := by
    refine ⟨{}, _, rfl, congrArg (fun targets => [FieldUpdate.s06TargetEvaluations targets]) ?_⟩
    decide +kernel

theorem judged_alike_unchangedPass :
    (qualityEvaluation.met = true ↔
        criterionSignal (fun _ => "") 0 unchangedInputs qualityCriterion = .ok none) ↔
      ¬ SeparatedStatistic qualityCriterion qualityAggregate := by
  have hpair : (qualityCriterion, qualityEvaluation) ∈
      unchangedInputs.criteria.zip unchangedPass.evaluations :=
    List.mem_cons_of_mem _ (List.mem_singleton.mpr rfl)
  refine judged_alike_iff (fun _ => "") 0 unchangedInputs unchangedPass rfl hpair ⟨rfl, rfl⟩ rfl
    rfl ⟨qualityAggregate.toMetricAggregate, ?_, rfl⟩
  exact List.mem_cons_of_mem _ (List.mem_singleton.mpr rfl)

/-- The signal for the latency is raised, and the same numbers then meet the criterion. -/
theorem breach_met_unchanged :
    (latencyCriterion, latencyEvaluation) ∈
        unchangedInputs.criteria.zip unchangedPass.evaluations ∧
      latencyAggregate.Complete ∧
      lastWhere unchangedInputs.aggregates (·.metricId == latencyCriterion.metricId) =
        some latencyAggregate ∧
      (treatmentAggregates unchangedPass.measuring).byCriterion.lookup
        latencyCriterion.criterionId = some latencyAggregate.toMetricAggregate ∧
      ¬ (latencyEvaluation.met = true ↔
        criterionSignal (fun _ => "") 0 unchangedInputs latencyCriterion = .ok none) := by
  refine ⟨List.mem_cons_self, ⟨rfl, rfl⟩, rfl, rfl, ?_⟩
  have hsignal : (criterionSignal (fun _ => "") 0 unchangedInputs latencyCriterion).toOption ≠
      some none := by decide +kernel
  intro h
  exact hsignal (by rw [h.mp rfl]; rfl)

end ProductionOptimizer
