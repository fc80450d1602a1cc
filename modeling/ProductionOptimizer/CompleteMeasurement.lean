import ProductionOptimizer.FreshTrails
import ProductionOptimizer.Handlers.PolicyDecision

/-!
# A comparable measurement is complete

`S05.40` measures, `S05.60` judges the samples, `S05.70` stops the pass unless they are
sufficient, and `S05.80` computes the effects. The trail of the pass carries the
measurement of `S05.40` through to the report, so that S06 finds an effect for every
criterion.
-/

namespace ProductionOptimizer
open Runs NumberedLog
set_option autoImplicit false

/-- The aggregate that the workers' answer for a criterion amounts to. -/
def IsRemeasured (workers : Answers) (manifest : RepositoryManifest) (criterion : Criterion)
    (aggregate : MetricAggregate) : Prop :=
  ∃ kind count mean, resolveKind criterion manifest = some kind ∧
    workers.remeasured criterion.criterionId = some (count, mean) ∧
    aggregate = ⟨criterion.metricId, if kind = .benchmark then count else 1, mean⟩

/-- What one pass of S05 works on. `workers` answered the jobs of `S05.40`. -/
structure MeasuredPass where
  request : OptimizationRequest
  baseline : BaselineSnapshot
  manifest : RepositoryManifest
  workers : Answers
  aggregates : List (String × MetricAggregate)
  unmeasurable : List String

namespace MeasuredPass
variable (m : MeasuredPass)

def treatment : TreatmentAggregates :=
  { byCriterion := dictOf m.aggregates, unmeasurableCriterionIds := m.unmeasurable }

def problems : List (String × SampleProblem) :=
  m.request.criteria.filterMap fun criterion =>
    (sampleProblem m.request m.baseline m.treatment criterion).map fun problem =>
      (criterion.criterionId, problem)

def effects : List EffectResult :=
  m.request.criteria.filterMap (effectOf m.baseline m.treatment)

/-- The effect of a criterion, from this pass's aggregate and the baseline's aggregate of
the same metric, with enough samples. -/
structure IsEffect (criterion : Criterion) (effect : EffectResult) : Prop where
  criterionId : effect.criterionId = criterion.criterionId
  metricId : effect.metricId = criterion.metricId
  treatment : ∃ aggregate, IsRemeasured m.workers m.manifest criterion aggregate ∧
    effect.treatmentMean = aggregate.mean ∧ effect.sampleCount = aggregate.count
  baseline : ∃ aggregate ∈ m.baseline.aggregates, aggregate.metricId = criterion.metricId ∧
    effect.baselineMean = aggregate.mean
  samples : minimumSamples m.request criterion.criterionId ≤ effect.sampleCount

def DistinctCriteria : Prop := (m.request.criteria.map (·.criterionId)).Nodup

end MeasuredPass

theorem remeasureAll_entries {a : Answers} {manifest : RepositoryManifest} :
    ∀ {criteria : List Criterion} {out : List (String × MetricAggregate) × List String},
      remeasureAll a manifest criteria = .ok out → ∀ entry ∈ out.1, ∃ criterion ∈ criteria,
        entry.1 = criterion.criterionId ∧ IsRemeasured a manifest criterion entry.2
  | [], out, h, entry, hmem => by
    cases h
    cases hmem
  | criterion :: criteria, out, h, entry, hmem => by
    -- every branch that succeeds goes on with the remaining criteria
    have hrest : ∀ {rest}, remeasureAll a manifest criteria = .ok rest → entry ∈ rest.1 →
        ∃ owner ∈ criterion :: criteria, entry.1 = owner.criterionId ∧
          IsRemeasured a manifest owner entry.2 := by
      intro rest hok hentry
      obtain ⟨owner, howner, hfound⟩ := remeasureAll_entries hok entry hentry
      exact ⟨owner, List.mem_cons_of_mem _ howner, hfound⟩
    unfold remeasureAll at h
    split at h
    · obtain ⟨rest, hok, h⟩ := except_bind_ok h
      cases h
      exact hrest hok hmem
    · rename_i kind hkind
      split at h
      · cases h
      · rename_i count mean hanswer
        split at h
        · cases h
        · obtain ⟨rest, hok, h⟩ := except_bind_ok h
          cases h
          rcases List.mem_cons.mp hmem with rfl | hmem
          · exact ⟨criterion, List.mem_cons_self, rfl, kind, count, mean, hkind, hanswer, rfl⟩
          · exact hrest hok hmem

namespace MeasuredPass
variable {m : MeasuredPass}

/-- With distinct ids the aggregate stored for a criterion is its own. -/
theorem isRemeasured_of_lookup (hdistinct : m.DistinctCriteria)
    (hmeasured : remeasureAll m.workers m.manifest m.request.criteria =
      .ok (m.aggregates, m.unmeasurable)) {criterion : Criterion}
    (hmem : criterion ∈ m.request.criteria) {aggregate : MetricAggregate}
    (hlookup : m.treatment.byCriterion.lookup criterion.criterionId = some aggregate) :
    IsRemeasured m.workers m.manifest criterion aggregate := by
  obtain ⟨l₁, l₂, hsplit, _⟩ := List.lookup_eq_some_iff.mp hlookup
  have hentry : (criterion.criterionId, aggregate) ∈ m.aggregates := by
    refine mem_of_mem_dictOf ?_
    rw [show dictOf m.aggregates = l₁ ++ (criterion.criterionId, aggregate) :: l₂ from hsplit]
    exact List.mem_append_right _ List.mem_cons_self
  obtain ⟨owner, howner, hid, hanswer⟩ := remeasureAll_entries hmeasured _ hentry
  cases List.inj_on_of_nodup_map hdistinct hmem howner hid
  exact hanswer

theorem effectOf_of_noProblem {criterion : Criterion}
    (h : sampleProblem m.request m.baseline m.treatment criterion = none) :
    ∃ aggregate before, m.treatment.byCriterion.lookup criterion.criterionId = some aggregate ∧
      before ∈ m.baseline.aggregates ∧ before.metricId = criterion.metricId ∧
      minimumSamples m.request criterion.criterionId ≤ aggregate.count ∧
      effectOf m.baseline m.treatment criterion = some ⟨criterion.criterionId,
        criterion.metricId, before.mean, aggregate.mean, aggregate.count⟩ := by
  unfold sampleProblem at h
  dsimp only at h
  split at h
  · cases h
  · split at h
    · cases h
    · rename_i hbaseline
      split at h
      · cases h
      · rename_i aggregate hlookup
        split at h
        · cases h
        · rename_i hcount
          have hany : m.baseline.aggregates.any (·.metricId == criterion.metricId) = true := by
            simpa using hbaseline
          obtain ⟨found, hfound, hmetric⟩ := List.any_eq_true.mp hany
          cases hlast : lastWhere m.baseline.aggregates (·.metricId == criterion.metricId) with
          | none =>
            have hnone := List.find?_eq_none.mp hlast found (List.mem_reverse.mpr hfound)
            exact absurd hmetric hnone
          | some before =>
            have hmem := List.mem_of_find?_eq_some hlast
            have hprop := List.find?_some hlast
            refine ⟨aggregate, before, hlookup, List.mem_reverse.mp hmem, beq_iff_eq.mp hprop,
              Nat.le_of_not_lt hcount, ?_⟩
            unfold effectOf
            rw [hlookup, hlast]
            rfl

theorem noProblem_of_problems (h : m.problems = []) {criterion : Criterion}
    (hmem : criterion ∈ m.request.criteria) :
    sampleProblem m.request m.baseline m.treatment criterion = none :=
  Option.map_eq_none_iff.mp (List.filterMap_eq_nil_iff.mp h criterion hmem)

theorem isEffect_of_effectOf (h : m.problems = []) (hdistinct : m.DistinctCriteria)
    (hmeasured : remeasureAll m.workers m.manifest m.request.criteria =
      .ok (m.aggregates, m.unmeasurable)) {criterion : Criterion}
    (hmem : criterion ∈ m.request.criteria) :
    ∃ effect, effectOf m.baseline m.treatment criterion = some effect ∧
      m.IsEffect criterion effect := by
  obtain ⟨aggregate, before, hlookup, hbefore, hmetric, hcount, heffect⟩ :=
    effectOf_of_noProblem (noProblem_of_problems h hmem)
  exact ⟨_, heffect, rfl, rfl,
    ⟨aggregate, isRemeasured_of_lookup hdistinct hmeasured hmem hlookup, rfl, rfl⟩,
    ⟨before, hbefore, hmetric, rfl⟩, hcount⟩

end MeasuredPass

theorem forall₂_filterMap {α β : Type} {R : α → β → Prop} {f : α → Option β} :
    ∀ {l : List α}, (∀ x ∈ l, ∃ y, f x = some y ∧ R x y) → l.Forall₂ R (l.filterMap f)
  | [], _ => .nil
  | x :: l, h => by
    obtain ⟨⟨y, hy, hr⟩, hl⟩ := List.forall_mem_cons.mp h
    rw [List.filterMap_cons_some hy]
    exact .cons hr (forall₂_filterMap hl)

theorem exists_of_forall₂ {α β : Type} {R : α → β → Prop} {l : List α} {l' : List β}
    (h : l.Forall₂ R l') {x : α} (hx : x ∈ l) : ∃ y ∈ l', R x y := by
  induction h with
  | nil => cases hx
  | cons hr _ ih =>
    rcases List.mem_cons.mp hx with rfl | hx
    · exact ⟨_, List.mem_cons_self, hr⟩
    · obtain ⟨y, hy, hxy⟩ := ih hx
      exact ⟨y, List.mem_cons_of_mem _ hy, hxy⟩

/-- No reason for rejection means one effect per criterion, in the order of the request. -/
theorem MeasuredPass.forall₂_effects {m : MeasuredPass} (h : m.problems = [])
    (hdistinct : m.DistinctCriteria)
    (hmeasured : remeasureAll m.workers m.manifest m.request.criteria =
      .ok (m.aggregates, m.unmeasurable)) : m.request.criteria.Forall₂ m.IsEffect m.effects :=
  forall₂_filterMap fun _ hmem => m.isEffect_of_effectOf h hdistinct hmeasured hmem

/-! ### The trail of a measurement -/

namespace MeasuredPass

/-- `S05.40` has an intent for the pass, and it holds the measurement `m`. -/
structure Recorded (m : MeasuredPass) (pass : Nat) (c : Config) : Prop where
  request : c.state.readRequest = .ok m.request
  manifest : c.state.readManifest = .ok m.manifest
  measured : remeasureAll m.workers m.manifest m.request.criteria =
    .ok (m.aggregates, m.unmeasurable)
  intent : ∃ execution, c.ledger.cached (passKey ⟨.S05, 40⟩ pass c.state) = some execution ∧
    execution.updates = [.s05TreatmentAggregates m.treatment]

/-- The state holds the measurement, with or without the list of `S05.50`. -/
def Held (m : MeasuredPass) (s : OptimizationState) : Prop :=
  ∃ ids, treatmentAggregates s = { m.treatment with preservedCriterionIds := ids }

/-- What `S05.<number>` finds. -/
def Found (number : Nat) (c : Config) : Prop :=
  match number with
  | 50 | 60 => ∃ m : MeasuredPass, m.Recorded c.state.s03RevisionAttempts c ∧ m.Held c.state
  | 70 => ∃ m : MeasuredPass, m.Recorded c.state.s03RevisionAttempts c ∧ m.Held c.state ∧
      c.state.readBaseline = .ok m.baseline ∧
      c.state.s05Quality = some ⟨m.problems.isEmpty, m.problems⟩
  | 80 => ∃ m : MeasuredPass, m.Recorded c.state.s03RevisionAttempts c ∧ m.Held c.state ∧
      c.state.readBaseline = .ok m.baseline ∧ m.problems = []
  | _ => True

/-- `S05.70` is the one node of the chain that may stop the pass. -/
def Leads (number : Nat) (execution : NodeExecution) : Prop :=
  number = 70 → execution.route = .continue_

end MeasuredPass

section Carry
variable {c c' : Config} {visit : Visit} {m : MeasuredPass}

theorem MeasuredPass.Recorded.step {pass : Nat} (hr : m.Recorded pass c)
    (h : SharedSpec c visit c') : m.Recorded pass c' where
  request := h.committed.readRequest_of_ok hr.request
  manifest := h.committed.readManifest_of_ok hr.manifest
  measured := hr.measured
  intent := by
    obtain ⟨execution, hcached, hupdates⟩ := hr.intent
    rw [h.passKey]
    exact ⟨execution, h.cached_mono _ _ hcached, hupdates⟩

theorem MeasuredPass.Held.of_treatment {s s' : OptimizationState} (hh : m.Held s)
    (h : s'.s05TreatmentAggregates = s.s05TreatmentAggregates) : m.Held s' := by
  unfold MeasuredPass.Held treatmentAggregates at hh ⊢
  rw [h]
  exact hh

theorem measured_50 {a : Answers} (h : SharedSpec c visit c') (hnode : visit.node = ⟨.S05, 40⟩)
    (hok : handleS0540 a c.state = .ok visit.execution)
    (hpass : c'.state.s03RevisionAttempts = c.state.s03RevisionAttempts) :
    MeasuredPass.Found 50 c' := by
  obtain ⟨request, hrequest, hok⟩ := except_bind_ok hok
  obtain ⟨manifest, hmanifest, hok⟩ := except_bind_ok hok
  obtain ⟨workspace, _, hok⟩ := except_bind_ok hok
  obtain ⟨measured, hmeasured, hok⟩ := except_bind_ok hok
  have hupdates : visit.execution.updates = [.s05TreatmentAggregates
      { byCriterion := dictOf measured.1, unmeasurableCriterionIds := measured.2 }] := by
    rw [← Except.ok.inj hok]
  have htreatment := h.committed.get .s05TreatmentAggregates
  rw [hupdates] at htreatment
  refine ⟨⟨request, ⟨"", "", []⟩, manifest, a, measured.1, measured.2⟩, ?_, [], ?_⟩
  · refine ⟨h.committed.readRequest_of_ok hrequest, h.committed.readManifest_of_ok hmanifest,
      hmeasured, visit.execution, ?_, hupdates⟩
    have hrecorded := h.recorded
    rw [h.key, hnode] at hrecorded
    rw [hpass, h.passKey]
    exact hrecorded
  · unfold treatmentAggregates
    rw [show c'.state.s05TreatmentAggregates = _ from htreatment]
    rfl

theorem measured_60 {a : Answers} (h : SharedSpec c visit c')
    (hok : handleS0550 a c.state = .ok visit.execution)
    (hpass : c'.state.s03RevisionAttempts = c.state.s03RevisionAttempts)
    (hf : MeasuredPass.Found 50 c) : MeasuredPass.Found 60 c' := by
  obtain ⟨m, hr, ids, hheld⟩ := hf
  have htreatment := h.committed.get .s05TreatmentAggregates
  rw [← Except.ok.inj hok] at htreatment
  have hpreserved : treatmentAggregates c'.state =
      { treatmentAggregates c.state with
        preservedCriterionIds :=
          ((treatmentAggregates c.state).byCriterion.map (·.1)).insertionSort (· ≤ ·) } := by
    rw [treatmentAggregates, show c'.state.s05TreatmentAggregates = _ from htreatment]
    rfl
  rw [hheld] at hpreserved
  exact ⟨m, hpass ▸ hr.step h, _, hpreserved⟩

theorem measured_70 {a : Answers} (h : SharedSpec c visit c')
    (hok : handleS0560 a c.state = .ok visit.execution)
    (hpass : c'.state.s03RevisionAttempts = c.state.s03RevisionAttempts)
    (htreatment : c'.state.s05TreatmentAggregates = c.state.s05TreatmentAggregates)
    (hf : MeasuredPass.Found 60 c) : MeasuredPass.Found 70 c' := by
  obtain ⟨m, hr, hheld⟩ := hf
  obtain ⟨request, hrequest, hok⟩ := except_bind_ok hok
  obtain ⟨baseline, hbaseline, hok⟩ := except_bind_ok hok
  cases hrequest.symm.trans hr.request
  have hr' := hr.step h
  refine ⟨{ m with baseline := baseline }, hpass ▸ ⟨hr'.request, hr'.manifest, hr'.measured,
    hr'.intent⟩, hheld.of_treatment htreatment, h.committed.readBaseline_of_ok hbaseline, ?_⟩
  have hquality := h.committed.get .s05Quality
  obtain ⟨ids, hheld⟩ := hheld
  rw [← Except.ok.inj hok, hheld] at hquality
  exact hquality

theorem measured_80 {a : Answers} (h : SharedSpec c visit c')
    (hok : handleS0570 a c.state = .ok visit.execution)
    (hroute : visit.execution.route = .continue_)
    (hpass : c'.state.s03RevisionAttempts = c.state.s03RevisionAttempts)
    (htreatment : c'.state.s05TreatmentAggregates = c.state.s05TreatmentAggregates)
    (hf : MeasuredPass.Found 70 c) : MeasuredPass.Found 80 c' := by
  obtain ⟨m, hr, hheld, hbaseline, hquality⟩ := hf
  refine ⟨m, hpass ▸ hr.step h, hheld.of_treatment htreatment,
    h.committed.readBaseline_of_ok hbaseline, ?_⟩
  obtain ⟨request, _, hok⟩ := except_bind_ok hok
  obtain ⟨baseline, _, hok⟩ := except_bind_ok hok
  obtain ⟨stageId, _, hok⟩ := except_bind_ok hok
  rw [← Except.ok.inj hok] at hroute
  simp only [comparabilityDimensions, hquality] at hroute
  split at hroute
  · rename_i hall
    simp only [List.all_cons, Bool.and_eq_true, Option.any_some] at hall
    exact List.isEmpty_iff.mp hall.2.1
  · cases hroute

theorem s05_scope {number : Nat} (hnumber : number ∈ [40, 50, 60, 70]) :
    .s03RevisionAttempts ∉ nodeFields ⟨.S05, number⟩ := by
  simp only [List.mem_cons, List.not_mem_nil, or_false] at hnumber
  rcases hnumber with rfl | rfl | rfl | rfl <;> decide

/-- One fresh execution of `S05.40` to `S05.70` carries the trail on. -/
theorem measured_step {a : Answers} {number : Nat} (hnumber : number ∈ [40, 50, 60, 70])
    (h : SharedSpec c visit c') (hnode : visit.node = ⟨.S05, number⟩)
    (hok : nodeHandler ⟨.S05, number⟩ a c.state = .ok visit.execution)
    (hlead : MeasuredPass.Leads number visit.execution) (hf : MeasuredPass.Found number c) :
    MeasuredPass.Found (number + 10) c' := by
  have hpass : c'.state.s03RevisionAttempts = c.state.s03RevisionAttempts :=
    h.get (f := .s03RevisionAttempts) (hnode ▸ s05_scope hnumber)
  simp only [List.mem_cons, List.not_mem_nil, or_false] at hnumber
  rcases hnumber with rfl | rfl | rfl | rfl
  · exact measured_50 (a := a) h hnode hok hpass
  · exact measured_60 (a := a) h hok hpass hf
  · exact measured_70 (a := a) h hok hpass
      (h.get (f := .s05TreatmentAggregates) (by rw [hnode]; decide)) hf
  · exact measured_80 (a := a) h hok (hlead rfl) hpass
      (h.get (f := .s05TreatmentAggregates) (by rw [hnode]; decide)) hf

end Carry

/-! ### Runs -/

/-- The report was computed from the measurement that `S05.40` recorded in its pass. -/
def CompleteReport (c : Config) (ref : ArtifactRef) : Prop :=
  ∃ (m : MeasuredPass) (phaseId : String) (pass now : Nat) (effects : List EffectResult),
    ref = ⟨.phasePass ⟨.S05, 80⟩ phaseId pass, .statisticalReport now effects⟩ ∧
    m.Recorded pass c ∧ c.state.readBaseline = .ok m.baseline ∧
    (m.DistinctCriteria → m.request.criteria.Forall₂ m.IsEffect effects)

/-- No pass of S05 has begun: there is no intent of its nodes, no report is sealed, and the
run is not inside the stage. -/
structure BeforeMeasurement (c : Config) : Prop where
  writes : WritesSound c.ledger
  intents : ∀ key execution, c.ledger.cached key = some execution → key.node.stage ≠ .S05
  reports : ∀ ref ∈ c.state.artifactRefs, ref.artifactType ≠ .statisticalReport
  position : ∀ n, c.position = some n → n.stage = .S05 → n = firstNode .S05
  routes : FilledAt Prod.mk c.state.nodeRoutes ⟨.S05, 70⟩

structure MeasurementInv (c : Config) : Prop where
  writes : WritesSound c.ledger
  handed : ∀ number ∈ [40, 50, 60, 70],
    Handed (MeasuredPass.Leads number) ⟨.S05, number⟩ ⟨.S05, number + 10⟩ c
  trails : ∀ number ∈ [40, 50, 60, 70, 80], Trail ⟨.S05, number⟩ (MeasuredPass.Found number) c
  recorded : RefsKept ⟨.S05, 80⟩ c
  reports : ∀ ref ∈ c.state.artifactRefs, ref.artifactType = .statisticalReport →
    CompleteReport c ref
  routes : FilledAt Prod.mk c.state.nodeRoutes ⟨.S05, 70⟩

theorem BeforeMeasurement.measurementInv {c : Config} (h : BeforeMeasurement c) :
    MeasurementInv c where
  writes := h.writes
  handed number _ := handed_of_uncached fun key execution hcached hnode =>
    h.intents key execution hcached (by rw [hnode])
  trails number hnumber := by
    refine trail_of_position fun hpos => ?_
    have hfirst := congrArg NodeId.number (h.position _ hpos rfl)
    simp only [firstNode] at hfirst
    subst hfirst
    revert hnumber
    decide
  recorded := .of_uncached fun key execution hcached hnode =>
    h.intents key execution hcached (by rw [hnode])
  reports ref href htype := absurd htype (h.reports ref href)
  routes := h.routes

theorem s05_link {number : Nat} (h : number ∈ [40, 50, 60, 70]) :
    Link ⟨.S05, number⟩ ⟨.S05, number + 10⟩ := by
  refine link_of_consecutive ?_ (by decide) (s05_scope h)
  simp only [List.mem_cons, List.not_mem_nil, or_false] at h
  omega

theorem s05_next {number : Nat} (h : number ∈ [40, 50, 60, 70]) {s : OptimizationState}
    (hroute : number = 70 → s.routeFor ⟨.S05, 70⟩ = .continue_) :
    nextPosition ⟨.S05, number⟩ s = some ⟨.S05, number + 10⟩ := by
  simp only [List.mem_cons, List.not_mem_nil, or_false] at h
  rcases h with rfl | rfl | rfl | rfl
  · rfl
  · rfl
  · rfl
  · unfold nextPosition
    rw [hroute rfl]
    rfl

theorem statisticalReport_writers : ∀ n ∈ catalog, .statisticalReport ∈ nodeTypes n →
    n = ⟨.S05, 80⟩ := by decide +kernel

section Step
variable {c c' : Config} {visit : Visit}

theorem CompleteReport.step {ref : ArtifactRef} (hr : CompleteReport c ref)
    (h : SharedSpec c visit c') : CompleteReport c' ref := by
  obtain ⟨m, phaseId, pass, now, effects, rfl, hrecorded, hbaseline, heffects⟩ := hr
  exact ⟨m, phaseId, pass, now, effects, rfl, hrecorded.step h,
    h.committed.readBaseline_of_ok hbaseline, heffects⟩

/-- What `S05.80` does once the samples were found sufficient. -/
theorem handleS0580_of_found {a : Answers} {m : MeasuredPass} {pass : Nat}
    (hr : m.Recorded pass c) (hheld : m.Held c.state)
    (hbaseline : c.state.readBaseline = .ok m.baseline) :
    handleS0580 a c.state = (do
      let stageId ← c.state.phaseStage ⟨.S05, 80⟩
      if m.effects.isEmpty then .error (.invalidContract .statisticalReport)
      else .ok { artifactRefs := [⟨stageId, .statisticalReport a.now m.effects⟩] }) := by
  obtain ⟨ids, hheld⟩ := hheld
  unfold handleS0580
  rw [hr.request, hbaseline, hheld]
  rfl

theorem completeReport_of_handler {a : Answers} (h : SharedSpec c visit c')
    (hok : handleS0580 a c.state = .ok visit.execution) (hf : MeasuredPass.Found 80 c) :
    ∀ ref ∈ visit.execution.artifactRefs, CompleteReport c' ref := by
  obtain ⟨m, hr, hheld, hbaseline, hproblems⟩ := hf
  rw [handleS0580_of_found hr hheld hbaseline] at hok
  obtain ⟨stageId, hstage, hok⟩ := except_bind_ok hok
  split at hok
  · cases hok
  · obtain ⟨phaseId, hphase, _⟩ := except_bind_ok hstage
    rw [← Except.ok.inj hok]
    intro ref href
    cases List.mem_singleton.mp href
    rw [OptimizationState.phaseStage_eq hphase hstage]
    exact ⟨m, phaseId, _, a.now, m.effects, rfl, hr.step h,
      h.committed.readBaseline_of_ok hbaseline,
      fun hdistinct => m.forall₂_effects hproblems hdistinct hr.measured⟩

theorem MeasurementInv.step (hinv : MeasurementInv c) (h : SharedSpec c visit c') :
    MeasurementInv c' where
  writes := h.writesSound hinv.writes
  handed number hnumber := (hinv.handed number hnumber).step (s05_link hnumber) h fun hnode hlead => by
    rw [h.next, hnode]
    refine s05_next hnumber ?_
    rintro rfl
    rw [← hlead rfl]
    exact (hnode ▸ h.committed).routeFor_self hinv.routes
  trails number hnumber := by
    rcases List.mem_cons.mp hnumber with rfl | hnumber
    · exact fun _ _ => trivial
    · obtain ⟨before, hbefore, rfl⟩ : ∃ before ∈ [40, 50, 60, 70], number = before + 10 := by
        simp only [List.mem_cons, List.not_mem_nil, or_false] at hnumber
        rcases hnumber with rfl | rfl | rfl | rfl
        · exact ⟨40, by decide, rfl⟩
        · exact ⟨50, by decide, rfl⟩
        · exact ⟨60, by decide, rfl⟩
        · exact ⟨70, by decide, rfl⟩
      have hmem : before ∈ [40, 50, 60, 70, 80] := List.mem_append_left [80] hbefore
      refine (hinv.trails before hmem).step (s05_link hbefore) (hinv.handed before hbefore) h ?_
        fun a hnode hok hlead hf => measured_step hbefore h hnode hok hlead hf
      rintro hnode hpos rfl
      rw [h.next, hnode] at hpos
      rw [← route_of_nextPosition (by decide) (by decide) (by decide) hpos]
      exact ((hnode ▸ h.committed).routeFor_self hinv.routes).symm
  recorded := hinv.recorded.step h
  reports ref href htype := by
    rcases hinv.recorded.sealed_cases h (htype ▸ statisticalReport_writers) href with
      hold | ⟨hnode, hflag, hnew⟩
    · exact (hinv.reports ref hold htype).step h
    · obtain ⟨hcached, a, hok⟩ := h.fresh hflag
      rw [h.key, hnode] at hcached
      rw [hnode] at hok
      have hf := hinv.trails 80 (by decide) (hnode ▸ h.position) hcached
      exact completeReport_of_handler (a := a) h hok hf ref hnew
  routes := h.committed.filledAt hinv.routes

/-- The report that S06 reads is complete for the request it reads. -/
theorem measured_of_reads (hinv : MeasurementInv c) {request : OptimizationRequest}
    {ref : ArtifactRef} {effects : List EffectResult} (hrequest : c.state.readRequest = .ok request)
    (hdistinct : (request.criteria.map (·.criterionId)).Nodup)
    (href : c.state.requirePhaseRef ⟨.S05, 80⟩ .statisticalReport = .ok ref)
    (heffects : readStatistical ref = .ok effects) :
    ∀ criterion ∈ request.criteria, ∃ effect ∈ effects,
      effect.criterionId = criterion.criterionId := by
  obtain ⟨id, _, href⟩ := except_bind_ok href
  obtain ⟨hmem, htype, _⟩ := OptimizationState.requireStageRef_ok href
  obtain ⟨m, phaseId, pass, now, effects', rfl, hrecorded, _, hcomplete⟩ :=
    hinv.reports ref hmem htype
  cases heffects
  cases hrequest.symm.trans hrecorded.request
  intro criterion hcriterion
  obtain ⟨effect, heffect, hof⟩ := exists_of_forall₂ (hcomplete hdistinct) hcriterion
  exact ⟨effect, heffect, hof.criterionId⟩

/-- `S06.10` rejects for a failed verification only. -/
theorem verification_failed_of_rejected (hinv : MeasurementInv c) {request : OptimizationRequest}
    (hrequest : c.state.readRequest = .ok request)
    (hdistinct : (request.criteria.map (·.criterionId)).Nodup) {a : Answers}
    {execution : NodeExecution} (hok : handleS0610 a c.state = .ok execution)
    (hroute : execution.route ≠ .continue_) :
    ∃ ref view, c.state.requirePhaseRef ⟨.S04, 90⟩ .verificationReport = .ok ref ∧
      readVerification ref = .ok view ∧ view.passed = false := by
  obtain ⟨request', hrequest', hok⟩ := except_bind_ok hok
  cases hrequest'.symm.trans hrequest
  obtain ⟨verificationRef, hverificationRef, hok⟩ := except_bind_ok hok
  obtain ⟨view, hview, hok⟩ := except_bind_ok hok
  obtain ⟨measurementRef, _, hok⟩ := except_bind_ok hok
  obtain ⟨statisticalRef, hstatisticalRef, hok⟩ := except_bind_ok hok
  obtain ⟨effects, heffects, hok⟩ := except_bind_ok hok
  have hmeasured := measured_of_reads hinv hrequest hdistinct hstatisticalRef heffects
  have hall : (request.criteria.all fun criterion =>
      effects.any (·.criterionId == criterion.criterionId)) = true := by
    simpa using hmeasured
  cases hok
  refine ⟨verificationRef, view, hverificationRef, hview, ?_⟩
  cases hpassed : view.passed with
  | false => rfl
  | true =>
    rw [hpassed, hall] at hroute
    exact absurd rfl hroute

/-- `S06.20` finds a treatment value for every criterion. -/
theorem treatmentValue_isSome (hinv : MeasurementInv c) {request : OptimizationRequest}
    (hrequest : c.state.readRequest = .ok request)
    (hdistinct : (request.criteria.map (·.criterionId)).Nodup) {a : Answers}
    {execution : NodeExecution} (hok : handleS0620 a c.state = .ok execution) :
    ∃ evaluations, execution.updates = [.s06TargetEvaluations evaluations] ∧
      ∀ evaluation ∈ evaluations, evaluation.treatmentValue.isSome := by
  obtain ⟨request', hrequest', hok⟩ := except_bind_ok hok
  cases hrequest'.symm.trans hrequest
  obtain ⟨statisticalRef, hstatisticalRef, hok⟩ := except_bind_ok hok
  obtain ⟨effects, heffects, hok⟩ := except_bind_ok hok
  have hmeasured := measured_of_reads hinv hrequest hdistinct hstatisticalRef heffects
  cases hok
  refine ⟨_, rfl, ?_⟩
  rw [List.forall_mem_map]
  intro criterion hcriterion
  obtain ⟨effect, heffect, hid⟩ := hmeasured criterion hcriterion
  simp only [evaluateTarget, Option.isSome_map, lastWhere, List.find?_isSome, List.mem_reverse]
  exact ⟨effect, heffect, beq_iff_eq.mpr hid⟩

/-- At `S05.80` a request with a criterion has an effect to seal. -/
theorem handleS0580_succeeds (hinv : MeasurementInv c) (hpos : c.position = some ⟨.S05, 80⟩)
    (hnone : c.ledger.cached (deriveIdempotencyKey ⟨.S05, 80⟩ c.state) = none)
    {request : OptimizationRequest} (hrequest : c.state.readRequest = .ok request)
    (hcriteria : request.criteria ≠ []) {phaseId : String}
    (hphase : c.state.activePhaseId = .ok phaseId) (a : Answers) :
    ∃ execution, handleS0580 a c.state = .ok execution := by
  obtain ⟨m, hr, hheld, hbaseline, hproblems⟩ := hinv.trails 80 (by decide) hpos hnone
  cases hrequest.symm.trans hr.request
  rw [handleS0580_of_found hr hheld hbaseline]
  have heffects : m.effects ≠ [] := by
    obtain ⟨criterion, hmem⟩ := List.exists_mem_of_ne_nil _ hcriteria
    obtain ⟨aggregate, before, _, _, _, _, heffect⟩ :=
      m.effectOf_of_noProblem (m.noProblem_of_problems hproblems hmem)
    exact List.ne_nil_of_mem (List.mem_filterMap.mpr ⟨criterion, hmem, heffect⟩)
  have hempty : m.effects.isEmpty = false := by simpa using heffects
  unfold OptimizationState.phaseStage
  rw [hphase, hempty]
  exact ⟨_, rfl⟩

end Step

/-- A pass that `S05.70` lets through is measured completely: its report has the effect of
every criterion in the order of the request, and neither `S06.10` nor `S06.20` meets a
criterion without one. -/
theorem comparable_measurement_complete {c₀ c : Config} {tr : SharedTrace}
    (h0 : BeforeMeasurement c₀) (hrun : Run SharedStep c₀ tr c) {request : OptimizationRequest}
    (hrequest : c.state.readRequest = .ok request)
    (hdistinct : (request.criteria.map (·.criterionId)).Nodup) :
    (∀ ref ∈ c.state.artifactRefs, ref.artifactType = .statisticalReport →
      ∃ (m : MeasuredPass) (phaseId : String) (pass now : Nat) (effects : List EffectResult),
        ref = ⟨.phasePass ⟨.S05, 80⟩ phaseId pass, .statisticalReport now effects⟩ ∧
        m.request = request ∧ m.Recorded pass c ∧ c.state.readBaseline = .ok m.baseline ∧
        request.criteria.Forall₂ m.IsEffect effects) ∧
    (c.position = some ⟨.S05, 80⟩ →
      c.ledger.cached (deriveIdempotencyKey ⟨.S05, 80⟩ c.state) = none →
      request.criteria ≠ [] → ∀ phaseId, c.state.activePhaseId = .ok phaseId →
      ∀ a, ∃ execution, handleS0580 a c.state = .ok execution) ∧
    (∀ a execution, handleS0610 a c.state = .ok execution → execution.route ≠ .continue_ →
      ∃ ref view, c.state.requirePhaseRef ⟨.S04, 90⟩ .verificationReport = .ok ref ∧
        readVerification ref = .ok view ∧ view.passed = false) ∧
    ∀ a execution, handleS0620 a c.state = .ok execution →
      ∃ evaluations, execution.updates = [.s06TargetEvaluations evaluations] ∧
        ∀ evaluation ∈ evaluations, evaluation.treatmentValue.isSome := by
  have hinv : MeasurementInv c := hrun.invariant h0.measurementInv fun _ _ _ hinv hstep =>
    hinv.step (SharedStep.sharedSpec hinv.writes hstep)
  refine ⟨?_, ?_, ?_, ?_⟩
  · intro ref href htype
    obtain ⟨m, phaseId, pass, now, effects, rfl, hrecorded, hbaseline, hcomplete⟩ :=
      hinv.reports ref href htype
    cases hrequest.symm.trans hrecorded.request
    exact ⟨m, phaseId, pass, now, effects, rfl, rfl, hrecorded, hbaseline, hcomplete hdistinct⟩
  · intro hpos hnone hcriteria phaseId hphase a
    exact handleS0580_succeeds hinv hpos hnone hrequest hcriteria hphase a
  · intro a execution hok hroute
    exact verification_failed_of_rejected hinv hrequest hdistinct hok hroute
  · intro a execution hok
    exact treatmentValue_isSome hinv hrequest hdistinct hok

theorem beforeMeasurement_sampleCase (strategies : List SolutionStrategy) :
    BeforeMeasurement (sampleCase strategies) where
  writes := (converged_sampleCase strategies).writesSound
  intents key execution h := by
    rw [sampleCase, Ledger.cached_empty] at h
    cases h
  reports := by simp [sampleCase, sampleRefs, ArtifactRef.artifactType, Artifact.artifactType]
  position n h hstage := by
    cases h
    cases hstage
  routes := filledAt_of_notMem fun _ => AList.notMem_empty _

def promptRiskRequest : OptimizationRequest :=
  ⟨[sampleCriterion "unit-ok" "unit_command_result",
    sampleCriterion "lint-ok" "lint_command_result"], [], [], "workload", 60⟩

theorem promptRiskCase_measurement_complete : ∃ tr c, Run SharedStep promptRiskCase tr c ∧
    c.state.readRequest = .ok promptRiskRequest ∧ ∃ ref ∈ c.state.artifactRefs,
      ∃ (m : MeasuredPass) (phaseId : String) (pass now : Nat) (effects : List EffectResult),
        ref = ⟨.phasePass ⟨.S05, 80⟩ phaseId pass, .statisticalReport now effects⟩ ∧
        m.request = promptRiskRequest ∧ m.Recorded pass c ∧
        promptRiskRequest.criteria.Forall₂ m.IsEffect effects := by
  obtain ⟨tr, c, hrun, hcheck⟩ := exists_sharedRun promptRiskCase
    (List.replicate 47 sampleAnswers)
    (fun out => decide (out.2.state.readRequest.toOption = some promptRiskRequest) &&
      out.2.state.artifactRefs.any (·.artifactType == .statisticalReport)) (by decide +kernel)
  obtain ⟨hread, hany⟩ := Bool.and_eq_true_iff.mp hcheck
  have hrequest := eq_ok_of_toOption (of_decide_eq_true hread)
  obtain ⟨ref, href, htype⟩ := List.any_eq_true.mp hany
  obtain ⟨hreports, _⟩ := comparable_measurement_complete
    (beforeMeasurement_sampleCase _) hrun hrequest (by decide)
  obtain ⟨m, phaseId, pass, now, effects, heq, hm, hrecorded, _, hcomplete⟩ :=
    hreports ref href (beq_iff_eq.mp htype)
  exact ⟨tr, c, hrun, hrequest, ref, href, m, phaseId, pass, now, effects, heq, hm, hrecorded,
    hcomplete⟩

end ProductionOptimizer
