import ProductionOptimizer.FreshTrails

/-!
# The decision table of S06

The outcome is put together by seven nodes. The trail says what each of them has left in
the state when the next one is about to run; the sealed decision is then compared with the
table, which speaks of the request and the two reports only.
-/

namespace ProductionOptimizer
open Runs NumberedLog
set_option autoImplicit false

/-! ### The table -/

/-- The value a guardrail is held against: the last measured effect of its metric, or else
the exit code of the last check of its kind. -/
def guardrailEvidence (effects : List EffectResult) (checks : List CheckResult)
    (guardrail : Guardrail) : Option ℚ :=
  match lastWhere effects (·.metricId == guardrail.metricId) with
  | some effect => some effect.treatmentMean
  | none => (lastWhere checks (·.kind.metricId == guardrail.metricId)).map fun check =>
      (check.exitCode : ℚ)

def GuardrailHolds (effects : List EffectResult) (checks : List CheckResult)
    (guardrail : Guardrail) : Prop :=
  ∃ value, guardrailEvidence effects checks guardrail = some value ∧
    applyOperator value guardrail.operator guardrail.threshold = true

def treatmentValue (effects : List EffectResult) (criterion : Criterion) : Option ℚ :=
  (lastWhere effects (·.criterionId == criterion.criterionId)).map (·.treatmentMean)

def CriterionHolds (effects : List EffectResult) (criterion : Criterion) : Prop :=
  ∃ value, treatmentValue effects criterion = some value ∧ targetMet criterion value = true

/-- What a decision is made from. -/
structure Evidence where
  phaseId : String
  request : OptimizationRequest
  verification : VerificationView
  effects : List EffectResult

namespace Evidence
variable (e : Evidence)

def GuardrailsHold : Prop :=
  ∀ guardrail ∈ e.request.guardrails, GuardrailHolds e.effects e.verification.checkResults guardrail

def AllMet : Prop := ∀ criterion ∈ e.request.criteria, CriterionHolds e.effects criterion

def SomeMet : Prop := ∃ criterion ∈ e.request.criteria, CriterionHolds e.effects criterion

def targets : List TargetEvaluation :=
  e.request.criteria.map fun criterion =>
    evaluateTarget criterion (lastWhere e.effects (·.criterionId == criterion.criterionId))

def guardrails : List GuardrailEvaluation :=
  e.request.guardrails.map fun guardrail =>
    evaluateGuardrail guardrail e.effects e.verification.checkResults

def attribution : PhaseAttribution := ⟨e.phaseId, classifyPhase e.targets⟩

def proposed : Outcome := decideOutcome e.guardrails (some e.attribution)

end Evidence

theorem evaluateTarget_met (effects : List EffectResult) (criterion : Criterion) :
    (evaluateTarget criterion
      (lastWhere effects (·.criterionId == criterion.criterionId))).met = true ↔
      CriterionHolds effects criterion := by
  unfold evaluateTarget CriterionHolds treatmentValue
  cases lastWhere effects (·.criterionId == criterion.criterionId) with
  | none => simp
  | some effect => simp

theorem evaluateGuardrail_passed (effects : List EffectResult) (checks : List CheckResult)
    (guardrail : Guardrail) :
    (evaluateGuardrail guardrail effects checks).passed = true ↔
      GuardrailHolds effects checks guardrail := by
  unfold evaluateGuardrail GuardrailHolds guardrailEvidence
  cases lastWhere effects (·.metricId == guardrail.metricId) with
  | some effect => simp
  | none =>
    cases lastWhere checks (·.kind.metricId == guardrail.metricId) with
    | some check => simp
    | none => simp

section Table
variable {e : Evidence}

theorem guardrails_passed_iff : e.guardrails.all (·.passed) = true ↔ e.GuardrailsHold := by
  rw [Evidence.guardrails, List.all_map, List.all_eq_true]
  exact forall₂_congr fun guardrail _ => evaluateGuardrail_passed ..

theorem targets_all_met_iff : (∀ t ∈ e.targets, t.met = true) ↔ e.AllMet := by
  rw [Evidence.targets, List.forall_mem_map]
  exact forall₂_congr fun criterion _ => evaluateTarget_met ..

theorem targets_some_met_iff : (∃ t ∈ e.targets, t.met = true) ↔ e.SomeMet := by
  rw [Evidence.targets]
  simp only [List.mem_map, exists_exists_and_eq_and, Evidence.SomeMet, evaluateTarget_met]

theorem classifyPhase_cases {evaluations : List TargetEvaluation} (hne : evaluations ≠ []) :
    (classifyPhase evaluations = .allTargetsMet ↔ ∀ t ∈ evaluations, t.met = true) ∧
      (classifyPhase evaluations = .repairable ↔
        (∃ t ∈ evaluations, t.met = true) ∧ ¬ ∀ t ∈ evaluations, t.met = true) := by
  have hlength : evaluations.length ≠ 0 := fun h => hne (List.length_eq_zero_iff.mp h)
  have hall : (evaluations.filter (·.met)).length = evaluations.length ↔
      ∀ t ∈ evaluations, t.met = true := List.length_filter_eq_length_iff
  have hsome : (evaluations.filter (·.met)).length = 0 ↔ ¬ ∃ t ∈ evaluations, t.met = true := by
    rw [List.length_eq_zero_iff, List.filter_eq_nil_iff]
    push Not
    rfl
  unfold classifyPhase
  simp only [if_neg hlength]
  rw [← hall]
  by_cases hmet : (evaluations.filter (·.met)).length = evaluations.length
  · simp [hmet]
  · by_cases hzero : (evaluations.filter (·.met)).length = 0
    · have hnone := hsome.mp hzero
      simp [hzero, hnone, Ne.symm hlength]
    · have hex := not_not.mp (mt hsome.mpr hzero)
      simp [hmet, hzero, hex]

theorem proposed_keep (hne : e.targets ≠ []) :
    e.proposed = .keep ↔ e.GuardrailsHold ∧ e.AllMet := by
  rw [← guardrails_passed_iff, ← targets_all_met_iff, ← (classifyPhase_cases hne).1]
  unfold Evidence.proposed decideOutcome Evidence.attribution
  cases e.guardrails.all (·.passed) <;> cases classifyPhase e.targets <;> simp

theorem proposed_fixOnePart (hne : e.targets ≠ []) :
    e.proposed = .fixOnePart ↔ e.GuardrailsHold ∧ e.SomeMet ∧ ¬ e.AllMet := by
  rw [← guardrails_passed_iff, ← targets_all_met_iff, ← targets_some_met_iff,
    ← (classifyPhase_cases hne).2]
  unfold Evidence.proposed decideOutcome Evidence.attribution
  cases e.guardrails.all (·.passed) <;> cases classifyPhase e.targets <;> simp

theorem proposed_ne_escalate : e.proposed ≠ .escalate := by
  unfold Evidence.proposed decideOutcome Evidence.attribution
  cases e.guardrails.all (·.passed) <;> cases classifyPhase e.targets <;> simp

end Table

/-! ### The trail of a decision -/

namespace Evidence

/-- The outcome once `S06.60` has looked at the original tree. -/
def outcome (e : Evidence) (untouched : Bool) : Outcome :=
  if e.proposed = .revert ∧ !untouched then .escalate else e.proposed

structure TargetsFound (e : Evidence) (s : OptimizationState) : Prop where
  request : s.readRequest = .ok e.request
  statistical : ∃ ref, s.requirePhaseRef ⟨.S05, 80⟩ .statisticalReport = .ok ref ∧
    readStatistical ref = .ok e.effects
  targets : s.s06TargetEvaluations = e.targets

structure GuardrailsFound (e : Evidence) (s : OptimizationState) : Prop extends
    TargetsFound e s where
  verification : ∃ ref, s.requirePhaseRef ⟨.S04, 90⟩ .verificationReport = .ok ref ∧
    readVerification ref = .ok e.verification
  guardrails : s.s06GuardrailEvaluations = e.guardrails

structure AttributionFound (e : Evidence) (s : OptimizationState) : Prop extends
    GuardrailsFound e s where
  phase : s.activePhaseId = .ok e.phaseId
  attribution : s.s06Attribution = some e.attribution

/-- The rollback report of the pass, which is sealed for a proposed revert only. -/
def RollbackSealed (e : Evidence) (untouched : Bool) (s : OptimizationState) : Prop :=
  e.proposed = .revert → ∃ now patch, s.requirePhaseRef ⟨.S06, 60⟩ .rollbackReport =
    .ok ⟨.phasePass ⟨.S06, 60⟩ e.phaseId s.s03RevisionAttempts,
      .rollbackReport now e.phaseId patch untouched⟩

/-- What `S06.<number>` finds in the state. -/
def Found (number : Nat) (s : OptimizationState) : Prop :=
  match number with
  | 30 => ∃ e, TargetsFound e s
  | 40 => ∃ e, GuardrailsFound e s
  | 50 => ∃ e, AttributionFound e s
  | 60 => ∃ e, AttributionFound e s ∧ s.s06Decision = some e.proposed
  | 70 => ∃ e untouched, AttributionFound e s ∧ s.s06Decision = some e.proposed ∧
      s.s06Rollback.any (·.verified) = untouched ∧ RollbackSealed e untouched s
  | 80 => ∃ e untouched, AttributionFound e s ∧ s.s06Decision = some (e.outcome untouched) ∧
      RollbackSealed e untouched s
  | _ => True

end Evidence

namespace Evidence
variable {n : NodeId} {execution : NodeExecution} {s s' : OptimizationState} {e : Evidence}

theorem TargetsFound.kept (hf : e.TargetsFound s) (h : SameScope n execution s s')
    (htargets : s'.s06TargetEvaluations = s.s06TargetEvaluations) : e.TargetsFound s' where
  request := h.committed.readRequest_of_ok hf.request
  statistical := hf.statistical.imp fun _ hr => ⟨h.requirePhaseRef hr.1, hr.2⟩
  targets := htargets.trans hf.targets

theorem GuardrailsFound.kept (hf : e.GuardrailsFound s) (h : SameScope n execution s s')
    (htargets : s'.s06TargetEvaluations = s.s06TargetEvaluations)
    (hguardrails : s'.s06GuardrailEvaluations = s.s06GuardrailEvaluations) :
    e.GuardrailsFound s' where
  toTargetsFound := hf.toTargetsFound.kept h htargets
  verification := hf.verification.imp fun _ hr => ⟨h.requirePhaseRef hr.1, hr.2⟩
  guardrails := hguardrails.trans hf.guardrails

theorem AttributionFound.kept (hf : e.AttributionFound s) (h : SameScope n execution s s')
    (htargets : s'.s06TargetEvaluations = s.s06TargetEvaluations)
    (hguardrails : s'.s06GuardrailEvaluations = s.s06GuardrailEvaluations)
    (hattribution : s'.s06Attribution = s.s06Attribution) : e.AttributionFound s' where
  toGuardrailsFound := hf.toGuardrailsFound.kept h htargets hguardrails
  phase := h.activePhaseId.trans hf.phase
  attribution := hattribution.trans hf.attribution

theorem RollbackSealed.kept {untouched : Bool} (hf : e.RollbackSealed untouched s)
    (h : SameScope n execution s s') : e.RollbackSealed untouched s' := by
  intro hrevert
  obtain ⟨now, patch, href⟩ := hf hrevert
  refine ⟨now, patch, ?_⟩
  rw [h.pass]
  exact h.requirePhaseRef href

end Evidence

section Carry
variable {a : Answers} {s s' : OptimizationState} {execution : NodeExecution}

theorem sameScope_of_handler {number : Nat} (hnumber : number ∈ [20, 30, 40, 50, 60, 70])
    (hok : nodeHandler ⟨.S06, number⟩ a s = .ok execution)
    (h : Committed ⟨.S06, number⟩ execution s s') :
    SameScope ⟨.S06, number⟩ execution s s' ∧
      ∀ f, f ∉ s06Fields number → s'.get f = s.get f := by
  have hwrites := nodeHandler_writes _ _ _ _ hok
  have hkept : ∀ f, f ∉ s06Fields number → s'.get f = s.get f :=
    fun f hf => h.get_of_writesOnly hwrites hf
  simp only [List.mem_cons, List.not_mem_nil, or_false] at hnumber
  have hscope : .s03ActivePhaseId ∉ s06Fields number ∧ .s03RevisionAttempts ∉ s06Fields number := by
    rcases hnumber with rfl | rfl | rfl | rfl | rfl | rfl <;> decide
  exact ⟨⟨h, hkept _ hscope.1, hkept _ hscope.2⟩, hkept⟩

theorem found_30 (hok : handleS0620 a s = .ok execution)
    (h : SameScope ⟨.S06, 20⟩ execution s s') : Evidence.Found 30 s' := by
  obtain ⟨request, hrequest, hok⟩ := except_bind_ok hok
  obtain ⟨ref, href, hok⟩ := except_bind_ok hok
  obtain ⟨effects, heffects, hok⟩ := except_bind_ok hok
  cases hok
  exact ⟨⟨"", request, ⟨[], false⟩, effects⟩, h.committed.readRequest_of_ok hrequest,
    ⟨ref, h.requirePhaseRef href, heffects⟩, h.committed.get .s06TargetEvaluations⟩

theorem found_40 (hok : handleS0630 a s = .ok execution)
    (h : SameScope ⟨.S06, 30⟩ execution s s')
    (htargets : s'.s06TargetEvaluations = s.s06TargetEvaluations)
    (hf : Evidence.Found 30 s) : Evidence.Found 40 s' := by
  obtain ⟨e, hf⟩ := hf
  obtain ⟨request, hrequest, hok⟩ := except_bind_ok hok
  obtain ⟨verificationRef, hverificationRef, hok⟩ := except_bind_ok hok
  obtain ⟨verification, hverification, hok⟩ := except_bind_ok hok
  obtain ⟨statisticalRef, hstatisticalRef, hok⟩ := except_bind_ok hok
  obtain ⟨effects, heffects, hok⟩ := except_bind_ok hok
  obtain ⟨ref, href, hread⟩ := hf.statistical
  cases hrequest.symm.trans hf.request
  cases hstatisticalRef.symm.trans href
  cases heffects.symm.trans hread
  cases hok
  have hkept := hf.kept h htargets
  exact ⟨{ e with verification := verification },
    { request := hkept.request
      statistical := hkept.statistical
      targets := hkept.targets
      verification := ⟨verificationRef, h.requirePhaseRef hverificationRef, hverification⟩
      guardrails := h.committed.get .s06GuardrailEvaluations }⟩

theorem found_50 (hok : handleS0640 a s = .ok execution)
    (h : SameScope ⟨.S06, 40⟩ execution s s')
    (htargets : s'.s06TargetEvaluations = s.s06TargetEvaluations)
    (hguardrails : s'.s06GuardrailEvaluations = s.s06GuardrailEvaluations)
    (hf : Evidence.Found 40 s) : Evidence.Found 50 s' := by
  obtain ⟨e, hf⟩ := hf
  obtain ⟨phaseId, hphase, hok⟩ := except_bind_ok hok
  cases hok
  have hkept := hf.kept h htargets hguardrails
  have hattribution : s'.s06Attribution =
      some ⟨phaseId, classifyPhase s.s06TargetEvaluations⟩ := h.committed.get .s06Attribution
  rw [hf.targets] at hattribution
  exact ⟨{ e with phaseId := phaseId },
    { request := hkept.request
      statistical := hkept.statistical
      targets := hkept.targets
      verification := hkept.verification
      guardrails := hkept.guardrails
      phase := h.activePhaseId.trans hphase
      attribution := hattribution }⟩

theorem found_60 (hok : handleS0650 a s = .ok execution)
    (h : SameScope ⟨.S06, 50⟩ execution s s')
    (hkept : ∀ f, f ∉ s06Fields 50 → s'.get f = s.get f)
    (hf : Evidence.Found 50 s) : Evidence.Found 60 s' := by
  obtain ⟨e, hf⟩ := hf
  cases hok
  refine ⟨e, hf.kept h (hkept .s06TargetEvaluations (by decide))
    (hkept .s06GuardrailEvaluations (by decide)) (hkept .s06Attribution (by decide)), ?_⟩
  have hdecision : s'.s06Decision =
      some (decideOutcome s.s06GuardrailEvaluations s.s06Attribution) :=
    h.committed.get .s06Decision
  rw [hf.guardrails, hf.attribution] at hdecision
  exact hdecision

theorem found_70 (hok : handleS0660 a s = .ok execution)
    (h : SameScope ⟨.S06, 60⟩ execution s s')
    (hkept : ∀ f, f ∉ s06Fields 60 → s'.get f = s.get f)
    (hf : Evidence.Found 60 s) : Evidence.Found 70 s' := by
  obtain ⟨e, hf, hproposed⟩ := hf
  have hf' := hf.kept h (hkept .s06TargetEvaluations (by decide))
    (hkept .s06GuardrailEvaluations (by decide)) (hkept .s06Attribution (by decide))
  have hdecision : s'.s06Decision = some e.proposed :=
    (hkept .s06Decision (by decide)).trans hproposed
  have hrollback : s'.s06Rollback = (s.setAll execution.updates).s06Rollback :=
    h.committed.get .s06Rollback
  unfold handleS0660 at hok
  split at hok
  · rename_i hne
    cases hok
    refine ⟨e, true, hf', hdecision, ?_, fun hrevert => absurd (hrevert ▸ hproposed) hne⟩
    rw [hrollback]
    rfl
  · obtain ⟨snapshot, _, hok⟩ := except_bind_ok hok
    obtain ⟨patchRef, _, hok⟩ := except_bind_ok hok
    obtain ⟨phaseId, hphase, hok⟩ := except_bind_ok hok
    obtain ⟨stageId, hstage, hok⟩ := except_bind_ok hok
    cases hok
    cases OptimizationState.phaseStage_eq hphase hstage
    cases hphase.symm.trans hf.phase
    refine ⟨e, !snapshot.gitRevision.any (· != "") || a.statusIsClean, hf', hdecision, ?_, ?_⟩
    · rw [hrollback]
      rfl
    · intro _
      refine ⟨a.now, patchRef.contentDigest, ?_⟩
      have hsealed := h.committed.requireStageRef_sealed List.mem_cons_self
      unfold OptimizationState.requirePhaseRef OptimizationState.phaseStage
      rw [h.activePhaseId, hf.phase, h.pass]
      exact hsealed

theorem found_80 (hok : handleS0670 a s = .ok execution)
    (h : SameScope ⟨.S06, 70⟩ execution s s')
    (hkept : ∀ f, f ∉ s06Fields 70 → s'.get f = s.get f)
    (hf : Evidence.Found 70 s) : Evidence.Found 80 s' := by
  obtain ⟨e, untouched, hf, hproposed, hverified, hsealed⟩ := hf
  refine ⟨e, untouched, hf.kept h (hkept .s06TargetEvaluations (by decide))
    (hkept .s06GuardrailEvaluations (by decide)) (hkept .s06Attribution (by decide)), ?_,
    hsealed.kept h⟩
  have hdecision : s'.s06Decision = (s.setAll execution.updates).s06Decision :=
    h.committed.get .s06Decision
  unfold handleS0670 at hok
  rw [hproposed, hverified] at hok
  cases hok
  exact hdecision

/-- One fresh execution of `S06.20` to `S06.70` carries the trail on. -/
theorem found_step {number : Nat} (hnumber : number ∈ [20, 30, 40, 50, 60, 70])
    (hok : nodeHandler ⟨.S06, number⟩ a s = .ok execution)
    (h : Committed ⟨.S06, number⟩ execution s s') (hf : Evidence.Found number s) :
    Evidence.Found (number + 10) s' := by
  obtain ⟨hscope, hkept⟩ := sameScope_of_handler hnumber hok h
  simp only [List.mem_cons, List.not_mem_nil, or_false] at hnumber
  rcases hnumber with rfl | rfl | rfl | rfl | rfl | rfl
  · exact found_30 (a := a) hok hscope
  · exact found_40 (a := a) hok hscope (hkept .s06TargetEvaluations (by decide)) hf
  · exact found_50 (a := a) hok hscope (hkept .s06TargetEvaluations (by decide))
      (hkept .s06GuardrailEvaluations (by decide)) hf
  · exact found_60 (a := a) hok hscope hkept hf
  · exact found_70 (a := a) hok hscope hkept hf
  · exact found_80 (a := a) hok hscope hkept hf

end Carry

/-! ### Sealed decisions -/

/-- The evidence is the request and the two reports sealed for its phase in one pass. -/
structure Evidence.Of (e : Evidence) (pass : Nat) (verificationDigest : Artifact)
    (s : OptimizationState) : Prop where
  request : s.readRequest = .ok e.request
  verification : ∃ ref, s.requireStageRef (.phasePass ⟨.S04, 90⟩ e.phaseId pass)
    .verificationReport = .ok ref ∧ readVerification ref = .ok e.verification ∧
    ref.contentDigest = verificationDigest
  statistical : ∃ ref, s.requireStageRef (.phasePass ⟨.S05, 80⟩ e.phaseId pass)
    .statisticalReport = .ok ref ∧ readStatistical ref = .ok e.effects

/-- The decision table, with the evaluations and the rollback digest of a decision. -/
structure FollowsTable (e : Evidence) (pass : Nat) (refs : List ArtifactRef)
    (targets : List TargetEvaluation) (guardrails : List GuardrailEvaluation)
    (outcome : Outcome) (rollback : Artifact) : Prop where
  keep : outcome = .keep ↔ e.GuardrailsHold ∧ e.AllMet
  fixOnePart : outcome = .fixOnePart ↔ e.GuardrailsHold ∧ e.SomeMet ∧ ¬ e.AllMet
  otherwise : ¬ (e.GuardrailsHold ∧ e.AllMet) → ¬ (e.GuardrailsHold ∧ e.SomeMet ∧ ¬ e.AllMet) →
    ∃ now patch untouched,
      ⟨.phasePass ⟨.S06, 60⟩ e.phaseId pass, .rollbackReport now e.phaseId patch untouched⟩ ∈ refs ∧
      outcome = if untouched then .revert else .escalate
  targets : e.request.criteria.Forall₂ (fun criterion t => t.criterionId = criterion.criterionId ∧
    t.treatmentValue = treatmentValue e.effects criterion ∧
    (t.met = true ↔ CriterionHolds e.effects criterion)) targets
  guardrails : e.request.guardrails.Forall₂ (fun guardrail g =>
    g.guardrailId = guardrail.guardrailId ∧
    g.observedValue = guardrailEvidence e.effects e.verification.checkResults guardrail ∧
    (g.passed = true ↔ GuardrailHolds e.effects e.verification.checkResults guardrail)) guardrails
  rollback : rollback ≠ .absent ↔ outcome = .revert

/-- A ref holds a decision that was made from its phase's reports by the table. -/
def FromTable (s : OptimizationState) (ref : ArtifactRef) : Prop :=
  ∃ e pass now measurement verification targets guardrails outcome rollback,
    ref = ⟨.phasePass ⟨.S06, 80⟩ e.phaseId pass, .decision now e.phaseId measurement verification
      targets guardrails e.attribution outcome rollback⟩ ∧
    e.Of pass verification s ∧
    FollowsTable e pass s.artifactRefs targets guardrails outcome rollback

section Sealed
variable {e : Evidence} {s s' : OptimizationState}

theorem FromTable.kept {n : NodeId} {execution : NodeExecution} {ref : ArtifactRef}
    (hf : FromTable s ref) (h : Committed n execution s s') : FromTable s' ref := by
  obtain ⟨e, pass, now, measurement, verification, targets, guardrails, outcome, rollback, rfl,
    hof, htable⟩ := hf
  refine ⟨e, pass, now, measurement, verification, targets, guardrails, outcome, rollback, rfl,
    ?_, ?_⟩
  · constructor
    · exact h.readRequest_of_ok hof.request
    · exact hof.verification.imp fun _ hr => ⟨h.requireStageRef_of_ok hr.1, hr.2⟩
    · exact hof.statistical.imp fun _ hr => ⟨h.requireStageRef_of_ok hr.1, hr.2⟩
  · refine { htable with otherwise := fun hkeep hfix => ?_ }
    obtain ⟨now, patch, untouched, hmem, houtcome⟩ := htable.otherwise hkeep hfix
    exact ⟨now, patch, untouched, h.artifactRefs_mono hmem, houtcome⟩

theorem forall₂_targets : e.request.criteria.Forall₂ (fun criterion t =>
    t.criterionId = criterion.criterionId ∧
    t.treatmentValue = treatmentValue e.effects criterion ∧
    (t.met = true ↔ CriterionHolds e.effects criterion)) e.targets := by
  rw [Evidence.targets, List.forall₂_map_right_iff, List.forall₂_same]
  exact fun criterion _ => ⟨rfl, rfl, evaluateTarget_met ..⟩

theorem evaluateGuardrail_observed (effects : List EffectResult) (checks : List CheckResult)
    (guardrail : Guardrail) :
    (evaluateGuardrail guardrail effects checks).guardrailId = guardrail.guardrailId ∧
      (evaluateGuardrail guardrail effects checks).observedValue =
        guardrailEvidence effects checks guardrail := by
  unfold evaluateGuardrail guardrailEvidence
  cases lastWhere effects (·.metricId == guardrail.metricId) with
  | some effect => exact ⟨rfl, rfl⟩
  | none => cases lastWhere checks (·.kind.metricId == guardrail.metricId) <;> exact ⟨rfl, rfl⟩

theorem forall₂_guardrails : e.request.guardrails.Forall₂ (fun guardrail g =>
    g.guardrailId = guardrail.guardrailId ∧
    g.observedValue = guardrailEvidence e.effects e.verification.checkResults guardrail ∧
    (g.passed = true ↔ GuardrailHolds e.effects e.verification.checkResults guardrail))
    e.guardrails := by
  rw [Evidence.guardrails, List.forall₂_map_right_iff, List.forall₂_same]
  intro guardrail _
  obtain ⟨hid, hobserved⟩ := evaluateGuardrail_observed e.effects e.verification.checkResults
    guardrail
  exact ⟨hid, hobserved, evaluateGuardrail_passed ..⟩

theorem outcome_eq_of_ne_revert {untouched : Bool} {outcome : Outcome} (h1 : outcome ≠ .revert)
    (h2 : outcome ≠ .escalate) : e.outcome untouched = outcome ↔ e.proposed = outcome := by
  unfold Evidence.outcome
  split
  · rename_i hrevert
    rw [hrevert.1]
    exact ⟨fun h => absurd h.symm h2, fun h => absurd h.symm h1⟩
  · exact Iff.rfl

theorem rollbackDigest_present {outcome : Outcome} {rollback : Artifact}
    (h : rollbackDigest s outcome = .ok rollback) : rollback ≠ .absent ↔ outcome = .revert := by
  unfold rollbackDigest at h
  split at h
  · rename_i hrevert
    obtain ⟨ref, href, h⟩ := except_bind_ok h
    cases h
    obtain ⟨id, _, href⟩ := except_bind_ok href
    obtain ⟨_, htype, _⟩ := OptimizationState.requireStageRef_ok href
    refine ⟨fun _ => hrevert, fun _ habsent => ?_⟩
    rw [ArtifactRef.artifactType, habsent] at htype
    cases htype
  · rename_i hne
    cases h
    exact ⟨fun h => absurd rfl h, fun h => absurd h hne⟩

/-- The table holds of what `S06.80` seals from a complete trail. -/
theorem followsTable_of_found {untouched : Bool} {rollback : Artifact}
    (hsealed : e.RollbackSealed untouched s) (hne : e.targets ≠ [])
    (hrollback : rollbackDigest s (e.outcome untouched) = .ok rollback) :
    FollowsTable e s.s03RevisionAttempts s.artifactRefs e.targets e.guardrails
      (e.outcome untouched) rollback where
  keep := (outcome_eq_of_ne_revert (by decide) (by decide)).trans (proposed_keep hne)
  fixOnePart := (outcome_eq_of_ne_revert (by decide) (by decide)).trans (proposed_fixOnePart hne)
  otherwise hkeep hfix := by
    rw [← proposed_keep hne] at hkeep
    rw [← proposed_fixOnePart hne] at hfix
    have hrevert : e.proposed = .revert := by
      have hescalate := proposed_ne_escalate (e := e)
      cases hproposed : e.proposed with
      | keep => exact absurd hproposed hkeep
      | fixOnePart => exact absurd hproposed hfix
      | revert => rfl
      | escalate => exact absurd hproposed hescalate
    obtain ⟨now, patch, href⟩ := hsealed hrevert
    obtain ⟨id, _, href⟩ := except_bind_ok href
    refine ⟨now, patch, untouched, (OptimizationState.requireStageRef_ok href).1, ?_⟩
    rw [Evidence.outcome, hrevert]
    cases untouched <;> rfl
  targets := forall₂_targets
  guardrails := forall₂_guardrails
  rollback := rollbackDigest_present hrollback

theorem requireStageRef_of_phase {phaseId : String} {node : NodeId} {t : ArtifactType}
    {ref : ArtifactRef} (hphase : s.activePhaseId = .ok phaseId)
    (h : s.requirePhaseRef node t = .ok ref) :
    s.requireStageRef (.phasePass node phaseId s.s03RevisionAttempts) t = .ok ref := by
  unfold OptimizationState.requirePhaseRef OptimizationState.phaseStage at h
  rw [hphase] at h
  exact h

theorem fromTable_of_handler {a : Answers} {execution : NodeExecution}
    (hok : handleS0680 a s = .ok execution) (hf : Evidence.Found 80 s) :
    ∀ ref ∈ execution.artifactRefs, FromTable s ref := by
  obtain ⟨e, untouched, hf, hdecision, hsealed⟩ := hf
  obtain ⟨phaseId, hphase, hok⟩ := except_bind_ok hok
  obtain ⟨verificationRef, hverificationRef, hok⟩ := except_bind_ok hok
  obtain ⟨measurementRef, _, hok⟩ := except_bind_ok hok
  cases hphase.symm.trans hf.phase
  rw [hf.attribution, hf.targets, hf.guardrails, hdecision] at hok
  obtain ⟨rollback, hrollback, hok⟩ := except_bind_ok hok
  split at hok
  · cases hok
  · rename_i hne
    obtain ⟨stageId, hstage, hok⟩ := except_bind_ok hok
    obtain ⟨updates, _, hok⟩ := except_bind_ok hok
    cases OptimizationState.phaseStage_eq hphase hstage
    cases hok
    intro ref href
    cases List.mem_singleton.mp href
    obtain ⟨ref, href, hread⟩ := hf.verification
    cases hverificationRef.symm.trans href
    refine ⟨e, s.s03RevisionAttempts, _, _, _, _, _, _, _, rfl, ⟨hf.request, ?_, ?_⟩,
      followsTable_of_found hsealed (fun hnil => hne (by rw [hnil]; rfl)) hrollback⟩
    · exact ⟨verificationRef, requireStageRef_of_phase hphase hverificationRef, hread, rfl⟩
    · obtain ⟨ref, href, hread⟩ := hf.statistical
      exact ⟨ref, requireStageRef_of_phase hphase href, hread⟩

end Sealed

/-! ### Runs -/

/-- No pass of S06 has begun: there is no intent of its nodes, no decision is sealed, and
the run is not inside the stage. The channels of S06 may hold anything. -/
structure BeforeDecision (c : Config) : Prop where
  writes : WritesSound c.ledger
  intents : ∀ key execution, c.ledger.cached key = some execution → key.node.stage ≠ .S06
  decisions : ∀ ref ∈ c.state.artifactRefs, ref.artifactType ≠ .decision
  position : ∀ n, c.position = some n → n.stage = .S06 → n = firstNode .S06

structure DecisionInv (c : Config) : Prop where
  writes : WritesSound c.ledger
  handed : ∀ number ∈ [20, 30, 40, 50, 60, 70],
    Handed (fun _ => True) ⟨.S06, number⟩ ⟨.S06, number + 10⟩ c
  trails : ∀ number ∈ [20, 30, 40, 50, 60, 70, 80],
    Trail ⟨.S06, number⟩ (fun c => Evidence.Found number c.state) c
  recorded : RefsKept ⟨.S06, 80⟩ c
  decisions : ∀ ref ∈ c.state.artifactRefs, ref.artifactType = .decision → FromTable c.state ref

theorem BeforeDecision.decisionInv {c : Config} (h : BeforeDecision c) : DecisionInv c where
  writes := h.writes
  handed number _ := handed_of_uncached fun key execution hcached hnode =>
    h.intents key execution hcached (by rw [hnode])
  trails number hnumber := by
    refine trail_of_position fun hpos => ?_
    have hfirst := congrArg NodeId.number (h.position _ hpos rfl)
    simp only [firstNode] at hfirst
    subst hfirst
    revert hnumber
    decide
  recorded := .of_uncached fun key execution hcached hnode =>
    h.intents key execution hcached (by rw [hnode])
  decisions ref href htype := absurd htype (h.decisions ref href)

theorem s06_link {number : Nat} (h : number ∈ [20, 30, 40, 50, 60, 70]) :
    Link ⟨.S06, number⟩ ⟨.S06, number + 10⟩ := by
  simp only [List.mem_cons, List.not_mem_nil, or_false] at h
  refine link_of_consecutive ?_ (by decide) ?_
  · omega
  · rcases h with rfl | rfl | rfl | rfl | rfl | rfl <;> decide

theorem s06_next {number : Nat} (h : number ∈ [20, 30, 40, 50, 60, 70]) (s : OptimizationState) :
    nextPosition ⟨.S06, number⟩ s = some ⟨.S06, number + 10⟩ := by
  simp only [List.mem_cons, List.not_mem_nil, or_false] at h
  rcases h with rfl | rfl | rfl | rfl | rfl | rfl <;> rfl

theorem decision_writers : ∀ n ∈ catalog, .decision ∈ nodeTypes n → n = ⟨.S06, 80⟩ := by
  decide +kernel

theorem DecisionInv.step {c c' : Config} {visit : Visit} (hinv : DecisionInv c)
    (h : SharedSpec c visit c') : DecisionInv c' where
  writes := h.writesSound hinv.writes
  handed number hnumber := (hinv.handed number hnumber).step (s06_link hnumber) h fun hnode _ => by
    rw [h.next, hnode, s06_next hnumber]
  trails number hnumber := by
    rcases List.mem_cons.mp hnumber with rfl | hnumber
    · exact fun _ _ => trivial
    · -- every later node has its predecessor in the chain
      obtain ⟨before, hbefore, rfl⟩ : ∃ before ∈ [20, 30, 40, 50, 60, 70], number = before + 10 := by
        simp only [List.mem_cons, List.not_mem_nil, or_false] at hnumber
        rcases hnumber with rfl | rfl | rfl | rfl | rfl | rfl
        · exact ⟨20, by decide, rfl⟩
        · exact ⟨30, by decide, rfl⟩
        · exact ⟨40, by decide, rfl⟩
        · exact ⟨50, by decide, rfl⟩
        · exact ⟨60, by decide, rfl⟩
        · exact ⟨70, by decide, rfl⟩
      have hmem : before ∈ [20, 30, 40, 50, 60, 70, 80] := List.mem_append_left [80] hbefore
      exact (hinv.trails before hmem).step (s06_link hbefore) (hinv.handed before hbefore) h
        (fun _ _ => trivial) fun a hnode hok _ hf =>
          found_step hbefore hok (hnode ▸ h.committed) hf
  recorded := hinv.recorded.step h
  decisions ref href htype := by
    rcases hinv.recorded.sealed_cases h (htype ▸ decision_writers) href with
      hold | ⟨hnode, hflag, hnew⟩
    · exact (hinv.decisions ref hold htype).kept h.committed
    · obtain ⟨hcached, a, hok⟩ := h.fresh hflag
      rw [h.key, hnode] at hcached
      rw [hnode] at hok
      have hf := hinv.trails 80 (by decide) (hnode ▸ h.position) hcached
      exact (fromTable_of_handler (a := a) hok hf ref hnew).kept h.committed

/-- Every decision of a run is the decision of the table on the request and the reports of
its phase and pass, whatever earlier passes have left in the state. -/
theorem sealed_decision_follows_table {c₀ c : Config} {tr : SharedTrace} (h0 : BeforeDecision c₀)
    (hrun : Run SharedStep c₀ tr c) {ref : ArtifactRef} (href : ref ∈ c.state.artifactRefs)
    (htype : ref.artifactType = .decision) : FromTable c.state ref :=
  (hrun.invariant h0.decisionInv fun _ _ _ hinv hstep =>
    hinv.step (SharedStep.sharedSpec hinv.writes hstep)).decisions ref href htype

/-- A case whose guardrail and criterion share a metric, measured twice: the check of S04
exits with 0, the remeasurement of S05 with 1. -/
def guardedRequest : OptimizationRequest :=
  ⟨[⟨"unit-ok", "unit_command_result", .minimize, 5, 1⟩],
   [⟨"unit-clean", "unit_command_result", .eq, 0⟩], [], "workload", 60⟩

def guardedCase : Config :=
  ⟨some (firstNode .S01),
   { caseId := "case", threadId := "thread", tenantId := "tenant",
     artifactRefs := ⟨.base, .optimizationRequest guardedRequest⟩ ::
       (sampleRefs [sampleStrategy "s1" .prompt]).tail }, ∅⟩

def remeasuredFailing : Answers := { sampleAnswers with remeasured := fun _ => some (1, 1) }

theorem beforeDecision_guardedCase : BeforeDecision guardedCase where
  writes key execution h := by
    rw [guardedCase, Ledger.cached_empty] at h
    cases h
  intents key execution h := by
    rw [guardedCase, Ledger.cached_empty] at h
    cases h
  decisions := by decide +kernel
  position n h hstage := by
    cases h
    cases hstage

theorem guardedCase_decision_follows_table : ∃ tr c, Run SharedStep guardedCase tr c ∧
    ∃ ref ∈ c.state.artifactRefs, ref.artifactType = .decision ∧ FromTable c.state ref := by
  obtain ⟨tr, c, hrun, hcheck⟩ := exists_sharedRun guardedCase
    (List.replicate 54 remeasuredFailing)
    (fun out => out.2.state.artifactRefs.any (·.artifactType == .decision)) (by decide +kernel)
  obtain ⟨ref, href, htype⟩ := List.any_eq_true.mp hcheck
  exact ⟨tr, c, hrun, ref, href, beq_iff_eq.mp htype,
    sealed_decision_follows_table beforeDecision_guardedCase hrun href (beq_iff_eq.mp htype)⟩

/-- Some effect of the metric or some check of the kind satisfies the guardrail. -/
def SomeEvidenceHolds (effects : List EffectResult) (checks : List CheckResult)
    (guardrail : Guardrail) : Prop :=
  (∃ effect ∈ effects, effect.metricId = guardrail.metricId ∧
    applyOperator effect.treatmentMean guardrail.operator guardrail.threshold = true) ∨
  ∃ check ∈ checks, check.kind.metricId = guardrail.metricId ∧
    applyOperator check.exitCode guardrail.operator guardrail.threshold = true

def sealedOutcome (s : OptimizationState) (phaseId : String) (pass : Nat) : Option Outcome :=
  (s.tryStageRef (.phasePass ⟨.S06, 80⟩ phaseId pass) .decision).bind fun ref =>
    match ref.contentDigest with
    | .decision _ _ _ _ _ _ _ outcome _ => some outcome
    | _ => none

def guardedEvidence : Evidence where
  phaseId := "p1"
  request := guardedRequest
  verification := ⟨[⟨"lint", .lint, 0, true⟩, ⟨"unit", .unit, 0, true⟩], true⟩
  effects := [⟨"unit-ok", "unit_command_result", 0, 1, 1⟩]

/-- The run's reports are `guardedEvidence` and its decision is a revert. -/
def revertedOnGuardedEvidence (s : OptimizationState) : Bool :=
  decide (s.readRequest.toOption = some guardedEvidence.request) &&
  (s.requireStageRef (.phasePass ⟨.S04, 90⟩ "p1" 0) .verificationReport).toOption.any (fun ref =>
    (readVerification ref).toOption.any fun view =>
      decide (view.checkResults = guardedEvidence.verification.checkResults ∧ view.passed = true)) &&
  (s.requireStageRef (.phasePass ⟨.S05, 80⟩ "p1" 0) .statisticalReport).toOption.any (fun ref =>
    decide ((readStatistical ref).toOption = some guardedEvidence.effects)) &&
  decide (sealedOutcome s "p1" 0 = some .revert)

theorem guardedEvidence_of {s : OptimizationState} (h : revertedOnGuardedEvidence s = true) :
    (∃ digest, guardedEvidence.Of 0 digest s) ∧ sealedOutcome s "p1" 0 = some .revert := by
  simp only [revertedOnGuardedEvidence, Bool.and_eq_true, decide_eq_true_eq,
    Option.any_eq_true] at h
  obtain ⟨⟨⟨hrequest, ref, href, view, hview, hchecks, hpassed⟩, sref, hsref, heffects⟩, hout⟩ := h
  have hverification : view = guardedEvidence.verification := by
    cases view
    simp only at hchecks hpassed
    rw [hchecks, hpassed]
    rfl
  rw [hverification] at hview
  exact ⟨⟨ref.contentDigest, eq_ok_of_toOption hrequest,
    ⟨ref, eq_ok_of_toOption href, eq_ok_of_toOption hview, rfl⟩,
    ⟨sref, eq_ok_of_toOption hsref, eq_ok_of_toOption heffects⟩⟩, hout⟩

theorem keep_needs_last_evidence : ¬ ∀ (c₀ c : Config) (tr : SharedTrace), BeforeDecision c₀ →
    Run SharedStep c₀ tr c → ∀ (e : Evidence) (pass : Nat) (digest : Artifact) (outcome : Outcome),
      e.Of pass digest c.state → sealedOutcome c.state e.phaseId pass = some outcome →
      (outcome = .keep ↔ (∀ guardrail ∈ e.request.guardrails,
        SomeEvidenceHolds e.effects e.verification.checkResults guardrail) ∧ e.AllMet) := by
  intro hclaim
  obtain ⟨tr, c, hrun, hcheck⟩ := exists_sharedRun guardedCase
    (List.replicate 54 remeasuredFailing) (fun out => revertedOnGuardedEvidence out.2.state)
    (by decide +kernel)
  obtain ⟨⟨digest, hof⟩, hout⟩ := guardedEvidence_of hcheck
  have hkeep := (hclaim guardedCase c tr beforeDecision_guardedCase hrun guardedEvidence 0 digest
    .revert hof hout).mpr
  refine absurd (hkeep ⟨?_, ?_⟩) (by decide)
  · intro guardrail hmem
    cases List.mem_singleton.mp hmem
    exact Or.inr ⟨⟨"unit", .unit, 0, true⟩, by decide, by decide +kernel, by decide +kernel⟩
  · intro criterion hmem
    cases List.mem_singleton.mp hmem
    exact ⟨1, by decide +kernel, by decide +kernel⟩

end ProductionOptimizer
