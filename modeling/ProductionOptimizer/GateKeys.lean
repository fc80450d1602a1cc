import ProductionOptimizer.KeptStrategies

/-!
# What the generator can say about its own gates

`StrategyDraft.model_validate` takes every key that a draft has, also those that the schema for
the generator does not name, and the nodes fill in only what is missing. So the gates of a
generated strategy depend on keys that the generator was never asked for.
-/

namespace ProductionOptimizer.A3
open Runs
set_option autoImplicit false

/-- What `A3.61` to `A3.80` are to decide about a strategy. -/
structure Gates where
  impactAssessment : ImpactAssessment
  tradeoffAnalysis : TradeoffAnalysis
  validationPlan : ValidationPlan
  rollbackPlan : RollbackPlan
  scopeResolution : ScopeResolutionReport
  riskAssessment : RiskAssessment
  eligible : Bool
  gateReasons : List String
  deriving DecidableEq

def SolutionStrategy.gates (strategy : SolutionStrategy) : Gates where
  impactAssessment := strategy.impactAssessment
  tradeoffAnalysis := strategy.tradeoffAnalysis
  validationPlan := strategy.validationPlan
  rollbackPlan := strategy.rollbackPlan
  scopeResolution := strategy.scopeResolution
  riskAssessment := strategy.riskAssessment
  eligible := strategy.eligible
  gateReasons := strategy.gateReasons

/-- The strategies of the answer that `A3.60` validates. -/
def rawsOf (a : A3Answers) : List RawStrategy :=
  rawStrategies (effectiveCompletion a.first a.repair)

/-- The answer has these values for the fields of the schema, and no key but those of a draft. -/
def HasSchemaPart (named : List (Option NamedFields)) (a : A3Answers) : Prop :=
  (rawsOf a).map (·.named) = named ∧ ∀ raw ∈ rawsOf a, raw.unknownKeys = []

/-- The set that a pass seals at `A3.80`, from the state at `A3.60` and the answer there. -/
def passSet (inputs : Inputs) (s : A3State) (a : A3Answers) :
    Except A3Failure (List SolutionStrategy) :=
  match s.findings with
  | none => .error .missingFindingSet
  | some _ => do
    let carried ← carriedForward s
    finishAll inputs (carried ++ generatedDrafts a)

/-- The gates of the strategies that the pass generated: those behind the carried ones. -/
def newGates (carried : List StrategyDraft) (strategies : List SolutionStrategy) : List Gates :=
  (strategies.drop carried.length).map (·.gates)

section Passes
variable {inputs : Inputs} {tokens : Nat} {tr : A3Trace} {c : A3Config}

theorem findings_of_generated {t : Transition A3Config A3Visit}
    (hstep : A3Step inputs t.before t.label t.after) (hnode : t.label.node = .n60) :
    ∃ findings, t.before.state.findings = some findings := by
  obtain ⟨before, visit, after⟩ := t
  cases moved_of_step hstep with
  | generated hfindings _ _ => exact ⟨_, hfindings⟩
  | worked hwork _ _ _ _ =>
    cases hnode
    cases hwork
  | _ => cases hnode

/-- Every set that a run seals is the set of such a pass. -/
theorem passSet_of_run (hrun : Run (A3Step inputs) (startConfig tokens) tr c) {pass : Nat}
    {strategies : List SolutionStrategy}
    (h : c.state.strategySets.lookup pass = some strategies) :
    ∃ t ∈ tr, t.label.node = .n60 ∧ t.before.state.a3RevisionAttempts = pass ∧
      passSet inputs t.before.state t.label.answers = .ok strategies := by
  have hinv := roundInv_of_run hrun
  obtain ⟨drafts, hdrafts, hfinished⟩ := hinv.finished h
  obtain ⟨t, ht, hnode, hpass, carried, hcarried, _, rfl⟩ := hinv.generated pass drafts hdrafts
  obtain ⟨_, _, hstep⟩ := hrun.step_of_mem ht
  obtain ⟨findings, hfindings⟩ := findings_of_generated hstep hnode
  refine ⟨t, ht, hnode, hpass, ?_⟩
  unfold passSet
  rw [hfindings]
  dsimp only
  rw [hcarried]
  exact (finishAll_ok_iff inputs).mpr hfinished

end Passes

section Gates
variable {inputs : Inputs} {s : A3State} {carried : List StrategyDraft}

theorem carriedForward_ready (h : carriedForward s = .ok carried) :
    ∀ draft ∈ carried, (∃ scope, scopeOf inputs draft = .ok scope) ∧
      (draft.eligible = false → draft.gateReasons ≠ []) := by
  unfold carriedForward at h
  split at h
  · cases h
    exact fun _ h => absurd h List.not_mem_nil
  · split at h
    · obtain ⟨previous, _, h⟩ := except_bind_ok h
      cases h
      intro draft hdraft
      obtain ⟨strategy, _, rfl⟩ := List.mem_map.mp hdraft
      exact ⟨⟨_, rfl⟩, strategy.reasoned⟩
    · cases h
      exact fun _ h => absurd h List.not_mem_nil

theorem generatedDrafts_eq (a : A3Answers) :
    generatedDrafts a = (rawsOf a).filterMap modelValidate := rfl

theorem modelValidate_named {raw : RawStrategy} {draft : StrategyDraft}
    (h : modelValidate raw = some draft) : raw.named = some draft.toNamedFields := by
  unfold modelValidate at h
  cases hnamed : raw.named with
  | none =>
    rw [hnamed] at h
    cases h
  | some named =>
    rw [hnamed] at h
    simp only [Option.bind_eq_bind, Option.bind_some, Option.bind_eq_some_iff] at h
    obtain ⟨_, _, _, _, _, _, _, _, _, _, _, _, _, _, _, _, h⟩ := h
    split at h
    · cases h
      rfl
    · cases h

/-- Without a valid strategy in the schema part nothing is generated. -/
theorem generatedDrafts_eq_nil {named : List (Option NamedFields)} {a : A3Answers}
    (ha : HasSchemaPart named a) (hnone : ∀ fields ∈ named, fields = none) :
    generatedDrafts a = [] := by
  rw [generatedDrafts_eq, List.filterMap_eq_nil_iff]
  intro raw hraw
  have hfields : raw.named = none := hnone _ (ha.1 ▸ List.mem_map_of_mem hraw)
  cases hvalid : modelValidate raw with
  | none => rfl
  | some draft => cases (modelValidate_named hvalid).symm.trans hfields

/-- A scope report that the generator writes itself. -/
def ownScope : ScopeResolutionReport :=
  ⟨"scope", "strategy", [unspecifiedScope], List.cons_ne_nil _ _⟩

/-- A strategy of the schema part, with a scope report and reasons of the generator's own. -/
def selfGraded (reasons : List String) (fields : Option NamedFields) : RawStrategy :=
  { named := fields, scopeResolution := .given ownScope, gateReasons := .given reasons }

def selfGradedDraft (reasons : List String) (fields : NamedFields) : StrategyDraft :=
  { fields with scopeResolution := some ownScope, gateReasons := reasons }

theorem generatedDrafts_selfGraded (reasons : List String) (named : List (Option NamedFields)) :
    generatedDrafts (answering (named.map (selfGraded reasons))) =
      (named.filterMap id).map (selfGradedDraft reasons) := by
  rw [generatedDrafts_eq]
  change (named.map (selfGraded reasons)).filterMap modelValidate = _
  rw [List.filterMap_map, List.map_filterMap]
  congr 1
  funext fields
  cases fields <;> rfl

theorem passSet_ok_iff {findings : List Finding} (hfindings : s.findings = some findings)
    (hcarried : carriedForward s = .ok carried) {a : A3Answers}
    {strategies : List SolutionStrategy} :
    passSet inputs s a = .ok strategies ↔
      Finished inputs [] (carried ++ generatedDrafts a) strategies := by
  unfold passSet
  rw [hfindings]
  dsimp only
  rw [hcarried]
  exact finishAll_ok_iff inputs

/-- The gates behind the carried strategies come from the generated drafts alone. -/
theorem newGates_of_finished {generated : List StrategyDraft} {strategies : List SolutionStrategy}
    (h : Finished inputs [] (carried ++ generated) strategies) :
    ∃ new, newGates carried strategies = new.map (·.gates) ∧
      Finished inputs (notedTradeoffs [] carried) generated new := by
  obtain ⟨left, right, rfl, hleft, hright⟩ := h.split
  refine ⟨right, ?_, hright⟩
  rw [newGates, ← hleft.length, List.drop_left]

/-- The reasons that a generator gives come first in the reasons of its strategy. -/
theorem selfGraded_reasons {seen : List (String × String)} {reasons : List String}
    {fields : NamedFields} {strategy : SolutionStrategy}
    (h : finish inputs seen (selfGradedDraft reasons fields) = .ok (some strategy)) :
    strategy.gateReasons =
      reasons ++ reasonsOf inputs seen (selfGradedDraft [] fields) ownScope := by
  obtain ⟨scope, hscope, _, hout⟩ := finish_ok h
  cases hscope
  cases hout
  change reasons ++ orderReasons fields.toStrategyFields ++
    duplicateReasons seen fields.toStrategyFields ++
    planReasons inputs (selfGradedDraft [] fields) ++ scopeReasons ownScope = _
  simp only [reasonsOf, earlyReasons, List.append_assoc]
  rfl

variable (inputs) in
theorem exists_selfGraded (hcarried : carriedForward s = .ok carried) (reasons : List String)
    (named : List (Option NamedFields)) :
    ∃ strategies, Finished inputs []
      (carried ++ generatedDrafts (answering (named.map (selfGraded reasons)))) strategies := by
  apply exists_finished
  intro draft hdraft
  rcases List.mem_append.mp hdraft with hdraft | hdraft
  · exact carriedForward_ready hcarried draft hdraft
  · rw [generatedDrafts_selfGraded] at hdraft
    obtain ⟨fields, _, rfl⟩ := List.mem_map.mp hdraft
    exact ⟨⟨ownScope, rfl⟩, fun h => by cases h⟩

/-- The new gates do not depend on the keys beside the schema exactly when the schema part has
no strategy that validates. -/
theorem gates_fixed_iff {findings : List Finding} (hfindings : s.findings = some findings)
    (hcarried : carriedForward s = .ok carried) (named : List (Option NamedFields)) :
    (∀ a₁ a₂, HasSchemaPart named a₁ → HasSchemaPart named a₂ → ∀ set₁ set₂,
        passSet inputs s a₁ = .ok set₁ → passSet inputs s a₂ = .ok set₂ →
        newGates carried set₁ = newGates carried set₂) ↔
      ∀ fields ∈ named, fields = none := by
  constructor
  · intro h
    by_contra hvalid
    simp only [not_forall] at hvalid
    obtain ⟨fields, hmem, hsome⟩ := hvalid
    have hpart (reasons : List String) :
        HasSchemaPart named (answering (named.map (selfGraded reasons))) := by
      refine ⟨?_, ?_⟩
      · change (named.map (selfGraded reasons)).map (·.named) = named
        rw [List.map_map]
        exact List.map_id named
      · intro raw hraw
        obtain ⟨_, _, rfl⟩ := List.mem_map.mp hraw
        rfl
    obtain ⟨set₁, h₁⟩ := exists_selfGraded inputs hcarried [] named
    obtain ⟨set₂, h₂⟩ := exists_selfGraded inputs hcarried ["unwanted"] named
    have hgates := h _ _ (hpart []) (hpart ["unwanted"]) set₁ set₂
      ((passSet_ok_iff hfindings hcarried).mpr h₁) ((passSet_ok_iff hfindings hcarried).mpr h₂)
    obtain ⟨new₁, hnew₁, h₁⟩ := newGates_of_finished h₁
    obtain ⟨new₂, hnew₂, h₂⟩ := newGates_of_finished h₂
    rw [hnew₁, hnew₂] at hgates
    rw [generatedDrafts_selfGraded] at h₁ h₂
    -- the first valid strategy is there in both sets, with one reason more in the second
    cases hfirst : named.filterMap id with
    | nil => exact hsome (List.filterMap_eq_nil_iff.mp hfirst fields hmem)
    | cons first rest =>
      rw [hfirst, List.map_cons] at h₁ h₂
      cases h₁ with
      | cons hok₁ _ =>
        cases h₂ with
        | cons hok₂ _ =>
          have hreasons := congrArg Gates.gateReasons (List.cons.inj hgates).1
          change SolutionStrategy.gateReasons _ = SolutionStrategy.gateReasons _ at hreasons
          rw [selfGraded_reasons hok₁, selfGraded_reasons hok₂] at hreasons
          exact absurd hreasons.symm (List.cons_ne_self _ _)
  · intro hnone a₁ a₂ ha₁ ha₂ set₁ set₂ h₁ h₂
    have hset₁ := (passSet_ok_iff hfindings hcarried).mp h₁
    have hset₂ := (passSet_ok_iff hfindings hcarried).mp h₂
    rw [generatedDrafts_eq_nil ha₁ hnone] at hset₁
    rw [generatedDrafts_eq_nil ha₂ hnone] at hset₂
    rw [hset₁.unique hset₂]

end Gates

/-! ### Sample runs -/

theorem gates_fixed_sample :
    (∀ a₁ a₂, HasSchemaPart [some (sampleFields "s1" "small patch")] a₁ →
        HasSchemaPart [some (sampleFields "s1" "small patch")] a₂ → ∀ set₁ set₂,
        passSet sampleInputs { findings := some [] } a₁ = .ok set₁ →
        passSet sampleInputs { findings := some [] } a₂ = .ok set₂ →
        newGates [] set₁ = newGates [] set₂) ↔
      ∀ fields ∈ [some (sampleFields "s1" "small patch")], fields = none :=
  gates_fixed_iff rfl rfl _

/-- A strategy that touches a sensitive path. -/
def authFields : NamedFields :=
  { sampleFields "s1" "small patch" with targetPaths := ["src/auth.py"] }

def plainRaw : RawStrategy := { named := some authFields }

def ownRisk : RiskAssessment :=
  ⟨"risk-s1", "s1", .experimentConfig, "none", .instant, 0, false, false, []⟩

/-- The same strategy, with the generator's own word on its risk. -/
def gradedRaw : RawStrategy := { plainRaw with riskAssessment := .given ownRisk }

def securityIs (raw : RawStrategy) (impact : Bool) (out : A3Trace × A3Config) : Bool :=
  (out.1.all fun t => t.label.node != .n60 || decide (rawsOf t.label.answers = [raw])) &&
    (out.2.state.strategySets.lookup 0).any fun strategies =>
      decide (strategies.map (·.riskAssessment.securityImpact) = [impact])

theorem exists_security (raw : RawStrategy) (impact : Bool)
    (h : (replay (advance sampleInputs) ([judging .accept, {}] ++ passAnswers [raw]) []
      (startConfig 0)).any (securityIs raw impact) = true) :
    ∃ tr c strategies, Run (A3Step sampleInputs) (startConfig 0) tr c ∧
      (∀ t ∈ tr, t.label.node = .n60 → rawsOf t.label.answers = [raw]) ∧
      c.state.strategySets.lookup 0 = some strategies ∧
      strategies.map (·.riskAssessment.securityImpact) = [impact] := by
  obtain ⟨tr, c, hrun, hcheck⟩ := exists_a3Run sampleInputs _ _ h
  obtain ⟨htrace, hset⟩ := Bool.and_eq_true_iff.mp hcheck
  obtain ⟨strategies, hstrategies, himpact⟩ := (Option.any_eq_true ..).mp hset
  refine ⟨tr, c, strategies, hrun, fun t ht hnode => ?_, hstrategies, of_decide_eq_true himpact⟩
  have hraws := List.all_eq_true.mp htrace t ht
  rw [hnode] at hraws
  exact of_decide_eq_true hraws

/-- Two runs whose answers agree on the schema: in one the strategy has a security impact, in
the other the generator has said that it has none. -/
theorem generator_grades_itself : plainRaw.named = gradedRaw.named ∧
    ∃ tr₁ c₁ set₁ tr₂ c₂ set₂, Run (A3Step sampleInputs) (startConfig 0) tr₁ c₁ ∧
      Run (A3Step sampleInputs) (startConfig 0) tr₂ c₂ ∧
      (∀ t ∈ tr₁, t.label.node = .n60 → rawsOf t.label.answers = [plainRaw]) ∧
      (∀ t ∈ tr₂, t.label.node = .n60 → rawsOf t.label.answers = [gradedRaw]) ∧
      c₁.state.strategySets.lookup 0 = some set₁ ∧ c₂.state.strategySets.lookup 0 = some set₂ ∧
      set₁.map (·.gates) ≠ set₂.map (·.gates) := by
  refine ⟨rfl, ?_⟩
  obtain ⟨tr₁, c₁, set₁, hrun₁, hraws₁, hset₁, himpact₁⟩ :=
    exists_security plainRaw true (by decide +kernel)
  obtain ⟨tr₂, c₂, set₂, hrun₂, hraws₂, hset₂, himpact₂⟩ :=
    exists_security gradedRaw false (by decide +kernel)
  refine ⟨tr₁, c₁, set₁, tr₂, c₂, set₂, hrun₁, hrun₂, hraws₁, hraws₂, hset₁, hset₂, fun h => ?_⟩
  have himpact := congrArg (List.map fun gates : Gates => gates.riskAssessment.securityImpact) h
  rw [List.map_map, List.map_map] at himpact
  cases himpact₁.symm.trans (himpact.trans himpact₂)

end ProductionOptimizer.A3
