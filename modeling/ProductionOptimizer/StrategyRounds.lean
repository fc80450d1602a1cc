import ProductionOptimizer.Handlers.StrategyNodes

/-!
# The passes of A3

What a pass makes of a draft, in one equation, and what it leaves alone: a strategy that is
eligible at the end of a pass goes through the next one unchanged. The passes are then put
together along a run.
-/

namespace ProductionOptimizer.A3
open Runs
set_option autoImplicit false

/-! ### One draft -/

section Draft
variable (inputs : Inputs) (seen : List (String × String)) (draft : StrategyDraft)

/-- The nodes from `A3.61` to `A3.80` on one draft; `seen` are the texts before it. -/
def finish : Except A3Failure (Option SolutionStrategy) := do
  let resolved ← resolveScope inputs (bindValidation inputs
    (captureTradeoff inputs seen (assessImpact inputs (definePhases draft))))
  determineRisk inputs resolved

def scopeOf : Except A3Failure ScopeResolutionReport :=
  match draft.scopeResolution with
  | some report => .ok report
  | none => scopeReport inputs draft

/-- The reasons that `A3.61` to `A3.64` have collected. -/
def earlyReasons : List String :=
  draft.gateReasons ++ orderReasons draft.toStrategyFields ++
    duplicateReasons seen draft.toStrategyFields ++ planReasons inputs draft

def reasonsOf (scope : ScopeResolutionReport) : List String :=
  earlyReasons inputs seen draft ++ scopeReasons scope

def tradeoffOf : TradeoffAnalysis :=
  draft.tradeoffAnalysis.getD (coarseTradeoff inputs draft.toStrategyFields)

def rollbackOf : RollbackPlan := draft.rollbackPlan.getD (revertPlan draft.strategyId)

/-- What the contract of a strategy demands: one that is not eligible says why. -/
abbrev Reasoned (scope : ScopeResolutionReport) : Prop :=
  (draft.eligible && (reasonsOf inputs seen draft scope).isEmpty) = false →
    reasonsOf inputs seen draft scope ≠ []

variable {inputs seen draft} in
/-- The strategy that a pass makes of a draft. -/
def strategyOf (scope : ScopeResolutionReport) (h : Reasoned inputs seen draft scope) :
    SolutionStrategy where
  toStrategyFields := draft.toStrategyFields
  riskAssessment := draft.riskAssessment.getD (determinedRisk inputs draft.toStrategyFields
    (tradeoffOf inputs draft) (rollbackOf draft) scope)
  impactAssessment := draft.impactAssessment.getD (forecastImpacts inputs draft.strategyId)
  tradeoffAnalysis := tradeoffOf inputs draft
  validationPlan := boundPlan inputs draft
  rollbackPlan := rollbackOf draft
  scopeResolution := scope
  eligible := draft.eligible && (reasonsOf inputs seen draft scope).isEmpty
  gateReasons := reasonsOf inputs seen draft scope
  reasoned := h

theorem and_isEmpty_append (eligible : Bool) (before after : List String) :
    ((eligible && before.isEmpty) && (before ++ after).isEmpty) =
      (eligible && (before ++ after).isEmpty) := by
  cases eligible <;> cases before <;> simp

/-- A draft as it leaves `A3.64`. -/
def boundDraft : StrategyDraft :=
  { draft with
    impactAssessment :=
      some (draft.impactAssessment.getD (forecastImpacts inputs draft.strategyId))
    tradeoffAnalysis := some (tradeoffOf inputs draft)
    validationPlan := some (boundPlan inputs draft)
    rollbackPlan := some (rollbackOf draft)
    eligible := draft.eligible && (earlyReasons inputs seen draft).isEmpty
    gateReasons := earlyReasons inputs seen draft }

theorem boundDraft_eq : bindValidation inputs (captureTradeoff inputs seen
    (assessImpact inputs (definePhases draft))) = boundDraft inputs seen draft := by
  have himpact : assessImpact inputs (definePhases draft) = { definePhases draft with
      impactAssessment := some
        (draft.impactAssessment.getD (forecastImpacts inputs draft.strategyId)) } := by
    unfold assessImpact definePhases StrategyDraft.gated
    cases draft.impactAssessment <;> rfl
  rw [himpact]
  unfold bindValidation captureTradeoff definePhases StrategyDraft.gated boundDraft earlyReasons
  dsimp only
  rw [and_isEmpty_append, and_isEmpty_append]
  rfl

theorem finish_eq : finish inputs seen draft = (do
    let scope ← scopeOf inputs draft
    if h : Reasoned inputs seen draft scope then .ok (some (strategyOf scope h))
    else .error .invalidStrategy) := by
  unfold finish
  rw [boundDraft_eq]
  have hresolve : resolveScope inputs (boundDraft inputs seen draft) = (do
      let scope ← scopeOf inputs draft
      .ok { boundDraft inputs seen draft with scopeResolution := some scope }) := by
    unfold resolveScope StrategyDraft.gated scopeOf boundDraft
    dsimp only
    rw [Bool.and_assoc, Bool.and_self]
    cases draft.scopeResolution <;> rfl
  rw [hresolve]
  cases scopeOf inputs draft with
  | error e => rfl
  | ok scope =>
    change determineRisk inputs { boundDraft inputs seen draft with
      scopeResolution := some scope } = _
    unfold determineRisk boundDraft
    simp only [and_isEmpty_append]
    rfl

variable {inputs seen draft}

/-- Where a pass ends well, every draft has become a strategy. -/
theorem finish_ok {out : Option SolutionStrategy} (h : finish inputs seen draft = .ok out) :
    ∃ scope, scopeOf inputs draft = .ok scope ∧
      ∃ hreasoned : Reasoned inputs seen draft scope, out = some (strategyOf scope hreasoned) := by
  rw [finish_eq] at h
  obtain ⟨scope, hscope, h⟩ := except_bind_ok h
  refine ⟨scope, hscope, ?_⟩
  split at h
  · rename_i hreasoned
    cases h
    exact ⟨hreasoned, rfl⟩
  · cases h

end Draft

/-! ### The list of drafts -/

section Drafts
variable (inputs : Inputs)

/-- The nodes from `A3.61` to `A3.80` on the drafts of a pass. -/
def finishAll (drafts : List StrategyDraft) : Except A3Failure (List SolutionStrategy) := do
  let bound := (captureTradeoffs inputs []
    ((drafts.map definePhases).map (assessImpact inputs))).map (bindValidation inputs)
  let resolved ← bound.mapM (resolveScope inputs)
  assembleStrategies inputs resolved

/-- Every draft finished in turn, each with the texts of those before it. -/
inductive Finished : List (String × String) → List StrategyDraft → List SolutionStrategy → Prop where
  | nil {seen : List (String × String)} : Finished seen [] []
  | cons {seen : List (String × String)} {draft : StrategyDraft} {strategy : SolutionStrategy}
      {drafts : List StrategyDraft} {strategies : List SolutionStrategy} :
      finish inputs seen draft = .ok (some strategy) →
      Finished (noteTradeoffs seen draft.toStrategyFields) drafts strategies →
      Finished seen (draft :: drafts) (strategy :: strategies)

def boundDrafts : List (String × String) → List StrategyDraft → List StrategyDraft
  | _, [] => []
  | seen, draft :: drafts =>
    boundDraft inputs seen draft :: boundDrafts (noteTradeoffs seen draft.toStrategyFields) drafts

theorem assessImpact_fields (draft : StrategyDraft) :
    (assessImpact inputs (definePhases draft)).toStrategyFields = draft.toStrategyFields := by
  unfold assessImpact
  split <;> rfl

theorem boundDrafts_eq (drafts : List StrategyDraft) : ∀ seen : List (String × String),
    (captureTradeoffs inputs seen ((drafts.map definePhases).map (assessImpact inputs))).map
      (bindValidation inputs) = boundDrafts inputs seen drafts := by
  induction drafts with
  | nil => exact fun _ => rfl
  | cons draft drafts ih =>
    intro seen
    simp only [List.map_cons, captureTradeoffs, boundDrafts, boundDraft_eq, assessImpact_fields, ih]

theorem assembleStrategies_cons_ok {resolved : StrategyDraft} {rest : List StrategyDraft}
    {out : List SolutionStrategy} :
    assembleStrategies inputs (resolved :: rest) = .ok out ↔
      ∃ strategy strategies, determineRisk inputs resolved = .ok strategy ∧
        assembleStrategies inputs rest = .ok strategies ∧ out = strategy.toList ++ strategies := by
  constructor
  · intro h
    obtain ⟨assembled, hassembled, h⟩ := except_bind_ok h
    cases h
    obtain ⟨strategy, strategies, hone, hrest, rfl⟩ := mapM_cons_ok.mp hassembled
    refine ⟨strategy, strategies.filterMap id, hone, ?_, ?_⟩
    · unfold assembleStrategies
      rw [hrest]
      rfl
    · cases strategy <;> rfl
  · rintro ⟨strategy, strategies, hone, hrest, rfl⟩
    obtain ⟨assembled, hassembled, h⟩ := except_bind_ok hrest
    cases h
    unfold assembleStrategies
    rw [mapM_cons_ok.mpr ⟨strategy, assembled, hone, hassembled, rfl⟩]
    cases strategy <;> rfl

theorem finished_iff (drafts : List StrategyDraft) :
    ∀ (seen : List (String × String)) (strategies : List SolutionStrategy),
      (do let resolved ← (boundDrafts inputs seen drafts).mapM (resolveScope inputs)
          assembleStrategies inputs resolved) = .ok strategies ↔
        Finished inputs seen drafts strategies := by
  induction drafts with
  | nil =>
    intro seen strategies
    constructor
    · intro h
      cases h
      exact .nil
    · intro h
      cases h
      rfl
  | cons draft drafts ih =>
    intro seen strategies
    have hfinish : finish inputs seen draft =
        resolveScope inputs (boundDraft inputs seen draft) >>= determineRisk inputs := by
      rw [finish, boundDraft_eq]
    constructor
    · intro h
      obtain ⟨resolved, hresolved, h⟩ := except_bind_ok h
      obtain ⟨first, rest, hfirst, hrest, rfl⟩ := mapM_cons_ok.mp hresolved
      obtain ⟨out, tail, hout, htail, rfl⟩ := (assembleStrategies_cons_ok inputs).mp h
      have hok : finish inputs seen draft = .ok out := by
        rw [hfinish, hfirst]
        exact hout
      obtain ⟨scope, _, hreasoned, rfl⟩ := finish_ok hok
      refine .cons hok ((ih _ _).mp ?_)
      rw [hrest]
      exact htail
    · rintro ⟨⟩
      rename_i strategy strategies hok hrest
      rw [hfinish] at hok
      obtain ⟨first, hfirst, hout⟩ := except_bind_ok hok
      obtain ⟨rest, hresolved, htail⟩ := except_bind_ok ((ih _ _).mpr hrest)
      rw [boundDrafts, mapM_cons_ok.mpr ⟨first, rest, hfirst, hresolved, rfl⟩]
      exact (assembleStrategies_cons_ok inputs).mpr ⟨_, _, hout, htail, rfl⟩

theorem finishAll_ok_iff {drafts : List StrategyDraft} {strategies : List SolutionStrategy} :
    finishAll inputs drafts = .ok strategies ↔ Finished inputs [] drafts strategies := by
  rw [finishAll, boundDrafts_eq]
  exact finished_iff inputs drafts [] strategies

variable {inputs}

theorem Finished.fields {seen : List (String × String)} {drafts : List StrategyDraft}
    {strategies : List SolutionStrategy} (h : Finished inputs seen drafts strategies) :
    strategies.map (·.toStrategyFields) = drafts.map (·.toStrategyFields) := by
  induction h with
  | nil => rfl
  | cons hok _ ih =>
    obtain ⟨scope, _, hreasoned, hout⟩ := finish_ok hok
    cases hout
    rw [List.map_cons, List.map_cons, ih]
    rfl

theorem map_of_fields {B : Type} (f : StrategyFields → B) {strategies : List SolutionStrategy}
    {drafts : List StrategyDraft}
    (h : strategies.map (·.toStrategyFields) = drafts.map (·.toStrategyFields)) :
    (strategies.map fun strategy => f strategy.toStrategyFields) =
      drafts.map fun draft => f draft.toStrategyFields := by
  have hmapped := congrArg (List.map f) h
  rw [List.map_map, List.map_map] at hmapped
  exact hmapped

theorem Finished.unique {seen : List (String × String)} {drafts : List StrategyDraft}
    {left right : List SolutionStrategy} (hleft : Finished inputs seen drafts left)
    (hright : Finished inputs seen drafts right) : left = right := by
  induction hleft generalizing right with
  | nil =>
    cases hright
    rfl
  | cons hok _ ih =>
    cases hright with
    | cons hok' hrest =>
      cases hok.symm.trans hok'
      rw [ih hrest]

/-- `seen_tradeoffs` after some drafts. -/
def notedTradeoffs (seen : List (String × String)) (drafts : List StrategyDraft) :
    List (String × String) :=
  drafts.foldl (fun seen draft => noteTradeoffs seen draft.toStrategyFields) seen

theorem Finished.split {seen : List (String × String)} {first second : List StrategyDraft}
    {out : List SolutionStrategy} (h : Finished inputs seen (first ++ second) out) :
    ∃ left right, out = left ++ right ∧ Finished inputs seen first left ∧
      Finished inputs (notedTradeoffs seen first) second right := by
  induction first generalizing seen out with
  | nil => exact ⟨[], out, rfl, .nil, h⟩
  | cons draft first ih =>
    cases h with
    | cons hok hrest =>
      obtain ⟨left, right, rfl, hleft, hright⟩ := ih hrest
      exact ⟨_, right, rfl, .cons hok hleft, hright⟩

theorem Finished.length {seen : List (String × String)} {drafts : List StrategyDraft}
    {strategies : List SolutionStrategy} (h : Finished inputs seen drafts strategies) :
    strategies.length = drafts.length := by
  simpa using congrArg List.length h.fields

/-- Only a scope that does not validate, or an ineligible draft without a reason, can stop a
pass. -/
theorem exists_finished {drafts : List StrategyDraft} :
    ∀ seen, (∀ draft ∈ drafts, (∃ scope, scopeOf inputs draft = .ok scope) ∧
      (draft.eligible = false → draft.gateReasons ≠ [])) →
      ∃ strategies, Finished inputs seen drafts strategies := by
  induction drafts with
  | nil => exact fun _ _ => ⟨[], .nil⟩
  | cons draft drafts ih =>
    intro seen h
    obtain ⟨strategies, hrest⟩ := ih (noteTradeoffs seen draft.toStrategyFields)
      fun d hd => h d (List.mem_cons_of_mem _ hd)
    obtain ⟨⟨scope, hscope⟩, hreasons⟩ := h draft List.mem_cons_self
    have hreasoned : Reasoned inputs seen draft scope := by
      intro hfalse hnone
      rw [hnone, List.isEmpty_nil, Bool.and_true] at hfalse
      simp only [reasonsOf, earlyReasons, List.append_eq_nil_iff] at hnone
      exact hreasons hfalse hnone.1.1.1.1
    refine ⟨strategyOf scope hreasoned :: strategies, .cons ?_ hrest⟩
    rw [finish_eq, hscope]
    change (if h : Reasoned inputs seen draft scope then Except.ok (some (strategyOf scope h))
      else _) = _
    rw [dif_pos hreasoned]

end Drafts

/-! ### A strategy that stays -/

section Dict

theorem any_dictSet {V : Type} (d : List (String × V)) (key other : String) (value : V) :
    (dictSet d key value).any (·.1 == other) = (d.any (·.1 == other) || key == other) := by
  unfold dictSet
  split
  · rename_i hkey
    rw [List.any_map]
    have hcongr : ((fun e : String × V => e.1 == other) ∘ fun e =>
        if (e.1 == key) = true then (key, value) else e) = fun e => e.1 == other := by
      funext e
      simp only [Function.comp_apply]
      split
      · rename_i he
        rw [beq_iff_eq.mp he]
      · rfl
    rw [hcongr]
    by_cases hother : key = other
    · subst hother
      rw [hkey, Bool.true_or]
    · rw [beq_eq_false_iff_ne.mpr hother, Bool.or_false]
  · rw [List.any_append, List.any_cons, List.any_nil, Bool.or_false]

theorem any_dictMerge (left right : List (String × String)) (key : String) :
    (dictMerge left right).any (·.1 == key) =
      (left.any (·.1 == key) || right.any (·.1 == key)) := by
  unfold dictMerge
  induction right generalizing left with
  | nil => rw [List.foldl_nil, List.any_nil, Bool.or_false]
  | cons e right ih => rw [List.foldl_cons, ih, any_dictSet, List.any_cons, Bool.or_assoc]

end Dict

section Plan
variable {inputs : Inputs}

theorem unknownCommandIds_eq_nil {plan : ValidationPlan}
    (h : plan.testCommandIds = realCommandIds inputs) : unknownCommandIds inputs plan = [] := by
  rw [unknownCommandIds, h, List.filter_eq_nil_iff]
  intro id hid
  simpa using hid

theorem missingMovements_eq_nil {plan : ValidationPlan}
    (h : ∀ movement ∈ expectedMetricMovements inputs,
      plan.expectedMetricMovements.any (·.1 == movement.1) = true) :
    missingMovements inputs plan = [] := by
  rw [missingMovements, List.filter_eq_nil_iff]
  intro movement hmovement
  rw [h movement hmovement]
  decide

/-- A plan that names its commands and every movement is left as it is. -/
def PlanSettled (inputs : Inputs) (plan : ValidationPlan) : Prop :=
  ¬ (plan.testCommandIds = [] ∧ realCommandIds inputs ≠ []) ∧
    unknownCommandIds inputs plan = [] ∧ missingMovements inputs plan = []

theorem any_fst_of_mem {movements : List (String × String)} {movement : String × String}
    (h : movement ∈ movements) : movements.any (·.1 == movement.1) = true :=
  List.any_eq_true.mpr ⟨movement, h, beq_iff_eq.mpr rfl⟩

theorem planSettled_fresh (strategyId : String) (hreal : realCommandIds inputs ≠ []) :
    PlanSettled inputs (freshPlan inputs strategyId) := by
  rw [freshPlan, if_pos hreal]
  exact ⟨fun h => hreal h.1, unknownCommandIds_eq_nil rfl,
    missingMovements_eq_nil fun _ => any_fst_of_mem⟩

theorem planSettled_filled {plan : ValidationPlan} (hreal : realCommandIds inputs ≠ []) :
    PlanSettled inputs (filledPlan inputs plan) := by
  refine ⟨fun h => hreal h.1, unknownCommandIds_eq_nil rfl, missingMovements_eq_nil ?_⟩
  intro movement hmovement
  rw [filledPlan, any_dictMerge, any_fst_of_mem hmovement, Bool.true_or]

theorem planSettled_completed {plan : ValidationPlan}
    (hnamed : ¬ (plan.testCommandIds = [] ∧ realCommandIds inputs ≠ []))
    (hknown : unknownCommandIds inputs plan = []) :
    PlanSettled inputs (completedPlan inputs plan) := by
  by_cases hmissing : missingMovements inputs plan = []
  · have hsame : completedPlan inputs plan = plan := by simp [completedPlan, hmissing]
    rw [hsame]
    exact ⟨hnamed, hknown, hmissing⟩
  · rw [completedPlan, if_pos hmissing]
    refine ⟨hnamed, hknown, missingMovements_eq_nil ?_⟩
    intro movement hmovement
    rw [any_dictMerge, Bool.or_eq_true]
    cases hhas : plan.expectedMetricMovements.any (·.1 == movement.1) with
    | true => exact Or.inl rfl
    | false =>
      refine Or.inr (any_fst_of_mem (List.mem_filter.mpr ⟨hmovement, ?_⟩))
      rw [hhas]
      rfl

theorem planSettled_of_noReasons {draft : StrategyDraft} (h : planReasons inputs draft = []) :
    PlanSettled inputs (boundPlan inputs draft) := by
  unfold planReasons at h
  unfold boundPlan
  cases hplan : draft.validationPlan with
  | none =>
    rw [hplan] at h
    dsimp only at h
    split at h
    · rename_i hreal
      exact planSettled_fresh _ hreal
    · cases h
  | some plan =>
    rw [hplan] at h
    dsimp only at h ⊢
    split at h
    · rename_i hempty
      rw [if_pos hempty]
      exact planSettled_filled hempty.2
    · rename_i hnamed
      rw [if_neg hnamed]
      split at h
      · cases h
      · rename_i hknown
        exact planSettled_completed hnamed (not_not.mp hknown)

theorem PlanSettled.planReasons {draft : StrategyDraft} {plan : ValidationPlan}
    (h : PlanSettled inputs plan) (hplan : draft.validationPlan = some plan) :
    planReasons inputs draft = [] := by
  unfold A3.planReasons
  rw [hplan]
  dsimp only
  rw [if_neg h.1, if_neg (not_not.mpr h.2.1)]

theorem PlanSettled.boundPlan {draft : StrategyDraft} {plan : ValidationPlan}
    (h : PlanSettled inputs plan) (hplan : draft.validationPlan = some plan) :
    boundPlan inputs draft = plan := by
  unfold A3.boundPlan
  rw [hplan]
  dsimp only
  rw [if_neg h.1, completedPlan, if_neg (not_not.mpr h.2.2)]

end Plan

section Kept
variable {inputs : Inputs} {seen : List (String × String)}

/-- What holds of a strategy that a pass has left eligible: no node has anything to add. -/
structure Settled (inputs : Inputs) (strategy : SolutionStrategy) : Prop where
  eligible : strategy.eligible = true
  reasons : strategy.gateReasons = []
  ordered : orderReasons strategy.toStrategyFields = []
  planned : PlanSettled inputs strategy.validationPlan
  resolved : scopeReasons strategy.scopeResolution = []

theorem reasonsOf_eq_nil {draft : StrategyDraft} {scope : ScopeResolutionReport}
    (h : reasonsOf inputs seen draft scope = []) :
    orderReasons draft.toStrategyFields = [] ∧ duplicateReasons seen draft.toStrategyFields = [] ∧
      planReasons inputs draft = [] ∧ scopeReasons scope = [] := by
  simp only [reasonsOf, earlyReasons, List.append_eq_nil_iff] at h
  exact ⟨h.1.1.1.2, h.1.1.2, h.1.2, h.2⟩

theorem settled_of_finish {draft : StrategyDraft} {strategy : SolutionStrategy}
    (h : finish inputs seen draft = .ok (some strategy)) (heligible : strategy.eligible = true) :
    Settled inputs strategy ∧ seen.lookup strategy.strategyTradeoffs = none := by
  obtain ⟨scope, _, hreasoned, hout⟩ := finish_ok h
  cases hout
  have hnone : reasonsOf inputs seen draft scope = [] :=
    List.isEmpty_iff.mp (Bool.and_eq_true_iff.mp heligible).2
  obtain ⟨hordered, hduplicate, hplan, hscope⟩ := reasonsOf_eq_nil hnone
  refine ⟨⟨heligible, hnone, hordered, planSettled_of_noReasons hplan, hscope⟩, ?_⟩
  unfold duplicateReasons at hduplicate
  split at hduplicate
  · cases hduplicate
  · rename_i hlookup
    exact hlookup

theorem Settled.finish {strategy : SolutionStrategy} (h : Settled inputs strategy)
    (hseen : seen.lookup strategy.strategyTradeoffs = none) :
    finish inputs seen (solutionStrategyToDraft strategy) = .ok (some strategy) := by
  have hplan : planReasons inputs (solutionStrategyToDraft strategy) = [] :=
    h.planned.planReasons rfl
  have hbound : boundPlan inputs (solutionStrategyToDraft strategy) = strategy.validationPlan :=
    h.planned.boundPlan rfl
  have hduplicate : duplicateReasons seen strategy.toStrategyFields = [] := by
    rw [duplicateReasons, hseen]
  have hnone : reasonsOf inputs seen (solutionStrategyToDraft strategy)
      strategy.scopeResolution = [] := by
    rw [reasonsOf, earlyReasons, hplan, h.resolved]
    change strategy.gateReasons ++ orderReasons strategy.toStrategyFields ++
      duplicateReasons seen strategy.toStrategyFields ++ [] ++ [] = []
    rw [h.reasons, h.ordered, hduplicate]
    rfl
  have heligible : ((solutionStrategyToDraft strategy).eligible && (reasonsOf inputs seen
      (solutionStrategyToDraft strategy) strategy.scopeResolution).isEmpty) = true := by
    rw [hnone]
    change (strategy.eligible && true) = true
    rw [h.eligible]
    rfl
  have hreasoned : Reasoned inputs seen (solutionStrategyToDraft strategy)
      strategy.scopeResolution := by
    intro hfalse
    rw [heligible] at hfalse
    cases hfalse
  have hsame : strategyOf strategy.scopeResolution hreasoned = strategy := by
    cases strategy
    rw [strategyOf, SolutionStrategy.mk.injEq]
    exact ⟨rfl, rfl, rfl, rfl, hbound, rfl, rfl, heligible.trans h.eligible.symm,
      hnone.trans h.reasons.symm⟩
  rw [finish_eq]
  change (if h : Reasoned inputs seen (solutionStrategyToDraft strategy) strategy.scopeResolution
    then Except.ok (some (strategyOf strategy.scopeResolution h)) else _) = _
  rw [dif_pos hreasoned, hsame]

/-- `seen'` holds no text that `seen` does not hold. -/
def Subsumed (seen' seen : List (String × String)) : Prop :=
  ∀ text, seen.lookup text = none → seen'.lookup text = none

theorem lookup_noteTradeoffs_eq_none {fields : StrategyFields} {text : String} :
    (noteTradeoffs seen fields).lookup text = none ↔
      seen.lookup text = none ∧ fields.strategyTradeoffs ≠ text := by
  unfold noteTradeoffs
  split
  · rename_i held hheld
    constructor
    · intro h
      refine ⟨h, fun heq => ?_⟩
      rw [heq, h] at hheld
      cases hheld
    · exact fun h => h.1
  · rw [List.lookup_cons]
    constructor
    · intro h
      split at h
      · cases h
      · rename_i hne
        exact ⟨h, fun heq => absurd (beq_iff_eq.mpr heq.symm) (by simp [hne])⟩
    · rintro ⟨h, hne⟩
      rw [beq_eq_false_iff_ne.mpr (Ne.symm hne)]
      exact h

theorem Subsumed.noteTradeoffs {seen' : List (String × String)} {fields : StrategyFields}
    (h : Subsumed seen' seen) : Subsumed seen' (noteTradeoffs seen fields) :=
  fun text hnone => h text (lookup_noteTradeoffs_eq_none.mp hnone).1

theorem Subsumed.noteBoth {seen' : List (String × String)} {fields : StrategyFields}
    (h : Subsumed seen' seen) :
    Subsumed (A3.noteTradeoffs seen' fields) (A3.noteTradeoffs seen fields) := by
  intro text hnone
  obtain ⟨hseen, hne⟩ := lookup_noteTradeoffs_eq_none.mp hnone
  exact lookup_noteTradeoffs_eq_none.mpr ⟨h text hseen, hne⟩

/-- Strategies that a pass left eligible come out of the next pass as they went in. -/
theorem Finished.kept {drafts : List StrategyDraft} {strategies : List SolutionStrategy}
    {keep : SolutionStrategy → Bool} (h : Finished inputs seen drafts strategies)
    (hkeep : ∀ strategy ∈ strategies, keep strategy = true → strategy.eligible = true) :
    ∀ seen', Subsumed seen' seen →
      Finished inputs seen' ((strategies.filter keep).map solutionStrategyToDraft)
        (strategies.filter keep) := by
  induction h with
  | nil => exact fun _ _ => .nil
  | @cons seen draft strategy drafts strategies hok _ ih =>
    intro seen' hsub
    have ih := ih fun s hs => hkeep s (List.mem_cons_of_mem _ hs)
    have hfields : strategy.toStrategyFields = draft.toStrategyFields := by
      obtain ⟨scope, _, hreasoned, hout⟩ := finish_ok hok
      cases hout
      rfl
    cases hk : keep strategy with
    | true =>
      obtain ⟨hsettled, hnone⟩ := settled_of_finish hok (hkeep _ List.mem_cons_self hk)
      rw [List.filter_cons_of_pos hk, List.map_cons]
      refine .cons (hsettled.finish (hsub _ hnone)) (ih _ ?_)
      rw [← hfields]
      exact hsub.noteBoth
    | false =>
      rw [List.filter_cons_of_neg (by simp [hk])]
      exact ih _ hsub.noteTradeoffs

/-- A pass on kept strategies and new drafts keeps the former, in front. -/
theorem Finished.kept_append {drafts new : List StrategyDraft}
    {strategies out : List SolutionStrategy} {keep : SolutionStrategy → Bool}
    (hbefore : Finished inputs [] drafts strategies)
    (hkeep : ∀ strategy ∈ strategies, keep strategy = true → strategy.eligible = true)
    (h : Finished inputs [] ((strategies.filter keep).map solutionStrategyToDraft ++ new) out) :
    ∃ fresh, out = strategies.filter keep ++ fresh ∧
      fresh.map (·.toStrategyFields) = new.map (·.toStrategyFields) := by
  obtain ⟨left, right, rfl, hleft, hright⟩ := h.split
  have hkept := hbefore.kept hkeep [] fun _ _ => rfl
  rw [hleft.unique hkept]
  exact ⟨right, rfl, hright.fields⟩

end Kept

end ProductionOptimizer.A3
