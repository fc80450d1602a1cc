import ProductionOptimizer.CritiqueOverride

/-!
# Which criteria a sealed plan covers

The gate of S02.81 asks for every impact the strategy lists: does some phase affect it, has some
phase that affects it validation commands, and does some phase that affects it have a done
criterion that contains its metric and target? The three phases need not be the same, what is
contained need not be a word, and a criterion without an impact is not asked about.
-/

namespace ProductionOptimizer.PlanReview
set_option autoImplicit false

/-! ### The gate -/

/-- The draft S02.81 finds once S02.40 and S02.60 have seen it. -/
def reviewedDraft (rules : TextRules) (base : PlanDraft) (phases : List PlanPhase)
    (strategy : ReviewedStrategy) (criteria : List AnalysedCriterion) : PlanDraft :=
  { base with
    phases := phases.map (·.toExecutionPhase)
    acceptanceCoverage := criterionCoverage rules phases strategy (some criteria) }

/-- All ten dimensions pass, so the plan is sealed. -/
def Sealed (rules : TextRules) (base : PlanDraft) (criticApproved : Bool)
    (allowedPaths : List String) (phases : List PlanPhase) (strategy : ReviewedStrategy)
    (criteria : List AnalysedCriterion) : Prop :=
  (planQuality (reviewedDraft rules base phases strategy criteria) criticApproved
    allowedPaths).all (·.passed) = true

theorem mem_dictSet_self {V : Type} (d : List (String × V)) (key : String) (value : V) :
    (key, value) ∈ dictSet d key value := by
  unfold dictSet
  split
  · rename_i hany
    obtain ⟨e, he, hkey⟩ := List.any_eq_true.mp hany
    apply List.mem_map.mpr
    exact ⟨e, he, if_pos hkey⟩
  · exact List.mem_append_right _ (List.mem_singleton_self _)

/-- Setting a key to the value a function gives it keeps what the function gives. -/
theorem mem_dictSet_of_mem {V : Type} {f : String → V} {d : List (String × V)} {key : String}
    (id : String) (h : (id, f id) ∈ d) : (id, f id) ∈ dictSet d key (f key) := by
  unfold dictSet
  split
  · apply List.mem_map.mpr
    by_cases hid : id = key
    · exact ⟨(id, f id), h, by rw [hid]; exact if_pos (beq_self_eq_true key)⟩
    · exact ⟨(id, f id), h, if_neg (by simpa using hid)⟩
  · exact List.mem_append_left _ h

theorem mem_dictOf_map {V : Type} (f : String → V) {ids : List String} {id : String}
    (h : id ∈ ids) : (id, f id) ∈ dictOf (ids.map fun id => (id, f id)) := by
  have hrun : ∀ d : List (String × V), id ∈ ids ∨ (id, f id) ∈ d →
      (id, f id) ∈ (ids.map fun id => (id, f id)).foldl (fun d e => dictSet d e.1 e.2) d := by
    clear h
    induction ids with
    | nil =>
      intro d hd
      rcases hd with hmem | hd
      · cases hmem
      · exact hd
    | cons first ids ih =>
      intro d hd
      apply ih
      rcases hd with hmem | hd
      · rcases List.mem_cons.mp hmem with rfl | hmem
        · exact .inr (mem_dictSet_self _ _ _)
        · exact .inl hmem
      · exact .inr (mem_dictSet_of_mem id hd)
  exact hrun [] (.inl h)

section Gate
variable {rules : TextRules} {base : PlanDraft} {criticApproved : Bool}
  {allowedPaths : List String} {phases : List PlanPhase} {strategy : ReviewedStrategy}
  {criteria : List AnalysedCriterion}

/-- A sealed plan passes the test on every impact. -/
theorem impactCovered_of_sealed
    (h : Sealed rules base criticApproved allowedPaths phases strategy criteria) {impactId : String}
    (himpact : impactId ∈ strategy.criterionImpacts) :
    impactCovered rules phases (some criteria) impactId = true := by
  unfold Sealed planQuality at h
  simp only [List.all_cons, List.all_nil, Bool.and_eq_true] at h
  obtain ⟨-, -, -, -, -, -, -, ⟨-, hcoverage⟩, -⟩ := h
  exact List.all_eq_true.mp hcoverage _ (mem_dictOf_map _ himpact)

end Gate

/-! ### Coverage by whole words -/

section Words
variable (rules : TextRules) (isWord : Char → Bool)

/-- The test of `doneMatches` with words for substrings. -/
def namesCriterion (criterion : AnalysedCriterion) (done : String) : Bool :=
  let criterionId := rules.lower criterion.criterionId
  let metricId := rules.lower criterion.metricId
  let target := rules.lower (rules.float criterion.target)
  (namesWord isWord criterionId done && namesWord isWord metricId done &&
    (namesWord isWord target done || namesWord isWord criterion.direction.name done ||
      namesWord isWord criterion.aggregation.name done)) ||
  (namesWord isWord metricId done && namesWord isWord target done)

/-- The phase lists the criterion and has validation commands. -/
def Validates (criterion : AnalysedCriterion) (phase : PlanPhase) : Prop :=
  criterion.criterionId ∈ phase.affectedCriteria ∧ phase.validationCommandIds ≠ []

/-- One of the phase's own done criteria passes the test of the gate. -/
def Mentions (criterion : AnalysedCriterion) (phase : PlanPhase) : Prop :=
  ∃ done ∈ phase.doneCriteria, doneMatches rules criterion (rules.lower done) = true

/-- One of the phase's own done criteria names the criterion in whole words. -/
def Names (criterion : AnalysedCriterion) (phase : PlanPhase) : Prop :=
  ∃ done ∈ phase.doneCriteria, namesCriterion rules isWord criterion (rules.lower done) = true

def Covered (phases : List PlanPhase) (criterion : AnalysedCriterion) : Prop :=
  ∃ phase ∈ phases, Validates criterion phase ∧ Names rules isWord criterion phase

variable {rules isWord}

theorem occursIn_of_namesWord {needle text : String} (h : namesWord isWord needle text = true) :
    occursIn needle text = true := by
  unfold namesWord at h
  unfold occursIn
  obtain ⟨cut, hcut, hword⟩ := List.any_eq_true.mp h
  apply List.any_eq_true.mpr
  rw [Bool.and_eq_true, Bool.and_eq_true] at hword
  exact ⟨cut, hcut, hword.1.1⟩

theorem doneMatches_of_namesCriterion {criterion : AnalysedCriterion} {done : String}
    (h : namesCriterion rules isWord criterion done = true) :
    doneMatches rules criterion done = true := by
  unfold namesCriterion at h
  unfold doneMatches
  simp only [Bool.or_eq_true, Bool.and_eq_true] at h ⊢
  rcases h with ⟨⟨hid, hmetric⟩, hrest⟩ | ⟨hmetric, htarget⟩
  · left
    refine ⟨⟨occursIn_of_namesWord hid, occursIn_of_namesWord hmetric⟩, ?_⟩
    rcases hrest with (htarget | hdirection) | haggregation
    · exact .inl (.inl (occursIn_of_namesWord htarget))
    · exact .inl (.inr (occursIn_of_namesWord hdirection))
    · exact .inr (occursIn_of_namesWord haggregation)
  · exact .inr ⟨occursIn_of_namesWord hmetric, occursIn_of_namesWord htarget⟩

theorem Names.mentions {criterion : AnalysedCriterion} {phase : PlanPhase}
    (h : Names rules isWord criterion phase) : Mentions rules criterion phase := by
  obtain ⟨done, hdone, hnames⟩ := h
  exact ⟨done, hdone, doneMatches_of_namesCriterion hnames⟩

end Words

/-! ### When the gate is right -/

section Condition
variable (rules : TextRules) (isWord : Char → Bool) (phases : List PlanPhase)
  (strategy : ReviewedStrategy) (criteria : List AnalysedCriterion) (criterion : AnalysedCriterion)

/-- The gate asks about the criterion: an impact names it, and no later criterion has its id. -/
def Checked : Prop :=
  criterion.criterionId ∈ strategy.criterionImpacts ∧
    lastWhere criteria (·.criterionId == criterion.criterionId) = some criterion

/-- One phase that lists the criterion has commands and another has the text, but none has
both. -/
def Scattered : Prop :=
  (∃ phase ∈ phases, Validates criterion phase) ∧
    (∃ phase ∈ phases, criterion.criterionId ∈ phase.affectedCriteria ∧
      Mentions rules criterion phase) ∧
    ∀ phase ∈ phases, Validates criterion phase → ¬ Mentions rules criterion phase

/-- A phase with commands passes the gate's test, but only inside longer words. -/
def InsideWords : Prop :=
  (∃ phase ∈ phases, Validates criterion phase ∧ Mentions rules criterion phase) ∧
    ∀ phase ∈ phases, Validates criterion phase → ¬ Names rules isWord criterion phase

/-- No phase with commands that lists the criterion names it, and the gate does not ask. -/
def Overlooked : Prop :=
  ¬ Checked strategy criteria criterion ∧
    ∀ phase ∈ phases, Validates criterion phase → ¬ Names rules isWord criterion phase

end Condition

section SealedPlan
variable {rules : TextRules} {base : PlanDraft} {criticApproved : Bool}
  {allowedPaths : List String} {phases : List PlanPhase} {strategy : ReviewedStrategy}
  {criteria : List AnalysedCriterion}

/-- What the gate has seen of a criterion it asks about. -/
theorem parts_of_sealed
    (hsealed : Sealed rules base criticApproved allowedPaths phases strategy criteria)
    {criterion : AnalysedCriterion} (hchecked : Checked strategy criteria criterion) :
    (∃ phase ∈ phases, Validates criterion phase) ∧
      ∃ phase ∈ phases, criterion.criterionId ∈ phase.affectedCriteria ∧
        Mentions rules criterion phase := by
  obtain ⟨himpact, hlast⟩ := hchecked
  have hcovered := impactCovered_of_sealed hsealed himpact
  unfold impactCovered at hcovered
  simp only [Option.getD_some, hlast] at hcovered
  split at hcovered
  · cases hcovered
  · split at hcovered
    · cases hcovered
    · rename_i hcommands
      rw [Bool.not_eq_true', Bool.not_eq_false] at hcommands
      obtain ⟨phase, hphase, hvalidated⟩ := List.any_eq_true.mp hcommands
      obtain ⟨hmem, haffects⟩ := List.mem_filter.mp hphase
      refine ⟨⟨phase, hmem, by simpa using haffects, by simpa using hvalidated⟩, ?_⟩
      obtain ⟨text, htext, hmatches⟩ := List.any_eq_true.mp hcovered
      obtain ⟨writer, hwriter, hdone⟩ := List.mem_flatMap.mp htext
      obtain ⟨done, hmember, rfl⟩ := List.mem_map.mp hdone
      obtain ⟨hin, hlists⟩ := List.mem_filter.mp hwriter
      exact ⟨writer, hin, by simpa using hlists, done, hmember, hmatches⟩

/-- A sealed plan covers every criterion exactly when none is overlooked, and those the gate asks
about are neither scattered over phases nor found inside longer words only. -/
theorem sealed_plan_covers_iff (isWord : Char → Bool)
    (hsealed : Sealed rules base criticApproved allowedPaths phases strategy criteria) :
    (∀ criterion ∈ criteria, Covered rules isWord phases criterion) ↔
      ∀ criterion ∈ criteria, ¬ Overlooked rules isWord phases strategy criteria criterion ∧
        ¬ Scattered rules phases criterion ∧ ¬ InsideWords rules isWord phases criterion := by
  apply forall₂_congr
  intro criterion _
  constructor
  · rintro ⟨phase, hphase, hvalidates, hnames⟩
    refine ⟨?_, ?_, ?_⟩
    · intro hoverlooked
      exact hoverlooked.2 phase hphase hvalidates hnames
    · intro hscattered
      exact hscattered.2.2 phase hphase hvalidates hnames.mentions
    · intro hinside
      exact hinside.2 phase hphase hvalidates hnames
  · rintro ⟨hseen, hscattered, hinside⟩
    by_contra huncovered
    have hnone : ∀ phase ∈ phases, Validates criterion phase →
        ¬ Names rules isWord criterion phase := by
      intro phase hphase hvalidates hnames
      exact huncovered ⟨phase, hphase, hvalidates, hnames⟩
    by_cases hchecked : Checked strategy criteria criterion
    · -- The gate has found commands and a text; if one phase has both, the text is too loose.
      obtain ⟨hcommands, htext⟩ := parts_of_sealed hsealed hchecked
      apply hinside
      refine ⟨?_, hnone⟩
      by_contra hno
      apply hscattered
      refine ⟨hcommands, htext, ?_⟩
      intro phase hphase hvalidates hmentions
      exact hno ⟨phase, hphase, hvalidates, hmentions⟩
    · exact hseen ⟨hchecked, hnone⟩

end SealedPlan

/-! ### A plan that is sealed without its criteria -/

def p95Criterion : AnalysedCriterion :=
  ⟨⟨"p95", "p95_latency_ms", .minimize, 20, 1⟩, "ms", .p95⟩
def costCriterion : AnalysedCriterion := ⟨⟨"cost", "cost_usd", .minimize, 5, 1⟩, "usd", .mean⟩

def p95Strategy : ReviewedStrategy := ⟨.code, ["p95"], ["unit"], []⟩

def draftedPhase (done : String) : DraftPhase where
  phaseId := "p1"
  sequence := 1
  phaseKind := .implementation
  riskTier := some .code
  treatmentVariable := "index"
  doneCriteria := [done]
  affectedCriteria := []
  validationCommandIds := []
  rollbackCommand := some "git revert"

/-- The phase after S02.40, which fills in the impacts and the commands of the strategy. -/
def plannedPhases (done : String) : List PlanPhase :=
  [materializePhase p95Strategy [] (draftedPhase done)]

def plannedDraft : PlanDraft where
  tasks := [⟨"t1", "p1", ["a.py"], [], [], false⟩]
  rollbackOk := true

/-- The target 20.0 is found in 120.0, and nobody asks for the cost. -/
theorem sealed_without_criteria :
    Sealed asciiRules plannedDraft true ["a.py"] (plannedPhases "p95_latency_ms below 120.0")
        p95Strategy [p95Criterion, costCriterion] ∧
      ¬ Covered asciiRules identifierChar (plannedPhases "p95_latency_ms below 120.0")
          p95Criterion ∧
      ¬ Covered asciiRules identifierChar (plannedPhases "p95_latency_ms below 120.0")
          costCriterion := by
  refine ⟨by unfold Sealed; decide +kernel, ?_, ?_⟩
  · rintro ⟨phase, hphase, -, done, hdone, hnames⟩
    obtain rfl := List.mem_singleton.mp hphase
    obtain rfl := List.mem_singleton.mp hdone
    revert hnames
    decide +kernel
  · rintro ⟨phase, hphase, ⟨haffects, -⟩, -⟩
    obtain rfl := List.mem_singleton.mp hphase
    revert haffects
    decide +kernel

theorem sealed_p95 : Sealed asciiRules plannedDraft true ["a.py"]
    (plannedPhases "p95_latency_ms below 20.0") p95Strategy [p95Criterion] := by
  unfold Sealed
  decide +kernel

theorem covered_p95 :
    Covered asciiRules identifierChar (plannedPhases "p95_latency_ms below 20.0") p95Criterion := by
  refine ⟨_, List.mem_singleton_self _, ?_, "p95_latency_ms below 20.0",
    List.mem_singleton_self _, by decide +kernel⟩
  unfold Validates
  decide +kernel

theorem p95_neither_overlooked_nor_loose :
    Sealed asciiRules plannedDraft true ["a.py"] (plannedPhases "p95_latency_ms below 20.0")
        p95Strategy [p95Criterion] ∧
      ∀ criterion ∈ [p95Criterion],
        ¬ Overlooked asciiRules identifierChar (plannedPhases "p95_latency_ms below 20.0")
            p95Strategy [p95Criterion] criterion ∧
          ¬ Scattered asciiRules (plannedPhases "p95_latency_ms below 20.0") criterion ∧
          ¬ InsideWords asciiRules identifierChar (plannedPhases "p95_latency_ms below 20.0")
            criterion := by
  refine ⟨sealed_p95, ?_⟩
  apply (sealed_plan_covers_iff identifierChar sealed_p95).mp
  intro criterion hmem
  obtain rfl := List.mem_singleton.mp hmem
  exact covered_p95

end ProductionOptimizer.PlanReview
