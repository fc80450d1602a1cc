import ProductionOptimizer.Handlers.PlanReview

/-!
# When a critic's rejection is overridden

`_grounded_critique` turns a rejection into an approval when every reason contains the id of a
diagnostic phase and speaks of a missing rollback. Containing an id is less than naming the
phase: an id may stand inside a longer word, and the reason may be about an implementation
phase.
-/

namespace ProductionOptimizer.PlanReview
set_option autoImplicit false

section Override
variable (rules : TextRules) (isWord : Char → Bool) (parsed : Critique) (phases : List PlanPhase)
  (tasks : List PlanTask) (coverage : List (String × Bool)) (rollbackReasons : List String)

/-- The reasons that are not blank. -/
def reasons : List String := (parsed.omissions ++ parsed.concerns).filter (rules.strip · != "")

/-- The reason names a phase of that kind as a whole word. -/
def namesPhase (kind : PhaseKind) (reason : String) : Bool :=
  phases.any fun phase => phase.phaseKind == kind &&
    namesWord isWord (rules.lower phase.phaseId) (rules.lower reason)

/-- A complaint about the rollback of a diagnostic phase and of no implementation phase. -/
def DiagnosticComplaint (reason : String) : Prop :=
  missesRollback rules reason = true ∧ namesPhase rules isWord phases .diagnostic reason = true ∧
    namesPhase rules isWord phases .implementation reason = false

/-- `text` stands in exactly one of three lists. -/
def InOneOf (text : String) (first second third : List String) : Prop :=
  (text ∈ first ∧ text ∉ second ∧ text ∉ third) ∨ (text ∉ first ∧ text ∈ second ∧ text ∉ third) ∨
    (text ∉ first ∧ text ∉ second ∧ text ∈ third)

/-- What overriding a rejection is for, and that no reason gets lost. -/
structure OverridesRightly (result : GroundedCritique) : Prop where
  approved : result.approved = true → parsed.approved = true ∨
    reasons rules parsed ≠ [] ∧
      ∀ reason ∈ reasons rules parsed, DiagnosticComplaint rules isWord phases reason
  placed : ∀ reason ∈ reasons rules parsed,
    ¬ (reason ∈ parsed.omissions ∧ reason ∈ parsed.concerns) →
      InOneOf reason result.omissions result.concerns result.ignoredUngrounded

/-- The reason is not about a diagnostic phase alone: no diagnostic id stands in it as a word of
its own, or the id of an implementation phase does. -/
def Stray (reason : String) : Prop :=
  namesPhase rules isWord phases .diagnostic reason = false ∨
    namesPhase rules isWord phases .implementation reason = true

variable {rules parsed phases tasks coverage rollbackReasons}

theorem mem_reasons {reason : String} : reason ∈ reasons rules parsed ↔
    (reason ∈ parsed.omissions ∨ reason ∈ parsed.concerns) ∧ rules.strip reason ≠ "" := by
  unfold reasons
  rw [List.mem_filter, List.mem_append, bne_iff_ne]

theorem approved_groundedCritique :
    (groundedCritique rules parsed phases tasks coverage rollbackReasons).approved = true ↔
      parsed.approved = true ∨ reasons rules parsed ≠ [] ∧ ∀ reason ∈ reasons rules parsed,
        contradictsDiagnosticRollbackRule rules
          (diagnosticPhaseIds rules phases) reason = true := by
  unfold groundedCritique reasons
  dsimp only
  rw [← List.filter_append, Bool.or_eq_true, Bool.and_eq_true, Bool.not_eq_true',
    List.isEmpty_eq_false_iff, List.all_eq_true]

/-- A reason of one list is kept there when it is actionable, and ignored otherwise. -/
theorem placed_groundedCritique {reason : String} (hreason : reason ∈ reasons rules parsed)
    (hone : ¬ (reason ∈ parsed.omissions ∧ reason ∈ parsed.concerns)) :
    InOneOf reason
      (groundedCritique rules parsed phases tasks coverage rollbackReasons).omissions
      (groundedCritique rules parsed phases tasks coverage rollbackReasons).concerns
      (groundedCritique rules parsed phases tasks coverage rollbackReasons).ignoredUngrounded := by
  obtain ⟨hin, hstrip⟩ := mem_reasons.mp hreason
  have hblank : (rules.strip reason != "") = true := by simpa using hstrip
  unfold groundedCritique InOneOf
  dsimp only
  generalize hactionable : (fun message =>
    grounded rules (anchors rules phases tasks coverage rollbackReasons) message &&
      !contradictsDiagnosticRollbackRule rules (diagnosticPhaseIds rules phases) message) =
    actionable
  simp only [List.mem_filter, List.mem_append, hblank, and_true, Bool.and_eq_true,
    Bool.not_eq_true', List.contains_eq_mem, decide_eq_false_iff_not]
  rcases hin with homission | hconcern
  · have hconcern : reason ∉ parsed.concerns := fun hconcern => hone ⟨homission, hconcern⟩
    cases actionable reason <;> simp [homission, hconcern]
  · have homission : reason ∉ parsed.omissions := fun homission => hone ⟨homission, hconcern⟩
    cases actionable reason <;> simp [homission, hconcern]

theorem contradicts_iff {reason : String} :
    contradictsDiagnosticRollbackRule rules (diagnosticPhaseIds rules phases) reason = true ↔
      (diagnosticPhaseIds rules phases).any (occursIn · (rules.lower reason)) = true ∧
        missesRollback rules reason = true := by
  unfold contradictsDiagnosticRollbackRule
  exact Bool.and_eq_true_iff

end Override

/-- A rejection is overridden rightly exactly when the critic approved, or one of the reasons does
not pass the substring test, or no reason is stray. -/
theorem overrides_rightly_iff (rules : TextRules) (isWord : Char → Bool) (parsed : Critique)
    (phases : List PlanPhase) (tasks : List PlanTask) (coverage : List (String × Bool))
    (rollbackReasons : List String) :
    OverridesRightly rules isWord parsed phases
        (groundedCritique rules parsed phases tasks coverage rollbackReasons) ↔
      parsed.approved = true ∨
      (∃ reason ∈ reasons rules parsed, contradictsDiagnosticRollbackRule rules
        (diagnosticPhaseIds rules phases) reason = false) ∨
      ∀ reason ∈ reasons rules parsed, ¬ Stray rules isWord phases reason := by
  constructor
  · intro h
    by_cases happroved : parsed.approved = true
    · exact .inl happroved
    · right
      by_cases hpass : ∃ reason ∈ reasons rules parsed, contradictsDiagnosticRollbackRule rules
          (diagnosticPhaseIds rules phases) reason = false
      · exact .inl hpass
      · right
        intro reason hreason hstray
        -- All reasons pass the test, so the rejection has been overridden.
        have hall : ∀ reason ∈ reasons rules parsed, contradictsDiagnosticRollbackRule rules
            (diagnosticPhaseIds rules phases) reason = true := by
          intro other hother
          by_contra hfalse
          exact hpass ⟨other, hother, by simpa using hfalse⟩
        have hout := h.approved (approved_groundedCritique.mpr
          (.inr ⟨List.ne_nil_of_mem hreason, hall⟩))
        rcases hout with hcritic | ⟨-, hcomplaints⟩
        · exact happroved hcritic
        · obtain ⟨-, hdiagnostic, himplementation⟩ := hcomplaints reason hreason
          rcases hstray with hnone | himpl
          · rw [hdiagnostic] at hnone
            cases hnone
          · rw [himplementation] at himpl
            cases himpl
  · intro h
    refine ⟨?_, fun reason hreason hone => placed_groundedCritique hreason hone⟩
    intro hout
    rcases approved_groundedCritique.mp hout with hcritic | ⟨hne, hall⟩
    · exact .inl hcritic
    · rcases h with hcritic | ⟨reason, hreason, hfalse⟩ | hstray
      · exact .inl hcritic
      · rw [hall reason hreason] at hfalse
        cases hfalse
      · right
        refine ⟨hne, ?_⟩
        intro reason hreason
        have hnot := hstray reason hreason
        unfold Stray at hnot
        rw [not_or, Bool.not_eq_false, Bool.not_eq_true] at hnot
        exact ⟨(contradicts_iff.mp (hall reason hreason)).2, hnot⟩

/-! ### A rejection that should have stood -/

/-- The rules on ASCII texts without outer blanks and on whole numbers. -/
def asciiRules : TextRules where
  lower text := String.ofList (text.toList.map Char.toLower)
  strip := id
  float value := toString value.num ++ ".0"

def identifierChar (c : Char) : Bool := c.isAlphanum || c == '_' || c == '-'

def reviewedPhase (phaseId : String) (sequence : Nat) (phaseKind : PhaseKind) : PlanPhase where
  phaseId := phaseId
  sequence := sequence
  phaseKind := phaseKind
  riskTier := .code
  treatmentVariable := "index"
  doneCriteria := ["p95 below target"]
  affectedCriteria := ["p95"]
  validationCommandIds := ["unit"]
  rollbackCommand := none

def scanAndRescan : List PlanPhase :=
  [reviewedPhase "scan" 1 .diagnostic, reviewedPhase "rescan" 2 .implementation]

def rescanRejected : Critique := ⟨["Phase rescan has no rollback."], [], false⟩

/-- The only reason is about the implementation phase "rescan", whose name contains "scan". -/
theorem rejection_of_implementation_overridden :
    (groundedCritique asciiRules rescanRejected scanAndRescan [] [] []).approved = true ∧
      ¬ OverridesRightly asciiRules identifierChar rescanRejected scanAndRescan
        (groundedCritique asciiRules rescanRejected scanAndRescan [] [] []) := by
  have happroved :
      (groundedCritique asciiRules rescanRejected scanAndRescan [] [] []).approved = true := by
    decide +kernel
  refine ⟨happroved, ?_⟩
  intro h
  rcases h.approved happroved with hcritic | ⟨-, hcomplaints⟩
  · cases hcritic
  · have hmem : "Phase rescan has no rollback." ∈ reasons asciiRules rescanRejected := by
      decide +kernel
    have himplementation := (hcomplaints _ hmem).2.2
    revert himplementation
    decide +kernel

end ProductionOptimizer.PlanReview
