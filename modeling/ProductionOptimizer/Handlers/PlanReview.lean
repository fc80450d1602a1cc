import ProductionOptimizer.Handlers.Detection
import ProductionOptimizer.Handlers.PlanAndTasks

/-!
# S02: coverage of the criteria and the critic's verdict

The texts of a plan as S02.40, S02.60 and S02.80 read them. Where these nodes ask whether a text
names something, they search for a substring of the lower-cased text.
-/

namespace ProductionOptimizer.PlanReview
set_option autoImplicit false

/-! ### Searching texts -/

/-- `str.lower`, `str.strip` and `str` of a float. -/
structure TextRules where
  lower : String → String
  strip : String → String
  float : ℚ → String

/-- Every way to cut a text in two. -/
def cuts (text : List Char) : List (List Char × List Char) := text.inits.zip text.tails

/-- `needle in text`. -/
def occursIn (needle text : String) : Bool :=
  (cuts text.toList).any fun cut => needle.toList.isPrefixOf cut.2

/-- An occurrence that no character of a word touches on either side. -/
def namesWord (isWord : Char → Bool) (needle text : String) : Bool :=
  (cuts text.toList).any fun cut => needle.toList.isPrefixOf cut.2 &&
    cut.1.getLast?.all (!isWord ·) && (cut.2.drop needle.length).head?.all (!isWord ·)

/-! ### The plan under review -/

structure PlanPhase where
  phaseId : String
  sequence : Nat
  phaseKind : PhaseKind
  riskTier : RiskTier
  treatmentVariable : String
  doneCriteria : List String
  affectedCriteria : List String
  validationCommandIds : List String
  rollbackCommand : Option String
  deriving DecidableEq

def PlanPhase.toExecutionPhase (phase : PlanPhase) : ExecutionPhase :=
  ⟨phase.phaseId, phase.sequence, phase.phaseKind, phase.riskTier, phase.rollbackCommand⟩

/-- A phase as the model drafted it; a risk tier that is none of the four counts as missing. -/
structure DraftPhase where
  phaseId : String
  sequence : Nat
  phaseKind : PhaseKind
  riskTier : Option RiskTier
  treatmentVariable : String
  doneCriteria : List String
  affectedCriteria : List String
  validationCommandIds : List String
  rollbackCommand : Option String

/-- What S02.40 reads of the selected strategy. -/
structure ReviewedStrategy where
  riskCeiling : RiskTier
  criterionImpacts : List String
  testCommandIds : List String
  phaseRiskTiers : List (String × RiskTier)

/-- `_strategy_validation_command_ids`; the second list holds the evaluations of the request. -/
def strategyValidationCommandIds (strategy : ReviewedStrategy) (evaluationIds : List String) :
    List String :=
  if strategy.testCommandIds.isEmpty then evaluationIds else strategy.testCommandIds

/-- One round of S02.40: what the draft leaves empty is filled in. -/
def materializePhase (strategy : ReviewedStrategy) (evaluationIds : List String)
    (draft : DraftPhase) : PlanPhase where
  phaseId := draft.phaseId
  sequence := draft.sequence
  phaseKind := draft.phaseKind
  riskTier := draft.riskTier.getD
    ((strategy.phaseRiskTiers.lookup draft.phaseId).getD strategy.riskCeiling)
  treatmentVariable := draft.treatmentVariable
  doneCriteria := draft.doneCriteria
  affectedCriteria :=
    if draft.affectedCriteria.isEmpty then strategy.criterionImpacts else draft.affectedCriteria
  validationCommandIds :=
    if draft.validationCommandIds.isEmpty then
      strategyValidationCommandIds strategy evaluationIds
    else draft.validationCommandIds
  rollbackCommand := draft.rollbackCommand

/-! ### S02.60 -/

section Coverage
variable (rules : TextRules)

/-- The test on one lower-cased done criterion. -/
def doneMatches (criterion : AnalysedCriterion) (done : String) : Bool :=
  let criterionId := rules.lower criterion.criterionId
  let metricId := rules.lower criterion.metricId
  let target := rules.lower (rules.float criterion.target)
  (occursIn criterionId done && occursIn metricId done &&
    (occursIn target done || occursIn criterion.direction.name done ||
      occursIn criterion.aggregation.name done)) ||
  (occursIn metricId done && occursIn target done)

/-- The entry of one impact. -/
def impactCovered (phases : List PlanPhase) (criteria : Option (List AnalysedCriterion))
    (impactId : String) : Bool :=
  let affecting := phases.filter (·.affectedCriteria.contains impactId)
  if affecting.isEmpty then false
  else if !affecting.any (!·.validationCommandIds.isEmpty) then false
  else
    let doneTexts := affecting.flatMap fun phase => phase.doneCriteria.map rules.lower
    match lastWhere (criteria.getD []) (·.criterionId == impactId) with
    | none => doneTexts.any (occursIn (rules.lower impactId))
    | some criterion => doneTexts.any (doneMatches rules criterion)

/-- `_criterion_coverage`. -/
def criterionCoverage (phases : List PlanPhase) (strategy : ReviewedStrategy)
    (criteria : Option (List AnalysedCriterion)) : List (String × Bool) :=
  dictOf (strategy.criterionImpacts.map fun impactId =>
    (impactId, impactCovered rules phases criteria impactId))

end Coverage

/-! ### S02.80 -/

section Critique
variable (rules : TextRules)

def rollbackMarkers : List String :=
  ["rollback=none", "rollback = none", "no rollback", "without rollback", "missing rollback",
    "rollback is none", "lacks rollback", "rollback command is not", "has no rollback",
    "null rollback"]

/-- The last two tests of `_contradicts_diagnostic_rollback_rule`. -/
def missesRollback (message : String) : Bool :=
  let lower := rules.lower message
  occursIn "rollback" lower && rollbackMarkers.any (occursIn · lower)

def contradictsDiagnosticRollbackRule (diagnosticPhaseIds : List String) (message : String) :
    Bool :=
  let lower := rules.lower message
  diagnosticPhaseIds.any (occursIn · lower) && missesRollback rules message

/-- The critic's reply, with every item as the text `str` makes of it. -/
structure Critique where
  omissions : List String
  concerns : List String
  approved : Bool

structure GroundedCritique where
  omissions : List String
  concerns : List String
  ignoredUngrounded : List String
  approved : Bool

def anchors (phases : List PlanPhase) (tasks : List PlanTask) (coverage : List (String × Bool))
    (rollbackReasons : List String) : List String :=
  phases.map (rules.lower ·.phaseId) ++ phases.map (rules.lower ·.treatmentVariable) ++
    tasks.map (rules.lower ·.taskId) ++ (tasks.flatMap (·.files)).map rules.lower ++
    coverage.map (rules.lower ·.1) ++
    ["criteria", "criterion", "done_criteria", "rollback", "dependency"] ++
    rollbackReasons.map rules.lower

def diagnosticPhaseIds (phases : List PlanPhase) : List String :=
  (phases.filter (·.phaseKind == .diagnostic)).map (rules.lower ·.phaseId)

def grounded (anchors : List String) (message : String) : Bool :=
  anchors.any fun anchor => anchor != "" && occursIn anchor (rules.lower message)

/-- `_grounded_critique`. -/
def groundedCritique (parsed : Critique) (phases : List PlanPhase) (tasks : List PlanTask)
    (coverage : List (String × Bool)) (rollbackReasons : List String) : GroundedCritique :=
  let omissions := parsed.omissions.filter (rules.strip · != "")
  let concerns := parsed.concerns.filter (rules.strip · != "")
  let diagnostic := diagnosticPhaseIds rules phases
  let actionable := fun message =>
    grounded rules (anchors rules phases tasks coverage rollbackReasons) message &&
      !contradictsDiagnosticRollbackRule rules diagnostic message
  let groundedOmissions := omissions.filter actionable
  let groundedConcerns := concerns.filter actionable
  { omissions := groundedOmissions
    concerns := groundedConcerns
    ignoredUngrounded := (omissions ++ concerns).filter fun message =>
      !groundedOmissions.contains message && !groundedConcerns.contains message
    approved := parsed.approved ||
      (!(omissions ++ concerns).isEmpty &&
        (omissions ++ concerns).all (contradictsDiagnosticRollbackRule rules diagnostic)) }

end Critique

end ProductionOptimizer.PlanReview
