import ProductionOptimizer.Contracts.Strategies

/-!
# A3.60 to A3.80: from the generator's answer to finished strategies

What each node does to one draft, and to the list of drafts that travels through the pass. A
node computes an assessment only where the draft has none, since the same list also carries
the strategies kept from the pass before.
-/

namespace ProductionOptimizer.A3
set_option autoImplicit false

inductive A3Failure where
  | missingJudgements
  | missingFindingSet
  | missingDraftSet (node pass : Nat)
  | missingStrategySet (pass : Nat)
  | missingQualityReport (pass : Nat)
  | conflict (node pass : Nat)
  | invalidJudgement
  | invalidScopeEntry
  | invalidStrategy
  | invalidPortfolio
  | nodeNotEnabled (number : Nat)
  deriving DecidableEq

/-! ### The generator's answer -/

/-- A key of a raw strategy beside those of the schema. -/
inductive Key (V : Type) where
  | absent
  | malformed
  | given (value : V)
  deriving DecidableEq

/-- An entry of `strategies` in the answer. `named` holds the fields of the schema once
validated, and nothing where one of them does not validate. -/
structure RawStrategy where
  named : Option NamedFields
  impactAssessment : Key ImpactAssessment := .absent
  tradeoffAnalysis : Key TradeoffAnalysis := .absent
  validationPlan : Key ValidationPlan := .absent
  rollbackPlan : Key RollbackPlan := .absent
  scopeResolution : Key ScopeResolutionReport := .absent
  riskAssessment : Key RiskAssessment := .absent
  eligible : Key Bool := .absent
  gateReasons : Key (List String) := .absent
  unknownKeys : List String := []
  deriving DecidableEq

def Key.optional {V : Type} : Key V → Option (Option V)
  | .absent => some none
  | .malformed => none
  | .given value => some (some value)

/-- `StrategyDraft.model_validate`: every key must validate and no other may be there. -/
def modelValidate (raw : RawStrategy) : Option StrategyDraft := do
  let named ← raw.named
  let impactAssessment ← raw.impactAssessment.optional
  let tradeoffAnalysis ← raw.tradeoffAnalysis.optional
  let validationPlan ← raw.validationPlan.optional
  let rollbackPlan ← raw.rollbackPlan.optional
  let scopeResolution ← raw.scopeResolution.optional
  let riskAssessment ← raw.riskAssessment.optional
  let eligible ← raw.eligible.optional
  let gateReasons ← raw.gateReasons.optional
  if raw.unknownKeys = [] then
    some ⟨named, impactAssessment, tradeoffAnalysis, validationPlan, rollbackPlan,
      scopeResolution, riskAssessment, eligible.getD true, gateReasons.getD []⟩
  else none

/-- One completion of the generator; `strategies` is what a parsed answer lists. -/
structure Completion where
  validJson : Bool := true
  strategies : Option (List RawStrategy) := some []
  tokens : Nat := 0
  deriving DecidableEq

/-- The completion that counts: the repair, where the first one is no JSON. -/
def effectiveCompletion (first repair : Completion) : Completion :=
  if first.validJson then first else { repair with tokens := first.tokens + repair.tokens }

def rawStrategies (result : Completion) : List RawStrategy :=
  if result.validJson then result.strategies.getD [] else []

def generateStrategyDrafts (first repair : Completion) : List StrategyDraft × Nat :=
  let result := effectiveCompletion first repair
  ((rawStrategies result).filterMap modelValidate, result.tokens)

/-! ### The nodes on one draft -/

/-- The draft with these reasons; a reason takes the eligibility away. -/
def StrategyDraft.gated (draft : StrategyDraft) (reasons : List String) : StrategyDraft :=
  { draft with eligible := draft.eligible && reasons.isEmpty, gateReasons := reasons }

def orderReasons (fields : StrategyFields) : List String :=
  let sequences := fields.phaseTemplates.map (·.sequence)
  if sequences ≠ sequences.insertionSort (· ≤ ·) ∨ sequences.dedup.length ≠ sequences.length then
    ["phase_templates sequence numbers are not strictly ordered/unique"]
  else []

/-- `A3.61` on one draft. -/
def definePhases (draft : StrategyDraft) : StrategyDraft :=
  draft.gated (draft.gateReasons ++ orderReasons draft.toStrategyFields)

section Texts
variable (inputs : Inputs)

def forecastImpacts (strategyId : String) : ImpactAssessment where
  assessmentId := "impact-" ++ strategyId
  strategyId := strategyId
  criterionImpacts := inputs.criteria.map fun criterion =>
    ⟨⟨criterion.criterionId, .unknown, 0⟩, .forecast, none, none⟩
  assessed := by simpa using inputs.measured

/-- `A3.62` on one draft. -/
def assessImpact (draft : StrategyDraft) : StrategyDraft :=
  match draft.impactAssessment with
  | some _ => draft
  | none => { draft with impactAssessment := some (forecastImpacts inputs draft.strategyId) }

def effortOf (phaseCount : Nat) : Effort :=
  if phaseCount ≤ 1 then .low else if phaseCount ≤ 3 then .medium else .high

def coarseTradeoff (fields : StrategyFields) : TradeoffAnalysis where
  analysisId := "tradeoff-" ++ fields.strategyId
  strategyId := fields.strategyId
  pros := [fields.strategyTradeoffs]
  cons := [inputs.text.strip
    ("unvalidated until executed: " ++ String.ofList (fields.mechanism.toList.take 200))]
  prerequisites := (fields.phaseTemplates.filter (·.phaseKind == .diagnostic)).map (·.phaseId)
  effort := effortOf fields.phaseTemplates.length
  uncertainty := 1 / 2
  evidenceIds := fields.evidenceIds

def duplicateReasons (seen : List (String × String)) (fields : StrategyFields) : List String :=
  match seen.lookup fields.strategyTradeoffs with
  | some duplicateOf => ["strategy_tradeoffs text is identical to " ++ duplicateOf]
  | none => []

/-- `seen_tradeoffs` after a draft: the first strategy with a text keeps it. -/
def noteTradeoffs (seen : List (String × String)) (fields : StrategyFields) :
    List (String × String) :=
  match seen.lookup fields.strategyTradeoffs with
  | some _ => seen
  | none => (fields.strategyTradeoffs, fields.strategyId) :: seen

/-- `A3.63` on one draft. -/
def captureTradeoff (seen : List (String × String)) (draft : StrategyDraft) : StrategyDraft :=
  { draft.gated (draft.gateReasons ++ duplicateReasons seen draft.toStrategyFields) with
    tradeoffAnalysis :=
      some (draft.tradeoffAnalysis.getD (coarseTradeoff inputs draft.toStrategyFields)) }

inductive CommandSource where
  | composeEvaluation
  | repositoryCommand
  deriving DecidableEq, Repr

def CommandSource.name : CommandSource → String
  | .composeEvaluation => "compose_evaluation"
  | .repositoryCommand => "repository_command"

structure ValidationCommandCandidate where
  commandId : String
  commandDisplay : String
  source : CommandSource
  deriving DecidableEq

def composeCandidate (composeFile : String) (evaluation : EvaluationSpec) :
    ValidationCommandCandidate :=
  let workingDir := match evaluation.workingDirectory with
    | some directory => if directory = "" then "" else " --workdir " ++ directory
    | none => ""
  ⟨evaluation.evaluationId, "docker compose -f " ++ composeFile ++ " exec" ++ workingDir ++ " " ++
    evaluation.service ++ " " ++ " ".intercalate evaluation.argv, .composeEvaluation⟩

/-- The commands a plan may name, one for each id; the metrics they measure only reach the
prompt. -/
def validationCommandCandidates : List ValidationCommandCandidate :=
  let compose := match inputs.execution with
    | some execution => execution.evaluations.map (composeCandidate execution.composeFile)
    | none => []
  let repository := inputs.verificationCommands.map fun command =>
    ⟨command.commandId, " ".intercalate command.argv, .repositoryCommand⟩
  (compose ++ repository).foldl (fun unique candidate =>
    if unique.any (·.commandId == candidate.commandId) then unique else unique ++ [candidate]) []

def realCommandIds : List String := (validationCommandCandidates inputs).map (·.commandId)

def movementText (criterion : AnalysedCriterion) : String :=
  let bound := inputs.text.float criterion.target ++ " " ++ criterion.unit
  match criterion.direction with
  | .minimize => "decrease toward <= " ++ bound
  | .maximize => "increase toward >= " ++ bound
  | .target => "move toward == " ++ bound

def expectedMetricMovements : List (String × String) :=
  inputs.guardrails.foldl (fun movements guardrail =>
      if movements.any (·.1 == guardrail.metricId) then movements
      else movements ++ [(guardrail.metricId, "must remain " ++ guardrail.operator.name ++ " " ++
        inputs.text.float guardrail.threshold ++ " " ++ guardrail.unit)])
    (dictOf (inputs.criteria.map fun criterion =>
      (criterion.metricId, movementText inputs criterion)))

def validationBenchmarkProtocol : String :=
  inputs.text.strip ("rerun repository-owned validation commands via A2 worker protocol: " ++
    "; ".intercalate ((validationCommandCandidates inputs).map fun candidate =>
      candidate.commandId ++ " [" ++ candidate.source.name ++ "]: " ++ candidate.commandDisplay))

def noProtocol : String := "none available"

def noStopConditions : List String := ["no verification command available"]

def commandStopConditions : List String :=
  ["any validation command exits nonzero", "any guardrail metric violates its declared threshold"]

/-- `{**left, **right}`. -/
def dictMerge (left right : List (String × String)) : List (String × String) :=
  right.foldl (fun d e => dictSet d e.1 e.2) left

def freshPlan (strategyId : String) : ValidationPlan :=
  if realCommandIds inputs ≠ [] then
    ⟨"validation-" ++ strategyId, strategyId, realCommandIds inputs,
      validationBenchmarkProtocol inputs, expectedMetricMovements inputs, commandStopConditions⟩
  else ⟨"validation-" ++ strategyId, strategyId, [], noProtocol, [], noStopConditions⟩

/-- A plan that names no command gets the real ones and keeps what else it says. -/
def filledPlan (plan : ValidationPlan) : ValidationPlan :=
  { plan with
    testCommandIds := realCommandIds inputs
    benchmarkProtocol := if plan.benchmarkProtocol = noProtocol then
      validationBenchmarkProtocol inputs else plan.benchmarkProtocol
    expectedMetricMovements :=
      dictMerge (expectedMetricMovements inputs) plan.expectedMetricMovements
    stopConditions := if plan.stopConditions ≠ noStopConditions then plan.stopConditions
      else commandStopConditions }

def unknownCommandIds (plan : ValidationPlan) : List String :=
  plan.testCommandIds.filter fun id => !(realCommandIds inputs).contains id

def missingMovements (plan : ValidationPlan) : List (String × String) :=
  (expectedMetricMovements inputs).filter fun movement =>
    !plan.expectedMetricMovements.any (·.1 == movement.1)

/-- A plan that names commands keeps them and gets the movements it lacks. -/
def completedPlan (plan : ValidationPlan) : ValidationPlan :=
  if missingMovements inputs plan ≠ [] then
    { plan with expectedMetricMovements :=
        dictMerge plan.expectedMetricMovements (missingMovements inputs plan) }
  else plan

def boundPlan (draft : StrategyDraft) : ValidationPlan :=
  match draft.validationPlan with
  | none => freshPlan inputs draft.strategyId
  | some plan =>
    if plan.testCommandIds = [] ∧ realCommandIds inputs ≠ [] then filledPlan inputs plan
    else completedPlan inputs plan

def planReasons (draft : StrategyDraft) : List String :=
  match draft.validationPlan with
  | none =>
    if realCommandIds inputs ≠ [] then []
    else ["no repository-owned verification command exists to bind a validation plan to"]
  | some plan =>
    if plan.testCommandIds = [] ∧ realCommandIds inputs ≠ [] then []
    else if unknownCommandIds inputs plan ≠ [] then
      ["validation plan references unknown command ids: " ++
        ", ".intercalate ((unknownCommandIds inputs plan).insertionSort (· ≤ ·))]
    else []

def revertPlan (strategyId : String) : RollbackPlan where
  planId := "rollback-" ++ strategyId
  strategyId := strategyId
  mechanism := "git revert <commit-sha-of-this-change>"
  verification :=
    "rerun validation_plan.test_command_ids and confirm baseline exit codes are unchanged"
  reversible := true

/-- `A3.64` on one draft. -/
def bindValidation (draft : StrategyDraft) : StrategyDraft :=
  { draft.gated (draft.gateReasons ++ planReasons inputs draft) with
    validationPlan := some (boundPlan inputs draft)
    rollbackPlan := some (draft.rollbackPlan.getD (revertPlan draft.strategyId)) }

/-- A path the snapshot knows, or one to be created. -/
def scopeEntry (path : String) : Except A3Failure ScopeResolutionEntry :=
  let known := inputs.snapshotPaths.contains path
  if h : path ≠ "" then .ok ⟨⟨path, !known⟩, .file, known, h⟩ else .error .invalidScopeEntry

def unspecifiedScope : ScopeResolutionEntry := ⟨⟨"<unspecified>", true⟩, .file, false, by decide⟩

def scopeReport (draft : StrategyDraft) : Except A3Failure ScopeResolutionReport :=
  match draft.targetPaths with
  | [] => .ok ⟨"scope-" ++ draft.strategyId, draft.strategyId, [unspecifiedScope], by simp⟩
  | path :: paths => do
    let entry ← scopeEntry inputs path
    let entries ← paths.mapM (scopeEntry inputs)
    .ok ⟨"scope-" ++ draft.strategyId, draft.strategyId, entry :: entries, by simp⟩

/-- `A3.70` on one draft. -/
def resolveScope (draft : StrategyDraft) : Except A3Failure StrategyDraft := do
  let report ← match draft.scopeResolution with
    | some report => .ok report
    | none => scopeReport inputs draft
  .ok { draft.gated draft.gateReasons with scopeResolution := some report }

def riskSensitiveKeywords : List String := ["migrations/", "auth", "secrets", "security"]

def sensitivePath (path : String) : Bool :=
  riskSensitiveKeywords.any fun keyword => decide (keyword.toList <:+: path.toLower.toList)

def determinedRisk (fields : StrategyFields) (tradeoff : TradeoffAnalysis)
    (rollback : RollbackPlan) (scope : ScopeResolutionReport) : RiskAssessment :=
  let paths := scope.entries.map (·.pathOrSymbol)
  let sensitive := paths.any sensitivePath
  { assessmentId := "risk-" ++ fields.strategyId
    strategyId := fields.strategyId
    riskTier := fields.riskCeiling
    blastRadius := if paths ≠ [] then paths.length.repr ++ " path(s): " ++ inputs.text.list paths
      else "unspecified scope"
    reversibility := if rollback.reversible then .fast else .slow
    uncertainty := tradeoff.uncertainty
    migrationImpact := sensitive
    securityImpact := sensitive
    factors := if sensitive then ["scope touches a sensitive path"] else [] }

def scopeReasons (scope : ScopeResolutionReport) : List String :=
  if scope.fullyResolved then [] else ["scope_resolution is not fully resolved"]

/-- `A3.80` on one draft. A draft that some node has left out is dropped. -/
def determineRisk (draft : StrategyDraft) : Except A3Failure (Option SolutionStrategy) :=
  match draft.impactAssessment, draft.tradeoffAnalysis, draft.validationPlan, draft.rollbackPlan,
      draft.scopeResolution with
  | some impact, some tradeoff, some validation, some rollback, some scope =>
    let reasons := draft.gateReasons ++ scopeReasons scope
    let eligible := draft.eligible && reasons.isEmpty
    let risk := draft.riskAssessment.getD
      (determinedRisk inputs draft.toStrategyFields tradeoff rollback scope)
    if h : eligible = false → reasons ≠ [] then
      .ok (some ⟨draft.toStrategyFields, risk, impact, tradeoff, validation, rollback, scope,
        eligible, reasons, h⟩)
    else .error .invalidStrategy
  | _, _, _, _, _ => .ok none

/-! ### The nodes on the list of drafts -/

def captureTradeoffs : List (String × String) → List StrategyDraft → List StrategyDraft
  | _, [] => []
  | seen, draft :: drafts =>
    captureTradeoff inputs seen draft ::
      captureTradeoffs (noteTradeoffs seen draft.toStrategyFields) drafts

def assembleStrategies (drafts : List StrategyDraft) : Except A3Failure (List SolutionStrategy) := do
  let strategies ← drafts.mapM (determineRisk inputs)
  .ok (strategies.filterMap id)

end Texts

def solutionStrategyToDraft (strategy : SolutionStrategy) : StrategyDraft where
  toStrategyFields := strategy.toStrategyFields
  targetPaths := strategy.scopeResolution.entries.map (·.pathOrSymbol)
  impactAssessment := some strategy.impactAssessment
  tradeoffAnalysis := some strategy.tradeoffAnalysis
  validationPlan := some strategy.validationPlan
  rollbackPlan := some strategy.rollbackPlan
  scopeResolution := some strategy.scopeResolution
  riskAssessment := some strategy.riskAssessment
  eligible := strategy.eligible
  gateReasons := strategy.gateReasons

end ProductionOptimizer.A3
