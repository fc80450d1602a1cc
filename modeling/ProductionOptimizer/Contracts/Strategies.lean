import ProductionOptimizer.Handlers.Detection
import ProductionOptimizer.Contracts.SealedStore

/-!
# Findings and strategies inside A3

The contract models that travel between `A3.40` and `A3.90`, with all their fields. What a
validator of the source demands of a model is a field of the structure here.
-/

namespace ProductionOptimizer.A3
set_option autoImplicit false

/-! ### Findings -/

inductive TrustLevel where
  | T0
  | T1
  | T2
  | T3
  | T4
  deriving DecidableEq, Repr

inductive ClaimType where
  | observation
  | hypothesis
  | verifiedCause
  deriving DecidableEq, Repr

inductive Verdict where
  | accept
  | reject
  deriving DecidableEq, Repr

structure FindingDraft where
  findingId : String
  problemSignalIds : List String
  claimType : ClaimType
  symptom : String
  scopeFiles : List String := []
  scopeSymbols : List String := []
  runtimePath : Option String := none
  causalClaim : String
  supportingEvidenceIds : List String
  counterevidenceIds : List String := []
  analyzerCoverage : List (String × ℚ) := []
  confidence : ℚ
  unknowns : List String := []
  deriving DecidableEq

structure CitationResolutionEntry where
  evidenceId : String
  resolved : Bool
  inScope : Bool
  supportsStatement : Bool
  reason : Option String := none
  deriving DecidableEq

structure CitationResolutionReport where
  reportId : String
  findingId : String
  entries : List CitationResolutionEntry
  deriving DecidableEq

/-- The field of that name; its validator demands this value. -/
def CitationResolutionReport.allResolved (report : CitationResolutionReport) : Bool :=
  report.entries.all fun entry => entry.resolved && entry.inScope && entry.supportsStatement

structure FindingJudgement where
  judgeId : String
  findingId : String
  verdict : Verdict
  reasons : List String
  deriving DecidableEq

structure Finding extends FindingDraft where
  trustLevel : TrustLevel
  judgement : FindingJudgement
  mature : claimType = .verifiedCause → judgement.verdict = .accept ∧ trustLevel = .T4
  deriving DecidableEq

/-! ### Strategies -/

inductive ImpactBasis where
  | measured
  | forecast
  deriving DecidableEq, Repr

structure CriterionImpact extends ProductionOptimizer.CriterionImpact where
  basis : ImpactBasis
  magnitude : Option ℚ := none
  unit : Option String := none
  deriving DecidableEq

structure ImpactAssessment where
  assessmentId : String
  strategyId : String
  criterionImpacts : List CriterionImpact
  guardrailImpacts : List CriterionImpact := []
  assessed : criterionImpacts ≠ []
  deriving DecidableEq

structure TradeoffAnalysis where
  analysisId : String
  strategyId : String
  pros : List String
  cons : List String
  prerequisites : List String := []
  effort : Effort
  uncertainty : ℚ
  operationalEffects : List String := []
  opportunityCost : Option String := none
  evidenceIds : List String := []
  assumptions : List String := []
  deriving DecidableEq

structure ValidationPlan where
  planId : String
  strategyId : String
  testCommandIds : List String := []
  benchmarkProtocol : String
  expectedMetricMovements : List (String × String) := []
  stopConditions : List String
  deriving DecidableEq

structure RollbackPlan where
  planId : String
  strategyId : String
  mechanism : String
  commandId : Option String := none
  verification : String
  reversible : Bool
  deriving DecidableEq

inductive ScopeKind where
  | file
  | symbol
  | configKey
  | prompt
  | dependency
  deriving DecidableEq, Repr

structure ScopeResolutionEntry extends ProductionOptimizer.ScopeResolutionEntry where
  kind : ScopeKind
  existing : Bool
  named : pathOrSymbol ≠ ""
  deriving DecidableEq

structure ScopeResolutionReport where
  reportId : String
  strategyId : String
  entries : List ScopeResolutionEntry
  resolvesSome : entries ≠ []
  deriving DecidableEq

/-- The field of that name; its validator demands this value. -/
def ScopeResolutionReport.fullyResolved (report : ScopeResolutionReport) : Bool :=
  report.entries.all fun entry => entry.existing || entry.proposedCreation

structure RiskAssessment where
  assessmentId : String
  strategyId : String
  riskTier : RiskTier
  blastRadius : String
  reversibility : Reversibility
  uncertainty : ℚ
  migrationImpact : Bool
  securityImpact : Bool
  factors : List String := []
  deriving DecidableEq

structure Treatment where
  variable_ : String
  before : String
  after : String
  deriving DecidableEq

inductive PhaseKind where
  | diagnostic
  | implementation
  deriving DecidableEq, Repr

structure ExperimentPhaseTemplate where
  phaseId : String
  sequence : Nat
  phaseKind : PhaseKind
  treatment : Treatment
  riskFactors : List String := []
  expectedObservations : List String := []
  deriving DecidableEq

/-- The fields that a draft and a finished strategy share. -/
structure StrategyFields where
  strategyId : String
  findingIds : List String
  title : String
  mechanism : String
  strategyTradeoffs : String
  phaseTemplates : List ExperimentPhaseTemplate
  riskCeiling : RiskTier
  evidenceIds : List String
  assumptions : List String := []
  deriving DecidableEq

/-- The fields that `_STRATEGY_DRAFT_SCHEMA` asks the generator for. -/
structure NamedFields extends StrategyFields where
  targetPaths : List String := []
  deriving DecidableEq

structure StrategyDraft extends NamedFields where
  impactAssessment : Option ImpactAssessment := none
  tradeoffAnalysis : Option TradeoffAnalysis := none
  validationPlan : Option ValidationPlan := none
  rollbackPlan : Option RollbackPlan := none
  scopeResolution : Option ScopeResolutionReport := none
  riskAssessment : Option RiskAssessment := none
  eligible : Bool := true
  gateReasons : List String := []
  deriving DecidableEq

structure SolutionStrategy extends StrategyFields where
  riskAssessment : RiskAssessment
  impactAssessment : ImpactAssessment
  tradeoffAnalysis : TradeoffAnalysis
  validationPlan : ValidationPlan
  rollbackPlan : RollbackPlan
  scopeResolution : ScopeResolutionReport
  eligible : Bool
  gateReasons : List String
  reasoned : eligible = false → gateReasons ≠ []
  deriving DecidableEq

structure RevisionDirective where
  attemptNumber : Nat
  targetedFindingIds : List String
  targetedStrategyIds : List String
  reason : String
  deriving DecidableEq

structure A3QualityReport where
  passed : Bool
  results : List QualityGateResult
  deriving DecidableEq

namespace SolutionStrategy

/-- What the quality gate reads of a strategy. -/
def toA3Strategy (strategy : SolutionStrategy) : A3Strategy :=
  ⟨strategy.strategyId, strategy.findingIds, strategy.strategyTradeoffs, strategy.eligible,
    strategy.gateReasons⟩

/-- What the stages after A3 read of a strategy. -/
def toShared (strategy : SolutionStrategy) : ProductionOptimizer.SolutionStrategy where
  strategyId := strategy.strategyId
  riskCeiling := strategy.riskCeiling
  criterionImpacts := strategy.impactAssessment.criterionImpacts.map (·.toCriterionImpact)
  effort := strategy.tradeoffAnalysis.effort
  reversibility := strategy.riskAssessment.reversibility
  uncertainty := strategy.riskAssessment.uncertainty
  rollbackReversible := strategy.rollbackPlan.reversible
  scopeEntries := strategy.scopeResolution.entries.map (·.toScopeResolutionEntry)
  fullyResolved := strategy.scopeResolution.fullyResolved
  eligible := strategy.eligible

end SolutionStrategy

/-- What the quality gate reads of a finding. -/
def Finding.toA3Finding (finding : Finding) : A3Finding :=
  ⟨finding.findingId, finding.supportingEvidenceIds, finding.claimType == .verifiedCause,
    finding.trustLevel == .T4⟩

/-! ### What A3 has been given -/

structure EvidenceIdentity where
  evidenceId : String
  collector : String
  sampleId : String
  deriving DecidableEq

structure EvaluationSpec where
  evaluationId : String
  service : String
  argv : List String
  workingDirectory : Option String := none
  deriving DecidableEq

structure ComposeExecutionContract where
  composeFile : String
  evaluations : List EvaluationSpec
  deriving DecidableEq

structure RepositoryCommand where
  commandId : String
  argv : List String
  deriving DecidableEq

/-- How Python writes a float and a list of strings into a text, and how the contracts strip
one. -/
structure PythonText where
  float : ℚ → String
  list : List String → String
  strip : String → String

/-- The artifacts that are sealed before `A3.50` and that its successors read. -/
structure Inputs where
  text : PythonText
  criteria : List AnalysedCriterion
  guardrails : List AnalysedGuardrail
  execution : Option ComposeExecutionContract
  maximumModelTokens : Nat
  verificationCommands : List RepositoryCommand
  snapshotPaths : List String
  evidence : List EvidenceIdentity
  drafts : List FindingDraft
  citationReports : List CitationResolutionReport
  measured : criteria ≠ []

end ProductionOptimizer.A3
