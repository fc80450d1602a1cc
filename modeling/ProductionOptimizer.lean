import ProductionOptimizer.Library.Runs
import ProductionOptimizer.Library.NumberedLog
import ProductionOptimizer.Contracts.Nodes
import ProductionOptimizer.RouteLog
import ProductionOptimizer.IntentLedger
import ProductionOptimizer.LedgerConcurrency
import ProductionOptimizer.Contracts.Artifacts
import ProductionOptimizer.Contracts.State
import ProductionOptimizer.NodeRuntime
import ProductionOptimizer.Resume
import ProductionOptimizer.Handlers.Answers
import ProductionOptimizer.Handlers.LaneGates
import ProductionOptimizer.Handlers.RankAndSelect
import ProductionOptimizer.Handlers.PlanAndTasks
import ProductionOptimizer.Handlers.ImplementPhase
import ProductionOptimizer.Handlers.VerifyPhase
import ProductionOptimizer.Handlers.Remeasure
import ProductionOptimizer.Handlers.PolicyDecision
import ProductionOptimizer.ResolvedHalts
import ProductionOptimizer.SharedWorkflow
import ProductionOptimizer.StageGates
import ProductionOptimizer.RejectedScope
import ProductionOptimizer.SharedRuns
import ProductionOptimizer.RepairPasses
import ProductionOptimizer.FixOnePart
import ProductionOptimizer.SelectionChain
import ProductionOptimizer.SelectionGate
import ProductionOptimizer.RevertFallback
import ProductionOptimizer.ApprovalBinding
import ProductionOptimizer.LoopRegions
import ProductionOptimizer.PassSteps
import ProductionOptimizer.LoopBounds
import ProductionOptimizer.PassFreshness
import ProductionOptimizer.DetectedCommands
import ProductionOptimizer.Contracts.SealedStore
import ProductionOptimizer.Handlers.Convergence
import ProductionOptimizer.TamperEvidence
import ProductionOptimizer.LaneSteps
import ProductionOptimizer.QualityLoop
import ProductionOptimizer.RevisedPortfolio
import ProductionOptimizer.SourceCheckout
import ProductionOptimizer.ResumeModes
import ProductionOptimizer.ChannelSums
import ProductionOptimizer.FallbackPlan
import ProductionOptimizer.ReplayCodec
import ProductionOptimizer.SealScopes
import ProductionOptimizer.SessionPasses
import ProductionOptimizer.PassIds
import ProductionOptimizer.FreshTrails
import ProductionOptimizer.DecisionTable
import ProductionOptimizer.CompleteMeasurement
import ProductionOptimizer.PlanCompletion
import ProductionOptimizer.Handlers.Proposal
import ProductionOptimizer.ProposalLoop
import ProductionOptimizer.Handlers.Detection
import ProductionOptimizer.SameJudgement
import ProductionOptimizer.Contracts.Strategies
import ProductionOptimizer.Handlers.StrategyPipeline
import ProductionOptimizer.Handlers.StrategyNodes
import ProductionOptimizer.StrategyRounds
import ProductionOptimizer.StrategyRuns
import ProductionOptimizer.KeptStrategies
import ProductionOptimizer.JudgedFindings
import ProductionOptimizer.GateKeys
import ProductionOptimizer.Contracts.Canonical
import ProductionOptimizer.DigestStability
import ProductionOptimizer.RouteHistory
import ProductionOptimizer.Library.KeyedMerge
import ProductionOptimizer.FanIn
import ProductionOptimizer.RepositoryApply
import ProductionOptimizer.Outbox
import ProductionOptimizer.S3ArtifactStore
import ProductionOptimizer.StableCapture
import ProductionOptimizer.PlanOrder
import ProductionOptimizer.EvidenceBaseline
import ProductionOptimizer.VerifiedPass
import ProductionOptimizer.Handlers.Report
import ProductionOptimizer.AuditedReport
import ProductionOptimizer.ConvergenceRejects
import ProductionOptimizer.Handlers.Intake
import ProductionOptimizer.RequestIds
import ProductionOptimizer.SampleRules
import ProductionOptimizer.AttributedEvidence
import ProductionOptimizer.Library.TransactionLog
import ProductionOptimizer.Migrations
import ProductionOptimizer.SymbolScope
import ProductionOptimizer.WorkspaceScope
import ProductionOptimizer.IdentifierLengths
import ProductionOptimizer.Library.Separated
import ProductionOptimizer.RequestKeys
import ProductionOptimizer.Library.EditScript
import ProductionOptimizer.Library.LineCut
import ProductionOptimizer.PatchText
import ProductionOptimizer.PatchReproduction
import ProductionOptimizer.PatchEndings
import ProductionOptimizer.Library.MarginRanking
import ProductionOptimizer.Ranking
import ProductionOptimizer.WeightRatios
import ProductionOptimizer.FirstPlace
import ProductionOptimizer.SensitivitySweep
import ProductionOptimizer.CitationSupport
import ProductionOptimizer.StructuredIntent
import ProductionOptimizer.Handlers.PlanReview
import ProductionOptimizer.CritiqueOverride
import ProductionOptimizer.CriterionCoverage
import ProductionOptimizer.Library.TrailingSegments
import ProductionOptimizer.TaskFiles
import ProductionOptimizer.Library.Replacement
import ProductionOptimizer.Handlers.Executors
import ProductionOptimizer.ExecutorScope
import ProductionOptimizer.PlanRedrafts
import ProductionOptimizer.Library.DepthFirst
import ProductionOptimizer.TaskGraph
import ProductionOptimizer.Library.Tally
import ProductionOptimizer.Handlers.Discovery
import ProductionOptimizer.LanguageShares
import ProductionOptimizer.ClusterJobs
import ProductionOptimizer.Contracts.Request
import ProductionOptimizer.Handlers.Freeze
import ProductionOptimizer.SealedApproval
import ProductionOptimizer.Library.Interaction
import ProductionOptimizer.Handlers.ComposeWorker
import ProductionOptimizer.ComposeEvaluation
import ProductionOptimizer.ComposeEvidence
import ProductionOptimizer.LocalBroker
import ProductionOptimizer.BootstrapPolicy
import ProductionOptimizer.ExecutionAuthorization
import ProductionOptimizer.RepositoryWrites
import ProductionOptimizer.Handlers.AutomaticScan
import ProductionOptimizer.ScanSteps
import ProductionOptimizer.ScanOutcome
import ProductionOptimizer.EvidencePipeline
import ProductionOptimizer.Library.KeyedTable
import ProductionOptimizer.Library.Serving
import ProductionOptimizer.ControlPlane
import ProductionOptimizer.LedgerRefinement
import ProductionOptimizer.CaseRepository
import ProductionOptimizer.RuntimeLedgers
import ProductionOptimizer.IntentRows
