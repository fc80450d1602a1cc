import ProductionOptimizer.Contracts.Artifacts
import ProductionOptimizer.Library.NumberedLog

/-!
# The case state

The channels of `OptimizationState` that the runtime, the approval gates, B2 and S01 to S06
read or write. A handler answers with a route, sealed refs and a list of channel writes.
Identity and resume channels have no write: the first are protected by the runtime, the
second belong to `resume_case` alone.
-/

namespace ProductionOptimizer
open NumberedLog
set_option autoImplicit false

structure DecisionContext where
  solutionPortfolioDigest : Artifact
  requestDigest : Artifact
  excludedStrategyIds : List String
  policyVersion : String

structure NormalizedFactor where
  benefitByCriterion : List (String × ℚ)
  effortScore : ℚ
  reversibilityScore : ℚ
  riskPenalty : ℚ

inductive ApprovalReason where
  | riskCeiling (tier : RiskTier)
  | sensitiveRanking
  | noImprovingImpact
  | lowConfidence (average : ℚ)

structure RoutingDecision where
  needsApproval : Bool
  reasons : List ApprovalReason
  winnerStrategyId : String

structure PlanDraft where
  phases : List ExecutionPhase := []
  tasks : List PlanTask := []
  phaseFailures : List String := []
  taskFailures : List String := []
  pathRepairs : List String := []
  acceptanceCoverage : List (String × Bool) := []
  rollbackOk : Bool := false

structure PhaseAuthorization where
  phaseId : Option String
  authorized : Bool
  reasons : List String

structure Workspace where
  path : String
  baseRevision : String
  isolation : Isolation
  sourceRoot : String

structure Executor where
  kind : ExecutorKind
  riskCeiling : RiskTier
  strategyId : String

structure PhaseContext where
  phaseId : String
  phaseKind : PhaseKind
  allowedWritePaths : List String
  allowedSymbolsByPath : List (String × List String)
  allowedCommand : Option CommandKind

structure ToolCallState where
  toolCalls : Nat
  inputTokens : Nat
  outputTokens : Nat

structure ScopeState where
  violations : List ScopeViolation
  changedFiles : List String

/-- `s04_manifest`. `gatePassed` is `none` until `S04.80` has written it. -/
structure VerificationState where
  planDigest : Artifact
  patchDigest : Artifact
  workspaceOk : Bool
  resolvedKinds : List CommandKind := []
  touchedExistingTestFiles : List String := []
  gatePassed : Option Bool := none

structure Protocol where
  workloadId : String
  environmentId : String

structure IsolationState where
  isolated : Bool
  environmentReady : Option Bool := none

structure TreatmentAggregates where
  byCriterion : List (String × MetricAggregate)
  unmeasurableCriterionIds : List String
  preservedCriterionIds : List String := []

inductive SampleProblem where
  | noCommand
  | noBaseline
  | tooFewSamples (minimum : Nat)

structure SampleQuality where
  passed : Bool
  reasons : List (String × SampleProblem)

structure Intake where
  verificationDigest : Artifact
  measurementDigest : Artifact
  complete : Bool

structure Rollback where
  attempted : Bool
  verified : Bool

structure Apply where
  applied : Bool
  attempted : Bool

/-- `node_routes` with the text key `n`, `n#2`, ... of a node's `j`-th route as a pair. -/
abbrev RouteLog := Log (NodeId × Nat) NodeRoute

structure OptimizationState where
  caseId : String
  threadId : String
  tenantId : String
  pendingInterrupt : Option InterruptEnvelope := none
  completedNodes : List NodeId := []
  nodeRoutes : RouteLog := ∅
  artifactRefs : List ArtifactRef := []
  a3RevisionAttempts : Nat := 0
  resumeCommand : Option ResumeInterruptCommand := none
  resumeAttempts : Nat := 0
  resumeTargetNode : Option NodeId := none
  pendingCommandProposal : Option CommandProposal := none
  s01DecisionContext : Option DecisionContext := none
  s01EligibleStrategyIds : List String := []
  s01NormalizedFactors : List (String × NormalizedFactor) := []
  s01Scores : List StrategyScore := []
  s01RankedStrategyIds : List String := []
  s01SensitivityFlags : List String := []
  s01RoutingDecision : Option RoutingDecision := none
  s01Approval : Option SelectionApproval := none
  s01ExcludedStrategyIds : List String := []
  s02ResolutionOk : Option Bool := none
  s02PlanDraft : PlanDraft := {}
  s02CritiqueApproved : Bool := false
  s02Approval : Option PlanApproval := none
  s02RevisionAttempts : Nat := 0
  s03ActivePhaseId : Option String := none
  s03Authorization : Option PhaseAuthorization := none
  s03Workspace : Option Workspace := none
  s03Executor : Option Executor := none
  s03Context : Option PhaseContext := none
  s03ToolCalls : Option ToolCallState := none
  s03ScopeReport : Option ScopeState := none
  s03SanitationReport : Option (List SanitationFinding) := none
  s03ImplementedTaskIds : List String := []
  s03CompletedTaskIds : List String := []
  s03RevisionAttempts : Nat := 0
  s04Manifest : Option VerificationState := none
  s04CheckResults : List CheckResult := []
  s04FailureAttributions : List FailureAttribution := []
  s05Protocol : Option Protocol := none
  s05Isolation : Option IsolationState := none
  s05TreatmentAggregates : Option TreatmentAggregates := none
  s05Quality : Option SampleQuality := none
  s06Intake : Option Intake := none
  s06TargetEvaluations : List TargetEvaluation := []
  s06GuardrailEvaluations : List GuardrailEvaluation := []
  s06Attribution : Option PhaseAttribution := none
  s06Decision : Option Outcome := none
  s06Rollback : Option Rollback := none
  s06Apply : Option Apply := none
  b2StalenessDecision : Option StalenessDecision := none
  b2RoutingDecision : Option ProposalRoutingDecision := none
  b2Approval : Option ProposalApproval := none

/-- The last-value channels a handler may write. -/
inductive Field where
  | pendingInterrupt | pendingCommandProposal | a3RevisionAttempts
  | s01DecisionContext | s01EligibleStrategyIds | s01NormalizedFactors | s01Scores
  | s01RankedStrategyIds | s01SensitivityFlags | s01RoutingDecision | s01Approval
  | s01ExcludedStrategyIds
  | s02ResolutionOk | s02PlanDraft | s02CritiqueApproved | s02Approval | s02RevisionAttempts
  | s03ActivePhaseId | s03Authorization | s03Workspace | s03Executor | s03Context
  | s03ToolCalls | s03ScopeReport | s03SanitationReport | s03ImplementedTaskIds
  | s03CompletedTaskIds | s03RevisionAttempts
  | s04Manifest | s04CheckResults | s04FailureAttributions
  | s05Protocol | s05Isolation | s05TreatmentAggregates | s05Quality
  | s06Intake | s06TargetEvaluations | s06GuardrailEvaluations | s06Attribution
  | s06Decision | s06Rollback | s06Apply
  | b2StalenessDecision | b2RoutingDecision | b2Approval
  deriving DecidableEq, Repr

inductive FieldUpdate where
  | pendingInterrupt (interrupt : InterruptEnvelope)
  | pendingCommandProposal (proposal : CommandProposal)
  | a3RevisionAttempts (total : Nat)
  | s01DecisionContext (context : DecisionContext)
  | s01EligibleStrategyIds (ids : List String)
  | s01NormalizedFactors (factors : List (String × NormalizedFactor))
  | s01Scores (scores : List StrategyScore)
  | s01RankedStrategyIds (ids : List String)
  | s01SensitivityFlags (flags : List String)
  | s01RoutingDecision (decision : RoutingDecision)
  | s01Approval (approval : SelectionApproval)
  | s01ExcludedStrategyIds (ids : List String)
  | s02ResolutionOk (ok : Bool)
  | s02PlanDraft (draft : PlanDraft)
  | s02CritiqueApproved (approved : Bool)
  | s02Approval (approval : PlanApproval)
  | s02RevisionAttempts (total : Nat)
  | s03ActivePhaseId (phaseId : String)
  | s03Authorization (authorization : PhaseAuthorization)
  | s03Workspace (workspace : Workspace)
  | s03Executor (executor : Executor)
  | s03Context (context : PhaseContext)
  | s03ToolCalls (calls : ToolCallState)
  | s03ScopeReport (report : ScopeState)
  | s03SanitationReport (findings : List SanitationFinding)
  | s03ImplementedTaskIds (ids : List String)
  | s03CompletedTaskIds (ids : List String)
  | s03RevisionAttempts (total : Nat)
  | s04Manifest (manifest : VerificationState)
  | s04CheckResults (results : List CheckResult)
  | s04FailureAttributions (attributions : List FailureAttribution)
  | s05Protocol (protocol : Protocol)
  | s05Isolation (isolation : IsolationState)
  | s05TreatmentAggregates (aggregates : TreatmentAggregates)
  | s05Quality (quality : SampleQuality)
  | s06Intake (intake : Intake)
  | s06TargetEvaluations (evaluations : List TargetEvaluation)
  | s06GuardrailEvaluations (evaluations : List GuardrailEvaluation)
  | s06Attribution (attribution : PhaseAttribution)
  | s06Decision (outcome : Outcome)
  | s06Rollback (rollback : Rollback)
  | s06Apply (apply : Apply)
  | b2StalenessDecision (decision : StalenessDecision)
  | b2RoutingDecision (decision : ProposalRoutingDecision)
  | b2Approval (approval : ProposalApproval)

namespace FieldUpdate

def field : FieldUpdate → Field
  | pendingInterrupt _ => .pendingInterrupt
  | pendingCommandProposal _ => .pendingCommandProposal
  | a3RevisionAttempts _ => .a3RevisionAttempts
  | s01DecisionContext _ => .s01DecisionContext
  | s01EligibleStrategyIds _ => .s01EligibleStrategyIds
  | s01NormalizedFactors _ => .s01NormalizedFactors
  | s01Scores _ => .s01Scores
  | s01RankedStrategyIds _ => .s01RankedStrategyIds
  | s01SensitivityFlags _ => .s01SensitivityFlags
  | s01RoutingDecision _ => .s01RoutingDecision
  | s01Approval _ => .s01Approval
  | s01ExcludedStrategyIds _ => .s01ExcludedStrategyIds
  | s02ResolutionOk _ => .s02ResolutionOk
  | s02PlanDraft _ => .s02PlanDraft
  | s02CritiqueApproved _ => .s02CritiqueApproved
  | s02Approval _ => .s02Approval
  | s02RevisionAttempts _ => .s02RevisionAttempts
  | s03ActivePhaseId _ => .s03ActivePhaseId
  | s03Authorization _ => .s03Authorization
  | s03Workspace _ => .s03Workspace
  | s03Executor _ => .s03Executor
  | s03Context _ => .s03Context
  | s03ToolCalls _ => .s03ToolCalls
  | s03ScopeReport _ => .s03ScopeReport
  | s03SanitationReport _ => .s03SanitationReport
  | s03ImplementedTaskIds _ => .s03ImplementedTaskIds
  | s03CompletedTaskIds _ => .s03CompletedTaskIds
  | s03RevisionAttempts _ => .s03RevisionAttempts
  | s04Manifest _ => .s04Manifest
  | s04CheckResults _ => .s04CheckResults
  | s04FailureAttributions _ => .s04FailureAttributions
  | s05Protocol _ => .s05Protocol
  | s05Isolation _ => .s05Isolation
  | s05TreatmentAggregates _ => .s05TreatmentAggregates
  | s05Quality _ => .s05Quality
  | s06Intake _ => .s06Intake
  | s06TargetEvaluations _ => .s06TargetEvaluations
  | s06GuardrailEvaluations _ => .s06GuardrailEvaluations
  | s06Attribution _ => .s06Attribution
  | s06Decision _ => .s06Decision
  | s06Rollback _ => .s06Rollback
  | s06Apply _ => .s06Apply
  | b2StalenessDecision _ => .b2StalenessDecision
  | b2RoutingDecision _ => .b2RoutingDecision
  | b2Approval _ => .b2Approval

def set (s : OptimizationState) : FieldUpdate → OptimizationState
  | pendingInterrupt v => { s with pendingInterrupt := some v }
  | pendingCommandProposal v => { s with pendingCommandProposal := some v }
  | a3RevisionAttempts v => { s with a3RevisionAttempts := v }
  | s01DecisionContext v => { s with s01DecisionContext := some v }
  | s01EligibleStrategyIds v => { s with s01EligibleStrategyIds := v }
  | s01NormalizedFactors v => { s with s01NormalizedFactors := v }
  | s01Scores v => { s with s01Scores := v }
  | s01RankedStrategyIds v => { s with s01RankedStrategyIds := v }
  | s01SensitivityFlags v => { s with s01SensitivityFlags := v }
  | s01RoutingDecision v => { s with s01RoutingDecision := some v }
  | s01Approval v => { s with s01Approval := some v }
  | s01ExcludedStrategyIds v => { s with s01ExcludedStrategyIds := v }
  | s02ResolutionOk v => { s with s02ResolutionOk := some v }
  | s02PlanDraft v => { s with s02PlanDraft := v }
  | s02CritiqueApproved v => { s with s02CritiqueApproved := v }
  | s02Approval v => { s with s02Approval := some v }
  | s02RevisionAttempts v => { s with s02RevisionAttempts := v }
  | s03ActivePhaseId v => { s with s03ActivePhaseId := some v }
  | s03Authorization v => { s with s03Authorization := some v }
  | s03Workspace v => { s with s03Workspace := some v }
  | s03Executor v => { s with s03Executor := some v }
  | s03Context v => { s with s03Context := some v }
  | s03ToolCalls v => { s with s03ToolCalls := some v }
  | s03ScopeReport v => { s with s03ScopeReport := some v }
  | s03SanitationReport v => { s with s03SanitationReport := some v }
  | s03ImplementedTaskIds v => { s with s03ImplementedTaskIds := v }
  | s03CompletedTaskIds v => { s with s03CompletedTaskIds := v }
  | s03RevisionAttempts v => { s with s03RevisionAttempts := v }
  | s04Manifest v => { s with s04Manifest := some v }
  | s04CheckResults v => { s with s04CheckResults := v }
  | s04FailureAttributions v => { s with s04FailureAttributions := v }
  | s05Protocol v => { s with s05Protocol := some v }
  | s05Isolation v => { s with s05Isolation := some v }
  | s05TreatmentAggregates v => { s with s05TreatmentAggregates := some v }
  | s05Quality v => { s with s05Quality := some v }
  | s06Intake v => { s with s06Intake := some v }
  | s06TargetEvaluations v => { s with s06TargetEvaluations := v }
  | s06GuardrailEvaluations v => { s with s06GuardrailEvaluations := v }
  | s06Attribution v => { s with s06Attribution := some v }
  | s06Decision v => { s with s06Decision := some v }
  | s06Rollback v => { s with s06Rollback := some v }
  | s06Apply v => { s with s06Apply := some v }
  | b2StalenessDecision v => { s with b2StalenessDecision := some v }
  | b2RoutingDecision v => { s with b2RoutingDecision := some v }
  | b2Approval v => { s with b2Approval := some v }

end FieldUpdate

/-- The type of a channel's value in the state. -/
@[reducible] def Field.Value : Field → Type
  | pendingInterrupt => Option InterruptEnvelope
  | pendingCommandProposal => Option CommandProposal
  | a3RevisionAttempts => Nat
  | s01DecisionContext => Option DecisionContext
  | s01EligibleStrategyIds => List String
  | s01NormalizedFactors => List (String × NormalizedFactor)
  | s01Scores => List StrategyScore
  | s01RankedStrategyIds => List String
  | s01SensitivityFlags => List String
  | s01RoutingDecision => Option RoutingDecision
  | s01Approval => Option SelectionApproval
  | s01ExcludedStrategyIds => List String
  | s02ResolutionOk => Option Bool
  | s02PlanDraft => PlanDraft
  | s02CritiqueApproved => Bool
  | s02Approval => Option PlanApproval
  | s02RevisionAttempts => Nat
  | s03ActivePhaseId => Option String
  | s03Authorization => Option PhaseAuthorization
  | s03Workspace => Option Workspace
  | s03Executor => Option Executor
  | s03Context => Option PhaseContext
  | s03ToolCalls => Option ToolCallState
  | s03ScopeReport => Option ScopeState
  | s03SanitationReport => Option (List SanitationFinding)
  | s03ImplementedTaskIds => List String
  | s03CompletedTaskIds => List String
  | s03RevisionAttempts => Nat
  | s04Manifest => Option VerificationState
  | s04CheckResults => List CheckResult
  | s04FailureAttributions => List FailureAttribution
  | s05Protocol => Option Protocol
  | s05Isolation => Option IsolationState
  | s05TreatmentAggregates => Option TreatmentAggregates
  | s05Quality => Option SampleQuality
  | s06Intake => Option Intake
  | s06TargetEvaluations => List TargetEvaluation
  | s06GuardrailEvaluations => List GuardrailEvaluation
  | s06Attribution => Option PhaseAttribution
  | s06Decision => Option Outcome
  | s06Rollback => Option Rollback
  | s06Apply => Option Apply
  | b2StalenessDecision => Option StalenessDecision
  | b2RoutingDecision => Option ProposalRoutingDecision
  | b2Approval => Option ProposalApproval

namespace OptimizationState

def get (s : OptimizationState) : (f : Field) → f.Value
  | .pendingInterrupt => s.pendingInterrupt
  | .pendingCommandProposal => s.pendingCommandProposal
  | .a3RevisionAttempts => s.a3RevisionAttempts
  | .s01DecisionContext => s.s01DecisionContext
  | .s01EligibleStrategyIds => s.s01EligibleStrategyIds
  | .s01NormalizedFactors => s.s01NormalizedFactors
  | .s01Scores => s.s01Scores
  | .s01RankedStrategyIds => s.s01RankedStrategyIds
  | .s01SensitivityFlags => s.s01SensitivityFlags
  | .s01RoutingDecision => s.s01RoutingDecision
  | .s01Approval => s.s01Approval
  | .s01ExcludedStrategyIds => s.s01ExcludedStrategyIds
  | .s02ResolutionOk => s.s02ResolutionOk
  | .s02PlanDraft => s.s02PlanDraft
  | .s02CritiqueApproved => s.s02CritiqueApproved
  | .s02Approval => s.s02Approval
  | .s02RevisionAttempts => s.s02RevisionAttempts
  | .s03ActivePhaseId => s.s03ActivePhaseId
  | .s03Authorization => s.s03Authorization
  | .s03Workspace => s.s03Workspace
  | .s03Executor => s.s03Executor
  | .s03Context => s.s03Context
  | .s03ToolCalls => s.s03ToolCalls
  | .s03ScopeReport => s.s03ScopeReport
  | .s03SanitationReport => s.s03SanitationReport
  | .s03ImplementedTaskIds => s.s03ImplementedTaskIds
  | .s03CompletedTaskIds => s.s03CompletedTaskIds
  | .s03RevisionAttempts => s.s03RevisionAttempts
  | .s04Manifest => s.s04Manifest
  | .s04CheckResults => s.s04CheckResults
  | .s04FailureAttributions => s.s04FailureAttributions
  | .s05Protocol => s.s05Protocol
  | .s05Isolation => s.s05Isolation
  | .s05TreatmentAggregates => s.s05TreatmentAggregates
  | .s05Quality => s.s05Quality
  | .s06Intake => s.s06Intake
  | .s06TargetEvaluations => s.s06TargetEvaluations
  | .s06GuardrailEvaluations => s.s06GuardrailEvaluations
  | .s06Attribution => s.s06Attribution
  | .s06Decision => s.s06Decision
  | .s06Rollback => s.s06Rollback
  | .s06Apply => s.s06Apply
  | .b2StalenessDecision => s.b2StalenessDecision
  | .b2RoutingDecision => s.b2RoutingDecision
  | .b2Approval => s.b2Approval

def setAll (s : OptimizationState) (updates : List FieldUpdate) : OptimizationState :=
  updates.foldl FieldUpdate.set s

end OptimizationState

namespace FieldUpdate

theorem get_set_of_ne (s : OptimizationState) (u : FieldUpdate) {f : Field} (h : u.field ≠ f) :
    (u.set s).get f = s.get f := by
  cases u <;> cases f <;> first | rfl | exact absurd rfl h

end FieldUpdate

namespace OptimizationState

theorem get_setAll (s : OptimizationState) {f : Field} {updates : List FieldUpdate}
    (h : ∀ u ∈ updates, u.field ≠ f) : (s.setAll updates).get f = s.get f := by
  induction updates generalizing s with
  | nil => rfl
  | cons u us ih =>
    obtain ⟨hu, hus⟩ := List.forall_mem_cons.mp h
    exact (ih (u.set s) hus).trans (u.get_set_of_ne s hu)

end OptimizationState

/-- Why a node or a merge raises. A raise ends the run. -/
inductive Failure where
  | missingArtifact (artifactType : ArtifactType)
  | missingStageArtifact (artifactType : ArtifactType) (artifactId : ArtifactId)
  | unreadable (artifactType : ArtifactType)
  | missingField (field : Field)
  | unknownStrategy (strategyId : String)
  | unknownPhase (phaseId : String)
  | emptyRanking
  | invalidContract (artifactType : ArtifactType)
  | missingPort
  | workerFailed
  | nodeNotEnabled (node : NodeId)
  | undeclaredRoute (node : NodeId) (route : NodeRoute)
  | artifactConflict
  | routeConflict

/-- One ref under the reducer of `artifact_refs`. The list keeps the order of first
appearance; reads by type alone are made for types that only ever have one id. -/
def mergeArtifactRef (refs : List ArtifactRef) (ref : ArtifactRef) :
    Except Failure (List ArtifactRef) :=
  match refs.find? (ref.sameKey ·) with
  | none => .ok (refs ++ [ref])
  | some existing =>
    if existing.contentDigest = ref.contentDigest then .ok refs else .error .artifactConflict

def mergeArtifactRefs (left : List ArtifactRef) : List ArtifactRef →
    Except Failure (List ArtifactRef)
  | [] => .ok left
  | ref :: right =>
    match mergeArtifactRef left ref with
    | .ok merged => mergeArtifactRefs merged right
    | .error e => .error e

theorem ArtifactRef.eq_of_sameKey {a b : ArtifactRef} (h : a.sameKey b = true)
    (hc : b.contentDigest = a.contentDigest) : b = a := by
  cases a
  cases b
  simp only [ArtifactRef.sameKey, Bool.and_eq_true, beq_iff_eq] at h
  simp only at hc
  rw [hc, h.2]

theorem mergeArtifactRef_ok {refs out : List ArtifactRef} {ref : ArtifactRef}
    (h : mergeArtifactRef refs ref = .ok out) : ref ∈ out ∧ (out = refs ∨ out = refs ++ [ref]) := by
  unfold mergeArtifactRef at h
  split at h
  · cases h
    simp
  · rename_i existing hfind
    split at h
    · rename_i hc
      cases h
      have hmem := List.mem_of_find?_eq_some hfind
      rw [ArtifactRef.eq_of_sameKey (List.find?_some hfind) hc] at hmem
      exact ⟨hmem, Or.inl rfl⟩
    · cases h

theorem mergeArtifactRefs_ok {left right out : List ArtifactRef}
    (h : mergeArtifactRefs left right = .ok out) :
    ∃ new, out = left ++ new ∧ (∀ ref ∈ new, ref ∈ right) ∧ ∀ ref ∈ right, ref ∈ out := by
  induction right generalizing left with
  | nil =>
    cases h
    exact ⟨[], by simp, by simp, by simp⟩
  | cons ref right ih =>
    unfold mergeArtifactRefs at h
    split at h
    · rename_i merged hm
      obtain ⟨hmem, hform⟩ := mergeArtifactRef_ok hm
      obtain ⟨new, rfl, hnew, hall⟩ := ih h
      have hhead : ref ∈ merged ++ new := List.mem_append_left _ hmem
      rcases hform with rfl | rfl
      · refine ⟨new, rfl, fun r hr => List.mem_cons_of_mem _ (hnew r hr), ?_⟩
        exact List.forall_mem_cons.mpr ⟨hhead, hall⟩
      · refine ⟨ref :: new, by simp, ?_, List.forall_mem_cons.mpr ⟨hhead, hall⟩⟩
        exact List.forall_mem_cons.mpr
          ⟨List.mem_cons_self, fun r hr => List.mem_cons_of_mem _ (hnew r hr)⟩
    · cases h

/-- After a merge the first ref under a merged ref's type and id is that ref. -/
theorem mergeArtifactRefs_find {left right out : List ArtifactRef}
    (h : mergeArtifactRefs left right = .ok out) {ref : ArtifactRef} (hr : ref ∈ right) :
    out.find? (ref.sameKey ·) = some ref := by
  induction right generalizing left with
  | nil => cases hr
  | cons head right ih =>
    unfold mergeArtifactRefs at h
    split at h
    · rename_i merged hm
      rcases List.mem_cons.mp hr with rfl | hr
      · have hmerged : merged.find? (ref.sameKey ·) = some ref := by
          unfold mergeArtifactRef at hm
          split at hm
          · rename_i hnone
            cases hm
            rw [List.find?_append, hnone]
            simp [ArtifactRef.sameKey]
          · rename_i existing hfind
            split at hm
            · rename_i hc
              cases hm
              rw [hfind, ArtifactRef.eq_of_sameKey (List.find?_some hfind) hc]
            · cases hm
        obtain ⟨new, rfl, _⟩ := mergeArtifactRefs_ok h
        rw [List.find?_append, hmerged]
        rfl
      · exact ih h hr
    · cases h

namespace OptimizationState

def tryRef (s : OptimizationState) (t : ArtifactType) : Option ArtifactRef :=
  s.artifactRefs.find? (·.artifactType == t)

def requireRef (s : OptimizationState) (t : ArtifactType) : Except Failure ArtifactRef :=
  match s.tryRef t with
  | some ref => .ok ref
  | none => .error (.missingArtifact t)

def tryStageRef (s : OptimizationState) (id : ArtifactId) (t : ArtifactType) :
    Option ArtifactRef :=
  s.artifactRefs.find? fun ref => ref.artifactType == t && ref.artifactId == id

def requireStageRef (s : OptimizationState) (id : ArtifactId) (t : ArtifactType) :
    Except Failure ArtifactRef :=
  match s.tryStageRef id t with
  | some ref => .ok ref
  | none => .error (.missingStageArtifact t id)

theorem requireRef_ok {s : OptimizationState} {t : ArtifactType} {ref : ArtifactRef}
    (h : s.requireRef t = .ok ref) : ref ∈ s.artifactRefs ∧ ref.artifactType = t := by
  unfold requireRef at h
  split at h
  · rename_i found hfind
    cases h
    have hprop := List.find?_some hfind
    exact ⟨List.mem_of_find?_eq_some hfind, by simpa using hprop⟩
  · cases h

theorem requireStageRef_ok {s : OptimizationState} {id : ArtifactId} {t : ArtifactType}
    {ref : ArtifactRef} (h : s.requireStageRef id t = .ok ref) :
    ref ∈ s.artifactRefs ∧ ref.artifactType = t ∧ ref.artifactId = id := by
  unfold requireStageRef at h
  split at h
  · rename_i found hfind
    cases h
    have hprop := List.find?_some hfind
    simp only [Bool.and_eq_true, beq_iff_eq] at hprop
    exact ⟨List.mem_of_find?_eq_some hfind, hprop.1, hprop.2⟩
  · cases h

theorem setAll_congr {β : Type} (p : OptimizationState → β)
    (hp : ∀ s (u : FieldUpdate), p (u.set s) = p s) (s : OptimizationState)
    (updates : List FieldUpdate) : p (s.setAll updates) = p s := by
  induction updates generalizing s with
  | nil => rfl
  | cons u us ih => exact (ih (u.set s)).trans (hp s u)

@[simp] theorem setAll_caseId (s : OptimizationState) (us : List FieldUpdate) :
    (s.setAll us).caseId = s.caseId :=
  setAll_congr (·.caseId) (fun _ u => by cases u <;> rfl) s us

@[simp] theorem setAll_resumeCommand (s : OptimizationState) (us : List FieldUpdate) :
    (s.setAll us).resumeCommand = s.resumeCommand :=
  setAll_congr (·.resumeCommand) (fun _ u => by cases u <;> rfl) s us

@[simp] theorem setAll_resumeAttempts (s : OptimizationState) (us : List FieldUpdate) :
    (s.setAll us).resumeAttempts = s.resumeAttempts :=
  setAll_congr (·.resumeAttempts) (fun _ u => by cases u <;> rfl) s us

@[simp] theorem setAll_resumeTargetNode (s : OptimizationState) (us : List FieldUpdate) :
    (s.setAll us).resumeTargetNode = s.resumeTargetNode :=
  setAll_congr (·.resumeTargetNode) (fun _ u => by cases u <;> rfl) s us

end OptimizationState

end ProductionOptimizer
