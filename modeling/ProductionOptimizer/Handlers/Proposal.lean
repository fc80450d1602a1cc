import ProductionOptimizer.Handlers.Answers
import ProductionOptimizer.Resume

/-!
# B2: a proposal and its review

The nodes of B2 and the compiled B2 graph. `B2.22` is the A3 graph, so a run of B2 goes
through the nodes of A3; the fan-out of `A3.21` is taken one branch after the other.
-/

namespace ProductionOptimizer
open NumberedLog
set_option autoImplicit false

/-- What the environment tells a node of B2 or A3: the clock, what an A3 node found or
generated and how it routes, and the two revisions that `B2.31` compares. -/
structure ProposalAnswers where
  now : Nat := 0
  analysisRoute : NodeRoute := .continue_
  analysisRefs : List ArtifactRef := []
  fingerprintedRevision : Option String := none
  currentRevision : Option String := none

def b2ApprovalPolicyVersion : String := "b2-approval-v1"
def b2RoutingPolicyVersion : String := "b2-routing-v1"

def handleB210 (_ : ProposalAnswers) (s : OptimizationState) : Except Failure NodeExecution := do
  let _ ← s.requireRef .qualifiedOpportunity
  .ok {}

def handleB220 (_ : ProposalAnswers) (s : OptimizationState) : Except Failure NodeExecution := do
  let _ ← s.readManifest
  .ok {}

def handleB221 (_ : ProposalAnswers) (s : OptimizationState) : Except Failure NodeExecution := do
  let _ ← s.requireRef .evidenceBundle
  let _ ← s.readRequest
  .ok {}

def handleB230 (_ : ProposalAnswers) (s : OptimizationState) : Except Failure NodeExecution := do
  let _ ← s.requireRef .qualifiedOpportunity
  .ok {}

/-- The source has moved on since B1 took its fingerprint. -/
def isStale (a : ProposalAnswers) : Bool :=
  match a.fingerprintedRevision, a.currentRevision with
  | some fingerprinted, some current => fingerprinted != "" && current != fingerprinted
  | _, _ => false

def handleB231 (a : ProposalAnswers) (s : OptimizationState) : Except Failure NodeExecution :=
  let stale := isStale a
  .ok { route := if stale then .refresh else .continue_
        updates := [.b2StalenessDecision
          ⟨"staleness-" ++ s.caseId, stale, if stale then ["git_revision"] else [],
            if stale then .refresh else .proceed⟩] }

def handleB240 (_ : ProposalAnswers) (s : OptimizationState) : Except Failure NodeExecution := do
  let _ ← s.requireRef .qualifiedOpportunity
  let _ ← s.requireRef .findingSet
  let _ ← s.requireRef .solutionPortfolio
  let _ ← s.requireRef .a3QualityReport
  .ok {}

/-- `B2.41` explains the first strategy, so a portfolio needs one. -/
def handleB241 (_ : ProposalAnswers) (s : OptimizationState) : Except Failure NodeExecution := do
  let portfolio ← s.readPortfolio
  if portfolio.strategies.isEmpty then .error (.invalidContract .solutionPortfolio) else .ok {}

def needsReview (portfolio : SolutionPortfolio) : Bool :=
  portfolio.strategies.any fun strategy =>
    strategy.riskCeiling == .code || strategy.riskCeiling == .architecture

def handleB250 (_ : ProposalAnswers) (s : OptimizationState) : Except Failure NodeExecution := do
  let portfolio ← s.readPortfolio
  if needsReview portfolio then
    .ok { route := .approval
          updates := [.b2RoutingDecision
            ⟨"routing-" ++ s.caseId, .ownerReview,
              ["at least one proposed strategy touches code or architecture"],
              b2RoutingPolicyVersion, some "owner"⟩] }
  else
    .ok { updates := [.b2RoutingDecision
            ⟨"routing-" ++ s.caseId, .autoForward,
              ["every proposed strategy is config/prompt risk or lower"],
              b2RoutingPolicyVersion, none⟩] }

def decisionMap (decision : String) : ProposalDecision :=
  if decision = "approve" then .approved
  else if decision = "reject" then .rejected
  else if decision = "revise" then .revisionRequested
  else .pending

/-- `B2.51` records the decision that is there; it does not wait for one. -/
def handleB251 (_ : ProposalAnswers) (s : OptimizationState) : Except Failure NodeExecution :=
  let approval : ProposalApproval := match s.resumeCommand with
    | none => ⟨none, none, none, .pending, b2ApprovalPolicyVersion⟩
    | some command =>
      ⟨some ("approval-" ++ s.caseId), some command.actorId, firstRole command,
        decisionMap command.decision, b2ApprovalPolicyVersion⟩
  .ok { updates := [.b2Approval approval] }

def handleB252 (_ : ProposalAnswers) (s : OptimizationState) : Except Failure NodeExecution :=
  .ok { route := match s.b2Approval.map ProposalApproval.decision with
          | some .approved => .continue_
          | some .revisionRequested => .revision
          | _ => .rejected }

/-- `B2.60` with the decisions of the review; `handleB260` has its lineage only. -/
def Proposal.handleB260 (a : ProposalAnswers) (s : OptimizationState) :
    Except Failure NodeExecution := do
  let opportunityRef ← s.requireRef .qualifiedOpportunity
  let findingSetRef ← s.requireRef .findingSet
  let portfolioRef ← s.requireRef .solutionPortfolio
  let qualityReportRef ← s.requireRef .a3QualityReport
  match s.b2RoutingDecision with
  | none => .error (.missingField .b2RoutingDecision)
  | some routing =>
    let approval := s.b2Approval.getD ⟨none, none, none, .approved, b2ApprovalPolicyVersion⟩
    let staleness := s.b2StalenessDecision.getD ⟨"staleness-" ++ s.caseId, false, [], .proceed⟩
    .ok { artifactRefs := [⟨.base, .proposalEnvelope a.now opportunityRef.contentDigest
            findingSetRef.contentDigest portfolioRef.contentDigest qualityReportRef.contentDigest
            routing approval staleness⟩] }

/-- What A3 seals, among the types that some node reads. -/
def a3Types : List ArtifactType := [.findingSet, .solutionPortfolio, .a3QualityReport, .other]

/-- A node of A3, as far as B2 can tell: it seals what the environment answers and routes as
it answers. `A3.82` counts the attempt, whether it goes on or gives up. -/
def handleA3 (number : Nat) (a : ProposalAnswers) (s : OptimizationState) :
    Except Failure NodeExecution :=
  .ok { route := a.analysisRoute
        artifactRefs := a.analysisRefs.filter fun ref => a3Types.contains ref.artifactType
        updates :=
          if number = 82 then [.a3RevisionAttempts (s.a3RevisionAttempts + 1)] else [] }

def handleB2 (number : Nat) : ProposalAnswers → OptimizationState → Except Failure NodeExecution :=
  match number with
  | 10 => handleB210
  | 20 => handleB220
  | 21 => handleB221
  | 30 => handleB230
  | 31 => handleB231
  | 40 => handleB240
  | 41 => handleB241
  | 50 => handleB250
  | 51 => handleB251
  | 52 => handleB252
  | 60 => Proposal.handleB260
  | _ => fun _ _ => .error (.nodeNotEnabled ⟨.B2, number⟩)

def proposalHandler (n : NodeId) :
    ProposalAnswers → OptimizationState → Except Failure NodeExecution :=
  match n.stage with
  | .A3 => handleA3 n.number
  | .B2 => handleB2 n.number
  | _ => fun _ _ => .error (.nodeNotEnabled n)

def a3Nodes : List NodeId :=
  [10, 11, 20, 21, 30, 31, 32, 33, 40, 41, 50, 51, 60, 61, 62, 63, 64, 70, 80, 81, 82, 90].map
    (⟨.A3, ·⟩)

def b2Nodes : List NodeId :=
  [10, 20, 21, 30, 31, 40, 41, 50, 51, 52, 60].map (⟨.B2, ·⟩)

def proposalNodes : List NodeId := a3Nodes ++ b2Nodes

def proposalRoutes (n : NodeId) : List NodeRoute :=
  if n = ⟨.A3, 51⟩ ∨ n = ⟨.A3, 82⟩ then [.continue_, .rejected]
  else if n = ⟨.A3, 81⟩ ∨ n = ⟨.B2, 52⟩ then [.continue_, .revision, .rejected]
  else if n = ⟨.B2, 31⟩ then [.continue_, .refresh, .rejected]
  else if n = ⟨.B2, 50⟩ then [.continue_, .approval, .rejected]
  else [.continue_]

def proposalRegistry : Registry ProposalAnswers := fun n =>
  if n ∈ proposalNodes then some ⟨proposalRoutes n, proposalHandler n⟩ else none

/-- Where an edge leads: to a node, to the end of A3 inside B2, or to the end of B2. -/
inductive ProposalEdge where
  | goto (n : NodeId)
  | endA3
  | stop
  deriving DecidableEq

/-- The edges between nodes that have only one way on. -/
def linearEdges : List (NodeId × NodeId) :=
  [(⟨.B2, 10⟩, ⟨.B2, 20⟩), (⟨.B2, 20⟩, ⟨.B2, 21⟩), (⟨.B2, 21⟩, ⟨.A3, 10⟩),
   (⟨.A3, 10⟩, ⟨.A3, 11⟩), (⟨.A3, 11⟩, ⟨.A3, 20⟩), (⟨.A3, 20⟩, ⟨.A3, 21⟩),
   (⟨.A3, 21⟩, ⟨.A3, 30⟩), (⟨.A3, 30⟩, ⟨.A3, 31⟩), (⟨.A3, 31⟩, ⟨.A3, 32⟩),
   (⟨.A3, 32⟩, ⟨.A3, 33⟩), (⟨.A3, 33⟩, ⟨.A3, 40⟩), (⟨.A3, 40⟩, ⟨.A3, 41⟩),
   (⟨.A3, 41⟩, ⟨.A3, 50⟩), (⟨.A3, 50⟩, ⟨.A3, 51⟩), (⟨.A3, 60⟩, ⟨.A3, 61⟩),
   (⟨.A3, 61⟩, ⟨.A3, 62⟩), (⟨.A3, 62⟩, ⟨.A3, 63⟩), (⟨.A3, 63⟩, ⟨.A3, 64⟩),
   (⟨.A3, 64⟩, ⟨.A3, 70⟩), (⟨.A3, 70⟩, ⟨.A3, 80⟩), (⟨.A3, 80⟩, ⟨.A3, 81⟩),
   (⟨.B2, 30⟩, ⟨.B2, 31⟩), (⟨.B2, 40⟩, ⟨.B2, 41⟩), (⟨.B2, 41⟩, ⟨.B2, 50⟩),
   (⟨.B2, 51⟩, ⟨.B2, 52⟩)]

/-- The routed edges; a route that is not listed ends its graph. -/
def routedEdges : List ((NodeId × NodeRoute) × NodeId) :=
  [((⟨.A3, 51⟩, .continue_), ⟨.A3, 60⟩), ((⟨.A3, 81⟩, .continue_), ⟨.A3, 90⟩),
   ((⟨.A3, 81⟩, .revision), ⟨.A3, 82⟩), ((⟨.A3, 82⟩, .continue_), ⟨.A3, 60⟩),
   ((⟨.B2, 31⟩, .continue_), ⟨.B2, 40⟩), ((⟨.B2, 50⟩, .continue_), ⟨.B2, 60⟩),
   ((⟨.B2, 50⟩, .approval), ⟨.B2, 51⟩), ((⟨.B2, 52⟩, .continue_), ⟨.B2, 60⟩),
   ((⟨.B2, 52⟩, .revision), ⟨.A3, 10⟩)]

def proposalEdge (n : NodeId) (route : NodeRoute) : ProposalEdge :=
  match linearEdges.lookup n with
  | some m => .goto m
  | none =>
    match routedEdges.lookup (n, route) with
    | some m => .goto m
    | none => if n.stage = .A3 then .endA3 else .stop

/-- The node after a commit; the end of A3 is behind `completed(A3.90)`. -/
def proposalNext (n : NodeId) (s : OptimizationState) : Option NodeId :=
  match proposalEdge n (s.routeFor n) with
  | .goto m => some m
  | .endA3 => if ⟨.A3, 90⟩ ∈ s.completedNodes then some ⟨.B2, 30⟩ else none
  | .stop => none

def proposalGraph : Graph := .ofFunction ⟨.B2, 10⟩ proposalNext

abbrev ProposalStep : Config → Visit → Config → Prop := GraphStep proposalRegistry proposalGraph

abbrev ProposalTrace := List (Runs.Transition Config Visit)

end ProductionOptimizer
