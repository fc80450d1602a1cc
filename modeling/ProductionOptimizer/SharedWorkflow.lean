import ProductionOptimizer.Handlers.PolicyDecision
import ProductionOptimizer.Resume

/-!
# The shared workflow graph

The seven stage graphs and the outer edges between them, flattened: a position is a node,
and a stage that has ended hands over to the first node of the next one.
-/

namespace ProductionOptimizer
open Runs NumberedLog
set_option autoImplicit false

def maxPhaseRepairAttempts : Nat := 5

def nodeNumbers : Stage → List Nat
  | .S02 => [10, 20, 30, 40, 50, 60, 70, 80, 81, 90]
  | .S01 | .S03 | .S04 | .S05 | .S06 | .S07 => [10, 20, 30, 40, 50, 60, 70, 80, 90]
  | _ => []

def approvalNodes : List NodeId := [⟨.S01, 80⟩, ⟨.S02, 90⟩, ⟨.S06, 90⟩]

/-- Nodes that may answer `rejected` and do not ask for approval. -/
def rejectingNodes : List NodeId :=
  [⟨.S01, 20⟩, ⟨.S02, 10⟩, ⟨.S03, 10⟩, ⟨.S03, 60⟩, ⟨.S03, 70⟩, ⟨.S04, 10⟩, ⟨.S05, 30⟩,
   ⟨.S05, 70⟩, ⟨.S06, 10⟩, ⟨.S07, 10⟩, ⟨.S07, 90⟩]

/-- The route overrides of the stages' `NodeSpec`s. -/
def declaredRoutes (n : NodeId) : List NodeRoute :=
  if n ∈ approvalNodes then [.continue_, .approval, .rejected]
  else if n ∈ rejectingNodes then [.continue_, .rejected]
  else if n = ⟨.S02, 81⟩ then [.continue_, .revision, .rejected]
  else if n = ⟨.S04, 80⟩ then [.continue_, .revision]
  else [.continue_]

/-- S07 only reports: it writes none of the modelled channels, and its refs are of types
that no modelled node reads. -/
def handleS07 (a : Answers) (_ : OptimizationState) : Except Failure NodeExecution :=
  .ok { route := a.reportRoute
        artifactRefs := a.reportRefs.filter (·.artifactType == .other) }

def nodeHandler (n : NodeId) : Answers → OptimizationState → Except Failure NodeExecution :=
  match n.stage with
  | .S01 => handleS01 n.number
  | .S02 => handleS02 n.number
  | .S03 => handleS03 n.number
  | .S04 => handleS04 n.number
  | .S05 => handleS05 n.number
  | .S06 => handleS06 n.number
  | .S07 => handleS07
  | _ => fun _ _ => .error (.nodeNotEnabled n)

def sharedRegistry : Registry Answers := fun n =>
  if n.number ∈ nodeNumbers n.stage then some ⟨declaredRoutes n, nodeHandler n⟩ else none

/-- Nodes whose stage ends unless they continue. -/
def routedNodes : List NodeId :=
  [⟨.S01, 20⟩, ⟨.S01, 80⟩, ⟨.S03, 10⟩, ⟨.S03, 60⟩, ⟨.S03, 70⟩, ⟨.S04, 10⟩, ⟨.S05, 30⟩,
   ⟨.S05, 70⟩, ⟨.S06, 10⟩, ⟨.S07, 10⟩]

/-- The edges inside a stage; `none` is the stage's `END`. Every declared route of a routed
node is in its table, so the fall-through of the last cases is the linear edge. -/
def innerNext (n : NodeId) (route : NodeRoute) : Option NodeId :=
  if n.number = 90 then none
  else if n = ⟨.S02, 80⟩ then some ⟨.S02, 81⟩
  else if n = ⟨.S02, 81⟩ then
    match route with
    | .continue_ => some ⟨.S02, 90⟩
    | .revision => some ⟨.S02, 30⟩
    | _ => none
  else if n ∈ routedNodes ∧ route ≠ .continue_ then none
  else some ⟨n.stage, n.number + 10⟩

inductive VerificationOutcome where
  | pass
  | revision
  | halt
  deriving DecidableEq, Repr

def verificationOutcome (s : OptimizationState) : VerificationOutcome :=
  if ⟨.S04, 90⟩ ∉ s.completedNodes then .halt
  else if (verificationState s).gatePassed = some true then .pass
  else if maxPhaseRepairAttempts ≤ s.s03RevisionAttempts then .halt
  else .revision

/-- `_policy_outcome`; `none` is `halt`. -/
def policyOutcome (s : OptimizationState) : Option Outcome :=
  if s.routeFor ⟨.S06, 90⟩ ≠ .continue_ then none
  else if s.s06Decision = some .fixOnePart ∧ maxPhaseRepairAttempts ≤ s.s03RevisionAttempts then
    none
  else s.s06Decision

/-- `completed(X.90)` between two stages. -/
def completedGate (terminal : NodeId) (next : Stage) (s : OptimizationState) : Option Stage :=
  if terminal ∈ s.completedNodes then some next else none

/-- The outer edges; `none` is `END`. -/
def outerNext (stage : Stage) (s : OptimizationState) : Option Stage :=
  match stage with
  | .S01 => completedGate ⟨.S01, 90⟩ .S02 s
  | .S02 => completedGate ⟨.S02, 90⟩ .S03 s
  | .S03 => completedGate ⟨.S03, 90⟩ .S04 s
  | .S04 =>
    match verificationOutcome s with
    | .pass => some .S05
    | .revision => some .S03
    | .halt => none
  | .S05 => completedGate ⟨.S05, 90⟩ .S06 s
  | .S06 =>
    match policyOutcome s with
    | some .keep => some .S07
    | some .fixOnePart => some .S03
    | some .revert => some .S01
    | _ => none
  | _ => none

def firstNode (stage : Stage) : NodeId := ⟨stage, 10⟩

def nextPosition (n : NodeId) (s : OptimizationState) : Option NodeId :=
  match innerNext n (s.routeFor n) with
  | some m => some m
  | none => (outerNext n.stage s).map firstNode

def sharedGraph : Graph := .ofFunction (firstNode .S01) nextPosition

abbrev SharedStep : Config → Visit → Config → Prop := GraphStep sharedRegistry sharedGraph

abbrev SharedTrace := List (Transition Config Visit)

def nodeFields (n : NodeId) : List Field :=
  match n.stage with
  | .S01 => s01Fields n.number
  | .S02 => s02Fields n.number
  | .S03 => s03Fields n.number
  | .S04 => s04Fields n.number
  | .S05 => s05Fields n.number
  | .S06 => s06Fields n.number
  | _ => []

def nodeTypes (n : NodeId) : List ArtifactType :=
  match n.stage with
  | .S01 => s01Types n.number
  | .S02 => s02Types n.number
  | .S03 => s03Types n.number
  | .S04 => s04Types n.number
  | .S05 => s05Types n.number
  | .S06 => s06Types n.number
  | .S07 => [.other]
  | _ => []

theorem handleS07_writes (a : Answers) (s : OptimizationState) :
    Yields (WritesOnly [] [.other]) (handleS07 a s) := by
  refine Yields.ok ?_
  rw [WritesOnly, List.all_filter]
  simpa using fun ref _ => (Decidable.em _).symm

theorem nodeHandler_writes (n : NodeId) (a : Answers) (s : OptimizationState) :
    Yields (WritesOnly (nodeFields n) (nodeTypes n)) (nodeHandler n a s) := by
  obtain ⟨stage, number⟩ := n
  cases stage with
  | S01 => exact handleS01_writes a s number
  | S02 => exact handleS02_writes a s number
  | S03 => exact handleS03_writes a s number
  | S04 => exact handleS04_writes a s number
  | S05 => exact handleS05_writes a s number
  | S06 => exact handleS06_writes a s number
  | S07 => exact handleS07_writes a s
  | _ => exact Yields.error

theorem sharedRegistry_some {n : NodeId} {node : RegisteredNode Answers}
    (h : sharedRegistry n = some node) :
    n.number ∈ nodeNumbers n.stage ∧ node = ⟨declaredRoutes n, nodeHandler n⟩ := by
  unfold sharedRegistry at h
  split at h
  · rename_i hmem
    cases h
    exact ⟨hmem, rfl⟩
  · cases h

theorem fresh_handler {n : NodeId} {a : Answers} {s : OptimizationState} {ledger : Ledger}
    {visit : Visit} (h : Source sharedRegistry n a s ledger visit)
    (hflag : visit.replayed = false) :
    nodeHandler n a s = .ok visit.execution ∧ visit.execution.route ∈ declaredRoutes n ∧
      n.number ∈ nodeNumbers n.stage := by
  cases h with
  | replay hreplay _ _ =>
    rw [hreplay] at hflag
    cases hflag
  | fresh node _ _ hnode hhandler hroute _ =>
    obtain ⟨hmem, rfl⟩ := sharedRegistry_some hnode
    exact ⟨hhandler, hroute, hmem⟩

theorem innerNext_cases {n m : NodeId} {route : NodeRoute} (h : innerNext n route = some m) :
    n.number ≠ 90 ∧ ((n ≠ ⟨.S02, 80⟩ ∧ m = ⟨n.stage, n.number + 10⟩) ∨
      (n = ⟨.S02, 80⟩ ∧ m = ⟨.S02, 81⟩) ∨
      (n = ⟨.S02, 81⟩ ∧ (m = ⟨.S02, 90⟩ ∨ m = ⟨.S02, 30⟩))) := by
  unfold innerNext at h
  split at h
  · cases h
  · rename_i hnumber
    refine ⟨hnumber, ?_⟩
    split at h
    · rename_i hnode
      cases h
      exact Or.inr (Or.inl ⟨hnode, rfl⟩)
    · rename_i hne
      split at h
      · rename_i hnode
        refine Or.inr (Or.inr ⟨hnode, ?_⟩)
        split at h
        · cases h
          exact Or.inl rfl
        · cases h
          exact Or.inr rfl
        · cases h
      · split at h
        · cases h
        · cases h
          exact Or.inl ⟨hne, rfl⟩

/-- A stage ends at its node 90, at a routed node, or at `S02.81`. -/
theorem innerNext_none {n : NodeId} {route : NodeRoute} (h : innerNext n route = none) :
    n.number = 90 ∨ n = ⟨.S02, 81⟩ ∨ n ∈ routedNodes := by
  unfold innerNext at h
  split at h
  · rename_i hnumber
    exact Or.inl hnumber
  · split at h
    · cases h
    · split at h
      · rename_i hnode
        exact Or.inr (Or.inl hnode)
      · split at h
        · rename_i hrouted
          exact Or.inr (Or.inr hrouted.1)
        · cases h

theorem completedGate_some {terminal : NodeId} {next stage : Stage} {s : OptimizationState}
    (h : completedGate terminal next s = some stage) :
    terminal ∈ s.completedNodes ∧ stage = next := by
  unfold completedGate at h
  split at h
  · rename_i hmem
    exact ⟨hmem, (Option.some.inj h).symm⟩
  · cases h

theorem nextPosition_cases {n m : NodeId} {s : OptimizationState} (h : nextPosition n s = some m) :
    innerNext n (s.routeFor n) = some m ∨
      (innerNext n (s.routeFor n) = none ∧
        ∃ stage, outerNext n.stage s = some stage ∧ m = firstNode stage) := by
  unfold nextPosition at h
  split at h
  · rename_i m' hinner
    cases h
    exact Or.inl hinner
  · rename_i hinner
    obtain ⟨stage, houter, rfl⟩ := Option.map_eq_some_iff.mp h
    exact Or.inr ⟨hinner, stage, houter, rfl⟩

/-! ### A small case

One phase with one task, and answers under which every node continues. -/

def sampleStrategy (strategyId : String) (risk : RiskTier) : SolutionStrategy where
  strategyId := strategyId
  riskCeiling := risk
  criterionImpacts := [⟨"unit-ok", .improves, 9 / 10⟩]
  effort := .low
  reversibility := .instant
  uncertainty := 0
  rollbackReversible := true
  scopeEntries := []
  fullyResolved := true
  eligible := true

def sampleCriterion (criterionId metricId : String) : Criterion :=
  ⟨criterionId, metricId, .minimize, 0, 1⟩

def sampleRefs (strategies : List SolutionStrategy) : List ArtifactRef :=
  [⟨.base, .optimizationRequest ⟨[sampleCriterion "unit-ok" "unit_command_result",
     sampleCriterion "lint-ok" "lint_command_result"], [], [], "workload", 60⟩⟩,
   ⟨.base, .solutionPortfolio ⟨strategies⟩⟩,
   ⟨.base, .convergedCase⟩,
   ⟨.base, .sourceSnapshot ⟨"repo", some "head"⟩⟩,
   ⟨.base, .repositoryManifest ⟨[.unit, .lint], [], []⟩⟩,
   ⟨.base, .baselineSnapshot ⟨"workload", "host",
     [⟨"unit_command_result", 1, 0⟩, ⟨"lint_command_result", 1, 0⟩]⟩⟩]

def sampleCase (strategies : List SolutionStrategy) : Config :=
  ⟨some (firstNode .S01),
   { caseId := "case", threadId := "thread", tenantId := "tenant",
     artifactRefs := sampleRefs strategies }, ∅⟩

def sampleAnswers : Answers where
  policy := some ⟨true, "allow", "v1", []⟩
  repositoryPaths := ["a.py"]
  draftPhases := [⟨"p1", 1, .implementation, .code, some "git revert"⟩]
  draftTasks := [⟨"t1", "p1", ["a.py"], [], [], false⟩]
  draftCoverage := [("unit-ok", true)]
  criticApproved := true
  workspacePath := "workspace"
  changedFiles := ["a.py"]
  diff := "diff"
  headRevision := some "head"
  commitSha := some "sha"

/-- A case whose only strategy changes code, so that selection and plan need an owner. -/
def codeRiskCase : Config := sampleCase [sampleStrategy "s1" .code]

/-- A case that needs no owner before S06. -/
def promptRiskCase : Config := sampleCase [sampleStrategy "s1" .prompt]

def sharedReplay (c : Config) (answers : List Answers) : Option (SharedTrace × Config) :=
  replay (advance sharedRegistry nextPosition) answers [] c

theorem exists_sharedRun (c : Config) (answers : List Answers)
    (check : SharedTrace × Config → Bool) (h : (sharedReplay c answers).any check = true) :
    ∃ tr c', Run SharedStep c tr c' ∧ check (tr, c') = true :=
  exists_run_of_replay (advance sharedRegistry nextPosition)
    (fun _ _ _ _ hs => graphStep_of_advance sharedRegistry (firstNode .S01) nextPosition hs)
    c answers check h

end ProductionOptimizer
