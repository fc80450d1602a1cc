import ProductionOptimizer.Handlers.RankAndSelect

/-!
# S02: draft, check and approve the plan

The draft and the critique come from the model and are answers; what the deterministic
nodes make of them is computed. `S02.81` is the only node that seals the plan and the only
way back to `S02.30`.
-/

namespace ProductionOptimizer
set_option autoImplicit false

def s02PolicyVersion : String := "s02-plan-v1"
def maxS02Revisions : Nat := 2

/-- `path.replace("\\", "/").lstrip("./")`. -/
def normalizeRepoPath (path : String) : String :=
  String.ofList ((path.toList.map fun c => if c = '\\' then '/' else c).dropWhile fun c =>
    c = '.' || c = '/')

def handleS0210 (a : Answers) (s : OptimizationState) : Except Failure NodeExecution := do
  let selected ← s.readSelected
  let portfolio ← s.readPortfolio
  let _ ← s.readSnapshot
  let strategy ← strategyById portfolio selected
  let stillResolved := strategy.scopeEntries.all fun entry =>
    entry.proposedCreation || a.pathExists entry.pathOrSymbol
  .ok { route := if stillResolved then .continue_ else .rejected
        updates := [.s02ResolutionOk stillResolved] }

/-- `S02.20`. The dependency map it computes is only ever shown to the model. -/
def handleS0220 (_ : Answers) (s : OptimizationState) : Except Failure NodeExecution := do
  let selected ← s.readSelected
  let portfolio ← s.readPortfolio
  let _ ← s.readSnapshot
  let _ ← s.readManifest
  let _ ← strategyById portfolio selected
  .ok {}

def handleS0230 (a : Answers) (s : OptimizationState) : Except Failure NodeExecution := do
  if !a.modelWired then .error .missingPort
  else
    let selected ← s.readSelected
    let portfolio ← s.readPortfolio
    let _ ← s.readSnapshot
    let _ ← strategyById portfolio selected
    .ok { updates := [.s02PlanDraft { phases := a.draftPhases, tasks := a.draftTasks }] }

/-- `S02.40`: the drafted phases that do not validate are listed as failures. -/
def handleS0240 (a : Answers) (s : OptimizationState) : Except Failure NodeExecution := do
  let selected ← s.readSelected
  let portfolio ← s.readPortfolio
  let _ ← strategyById portfolio selected
  .ok { updates := [.s02PlanDraft
          { s.s02PlanDraft with phaseFailures := a.draftPhaseFailures }] }

/-- `S02.50`: a task of an unknown phase is dropped and listed. -/
def handleS0250 (a : Answers) (s : OptimizationState) : Except Failure NodeExecution := do
  let _ ← s.readSnapshot
  let draft := s.s02PlanDraft
  let known := draft.tasks.filter fun task => draft.phases.any (·.phaseId == task.phaseId)
  let unknown := draft.tasks.filter fun task => !draft.phases.any (·.phaseId == task.phaseId)
  .ok { updates := [.s02PlanDraft
          { draft with
            tasks := known
            taskFailures := a.draftTaskFailures ++ unknown.map fun task =>
              task.taskId ++ ": references unknown phase '" ++ task.phaseId ++ "'"
            pathRepairs := a.draftPathRepairs }] }

def handleS0260 (a : Answers) (s : OptimizationState) : Except Failure NodeExecution := do
  let selected ← s.readSelected
  let portfolio ← s.readPortfolio
  let _ ← strategyById portfolio selected
  .ok { updates := [.s02PlanDraft
          { s.s02PlanDraft with acceptanceCoverage := a.draftCoverage }] }

def rollbackDefined (phases : List ExecutionPhase) : Bool :=
  phases.all fun phase => phase.phaseKind != .implementation || phase.rollbackCommand.isSome

def handleS0270 (_ : Answers) (s : OptimizationState) : Except Failure NodeExecution :=
  .ok { updates := [.s02PlanDraft
          { s.s02PlanDraft with rollbackOk := rollbackDefined s.s02PlanDraft.phases }] }

def handleS0280 (a : Answers) (_ : OptimizationState) : Except Failure NodeExecution :=
  if !a.modelWired then .error .missingPort
  else .ok { updates := [.s02CritiqueApproved a.criticApproved] }

/-- `graph = {task.task_id: task.depends_on}`. -/
def dependencyGraph (tasks : List PlanTask) : List (String × List String) :=
  dictOf (tasks.map fun task => (task.taskId, task.dependsOn))

/-- The inner `visit` of `_check_acyclic`: `none` when a cycle is met, else the tasks
visited so far. The path `visiting` grows with every nested call, so as much fuel as the
graph has tasks, and one more, is enough. -/
def visitTask (graph : List (String × List String)) :
    Nat → List String → List String → String → Option (List String)
  | 0, _, _, _ => none
  | fuel + 1, visiting, visited, taskId =>
    if visited.contains taskId then some visited
    else if visiting.contains taskId then none
    else
      (((graph.lookup taskId).getD []).foldlM (fun visited dep =>
        if graph.any (·.1 == dep) then visitTask graph fuel (taskId :: visiting) visited dep
        else some visited) visited).map (taskId :: ·)

def checkAcyclic (tasks : List PlanTask) : Bool :=
  let graph := dependencyGraph tasks
  ((graph.map (·.1)).foldlM (fun visited taskId =>
    visitTask graph (graph.length + 1) [] visited taskId) []).isSome

def checkPhaseRiskOrder (phases : List ExecutionPhase) : Bool :=
  (phases.filter (·.phaseKind == .diagnostic)).all fun diagnostic =>
    (phases.filter (·.phaseKind == .implementation)).all fun implementation =>
      diagnostic.sequence < implementation.sequence

def sortBySequence (phases : List ExecutionPhase) : List ExecutionPhase :=
  phases.insertionSort fun x y => x.sequence ≤ y.sequence

def checkRiskLadderOrder (phases : List ExecutionPhase) : Bool :=
  let tiers := (sortBySequence phases).map fun phase => riskTierOrder phase.riskTier
  tiers == tiers.insertionSort (· ≤ ·)

def pathResolutionFailures (tasks : List PlanTask) (allowedPaths : List String) : List String :=
  (tasks.filter (!·.proposedCreation)).flatMap fun task =>
    (task.files.filter fun file => !allowedPaths.contains (normalizeRepoPath file)).map fun file =>
      task.taskId ++ ": " ++ file ++ " does not exist and is not marked proposed_creation"

/-- The ten dimensions of `S02.81`, in the order of the sealed report. -/
def planQuality (draft : PlanDraft) (criticApproved : Bool) (allowedPaths : List String) :
    List PlanQualityResult :=
  [⟨.phasesWellFormed, !draft.phases.isEmpty && draft.phaseFailures.isEmpty⟩,
   ⟨.tasksWellFormed, !draft.tasks.isEmpty && draft.taskFailures.isEmpty⟩,
   ⟨.dependencyDagAcyclic, checkAcyclic draft.tasks⟩,
   ⟨.phaseOrderingByRisk, checkPhaseRiskOrder draft.phases⟩,
   ⟨.riskLadderOrdering, checkRiskLadderOrder draft.phases⟩,
   ⟨.pathsResolve, (pathResolutionFailures draft.tasks allowedPaths).isEmpty⟩,
   ⟨.noSilentPathRepairs, draft.pathRepairs.isEmpty⟩,
   ⟨.criteriaCoverage,
     !draft.acceptanceCoverage.isEmpty && draft.acceptanceCoverage.all (·.2)⟩,
   ⟨.rollbackDefined, draft.rollbackOk⟩,
   ⟨.criticApproved, criticApproved⟩]

/-- `S02.81`. The plan and the task list are sealed on a passing attempt only; the report
and the counter on every one. -/
def handleS0281 (a : Answers) (s : OptimizationState) : Except Failure NodeExecution := do
  let selectedRef ← s.selectedSolutionRef
  let _ ← s.readSnapshot
  let draft := s.s02PlanDraft
  let results := planQuality draft s.s02CritiqueApproved (a.repositoryPaths.map normalizeRepoPath)
  let passNumber := s.s02RevisionAttempts
  let reportId := ArtifactId.stagePass ⟨.S02, 81⟩ passNumber
  if results.all (·.passed) then
    let plan := Artifact.executionPlan a.now selectedRef.contentDigest draft.phases
    let tasks := Artifact.taskList a.now plan draft.tasks
    .ok { artifactRefs := [⟨.base, plan⟩, ⟨.base, tasks⟩,
            ⟨reportId, .planQualityReport a.now plan tasks results⟩]
          updates := [.s02RevisionAttempts (passNumber + 1)] }
  else
    .ok { route := if passNumber < maxS02Revisions then .revision else .rejected
          artifactRefs := [⟨reportId, .planQualityReport a.now .absent .absent results⟩]
          updates := [.s02RevisionAttempts (passNumber + 1)] }

def planApproval (decision : PlanDecision) (command : ResumeInterruptCommand) : PlanApproval :=
  ⟨decision, some command.actorId, firstRole command, command.policyVersion⟩

def handleS0290 (a : Answers) (s : OptimizationState) : Except Failure NodeExecution := do
  let selected ← s.readSelected
  let portfolio ← s.readPortfolio
  let strategy ← strategyById portfolio selected
  let planRef ← s.requireRef .executionPlan
  if !needsOwner strategy.riskCeiling then
    .ok { updates := [.s02Approval ⟨.autoApproved, none, none, s02PolicyVersion⟩] }
  else
    match s.resumeCommand with
    | none =>
      .ok { route := .approval
            updates := [
              .pendingInterrupt (gateInterrupt s a ⟨.S02, 90⟩ "-S02-PLAN"
                planRef.contentDigest s02PolicyVersion),
              .s02Approval ⟨.pending, none, none, s02PolicyVersion⟩] }
    | some command =>
      if command.decision = "approve" then
        .ok { updates := [.s02Approval (planApproval .approved command)] }
      else
        .ok { route := .rejected, updates := [.s02Approval (planApproval .rejected command)] }

def handleS02 (number : Nat) : Answers → OptimizationState → Except Failure NodeExecution :=
  match number with
  | 10 => handleS0210
  | 20 => handleS0220
  | 30 => handleS0230
  | 40 => handleS0240
  | 50 => handleS0250
  | 60 => handleS0260
  | 70 => handleS0270
  | 80 => handleS0280
  | 81 => handleS0281
  | 90 => handleS0290
  | _ => fun _ _ => .error (.nodeNotEnabled ⟨.S02, number⟩)

def s02Fields : Nat → List Field
  | 10 => [.s02ResolutionOk]
  | 30 | 40 | 50 | 60 | 70 => [.s02PlanDraft]
  | 80 => [.s02CritiqueApproved]
  | 81 => [.s02RevisionAttempts]
  | 90 => [.pendingInterrupt, .s02Approval]
  | _ => []

def s02Types : Nat → List ArtifactType
  | 81 => [.executionPlan, .taskList, .planQualityReport]
  | _ => []

section Writes
variable (a : Answers) (s : OptimizationState)

theorem handleS0281_writes :
    Yields (WritesOnly (s02Fields 81) (s02Types 81)) (handleS0281 a s) := by
  unfold handleS0281
  refine Yields.bind fun selectedRef _ => Yields.bind fun snapshot _ => ?_
  dsimp only
  split
  · exact Yields.ok rfl
  · exact Yields.ok rfl

theorem handleS0290_writes :
    Yields (WritesOnly (s02Fields 90) (s02Types 90)) (handleS0290 a s) := by
  unfold handleS0290
  refine Yields.bind fun selected _ => Yields.bind fun portfolio _ => ?_
  refine Yields.bind fun strategy _ => Yields.bind fun planRef _ => ?_
  split
  · exact Yields.ok rfl
  · split
    · exact Yields.ok rfl
    · split
      · exact Yields.ok rfl
      · exact Yields.ok rfl

theorem handleS02_draft_writes {number : Nat} (h : number ≠ 81) (h' : number ≠ 90) :
    Yields (WritesOnly (s02Fields number) (s02Types number)) (handleS02 number a s) := by
  unfold handleS02
  split
  · unfold handleS0210
    refine Yields.bind fun selected _ => Yields.bind fun portfolio _ => ?_
    exact Yields.bind fun snapshot _ => Yields.bind fun strategy _ => Yields.ok rfl
  · unfold handleS0220
    refine Yields.bind fun selected _ => Yields.bind fun portfolio _ => ?_
    refine Yields.bind fun snapshot _ => Yields.bind fun manifest _ => ?_
    exact Yields.bind fun strategy _ => Yields.ok rfl
  · unfold handleS0230
    split
    · exact Yields.error
    · refine Yields.bind fun selected _ => Yields.bind fun portfolio _ => ?_
      exact Yields.bind fun snapshot _ => Yields.bind fun strategy _ => Yields.ok rfl
  · unfold handleS0240
    refine Yields.bind fun selected _ => Yields.bind fun portfolio _ => ?_
    exact Yields.bind fun strategy _ => Yields.ok rfl
  · unfold handleS0250
    exact Yields.bind fun snapshot _ => Yields.ok rfl
  · unfold handleS0260
    refine Yields.bind fun selected _ => Yields.bind fun portfolio _ => ?_
    exact Yields.bind fun strategy _ => Yields.ok rfl
  · exact Yields.ok rfl
  · unfold handleS0280
    split
    · exact Yields.error
    · exact Yields.ok rfl
  · exact absurd rfl h
  · exact absurd rfl h'
  · exact Yields.error

theorem handleS02_writes (number : Nat) :
    Yields (WritesOnly (s02Fields number) (s02Types number)) (handleS02 number a s) := by
  by_cases h81 : number = 81
  · subst h81
    exact handleS0281_writes a s
  · by_cases h90 : number = 90
    · subst h90
      exact handleS0290_writes a s
    · exact handleS02_draft_writes a s h81 h90

end Writes

theorem handleS0281_ok {a : Answers} {s : OptimizationState} {execution : NodeExecution}
    (h : handleS0281 a s = .ok execution) :
    execution.updates = [.s02RevisionAttempts (s.s02RevisionAttempts + 1)] := by
  obtain ⟨selectedRef, _, h⟩ := except_bind_ok h
  obtain ⟨snapshot, _, h⟩ := except_bind_ok h
  dsimp only at h
  split at h
  · cases h
    rfl
  · cases h
    rfl

end ProductionOptimizer
