import ProductionOptimizer.Handlers.PlanAndTasks

/-!
# S03: implement one phase

`S03.10` picks the first phase with an open task. The edits themselves are made by an
executor in an isolated workspace and arrive as answers; the scope and the sanitation
check over them are computed.
-/

namespace ProductionOptimizer
set_option autoImplicit false

def firstOpenPhase (phases : List ExecutionPhase) (tasks : List PlanTask)
    (completed : List String) : Option String :=
  ((sortBySequence phases).find? fun phase =>
    !(phaseTaskIds tasks phase.phaseId).all (completed.contains ·)).map (·.phaseId)

def handleS0310 (a : Answers) (s : OptimizationState) : Except Failure NodeExecution :=
  match a.policy with
  | none => .error .missingPort
  | some decision => do
    let phases ← s.readPlan
    let tasks ← s.readTaskList
    let _ ← s.readRequest
    match firstOpenPhase phases tasks s.s03CompletedTaskIds with
    | none =>
      .ok { route := .rejected
            updates := [.s03Authorization ⟨none, false, ["no remaining phase"]⟩] }
    | some phaseId =>
      .ok { route := if decision.allowed then .continue_ else .rejected
            updates := [.s03ActivePhaseId phaseId,
              .s03Authorization ⟨some phaseId, decision.allowed, decision.reasons⟩] }

/-- `S03.20`. A worktree is tried for a versioned snapshot only; a plain copy is the
fallback in both cases. -/
def handleS0320 (a : Answers) (s : OptimizationState) : Except Failure NodeExecution := do
  let snapshot ← s.readSnapshot
  let versioned := snapshot.gitRevision.any (· != "")
  .ok { updates := [.s03Workspace
          { path := a.workspacePath
            baseRevision := if versioned then snapshot.gitRevision.getD "" else "unversioned"
            isolation := if versioned && a.worktreeAdded then .gitWorktree else .directoryCopy
            sourceRoot := snapshot.canonicalPathRef }] }

def executorKind : RiskTier → ExecutorKind
  | .experimentConfig => .deterministicConfig
  | _ => .llmDriven

def handleS0330 (_ : Answers) (s : OptimizationState) : Except Failure NodeExecution := do
  let selected ← s.readSelected
  let portfolio ← s.readPortfolio
  let strategy ← strategyById portfolio selected
  .ok { updates := [.s03Executor
          ⟨executorKind strategy.riskCeiling, strategy.riskCeiling, strategy.strategyId⟩] }

/-- `setdefault(file, []).extend(symbols)`. -/
def extendSymbols (d : List (String × List String)) (file : String) (symbols : List String) :
    List (String × List String) :=
  dictSet d file ((d.lookup file).getD [] ++ symbols)

/-- A path is restricted to symbols only when some task of the phase declares symbols. -/
def allowedSymbolsByPath (tasks : List PlanTask) : List (String × List String) :=
  let restricted := tasks.filter (!·.symbols.isEmpty)
  (restricted.foldl (fun d task =>
    task.files.foldl (fun d file => extendSymbols d file task.symbols) d) []).map
      fun e => (e.1, sortedSet e.2)

def handleS0340 (_ : Answers) (s : OptimizationState) : Except Failure NodeExecution := do
  let phases ← s.readPlan
  let tasks ← s.readTaskList
  let manifest ← s.readManifest
  let phaseId ← s.activePhaseId
  match phases.find? (·.phaseId == phaseId) with
  | none => .error (.unknownPhase phaseId)
  | some phase =>
    let own := tasks.filter (·.phaseId == phaseId)
    .ok { updates := [.s03Context
            { phaseId := phase.phaseId
              phaseKind := phase.phaseKind
              allowedWritePaths := sortedSet (own.flatMap (·.files))
              allowedSymbolsByPath := allowedSymbolsByPath own
              allowedCommand := manifest.commands.find? (· == .unit) }] }

/-- `S03.50`. The deterministic sweep uses no model and no tokens. -/
def handleS0350 (a : Answers) (s : OptimizationState) : Except Failure NodeExecution := do
  let _ ← requireWorkspace s
  if s.s03Executor.any (·.kind == .deterministicConfig) then
    .ok { updates := [.s03ToolCalls ⟨a.toolCalls, 0, 0⟩] }
  else if !a.modelWired then .error .missingPort
  else .ok { updates := [.s03ToolCalls ⟨a.toolCalls, a.inputTokens, a.outputTokens⟩] }

def symbolViolations (a : Answers) (path : String) (allowed : List String) :
    List ScopeViolation :=
  (sortedSet ((a.changedSymbols path).filter (!allowed.contains ·))).map (.symbol path)

def scopeViolations (a : Answers) (context : Option PhaseContext) (changed : List String) :
    List ScopeViolation :=
  let paths := (context.map (·.allowedWritePaths)).getD []
  let symbols := (context.map (·.allowedSymbolsByPath)).getD []
  (changed.filter (!paths.contains ·)).map .path ++
    (changed.filter (paths.contains ·)).flatMap fun path =>
      match symbols.lookup path with
      | none => []
      | some allowed => symbolViolations a path allowed

def handleS0360 (a : Answers) (s : OptimizationState) : Except Failure NodeExecution := do
  let _ ← requireWorkspace s
  let changed := a.changedFiles.insertionSort (· ≤ ·)
  let violations := scopeViolations a s.s03Context changed
  .ok { route := if violations.isEmpty then .continue_ else .rejected
        updates := [.s03ScopeReport ⟨violations, changed⟩] }

/-- `Path(rel).name`. -/
def pathName (path : String) : String :=
  String.ofList (path.toList.reverse.takeWhile (· != '/')).reverse

/-- `Path(rel).suffix.lower()`: a leading or a trailing dot starts no suffix. -/
def pathSuffix (path : String) : String :=
  let name := (pathName path).toList
  let extension := (name.reverse.takeWhile (· != '.')).reverse
  if extension.isEmpty || name.length ≤ extension.length + 1 then ""
  else (String.ofList ('.' :: extension)).toLower

def binaryExtensions : List String := [".exe", ".dll", ".so", ".bin", ".pyc", ".pyd"]

def lockfileNames : List String :=
  ["uv.lock", "package-lock.json", "poetry.lock", "Cargo.lock", "yarn.lock"]

def isMigration (path : String) : Bool :=
  "migrations/".toList.isPrefixOf path.toList ||
    path.toList.tails.any ("/migrations/".toList.isPrefixOf ·)

/-- What `S03.70` finds in one changed file; a binary is not looked at further. -/
def fileFindings (a : Answers) (path : String) : List SanitationFinding :=
  if !a.fileExists path then []
  else if binaryExtensions.contains (pathSuffix path) then [.forbiddenBinary path]
  else
    (if lockfileNames.contains (pathName path) then [.lockfileChange path] else []) ++
    (if isMigration path then [.migrationChange path] else []) ++
    (if a.matchesSecret path then [.secret path] else [])

def changedFiles (s : OptimizationState) : List String :=
  (s.s03ScopeReport.map (·.changedFiles)).getD []

def handleS0370 (a : Answers) (s : OptimizationState) : Except Failure NodeExecution := do
  let _ ← requireWorkspace s
  let findings := (changedFiles s).flatMap (fileFindings a)
  .ok { route := if findings.isEmpty then .continue_ else .rejected
        updates := [.s03SanitationReport findings] }

def orDefault (items : List String) (fallback : String) : List String :=
  if items.isEmpty then [fallback] else items

def handleS0380 (a : Answers) (s : OptimizationState) : Except Failure NodeExecution := do
  let planRef ← s.requireRef .executionPlan
  let tasks ← s.readTaskList
  let workspace ← requireWorkspace s
  let phaseId ← s.activePhaseId
  let stageId ← s.phaseStage ⟨.S03, 80⟩
  match s.s03Executor with
  | none => .error (.invalidContract .executionProvenance)
  | some executor =>
    let calls := s.s03ToolCalls.getD ⟨0, 0, 0⟩
    let provenance := Artifact.executionProvenance a.now planRef.contentDigest phaseId
      executor.kind calls.toolCalls calls.inputTokens calls.outputTokens
      workspace.baseRevision workspace.isolation
    let patch := Artifact.patchArtifact a.now planRef.contentDigest provenance phaseId
      (orDefault ((phaseTaskIds tasks phaseId).insertionSort (· ≤ ·)) "no-tasks")
      workspace.baseRevision (orDefault (changedFiles s) "no-changes")
      (if a.diff = "" then "(no textual diff -- no files changed)" else a.diff)
      ((s.s03ScopeReport.map (·.violations)).getD []) (s.s03SanitationReport.getD [])
    .ok { artifactRefs := [⟨stageId, provenance⟩, ⟨stageId, patch⟩] }

def handleS0390 (_ : Answers) (s : OptimizationState) : Except Failure NodeExecution := do
  let tasks ← s.readTaskList
  let phaseId ← s.activePhaseId
  .ok { updates := [.s03ImplementedTaskIds
          (sortedSet (s.s03ImplementedTaskIds ++ phaseTaskIds tasks phaseId))] }

def handleS03 (number : Nat) : Answers → OptimizationState → Except Failure NodeExecution :=
  match number with
  | 10 => handleS0310
  | 20 => handleS0320
  | 30 => handleS0330
  | 40 => handleS0340
  | 50 => handleS0350
  | 60 => handleS0360
  | 70 => handleS0370
  | 80 => handleS0380
  | 90 => handleS0390
  | _ => fun _ _ => .error (.nodeNotEnabled ⟨.S03, number⟩)

def s03Fields : Nat → List Field
  | 10 => [.s03ActivePhaseId, .s03Authorization]
  | 20 => [.s03Workspace]
  | 30 => [.s03Executor]
  | 40 => [.s03Context]
  | 50 => [.s03ToolCalls]
  | 60 => [.s03ScopeReport]
  | 70 => [.s03SanitationReport]
  | 90 => [.s03ImplementedTaskIds]
  | _ => []

def s03Types : Nat → List ArtifactType
  | 80 => [.executionProvenance, .patchArtifact]
  | _ => []

section Writes
variable (a : Answers) (s : OptimizationState)

theorem handleS0310_writes :
    Yields (WritesOnly (s03Fields 10) (s03Types 10)) (handleS0310 a s) := by
  unfold handleS0310
  split
  · exact Yields.error
  · refine Yields.bind fun phases _ => Yields.bind fun tasks _ => ?_
    refine Yields.bind fun request _ => ?_
    split
    · exact Yields.ok rfl
    · exact Yields.ok rfl

theorem handleS0340_writes :
    Yields (WritesOnly (s03Fields 40) (s03Types 40)) (handleS0340 a s) := by
  unfold handleS0340
  refine Yields.bind fun phases _ => Yields.bind fun tasks _ => ?_
  refine Yields.bind fun manifest _ => Yields.bind fun phaseId _ => ?_
  split
  · exact Yields.error
  · exact Yields.ok rfl

theorem handleS0350_writes :
    Yields (WritesOnly (s03Fields 50) (s03Types 50)) (handleS0350 a s) := by
  unfold handleS0350
  refine Yields.bind fun workspace _ => ?_
  split
  · exact Yields.ok rfl
  · split
    · exact Yields.error
    · exact Yields.ok rfl

theorem handleS0380_writes :
    Yields (WritesOnly (s03Fields 80) (s03Types 80)) (handleS0380 a s) := by
  unfold handleS0380
  refine Yields.bind fun planRef _ => Yields.bind fun tasks _ => ?_
  refine Yields.bind fun workspace _ => Yields.bind fun phaseId _ => ?_
  refine Yields.bind fun stageId _ => ?_
  split
  · exact Yields.error
  · exact Yields.ok rfl

theorem handleS03_writes (number : Nat) :
    Yields (WritesOnly (s03Fields number) (s03Types number)) (handleS03 number a s) := by
  unfold handleS03
  split
  · exact handleS0310_writes a s
  · exact Yields.bind fun snapshot _ => Yields.ok rfl
  · refine Yields.bind fun selected _ => Yields.bind fun portfolio _ => ?_
    exact Yields.bind fun strategy _ => Yields.ok rfl
  · exact handleS0340_writes a s
  · exact handleS0350_writes a s
  · exact Yields.bind fun workspace _ => Yields.ok rfl
  · exact Yields.bind fun workspace _ => Yields.ok rfl
  · exact handleS0380_writes a s
  · exact Yields.bind fun tasks _ => Yields.bind fun phaseId _ => Yields.ok rfl
  · exact Yields.error

end Writes

theorem firstOpenPhase_open {phases : List ExecutionPhase} {tasks : List PlanTask}
    {completed : List String} {phaseId : String}
    (h : firstOpenPhase phases tasks completed = some phaseId) :
    ∃ taskId ∈ phaseTaskIds tasks phaseId, taskId ∉ completed := by
  obtain ⟨phase, hfind, rfl⟩ := Option.map_eq_some_iff.mp h
  have hopen := List.find?_some hfind
  simpa using hopen

theorem handleS0310_ok {a : Answers} {s : OptimizationState} {execution : NodeExecution}
    (h : handleS0310 a s = .ok execution) :
    ∃ phases tasks, s.readPlan = .ok phases ∧ s.readTaskList = .ok tasks ∧
      ((firstOpenPhase phases tasks s.s03CompletedTaskIds = none ∧ execution.route = .rejected ∧
        execution.updates = [.s03Authorization ⟨none, false, ["no remaining phase"]⟩]) ∨
      ∃ phaseId authorization,
        firstOpenPhase phases tasks s.s03CompletedTaskIds = some phaseId ∧
        execution.updates = [.s03ActivePhaseId phaseId, .s03Authorization authorization]) := by
  unfold handleS0310 at h
  split at h
  · cases h
  · obtain ⟨phases, hphases, h⟩ := except_bind_ok h
    obtain ⟨tasks, htasks, h⟩ := except_bind_ok h
    obtain ⟨_, _, h⟩ := except_bind_ok h
    refine ⟨phases, tasks, hphases, htasks, ?_⟩
    split at h
    · rename_i hnone
      cases h
      exact Or.inl ⟨hnone, rfl, rfl⟩
    · rename_i phaseId hsome
      cases h
      exact Or.inr ⟨phaseId, _, hsome, rfl⟩

end ProductionOptimizer
