import Mathlib.Data.Finset.Sort
import ProductionOptimizer.Library.Interaction
import ProductionOptimizer.Library.TypedJson
import ProductionOptimizer.Library.Separated
import ProductionOptimizer.EvidenceBaseline
import ProductionOptimizer.Handlers.Freeze

/-!
# The Compose evaluation worker

`_run_compose_evaluation` talks to Docker: it asks for the resolved configuration, checks it,
builds and starts the project, runs every evaluator inside a service and takes the project down
again. Docker is not part of the model. Each invocation may be answered by any finished process
or any exception.
-/

namespace ProductionOptimizer.Compose
open Interaction
set_option autoImplicit false

abbrev Json := TypedJson.Value Empty

/-! ### Exceptions -/

/-- What `_validate_compose_config` objects to, in the order of its messages. -/
inductive Violation where
  | invalidService (service : String)
  | privileged (service : String)
  | hostNamespace (service kind : String)
  | devices (service : String)
  | hostMount (service : String) (source : Json)
  | externalVolume (volume : String)

inductive Rejection where
  | noRequestRef
  | noExecution
  | composeFile
  | notJson
  | noService
  | forbidden (violations : List Violation)
  | other (text : String)

inductive Raised where
  | osError (text : String)
  | timeoutExpired (text : String)
  | runtimeError (text : String)
  | valueError (reason : Rejection)
  | typeError

namespace Raised

/-- The text of an exception that the clause around the project's life catches. -/
def caught : Raised → Option String
  | .osError text | .timeoutExpired text | .runtimeError text => some text
  | .valueError _ | .typeError => none

/-- The text of an exception that the clause around the cleanup catches. -/
def caughtInCleanup : Raised → Option String
  | .osError text | .timeoutExpired text => some text
  | .runtimeError _ | .valueError _ | .typeError => none

end Raised

/-! ### Contracts -/

structure EvaluationOutput where
  featureId : String
  metrics : List (String × Option EvidenceGate.EvidenceValue)

structure EvaluationAttemptResult where
  evaluationId : String
  repetition : Nat
  exitCode : Int
  output : Option EvaluationOutput
  stdout : String
  stderr : String
  error : Option String

structure ComposeEvaluationWorkerResult where
  projectName : String
  attempts : List EvaluationAttemptResult
  cleanupConfirmed : Bool
  lifecycleError : Option String

/-- What the worker reads of the request. -/
structure OptimizationRequest where
  objective : Freeze.Objective
  execution : Option Freeze.ComposeExecutionContract

structure WorkerJob where
  jobId : String
  inputRefs : List Freeze.ArtifactRef

/-- What the worker finds around it: the digest, the two validators, the stored request and the
workspace of the job with the resolved path of a file in it, if there is such a file. -/
structure Worker where
  sha256Digest : String → String
  validateJson : String → Option (List (String × Json))
  validateOutput : String → Except String EvaluationOutput
  str : Json → String
  readRequest : Freeze.ArtifactRef → Except Raised OptimizationRequest
  openWorkspace : WorkerJob → Except Raised (String → Option String)

structure Invocation where
  argv : List String
  timeout : Nat
  deriving DecidableEq

structure CompletedProcess where
  returncode : Int
  stdout : String
  stderr : String

abbrev Answer := Except Raised CompletedProcess
abbrev Docker (α : Type) := Prog Invocation Answer EvaluationAttemptResult Raised α

def outputTail (text : String) : String := String.ofList (text.toList.drop (text.length - 8000))

/-! ### The configuration -/

section Configuration
variable (w : Worker)

def truthy : Json → Bool
  | .null => false
  | .bool b => b
  | .int n => n != 0
  | .float text => text != "0.0" && text != "-0.0"
  | .string s => s != ""
  | .list items => !items.isEmpty
  | .dict items => !items.isEmpty

/-- What a loop over the value visits; a number, `true` or `null` is not iterable. -/
def elements : Json → Option (List Json)
  | .list items => some items
  | .dict items => some (items.map fun item => .string item.1)
  | .string s => some (s.toList.map fun c => .string (String.ofList [c]))
  | .null | .bool _ | .int _ | .float _ => none

def strOf : Json → String
  | .string s => s
  | value => w.str value

def mountSource : Json → Option Json
  | .dict items => items.lookup "source"
  | volume => some (.string (String.ofList ((strOf w volume).toList.takeWhile (· != ':'))))

def isHostPath (source : String) : Bool :=
  source.toList.head? == some '/' || source.toList.head? == some '\\' ||
    decide ("docker.sock".toList <:+: source.toList)

def hostMounts (name : String) (volumes : List Json) : List Violation :=
  volumes.filterMap fun volume =>
    match mountSource w volume with
    | none => none
    | some source =>
      if truthy source && isHostPath (strOf w source) then some (.hostMount name source) else none

/-- `service.get("volumes") or []`, as a loop visits it. -/
def serviceVolumes (items : List (String × Json)) : Option (List Json) :=
  match items.lookup "volumes" with
  | none => some []
  | some volumes => if truthy volumes then elements volumes else some []

def namespaces : List String := ["network_mode", "pid", "ipc"]

def isTrue : Option Json → Bool
  | some (.bool true) => true
  | _ => false

def isHost : Option Json → Bool
  | some (.string s) => s == "host"
  | _ => false

def serviceViolations (name : String) : Json → Except Raised (List Violation)
  | .dict items =>
    match serviceVolumes items with
    | none => .error .typeError
    | some volumes => .ok (
        (if isTrue (items.lookup "privileged") then [.privileged name] else []) ++
        (namespaces.filter fun kind => isHost (items.lookup kind)).map (.hostNamespace name) ++
        (if (items.lookup "devices").any truthy then [.devices name] else []) ++
        hostMounts w name volumes)
  | _ => .ok [.invalidService name]

def servicesViolations : List (String × Json) → Except Raised (List Violation)
  | [] => .ok []
  | (name, service) :: rest =>
    match serviceViolations w name service, servicesViolations rest with
    | .error e, _ => .error e
    | .ok _, .error e => .error e
    | .ok here, .ok others => .ok (here ++ others)

def isExternal : Json → Bool
  | .dict items => (items.lookup "external").any truthy
  | _ => false

/-- The `volumes` of the configuration; anything that is no dict is passed over. -/
def externalVolumes (config : List (String × Json)) : List Violation :=
  match config.lookup "volumes" with
  | some (.dict volumes) =>
    (volumes.filter fun volume => isExternal volume.2).map fun volume => .externalVolume volume.1
  | _ => []

def validateComposeConfig (rawConfig : String) : Except Raised Unit :=
  match w.validateJson rawConfig with
  | none => .error (.valueError .notJson)
  | some config =>
    match config.lookup "services" with
    | some (.dict services) =>
      if services.isEmpty then .error (.valueError .noService)
      else
        match servicesViolations w services with
        | .error e => .error e
        | .ok violations =>
          if (violations ++ externalVolumes config).isEmpty then .ok ()
          else .error (.valueError (.forbidden (violations ++ externalVolumes config)))
    | _ => .error (.valueError .noService)

end Configuration

/-! ### The worker -/

section Program
variable (w : Worker)

def invoke (argv : List String) (timeout : Nat) : Docker CompletedProcess :=
  .call ⟨argv, timeout⟩ .done

def ofExcept : Except Raised Unit → Docker Unit := .done

inductive Phase where
  | config
  | build
  | up
  deriving DecidableEq, Repr

def Phase.render : Phase → String
  | .config => "config"
  | .build => "build"
  | .up => "up"

def projectName (jobId : String) : String :=
  "optimizer-" ++ String.ofList (((w.sha256Digest jobId).toList.take 19).drop 7)

def composeBase (project composePath : String) : List String :=
  ["docker", "compose", "-p", project, "-f", composePath]

def phaseArgv (base : List String) (execution : Freeze.ComposeExecutionContract) :
    Phase → List String
  | .config => base ++ ["config", "--format", "json"]
  | .build => base ++ ["build"]
  | .up => base ++ ["up", "-d", "--wait"] ++ execution.applicationServices

def execArgv (base : List String) (command : Freeze.ContainerCommandSpec) : List String :=
  base ++ ["exec", "-T"] ++
    (match command.workingDirectory with
      | none => []
      | some directory => if directory = "" then [] else ["--workdir", directory]) ++
    command.service :: command.argv

def downArgv (base : List String) : List String := base ++ ["down", "--volumes", "--remove-orphans"]

def runPhase (base : List String) (execution : Freeze.ComposeExecutionContract) (phase : Phase) :
    Docker Unit :=
  (invoke (phaseArgv base execution phase) execution.startupTimeoutSeconds).bind fun result =>
    if result.returncode ≠ 0 then
      .raise (.runtimeError ("compose " ++ phase.render ++ " failed (" ++
        toString result.returncode ++ "): " ++ outputTail result.stderr))
    else if phase = .config then ofExcept (validateComposeConfig w result.stdout)
    else .done (.ok ())

def missingMetrics (evaluation : Freeze.EvaluationSpec) (output : EvaluationOutput) : List String :=
  (evaluation.expectedMetricIds.filter fun metricId =>
    !(output.metrics.map Prod.fst).contains metricId).sort (· ≤ ·)

/-- The payload of an evaluator, or the text of the exception its checks raise. -/
def evaluatorOutput (featureId : String) (evaluation : Freeze.EvaluationSpec) (stdout : String) :
    Except String EvaluationOutput :=
  match w.validateOutput stdout with
  | .error text => .error text
  | .ok output =>
    let missing := missingMetrics evaluation output
    if missing ≠ [] then .error ("missing expected metrics: " ++ ", ".intercalate missing)
    else if output.featureId ≠ featureId then
      .error "evaluator feature_id does not match request"
    else .ok output

/-- An empty text counts as no error. -/
def attemptError (error : Option String) (returncode : Int) : Option String :=
  (error.filter (· != "")).or
    (if returncode ≠ 0 then some ("evaluator exited with " ++ toString returncode) else none)

def attemptResult (featureId : String) (evaluation : Freeze.EvaluationSpec) (runIndex : Nat)
    (result : CompletedProcess) : EvaluationAttemptResult :=
  let checked := evaluatorOutput w featureId evaluation result.stdout
  let error := match checked with
    | .error text => some text
    | .ok _ => none
  { evaluationId := evaluation.evaluationId
    repetition := runIndex - evaluation.warmupRuns + 1
    exitCode := result.returncode
    output := if result.returncode = 0 then checked.toOption else none
    stdout := outputTail result.stdout
    stderr := outputTail result.stderr
    error := attemptError error result.returncode }

def runEvaluator (base : List String) (featureId : String) (evaluation : Freeze.EvaluationSpec)
    (runIndex : Nat) : Docker Unit :=
  (invoke (execArgv base evaluation.command) evaluation.command.timeoutSeconds).bind fun result =>
    if runIndex < evaluation.warmupRuns then
      if result.returncode ≠ 0 then
        .raise (.runtimeError ("warmup for '" ++ evaluation.evaluationId ++ "' failed: " ++
          outputTail result.stderr))
      else .done (.ok ())
    else .emit (attemptResult w featureId evaluation runIndex result) (.done (.ok ()))

/-- The block under `try`. -/
def projectLife (base : List String) (featureId : String)
    (execution : Freeze.ComposeExecutionContract) : Docker Unit :=
  (Prog.forEach (runPhase w base execution) [.config, .build, .up]).bind fun _ =>
    Prog.forEach (fun evaluation =>
      Prog.forEach (runEvaluator w base featureId evaluation)
        (List.range (evaluation.warmupRuns + evaluation.repetitions))) execution.evaluations

/-- The `finally` block, after its call: whether the cleanup is confirmed, and the error of the
project's life as the block leaves it. -/
def cleanupOutcome (lifecycleError : Option String) : Answer → Except Raised (Bool × Option String)
  | .ok cleanup =>
    if cleanup.returncode = 0 then .ok (true, lifecycleError)
    else .ok (false, some (lifecycleError.getD (outputTail cleanup.stderr)))
  | .error e =>
    match e.caughtInCleanup with
    | none => .error e
    | some text => .ok (false, some (lifecycleError.getD ("compose cleanup failed: " ++ text)))

def cleanUp (base : List String) (execution : Freeze.ComposeExecutionContract)
    (lifecycleError : Option String) : Docker (Bool × Option String) :=
  .call ⟨downArgv base, execution.cleanupTimeoutSeconds⟩ fun answer =>
    .done (cleanupOutcome lifecycleError answer)

/-- What is left of the exception after the `except` clause. -/
def lifecycleErrorOf : Except Raised Unit → Option String
  | .ok _ => none
  | .error e => e.caught

/-- An exception that was not caught goes on after the `finally` block. -/
def projectOutcome (project : String) (attempts : List EvaluationAttemptResult)
    (life : Except Raised Unit) (cleanup : Bool × Option String) :
    Except Raised ComposeEvaluationWorkerResult :=
  match life with
  | .ok _ => .ok ⟨project, attempts, cleanup.1, cleanup.2⟩
  | .error e =>
    match e.caught with
    | none => .error e
    | some _ => .ok ⟨project, attempts, cleanup.1, cleanup.2⟩

def runProject (project : String) (base : List String) (featureId : String)
    (execution : Freeze.ComposeExecutionContract) : Docker ComposeEvaluationWorkerResult :=
  ((projectLife w base featureId execution).recorded []).bind fun life =>
    (cleanUp base execution (lifecycleErrorOf life.2)).bind fun cleanup =>
      .done (projectOutcome project life.1 life.2 cleanup)

def findRequest (job : WorkerJob) : Except Raised OptimizationRequest :=
  match job.inputRefs.find? (·.artifactType == "OptimizationRequest") with
  | none => .error (.valueError .noRequestRef)
  | some ref => w.readRequest ref

/-- Everything before Docker is called: the request, its contract and the path of the file. -/
def prepare (job : WorkerJob) :
    Except Raised (OptimizationRequest × Freeze.ComposeExecutionContract × String) :=
  match findRequest w job with
  | .error e => .error e
  | .ok request =>
    match request.execution with
    | none => .error (.valueError .noExecution)
    | some execution =>
      match w.openWorkspace job with
      | .error e => .error e
      | .ok resolve =>
        match resolve execution.composeFile with
        | none => .error (.valueError .composeFile)
        | some path => .ok (request, execution, path)

def runComposeEvaluation (job : WorkerJob) : Docker ComposeEvaluationWorkerResult :=
  match prepare w job with
  | .error e => .raise e
  | .ok (request, execution, path) =>
    let project := projectName w job.jobId
    runProject w project (composeBase project path) request.objective.featureId execution

end Program

/-! ### The project's life as one script -/

section Script
variable (w : Worker) (base : List String) (featureId : String)
  (execution : Freeze.ComposeExecutionContract)

abbrev Step := Exchange Invocation Answer EvaluationAttemptResult Raised

def phaseStep (phase : Phase) : Step where
  request := ⟨phaseArgv base execution phase, execution.startupTimeoutSeconds⟩
  react
    | .error e => .error e
    | .ok result =>
      if result.returncode ≠ 0 then
        .error (.runtimeError ("compose " ++ phase.render ++ " failed (" ++
          toString result.returncode ++ "): " ++ outputTail result.stderr))
      else if phase = .config then (validateComposeConfig w result.stdout).map fun _ => none
      else .ok none

def evaluatorStep (evaluation : Freeze.EvaluationSpec) (runIndex : Nat) : Step where
  request := ⟨execArgv base evaluation.command, evaluation.command.timeoutSeconds⟩
  react
    | .error e => .error e
    | .ok result =>
      if runIndex < evaluation.warmupRuns then
        if result.returncode ≠ 0 then
          .error (.runtimeError ("warmup for '" ++ evaluation.evaluationId ++ "' failed: " ++
            outputTail result.stderr))
        else .ok none
      else .ok (some (attemptResult w featureId evaluation runIndex result))

inductive Task where
  | phase (phase : Phase)
  | run (evaluation : Freeze.EvaluationSpec) (runIndex : Nat)

def taskStep : Task → Step
  | .phase phase => phaseStep w base execution phase
  | .run evaluation runIndex => evaluatorStep w base featureId evaluation runIndex

def evaluationTasks (evaluation : Freeze.EvaluationSpec) : List Task :=
  (List.range (evaluation.warmupRuns + evaluation.repetitions)).map (.run evaluation)

def composeTasks : List Task :=
  [Phase.config, .build, .up].map .phase ++ execution.evaluations.flatMap evaluationTasks

def composeScript : List Step :=
  (composeTasks execution).map (taskStep w base featureId execution)

theorem runPhase_eq (phase : Phase) :
    runPhase w base execution phase = (phaseStep w base execution phase).prog := by
  unfold runPhase invoke Exchange.prog phaseStep
  simp only [Prog.bind]
  congr 1
  funext r
  cases r with
  | error e => rfl
  | ok result =>
    simp only [Prog.bind]
    split
    · rfl
    · split
      · unfold ofExcept
        cases validateComposeConfig w result.stdout with
        | error e => rfl
        | ok _ => rfl
      · rfl

theorem runEvaluator_eq (evaluation : Freeze.EvaluationSpec) (runIndex : Nat) :
    runEvaluator w base featureId evaluation runIndex =
      (evaluatorStep w base featureId evaluation runIndex).prog := by
  unfold runEvaluator invoke Exchange.prog evaluatorStep
  simp only [Prog.bind]
  congr 1
  funext r
  cases r with
  | error e => rfl
  | ok result =>
    simp only [Prog.bind]
    split
    · split
      · rfl
      · rfl
    · rfl

theorem scripted_loop {ι : Type} {body : ι → Docker Unit} {step : ι → Step}
    (hbody : ∀ x, body x = (step x).prog) (xs : List ι) :
    Scripted (Prog.forEach body xs) (xs.map step) := by
  rw [List.map_eq_flatMap]
  refine Scripted.forEach (fun x => ?_) xs
  rw [hbody x]
  exact Scripted.exchange (step x)

theorem projectLife_scripted :
    Scripted (projectLife w base featureId execution)
      (composeScript w base featureId execution) := by
  unfold composeScript composeTasks
  rw [List.map_append, List.map_map, List.map_flatMap]
  refine Scripted.bind (scripted_loop (runPhase_eq w base execution) _)
    (Scripted.forEach (fun evaluation => ?_) _)
  rw [evaluationTasks, List.map_map]
  exact scripted_loop (runEvaluator_eq w base featureId evaluation) _

end Script

section Runs
variable {w : Worker} {project : String} {base : List String} {featureId : String}
  {execution : Freeze.ComposeExecutionContract} {job : WorkerJob}
  {calls : List (Invocation × Answer)} {records : List EvaluationAttemptResult}
  {out : Except Raised ComposeEvaluationWorkerResult}

def downCall (base : List String) (execution : Freeze.ComposeExecutionContract) : Invocation :=
  ⟨downArgv base, execution.cleanupTimeoutSeconds⟩

/-- One run of the project: the script as far as it went, one call to take the project down, and
an outcome that is computed from the two. -/
theorem runs_runProject
    (h : Runs (runProject w project base featureId execution) calls records out) :
    ∃ body answer attempts life, calls = body ++ [(downCall base execution, answer)] ∧
      Played (composeScript w base featureId execution) body attempts life ∧
      out = (cleanupOutcome (lifecycleErrorOf life) answer).bind
        (projectOutcome project attempts life) := by
  rcases runs_bind h with ⟨e, rfl, hlife⟩ | ⟨life, body, rest, _, _, rfl, _, hlife, hrest⟩
  · obtain ⟨_, _, _, hout, _⟩ := runs_recorded hlife
    cases hout
  obtain ⟨_, attempts, outcome, hok, hplayed⟩ := runs_recorded hlife
  cases hok
  have hplayed := projectLife_scripted w base featureId execution _ _ _ hplayed
  refine ⟨body, ?_⟩
  rcases runs_bind hrest with ⟨e, rfl, hdown⟩ | ⟨cleanup, _, _, _, _, rfl, _, hdown, hlast⟩
  · obtain ⟨answer, _, rfl, hdone⟩ := runs_call hdown
    obtain ⟨rfl, _, hcleanup⟩ := runs_done hdone
    refine ⟨answer, attempts, outcome, rfl, hplayed, ?_⟩
    rw [← hcleanup]
    rfl
  · obtain ⟨answer, _, rfl, hdone⟩ := runs_call hdown
    obtain ⟨rfl, _, hcleanup⟩ := runs_done hdone
    obtain ⟨rfl, _, rfl⟩ := runs_done hlast
    refine ⟨answer, attempts, outcome, rfl, hplayed, ?_⟩
    rw [← hcleanup]
    rfl

theorem runs_runComposeEvaluation (h : Runs (runComposeEvaluation w job) calls records out) :
    (∃ e, prepare w job = .error e ∧ calls = [] ∧ out = .error e) ∨
      ∃ request execution path, prepare w job = .ok (request, execution, path) ∧
        Runs (runProject w (projectName w job.jobId) (composeBase (projectName w job.jobId) path)
          request.objective.featureId execution) calls records out := by
  unfold runComposeEvaluation at h
  cases hprepare : prepare w job with
  | error e =>
    rw [hprepare] at h
    obtain ⟨rfl, _, rfl⟩ := runs_done h
    exact .inl ⟨e, rfl, rfl, rfl⟩
  | ok found =>
    rw [hprepare] at h
    exact .inr ⟨found.1, found.2.1, found.2.2, rfl, h⟩

end Runs

end ProductionOptimizer.Compose
