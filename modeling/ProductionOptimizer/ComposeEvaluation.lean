import ProductionOptimizer.Handlers.ComposeWorker

/-!
# The Compose worker against any Docker

Docker may refuse, fail, hang until the timeout or answer nonsense at every call. The worker still
follows one protocol: nothing is built before the configuration is seen to be confined, no service
is entered before the project is up, and the project is taken down once, at the end. What it stores
is the planned sequence of attempts, as far as the project lived.
-/

namespace ProductionOptimizer.Compose
open Interaction
set_option autoImplicit false

/-! ### What an accepted configuration cannot ask for -/

/-- A service inside the sandbox: not privileged, in no namespace of the host, without devices,
and without a mount of a path of the host. -/
structure Sandboxed (w : Worker) (service : Json) : Prop where
  isolated : ∃ items volumes, service = .dict items ∧ serviceVolumes items = some volumes ∧
    isTrue (items.lookup "privileged") = false ∧
    (∀ kind ∈ namespaces, isHost (items.lookup kind) = false) ∧
    (items.lookup "devices").any truthy = false ∧
    ∀ volume ∈ volumes, ∀ source, mountSource w volume = some source → truthy source = true →
      isHostPath (strOf w source) = false

/-- The specification of `_validate_compose_config`. -/
structure Confined (w : Worker) (config : List (String × Json)) : Prop where
  services : ∃ services, config.lookup "services" = some (.dict services) ∧ services ≠ [] ∧
    ∀ service ∈ services, Sandboxed w service.2
  volumes : ∀ volumes, config.lookup "volumes" = some (.dict volumes) →
    ∀ volume ∈ volumes, isExternal volume.2 = false

section Confined
variable {w : Worker}

theorem hostMounts_eq_nil {name : String} {volumes : List Json} :
    hostMounts w name volumes = [] ↔ ∀ volume ∈ volumes, ∀ source,
      mountSource w volume = some source → truthy source = true →
        isHostPath (strOf w source) = false := by
  unfold hostMounts
  rw [List.filterMap_eq_nil_iff]
  refine forall₂_congr fun volume _ => ?_
  cases mountSource w volume with
  | none => simp
  | some source => simp

theorem serviceViolations_eq_nil (name : String) {service : Json} :
    serviceViolations w name service = .ok [] ↔ Sandboxed w service := by
  constructor
  · intro h
    unfold serviceViolations at h
    split at h
    · rename_i items
      split at h
      · cases h
      · rename_i volumes hvolumes
        have h := Except.ok.inj h
        simp only [List.append_eq_nil_iff, List.map_eq_nil_iff, List.filter_eq_nil_iff,
          hostMounts_eq_nil] at h
        obtain ⟨⟨⟨hprivileged, hhost⟩, hdevices⟩, hmounts⟩ := h
        refine ⟨items, volumes, rfl, hvolumes, ?_, ?_, ?_, hmounts⟩
        · simpa using hprivileged
        · simpa using hhost
        · simpa using hdevices
    · cases h
  · rintro ⟨items, volumes, rfl, hvolumes, hprivileged, hhost, hdevices, hmounts⟩
    simp only [serviceViolations, hvolumes, hprivileged, hdevices, hostMounts_eq_nil.mpr hmounts]
    rw [List.filter_eq_nil_iff.mpr (by simpa using hhost)]
    rfl

theorem servicesViolations_eq_nil {services : List (String × Json)} :
    servicesViolations w services = .ok [] ↔ ∀ service ∈ services, Sandboxed w service.2 := by
  induction services with
  | nil => simp [servicesViolations]
  | cons service rest ih =>
    obtain ⟨name, value⟩ := service
    rw [List.forall_mem_cons, ← ih, ← serviceViolations_eq_nil name]
    simp only [servicesViolations]
    cases serviceViolations w name value with
    | error e => simp
    | ok here =>
      cases servicesViolations w rest with
      | error e => simp
      | ok others => simp [List.append_eq_nil_iff]

theorem externalVolumes_eq_nil {config : List (String × Json)} :
    externalVolumes config = [] ↔ ∀ volumes, config.lookup "volumes" = some (.dict volumes) →
      ∀ volume ∈ volumes, isExternal volume.2 = false := by
  unfold externalVolumes
  split
  · rename_i volumes heq
    rw [List.map_eq_nil_iff, List.filter_eq_nil_iff]
    constructor
    · intro h _ hother
      cases heq.symm.trans hother
      simpa using h
    · intro h
      simpa using h volumes heq
  · rename_i hno
    exact ⟨fun _ volumes h => absurd h (hno volumes), fun _ => rfl⟩

theorem validateComposeConfig_ok {rawConfig : String} :
    validateComposeConfig w rawConfig = .ok () ↔
      ∃ config, w.validateJson rawConfig = some config ∧ Confined w config := by
  unfold validateComposeConfig
  cases w.validateJson rawConfig with
  | none => simp
  | some config =>
    simp only [Option.some.injEq, exists_eq_left']
    constructor
    · intro h
      split at h
      · rename_i services hservices
        split at h
        · cases h
        · rename_i hne
          split at h
          · cases h
          · rename_i violations hviolations
            split at h
            · rename_i hnil
              obtain ⟨rfl, hexternal⟩ := List.append_eq_nil_iff.mp (List.isEmpty_iff.mp hnil)
              refine ⟨⟨services, hservices, ?_, servicesViolations_eq_nil.mp hviolations⟩,
                externalVolumes_eq_nil.mp hexternal⟩
              simpa using hne
            · cases h
      · cases h
    · rintro ⟨⟨services, hservices, hne, hsandboxed⟩, hvolumes⟩
      simp only [hservices, servicesViolations_eq_nil.mpr hsandboxed,
        externalVolumes_eq_nil.mpr hvolumes]
      simp [hne]

end Confined

/-! ### The protocol with Docker -/

def phaseCall (base : List String) (execution : Freeze.ComposeExecutionContract)
    (phase : Phase) : Invocation :=
  ⟨phaseArgv base execution phase, execution.startupTimeoutSeconds⟩

def execCall (base : List String) (evaluation : Freeze.EvaluationSpec) : Invocation :=
  ⟨execArgv base evaluation.command, evaluation.command.timeoutSeconds⟩

/-- The calls of a project to which nothing happens, until it is taken down. -/
def plannedCalls (base : List String) (execution : Freeze.ComposeExecutionContract) :
    List Invocation :=
  [Phase.config, .build, .up].map (phaseCall base execution) ++
    execution.evaluations.flatMap fun evaluation =>
      List.replicate (evaluation.warmupRuns + evaluation.repetitions) (execCall base evaluation)

section Protocol
variable {w : Worker} {base : List String} {featureId : String}
  {execution : Freeze.ComposeExecutionContract} {job : WorkerJob}
  {calls : List (Invocation × Answer)} {records : List EvaluationAttemptResult}
  {out : Except Raised ComposeEvaluationWorkerResult}

theorem composeScript_requests :
    (composeScript w base featureId execution).map Exchange.request =
      plannedCalls base execution := by
  unfold composeScript composeTasks plannedCalls
  rw [List.map_map, List.map_append, List.map_map, List.map_flatMap]
  congr 1
  refine List.flatMap_congr fun evaluation _ => ?_
  rw [evaluationTasks, List.map_map, List.eq_replicate_iff]
  refine ⟨by simp, ?_⟩
  intro call hcall
  obtain ⟨_, _, rfl⟩ := List.mem_map.mp hcall
  rfl

/-- The word after the project's own arguments. -/
theorem not_down_of_planned {call : Invocation} (h : call ∈ plannedCalls base execution) :
    call.argv ≠ downArgv base := by
  intro heq
  rcases List.mem_append.mp h with hphase | hexec
  · obtain ⟨phase, _, rfl⟩ := List.mem_map.mp hphase
    cases phase with
    | config => simp [phaseCall, phaseArgv, downArgv] at heq
    | build => simp [phaseCall, phaseArgv, downArgv] at heq
    | up => simp [phaseCall, phaseArgv, downArgv, List.append_assoc] at heq
  · obtain ⟨evaluation, _, hcall⟩ := List.mem_flatMap.mp hexec
    rw [List.eq_of_mem_replicate hcall] at heq
    simp [execCall, execArgv, downArgv, List.append_assoc] at heq

theorem phaseStep_react {phase : Phase} {answer : Answer} {o : Option EvaluationAttemptResult}
    (h : (phaseStep w base execution phase).react answer = .ok o) :
    ∃ result, answer = .ok result ∧ result.returncode = 0 ∧
      (phase = .config → ∃ config, w.validateJson result.stdout = some config ∧
        Confined w config) := by
  unfold phaseStep at h
  cases answer with
  | error e => cases h
  | ok result =>
    dsimp only at h
    split at h
    · cases h
    · rename_i hcode
      refine ⟨result, rfl, not_not.mp hcode, ?_⟩
      rintro rfl
      rw [if_pos rfl] at h
      refine validateComposeConfig_ok.mp ?_
      cases hvalid : validateComposeConfig w result.stdout with
      | error e =>
        rw [hvalid] at h
        cases h
      | ok _ => rfl

/-- Whatever Docker answers: the worker makes no call, or it follows the plan, takes the project
down once and as its last call, goes beyond the configuration only with one that is confined, and
enters a service only after the project was built and started. -/
theorem compose_protocol (h : Runs (runComposeEvaluation w job) calls records out) :
    calls = [] ∨ ∃ request execution path, prepare w job = .ok (request, execution, path) ∧
      ∃ body answer, calls = body ++
          [(downCall (composeBase (projectName w job.jobId) path) execution, answer)] ∧
        body.map Prod.fst <+:
          plannedCalls (composeBase (projectName w job.jobId) path) execution ∧
        (∀ call ∈ body, call.1.argv ≠ downArgv (composeBase (projectName w job.jobId) path)) ∧
        ∀ i phase, [Phase.config, .build, .up][i]? = some phase → i + 1 < body.length →
          ∃ result, body[i]? = some
              (phaseCall (composeBase (projectName w job.jobId) path) execution phase, .ok result) ∧
            result.returncode = 0 ∧
            (phase = .config → ∃ config, w.validateJson result.stdout = some config ∧
              Confined w config) := by
  rcases runs_runComposeEvaluation h with ⟨_, _, rfl, _⟩ | ⟨request, execution, path, hok, hrun⟩
  · exact .inl rfl
  obtain ⟨body, answer, attempts, life, rfl, hplayed, _⟩ := runs_runProject hrun
  have hrequests := hplayed.requests_initial
  rw [composeScript_requests] at hrequests
  refine .inr ⟨request, execution, path, hok, body, answer, rfl, hrequests, ?_, ?_⟩
  · intro call hcall
    exact not_down_of_planned (hrequests.subset (List.mem_map_of_mem hcall))
  · intro i phase hphase hi
    obtain ⟨step, reply, o, hstep, hcall, hreact⟩ := hplayed.go_of_lt hi
    have hstep' : (composeScript w (composeBase (projectName w job.jobId) path)
        request.objective.featureId execution)[i]? =
          some (phaseStep w (composeBase (projectName w job.jobId) path) execution phase) := by
      obtain ⟨hlt, _⟩ := List.getElem?_eq_some_iff.mp hphase
      rw [composeScript, composeTasks, List.getElem?_map,
        List.getElem?_append_left (by simpa using hlt), List.getElem?_map, hphase]
      rfl
    cases hstep.symm.trans hstep'
    obtain ⟨result, rfl, hcode, hconfig⟩ := phaseStep_react hreact
    exact ⟨result, hcall, hcode, hconfig⟩

end Protocol

/-! A job with one evaluation, and a Docker that does what it is told. -/

def sampleEvaluation : Freeze.EvaluationSpec where
  evaluationId := "latency"
  command := ⟨"app", ["python", "bench.py"], none, 60⟩
  repetitions := 2
  warmupRuns := 1
  expectedMetricIds := {"latency_p95"}

def sampleContract : Freeze.ComposeExecutionContract where
  composeFile := "compose.yaml"
  applicationServices := ["app"]
  evaluations := [sampleEvaluation]
  startupTimeoutSeconds := 180
  cleanupTimeoutSeconds := 60

def sampleRequestRef : Freeze.ArtifactRef where
  artifactType := "OptimizationRequest"
  schemaVersion := "1.0"
  artifactId := "checkout-1-OptimizationRequest"
  contentDigest := "sha256:0000000000000000000000000000000000000000000000000000000000000000"
  uri := "s3://artifacts/request"
  digest := by decide +kernel

def sampleJob : WorkerJob := ⟨"checkout-1:A2.50:compose:evaluation", [sampleRequestRef]⟩

def sampleWorker : Worker where
  sha256Digest _ := "sha256:5f1d7a84db00d2fce00b31a7fc73224f"
  validateJson _ := some [("services", .dict [("app", .dict [("image", .string "app:1")])])]
  validateOutput _ := .ok ⟨"checkout", [("latency_p95", some (.number 120))]⟩
  str _ := ""
  readRequest _ := .ok ⟨⟨"Faster checkout", "checkout"⟩, some sampleContract⟩
  openWorkspace _ := .ok fun file => some ("/tmp/optimizer-a2-worker-1/" ++ file)

def obligingDocker (_ : List (Invocation × Answer)) (_ : Invocation) : Answer := .ok ⟨0, "", ""⟩

theorem sample_prepare : prepare sampleWorker sampleJob = .ok
    (⟨⟨"Faster checkout", "checkout"⟩, some sampleContract⟩, sampleContract,
      "/tmp/optimizer-a2-worker-1/compose.yaml") :=
  rfl

def sampleRun : List (Invocation × Answer) × List EvaluationAttemptResult ×
    Except Raised ComposeEvaluationWorkerResult :=
  (runComposeEvaluation sampleWorker sampleJob).execute obligingDocker []

theorem runs_sample :
    Runs (runComposeEvaluation sampleWorker sampleJob) sampleRun.1 sampleRun.2.1 sampleRun.2.2 := by
  obtain ⟨calls, hcalls, hrun⟩ :=
    execute_runs obligingDocker (runComposeEvaluation sampleWorker sampleJob) []
  rw [List.nil_append] at hcalls
  rw [sampleRun, hcalls]
  exact hrun

theorem sample_protocol : sampleRun.1.length = 7 ∧ ∃ answer,
    sampleRun.1.getLast? = some (downCall (composeBase (projectName sampleWorker sampleJob.jobId)
      "/tmp/optimizer-a2-worker-1/compose.yaml") sampleContract, answer) := by
  have hlength : sampleRun.1.length = 7 := by decide +kernel
  refine ⟨hlength, ?_⟩
  rcases compose_protocol runs_sample with hnil | ⟨_, _, _, hok, body, answer, hcalls, _⟩
  · rw [hnil] at hlength
    cases hlength
  · cases sample_prepare.symm.trans hok
    exact ⟨answer, by rw [hcalls, List.getLast?_concat]⟩

/-! ### The attempts -/

def attemptKey (attempt : EvaluationAttemptResult) : String × Nat :=
  (attempt.evaluationId, attempt.repetition)

def plannedAttempts (execution : Freeze.ComposeExecutionContract) : List (String × Nat) :=
  execution.evaluations.flatMap fun evaluation =>
    (List.range evaluation.repetitions).map fun i => (evaluation.evaluationId, i + 1)

def taskKeys : Task → List (String × Nat)
  | .phase _ => []
  | .run evaluation runIndex =>
    if runIndex < evaluation.warmupRuns then []
    else [(evaluation.evaluationId, runIndex - evaluation.warmupRuns + 1)]

/-- What `EvaluationSpec` and `ComposeExecutionContract` check of the evaluations. -/
structure Runnable (execution : Freeze.ComposeExecutionContract) : Prop where
  evaluations_ne : execution.evaluations ≠ []
  repetitions_pos : ∀ evaluation ∈ execution.evaluations, 0 < evaluation.repetitions
  ids_nodup : (execution.evaluations.map (·.evaluationId)).Nodup
  ids_plain : ∀ evaluation ∈ execution.evaluations, ∀ c ∈ evaluation.evaluationId.toList,
    c.isAlphanum = true ∨ c ∈ ['_', '.', '-']

section Attempts
variable {w : Worker} {base : List String} {featureId : String}
  {execution : Freeze.ComposeExecutionContract} {job : WorkerJob}
  {calls body : List (Invocation × Answer)} {records attempts : List EvaluationAttemptResult}
  {life : Except Raised Unit}

theorem taskKeys_evaluationTasks (evaluation : Freeze.EvaluationSpec) :
    (evaluationTasks evaluation).flatMap taskKeys =
      (List.range evaluation.repetitions).map fun i => (evaluation.evaluationId, i + 1) := by
  rw [evaluationTasks, List.flatMap_map, List.range_add, List.flatMap_append]
  have hwarmup : (List.range evaluation.warmupRuns).flatMap
      (fun i => taskKeys (.run evaluation i)) = [] := by
    rw [List.flatMap_eq_nil_iff]
    intro i hi
    exact if_pos (List.mem_range.mp hi)
  rw [hwarmup, List.nil_append, List.flatMap_map, List.map_eq_flatMap]
  refine List.flatMap_congr fun i _ => ?_
  simp [taskKeys]

theorem taskKeys_composeTasks :
    (composeTasks execution).flatMap taskKeys = plannedAttempts execution := by
  rw [composeTasks, List.flatMap_append, List.flatMap_assoc]
  simp only [taskKeys_evaluationTasks]
  rfl

theorem taskStep_keys {task : Task} {answer : Answer} {o : Option EvaluationAttemptResult}
    (h : (taskStep w base featureId execution task).react answer = .ok o) :
    o.toList.map attemptKey = taskKeys task := by
  cases answer with
  | error e => cases task <;> cases h
  | ok result =>
    cases task with
    | phase phase =>
      simp only [taskStep, phaseStep] at h
      split at h
      · cases h
      · split at h
        · cases hvalid : validateComposeConfig w result.stdout with
          | error e =>
            rw [hvalid] at h
            cases h
          | ok _ =>
            rw [hvalid] at h
            cases h
            rfl
        · cases h
          rfl
    | run evaluation runIndex =>
      simp only [taskStep, evaluatorStep] at h
      split at h
      · rename_i hwarmup
        simp only [taskKeys, if_pos hwarmup]
        split at h
        · cases h
        · cases h
          rfl
      · rename_i hmeasured
        simp only [taskKeys, if_neg hmeasured]
        cases h
        rfl

/-- The last task is a measured run. -/
theorem taskKeys_suffix_ne {before after : List Task} {task : Task} (hrunnable : Runnable execution)
    (h : composeTasks execution = before ++ task :: after) :
    (task :: after).flatMap taskKeys ≠ [] := by
  obtain ⟨evaluations, evaluation, heval⟩ :=
    List.eq_nil_or_concat execution.evaluations |>.resolve_left hrunnable.evaluations_ne
  rw [List.concat_eq_append] at heval
  have hpos : 0 < evaluation.repetitions :=
    hrunnable.repetitions_pos evaluation (by rw [heval]; simp)
  have hlast : (composeTasks execution).getLast? = some
      (.run evaluation (evaluation.warmupRuns + evaluation.repetitions - 1)) := by
    rw [composeTasks, heval, List.flatMap_append, ← List.append_assoc, List.getLast?_append]
    simp [evaluationTasks, List.getLast?_range]
    omega
  have hmem : Task.run evaluation (evaluation.warmupRuns + evaluation.repetitions - 1) ∈
      task :: after := by
    rw [h, List.getLast?_append_of_ne_nil _ (List.cons_ne_nil _ _)] at hlast
    exact List.mem_of_getLast? hlast
  intro hnil
  have hkeys := List.flatMap_eq_nil_iff.mp hnil _ hmem
  have hmeasured : ¬evaluation.warmupRuns + evaluation.repetitions - 1 < evaluation.warmupRuns := by
    omega
  simp only [taskKeys, if_neg hmeasured] at hkeys
  cases hkeys

/-- The keys of the attempts are those of the plan, as far as the project lived. -/
theorem attempts_of_played
    (h : Played (composeScript w base featureId execution) body attempts life) :
    (attempts.map attemptKey <+: plannedAttempts execution) ∧
      (life = .ok () → attempts.map attemptKey = plannedAttempts execution) ∧
      (Runnable execution → attempts.map attemptKey = plannedAttempts execution →
        life = .ok ()) := by
  rw [← taskKeys_composeTasks]
  rcases Played.labels (fun _ _ _ _ hreact => taskStep_keys hreact) h with
    ⟨rfl, hkeys⟩ | ⟨e, before, task, after, rfl, htasks, hkeys⟩
  · exact ⟨hkeys ▸ List.prefix_rfl, fun _ => hkeys, fun _ _ => rfl⟩
  · have hsplit : (composeTasks execution).flatMap taskKeys =
        attempts.map attemptKey ++ (task :: after).flatMap taskKeys := by
      rw [htasks, List.flatMap_append, hkeys]
    refine ⟨hsplit ▸ List.prefix_append _ _, fun hlife => absurd hlife (by simp), ?_⟩
    intro hrunnable hall
    rw [hsplit, List.self_eq_append_right] at hall
    exact absurd hall (taskKeys_suffix_ne hrunnable htasks)

theorem evaluatorOutput_ok {evaluation : Freeze.EvaluationSpec} {stdout : String}
    {output : EvaluationOutput} (h : evaluatorOutput w featureId evaluation stdout = .ok output) :
    w.validateOutput stdout = .ok output ∧ output.featureId = featureId ∧
      ∀ metricId ∈ evaluation.expectedMetricIds, metricId ∈ output.metrics.map Prod.fst := by
  unfold evaluatorOutput at h
  split at h
  · cases h
  · rename_i found hvalid
    dsimp only at h
    split at h
    · cases h
    · rename_i hmissing
      split at h
      · cases h
      · rename_i hfeature
        cases h
        refine ⟨hvalid, not_not.mp hfeature, ?_⟩
        intro metricId hmetric
        by_contra hnot
        refine hmissing ?_
        intro hnil
        have hmem : metricId ∈ missingMetrics evaluation output := by
          unfold missingMetrics
          rw [Finset.mem_sort, Finset.mem_filter]
          exact ⟨hmetric, by simpa using hnot⟩
        rw [hnil] at hmem
        cases hmem

/-- An attempt is the report on one finished process in a service. -/
structure Reports (w : Worker) (featureId : String) (evaluation : Freeze.EvaluationSpec)
    (process : CompletedProcess) (attempt : EvaluationAttemptResult) : Prop where
  evaluationId : attempt.evaluationId = evaluation.evaluationId
  exitCode : attempt.exitCode = process.returncode
  output : ∀ output, attempt.output = some output →
    process.returncode = 0 ∧ w.validateOutput process.stdout = .ok output ∧
      output.featureId = featureId ∧
      ∀ metricId ∈ evaluation.expectedMetricIds, metricId ∈ output.metrics.map Prod.fst

theorem reports_attemptResult (evaluation : Freeze.EvaluationSpec) (runIndex : Nat)
    (process : CompletedProcess) :
    Reports w featureId evaluation process
      (attemptResult w featureId evaluation runIndex process) := by
  refine ⟨rfl, rfl, ?_⟩
  intro output houtput
  simp only [attemptResult] at houtput
  split at houtput
  · rename_i hcode
    cases hchecked : evaluatorOutput w featureId evaluation process.stdout with
    | error text =>
      rw [hchecked] at houtput
      cases houtput
    | ok found =>
      rw [hchecked] at houtput
      cases houtput
      exact ⟨hcode, evaluatorOutput_ok hchecked⟩
  · cases houtput

theorem attempt_of_played {attempt : EvaluationAttemptResult}
    (h : Played (composeScript w base featureId execution) body attempts life)
    (hattempt : attempt ∈ attempts) :
    ∃ evaluation ∈ execution.evaluations, ∃ process,
      (execCall base evaluation, .ok process) ∈ body ∧
        Reports w featureId evaluation process attempt := by
  obtain ⟨step, hstep, answer, hcall, hreact⟩ := h.record_of_mem hattempt
  obtain ⟨task, htask, rfl⟩ := List.mem_map.mp hstep
  cases answer with
  | error e => cases task <;> cases hreact
  | ok process =>
    cases task with
    | phase phase =>
      have hkeys := taskStep_keys hreact
      cases hkeys
    | run evaluation runIndex =>
      have hmem : evaluation ∈ execution.evaluations := by
        rcases List.mem_append.mp htask with hphase | hrun
        · obtain ⟨_, _, hfalse⟩ := List.mem_map.mp hphase
          cases hfalse
        · obtain ⟨found, hfound, hindex⟩ := List.mem_flatMap.mp hrun
          obtain ⟨_, _, heq⟩ := List.mem_map.mp hindex
          cases heq
          exact hfound
      refine ⟨evaluation, hmem, process, hcall, ?_⟩
      simp only [taskStep, evaluatorStep] at hreact
      split at hreact
      · split at hreact <;> cases hreact
      · cases hreact
        exact reports_attemptResult evaluation runIndex process

theorem cleanupOutcome_ok {error : Option String} {answer : Answer}
    {cleanup : Bool × Option String} (h : cleanupOutcome error answer = .ok cleanup) :
    (cleanup.1 = true ∧ cleanup.2 = error ∧
        ∃ process, answer = .ok process ∧ process.returncode = 0) ∨
      (cleanup.1 = false ∧ ∃ text, cleanup.2 = some (error.getD text)) := by
  unfold cleanupOutcome at h
  split at h
  · split at h
    · rename_i process hcode
      cases h
      exact .inl ⟨rfl, rfl, process, rfl, hcode⟩
    · cases h
      exact .inr ⟨rfl, _, rfl⟩
  · split at h
    · cases h
    · cases h
      exact .inr ⟨rfl, _, rfl⟩

theorem projectOutcome_ok {project : String} {cleanup : Bool × Option String}
    {result : ComposeEvaluationWorkerResult}
    (h : projectOutcome project attempts life cleanup = .ok result) :
    result = ⟨project, attempts, cleanup.1, cleanup.2⟩ ∧
      ∀ e, life = .error e → ∃ text, e.caught = some text := by
  unfold projectOutcome at h
  split at h
  · cases h
    exact ⟨rfl, fun _ hfalse => nomatch hfalse⟩
  · split at h
    · cases h
    · rename_i e text hcaught
      cases h
      refine ⟨rfl, ?_⟩
      rintro _ ⟨⟩
      exact ⟨text, hcaught⟩

/-- What the stored result says about the project's life and its cleanup. -/
structure Accounted (attempts : List EvaluationAttemptResult) (life : Except Raised Unit)
    (answer : Answer) (result : ComposeEvaluationWorkerResult) : Prop where
  attempts : result.attempts = attempts
  clean : result.lifecycleError = none ↔ life = .ok () ∧ result.cleanupConfirmed = true
  caught : ∀ e, life = .error e →
    ∃ text, e.caught = some text ∧ result.lifecycleError = some text
  confirmed : result.cleanupConfirmed = true →
    ∃ process, answer = .ok process ∧ process.returncode = 0

theorem accounted {project : String} {answer : Answer} {result : ComposeEvaluationWorkerResult}
    (h : (cleanupOutcome (lifecycleErrorOf life) answer).bind
      (projectOutcome project attempts life) = .ok result) :
    Accounted attempts life answer result := by
  obtain ⟨cleanup, hcleanup, hproject⟩ := except_bind_ok h
  obtain ⟨rfl, hlife⟩ := projectOutcome_ok hproject
  rcases cleanupOutcome_ok hcleanup with
    ⟨hconfirmed, herror, hprocess⟩ | ⟨hunconfirmed, text, herror⟩
  · refine ⟨rfl, ?_, ?_, fun _ => hprocess⟩
    · simp only [hconfirmed, herror]
      cases life with
      | ok _ => simp [lifecycleErrorOf]
      | error e =>
        obtain ⟨text, hcaught⟩ := hlife e rfl
        simp [lifecycleErrorOf, hcaught]
    · rintro e rfl
      obtain ⟨text, hcaught⟩ := hlife e rfl
      exact ⟨text, hcaught, by simp [herror, lifecycleErrorOf, hcaught]⟩
  · refine ⟨rfl, ?_, ?_, fun htrue => absurd (hunconfirmed.symm.trans htrue) (by simp)⟩
    · simp [hunconfirmed, herror]
    · rintro e rfl
      obtain ⟨text, hcaught⟩ := hlife e rfl
      exact ⟨text, hcaught, by simp [herror, lifecycleErrorOf, hcaught]⟩

/-- Whatever Docker answers: the attempts of a stored result follow the plan in its order, nothing
is missing exactly when no error of the project's life is recorded, and an attempt with an output
is a process in a service that exited with zero and printed what the evaluation promises. -/
theorem compose_attempts {result : ComposeEvaluationWorkerResult}
    (h : Runs (runComposeEvaluation w job) calls records (.ok result)) :
    ∃ request execution path, prepare w job = .ok (request, execution, path) ∧
      (result.attempts.map attemptKey <+: plannedAttempts execution) ∧
      (Runnable execution → (result.lifecycleError = none ↔
        result.attempts.map attemptKey = plannedAttempts execution ∧
          result.cleanupConfirmed = true)) ∧
      ∀ attempt ∈ result.attempts, ∃ evaluation ∈ execution.evaluations, ∃ process,
        (execCall (composeBase (projectName w job.jobId) path) evaluation, .ok process) ∈ calls ∧
          Reports w request.objective.featureId evaluation process attempt := by
  rcases runs_runComposeEvaluation h with ⟨_, _, _, hout⟩ | ⟨request, execution, path, hok, hrun⟩
  · cases hout
  obtain ⟨body, answer, attempts, life, rfl, hplayed, hout⟩ := runs_runProject hrun
  have hresult := accounted hout.symm
  obtain ⟨hinitial, hall, hlife⟩ := attempts_of_played hplayed
  rw [← hresult.attempts] at hinitial hall hlife
  refine ⟨request, execution, path, hok, hinitial, ?_, ?_⟩
  · intro hrunnable
    rw [hresult.clean]
    exact ⟨fun hclean => ⟨hall hclean.1, hclean.2⟩,
      fun hcomplete => ⟨hlife hrunnable hcomplete.1, hcomplete.2⟩⟩
  · intro attempt hattempt
    rw [hresult.attempts] at hattempt
    obtain ⟨evaluation, hevaluation, process, hcall, hreports⟩ :=
      attempt_of_played hplayed hattempt
    exact ⟨evaluation, hevaluation, process, List.mem_append_left _ hcall, hreports⟩

end Attempts

theorem sample_id_plain : ∀ c ∈ sampleEvaluation.evaluationId.toList,
    c.isAlphanum = true ∨ c ∈ ['_', '.', '-'] := by
  have hall : sampleEvaluation.evaluationId.toList.all Char.isAlphanum = true := by decide +kernel
  intro c hc
  exact Or.inl (List.all_eq_true.mp hall c hc)

theorem sample_runnable : Runnable sampleContract where
  evaluations_ne := List.cons_ne_nil _ _
  repetitions_pos := List.forall_mem_singleton.mpr (by decide)
  ids_nodup := List.nodup_singleton sampleEvaluation.evaluationId
  ids_plain := List.forall_mem_singleton.mpr sample_id_plain

theorem sample_attempts : ∃ result,
    Runs (runComposeEvaluation sampleWorker sampleJob) sampleRun.1 sampleRun.2.1 (.ok result) ∧
      result.attempts.map attemptKey = [("latency", 1), ("latency", 2)] := by
  have hany : (sampleRun.2.2.toOption.any fun result => result.lifecycleError.isNone) = true := by
    decide +kernel
  obtain ⟨result, hresult, hclean⟩ := exists_ok_of_any hany
  have hrun := hresult ▸ runs_sample
  refine ⟨result, hrun, ?_⟩
  obtain ⟨_, _, _, hok, _, hcomplete, _⟩ := compose_attempts hrun
  cases sample_prepare.symm.trans hok
  rw [((hcomplete sample_runnable).mp (Option.isNone_iff_eq_none.mp hclean)).1]
  decide +kernel

end ProductionOptimizer.Compose
