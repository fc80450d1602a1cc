import ProductionOptimizer.Library.Interaction
import ProductionOptimizer.AttributedEvidence
import ProductionOptimizer.BootstrapPolicy

/-!
# A2.50: what may run

`A2.50` asks the policy about every action of a case and submits a worker job for each one that is
allowed and has a capability. The broker may refuse any of them. The evidence nodes look the
submitted jobs up in what `A2.50` sealed, so nothing is measured that the policy did not allow.
-/

namespace ProductionOptimizer.Authorization
open Interaction Policy
set_option autoImplicit false

/-! ### Contracts -/

structure RepositoryCommand where
  commandId : String
  argv : List String
  workingDirectory : String
  kind : CommandKind
  argv_ne : argv ≠ []

structure CollectorBinding where
  requirementId : String
  collectorId : String
  sourceType : String
  recipeId : String := "builtin"
  recipeVersion : String := "1.0"
  executorCapability : Option String := none

structure CollectorPlan where
  bindings : List CollectorBinding
  registryRecordVersions : List (String × Int)

structure WorkerJob where
  jobId : String
  caseId : String
  nodeId : String
  idempotencyKey : String
  inputRefs : List String
  capability : String
  timeoutSeconds : Nat
  deriving DecidableEq

inductive Raised where
  | policy (failure : PolicyFailure)
  | invalidJob
  deriving DecidableEq

structure ExecutionAuthorization where
  authorized : Bool
  deniedCapabilities : List String
  allowedWriteRoots : List String
  allowedEgress : List String
  workerJobIds : List String
  policyVersion : String
  authorizedActionIds : List String
  deniedActionIds : List String
  sourceReadOnly : Bool

/-- What the node reads from the state and the store. The refs are those of the artifacts. -/
structure Inputs where
  tenantId : String
  caseId : String
  policyVersion : String
  maximumWorkerSeconds : Nat
  hasExecution : Bool
  commands : List RepositoryCommand
  plan : CollectorPlan
  snapshotRef : String
  requestRef : String
  verificationRef : String
  planRef : String
  environmentRef : String

structure JobRequest where
  actionId : String
  capability : Option String
  facts : List (String × Fact)
  inputRefs : List String
  decisionType : String := "a2.execution_authorization"

/-- A request together with what is recorded when it is denied. -/
structure Action extends JobRequest where
  subject : String
  deniedId : String → String

abbrev Broker (α : Type) := Prog WorkerJob Bool Empty Raised α

/-! ### The node -/

section Node
variable (evaluate : PolicyRequest → Except PolicyFailure PolicyDecision) (inputs : Inputs)

def workerJob (job : JobRequest) (capability : String) : WorkerJob where
  jobId := EvidenceGate.workerJobId inputs.caseId job.actionId
  caseId := inputs.caseId
  nodeId := "A2.50"
  idempotencyKey := EvidenceGate.workerJobId inputs.caseId job.actionId
  inputRefs := job.inputRefs
  capability := capability
  timeoutSeconds := max 1 inputs.maximumWorkerSeconds

def rejectedSubmission : String := "worker broker rejected submission"

def policyRequest (job : JobRequest) : PolicyRequest :=
  ⟨job.decisionType, inputs.policyVersion, inputs.tenantId, job.facts⟩

/-- `_authorize_job`. A job without a capability in its name is not a valid `WorkerJob`. -/
def authorizeJob (job : JobRequest) : Broker (Bool × Option String × Option String) :=
  match evaluate (policyRequest inputs job) with
  | .error failure => .raise (.policy failure)
  | .ok decision =>
    if !decision.allowed then .done (.ok (false, some decision.decision, none))
    else
      match job.capability with
      | none => .done (.ok (true, none, none))
      | some capability =>
        if capability = "" then .raise .invalidJob
        else
          .call (workerJob inputs job capability) fun accepted =>
            .done (.ok (accepted, if accepted then none else some rejectedSubmission,
              some (EvidenceGate.workerJobId inputs.caseId job.actionId)))

structure Ledger where
  denied : List String := []
  workerJobIds : List String := []
  authorizedActionIds : List String := []
  deniedActionIds : List String := []

/-- An action that is allowed and has nothing to run is not recorded. -/
def Ledger.record (ledger : Ledger) (action : Action) :
    Bool × Option String × Option String → Ledger
  | (true, _, some jobId) =>
    { ledger with
      workerJobIds := ledger.workerJobIds ++ [jobId]
      authorizedActionIds := ledger.authorizedActionIds ++ [action.actionId] }
  | (true, _, none) => ledger
  | (false, reason, _) =>
    { ledger with
      denied := ledger.denied ++ [action.subject ++ ": " ++ reason.getD "None"]
      deniedActionIds := ledger.deniedActionIds ++ [action.deniedId (reason.getD "None")] }

def authorizeActions : List Action → Ledger → Broker Ledger
  | [], ledger => .done (.ok ledger)
  | action :: rest, ledger =>
    (authorizeJob evaluate inputs action.toJobRequest).bind fun result =>
      authorizeActions rest (ledger.record action result)

def composeAction : Action where
  actionId := "compose:evaluation"
  capability := some "compose_evaluation"
  facts := [("argv", .texts ["docker", "compose"]),
    ("working_directory", .text "immutable-source-snapshot"),
    ("kind", .text "compose_evaluation"),
    ("timeout_seconds", .number inputs.maximumWorkerSeconds)]
  inputRefs := [inputs.snapshotRef, inputs.requestRef]
  subject := "compose evaluation"
  deniedId := fun _ => "compose:evaluation"

def commandAction (command : RepositoryCommand) : Action where
  actionId := command.commandId
  capability := some command.kind.name
  facts := [("argv", .texts command.argv), ("working_directory", .text command.workingDirectory),
    ("kind", .text command.kind.name), ("timeout_seconds", .number inputs.maximumWorkerSeconds)]
  inputRefs := [inputs.snapshotRef, inputs.verificationRef]
  subject := command.commandId
  deniedId := fun _ => command.commandId

def collectorFacts (binding : CollectorBinding) (plan : CollectorPlan) : List (String × Fact) :=
  [("collector_id", .text binding.collectorId), ("source_type", .text binding.sourceType),
    ("recipe_id", .text binding.recipeId), ("recipe_version", .text binding.recipeVersion),
    ("registry_version", match plan.registryRecordVersions.lookup binding.recipeId with
      | some version => .number version
      | none => .null),
    ("executor_capability", match binding.executorCapability with
      | some capability => .text capability
      | none => .null)]

def bindingAction (binding : CollectorBinding) : Action where
  actionId := "recipe:" ++ binding.requirementId
  capability := binding.executorCapability
  facts := collectorFacts binding inputs.plan
  inputRefs := [inputs.snapshotRef, inputs.planRef, inputs.environmentRef]
  decisionType := "a2.collector_authorization"
  subject := binding.requirementId
  deniedId := fun reason =>
    if reason = rejectedSubmission then "recipe:" ++ binding.requirementId
    else binding.requirementId

def actions : List Action :=
  (if inputs.hasExecution then [composeAction inputs] else []) ++
    inputs.commands.map (commandAction inputs) ++
    inputs.plan.bindings.map (bindingAction inputs)

def sealAuthorization (ledger : Ledger) : NodeRoute × ExecutionAuthorization :=
  (if ledger.denied.isEmpty then .continue_ else .rejected,
    { authorized := ledger.denied.isEmpty
      deniedCapabilities := ledger.denied
      allowedWriteRoots := ["worker-output://" ++ inputs.caseId]
      allowedEgress := []
      workerJobIds := ledger.workerJobIds
      policyVersion := inputs.policyVersion
      authorizedActionIds := ledger.authorizedActionIds
      deniedActionIds := ledger.deniedActionIds
      sourceReadOnly := true })

def handleA250 : Broker (NodeRoute × ExecutionAuthorization) :=
  (authorizeActions evaluate inputs (actions inputs) {}).bind fun ledger =>
    .done (.ok (sealAuthorization inputs ledger))

end Node

/-! ### What is submitted -/

theorem mem_workerJobIds {branch : EvidenceGate.BranchInputs}
    {kind : CommandKind} {command : EvidenceGate.RepositoryCommand}
    {output : EvidenceGate.WorkerOutput}
    (h : branch.commandOutput kind = .ok (command, output)) :
    EvidenceGate.workerJobId branch.caseId command.commandId ∈ branch.workerJobIds := by
  unfold EvidenceGate.BranchInputs.commandOutput at h
  split at h
  · cases h
  · dsimp only at h
    split at h
    · rename_i hmem
      split at h
      · cases h
      · split at h
        · cases h
        · cases h
          exact List.contains_iff_mem.mp hmem
    · cases h

section Submitted
variable (evaluate : PolicyRequest → Except PolicyFailure PolicyDecision) (inputs : Inputs)

/-- Whether the policy allows an action. -/
def allows (action : Action) : Bool :=
  match evaluate (policyRequest inputs action.toJobRequest) with
  | .ok decision => decision.allowed
  | .error _ => false

/-- The job of an action that is allowed and has a capability. -/
def submission (action : Action) : Option WorkerJob :=
  if allows evaluate inputs action then
    action.capability.map (workerJob inputs action.toJobRequest)
  else none

variable {evaluate inputs} {calls : List (WorkerJob × Bool)} {records : List Empty}

theorem runs_authorizeJob {action : Action} {result : Bool × Option String × Option String}
    (h : Runs (authorizeJob evaluate inputs action.toJobRequest) calls records (.ok result)) :
    (allows evaluate inputs action = false ∧ calls = [] ∧
        ∃ reason, result = (false, some reason, none)) ∨
      (allows evaluate inputs action = true ∧ action.capability = none ∧ calls = [] ∧
        result = (true, none, none)) ∨
      (allows evaluate inputs action = true ∧ ∃ capability accepted reason,
        action.capability = some capability ∧
        calls = [(workerJob inputs action.toJobRequest capability, accepted)] ∧
        result = (accepted, reason,
          some (EvidenceGate.workerJobId inputs.caseId action.actionId))) := by
  unfold authorizeJob at h
  unfold allows
  cases hdecision : evaluate (policyRequest inputs action.toJobRequest) with
  | error failure =>
    rw [hdecision] at h
    cases (runs_done h).2.2
  | ok decision =>
    rw [hdecision] at h
    dsimp only at h ⊢
    cases hallowed : decision.allowed with
    | false =>
      rw [hallowed] at h
      obtain ⟨rfl, _, hresult⟩ := runs_done h
      cases hresult
      exact .inl ⟨rfl, rfl, _, rfl⟩
    | true =>
      rw [hallowed] at h
      cases hcapability : action.capability with
      | none =>
        rw [hcapability] at h
        obtain ⟨rfl, _, hresult⟩ := runs_done h
        cases hresult
        exact .inr (.inl ⟨rfl, rfl, rfl, rfl⟩)
      | some capability =>
        rw [hcapability] at h
        simp only [Bool.not_true, Bool.false_eq_true, if_false] at h
        split at h
        · cases (runs_done h).2.2
        · obtain ⟨accepted, rest, rfl, hdone⟩ := runs_call h
          obtain ⟨rfl, _, hresult⟩ := runs_done hdone
          cases hresult
          exact .inr (.inr ⟨rfl, capability, accepted, _, rfl, rfl, rfl⟩)

/-- What the loop over the actions did: the jobs it submitted, and the ledger after it. -/
structure Settled (evaluate : PolicyRequest → Except PolicyFailure PolicyDecision)
    (inputs : Inputs) (actions : List Action) (calls : List (WorkerJob × Bool))
    (ledger ledger' : Ledger) : Prop where
  submitted : calls.map Prod.fst = actions.filterMap (submission evaluate inputs)
  workerJobIds : ledger'.workerJobIds =
    ledger.workerJobIds ++ (calls.filter Prod.snd).map (·.1.jobId)
  denied : ledger'.denied = [] ↔ ledger.denied = [] ∧
    (∀ action ∈ actions, allows evaluate inputs action = true) ∧ ∀ call ∈ calls, call.2 = true

theorem runs_authorizeActions {actions : List Action} {ledger ledger' : Ledger}
    (h : Runs (authorizeActions evaluate inputs actions ledger) calls records (.ok ledger')) :
    Settled evaluate inputs actions calls ledger ledger' := by
  induction actions generalizing ledger calls records with
  | nil =>
    obtain ⟨rfl, _, hledger⟩ := runs_done h
    cases hledger
    exact ⟨rfl, by simp, by simp⟩
  | cons action actions ih =>
    rcases runs_bind h with ⟨e, hfalse, _⟩ | ⟨result, c₁, c₂, r₁, r₂, rfl, _, hjob, hrest⟩
    · cases hfalse
    have hsettled := ih hrest
    rcases runs_authorizeJob hjob with ⟨hdenied, rfl, reason, rfl⟩ |
      ⟨hallowed, hnone, rfl, rfl⟩ | ⟨hallowed, capability, accepted, reason, hsome, rfl, rfl⟩
    · refine ⟨?_, hsettled.workerJobIds, ?_⟩
      · rw [List.nil_append, hsettled.submitted, List.filterMap_cons, submission, hdenied]
        rfl
      · rw [hsettled.denied]
        simp [Ledger.record, hdenied]
    · refine ⟨?_, hsettled.workerJobIds, ?_⟩
      · rw [List.nil_append, hsettled.submitted, List.filterMap_cons, submission, hallowed, hnone]
        rfl
      · rw [hsettled.denied]
        simp [Ledger.record, hallowed]
    · refine ⟨?_, ?_, ?_⟩
      · rw [List.map_append, hsettled.submitted, List.filterMap_cons, submission, hallowed, hsome]
        rfl
      · rw [hsettled.workerJobIds]
        cases accepted with
        | true => simp [Ledger.record, workerJob]
        | false => simp [Ledger.record]
      · rw [hsettled.denied]
        cases accepted with
        | true => simp [Ledger.record, hallowed]
        | false => simp [Ledger.record]

theorem runs_handleA250 {route : NodeRoute} {authorization : ExecutionAuthorization}
    (h : Runs (handleA250 evaluate inputs) calls records (.ok (route, authorization))) :
    calls.map Prod.fst = (actions inputs).filterMap (submission evaluate inputs) ∧
      authorization.workerJobIds = (calls.filter Prod.snd).map (·.1.jobId) ∧
      (route = .continue_ ↔ (∀ action ∈ actions inputs, allows evaluate inputs action = true) ∧
        ∀ call ∈ calls, call.2 = true) := by
  rcases runs_bind h with ⟨_, hfalse, _⟩ | ⟨ledger, c₁, c₂, _, _, rfl, _, hloop, hseal⟩
  · cases hfalse
  obtain ⟨rfl, _, hsealed⟩ := runs_done hseal
  obtain ⟨rfl, rfl⟩ := Prod.mk.inj (Except.ok.inj hsealed)
  rw [List.append_nil]
  have hsettled := runs_authorizeActions hloop
  refine ⟨hsettled.submitted, hsettled.workerJobIds, ?_⟩
  have hroute : (sealAuthorization inputs ledger).1 = .continue_ ↔ ledger.denied = [] := by
    unfold sealAuthorization
    cases ledger.denied <;> simp
  have hdenied := hsettled.denied
  simp only [true_and] at hdenied
  exact hroute.trans hdenied

/-- Whatever the policy and the broker answer: a job is submitted exactly for each action that is
allowed and has a capability, in the order of the actions; the case goes on exactly when nothing is
denied and nothing refused; and a command whose output becomes evidence belongs to an action that
the policy allowed and the broker accepted. -/
theorem a2_50_authorizes {route : NodeRoute} {authorization : ExecutionAuthorization}
    (h : Runs (handleA250 evaluate inputs) calls records (.ok (route, authorization))) :
    calls.map Prod.fst = (actions inputs).filterMap (submission evaluate inputs) ∧
      (route = .continue_ ↔ (∀ action ∈ actions inputs, allows evaluate inputs action = true) ∧
        ∀ call ∈ calls, call.2 = true) ∧
      ∀ branch : EvidenceGate.BranchInputs, branch.caseId = inputs.caseId →
        branch.workerJobIds = authorization.workerJobIds →
        ∀ kind command output, branch.commandOutput kind = .ok (command, output) →
          ∃ action ∈ actions inputs, action.actionId = command.commandId ∧
            allows evaluate inputs action = true ∧
            ∃ capability, (workerJob inputs action.toJobRequest capability, true) ∈ calls := by
  obtain ⟨hsubmitted, hworker, hroute⟩ := runs_handleA250 h
  refine ⟨hsubmitted, hroute, ?_⟩
  · intro branch hcase hids kind command output houtput
    have hjob : EvidenceGate.workerJobId branch.caseId command.commandId ∈ branch.workerJobIds :=
      mem_workerJobIds houtput
    rw [hids, hcase, hworker] at hjob
    obtain ⟨call, hcall, hid⟩ := List.mem_map.mp hjob
    obtain ⟨hmem, haccepted⟩ := List.mem_filter.mp hcall
    have hfirst : call.1 ∈ (actions inputs).filterMap (submission evaluate inputs) :=
      hsubmitted ▸ List.mem_map_of_mem hmem
    obtain ⟨action, haction, hsubmission⟩ := List.mem_filterMap.mp hfirst
    unfold submission at hsubmission
    split at hsubmission
    · rename_i hallowed
      obtain ⟨capability, _, hworkerJob⟩ := Option.map_eq_some_iff.mp hsubmission
      have hactionId : action.actionId = command.commandId := by
        rw [← hworkerJob] at hid
        exact (String.append_right_inj _).mp hid
      refine ⟨action, haction, hactionId, hallowed, capability, ?_⟩
      rw [hworkerJob, ← haccepted]
      exact hmem
    · cases hsubmission

end Submitted

/-! ### The bootstrap policy and the local broker -/

/-- The keys of `build_local_command_capabilities`. -/
def localCapabilities : List String :=
  ["build", "unit", "lint", "type", "benchmark", "compose_evaluation"]

/-- What a case must look like for `A2.50` to let it go on: the budget is a possible timeout where
anything runs, no command is of a kind that nothing runs, no argument has a character that only a
shell would read, and every collector is in the vocabulary or in the registry. -/
structure Executable (inputs : Inputs) : Prop where
  budget : inputs.hasExecution = true ∨ inputs.commands ≠ [] →
    0 < inputs.maximumWorkerSeconds ∧ inputs.maximumWorkerSeconds ≤ 3600
  commands : ∀ command ∈ inputs.commands,
    command.kind ∈ [CommandKind.build, .unit, .lint, .type, .benchmark] ∧
      hasMetacharacter command.argv = false ∧
      S3.isBlank command.workingDirectory.toList = false
  bindings : ∀ binding ∈ inputs.plan.bindings,
    (binding.sourceType ∈ allowedSourceTypes ∨ S3.isBlank binding.recipeId.toList = false ∧
      ∃ version, inputs.plan.registryRecordVersions.lookup binding.recipeId = some version ∧
        1 ≤ version) ∧
      S3.isBlank binding.collectorId.toList = false ∧
      ∀ capability, binding.executorCapability = some capability → capability ∈ localCapabilities

section Bootstrap
variable {texts : Texts} {policy : DeterministicPythonPolicy} {inputs : Inputs}
  {calls : List (WorkerJob × Bool)} {records : List Empty}

theorem allows_execution (hpolicy : buildBootstrapPolicy texts inputs.policyVersion = .ok policy)
    {action : Action} (htype : action.decisionType = "a2.execution_authorization") :
    allows policy.evaluate inputs action = true ↔
      executionReasons texts (policyRequest inputs action.toJobRequest) = [] := by
  unfold allows
  rw [evaluate_execution hpolicy htype]
  exact decideOn_allowed

theorem argvReasons_eq_nil {argv : List String} (h : argv ≠ []) :
    argvReasons (some argv) = [] ↔ hasMetacharacter argv = false := by
  cases argv with
  | nil => exact absurd rfl h
  | cons first rest =>
    unfold argvReasons
    cases hmeta : hasMetacharacter (first :: rest) <;> simp [hmeta]

theorem timeoutOk_number (seconds : Nat) :
    timeoutOk (.number seconds) = true ↔ 0 < seconds ∧ seconds ≤ 3600 := by
  simp [timeoutOk, Fact.toNumber, maxCommandTimeoutSeconds]

/-- Which facts about a command pass. -/
theorem executionReasons_eq_nil {decisionType : String} {argv : List String}
    {workingDirectory kind : String} {seconds : Nat} (hargv : argv ≠ []) :
    executionReasons texts ⟨decisionType, inputs.policyVersion, inputs.tenantId,
        [("argv", .texts argv), ("working_directory", .text workingDirectory),
          ("kind", .text kind), ("timeout_seconds", .number seconds)]⟩ = [] ↔
      kind ∈ allowedCommandKinds ∧ hasMetacharacter argv = false ∧
        S3.isBlank workingDirectory.toList = false ∧ 0 < seconds ∧ seconds ≤ 3600 := by
  rw [← argvReasons_eq_nil hargv, ← timeoutOk_number]
  unfold executionReasons PolicyRequest.fact
  simp [List.lookup_cons, Fact.isOneOf, Fact.toList, Fact.isText]

theorem allows_compose (hpolicy : buildBootstrapPolicy texts inputs.policyVersion = .ok policy) :
    allows policy.evaluate inputs (composeAction inputs) = true ↔
      0 < inputs.maximumWorkerSeconds ∧ inputs.maximumWorkerSeconds ≤ 3600 := by
  rw [allows_execution hpolicy rfl]
  refine (executionReasons_eq_nil (by simp)).trans ?_
  have hfixed : "compose_evaluation" ∈ allowedCommandKinds ∧
      hasMetacharacter ["docker", "compose"] = false ∧
      S3.isBlank "immutable-source-snapshot".toList = false := by
    decide +kernel
  exact ⟨fun h => h.2.2.2, fun h => ⟨hfixed.1, hfixed.2.1, hfixed.2.2, h⟩⟩

theorem kind_allowed_iff {kind : CommandKind} : kind.name ∈ allowedCommandKinds ↔
    kind ∈ [CommandKind.build, .unit, .lint, .type, .benchmark] := by
  cases kind <;> decide +kernel

theorem kind_local_iff {kind : CommandKind} : kind.name ∈ localCapabilities ↔
    kind ∈ [CommandKind.build, .unit, .lint, .type, .benchmark] := by
  cases kind <;> decide +kernel

theorem allows_command (hpolicy : buildBootstrapPolicy texts inputs.policyVersion = .ok policy)
    {command : RepositoryCommand} :
    allows policy.evaluate inputs (commandAction inputs command) = true ↔
      command.kind ∈ [CommandKind.build, .unit, .lint, .type, .benchmark] ∧
        hasMetacharacter command.argv = false ∧
        S3.isBlank command.workingDirectory.toList = false ∧
        0 < inputs.maximumWorkerSeconds ∧ inputs.maximumWorkerSeconds ≤ 3600 := by
  rw [allows_execution hpolicy rfl, ← kind_allowed_iff]
  exact executionReasons_eq_nil command.argv_ne

theorem allows_binding (hpolicy : buildBootstrapPolicy texts inputs.policyVersion = .ok policy)
    {binding : CollectorBinding} :
    allows policy.evaluate inputs (bindingAction inputs binding) = true ↔
      (binding.sourceType ∈ allowedSourceTypes ∨ S3.isBlank binding.recipeId.toList = false ∧
        ∃ version, inputs.plan.registryRecordVersions.lookup binding.recipeId = some version ∧
          1 ≤ version) ∧
        S3.isBlank binding.collectorId.toList = false := by
  unfold allows
  rw [evaluate_collector hpolicy rfl]
  refine decideOn_allowed.trans ?_
  unfold collectorReasons PolicyRequest.fact policyRequest bindingAction collectorFacts
  cases hversion : inputs.plan.registryRecordVersions.lookup binding.recipeId with
  | none => simp [List.lookup_cons, Fact.isOneOf, Fact.isText, Fact.isVersion]
  | some version =>
    simp [List.lookup_cons, Fact.isOneOf, Fact.isText, Fact.isVersion, or_iff_not_imp_left]

/-- The local broker accepts every job that is submitted exactly when it knows their
capabilities. -/
theorem accepted_iff {evaluate : PolicyRequest → Except PolicyFailure PolicyDecision}
    (hsubmitted : calls.map Prod.fst = (actions inputs).filterMap (submission evaluate inputs))
    (hbroker : ∀ call ∈ calls, call.2 = localCapabilities.contains call.1.capability) :
    (∀ call ∈ calls, call.2 = true) ↔
      ∀ action ∈ actions inputs, allows evaluate inputs action = true →
        ∀ capability, action.capability = some capability → capability ∈ localCapabilities := by
  constructor
  · intro hall action haction hallowed capability hcapability
    have hjob : workerJob inputs action.toJobRequest capability ∈ calls.map Prod.fst := by
      rw [hsubmitted, List.mem_filterMap]
      refine ⟨action, haction, ?_⟩
      rw [submission, if_pos hallowed, hcapability]
      rfl
    obtain ⟨call, hcall, hfirst⟩ := List.mem_map.mp hjob
    have hcontains := (hbroker call hcall).symm.trans (hall call hcall)
    rw [hfirst] at hcontains
    exact List.contains_iff_mem.mp hcontains
  · intro hall call hcall
    have hjob : call.1 ∈ (actions inputs).filterMap (submission evaluate inputs) :=
      hsubmitted ▸ List.mem_map_of_mem hcall
    obtain ⟨action, haction, hsubmission⟩ := List.mem_filterMap.mp hjob
    unfold submission at hsubmission
    split at hsubmission
    · rename_i hallowed
      obtain ⟨capability, hcapability, hworkerJob⟩ := Option.map_eq_some_iff.mp hsubmission
      rw [hbroker call hcall, ← hworkerJob]
      exact List.contains_iff_mem.mpr (hall action haction hallowed capability hcapability)
    · cases hsubmission

theorem forall_actions {P : Action → Prop} : (∀ action ∈ actions inputs, P action) ↔
    (inputs.hasExecution = true → P (composeAction inputs)) ∧
      (∀ command ∈ inputs.commands, P (commandAction inputs command)) ∧
      ∀ binding ∈ inputs.plan.bindings, P (bindingAction inputs binding) := by
  unfold actions
  cases inputs.hasExecution <;> simp [or_imp, forall_and]

/-- Under the bootstrap policy and the local broker the case goes on exactly when it is
executable. -/
theorem a2_50_bootstrap (hpolicy : buildBootstrapPolicy texts inputs.policyVersion = .ok policy)
    {route : NodeRoute} {authorization : ExecutionAuthorization}
    (h : Runs (handleA250 policy.evaluate inputs) calls records (.ok (route, authorization)))
    (hbroker : ∀ call ∈ calls, call.2 = localCapabilities.contains call.1.capability) :
    route = .continue_ ↔ Executable inputs := by
  obtain ⟨hsubmitted, _, hroute⟩ := runs_handleA250 h
  rw [hroute, accepted_iff hsubmitted hbroker, forall_actions, forall_actions]
  simp only [allows_compose hpolicy, allows_command hpolicy, allows_binding hpolicy]
  constructor
  · rintro ⟨⟨hcompose, hcommands, hbindings⟩, _, _, hlocal⟩
    refine ⟨?_, ?_, ?_⟩
    · rintro (hexecution | hne)
      · exact hcompose hexecution
      · obtain ⟨command, hcommand⟩ := List.exists_mem_of_ne_nil _ hne
        exact (hcommands command hcommand).2.2.2
    · intro command hcommand
      obtain ⟨hkind, hargv, hdirectory, _⟩ := hcommands command hcommand
      exact ⟨hkind, hargv, hdirectory⟩
    · intro binding hbinding
      obtain ⟨hsource, hcollector⟩ := hbindings binding hbinding
      exact ⟨hsource, hcollector, hlocal binding hbinding ⟨hsource, hcollector⟩⟩
  · rintro ⟨hbudget, hcommands, hbindings⟩
    refine ⟨⟨fun hexecution => hbudget (.inl hexecution), ?_, ?_⟩, ?_, ?_, ?_⟩
    · intro command hcommand
      obtain ⟨hkind, hargv, hdirectory⟩ := hcommands command hcommand
      exact ⟨hkind, hargv, hdirectory, hbudget (.inr (List.ne_nil_of_mem hcommand))⟩
    · intro binding hbinding
      obtain ⟨hsource, hcollector, _⟩ := hbindings binding hbinding
      exact ⟨hsource, hcollector⟩
    · rintro _ _ capability ⟨⟩
      decide
    · rintro command hcommand ⟨hkind, _⟩ capability ⟨⟩
      exact kind_local_iff.mpr hkind
    · intro binding hbinding _
      exact (hbindings binding hbinding).2.2

end Bootstrap

/-! One command and one collector under the local broker. -/

def sampleInputs : Inputs where
  tenantId := "acme"
  caseId := "checkout-1"
  policyVersion := "bootstrap-v1"
  maximumWorkerSeconds := 600
  hasExecution := false
  commands := [⟨"unit-1", ["pytest", "-q"], "services/checkout", .unit, List.cons_ne_nil _ _⟩]
  plan := { bindings := [⟨"req-unit", "test", "test", "builtin", "1.0", none⟩]
            registryRecordVersions := [] }
  snapshotRef := "s3://artifacts/snapshot"
  requestRef := "s3://artifacts/request"
  verificationRef := "s3://artifacts/verification"
  planRef := "s3://artifacts/plan"
  environmentRef := "s3://artifacts/environment"

def sampleTexts : Texts := ⟨fun _ => ""⟩

def samplePolicy : DeterministicPythonPolicy :=
  ⟨"bootstrap-v1", bootstrapDecisions sampleTexts "bootstrap-v1"⟩

theorem sample_policy : buildBootstrapPolicy sampleTexts "bootstrap-v1" = .ok samplePolicy :=
  buildBootstrapPolicy_eq (by decide +kernel)

def localBroker (_ : List (WorkerJob × Bool)) (job : WorkerJob) : Bool :=
  localCapabilities.contains job.capability

def sampleRun : List (WorkerJob × Bool) × List Empty ×
    Except Raised (NodeRoute × ExecutionAuthorization) :=
  (handleA250 samplePolicy.evaluate sampleInputs).execute localBroker []

theorem runs_sampleRun : ∃ route authorization,
    Runs (handleA250 samplePolicy.evaluate sampleInputs) sampleRun.1 sampleRun.2.1
      (.ok (route, authorization)) ∧ route = .continue_ := by
  have hany : (sampleRun.2.2.toOption.any fun out => out.1 == .continue_) = true := by
    decide +kernel
  obtain ⟨⟨route, authorization⟩, hout, hroute⟩ := exists_ok_of_any hany
  obtain ⟨calls, hcalls, hrun⟩ :=
    execute_runs localBroker (handleA250 samplePolicy.evaluate sampleInputs) []
  rw [List.nil_append] at hcalls
  refine ⟨route, authorization, ?_, by simpa using hroute⟩
  rw [← hout, sampleRun, hcalls]
  exact hrun

theorem sample_authorized : ∃ route authorization,
    Runs (handleA250 samplePolicy.evaluate sampleInputs) sampleRun.1 sampleRun.2.1
      (.ok (route, authorization)) ∧
      ∀ call ∈ sampleRun.1, call.2 = true := by
  obtain ⟨route, authorization, hrun, hroute⟩ := runs_sampleRun
  exact ⟨route, authorization, hrun, ((a2_50_authorizes hrun).2.1.mp hroute).2⟩

theorem sample_executable : Executable sampleInputs := by
  obtain ⟨route, authorization, hrun, hroute⟩ := runs_sampleRun
  refine (a2_50_bootstrap sample_policy hrun ?_).mp hroute
  decide +kernel

end ProductionOptimizer.Authorization
