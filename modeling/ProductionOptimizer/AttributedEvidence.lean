import ProductionOptimizer.SampleRules

/-!
# Which command an observation is of

`A2.60` to `A2.62` run the lint, type, unit and benchmark commands and label each result by
the bindings of the collector plan for a node and a source type. A binding names a metric
and no command, and S05 takes the command from the name of the metric.
-/

namespace ProductionOptimizer.EvidenceGate
open Intake
set_option autoImplicit false

/-! ### The collector plan -/

structure CollectorBinding where
  requirementId : String
  sourceType : String
  metricId : Option String
  canonicalUnit : Option String
  executionNode : NodeId
  executorCapability : Option String := none
  deriving DecidableEq

def collectorCatalog : List String := ["test", "benchmark", "telemetry", "source_map"]

def builtinExecutionNode (sourceType : String) : Option NodeId :=
  [("static", (⟨.A2, 60⟩ : NodeId)), ("test", ⟨.A2, 61⟩), ("benchmark", ⟨.A2, 62⟩),
    ("telemetry", ⟨.A2, 63⟩), ("source_map", ⟨.A2, 64⟩)].lookup sourceType

/-- `_resolve_binding` without a registry: the first accepted source type, in the order of
names, that the catalog has a collector for. -/
def resolveBinding (requirement : Intake.EvidenceRequirement) : Option CollectorBinding :=
  (requirement.acceptedSourceTypes.insertionSort (· ≤ ·)).findSome? fun sourceType =>
    if collectorCatalog.contains sourceType then
      (builtinExecutionNode sourceType).map fun node =>
        { requirementId := requirement.requirementId
          sourceType
          metricId := some requirement.metricId
          canonicalUnit := some requirement.canonicalUnit
          executionNode := node }
    else none

/-- The bindings of `A2.40`. -/
def collectorPlan (request : Intake.OptimizationRequest) : List CollectorBinding :=
  request.evidenceRequirements.filterMap resolveBinding

/-! ### The command branches -/

structure RepositoryCommand where
  commandId : String
  kind : CommandKind
  deriving DecidableEq

structure BenchmarkRound where
  value : ℚ
  unit : String := "seconds"
  deriving DecidableEq

/-- The payload a worker left; an exit code that is no number is as good as none. -/
structure WorkerOutput where
  rawRef : String
  exitCode : Option ℚ
  benchmarkRounds : List BenchmarkRound := []
  deriving DecidableEq

structure BranchInputs where
  caseId : String
  plan : List CollectorBinding
  commands : List RepositoryCommand
  workerJobIds : List String
  workerResult : String → Option WorkerOutput
  now : Int
  dimensions : List (String × String)

def workerJobId (caseId commandId : String) : String := caseId ++ ":A2.50:" ++ commandId

inductive Unavailable where
  | noCommand (kind : CommandKind)
  | notAuthorized (kind : CommandKind)
  | didNotComplete (kind : CommandKind)
  | noRounds
  deriving DecidableEq, Repr

namespace BranchInputs
variable (inputs : BranchInputs)

/-- `_bindings_for_observation`. -/
def bindingsFor (node : NodeId) (sourceType : String) : List (Option CollectorBinding) :=
  let bindings := inputs.plan.filter fun binding =>
    binding.executionNode == node && binding.sourceType == sourceType &&
      binding.executorCapability.isNone
  if bindings.isEmpty then [none] else bindings.map some

/-- What the worker returned for a kind of command, or why there is nothing. -/
def commandOutput (kind : CommandKind) :
    Except Unavailable (RepositoryCommand × WorkerOutput) :=
  match inputs.commands.find? (·.kind == kind) with
  | none => .error (.noCommand kind)
  | some command =>
    let jobId := workerJobId inputs.caseId command.commandId
    if inputs.workerJobIds.contains jobId then
      match inputs.workerResult jobId with
      | none => .error (.didNotComplete kind)
      | some output =>
        if kind = .benchmark ∧ output.benchmarkRounds = [] then .error .noRounds
        else .ok (command, output)
    else .error (.notAuthorized kind)

/-- One item for one binding. Without a binding the label is the given one. -/
def item (node : NodeId) (kind : CommandKind) (sampleId rawRef : String) (value : Option ℚ)
    (unit label : String) (binding : Option CollectorBinding) : EvidenceItem where
  evidenceId := inputs.caseId ++ ":" ++ node.render ++ ":" ++ sampleId
  evidenceType := kind.metricId
  trustLevel := .T2
  sampleId := sampleId
  observedAt := inputs.now
  rawRef := rawRef
  normalizedRef := none
  value := value.map .number
  unit := some unit
  requirementId := binding.map (·.requirementId)
  metricId := match binding with
    | some binding => binding.metricId
    | none => some label
  dimensions := inputs.dimensions

def roundItems (node : NodeId) (command : RepositoryCommand) (output : WorkerOutput) :
    List EvidenceItem :=
  (output.benchmarkRounds.zipIdx 1).flatMap fun round =>
    ((inputs.bindingsFor node "benchmark").zipIdx 1).map fun target =>
      inputs.item node .benchmark
        (command.commandId ++ "-" ++ round.2.repr ++ "-" ++ target.2.repr) output.rawRef
        (some round.1.value) round.1.unit "benchmark_duration" target.1

def exitCodeItems (node : NodeId) (kind : CommandKind) (command : RepositoryCommand)
    (output : WorkerOutput) : List EvidenceItem :=
  let sourceType := if kind = .unit then "test" else "static"
  ((inputs.bindingsFor node sourceType).zipIdx 1).map fun target =>
    inputs.item node kind (command.commandId ++ "-" ++ target.2.repr) output.rawRef
      output.exitCode "exit_code" kind.metricId target.1

def kindItems (node : NodeId) (kind : CommandKind) : List EvidenceItem :=
  match inputs.commandOutput kind with
  | .error _ => []
  | .ok (command, output) =>
    if kind = .benchmark then inputs.roundItems node command output
    else inputs.exitCodeItems node kind command output

/-- `_run_command_evidence_branch`, the registered recipes left out. -/
def commandEvidenceBranch (node : NodeId) (kinds : List CommandKind) :
    List EvidenceItem × List (CommandKind × Bool) × List Unavailable :=
  (kinds.flatMap (inputs.kindItems node),
    kinds.map fun kind => (kind, (inputs.commandOutput kind).toOption.isSome),
    kinds.filterMap fun kind =>
      match inputs.commandOutput kind with
      | .error reason => some reason
      | .ok _ => none)

def handleA260 := inputs.commandEvidenceBranch ⟨.A2, 60⟩ [.lint, .type]

def handleA261 := inputs.commandEvidenceBranch ⟨.A2, 61⟩ [.unit]

def handleA262 := inputs.commandEvidenceBranch ⟨.A2, 62⟩ [.benchmark]

/-- Everything the three branches emit. -/
def commandEvidence : List EvidenceItem :=
  inputs.handleA260.1 ++ inputs.handleA261.1 ++ inputs.handleA262.1

end BranchInputs

/-! ### Attribution -/

def commandKinds : List CommandKind := [.lint, .type, .unit, .benchmark]

/-- The node that runs a kind of command and the source type it looks bindings up for. Lint
and type share both. -/
def commandSource : CommandKind → NodeId × String
  | .unit => (⟨.A2, 61⟩, "test")
  | .benchmark => (⟨.A2, 62⟩, "benchmark")
  | _ => (⟨.A2, 60⟩, "static")

def BranchInputs.consulted (inputs : BranchInputs) (kind : CommandKind) : List CollectorBinding :=
  inputs.plan.filter fun binding =>
    binding.executionNode == (commandSource kind).1 && binding.sourceType == (commandSource kind).2
      && binding.executorCapability.isNone

/-- The exit code or a round of the command of the given kind. -/
def Carries (inputs : BranchInputs) (kind : CommandKind) (item : EvidenceItem) : Prop :=
  ∃ command output, inputs.commandOutput kind = .ok (command, output) ∧
    item.rawRef = output.rawRef ∧
    (kind = .benchmark → ∃ round ∈ output.benchmarkRounds,
      item.value = some (.number round.value)) ∧
    (kind ≠ .benchmark → item.value = output.exitCode.map .number)

/-- What is labelled as the result of a command is of that command; and what `A2.95`
aggregates for a criterion is of the command that `S05.40` runs for it. -/
structure Attributed (inputs : BranchInputs) : Prop where
  labelled : ∀ item ∈ inputs.commandEvidence, ∀ kind ∈ commandKinds,
    item.metricId = some kind.metricId →
      item.evidenceType = kind.metricId ∧ Carries inputs kind item
  compared : ∀ (criterion : ProductionOptimizer.Criterion) (manifest : RepositoryManifest),
    ∀ kind ∈ commandKinds, resolveKind criterion manifest = some kind →
      ∀ item ∈ inputs.commandEvidence, ∀ unit,
        aggregateKey item = some (criterion.metricId, unit) → item.evidenceType = kind.metricId

theorem metricId_injective : Function.Injective CommandKind.metricId := by
  intro kind other h
  cases kind <;> cases other <;> first | rfl | exact absurd h (by decide)

section Items
variable {inputs : BranchInputs} {kind : CommandKind} {item : EvidenceItem}

theorem mem_commandEvidence :
    item ∈ inputs.commandEvidence ↔
      ∃ kind ∈ commandKinds, item ∈ inputs.kindItems (commandSource kind).1 kind := by
  simp [BranchInputs.commandEvidence, BranchInputs.handleA260, BranchInputs.handleA261,
    BranchInputs.handleA262, BranchInputs.commandEvidenceBranch, commandKinds, commandSource]

theorem mem_bindingsFor {binding : CollectorBinding} :
    some binding ∈ inputs.bindingsFor (commandSource kind).1 (commandSource kind).2 ↔
      binding ∈ inputs.consulted kind := by
  unfold BranchInputs.bindingsFor BranchInputs.consulted
  dsimp only
  split
  · rename_i hempty
    rw [List.isEmpty_iff.mp hempty]
    simp
  · simp

/-- The label of an item is that of a binding for its command, or the default. -/
def Labelled (inputs : BranchInputs) (kind : CommandKind) (item : EvidenceItem) : Prop :=
  (∃ binding ∈ inputs.consulted kind, item.metricId = binding.metricId) ∨
    item.metricId = some (if kind = .benchmark then "benchmark_duration" else kind.metricId)

theorem labelled_of_target {node : NodeId} {sampleId rawRef unit label : String} {value : Option ℚ}
    {target : Option CollectorBinding}
    (htarget : target ∈ inputs.bindingsFor (commandSource kind).1 (commandSource kind).2)
    (hlabel : label = if kind = .benchmark then "benchmark_duration" else kind.metricId) :
    Labelled inputs kind (inputs.item node kind sampleId rawRef value unit label target) := by
  cases target with
  | none =>
    rw [hlabel]
    exact Or.inr rfl
  | some binding => exact Or.inl ⟨binding, mem_bindingsFor.mp htarget, rfl⟩

/-- What the items of a command say. -/
theorem kindItems_spec (hitem : item ∈ inputs.kindItems (commandSource kind).1 kind) :
    item.evidenceType = kind.metricId ∧ Carries inputs kind item ∧ Labelled inputs kind item := by
  unfold BranchInputs.kindItems at hitem
  split at hitem
  · cases hitem
  · rename_i command output houtput
    split at hitem
    · rename_i hbenchmark
      subst hbenchmark
      obtain ⟨round, hround, hitem⟩ := List.mem_flatMap.mp hitem
      obtain ⟨target, htarget, rfl⟩ := List.mem_map.mp hitem
      refine ⟨rfl, ⟨command, output, houtput, rfl, fun _ => ⟨round.1, ?_, rfl⟩,
        fun h => absurd rfl h⟩, labelled_of_target (List.fst_mem_of_mem_zipIdx htarget) rfl⟩
      exact List.fst_mem_of_mem_zipIdx hround
    · rename_i hexit
      obtain ⟨target, htarget, rfl⟩ := List.mem_map.mp hitem
      have hsource : (if kind = .unit then "test" else "static") = (commandSource kind).2 := by
        cases kind <;> first | rfl | exact absurd rfl hexit
      rw [hsource] at htarget
      refine ⟨rfl, ⟨command, output, houtput, rfl, fun h => absurd h hexit, fun _ => rfl⟩,
        labelled_of_target (List.fst_mem_of_mem_zipIdx htarget) ?_⟩
      rw [if_neg hexit]

theorem exists_index {α : Type} {x : α} {l : List α} (h : x ∈ l) (k : Nat) :
    ∃ i, (x, i) ∈ l.zipIdx k := by
  obtain ⟨i, hi, rfl⟩ := List.getElem_of_mem h
  exact ⟨k + i, List.mk_add_mem_zipIdx_iff_getElem?.mpr (List.getElem?_eq_getElem hi)⟩

/-- A benchmark without a round is unavailable. -/
theorem rounds_of_commandOutput {command : RepositoryCommand} {output : WorkerOutput}
    (h : inputs.commandOutput .benchmark = .ok (command, output)) :
    output.benchmarkRounds ≠ [] := by
  intro hnil
  unfold BranchInputs.commandOutput at h
  split at h
  · cases h
  · dsimp only at h
    split at h
    · split at h
      · cases h
      · split at h
        · cases h
        · rename_i hrounds
          cases h
          exact hrounds ⟨rfl, hnil⟩
    · cases h

/-- Every binding that is consulted for a result labels some item of it. -/
theorem exists_labelled {result : RepositoryCommand × WorkerOutput}
    (hresult : inputs.commandOutput kind = .ok result)
    {binding : CollectorBinding} (hbinding : binding ∈ inputs.consulted kind) :
    ∃ item ∈ inputs.kindItems (commandSource kind).1 kind, item.metricId = binding.metricId := by
  obtain ⟨command, output⟩ := result
  obtain ⟨i, hi⟩ := exists_index (mem_bindingsFor.mpr hbinding) 1
  unfold BranchInputs.kindItems
  rw [hresult]
  dsimp only
  split
  · rename_i hbenchmark
    subst hbenchmark
    obtain ⟨round, rounds, hcons⟩ := List.exists_cons_of_ne_nil (rounds_of_commandOutput hresult)
    have hround : (round, 1) ∈ output.benchmarkRounds.zipIdx 1 := by
      rw [hcons]
      exact List.mem_cons_self
    exact ⟨_, List.mem_flatMap.mpr ⟨(round, 1), hround,
      List.mem_map.mpr ⟨(some binding, i), hi, rfl⟩⟩, rfl⟩
  · rename_i hexit
    have hsource : (if kind = .unit then "test" else "static") = (commandSource kind).2 := by
      cases kind <;> first | rfl | exact absurd rfl hexit
    refine ⟨_, List.mem_map.mpr ⟨(some binding, i), ?_, rfl⟩, rfl⟩
    rw [hsource]
    exact hi

end Items

/-! ### Which plans label rightly -/

/-- Each binding that is looked up for a command with a result, and that is for the metric of
some command, is for the metric of this one. -/
def LabelsOwnCommand (inputs : BranchInputs) : Prop :=
  ∀ kind ∈ commandKinds, (inputs.commandOutput kind).toOption.isSome = true →
    ∀ binding ∈ inputs.consulted kind, ∀ other ∈ commandKinds,
      binding.metricId = some other.metricId → other = kind

theorem labelled_kind {inputs : BranchInputs} (h : LabelsOwnCommand inputs) {kind : CommandKind}
    (hkind : kind ∈ commandKinds) {item : EvidenceItem}
    (hitem : item ∈ inputs.kindItems (commandSource kind).1 kind) {other : CommandKind}
    (hother : other ∈ commandKinds) (hmetric : item.metricId = some other.metricId) :
    other = kind := by
  obtain ⟨-, ⟨command, output, houtput, -⟩, hlabelled⟩ := kindItems_spec hitem
  rcases hlabelled with ⟨binding, hbinding, hlabel⟩ | hdefault
  · have hsome : (inputs.commandOutput kind).toOption.isSome = true := by
      rw [houtput]
      rfl
    exact h kind hkind hsome binding hbinding other hother (hlabel.symm.trans hmetric)
  · have hsame := Option.some.inj (hmetric.symm.trans hdefault)
    split at hsame
    · cases other <;> exact absurd hsame (by decide)
    · exact metricId_injective hsame

theorem labelsOwnCommand_of_attributed {inputs : BranchInputs} (h : Attributed inputs) :
    LabelsOwnCommand inputs := by
  intro kind hkind hsome binding hbinding other hother hmetric
  cases hresult : inputs.commandOutput kind with
  | error reason =>
    rw [hresult] at hsome
    cases hsome
  | ok result =>
    obtain ⟨item, hitem, hlabel⟩ := exists_labelled hresult hbinding
    have hmem := mem_commandEvidence.mpr ⟨kind, hkind, hitem⟩
    have htype := (h.labelled item hmem other hother (hlabel.trans hmetric)).1
    exact metricId_injective (htype.symm.trans (kindItems_spec hitem).1)

/-- Evidence is attributed to the command that produced it exactly if no binding for another
command's metric is looked up for a result. -/
theorem attributed_iff (inputs : BranchInputs) : Attributed inputs ↔ LabelsOwnCommand inputs := by
  constructor
  · exact labelsOwnCommand_of_attributed
  · intro hown
    have hlabelled : ∀ item ∈ inputs.commandEvidence, ∀ kind ∈ commandKinds,
        item.metricId = some kind.metricId →
          item.evidenceType = kind.metricId ∧ Carries inputs kind item := by
      intro item hitem kind hkind hmetric
      obtain ⟨producer, hproducer, hitem⟩ := mem_commandEvidence.mp hitem
      cases labelled_kind hown hproducer hitem hkind hmetric
      obtain ⟨htype, hcarries, -⟩ := kindItems_spec hitem
      exact ⟨htype, hcarries⟩
    refine ⟨hlabelled, ?_⟩
    intro criterion manifest kind hkind hresolve item hitem unit hkey
    have hcriterion : criterion.metricId = kind.metricId := by
      unfold resolveKind at hresolve
      have hfound := List.find?_some hresolve
      exact (beq_iff_eq.mp hfound).symm
    have hmetric : item.metricId = some criterion.metricId := (aggregateKey_eq_some.mp hkey).2.1
    rw [hcriterion] at hmetric
    exact (hlabelled item hitem kind hkind hmetric).1

/-! ### A lint criterion -/

/-- The metric is not built in, so it accepts benchmarks, and `A2.40` binds it to them. -/
def lintPayload : ManualCasePayload :=
  checkoutPayload [⟨"lint_command_result", .minimize, 0, "seconds", 1⟩]

/-- Both commands were run: lint passed, and the benchmark has one round. -/
def lintAndBenchmark (plan : List CollectorBinding) : BranchInputs where
  caseId := "case"
  plan := plan
  commands := [⟨"lint", .lint⟩, ⟨"benchmark", .benchmark⟩]
  workerJobIds := ["case:A2.50:lint", "case:A2.50:benchmark"]
  workerResult jobId :=
    if jobId = "case:A2.50:lint" then some { rawRef := "lint-output", exitCode := some 0 }
    else some { rawRef := "benchmark-output", exitCode := some 0
                benchmarkRounds := [⟨1 / 2, "seconds"⟩] }
  now := 0
  dimensions := [("environment_id", "ci"), ("workload_id", "checkout")]

def lintBinding : CollectorBinding where
  requirementId := "evidence-lint-command-result"
  sourceType := "benchmark"
  metricId := some "lint_command_result"
  canonicalUnit := some "seconds"
  executionNode := ⟨.A2, 62⟩

/-- The round of the benchmark becomes the baseline of the lint criterion. -/
theorem round_is_labelled_lint :
    ∃ request, freezeRequest asciiData readyAnswers lintPayload = some request ∧
      ¬ Attributed (lintAndBenchmark (collectorPlan request)) := by
  have hplan : ((freezeRequest asciiData readyAnswers lintPayload).map collectorPlan).any
      (·.contains lintBinding) = true := by decide +kernel
  obtain ⟨plan, hplan, hmem⟩ := (Option.any_eq_true _ _).mp hplan
  obtain ⟨request, hrequest, rfl⟩ := Option.map_eq_some_iff.mp hplan
  refine ⟨request, hrequest, fun hattributed => ?_⟩
  have hconsulted : lintBinding ∈
      (lintAndBenchmark (collectorPlan request)).consulted .benchmark := by
    exact List.mem_filter.mpr ⟨List.contains_iff_mem.mp hmem, by decide⟩
  have hresult : ((lintAndBenchmark (collectorPlan request)).commandOutput
      .benchmark).toOption.isSome = true := rfl
  exact absurd (labelsOwnCommand_of_attributed hattributed .benchmark (by decide) hresult
    lintBinding hconsulted .lint (by decide) rfl) (by decide)

end ProductionOptimizer.EvidenceGate
