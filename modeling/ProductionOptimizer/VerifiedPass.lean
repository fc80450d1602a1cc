import ProductionOptimizer.FreshTrails
import ProductionOptimizer.LoopBounds

/-!
# The verification report of a pass

`S04.10` empties the lists, `S04.30` to `S04.50` append what the workers report, `S04.70`
attributes the failures and `S04.80` judges them. `S04.90` judges once more and seals. The
trail of the pass carries the lists along, so the report is about this pass and nothing else.
-/

namespace ProductionOptimizer
open Runs NumberedLog
set_option autoImplicit false

/-! ### The workers of the checks -/

/-- A command of the manifest with the kind it is listed under. -/
structure ListedCommand where
  commandId : String
  argv : List String
  kind : CommandKind
  deriving DecidableEq

/-- The workers behind one node: which jobs are accepted, and what a command has reported when
the wait is over (the command id of the payload and the exit code), `none` for a timeout. -/
structure WorkerBroker where
  accepts : CommandKind → Bool
  report : ListedCommand → Option (String × Int)

/-- `_find_command`: the first listed command of the kind. -/
def findCommand (commands : List ListedCommand) (kind : CommandKind) : Option ListedCommand :=
  commands.find? (·.kind == kind)

/-- `_run_one_check`. A worker that finds no command raises. -/
def runOneCheck (broker : WorkerBroker) (commands : List ListedCommand) (kind : CommandKind) :
    Except Failure CheckResult :=
  if !broker.accepts kind then .ok ⟨kind.name, kind, -1, false⟩
  else
    match findCommand commands kind with
    | none => .error .workerFailed
    | some command =>
      match broker.report command with
      | none => .ok ⟨kind.name, kind, -1, false⟩
      | some (commandId, code) => .ok ⟨commandId, kind, code, code == 0⟩

/-- The first listed command of the kind was run and has exited with zero. -/
def ExitsZero (broker : WorkerBroker) (commands : List ListedCommand) (kind : CommandKind) :
    Prop :=
  ∃ command commandId, findCommand commands kind = some command ∧
    broker.accepts kind = true ∧ broker.report command = some (commandId, 0)

theorem passed_iff_exitsZero {broker : WorkerBroker} {commands : List ListedCommand}
    {kind : CommandKind} {result : CheckResult}
    (h : runOneCheck broker commands kind = .ok result) :
    result.passed = true ↔ ExitsZero broker commands kind := by
  unfold runOneCheck at h
  unfold ExitsZero
  cases haccepts : broker.accepts kind with
  | false =>
    rw [haccepts] at h
    cases h
    simp
  | true =>
    rw [haccepts] at h
    cases hfind : findCommand commands kind with
    | none =>
      rw [hfind] at h
      cases h
    | some command =>
      rw [hfind] at h
      cases hreport : broker.report command with
      | none =>
        simp only [hreport] at h
        cases h
        simp [hreport]
      | some payload =>
        simp only [hreport] at h
        cases h
        obtain ⟨commandId, code⟩ := payload
        simp [hreport]

theorem findCommand_isSome {commands : List ListedCommand} {kind : CommandKind}
    (h : kind ∈ commands.map (·.kind)) : ∃ command, findCommand commands kind = some command ∧
      command.kind = kind := by
  obtain ⟨listed, hmem, rfl⟩ := List.mem_map.mp h
  have hsome : (findCommand commands listed.kind).isSome :=
    List.find?_isSome.mpr ⟨listed, hmem, beq_self_eq_true _⟩
  obtain ⟨command, hfind⟩ := Option.isSome_iff_exists.mp hsome
  have hkind := List.find?_some (p := fun c : ListedCommand => c.kind == listed.kind) hfind
  exact ⟨command, hfind, beq_iff_eq.mp hkind⟩

@[simp] theorem runCheck_kind (a : Answers) (kind : CommandKind) :
    (runCheck a kind).kind = kind := by
  unfold runCheck
  split <;> rfl

/-- The workers that the answers of a node stand for. -/
def brokerOf (a : Answers) : WorkerBroker where
  accepts _ := true
  report command := (a.checkExitCode command.kind).map (a.checkCommandId command.kind, ·)

theorem runOneCheck_brokerOf (a : Answers) {commands : List ListedCommand} {kind : CommandKind}
    (h : kind ∈ commands.map (·.kind)) :
    runOneCheck (brokerOf a) commands kind = .ok (runCheck a kind) := by
  obtain ⟨command, hfind, rfl⟩ := findCommand_isSome h
  unfold runOneCheck runCheck brokerOf
  cases hcode : a.checkExitCode command.kind with
  | none => simp [hfind, hcode]
  | some code => simp [hfind, hcode]

/-- The answers that stand for given workers. -/
def answersOf (broker : WorkerBroker) (commands : List ListedCommand) (a : Answers) : Answers :=
  let payload kind :=
    if broker.accepts kind then (findCommand commands kind).bind broker.report else none
  { a with
    checkExitCode := fun kind => (payload kind).map (·.2)
    checkCommandId := fun kind => ((payload kind).map (·.1)).getD kind.name }

/-- Whatever the workers do, there are answers with which a node computes their results. -/
theorem runCheck_answersOf (broker : WorkerBroker) (a : Answers) {commands : List ListedCommand}
    {kind : CommandKind} (h : kind ∈ commands.map (·.kind)) :
    runOneCheck broker commands kind = .ok (runCheck (answersOf broker commands a) kind) := by
  obtain ⟨command, hfind, rfl⟩ := findCommand_isSome h
  unfold runOneCheck runCheck answersOf
  cases haccepts : broker.accepts command.kind with
  | false => simp [haccepts]
  | true =>
    cases hreport : broker.report command with
    | none => simp [haccepts, hfind, hreport]
    | some payload => simp [haccepts, hfind, hreport]

/-! ### The checks of one pass -/

/-- The kinds that `S04.20` resolves. -/
def resolvedKinds (manifest : RepositoryManifest) : List CommandKind :=
  (manifest.commands.dedup.filter (· != .benchmark)).insertionSort fun x y => x.name ≤ y.name

theorem mem_resolvedKinds {manifest : RepositoryManifest} {kind : CommandKind} :
    kind ∈ resolvedKinds manifest ↔ kind ∈ manifest.commands ∧ kind ≠ .benchmark := by
  unfold resolvedKinds
  rw [List.mem_insertionSort, List.mem_filter, List.mem_dedup]
  simp

/-- The kinds that `S04.30`, `S04.40` and `S04.50` run. -/
def checkCandidates : Nat → List CommandKind
  | 30 => staticKinds
  | 40 => [.unit]
  | 50 => [.integration, .security]
  | _ => []

/-- The node that runs a kind. -/
def checkNumber : CommandKind → Nat
  | .build | .lint | .type => 30
  | .unit => 40
  | .integration | .security => 50
  | .benchmark => 0

/-- One pass of S04: the manifest it resolved, and the answers that its check nodes had. -/
structure VerifiedPass where
  manifest : RepositoryManifest
  workers : Nat → Answers

namespace VerifiedPass
variable (p : VerifiedPass)

def kinds : List CommandKind := resolvedKinds p.manifest

/-- What the node with this number appends. -/
def resultsOf (number : Nat) : List CheckResult :=
  ((checkCandidates number).filter (p.kinds.contains ·)).map (runCheck (p.workers number))

/-- The results in the state where the node with this number runs. -/
def upTo : Nat → List CheckResult
  | 10 | 20 | 30 => []
  | 40 => p.resultsOf 30
  | 50 => p.resultsOf 30 ++ p.resultsOf 40
  | _ => p.resultsOf 30 ++ p.resultsOf 40 ++ p.resultsOf 50

def results : List CheckResult := p.resultsOf 30 ++ p.resultsOf 40 ++ p.resultsOf 50

theorem upTo_succ {number : Nat} (h : number ∈ [30, 40, 50]) :
    p.upTo (number + 10) = p.upTo number ++ p.resultsOf number := by
  simp only [List.mem_cons, List.not_mem_nil, or_false] at h
  rcases h with rfl | rfl | rfl <;> rfl

/-- The pass with the answers of one more node. -/
def answered (number : Nat) (a : Answers) : VerifiedPass :=
  { p with workers := Function.update p.workers number a }

theorem resultsOf_answered_self (number : Nat) (a : Answers) :
    (p.answered number a).resultsOf number =
      ((checkCandidates number).filter (p.kinds.contains ·)).map (runCheck a) := by
  have hworkers : (p.answered number a).workers number = a := Function.update_self _ _ _
  unfold resultsOf
  rw [hworkers]
  rfl

theorem resultsOf_answered_ne {number k : Nat} (a : Answers) (h : k ≠ number) :
    (p.answered number a).resultsOf k = p.resultsOf k := by
  have hworkers : (p.answered number a).workers k = p.workers k := Function.update_of_ne h _ _
  unfold resultsOf
  rw [hworkers]
  rfl

/-- The answers of a node do not change what it finds. -/
theorem upTo_answered {number k : Nat} (a : Answers) (hk : k ∈ [30, 40, 50])
    (hle : k ≤ number) : (p.answered number a).upTo k = p.upTo k := by
  simp only [List.mem_cons, List.not_mem_nil, or_false] at hk
  rcases hk with rfl | rfl | rfl
  · rfl
  · exact p.resultsOf_answered_ne a (by omega)
  · have h30 := p.resultsOf_answered_ne a (show 30 ≠ number by omega)
    have h40 := p.resultsOf_answered_ne a (show 40 ≠ number by omega)
    exact congrArg₂ (· ++ ·) h30 h40

variable {p}

theorem map_kind_resultsOf (number : Nat) : (p.resultsOf number).map (·.kind) =
    (checkCandidates number).filter (p.kinds.contains ·) := by
  have hid : (fun result : CheckResult => result.kind) ∘ runCheck (p.workers number) = id := by
    funext kind
    exact runCheck_kind _ kind
  unfold resultsOf
  rw [List.map_map, hid, List.map_id]

theorem map_kind_results : p.results.map (·.kind) =
    [CommandKind.build, .lint, .type, .unit, .integration, .security].filter
      (p.kinds.contains ·) := by
  unfold results
  rw [List.map_append, List.map_append, map_kind_resultsOf, map_kind_resultsOf,
    map_kind_resultsOf, ← List.filter_append, ← List.filter_append]
  rfl

theorem nodup_kinds_results : (p.results.map (·.kind)).Nodup := by
  rw [map_kind_results]
  exact List.Nodup.filter _ (by decide)

theorem mem_map_kind_results {kind : CommandKind} :
    kind ∈ p.results.map (·.kind) ↔ kind ∈ p.kinds := by
  rw [map_kind_results, List.mem_filter]
  constructor
  · rintro ⟨-, h⟩
    simpa using h
  · intro h
    have hbenchmark : kind ≠ .benchmark := (mem_resolvedKinds.mp h).2
    refine ⟨?_, by simpa using h⟩
    cases kind with
    | benchmark => exact absurd rfl hbenchmark
    | _ => decide

theorem results_eq_runCheck {result : CheckResult} (h : result ∈ p.results) :
    result = runCheck (p.workers (checkNumber result.kind)) result.kind := by
  have hnode : ∀ number ∈ [30, 40, 50], result ∈ p.resultsOf number →
      result = runCheck (p.workers (checkNumber result.kind)) result.kind := by
    intro number hnumber hmem
    have hkind := List.mem_map_of_mem (f := (·.kind)) hmem
    rw [map_kind_resultsOf] at hkind
    have hcandidate := List.mem_of_mem_filter hkind
    have hown : checkNumber result.kind = number := by
      generalize result.kind = kind at hcandidate
      simp only [List.mem_cons, List.not_mem_nil, or_false] at hnumber
      rcases hnumber with rfl | rfl | rfl <;> cases kind <;> revert hcandidate <;> decide
    obtain ⟨kind, -, rfl⟩ := List.mem_map.mp hmem
    rw [hown, runCheck_kind]
  unfold results at h
  rcases List.mem_append.mp h with h | h
  · rcases List.mem_append.mp h with h | h
    · exact hnode 30 (by decide) h
    · exact hnode 40 (by decide) h
  · exact hnode 50 (by decide) h

end VerifiedPass

/-! ### The trail of a pass -/

/-- The baseline holds a failing result of the kind's command. -/
def FailedInBaseline (s : OptimizationState) (kind : CommandKind) : Prop :=
  ∃ baseline, readBaselineIfAny s = .ok (some baseline) ∧
    ∃ aggregate ∈ baseline.aggregates, aggregate.metricId = kind.metricId ∧ aggregate.mean ≠ 0

/-- One attribution for each failed result, against the baseline. -/
structure Attributes (s : OptimizationState) (results : List CheckResult)
    (attributions : List FailureAttribution) : Prop where
  kinds : attributions.map (·.checkKind) = (results.filter (!·.passed)).map (·.kind)
  classified : ∀ attribution ∈ attributions,
    attribution.classification = .baselineExistingFailure ↔
      FailedInBaseline s attribution.checkKind

namespace VerifiedPass

/-- The intents of the nodes before `number` hold the results of this pass. -/
structure Recorded (p : VerifiedPass) (number pass : Nat) (c : Config) : Prop where
  manifest : c.state.readManifest = .ok p.manifest
  intents : ∀ k ∈ [30, 40, 50], k < number → ∃ execution,
    c.ledger.cached (passKey ⟨.S04, k⟩ pass c.state) = some execution ∧
      execution.updates = [.s04CheckResults (p.upTo (k + 10))]

/-- What `S04.<number>` finds in a pass whose manifest was resolved. -/
structure Holds (p : VerifiedPass) (number : Nat) (c : Config) : Prop where
  recorded : p.Recorded number c.state.s03RevisionAttempts c
  kinds : (verificationState c.state).resolvedKinds = p.kinds
  results : c.state.s04CheckResults = p.upTo number
  attributions : 80 ≤ number →
    Attributes c.state c.state.s04CheckResults c.state.s04FailureAttributions
  gate : number = 90 →
    (verificationState c.state).gatePassed = some (checksPassed c.state.s04CheckResults)

def Found (number : Nat) (c : Config) : Prop :=
  if number = 10 then True
  else if number = 20 then c.state.s04CheckResults = []
  else ∃ p : VerifiedPass, p.Holds number c

/-- `S04.10` is the one node that may stop the pass. -/
def Leads (number : Nat) (execution : NodeExecution) : Prop :=
  number = 10 → execution.route = .continue_

end VerifiedPass

theorem artifactRefs_of_types {n : NodeId} {execution : NodeExecution} {s s' : OptimizationState}
    {fields : List Field} (h : Committed n execution s s') (hw : WritesOnly fields [] execution) :
    s'.artifactRefs = s.artifactRefs := by
  obtain ⟨new, hout, hnew, _⟩ := mergeArtifactRefs_ok h.artifactRefs
  have hnil : new = [] := by
    apply List.eq_nil_iff_forall_not_mem.mpr
    intro ref href
    exact absurd (hw.type_mem (hnew ref href)) List.not_mem_nil
  rw [hout, hnil, List.append_nil]

theorem FailedInBaseline.congr {s s' : OptimizationState} (h : s'.artifactRefs = s.artifactRefs)
    (kind : CommandKind) : FailedInBaseline s' kind ↔ FailedInBaseline s kind := by
  have hread : readBaselineIfAny s' = readBaselineIfAny s := by
    unfold readBaselineIfAny OptimizationState.readBaseline OptimizationState.requireRef
      OptimizationState.tryRef
    rw [h]
  unfold FailedInBaseline
  rw [hread]

theorem Attributes.congr {s s' : OptimizationState} {results : List CheckResult}
    {attributions : List FailureAttribution} (hattr : Attributes s results attributions)
    (h : s'.artifactRefs = s.artifactRefs) : Attributes s' results attributions where
  kinds := hattr.kinds
  classified attribution hmem :=
    (hattr.classified attribution hmem).trans (FailedInBaseline.congr h _).symm

/-- What `S04.70` records. -/
theorem attributes_of_handler {a : Answers} {s : OptimizationState} {execution : NodeExecution}
    (h : handleS0470 a s = .ok execution) :
    ∃ attributions, execution.updates = [.s04FailureAttributions attributions] ∧
      Attributes s s.s04CheckResults attributions := by
  unfold handleS0470 at h
  dsimp only at h
  split at h
  · rename_i hempty
    cases h
    refine ⟨[], rfl, ?_, by simp⟩
    rw [List.isEmpty_iff.mp hempty]
    rfl
  · obtain ⟨baseline, hbaseline, h⟩ := except_bind_ok h
    cases h
    refine ⟨_, rfl, ?_, ?_⟩
    · rw [List.map_map]
      rfl
    · rw [List.forall_mem_map]
      intro result _
      unfold FailedInBaseline
      cases baseline with
      | none =>
        simp [hbaseline]
      | some baseline =>
        simp [hbaseline, failsInBaseline]

section Carry
variable {c c' : Config} {visit : Visit} {p : VerifiedPass}

namespace VerifiedPass

theorem Recorded.step {number pass : Nat} (hr : p.Recorded number pass c)
    (h : SharedSpec c visit c') : p.Recorded number pass c' where
  manifest := h.committed.readManifest_of_ok hr.manifest
  intents k hk hlt := by
    obtain ⟨execution, hcached, hupdates⟩ := hr.intents k hk hlt
    rw [h.passKey]
    exact ⟨execution, h.cached_mono _ _ hcached, hupdates⟩

/-- A node that runs no check adds no intent to the record. -/
theorem Recorded.next {number pass : Nat} (hr : p.Recorded number pass c)
    (hnumber : number ∉ [30, 40, 50]) (hround : number % 10 = 0) :
    p.Recorded (number + 10) pass c where
  manifest := hr.manifest
  intents k hk hlt := by
    refine hr.intents k hk ?_
    have hne : k ≠ number := by
      rintro rfl
      exact hnumber hk
    have hmod : k % 10 = 0 := by
      simp only [List.mem_cons, List.not_mem_nil, or_false] at hk
      rcases hk with rfl | rfl | rfl <;> rfl
    omega

/-- A check node records what it found and what its workers report. -/
theorem Recorded.check {number pass : Nat} {a : Answers} (hr : p.Recorded number pass c)
    (hnumber : number ∈ [30, 40, 50])
    (hcached : ∃ execution, c.ledger.cached (passKey ⟨.S04, number⟩ pass c.state) = some execution ∧
      execution.updates = [.s04CheckResults ((p.answered number a).upTo (number + 10))]) :
    (p.answered number a).Recorded (number + 10) pass c where
  manifest := hr.manifest
  intents k hk hlt := by
    by_cases hself : k = number
    · rw [hself]
      exact hcached
    · have hbefore : k < number := by
        simp only [List.mem_cons, List.not_mem_nil, or_false] at hk hnumber
        omega
      obtain ⟨execution, hintent, hupdates⟩ := hr.intents k hk hbefore
      refine ⟨execution, hintent, ?_⟩
      rw [hupdates, upTo_succ _ hk, upTo_succ _ hk, p.upTo_answered a hk hbefore.le,
        p.resultsOf_answered_ne a hself]

end VerifiedPass

theorem s04_scope {number : Nat} (hnumber : number ∈ [10, 20, 30, 40, 50, 60, 70, 80]) :
    .s03RevisionAttempts ∉ nodeFields ⟨.S04, number⟩ ∧ nodeTypes ⟨.S04, number⟩ = [] := by
  simp only [List.mem_cons, List.not_mem_nil, or_false] at hnumber
  rcases hnumber with rfl | rfl | rfl | rfl | rfl | rfl | rfl | rfl <;> decide

/-- The pass and the artifacts stay as they are up to `S04.90`. -/
structure SameInputs (c c' : Config) : Prop where
  pass : c'.state.s03RevisionAttempts = c.state.s03RevisionAttempts
  refs : c'.state.artifactRefs = c.state.artifactRefs

theorem sameInputs {number : Nat} (hnumber : number ∈ [10, 20, 30, 40, 50, 60, 70, 80])
    (h : SharedSpec c visit c') (hnode : visit.node = ⟨.S04, number⟩) : SameInputs c c' where
  pass := h.get (f := .s03RevisionAttempts) (hnode ▸ (s04_scope hnumber).1)
  refs := by
    have hwrites := h.writes
    rw [hnode, (s04_scope hnumber).2] at hwrites
    exact artifactRefs_of_types h.committed hwrites

theorem verified_20 {a : Answers} (h : SharedSpec c visit c')
    (hok : handleS0410 a c.state = .ok visit.execution) : VerifiedPass.Found 20 c' := by
  obtain ⟨planRef, _, hok⟩ := except_bind_ok hok
  obtain ⟨patchRef, _, hok⟩ := except_bind_ok hok
  have hresults := h.committed.get .s04CheckResults
  rw [← Except.ok.inj hok] at hresults
  exact hresults

theorem verified_30 {a : Answers} (h : SharedSpec c visit c') (hnode : visit.node = ⟨.S04, 20⟩)
    (hok : handleS0420 a c.state = .ok visit.execution) (hf : VerifiedPass.Found 20 c) :
    VerifiedPass.Found 30 c' := by
  obtain ⟨manifest, hmanifest, hok⟩ := except_bind_ok hok
  have hresults : c'.state.s04CheckResults = c.state.s04CheckResults :=
    h.get (f := .s04CheckResults) (by rw [hnode]; decide)
  have hstate := h.committed.get .s04Manifest
  rw [← Except.ok.inj hok] at hstate
  refine ⟨⟨manifest, fun _ => a⟩, ⟨h.committed.readManifest_of_ok hmanifest, ?_⟩, ?_, ?_, ?_, ?_⟩
  · intro k hk hlt
    simp only [List.mem_cons, List.not_mem_nil, or_false] at hk
    omega
  · unfold verificationState
    rw [show c'.state.s04Manifest = _ from hstate]
    rfl
  · exact hresults.trans hf
  · intro hle
    omega
  · intro heq
    omega

/-- `S04.30`, `S04.40` and `S04.50`. -/
theorem verified_check {a : Answers} {number : Nat} (hnumber : number ∈ [30, 40, 50])
    (h : SharedSpec c visit c') (hnode : visit.node = ⟨.S04, number⟩) (hin : SameInputs c c')
    (hok : checkNode (checkCandidates number) a c.state = .ok visit.execution)
    (hf : p.Holds number c) : (p.answered number a).Holds (number + 10) c' := by
  obtain ⟨results, hresults, hok⟩ := except_bind_ok hok
  have hnew : results = (p.answered number a).resultsOf number := by
    rw [p.resultsOf_answered_self]
    rw [hf.kinds] at hresults
    unfold runChecks at hresults
    split at hresults
    · rename_i hempty
      cases hresults
      rw [List.isEmpty_iff.mp hempty]
      rfl
    · obtain ⟨_, _, hresults⟩ := except_bind_ok hresults
      obtain ⟨_, _, hresults⟩ := except_bind_ok hresults
      cases hresults
      rfl
  have hfound : c.state.s04CheckResults ++ results = (p.answered number a).upTo (number + 10) := by
    rw [VerifiedPass.upTo_succ _ hnumber, p.upTo_answered a hnumber le_rfl, ← hf.results, hnew]
  have hupdates : visit.execution.updates =
      [.s04CheckResults ((p.answered number a).upTo (number + 10))] := by
    rw [← hfound, ← Except.ok.inj hok]
  have hstate := h.committed.get .s04CheckResults
  rw [hupdates] at hstate
  have hmanifest : c'.state.s04Manifest = c.state.s04Manifest := by
    refine h.get (f := .s04Manifest) ?_
    rw [hnode]
    simp only [List.mem_cons, List.not_mem_nil, or_false] at hnumber
    rcases hnumber with rfl | rfl | rfl <;> decide
  have hsmall : number ≤ 50 := by
    simp only [List.mem_cons, List.not_mem_nil, or_false] at hnumber
    omega
  refine ⟨?_, ?_, hstate, fun hle => ?_, fun heq => ?_⟩
  · rw [hin.pass]
    refine (hf.recorded.step h).check hnumber ⟨visit.execution, ?_, hupdates⟩
    have hrecorded := h.recorded
    rw [h.key, hnode] at hrecorded
    rw [h.passKey]
    exact hrecorded
  · unfold verificationState
    rw [hmanifest]
    exact hf.kinds
  · omega
  · omega

/-- `S04.60`, `S04.70` and `S04.80` leave the results alone. -/
theorem verified_next {number : Nat} (hnumber : number ∈ [60, 70, 80]) (h : SharedSpec c visit c')
    (hnode : visit.node = ⟨.S04, number⟩) (hin : SameInputs c c')
    (hkinds : (verificationState c'.state).resolvedKinds =
      (verificationState c.state).resolvedKinds)
    (hattr : 80 ≤ number + 10 →
      Attributes c'.state c'.state.s04CheckResults c'.state.s04FailureAttributions)
    (hgate : number + 10 = 90 →
      (verificationState c'.state).gatePassed = some (checksPassed c'.state.s04CheckResults))
    (hf : p.Holds number c) : p.Holds (number + 10) c' := by
  have hresults : c'.state.s04CheckResults = c.state.s04CheckResults := by
    refine h.get (f := .s04CheckResults) ?_
    rw [hnode]
    simp only [List.mem_cons, List.not_mem_nil, or_false] at hnumber
    rcases hnumber with rfl | rfl | rfl <;> decide
  refine ⟨?_, hkinds.trans hf.kinds, ?_, hattr, hgate⟩
  · rw [hin.pass]
    refine (hf.recorded.step h).next ?_ ?_
    · simp only [List.mem_cons, List.not_mem_nil, or_false] at hnumber ⊢
      omega
    · simp only [List.mem_cons, List.not_mem_nil, or_false] at hnumber
      rcases hnumber with rfl | rfl | rfl <;> rfl
  · rw [hresults, hf.results]
    simp only [List.mem_cons, List.not_mem_nil, or_false] at hnumber
    rcases hnumber with rfl | rfl | rfl <;> rfl

theorem verified_70 {a : Answers} (h : SharedSpec c visit c') (hnode : visit.node = ⟨.S04, 60⟩)
    (hin : SameInputs c c') (hok : handleS0460 a c.state = .ok visit.execution)
    (hf : p.Holds 60 c) : p.Holds 70 c' := by
  obtain ⟨patchRef, _, hok⟩ := except_bind_ok hok
  obtain ⟨patch, _, hok⟩ := except_bind_ok hok
  obtain ⟨manifest, _, hok⟩ := except_bind_ok hok
  have hstate := h.committed.get .s04Manifest
  rw [← Except.ok.inj hok] at hstate
  refine verified_next (by decide) h hnode hin ?_ (fun hle => absurd hle (by decide))
    (fun heq => absurd heq (by decide)) hf
  unfold verificationState
  rw [show c'.state.s04Manifest = _ from hstate]
  rfl

theorem verified_80 {a : Answers} (h : SharedSpec c visit c') (hnode : visit.node = ⟨.S04, 70⟩)
    (hin : SameInputs c c') (hok : handleS0470 a c.state = .ok visit.execution)
    (hf : p.Holds 70 c) : p.Holds 80 c' := by
  obtain ⟨attributions, hupdates, hattr⟩ := attributes_of_handler hok
  have hstate := h.committed.get .s04FailureAttributions
  rw [hupdates] at hstate
  have hresults : c'.state.s04CheckResults = c.state.s04CheckResults :=
    h.get (f := .s04CheckResults) (by rw [hnode]; decide)
  have hmanifest : c'.state.s04Manifest = c.state.s04Manifest :=
    h.get (f := .s04Manifest) (by rw [hnode]; decide)
  refine verified_next (by decide) h hnode hin ?_ ?_ (fun heq => absurd heq (by decide)) hf
  · unfold verificationState
    rw [hmanifest]
  · intro _
    rw [show c'.state.s04FailureAttributions = attributions from hstate, hresults]
    exact hattr.congr hin.refs

theorem verified_90 {a : Answers} (h : SharedSpec c visit c') (hnode : visit.node = ⟨.S04, 80⟩)
    (hin : SameInputs c c') (hok : handleS0480 a c.state = .ok visit.execution)
    (hf : p.Holds 80 c) : p.Holds 90 c' := by
  have hstate := h.committed.get .s04Manifest
  rw [← Except.ok.inj hok] at hstate
  have hresults : c'.state.s04CheckResults = c.state.s04CheckResults :=
    h.get (f := .s04CheckResults) (by rw [hnode]; decide)
  have hsame : c'.state.s04FailureAttributions = c.state.s04FailureAttributions :=
    h.get (f := .s04FailureAttributions) (by rw [hnode]; decide)
  have hverification : verificationState c'.state =
      { verificationState c.state with
        gatePassed := some (checksPassed c.state.s04CheckResults) } := by
    rw [verificationState, show c'.state.s04Manifest = _ from hstate]
    rfl
  refine verified_next (by decide) h hnode hin ?_ ?_ ?_ hf
  · rw [hverification]
  · intro _
    rw [hsame, hresults]
    exact (hf.attributions le_rfl).congr hin.refs
  · intro _
    rw [hverification, hresults]

/-- One fresh execution of `S04.10` to `S04.80` carries the trail on. -/
theorem verified_step {a : Answers} {number : Nat}
    (hnumber : number ∈ [10, 20, 30, 40, 50, 60, 70, 80]) (h : SharedSpec c visit c')
    (hnode : visit.node = ⟨.S04, number⟩)
    (hok : nodeHandler ⟨.S04, number⟩ a c.state = .ok visit.execution)
    (hf : VerifiedPass.Found number c) : VerifiedPass.Found (number + 10) c' := by
  have hin := sameInputs hnumber h hnode
  simp only [List.mem_cons, List.not_mem_nil, or_false] at hnumber
  rcases hnumber with rfl | rfl | rfl | rfl | rfl | rfl | rfl | rfl
  · exact verified_20 (a := a) h hok
  · exact verified_30 (a := a) h hnode hok hf
  · obtain ⟨p, hf⟩ := hf
    exact ⟨_, verified_check (by decide) h hnode hin hok hf⟩
  · obtain ⟨p, hf⟩ := hf
    exact ⟨_, verified_check (by decide) h hnode hin hok hf⟩
  · obtain ⟨p, hf⟩ := hf
    exact ⟨_, verified_check (by decide) h hnode hin hok hf⟩
  · obtain ⟨p, hf⟩ := hf
    exact ⟨p, verified_70 (a := a) h hnode hin hok hf⟩
  · obtain ⟨p, hf⟩ := hf
    exact ⟨p, verified_80 (a := a) h hnode hin hok hf⟩
  · obtain ⟨p, hf⟩ := hf
    exact ⟨p, verified_90 (a := a) h hnode hin hok hf⟩

end Carry

/-! ### Runs -/

/-- No pass of S04 has begun. -/
structure BeforeVerification (c : Config) : Prop where
  writes : WritesSound c.ledger
  intents : ∀ key execution, c.ledger.cached key = some execution → key.node.stage ≠ .S04
  position : ∀ n, c.position = some n → n.stage = .S04 → n = firstNode .S04
  routes : FilledAt Prod.mk c.state.nodeRoutes ⟨.S04, 10⟩

structure VerificationInv (c : Config) : Prop where
  writes : WritesSound c.ledger
  handed : ∀ number ∈ [10, 20, 30, 40, 50, 60, 70, 80],
    Handed (VerifiedPass.Leads number) ⟨.S04, number⟩ ⟨.S04, number + 10⟩ c
  trails : ∀ number ∈ [10, 20, 30, 40, 50, 60, 70, 80, 90],
    Trail ⟨.S04, number⟩ (VerifiedPass.Found number) c
  routes : FilledAt Prod.mk c.state.nodeRoutes ⟨.S04, 10⟩

theorem verified_10 (c : Config) : VerifiedPass.Found 10 c := trivial

theorem BeforeVerification.verificationInv {c : Config} (h : BeforeVerification c) :
    VerificationInv c where
  writes := h.writes
  handed number _ := handed_of_uncached fun key execution hcached hnode =>
    h.intents key execution hcached (by rw [hnode])
  trails number hnumber := by
    intro hpos _
    have hfirst := congrArg NodeId.number (h.position _ hpos rfl)
    simp only [firstNode] at hfirst
    subst hfirst
    exact verified_10 c
  routes := h.routes

theorem s04_link {number : Nat} (h : number ∈ [10, 20, 30, 40, 50, 60, 70, 80]) :
    Link ⟨.S04, number⟩ ⟨.S04, number + 10⟩ := by
  refine link_of_consecutive ?_ (by decide) (s04_scope h).1
  simp only [List.mem_cons, List.not_mem_nil, or_false] at h
  omega

theorem s04_next {number : Nat} (h : number ∈ [10, 20, 30, 40, 50, 60, 70, 80])
    {s : OptimizationState} (hroute : number = 10 → s.routeFor ⟨.S04, 10⟩ = .continue_) :
    nextPosition ⟨.S04, number⟩ s = some ⟨.S04, number + 10⟩ := by
  simp only [List.mem_cons, List.not_mem_nil, or_false] at h
  rcases h with rfl | rfl | rfl | rfl | rfl | rfl | rfl | rfl
  · unfold nextPosition
    rw [hroute rfl]
    rfl
  all_goals rfl

theorem VerificationInv.step {c c' : Config} {visit : Visit} (hinv : VerificationInv c)
    (h : SharedSpec c visit c') : VerificationInv c' where
  writes := h.writesSound hinv.writes
  handed number hnumber :=
    (hinv.handed number hnumber).step (s04_link hnumber) h fun hnode hlead => by
      rw [h.next, hnode]
      refine s04_next hnumber ?_
      rintro rfl
      rw [← hlead rfl]
      exact (hnode ▸ h.committed).routeFor_self hinv.routes
  trails number hnumber := by
    rcases List.mem_cons.mp hnumber with rfl | hnumber
    · exact fun _ _ => verified_10 c'
    · obtain ⟨before, hbefore, rfl⟩ :
          ∃ before ∈ [10, 20, 30, 40, 50, 60, 70, 80], number = before + 10 := by
        refine ⟨number - 10, ?_, ?_⟩
        all_goals
          simp only [List.mem_cons, List.not_mem_nil, or_false] at hnumber ⊢
          omega
      have hmem : before ∈ [10, 20, 30, 40, 50, 60, 70, 80, 90] := List.mem_append_left [90] hbefore
      refine (hinv.trails before hmem).step (s04_link hbefore) (hinv.handed before hbefore) h ?_
        fun a hnode hok _ hf => verified_step hbefore h hnode hok hf
      rintro hnode hpos rfl
      rw [h.next, hnode] at hpos
      rw [← route_of_nextPosition (by decide) (by decide) (by decide) hpos]
      exact ((hnode ▸ h.committed).routeFor_self hinv.routes).symm
  routes := h.committed.filledAt hinv.routes

/-! ### What the report says -/

/-- The check nodes of the pass have recorded exactly these workers' results. -/
def RanInPass (commands : List ListedCommand) (brokers : Nat → WorkerBroker)
    (kinds : List CommandKind) (c : Config) : Prop :=
  ∀ number ∈ [30, 40, 50], ∃ execution found results,
    c.ledger.cached (passKey ⟨.S04, number⟩ c.state.s03RevisionAttempts c.state) =
      some execution ∧
    execution.updates = [.s04CheckResults (found ++ results)] ∧
    results.map (·.kind) = (checkCandidates number).filter (kinds.contains ·) ∧
    ∀ result ∈ results, runOneCheck (brokers number) commands result.kind = .ok result

/-- The report is about the workers' results of this pass. -/
structure IsPassReport (commands : List ListedCommand) (brokers : Nat → WorkerBroker)
    (kinds : List CommandKind) (s : OptimizationState) (results : List CheckResult)
    (attributions : List FailureAttribution) (passed : Bool) : Prop where
  nodup : (results.map (·.kind)).Nodup
  resolved : kinds ≠ [] → ∀ kind, kind ∈ results.map (·.kind) ↔ kind ∈ kinds
  executed : kinds ≠ [] → ∀ result ∈ results,
    runOneCheck (brokers (checkNumber result.kind)) commands result.kind = .ok result
  unresolved : kinds = [] → results = [noChecksResolved]
  gate : (verificationState s).gatePassed = some passed
  passed_iff : passed = true ↔ (∃ kind ∈ kinds, kind ∈ mandatoryKinds) ∧
    ∀ kind ∈ kinds, ExitsZero (brokers (checkNumber kind)) commands kind
  attributed : attributions.map (·.checkKind) =
    (results.filter fun result => kinds.contains result.kind && !result.passed).map (·.kind)
  classified : ∀ attribution ∈ attributions,
    attribution.classification = .baselineExistingFailure ↔
      FailedInBaseline s attribution.checkKind

namespace VerifiedPass
variable {p : VerifiedPass} {commands : List ListedCommand}

def brokers (p : VerifiedPass) (number : Nat) : WorkerBroker := brokerOf (p.workers number)

theorem listed_of_kinds (hcommands : p.manifest.commands = commands.map (·.kind))
    {kind : CommandKind} (h : kind ∈ p.kinds) : kind ∈ commands.map (·.kind) :=
  hcommands ▸ (mem_resolvedKinds.mp h).1

theorem kind_mem_kinds {result : CheckResult} (h : result ∈ p.results) : result.kind ∈ p.kinds :=
  mem_map_kind_results.mp (List.mem_map_of_mem h)

theorem executed_results (hcommands : p.manifest.commands = commands.map (·.kind))
    {result : CheckResult} (h : result ∈ p.results) :
    runOneCheck (p.brokers (checkNumber result.kind)) commands result.kind = .ok result := by
  have hrun := results_eq_runCheck h
  have hlisted := listed_of_kinds hcommands (kind_mem_kinds h)
  rw [brokers, runOneCheck_brokerOf _ hlisted, ← hrun]

theorem checksPassed_iff (hcommands : p.manifest.commands = commands.map (·.kind)) :
    checksPassed p.results = true ↔ (∃ kind ∈ p.kinds, kind ∈ mandatoryKinds) ∧
      ∀ kind ∈ p.kinds, ExitsZero (p.brokers (checkNumber kind)) commands kind := by
  have hpassed : ∀ result ∈ p.results, (result.passed = true ↔
      ExitsZero (p.brokers (checkNumber result.kind)) commands result.kind) :=
    fun result hmem => passed_iff_exitsZero (executed_results hcommands hmem)
  unfold checksPassed
  rw [Bool.and_eq_true, List.any_eq_true, List.all_eq_true]
  refine and_congr ⟨?_, ?_⟩ ⟨?_, ?_⟩
  · rintro ⟨result, hmem, hmandatory⟩
    exact ⟨result.kind, kind_mem_kinds hmem, by simpa using hmandatory⟩
  · rintro ⟨kind, hkind, hmandatory⟩
    obtain ⟨result, hmem, rfl⟩ := List.mem_map.mp (mem_map_kind_results.mpr hkind)
    exact ⟨result, hmem, by simpa using hmandatory⟩
  · intro hall kind hkind
    obtain ⟨result, hmem, rfl⟩ := List.mem_map.mp (mem_map_kind_results.mpr hkind)
    exact (hpassed result hmem).mp (hall result hmem)
  · intro hall result hmem
    exact (hpassed result hmem).mpr (hall result.kind (kind_mem_kinds hmem))

theorem results_eq_nil_iff : p.results = [] ↔ p.kinds = [] := by
  constructor
  · intro hnil
    apply List.eq_nil_iff_forall_not_mem.mpr
    intro kind hkind
    have hmem := mem_map_kind_results.mpr hkind
    rw [hnil] at hmem
    exact absurd hmem List.not_mem_nil
  · intro hnil
    apply List.eq_nil_iff_forall_not_mem.mpr
    intro result hmem
    have hkind := kind_mem_kinds hmem
    rw [hnil] at hkind
    exact absurd hkind List.not_mem_nil

theorem ranInPass {c : Config} (hr : p.Recorded 90 c.state.s03RevisionAttempts c)
    (hcommands : p.manifest.commands = commands.map (·.kind)) :
    RanInPass commands p.brokers p.kinds c := by
  intro number hnumber
  have hlt : number < 90 := by
    simp only [List.mem_cons, List.not_mem_nil, or_false] at hnumber
    omega
  obtain ⟨execution, hcached, hupdates⟩ := hr.intents number hnumber hlt
  rw [upTo_succ _ hnumber] at hupdates
  refine ⟨execution, _, _, hcached, hupdates, map_kind_resultsOf number, ?_⟩
  intro result hmem
  obtain ⟨kind, hkind, rfl⟩ := List.mem_map.mp hmem
  have hresolved : kind ∈ p.kinds := by
    have hcontains := (List.mem_filter.mp hkind).2
    simpa using hcontains
  rw [runCheck_kind]
  exact runOneCheck_brokerOf _ (listed_of_kinds hcommands hresolved)

/-- What `S04.90` seals at the end of the trail. -/
theorem isPassReport {c : Config} (hf : p.Holds 90 c)
    (hcommands : p.manifest.commands = commands.map (·.kind)) :
    IsPassReport commands p.brokers p.kinds c.state
      (if c.state.s04CheckResults.isEmpty then [noChecksResolved] else c.state.s04CheckResults)
      c.state.s04FailureAttributions (checksPassed c.state.s04CheckResults) := by
  have hattr := hf.attributions (by decide)
  have hgate := hf.gate rfl
  have hresults : c.state.s04CheckResults = p.results := hf.results
  rw [hresults] at hattr hgate ⊢
  have hfilter : (p.results.filter fun result =>
      p.kinds.contains result.kind && !result.passed) = p.results.filter (!·.passed) := by
    apply List.filter_congr
    intro result hmem
    simp [kind_mem_kinds hmem]
  by_cases hnil : p.results = []
  · have hkinds := results_eq_nil_iff.mp hnil
    rw [hnil] at hattr
    refine ⟨?_, fun hne => absurd hkinds hne, fun hne => absurd hkinds hne, ?_, hgate,
      checksPassed_iff hcommands, ?_, hattr.classified⟩
    · rw [hnil]
      decide
    · intro _
      rw [hnil]
      rfl
    · rw [hattr.kinds, hnil, hkinds]
      rfl
  · have hempty : p.results.isEmpty = false := by simpa using hnil
    rw [if_neg (by simp [hempty])]
    refine ⟨nodup_kinds_results, fun _ kind => mem_map_kind_results,
      fun _ result hmem => executed_results hcommands hmem, ?_, hgate,
      checksPassed_iff hcommands, ?_, hattr.classified⟩
    · intro hkinds
      exact absurd (results_eq_nil_iff.mpr hkinds) hnil
    · rw [hattr.kinds, hfilter]

end VerifiedPass

/-- When the step executes `S04.90`, the report it seals is about the checks of its own pass,
whatever the commands of the manifest are and however the workers behave. -/
def SealsPassReport (t : Transition Config Visit) : Prop :=
  t.label.node = ⟨.S04, 90⟩ → t.label.replayed = false →
    ∀ ref ∈ t.label.execution.artifactRefs,
    ∃ manifest phaseId now patchDigest provenanceDigest results attributions passed,
      t.before.state.readManifest = .ok manifest ∧
      ref = ⟨.phasePass ⟨.S04, 90⟩ phaseId t.before.state.s03RevisionAttempts,
        .verificationReport now patchDigest provenanceDigest phaseId results attributions
          passed⟩ ∧
      ∀ commands : List ListedCommand, manifest.commands = commands.map (·.kind) →
        ∃ brokers : Nat → WorkerBroker,
          RanInPass commands brokers (resolvedKinds manifest) t.before ∧
          IsPassReport commands brokers (resolvedKinds manifest) t.before.state results
            attributions passed

theorem beforeVerification_sampleCase (strategies : List SolutionStrategy) :
    BeforeVerification (sampleCase strategies) where
  writes := (converged_sampleCase strategies).writesSound
  intents key execution h := by
    rw [sampleCase, Ledger.cached_empty] at h
    cases h
  position n h hstage := by
    cases h
    cases hstage
  routes := filledAt_of_notMem fun _ => AList.notMem_empty _

def secondReportSealed (out : SharedTrace × Config) : Bool :=
  out.1.any fun t => decide (t.label.node = ⟨.S04, 90⟩ ∧ t.label.replayed = false ∧
    t.before.state.s03RevisionAttempts = 1)

end ProductionOptimizer
