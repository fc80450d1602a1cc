import ProductionOptimizer.ComposeEvaluation
import ProductionOptimizer.Library.Tally

/-!
# From the Compose worker to evidence

`A2.62` turns the stored result into one item for each attempt and requirement. It names a gap for
everything the worker could not do, so a branch without a gap has an item for every repetition of
every evaluation that promises the metric of a requirement.
-/

namespace ProductionOptimizer.Compose
open Interaction EvidenceGate
set_option autoImplicit false

/-! ### The branch of `A2.62` -/

structure ComposeBranch where
  evidence : List EvidenceGate.EvidenceItem
  coverage : List (String × Nat)
  unavailableReason : Option String

def forGate (attempt : EvaluationAttemptResult) : EvaluationAttempt :=
  ⟨attempt.evaluationId, attempt.repetition, attempt.output.map (·.metrics)⟩

def attemptGap (attempt : EvaluationAttemptResult) : Option String :=
  match attempt.output with
  | some _ => none
  | none => some (attempt.evaluationId ++ " repetition " ++ toString attempt.repetition ++ ": " ++
      (attempt.error.filter (· != "")).getD "invalid evaluator output")

def resultGaps (result : ComposeEvaluationWorkerResult) : List String :=
  (result.lifecycleError.filter (· != "")).toList ++
    (if result.cleanupConfirmed then [] else ["Compose cleanup could not be confirmed"]) ++
    result.attempts.filterMap attemptGap

def joinReasons (reasons : List String) : Option String :=
  if reasons.isEmpty then none else some ("; ".intercalate reasons)

/-- `_run_compose_evidence_branch`. The result comes with the ref it was read through. -/
def composeEvidenceBranch (ports : NodePorts) (caseId : String)
    (dimensions : List (String × String)) (request : EvidenceGate.OptimizationRequest)
    (authorized : Bool) (workerResult : Option (String × ComposeEvaluationWorkerResult)) :
    ComposeBranch :=
  if authorized then
    match workerResult with
    | none => ⟨[], [], joinReasons ["compose evaluation did not complete in time"]⟩
    | some (rawRef, result) =>
      let evidence := composeEvidence ports caseId rawRef dimensions request
        (result.attempts.map forGate)
      { evidence
        coverage := Tally.tally (evidence.filterMap (·.requirementId))
        unavailableReason := joinReasons (resultGaps result) }
  else ⟨[], [], joinReasons ["compose evaluation was not authorized by A2.50"]⟩

/-! ### Items and their ids -/

def evidenceIdOf (caseId evaluationId : String) (repetition : Nat) (requirementId : String) :
    String :=
  caseId ++ ":A2.62:" ++ evaluationId ++ ":" ++ toString repetition ++ ":" ++ requirementId

section Items
variable {ports : NodePorts} {caseId rawRef : String} {dimensions : List (String × String)}
  {request : EvidenceGate.OptimizationRequest}

theorem evidenceIdOf_inj {evaluationId evaluationId' requirementId requirementId' : String}
    {repetition repetition' : Nat} (hplain : ':' ∉ evaluationId.toList)
    (hplain' : ':' ∉ evaluationId'.toList)
    (h : evidenceIdOf caseId evaluationId repetition requirementId =
      evidenceIdOf caseId evaluationId' repetition' requirementId') :
    evaluationId = evaluationId' ∧ repetition = repetition' ∧ requirementId = requirementId' := by
  have hlist := congrArg String.toList h
  simp only [evidenceIdOf, String.toList_append, List.append_assoc, List.append_cancel_left_eq]
    at hlist
  obtain ⟨heval, hrest⟩ := Separated.append_cons_inj_first hplain hplain' hlist
  obtain ⟨hrepetition, hrequirement⟩ := Separated.append_cons_inj_first
    (notMem_repr repetition (.inr (.inr rfl))) (notMem_repr repetition' (.inr (.inr rfl))) hrest
  exact ⟨String.toList_inj.mp heval, toList_repr_injective hrepetition,
    String.toList_inj.mp hrequirement⟩

theorem composeItem_some {attempt : EvaluationAttempt}
    {metrics : List (String × Option EvidenceGate.EvidenceValue)}
    {requirement : EvidenceGate.EvidenceRequirement} {item : EvidenceGate.EvidenceItem}
    (h : composeItem ports caseId rawRef dimensions attempt metrics requirement = some item) :
    item.evidenceId = evidenceIdOf caseId attempt.evaluationId attempt.repetition
        requirement.requirementId ∧
      ∃ metricId value, requirement.metricId = some metricId ∧
        metrics.lookup metricId = some value ∧ item.metricId = some metricId ∧
        item.value = canonicalMetricValue value requirement.canonicalUnit := by
  unfold composeItem at h
  obtain ⟨metricId, hmetric, h⟩ := Option.bind_eq_some_iff.mp h
  obtain ⟨value, hvalue, h⟩ := Option.bind_eq_some_iff.mp h
  cases h
  exact ⟨rfl, metricId, value, hmetric, hvalue, rfl, rfl⟩

theorem composeItem_isSome {attempt : EvaluationAttempt}
    {metrics : List (String × Option EvidenceGate.EvidenceValue)}
    {requirement : EvidenceGate.EvidenceRequirement} {metricId : String}
    (hmetric : requirement.metricId = some metricId)
    (hmem : metricId ∈ metrics.map Prod.fst) :
    ∃ item, composeItem ports caseId rawRef dimensions attempt metrics requirement = some item := by
  obtain ⟨value, hvalue⟩ : ∃ value, metrics.lookup metricId = some value := by
    cases hlookup : metrics.lookup metricId with
    | some value => exact ⟨value, rfl⟩
    | none =>
      obtain ⟨entry, hentry, rfl⟩ := List.mem_map.mp hmem
      have hne := List.lookup_eq_none_iff.mp hlookup entry hentry
      simp at hne
  unfold composeItem
  rw [hmetric]
  simp [hvalue]

theorem mem_composeEvidence {attempts : List EvaluationAttemptResult}
    {item : EvidenceGate.EvidenceItem} :
    item ∈ composeEvidence ports caseId rawRef dimensions request (attempts.map forGate) ↔
      ∃ attempt ∈ attempts, ∃ output, attempt.output = some output ∧
        ∃ requirement ∈ request.evidenceRequirements,
          composeItem ports caseId rawRef dimensions (forGate attempt) output.metrics requirement =
            some item := by
  unfold composeEvidence
  rw [List.flatMap_map, List.mem_flatMap]
  refine exists_congr fun attempt => and_congr_right fun _ => ?_
  unfold forGate
  cases attempt.output with
  | none => simp
  | some output => simp

theorem id_of_mem {attempts : List EvaluationAttemptResult} {item : EvidenceGate.EvidenceItem}
    (h : item ∈ composeEvidence ports caseId rawRef dimensions request (attempts.map forGate)) :
    ∃ attempt ∈ attempts, ∃ requirementId, item.evidenceId =
      evidenceIdOf caseId attempt.evaluationId attempt.repetition requirementId := by
  obtain ⟨attempt, hattempt, output, _, requirement, _, hitem⟩ := mem_composeEvidence.mp h
  exact ⟨attempt, hattempt, requirement.requirementId, (composeItem_some hitem).1⟩

theorem evidence_ids_one {attempt : EvaluationAttemptResult}
    (hplain : ':' ∉ attempt.evaluationId.toList)
    (hrequirements : (request.evidenceRequirements.map (·.requirementId)).Nodup) :
    ((composeEvidence ports caseId rawRef dimensions request ([attempt].map forGate)).map
      (·.evidenceId)).Nodup := by
  unfold composeEvidence forGate
  simp only [List.map_cons, List.map_nil, List.flatMap_cons, List.flatMap_nil, List.append_nil]
  cases attempt.output with
  | none => exact List.nodup_nil
  | some output =>
    rw [List.Nodup, List.pairwise_map] at hrequirements ⊢
    simp only [Option.map_some, List.pairwise_filterMap]
    refine hrequirements.imp ?_
    intro requirement requirement' hne item hitem item' hitem' heq
    rw [(composeItem_some hitem).1, (composeItem_some hitem').1] at heq
    exact hne (evidenceIdOf_inj hplain hplain heq).2.2

/-- No two items share an id. -/
theorem evidence_ids {attempts : List EvaluationAttemptResult}
    (hkeys : (attempts.map attemptKey).Nodup)
    (hplain : ∀ attempt ∈ attempts, ':' ∉ attempt.evaluationId.toList)
    (hrequirements : (request.evidenceRequirements.map (·.requirementId)).Nodup) :
    ((composeEvidence ports caseId rawRef dimensions request (attempts.map forGate)).map
      (·.evidenceId)).Nodup := by
  induction attempts with
  | nil => exact List.nodup_nil
  | cons attempt attempts ih =>
    obtain ⟨hnew, hkeys⟩ := List.nodup_cons.mp hkeys
    obtain ⟨hplain₀, hplainRest⟩ := List.forall_mem_cons.mp hplain
    have hsplit : composeEvidence ports caseId rawRef dimensions request
        ((attempt :: attempts).map forGate) =
        composeEvidence ports caseId rawRef dimensions request ([attempt].map forGate) ++
          composeEvidence ports caseId rawRef dimensions request (attempts.map forGate) := by
      simp [composeEvidence]
    rw [hsplit, List.map_append, List.nodup_append]
    refine ⟨evidence_ids_one hplain₀ hrequirements, ih hkeys hplainRest, ?_⟩
    intro id hid id' hid' heq
    obtain ⟨item, hitem, rfl⟩ := List.mem_map.mp hid
    obtain ⟨item', hitem', rfl⟩ := List.mem_map.mp hid'
    obtain ⟨first, hfirst, requirementId, hfirstId⟩ := id_of_mem hitem
    obtain ⟨later, hlater, requirementId', hlaterId⟩ := id_of_mem hitem'
    obtain rfl := List.mem_singleton.mp hfirst
    rw [hfirstId, hlaterId] at heq
    obtain ⟨heval, hrepetition, _⟩ := evidenceIdOf_inj hplain₀ (hplainRest later hlater) heq
    exact hnew (List.mem_map.mpr ⟨later, hlater, Prod.ext heval.symm hrepetition.symm⟩)

end Items

/-! ### A branch without a gap -/

section Branch
variable {w : Worker} {job : WorkerJob} {calls : List (Invocation × Answer)}
  {records : List EvaluationAttemptResult} {result : ComposeEvaluationWorkerResult}
  {execution : Freeze.ComposeExecutionContract} {ports : NodePorts} {caseId rawRef path : String}
  {dimensions : List (String × String)} {request : EvidenceGate.OptimizationRequest}
  {sealed : OptimizationRequest}

theorem plannedAttempts_nodup (h : Runnable execution) : (plannedAttempts execution).Nodup := by
  unfold plannedAttempts
  rw [List.nodup_flatMap]
  refine ⟨?_, ?_⟩
  · intro evaluation _
    refine List.nodup_range.map ?_
    intro i j hij
    simpa using hij
  · have hids := h.ids_nodup
    rw [List.Nodup, List.pairwise_map] at hids
    refine hids.imp ?_
    intro evaluation evaluation' hne key hkey hkey'
    obtain ⟨_, _, rfl⟩ := List.mem_map.mp hkey
    obtain ⟨_, _, heq⟩ := List.mem_map.mp hkey'
    exact hne (congrArg Prod.fst heq).symm

theorem joinReasons_eq_none {reasons : List String} :
    joinReasons reasons = none ↔ reasons = [] := by
  unfold joinReasons
  split
  · rename_i hempty
    exact ⟨fun _ => List.isEmpty_iff.mp hempty, fun _ => rfl⟩
  · rename_i hne
    exact ⟨fun h => absurd h (by simp), fun h => absurd (List.isEmpty_iff.mpr h) hne⟩

theorem resultGaps_eq_nil (h : resultGaps result = []) :
    (∀ text, result.lifecycleError = some text → text = "") ∧ result.cleanupConfirmed = true ∧
      ∀ attempt ∈ result.attempts, ∃ output, attempt.output = some output := by
  obtain ⟨h, hattempts⟩ := List.append_eq_nil_iff.mp h
  obtain ⟨herror, hcleanup⟩ := List.append_eq_nil_iff.mp h
  refine ⟨?_, ?_, ?_⟩
  · intro text htext
    rw [htext] at herror
    by_contra hne
    simp [hne] at herror
  · by_contra hne
    simp [hne] at hcleanup
  · intro attempt hattempt
    have hgap := List.filterMap_eq_nil_iff.mp hattempts attempt hattempt
    unfold attemptGap at hgap
    split at hgap
    · rename_i output houtput
      exact ⟨output, houtput⟩
    · cases hgap

theorem servicesViolations_error {services : List (String × Json)} {e : Raised}
    (h : servicesViolations w services = .error e) : e = .typeError := by
  induction services with
  | nil => cases h
  | cons service rest ih =>
    simp only [servicesViolations] at h
    split at h
    · rename_i e' hservice
      cases h
      unfold serviceViolations at hservice
      split at hservice
      · split at hservice
        · cases hservice
          rfl
        · cases hservice
      · cases hservice
    · rename_i hrest
      cases h
      exact ih hrest
    · cases h

theorem validateComposeConfig_error {rawConfig : String} {e : Raised}
    (h : validateComposeConfig w rawConfig = .error e) : e.caught = none := by
  unfold validateComposeConfig at h
  split at h
  · cases h
    rfl
  · split at h
    · split at h
      · cases h
        rfl
      · split at h
        · rename_i e' hviolations
          cases h
          rw [servicesViolations_error hviolations]
          rfl
        · split at h
          · cases h
          · cases h
            rfl
    · cases h
      rfl

/-- The errors that the worker itself raises and catches have a text. -/
theorem answer_of_stop {base : List String} {featureId : String} {task : Task} {answer : Answer}
    {e : Raised} (h : (taskStep w base featureId execution task).react answer = .error e)
    (hempty : e.caught = some "") : answer = .error e := by
  cases answer with
  | error e' =>
    cases task with
    | phase phase => exact congrArg Except.error (Except.error.inj h)
    | run evaluation runIndex => exact congrArg Except.error (Except.error.inj h)
  | ok process =>
    cases task with
    | phase phase =>
      simp only [taskStep, phaseStep] at h
      split at h
      · cases h
        simp [Raised.caught, String.ext_iff] at hempty
      · split at h
        · cases hvalid : validateComposeConfig w process.stdout with
          | error e' =>
            rw [hvalid] at h
            cases h
            rw [validateComposeConfig_error hvalid] at hempty
            cases hempty
          | ok _ =>
            rw [hvalid] at h
            cases h
        · cases h
    | run evaluation runIndex =>
      simp only [taskStep, evaluatorStep] at h
      split at h
      · split at h
        · cases h
          simp [Raised.caught, String.ext_iff] at hempty
        · cases h
      · cases h

/-- Without a gap every planned attempt was made. -/
theorem attempts_of_no_gap (h : Runs (runComposeEvaluation w job) calls records (.ok result))
    (hprepare : prepare w job = .ok (sealed, execution, path))
    (htexts : ∀ call ∈ calls, ∀ e, call.2 = .error e → e.caught ≠ some "")
    (hgaps : resultGaps result = []) :
    result.attempts.map attemptKey = plannedAttempts execution := by
  rcases runs_runComposeEvaluation h with ⟨_, _, _, hout⟩ | ⟨_, _, _, hok, hrun⟩
  · cases hout
  cases hprepare.symm.trans hok
  obtain ⟨body, answer, attempts, life, rfl, hplayed, hout⟩ := runs_runProject hrun
  have hresult := accounted hout.symm
  obtain ⟨hnoError, _, _⟩ := resultGaps_eq_nil hgaps
  cases life with
  | ok _ =>
    rw [hresult.attempts]
    exact (attempts_of_played hplayed).2.1 rfl
  | error e =>
    obtain ⟨text, hcaught, herror⟩ := hresult.caught e rfl
    rw [hnoError text herror] at hcaught
    obtain ⟨step, hstep, reply, hcall, hreact⟩ := hplayed.stop_of_error
    obtain ⟨task, _, rfl⟩ := List.mem_map.mp hstep
    exact absurd hcaught (htexts _ (List.mem_append_left _ hcall) e (answer_of_stop hreact hcaught))

theorem plain_of_planned (hrunnable : Runnable execution) {key : String × Nat}
    (h : key ∈ plannedAttempts execution) : ':' ∉ key.1.toList := by
  obtain ⟨evaluation, hevaluation, hkey⟩ := List.mem_flatMap.mp h
  obtain ⟨_, _, rfl⟩ := List.mem_map.mp hkey
  intro hcolon
  have hplain := hrunnable.ids_plain evaluation hevaluation ':' hcolon
  revert hplain
  decide

end Branch

def samplePorts : NodePorts where
  verify _ := true
  readLowered _ := some ""
  now := 0
  isoformat _ := ""

theorem sample_sources : ["benchmark"] ≠ [] := List.cons_ne_nil _ _

def sampleRequirement : EvidenceGate.EvidenceRequirement where
  requirementId := "req-latency"
  acceptedSourceTypes := ["benchmark"]
  minimumSamples := 2
  mandatory := true
  metricId := some "latency_p95"
  canonicalUnit := some "ms"
  aggregation := .p95
  requiredDimensions := []
  freshnessSeconds := none
  minimumTrustLevel := .verified
  acceptedSourceTypes_ne := sample_sources
  minimumSamples_pos := Nat.le_succ 1

def sampleGateRequest : EvidenceGate.OptimizationRequest where
  contentDigest := "sha256:0000000000000000000000000000000000000000000000000000000000000000"
  workloadId := "checkout-load"
  environmentId := "compose"
  evidenceRequirements := [sampleRequirement]
  deadlineSeconds := 3600
  evidenceRequirements_ne := List.cons_ne_nil _ _

end ProductionOptimizer.Compose
