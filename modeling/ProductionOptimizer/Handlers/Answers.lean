import ProductionOptimizer.NodeRuntime
import Mathlib.Data.List.Sort

/-!
# What a handler asks its environment

One `Answers` value holds everything outside the case state that one node execution may
see: the clock, the policy, the model, workers, git and the file system. Handlers read the
fields they need, so a run may answer differently at every node.
-/

namespace ProductionOptimizer
set_option autoImplicit false

structure Answers where
  now : Nat := 0
  policy : Option PolicyDecision := none
  modelWired : Bool := true
  requesterId : String := ""
  requesterRole : String := ""
  requestPolicyVersion : String := ""
  requestQualityPassed : Bool := true
  requestFingerprint : Nat := 0
  manifestFiles : List String := []
  testRoots : List String := []
  repositoryCommands : List CommandKind := []
  commandProposal : Option CommandProposal := none
  pathExists : String → Bool := fun _ => true
  repositoryPaths : List String := []
  draftPhases : List ExecutionPhase := []
  draftPhaseFailures : List String := []
  draftTasks : List PlanTask := []
  draftTaskFailures : List String := []
  draftPathRepairs : List String := []
  draftCoverage : List (String × Bool) := []
  criticApproved : Bool := false
  workspacePath : String := ""
  worktreeAdded : Bool := true
  toolCalls : Nat := 0
  inputTokens : Nat := 0
  outputTokens : Nat := 0
  changedFiles : List String := []
  changedSymbols : String → List String := fun _ => []
  fileExists : String → Bool := fun _ => true
  matchesSecret : String → Bool := fun _ => false
  diff : String := ""
  workspaceIsDirectory : Bool := true
  checkExitCode : CommandKind → Option Int := fun _ => some 0
  checkCommandId : CommandKind → String := CommandKind.name
  driftedManifestFiles : List String := []
  remeasured : String → Option (Nat × ℚ) := fun _ => some (1, 0)
  statusIsClean : Bool := true
  headRevision : Option String := none
  worktreeForApply : Bool := true
  applyCheck : Bool := true
  applyPatch : Bool := true
  addFiles : Bool := true
  commitPatch : Bool := true
  commitSha : Option String := none
  reportRoute : NodeRoute := .continue_
  reportRefs : List ArtifactRef := []

/-- `sorted(command.actor_roles)[0]`. -/
def firstRole (command : ResumeInterruptCommand) : Option String :=
  (command.actorRoles.insertionSort (· ≤ ·)).head?

/-- `sorted(set(...))` of strings. -/
def sortedSet (items : List String) : List String := items.dedup.insertionSort (· ≤ ·)

theorem mem_sortedSet {items : List String} {x : String} : x ∈ sortedSet items ↔ x ∈ items := by
  rw [sortedSet, List.mem_insertionSort, List.mem_dedup]

theorem length_lt_sortedSet {items : List String} {x : String} (h : items.Nodup)
    (hx : x ∉ items) : items.length < (sortedSet (items ++ [x])).length := by
  have hnodup : (items ++ [x]).Nodup :=
    h.append (List.nodup_singleton x) (List.disjoint_singleton.mpr hx)
  rw [sortedSet, List.length_insertionSort, hnodup.dedup, List.length_append]
  exact Nat.lt_succ_self _

/-- The keys of a dict literal or comprehension: a repeated key keeps its first place and
its last value. -/
def dictSet {V : Type} (d : List (String × V)) (key : String) (value : V) : List (String × V) :=
  if d.any (·.1 == key) then d.map fun e => if e.1 == key then (key, value) else e
  else d ++ [(key, value)]

def dictOf {V : Type} (entries : List (String × V)) : List (String × V) :=
  entries.foldl (fun d e => dictSet d e.1 e.2) []

theorem mem_of_mem_dictOf {V : Type} {entries : List (String × V)} {entry : String × V}
    (h : entry ∈ dictOf entries) : entry ∈ entries := by
  have hset : ∀ (d : List (String × V)) (key : String) (value : V),
      entry ∈ dictSet d key value → entry = (key, value) ∨ entry ∈ d := by
    intro d key value hmem
    unfold dictSet at hmem
    split at hmem
    · obtain ⟨e, he, rfl⟩ := List.mem_map.mp hmem
      by_cases hk : e.1 == key
      · left
        rw [if_pos hk]
      · right
        rw [if_neg hk]
        exact he
    · rcases List.mem_append.mp hmem with hmem | hmem
      · exact Or.inr hmem
      · exact Or.inl (List.mem_singleton.mp hmem)
  have hgen : ∀ (entries d : List (String × V)),
      entry ∈ entries.foldl (fun d e => dictSet d e.1 e.2) d → entry ∈ entries ∨ entry ∈ d := by
    intro entries
    induction entries with
    | nil =>
      intro d hd
      exact Or.inr hd
    | cons e es ih =>
      intro d hd
      rcases ih _ hd with hes | hold
      · exact Or.inl (List.mem_cons_of_mem _ hes)
      · rcases hset d e.1 e.2 hold with rfl | hold
        · exact Or.inl List.mem_cons_self
        · exact Or.inr hold
  exact (hgen entries [] h).resolve_right (by simp)

theorem mem_keys_dictOf {V : Type} {entries : List (String × V)} {k : String}
    (h : k ∈ (dictOf entries).map Prod.fst) : k ∈ entries.map Prod.fst := by
  obtain ⟨entry, hmem, rfl⟩ := List.mem_map.mp h
  exact List.mem_map_of_mem (mem_of_mem_dictOf hmem)

theorem foldl_dictSet_eq_append {V : Type} {entries d : List (String × V)}
    (h : ((d ++ entries).map Prod.fst).Nodup) :
    entries.foldl (fun d e => dictSet d e.1 e.2) d = d ++ entries := by
  induction entries generalizing d with
  | nil => rw [List.foldl_nil, List.append_nil]
  | cons entry entries ih =>
    have hnew : d.any (·.1 == entry.1) = false := by
      rw [List.any_eq_false]
      intro old hold heq
      rw [List.map_append, List.map_cons, List.nodup_append] at h
      exact h.2.2 old.1 (List.mem_map_of_mem hold) entry.1 List.mem_cons_self (beq_iff_eq.mp heq)
    have hset : dictSet d entry.1 entry.2 = d ++ [entry] := by
      unfold dictSet
      rw [if_neg (by simp [hnew])]
    rw [List.foldl_cons, hset, ih (by simpa using h), List.append_assoc, List.singleton_append]

/-- Nothing is overwritten where no key is repeated. -/
theorem dictOf_eq_self {V : Type} {entries : List (String × V)}
    (h : (entries.map Prod.fst).Nodup) : dictOf entries = entries :=
  foldl_dictSet_eq_append (d := []) h

/-- The entry a dict built from `l` holds for a key: the last one wins. -/
def lastWhere {V : Type} (l : List V) (p : V → Bool) : Option V := l.reverse.find? p

namespace OptimizationState

def readRequest (s : OptimizationState) : Except Failure OptimizationRequest := do
  match (← s.requireRef .optimizationRequest).contentDigest with
  | .optimizationRequest request => pure request
  | _ => throw (.unreadable .optimizationRequest)

def readPortfolio (s : OptimizationState) : Except Failure SolutionPortfolio := do
  match (← s.requireRef .solutionPortfolio).contentDigest with
  | .solutionPortfolio portfolio => pure portfolio
  | _ => throw (.unreadable .solutionPortfolio)

def readSnapshot (s : OptimizationState) : Except Failure SourceSnapshot := do
  match (← s.requireRef .sourceSnapshot).contentDigest with
  | .sourceSnapshot snapshot => pure snapshot
  | _ => throw (.unreadable .sourceSnapshot)

def readManifest (s : OptimizationState) : Except Failure RepositoryManifest := do
  match (← s.requireRef .repositoryManifest).contentDigest with
  | .repositoryManifest manifest => pure manifest
  | _ => throw (.unreadable .repositoryManifest)

def readBaseline (s : OptimizationState) : Except Failure BaselineSnapshot := do
  match (← s.requireRef .baselineSnapshot).contentDigest with
  | .baselineSnapshot baseline => pure baseline
  | _ => throw (.unreadable .baselineSnapshot)

def readPlan (s : OptimizationState) : Except Failure (List ExecutionPhase) := do
  match (← s.requireRef .executionPlan).contentDigest with
  | .executionPlan _ _ phases => pure phases
  | _ => throw (.unreadable .executionPlan)

def readTaskList (s : OptimizationState) : Except Failure (List PlanTask) := do
  match (← s.requireRef .taskList).contentDigest with
  | .taskList _ _ tasks => pure tasks
  | _ => throw (.unreadable .taskList)

/-- `_selected_solution_ref`: the selection sealed by the present pass of S01. -/
def selectedSolutionRef (s : OptimizationState) : Except Failure ArtifactRef :=
  s.requireStageRef (.stagePass ⟨.S01, 90⟩ s.s01ExcludedStrategyIds.length) .selectedSolution

def readSelected (s : OptimizationState) : Except Failure String := do
  match (← s.selectedSolutionRef).contentDigest with
  | .selectedSolution _ _ _ strategyId _ _ => pure strategyId
  | _ => throw (.unreadable .selectedSolution)

def activePhaseId (s : OptimizationState) : Except Failure String :=
  match s.s03ActivePhaseId with
  | some phaseId => if phaseId = "" then .error (.missingField .s03ActivePhaseId) else .ok phaseId
  | none => .error (.missingField .s03ActivePhaseId)

/-- `<node>-<active phase>-pass<n>`, the scope under which S03 to S06 seal. -/
def phaseStage (s : OptimizationState) (node : NodeId) : Except Failure ArtifactId := do
  let phaseId ← s.activePhaseId
  .ok (.phasePass node phaseId s.s03RevisionAttempts)

/-- The ref that `node` sealed for the active phase in the present pass. -/
def requirePhaseRef (s : OptimizationState) (node : NodeId) (t : ArtifactType) :
    Except Failure ArtifactRef := do
  let stageId ← s.phaseStage node
  s.requireStageRef stageId t

end OptimizationState

def phaseTaskIds (tasks : List PlanTask) (phaseId : String) : List String :=
  (tasks.filter (·.phaseId == phaseId)).map (·.taskId)

def strategyById (portfolio : SolutionPortfolio) (strategyId : String) :
    Except Failure SolutionStrategy :=
  match portfolio.strategies.find? (·.strategyId == strategyId) with
  | some strategy => .ok strategy
  | none => .error (.unknownStrategy strategyId)

/-- `state["s03_workspace"]["path"]`, a `KeyError` when no workspace is recorded. -/
def requireWorkspace (s : OptimizationState) : Except Failure Workspace :=
  match s.s03Workspace with
  | some workspace => .ok workspace
  | none => .error (.missingField .s03Workspace)

def Yields (P : NodeExecution → Prop) (x : Except Failure NodeExecution) : Prop :=
  ∀ execution, x = .ok execution → P execution

namespace Yields
variable {P : NodeExecution → Prop}

theorem error {e : Failure} : Yields P (.error e) := fun _ h => by cases h

theorem ok {execution : NodeExecution} (h : P execution) : Yields P (.ok execution) := by
  intro _ heq
  cases heq
  exact h

theorem bind {α : Type} {x : Except Failure α} {f : α → Except Failure NodeExecution}
    (h : ∀ a, x = .ok a → Yields P (f a)) : Yields P (x >>= f) := by
  cases x with
  | error e => exact error
  | ok a => exact h a rfl

end Yields

/-- The channels and artifact types a handler confines itself to. On an explicit
execution this is decided by evaluation. -/
def WritesOnly (fields : List Field) (types : List ArtifactType)
    (execution : NodeExecution) : Prop :=
  (execution.updates.all (fields.contains ·.field) &&
    execution.artifactRefs.all (types.contains ·.artifactType)) = true

namespace WritesOnly
variable {fields : List Field} {types : List ArtifactType} {execution : NodeExecution}

theorem field_mem (h : WritesOnly fields types execution) {u : FieldUpdate}
    (hu : u ∈ execution.updates) : u.field ∈ fields := by
  have hall := List.all_eq_true.mp (Bool.and_eq_true_iff.mp h).1 u hu
  simpa using hall

theorem type_mem (h : WritesOnly fields types execution) {ref : ArtifactRef}
    (hr : ref ∈ execution.artifactRefs) : ref.artifactType ∈ types := by
  have hall := List.all_eq_true.mp (Bool.and_eq_true_iff.mp h).2 ref hr
  simpa using hall

end WritesOnly

namespace Committed
variable {fields : List Field} {types : List ArtifactType} {execution : NodeExecution}
  {n : NodeId} {s s' : OptimizationState}

theorem get_of_writesOnly (h : Committed n execution s s') (hw : WritesOnly fields types execution)
    {f : Field} (hf : f ∉ fields) : s'.get f = s.get f :=
  h.get_of_untouched fun _ hu heq => hf (heq ▸ hw.field_mem hu)

theorem ref_of_writesOnly (h : Committed n execution s s') (hw : WritesOnly fields types execution)
    {ref : ArtifactRef} (hr : ref ∈ s'.artifactRefs) (ht : ref.artifactType ∉ types) :
    ref ∈ s.artifactRefs :=
  (h.mem_artifactRefs hr).resolve_right fun hnew => ht (hw.type_mem hnew)

end Committed

theorem OptimizationState.requirePhaseRef_ok {s : OptimizationState} {node : NodeId}
    {t : ArtifactType} {ref : ArtifactRef} {phaseId : String}
    (hphase : s.activePhaseId = .ok phaseId) (h : s.requirePhaseRef node t = .ok ref) :
    ref ∈ s.artifactRefs ∧ ref.artifactType = t ∧
      ref.artifactId = .phasePass node phaseId s.s03RevisionAttempts := by
  unfold requirePhaseRef phaseStage at h
  rw [hphase] at h
  exact requireStageRef_ok h

theorem OptimizationState.phaseStage_eq {s : OptimizationState} {node : NodeId}
    {id : ArtifactId} {phaseId : String} (hphase : s.activePhaseId = .ok phaseId)
    (h : s.phaseStage node = .ok id) : id = .phasePass node phaseId s.s03RevisionAttempts := by
  unfold phaseStage at h
  rw [hphase] at h
  cases h
  rfl

theorem OptimizationState.activePhaseId_ok {s : OptimizationState} {phaseId : String}
    (h : s.activePhaseId = .ok phaseId) : s.s03ActivePhaseId = some phaseId := by
  unfold activePhaseId at h
  split at h
  · rename_i hsome
    split at h
    · cases h
    · cases h
      exact hsome
  · cases h

theorem except_bind_ok {ε α β : Type} {x : Except ε α} {f : α → Except ε β} {b : β}
    (h : (x >>= f) = .ok b) : ∃ a, x = .ok a ∧ f a = .ok b := by
  cases x with
  | error e => cases h
  | ok a => exact ⟨a, rfl, h⟩

theorem mapM_cons_ok {ε α β : Type} {f : α → Except ε β} {a : α} {l : List α} {out : List β} :
    (a :: l).mapM f = .ok out ↔ ∃ b bs, f a = .ok b ∧ l.mapM f = .ok bs ∧ out = b :: bs := by
  rw [List.mapM_cons]
  constructor
  · intro h
    obtain ⟨b, hb, h⟩ := except_bind_ok h
    obtain ⟨bs, hbs, h⟩ := except_bind_ok h
    cases h
    exact ⟨b, bs, hb, hbs, rfl⟩
  · rintro ⟨b, bs, hb, hbs, rfl⟩
    rw [hb, hbs]
    rfl

namespace Committed
variable {n : NodeId} {execution : NodeExecution} {s s' : OptimizationState}

theorem readRequest_of_ok (h : Committed n execution s s') {request : OptimizationRequest}
    (hr : s.readRequest = .ok request) : s'.readRequest = .ok request := by
  obtain ⟨ref, href, hok⟩ := except_bind_ok hr
  unfold OptimizationState.readRequest
  rw [h.requireRef_of_ok href]
  exact hok

theorem readBaseline_of_ok (h : Committed n execution s s') {baseline : BaselineSnapshot}
    (hr : s.readBaseline = .ok baseline) : s'.readBaseline = .ok baseline := by
  obtain ⟨ref, href, hok⟩ := except_bind_ok hr
  unfold OptimizationState.readBaseline
  rw [h.requireRef_of_ok href]
  exact hok

theorem readManifest_of_ok (h : Committed n execution s s') {manifest : RepositoryManifest}
    (hr : s.readManifest = .ok manifest) : s'.readManifest = .ok manifest := by
  obtain ⟨ref, href, hok⟩ := except_bind_ok hr
  unfold OptimizationState.readManifest
  rw [h.requireRef_of_ok href]
  exact hok

end Committed

theorem eq_ok_of_toOption {ε α : Type} {x : Except ε α} {a : α} (h : x.toOption = some a) :
    x = .ok a := by
  cases x with
  | error e => cases h
  | ok b =>
    cases h
    rfl

end ProductionOptimizer
