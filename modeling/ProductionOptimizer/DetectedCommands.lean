import ProductionOptimizer.SharedRuns

/-!
# Do detected commands reach the checks?

`A2.31` seals the commands it resolved in the VerificationManifest. S03, S04 and S05 read
the list of the RepositoryManifest, which `A2.30` has sealed before and left empty.
-/

namespace ProductionOptimizer
open Runs NumberedLog
set_option autoImplicit false

/-- The lane nodes that are not modelled seal neither of the two manifests. -/
def handleLane (a : Answers) (_ : OptimizationState) : Except Failure NodeExecution :=
  .ok { route := a.reportRoute
        artifactRefs := a.reportRefs.filter fun ref =>
          ref.artifactType != .repositoryManifest && ref.artifactType != .verificationManifest }

def laneRegistry : Registry Answers := fun n =>
  if n = ⟨.A1, 90⟩ then some ⟨[.continue_, .approval, .rejected], handleA190⟩
  else if n = ⟨.A2, 30⟩ then some ⟨[.continue_], handleA230⟩
  else if n = ⟨.A2, 31⟩ then some ⟨[.continue_, .approval], handleA231⟩
  else if n.stage ∈ sharedStages then sharedRegistry n
  else some ⟨[.continue_, .clarification, .approval, .rejected, .missing, .incomparable,
    .revision], handleLane⟩

abbrev LaneStep (graph : Graph) : Config → Act → Config → Prop := SessionStep laneRegistry graph

/-- The kinds of the commands in a sealed VerificationManifest: those that were declared
or detected, or else the approved proposal. -/
def resolvedCommands (commands : List CommandKind) (adopted : Option CommandProposal) :
    List CommandKind :=
  commands ++ (adopted.map (·.kind)).toList

def SealedCommands (s : OptimizationState) (commands : List CommandKind) : Prop :=
  ∃ id now resolved adopted,
    ⟨id, .verificationManifest now resolved adopted⟩ ∈ s.artifactRefs ∧
      commands = resolvedCommands resolved adopted

/-- What the three consumers of the command list make of it in state `s`. -/
structure ConsumersSee (commands : List CommandKind) (s : OptimizationState) : Prop where
  checks : ∀ a execution, handleS0420 a s = .ok execution →
    ∃ verification, execution.updates = [.s04Manifest verification] ∧
      ∀ kind, kind ∈ verification.resolvedKinds ↔ kind ∈ commands ∧ kind ≠ .benchmark
  measured : ∀ manifest, s.readManifest = .ok manifest → ∀ criterion : Criterion,
    ∀ kind ∈ commands, criterion.metricId = kind.metricId →
      resolveKind criterion manifest = some kind
  offered : ∀ a execution, handleS0340 a s = .ok execution →
    ∃ context, execution.updates = [.s03Context context] ∧
      (context.allowedCommand = some .unit ↔ .unit ∈ commands)

def CommandsReach (s : OptimizationState) : Prop :=
  ∀ commands, SealedCommands s commands → ConsumersSee commands s

/-- Every ref of the case, committed or recorded for replay, has the property. -/
structure AllRefs (P : ArtifactRef → Prop) (c : Config) : Prop where
  committed : ∀ ref ∈ c.state.artifactRefs, P ref
  recorded : ∀ key execution, c.ledger.cached key = some execution →
    ∀ ref ∈ execution.artifactRefs, P ref

section Sessions
variable {A : Type} {registry : Registry A} {graph : Graph} {P : ArtifactRef → Prop}
  {c c' : Config}

theorem AllRefs.node {visit : Visit}
    (hregistry : ∀ n node, registry n = some node → ∀ a s,
      Yields (fun execution => ∀ ref ∈ execution.artifactRefs, P ref) (node.handler a s))
    (hall : AllRefs P c) (h : GraphStep registry graph c visit c') : AllRefs P c' := by
  obtain ⟨a, _, _, hcommit, hsource, _⟩ := h.spec
  have hexecution : ∀ ref ∈ visit.execution.artifactRefs, P ref := by
    cases hsource with
    | replay _ hcached _ => exact hall.recorded _ _ hcached
    | fresh node _ _ hnode hhandler _ _ => exact hregistry _ node hnode a _ _ hhandler
  constructor
  · intro ref href
    rcases hcommit.mem_artifactRefs href with hold | hnew
    · exact hall.committed ref hold
    · exact hexecution ref hnew
  · intro key execution hcached
    rw [h.ledger] at hcached
    rcases hsource.cached_cases hcached with hold | ⟨_, rfl⟩
    · exact hall.recorded key execution hold
    · exact hexecution

theorem AllRefs.resume {interrupt : InterruptEnvelope} {command : ResumeInterruptCommand}
    {checkpointed : Bool} (hall : AllRefs P c)
    (h : SessionStep registry graph c (.resume interrupt command checkpointed) c') :
    AllRefs P c' := by
  obtain ⟨_, _, h⟩ := h
  split at h
  · subst h
    exact ⟨hall.committed, hall.recorded⟩
  · obtain ⟨_, rfl⟩ := h
    exact ⟨fun ref href => hall.committed ref (List.mem_of_mem_filter href), hall.recorded⟩

theorem AllRefs.step {act : Act}
    (hregistry : ∀ n node, registry n = some node → ∀ a s,
      Yields (fun execution => ∀ ref ∈ execution.artifactRefs, P ref) (node.handler a s))
    (hall : AllRefs P c) (h : SessionStep registry graph c act c') : AllRefs P c' := by
  cases act with
  | node visit => exact AllRefs.node hregistry hall h
  | resume interrupt command checkpointed => exact AllRefs.resume hall h

end Sessions

/-- A RepositoryManifest without commands, or a ref of another type. -/
def NoCommands (ref : ArtifactRef) : Prop :=
  ∀ manifest, ref.contentDigest = .repositoryManifest manifest → manifest.commands = []

theorem noCommands_of_type {ref : ArtifactRef} (h : ref.artifactType ≠ .repositoryManifest) :
    NoCommands ref := by
  intro manifest hcontent
  rw [ArtifactRef.artifactType, hcontent] at h
  exact absurd rfl h

theorem notMem_nodeTypes : ∀ n ∈ catalog, .repositoryManifest ∉ nodeTypes n := by decide +kernel

/-- No node of the lane or of the shared workflow puts a command into a
RepositoryManifest. -/
theorem laneRegistry_noCommands (n : NodeId) (node : RegisteredNode Answers)
    (hnode : laneRegistry n = some node) (a : Answers) (s : OptimizationState) :
    Yields (fun execution => ∀ ref ∈ execution.artifactRefs, NoCommands ref)
      (node.handler a s) := by
  intro execution h ref href
  unfold laneRegistry at hnode
  split at hnode
  · cases hnode
    refine noCommands_of_type fun htype => ?_
    simp only [handleA190] at h
    split at h <;> cases h <;> cases List.mem_singleton.mp href <;> cases htype
  · split at hnode
    · cases hnode
      obtain ⟨_, _, h⟩ := except_bind_ok h
      cases h
      cases List.mem_singleton.mp href
      intro manifest hcontent
      cases hcontent
      rfl
    · split at hnode
      · cases hnode
        refine noCommands_of_type fun htype => ?_
        rcases handleA231_cases h with rfl | ⟨_, rfl⟩ | ⟨_, hrefs⟩
        · cases List.mem_singleton.mp href
          cases htype
        · cases List.mem_singleton.mp href
          cases htype
        · rw [hrefs] at href
          cases List.mem_singleton.mp href
          cases htype
      · split at hnode
        · obtain ⟨hnumber, rfl⟩ := sharedRegistry_some hnode
          have hwrites := nodeHandler_writes n a s execution h
          refine noCommands_of_type fun htype => ?_
          exact notMem_nodeTypes n (mem_catalog hnumber) (htype ▸ hwrites.type_mem href)
        · cases hnode
          cases h
          refine noCommands_of_type fun htype => ?_
          have hkept := (List.mem_filter.mp href).2
          rw [htype] at hkept
          cases hkept

theorem commands_eq_nil {graph : Graph} {c₀ c : Config} {tr : List (Transition Config Act)}
    {manifest : RepositoryManifest} (hstart : AllRefs NoCommands c₀)
    (hrun : Run (LaneStep graph) c₀ tr c) (hmanifest : c.state.readManifest = .ok manifest) :
    manifest.commands = [] := by
  have hall : AllRefs NoCommands c :=
    hrun.invariant hstart fun _ _ _ => AllRefs.step laneRegistry_noCommands
  obtain ⟨ref, href, h⟩ := except_bind_ok hmanifest
  split at h
  · rename_i found hcontent
    cases h
    exact hall.committed ref (OptimizationState.requireRef_ok href).1 _ hcontent
  · cases h

section Consumers
variable {s : OptimizationState} {manifest : RepositoryManifest}

theorem consumersSee_nil (hmanifest : s.readManifest = .ok manifest)
    (hnone : manifest.commands = []) : ConsumersSee [] s where
  checks a execution h := by
    unfold handleS0420 at h
    rw [hmanifest] at h
    cases h
    refine ⟨_, rfl, fun kind => ?_⟩
    simp [hnone]
  measured _ _ _ kind hkind := by cases hkind
  offered a execution h := by
    unfold handleS0340 at h
    obtain ⟨_, _, h⟩ := except_bind_ok h
    obtain ⟨_, _, h⟩ := except_bind_ok h
    obtain ⟨found, hfound, h⟩ := except_bind_ok h
    cases hmanifest.symm.trans hfound
    obtain ⟨_, _, h⟩ := except_bind_ok h
    split at h
    · cases h
    · cases h
      refine ⟨_, rfl, ?_⟩
      simp [hnone]

theorem eq_nil_of_consumersSee {commands : List CommandKind}
    (hmanifest : s.readManifest = .ok manifest) (hnone : manifest.commands = [])
    (hsee : ConsumersSee commands s) : commands = [] := by
  cases commands with
  | nil => rfl
  | cons kind rest =>
    have hresolved := hsee.measured manifest hmanifest ⟨"", kind.metricId, .minimize, 0, 0⟩
      kind List.mem_cons_self rfl
    rw [resolveKind, hnone] at hresolved
    cases hresolved

end Consumers

/-- In no session does a resolved command reach the consumers: they agree with `A2.31`
exactly when it resolved nothing. -/
theorem commandsReach_iff {graph : Graph} {c₀ c : Config} {tr : List (Transition Config Act)}
    {manifest : RepositoryManifest} (hstart : AllRefs NoCommands c₀)
    (hrun : Run (LaneStep graph) c₀ tr c) (hmanifest : c.state.readManifest = .ok manifest) :
    CommandsReach c.state ↔ ∀ commands, SealedCommands c.state commands → commands = [] := by
  have hnone := commands_eq_nil hstart hrun hmanifest
  constructor
  · intro hreach commands hsealed
    exact eq_nil_of_consumersSee hmanifest hnone (hreach commands hsealed)
  · intro hempty commands hsealed
    rw [hempty commands hsealed]
    exact consumersSee_nil hmanifest hnone

/-! ### A repository with tests and a linter -/

def laneNext (n : NodeId) (s : OptimizationState) : Option NodeId :=
  if n = ⟨.A2, 30⟩ then some ⟨.A2, 31⟩
  else if n = ⟨.A2, 31⟩ then some (firstNode .S01)
  else nextPosition n s

def laneGraph : Graph := .ofFunction ⟨.A2, 30⟩ laneNext

def parsedCase : Config :=
  let start := promptRiskCase
  { start with
    position := some ⟨.A2, 30⟩
    state := { start.state with
      artifactRefs := start.state.artifactRefs.filter
        (·.artifactType != .repositoryManifest) } }

theorem parsedCase_noCommands : AllRefs NoCommands parsedCase where
  committed ref href := by
    refine noCommands_of_type fun htype => ?_
    have hkept := (List.mem_filter.mp href).2
    rw [htype] at hkept
    cases hkept
  recorded key execution h := by
    rw [parsedCase, promptRiskCase, sampleCase, Ledger.cached_empty] at h
    cases h

theorem exists_laneRun (answers : List Answers)
    (check : List (Transition Config Act) × Config → Bool)
    (h : (replay (sessionAdvance laneRegistry ⟨.A2, 30⟩ laneNext) (answers.map .answers) []
      parsedCase).any check = true) :
    ∃ tr c, Run (LaneStep laneGraph) parsedCase tr c ∧ check (tr, c) = true :=
  exists_sessionRun laneRegistry ⟨.A2, 30⟩ laneNext parsedCase (answers.map .answers) check h

def sealedAfterLane (commands : List CommandKind) (s : OptimizationState) : Bool :=
  decide (s.readManifest.toOption = some ⟨[], [], []⟩ ∧
    s.artifactRefs.filter (·.artifactType == .verificationManifest) =
      [⟨.base, .verificationManifest 0 commands none⟩])

theorem sealedAfterLane_spec {commands : List CommandKind} {s : OptimizationState}
    (h : sealedAfterLane commands s = true) :
    s.readManifest = .ok ⟨[], [], []⟩ ∧ ∀ found, SealedCommands s found ↔ found = commands := by
  obtain ⟨hmanifest, hrefs⟩ := of_decide_eq_true h
  have hmem : ∀ ref, (ref ∈ s.artifactRefs ∧ ref.artifactType = .verificationManifest) ↔
      ref = ⟨.base, .verificationManifest 0 commands none⟩ := by
    intro ref
    have hfilter : ref ∈ s.artifactRefs.filter (·.artifactType == .verificationManifest) ↔
        ref = ⟨.base, .verificationManifest 0 commands none⟩ := by
      rw [hrefs, List.mem_singleton]
    rwa [List.mem_filter, beq_iff_eq] at hfilter
  constructor
  · cases hread : s.readManifest with
    | error e =>
      rw [hread] at hmanifest
      cases hmanifest
    | ok manifest =>
      rw [hread] at hmanifest
      cases hmanifest
      rfl
  · intro found
    constructor
    · rintro ⟨id, now, resolved, adopted, href, rfl⟩
      cases (hmem _).mp ⟨href, rfl⟩
      exact List.append_nil commands
    · rintro rfl
      exact ⟨.base, 0, found, none, ((hmem _).mpr rfl).1, (List.append_nil found).symm⟩

/-- Nothing is declared, nothing is detected and no model is asked: the consumers have
nothing to miss. -/
theorem commandsReach_without_commands :
    ∃ tr c, Run (LaneStep laneGraph) parsedCase tr c ∧ SealedCommands c.state [] ∧
      CommandsReach c.state := by
  obtain ⟨tr, c, hrun, hcheck⟩ := exists_laneRun
    (List.replicate 2 { sampleAnswers with modelWired := false })
    (fun out => sealedAfterLane [] out.2.state) (by decide +kernel)
  obtain ⟨hmanifest, hsealed⟩ := sealedAfterLane_spec hcheck
  exact ⟨tr, c, hrun, (hsealed []).mpr rfl,
    (commandsReach_iff parsedCase_noCommands hrun hmanifest).mpr fun found => (hsealed found).mp⟩

def testedRepository : Answers := { sampleAnswers with repositoryCommands := [.unit, .lint] }

def reportsNoChecks (ref : ArtifactRef) : Bool :=
  match ref.contentDigest with
  | .verificationReport _ _ _ _ results _ passed =>
    decide (results = [noChecksResolved] ∧ passed = false)
  | _ => false

/-- The tests of the repository are known, and the phase is verified without them. -/
theorem detected_tests_are_not_run :
    ∃ tr c, Run (LaneStep laneGraph) parsedCase tr c ∧ SealedCommands c.state [.unit, .lint] ∧
      (∃ ref ∈ c.state.artifactRefs, reportsNoChecks ref = true) ∧ ¬ CommandsReach c.state := by
  obtain ⟨tr, c, hrun, hcheck⟩ := exists_laneRun (List.replicate 39 testedRepository)
    (fun out => sealedAfterLane [.unit, .lint] out.2.state &&
      out.2.state.artifactRefs.any reportsNoChecks) (by decide +kernel)
  obtain ⟨hlane, hreport⟩ := Bool.and_eq_true_iff.mp hcheck
  obtain ⟨hmanifest, hsealed⟩ := sealedAfterLane_spec hlane
  refine ⟨tr, c, hrun, (hsealed _).mpr rfl, List.any_eq_true.mp hreport, fun hreach => ?_⟩
  have hempty := eq_nil_of_consumersSee hmanifest rfl (hreach _ ((hsealed _).mpr rfl))
  cases hempty

end ProductionOptimizer
