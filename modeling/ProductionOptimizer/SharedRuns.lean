import ProductionOptimizer.SharedWorkflow

/-!
# Steps of a run from a converged case

Every step of the shared workflow, replayed or not, writes what its node may write. The
facts about whole runs in the modules above are derived from `SharedSpec`.
-/

namespace ProductionOptimizer
open Runs NumberedLog
set_option autoImplicit false

def sharedStages : List Stage := [.S01, .S02, .S03, .S04, .S05, .S06, .S07]

def catalog : List NodeId :=
  sharedStages.flatMap fun stage => (nodeNumbers stage).map (⟨stage, ·⟩)

theorem mem_catalog {n : NodeId} (h : n.number ∈ nodeNumbers n.stage) : n ∈ catalog := by
  obtain ⟨stage, number⟩ := n
  have hstage : stage ∈ sharedStages := by
    cases stage with
    | A1 | A2 | A3 | B1 | B2 | C0 => cases h
    | S01 | S02 | S03 | S04 | S05 | S06 | S07 => decide
  exact List.mem_flatMap.mpr ⟨stage, hstage, List.mem_map.mpr ⟨number, h, rfl⟩⟩

theorem stage_of_mem_catalog : ∀ n ∈ catalog, n.stage ∈ sharedStages := by decide +kernel

/-- A case handed over by the convergence gate: nothing of the shared workflow has run. -/
structure Converged (portfolio : SolutionPortfolio) (c : Config) : Prop where
  position : c.position = some (firstNode .S01)
  ledger : ∀ key execution, c.ledger.cached key = some execution → key.node.stage ∉ sharedStages
  completedNodes : ∀ n ∈ c.state.completedNodes, n.stage ∉ sharedStages
  portfolio : c.state.readPortfolio = .ok portfolio
  artifactRefs : ∀ ref ∈ c.state.artifactRefs,
    ref.artifactType ≠ .selectedSolution ∧ ref.artifactType ≠ .verificationReport
  s01EligibleStrategyIds : c.state.s01EligibleStrategyIds = []
  s01NormalizedFactors : c.state.s01NormalizedFactors = []
  s01Scores : c.state.s01Scores = []
  s01RankedStrategyIds : c.state.s01RankedStrategyIds = []
  s01RoutingDecision : c.state.s01RoutingDecision = none
  s01ExcludedStrategyIds : c.state.s01ExcludedStrategyIds.Nodup
  s02RevisionAttempts : c.state.s02RevisionAttempts = 0
  s03RevisionAttempts : c.state.s03RevisionAttempts = 0
  s06Decision : c.state.s06Decision = none

theorem converged_sampleCase (strategies : List SolutionStrategy) :
    Converged ⟨strategies⟩ (sampleCase strategies) where
  position := rfl
  ledger key execution h := by
    rw [sampleCase, Ledger.cached_empty] at h
    cases h
  completedNodes := by simp [sampleCase]
  portfolio := rfl
  artifactRefs := by simp [sampleCase, sampleRefs, ArtifactRef.artifactType, Artifact.artifactType]
  s01EligibleStrategyIds := rfl
  s01NormalizedFactors := rfl
  s01Scores := rfl
  s01RankedStrategyIds := rfl
  s01RoutingDecision := rfl
  s01ExcludedStrategyIds := List.nodup_nil
  s02RevisionAttempts := rfl
  s03RevisionAttempts := rfl
  s06Decision := rfl

/-- Every recorded intent of the shared workflow wrote what its node may write. -/
def WritesSound (ledger : Ledger) : Prop :=
  ∀ key execution, ledger.cached key = some execution → key.node ∈ catalog →
    WritesOnly (nodeFields key.node) (nodeTypes key.node) execution

theorem Converged.writesSound {portfolio : SolutionPortfolio} {c : Config}
    (h : Converged portfolio c) : WritesSound c.ledger := by
  intro key execution hcached hmem
  exact absurd (stage_of_mem_catalog _ hmem) (h.ledger key execution hcached)

theorem execute_registered {A : Type} {registry : Registry A} {n : NodeId} {answers : A}
    {s : OptimizationState} {ledger : Ledger} {visit : Visit}
    (h : execute registry n answers s ledger = .ok visit) : registry n ≠ none := by
  intro hnone
  unfold execute at h
  rw [hnone] at h
  cases h

structure SharedSpec (c : Config) (visit : Visit) (c' : Config) : Prop where
  position : c.position = some visit.node
  registered : visit.node ∈ catalog
  key : visit.key = deriveIdempotencyKey visit.node c.state
  committed : Committed visit.node visit.execution c.state c'.state
  next : c'.position = nextPosition visit.node c'.state
  writes : WritesOnly (nodeFields visit.node) (nodeTypes visit.node) visit.execution
  replayed : visit.replayed = true → c.ledger.cached visit.key = some visit.execution
  fresh : visit.replayed = false → c.ledger.cached visit.key = none ∧ ∃ a,
    nodeHandler visit.node a c.state = .ok visit.execution
  declared : visit.replayed = false → visit.execution.route ∈ declaredRoutes visit.node
  cached_mono : ∀ key execution, c.ledger.cached key = some execution →
    c'.ledger.cached key = some execution
  recorded : c'.ledger.cached visit.key = some visit.execution
  cached_cases : ∀ key execution, c'.ledger.cached key = some execution →
    c.ledger.cached key = some execution ∨ (key = visit.key ∧ execution = visit.execution)

theorem SharedStep.sharedSpec {c c' : Config} {visit : Visit} (hw : WritesSound c.ledger)
    (h : SharedStep c visit c') : SharedSpec c visit c' := by
  obtain ⟨a, hpos, hkey, hcommit, hsource, hnext⟩ := h.spec
  have hregistered : visit.node ∈ catalog := by
    obtain ⟨n, a', hpos', hexec, _⟩ := h.executed
    cases hpos.symm.trans hpos'
    obtain ⟨node, hnode⟩ := Option.ne_none_iff_exists'.mp (execute_registered hexec)
    exact mem_catalog (sharedRegistry_some hnode).1
  refine ⟨hpos, hregistered, hkey, hcommit, hnext, ?_, ?_, ?_, ?_, ?_, ?_, ?_⟩
  · cases hflag : visit.replayed with
    | true =>
      obtain ⟨execution, hcached⟩ := Option.isSome_iff_exists.mp (hsource.replayed_iff.mp hflag)
      have hsame := hsource.cached_mono hcached
      rw [hsource.cached_self] at hsame
      cases hsame
      exact hw visit.key _ hcached hregistered
    | false => exact nodeHandler_writes _ _ _ _ (fresh_handler hsource hflag).1
  · intro hflag
    obtain ⟨execution, hcached⟩ := Option.isSome_iff_exists.mp (hsource.replayed_iff.mp hflag)
    have hsame := hsource.cached_mono hcached
    rw [hsource.cached_self] at hsame
    cases hsame
    exact hcached
  · intro hflag
    refine ⟨?_, a, (fresh_handler hsource hflag).1⟩
    cases hcached : c.ledger.cached visit.key with
    | none => rfl
    | some execution =>
      have hreplayed := hsource.replayed_iff.mpr (by rw [hcached]; rfl)
      rw [hflag] at hreplayed
      cases hreplayed
  · intro hflag
    exact (fresh_handler hsource hflag).2.1
  · intro key execution hcached
    rw [h.ledger]
    exact hsource.cached_mono hcached
  · rw [h.ledger]
    exact hsource.cached_self
  · intro key execution hcached
    rw [h.ledger] at hcached
    exact hsource.cached_cases hcached

namespace SharedSpec
variable {c c' : Config} {visit : Visit}

theorem get (h : SharedSpec c visit c') {f : Field} (hf : f ∉ nodeFields visit.node) :
    c'.state.get f = c.state.get f :=
  h.committed.get_of_writesOnly h.writes hf

/-- An execution is read back from the ledger or comes out of its node's handler. -/
theorem origin (h : SharedSpec c visit c') {n : NodeId} (hnode : visit.node = n) :
    c.ledger.cached visit.key = some visit.execution ∨
      ∃ a, nodeHandler n a c.state = .ok visit.execution := by
  subst hnode
  cases hflag : visit.replayed with
  | true => exact Or.inl (h.replayed hflag)
  | false => exact Or.inr (h.fresh hflag).2

/-- The keys of S01 carry no pass number and do not change along a run. -/
theorem s01_key (h : SharedSpec c visit c') (number : Nat) :
    deriveIdempotencyKey ⟨.S01, number⟩ c'.state = deriveIdempotencyKey ⟨.S01, number⟩ c.state := by
  unfold deriveIdempotencyKey
  rw [h.committed.caseId, h.committed.resumeTargetNode, h.committed.resumeAttempts]
  rfl

theorem writesSound (h : SharedSpec c visit c') (hw : WritesSound c.ledger) :
    WritesSound c'.ledger := by
  intro key execution hcached hmem
  rcases h.cached_cases key execution hcached with hold | ⟨rfl, rfl⟩
  · exact hw key execution hold hmem
  · exact h.writes

theorem ref_of_type (h : SharedSpec c visit c') {ref : ArtifactRef}
    (hr : ref ∈ c'.state.artifactRefs) (ht : ref.artifactType ∉ nodeTypes visit.node) :
    ref ∈ c.state.artifactRefs :=
  h.committed.ref_of_writesOnly h.writes hr ht

end SharedSpec

/-- A replayed execution brings no new refs: they were committed when it was recorded. -/
def RefsCommitted (c : Config) : Prop :=
  ∀ key execution, c.ledger.cached key = some execution → key.node ∈ catalog →
    ∀ ref ∈ execution.artifactRefs, ref ∈ c.state.artifactRefs

theorem Converged.refsCommitted {portfolio : SolutionPortfolio} {c : Config}
    (h : Converged portfolio c) : RefsCommitted c := by
  intro key execution hcached hmem
  exact absurd (stage_of_mem_catalog _ hmem) (h.ledger key execution hcached)

theorem RefsCommitted.step {c c' : Config} {visit : Visit} (hrefs : RefsCommitted c)
    (h : SharedSpec c visit c') : RefsCommitted c' := by
  intro key execution hcached hmem ref href
  rcases h.cached_cases key execution hcached with hold | ⟨rfl, rfl⟩
  · exact h.committed.artifactRefs_mono (hrefs key execution hold hmem ref href)
  · exact h.committed.artifactRefs_mem href

/-- A ref of a type with one writer was there before, or that node has just sealed it. -/
theorem RefsCommitted.sealed_cases {c c' : Config} {visit : Visit} (hrefs : RefsCommitted c)
    (h : SharedSpec c visit c') {writer : NodeId} {ref : ArtifactRef}
    (honly : ∀ n ∈ catalog, ref.artifactType ∈ nodeTypes n → n = writer)
    (href : ref ∈ c'.state.artifactRefs) :
    ref ∈ c.state.artifactRefs ∨
      (visit.node = writer ∧ visit.replayed = false ∧ ref ∈ visit.execution.artifactRefs) := by
  rcases h.committed.mem_artifactRefs href with hold | hnew
  · exact Or.inl hold
  · cases hflag : visit.replayed with
    | true => exact Or.inl (hrefs _ _ (h.replayed hflag) h.registered ref hnew)
    | false => exact Or.inr ⟨honly _ h.registered (h.writes.type_mem hnew), rfl, hnew⟩

theorem writesSound_of_run {c₀ c : Config} {tr : SharedTrace} (h0 : WritesSound c₀.ledger)
    (hrun : Run SharedStep c₀ tr c) : WritesSound c.ledger :=
  hrun.invariant (I := fun c => WritesSound c.ledger) h0
    fun _ _ _ hw hstep => (SharedStep.sharedSpec hw hstep).writesSound hw

/-! ### Who writes what

The writers of the channels that the stage edges depend on. -/

theorem s03RevisionAttempts_writers : ∀ n ∈ catalog, .s03RevisionAttempts ∈ nodeFields n →
    n = ⟨.S04, 90⟩ ∨ n = ⟨.S06, 80⟩ := by decide +kernel

theorem s03CompletedTaskIds_writers : ∀ n ∈ catalog, .s03CompletedTaskIds ∈ nodeFields n →
    n = ⟨.S04, 90⟩ := by decide +kernel

theorem s03ActivePhaseId_writers : ∀ n ∈ catalog, .s03ActivePhaseId ∈ nodeFields n →
    n = ⟨.S03, 10⟩ := by decide +kernel

theorem s06Decision_writers : ∀ n ∈ catalog, .s06Decision ∈ nodeFields n →
    n = ⟨.S06, 50⟩ ∨ n = ⟨.S06, 70⟩ ∨ n = ⟨.S06, 80⟩ := by decide +kernel

theorem verificationReport_writers : ∀ n ∈ catalog, .verificationReport ∈ nodeTypes n →
    n = ⟨.S04, 90⟩ := by decide +kernel

end ProductionOptimizer
