import ProductionOptimizer.SharedRuns

/-!
# The strategies S01 hands on

Every id that the nodes of S01 pass to each other stands for a strategy of the portfolio
that was not excluded when the run began. `S01.90` is executed once in a run, so there is
one selection, sealed under the number of exclusions at that time.
-/

namespace ProductionOptimizer
open Runs NumberedLog
set_option autoImplicit false

/-- A strategy of the portfolio that was not excluded at the start of the run. -/
def Available (portfolio : SolutionPortfolio) (base : List String) (strategyId : String) : Prop :=
  strategyId ∈ portfolio.strategies.map (·.strategyId) ∧ strategyId ∉ base

/-- What the channels of the selection may hold. -/
def SoundValue (portfolio : SolutionPortfolio) (base : List String) : (f : Field) → f.Value → Prop
  | .s01EligibleStrategyIds, ids => ∀ strategyId ∈ ids, Available portfolio base strategyId
  | .s01NormalizedFactors, factors =>
    ∀ strategyId ∈ factors.map Prod.fst, Available portfolio base strategyId
  | .s01Scores, scores => ∀ score ∈ scores, Available portfolio base score.strategyId
  | .s01RankedStrategyIds, ids => ∀ strategyId ∈ ids, Available portfolio base strategyId
  | .s01RoutingDecision, decision =>
    ∀ routing, decision = some routing → Available portfolio base routing.winnerStrategyId
  | .s01ExcludedStrategyIds, ids => base ⊆ ids
  | _, _ => True

def SoundState (portfolio : SolutionPortfolio) (base : List String) (s : OptimizationState) :
    Prop :=
  ∀ f, SoundValue portfolio base f (s.get f)

def SoundUpdate (portfolio : SolutionPortfolio) (base : List String) (u : FieldUpdate) : Prop :=
  ∀ s, SoundValue portfolio base u.field ((u.set s).get u.field)

/-- The channels that `SoundValue` restricts, with the nodes that write them. -/
def chainFields : List Field :=
  [.s01EligibleStrategyIds, .s01NormalizedFactors, .s01Scores, .s01RankedStrategyIds,
   .s01RoutingDecision, .s01ExcludedStrategyIds]

theorem chainFields_writers : ∀ n ∈ catalog, ∀ f ∈ nodeFields n, f ∈ chainFields →
    n ∈ [⟨.S01, 20⟩, ⟨.S01, 30⟩, ⟨.S01, 40⟩, ⟨.S01, 50⟩, ⟨.S01, 70⟩, (⟨.S06, 80⟩ : NodeId)] := by
  decide +kernel

theorem selectedSolution_writers : ∀ n ∈ catalog, .selectedSolution ∈ nodeTypes n →
    n = ⟨.S01, 90⟩ := by decide +kernel

section Sound
variable {portfolio : SolutionPortfolio} {base : List String}

theorem soundValue_of_not_chain {f : Field} (h : f ∉ chainFields) (v : f.Value) :
    SoundValue portfolio base f v := by
  cases f <;> trivial

theorem SoundState.set {s : OptimizationState} (hs : SoundState portfolio base s)
    {u : FieldUpdate} (hu : SoundUpdate portfolio base u) :
    SoundState portfolio base (u.set s) := by
  intro f
  by_cases hf : u.field = f
  · subst hf
    exact hu s
  · rw [u.get_set_of_ne s hf]
    exact hs f

theorem SoundState.setAll {s : OptimizationState} (hs : SoundState portfolio base s)
    {updates : List FieldUpdate} (hu : ∀ u ∈ updates, SoundUpdate portfolio base u) :
    SoundState portfolio base (s.setAll updates) := by
  induction updates generalizing s with
  | nil => exact hs
  | cons u us ih =>
    obtain ⟨hhead, htail⟩ := List.forall_mem_cons.mp hu
    exact ih (hs.set hhead) htail

theorem soundUpdates_of_handler {n : NodeId} {a : Answers} {s : OptimizationState}
    {execution : NodeExecution} (hmem : n ∈ catalog) (hs : SoundState portfolio base s)
    (hportfolio : s.readPortfolio = .ok portfolio) (h : nodeHandler n a s = .ok execution) :
    ∀ u ∈ execution.updates, SoundUpdate portfolio base u := by
  intro u hu s'
  by_cases hchain : u.field ∈ chainFields
  · have hwriter := chainFields_writers n hmem u.field
      ((nodeHandler_writes n a s _ h).field_mem hu) hchain
    simp only [List.mem_cons, List.not_mem_nil, or_false] at hwriter
    rcases hwriter with rfl | rfl | rfl | rfl | rfl | rfl
    · obtain ⟨portfolio', hread, hok⟩ := except_bind_ok h
      cases hportfolio.symm.trans hread
      cases hok
      cases List.mem_singleton.mp hu
      intro strategyId hid
      obtain ⟨hknown, hnot⟩ := mem_eligibleIds hid
      exact ⟨hknown, fun hbase => hnot (hs .s01ExcludedStrategyIds hbase)⟩
    · obtain ⟨portfolio', _, hok⟩ := except_bind_ok h
      cases hok
      cases List.mem_singleton.mp hu
      intro strategyId hid
      exact hs .s01EligibleStrategyIds strategyId (mem_normalizedFactors hid)
    · obtain ⟨request, _, h⟩ := except_bind_ok h
      obtain ⟨portfolio', _, h⟩ := except_bind_ok h
      obtain ⟨scores, hscores, hok⟩ := except_bind_ok h
      cases hok
      cases List.mem_singleton.mp hu
      intro score hscore
      exact hs .s01NormalizedFactors _ (mem_scoreAll hscores hscore)
    · cases h
      cases List.mem_singleton.mp hu
      intro strategyId hid
      obtain ⟨score, hscore, rfl⟩ := mem_rank hid
      exact hs .s01Scores score hscore
    · obtain ⟨portfolio', _, h⟩ := except_bind_ok h
      split at h
      · cases h
      · rename_i winnerId rest hranked
        obtain ⟨winner, _, hok⟩ := except_bind_ok h
        cases hok
        cases List.mem_singleton.mp hu
        intro routing hrouting
        cases hrouting
        have hwinner : winnerId ∈ s.s01RankedStrategyIds := by
          rw [hranked]
          exact List.mem_cons_self
        exact hs .s01RankedStrategyIds winnerId hwinner
    · obtain ⟨_, _, updates, _, _, _, _, hdecision, heq⟩ := handleS0680_ok h
      rw [heq] at hu
      rcases List.mem_cons.mp hu with rfl | hu
      · trivial
      · rcases decisionUpdates_cases s hdecision with ⟨_, _, rfl⟩ | ⟨_, rfl⟩ | ⟨selected, _, _, rfl⟩
        · cases hu
        · cases List.mem_singleton.mp hu
          trivial
        · cases List.mem_singleton.mp hu
          intro strategyId hbase
          have hold : strategyId ∈ s.s01ExcludedStrategyIds := hs .s01ExcludedStrategyIds hbase
          exact mem_sortedSet.mpr (List.mem_append_left _ hold)
  · exact soundValue_of_not_chain hchain _

end Sound

/-- The ref of a selection made before any further exclusion. -/
def SealedFirst (portfolio : SolutionPortfolio) (base : List String) (ref : ArtifactRef) : Prop :=
  ref.artifactId = .stagePass ⟨.S01, 90⟩ base.length ∧
    ∀ now ranking portfolioDigest strategyId approval excluded,
      ref.contentDigest =
        .selectedSolution now ranking portfolioDigest strategyId approval excluded →
      Available portfolio base strategyId

/-- What holds of the selection along every run from a converged case with the exclusions
`base`. -/
structure ChainInv (portfolio : SolutionPortfolio) (base : List String) (c : Config) : Prop where
  writes : WritesSound c.ledger
  committedRefs : RefsCommitted c
  readPortfolio : c.state.readPortfolio = .ok portfolio
  state : SoundState portfolio base c.state
  updates : ∀ key execution, c.ledger.cached key = some execution → key.node ∈ catalog →
    ∀ u ∈ execution.updates, SoundUpdate portfolio base u
  completed : ⟨.S01, 90⟩ ∈ c.state.completedNodes →
    c.ledger.cached (deriveIdempotencyKey ⟨.S01, 90⟩ c.state) ≠ none
  first : ⟨.S01, 90⟩ ∉ c.state.completedNodes → c.state.s01ExcludedStrategyIds = base ∧
    ∀ n, c.position = some n → n.stage = .S01
  selected : ∀ ref ∈ c.state.artifactRefs, ref.artifactType = .selectedSolution →
    SealedFirst portfolio base ref

theorem Converged.chainInv {portfolio : SolutionPortfolio} {c : Config}
    (h : Converged portfolio c) : ChainInv portfolio c.state.s01ExcludedStrategyIds c where
  writes := h.writesSound
  committedRefs := h.refsCommitted
  readPortfolio := h.portfolio
  state f := by
    by_cases hf : f ∈ chainFields
    · simp only [chainFields, List.mem_cons, List.not_mem_nil, or_false] at hf
      rcases hf with rfl | rfl | rfl | rfl | rfl | rfl
      · simp [SoundValue, OptimizationState.get, h.s01EligibleStrategyIds]
      · simp [SoundValue, OptimizationState.get, h.s01NormalizedFactors]
      · simp [SoundValue, OptimizationState.get, h.s01Scores]
      · simp [SoundValue, OptimizationState.get, h.s01RankedStrategyIds]
      · simp [SoundValue, OptimizationState.get, h.s01RoutingDecision]
      · exact List.Subset.refl _
    · exact soundValue_of_not_chain hf _
  updates key execution hcached hmem :=
    absurd (stage_of_mem_catalog _ hmem) (h.ledger key execution hcached)
  completed hmem := absurd (by decide) (h.completedNodes _ hmem)
  first _ := by
    refine ⟨rfl, fun n hn => ?_⟩
    rw [h.position] at hn
    cases hn
    rfl
  selected ref href htype := absurd htype (h.artifactRefs ref href).1

section Step
variable {portfolio : SolutionPortfolio} {base : List String} {c c' : Config} {visit : Visit}

theorem readPortfolio_kept (h : SharedSpec c visit c')
    (hread : c.state.readPortfolio = .ok portfolio) : c'.state.readPortfolio = .ok portfolio := by
  obtain ⟨ref, href, hok⟩ := except_bind_ok hread
  unfold OptimizationState.readPortfolio
  rw [h.committed.requireRef_of_ok href]
  exact hok

theorem soundUpdates_of_step (hinv : ChainInv portfolio base c) (h : SharedSpec c visit c') :
    ∀ u ∈ visit.execution.updates, SoundUpdate portfolio base u := by
  rcases h.origin rfl with hcached | ⟨a, hhandler⟩
  · exact hinv.updates _ _ hcached h.registered
  · exact soundUpdates_of_handler h.registered hinv.state hinv.readPortfolio hhandler

theorem s01ExcludedStrategyIds_writers : ∀ n ∈ catalog, .s01ExcludedStrategyIds ∈ nodeFields n →
    n = ⟨.S06, 80⟩ := by decide +kernel

theorem first_step (hinv : ChainInv portfolio base c) (h : SharedSpec c visit c')
    (hnot : ⟨.S01, 90⟩ ∉ c'.state.completedNodes) : c'.state.s01ExcludedStrategyIds = base ∧
      ∀ n, c'.position = some n → n.stage = .S01 := by
  have hbefore : ⟨.S01, 90⟩ ∉ c.state.completedNodes :=
    fun hmem => hnot ((h.committed.completedNodes _).mpr (Or.inr hmem))
  obtain ⟨hexcluded, hstages⟩ := hinv.first hbefore
  have hstage := hstages _ h.position
  constructor
  · have hkept : c'.state.s01ExcludedStrategyIds = c.state.s01ExcludedStrategyIds := by
      refine h.get (f := .s01ExcludedStrategyIds) fun hf => ?_
      rw [s01ExcludedStrategyIds_writers _ h.registered hf] at hstage
      cases hstage
    rw [hkept, hexcluded]
  · intro n hn
    rw [h.next] at hn
    rcases nextPosition_cases hn with hinner | ⟨_, stage, houter, _⟩
    · obtain ⟨_, ⟨_, rfl⟩ | ⟨hnode, _⟩ | ⟨hnode, _⟩⟩ := innerNext_cases hinner
      · exact hstage
      · rw [hnode] at hstage
        cases hstage
      · rw [hnode] at hstage
        cases hstage
    · rw [hstage] at houter
      exact absurd (completedGate_some houter).1 hnot

/-- A selection is sealed once, before any exclusion of this run. -/
theorem selection_cases (hinv : ChainInv portfolio base c) (h : SharedSpec c visit c')
    {ref : ArtifactRef} (href : ref ∈ c'.state.artifactRefs)
    (htype : ref.artifactType = .selectedSolution) :
    ref ∈ c.state.artifactRefs ∨ ∃ now ranking portfolioDigest routing approval,
      c.state.s01RoutingDecision = some routing ∧
      ref = ⟨.stagePass ⟨.S01, 90⟩ base.length, .selectedSolution now ranking portfolioDigest
        routing.winnerStrategyId approval base⟩ := by
  have honly : ∀ n ∈ catalog, ref.artifactType ∈ nodeTypes n → n = ⟨.S01, 90⟩ := by
    rw [htype]
    exact selectedSolution_writers
  rcases hinv.committedRefs.sealed_cases h honly href with hold | ⟨hnode, hflag, hnew⟩
  · exact Or.inl hold
  · right
    obtain ⟨hnone, a, hhandler⟩ := h.fresh hflag
    have hroute := h.declared hflag
    rw [h.key, hnode] at hnone
    rw [hnode] at hhandler hroute
    obtain ⟨hexcluded, _⟩ := hinv.first fun hmem => hinv.completed hmem hnone
    obtain ⟨_, _, approval, routing, _, _, hrouting, hrefs, _⟩ :=
      handleS0190_ok hhandler (List.mem_singleton.mp hroute)
    rw [hrefs, List.mem_singleton, s01PassNumber, hexcluded] at hnew
    exact ⟨_, _, _, routing, approval, hrouting, hnew⟩

theorem selected_step (hinv : ChainInv portfolio base c) (h : SharedSpec c visit c') :
    ∀ ref ∈ c'.state.artifactRefs, ref.artifactType = .selectedSolution →
      SealedFirst portfolio base ref := by
  intro ref href htype
  rcases selection_cases hinv h href htype with hold | ⟨_, _, _, routing, _, hrouting, rfl⟩
  · exact hinv.selected ref hold htype
  · refine ⟨rfl, ?_⟩
    intro _ _ _ strategyId _ _ hcontent
    cases hcontent
    exact hinv.state .s01RoutingDecision routing hrouting

theorem ChainInv.step (hinv : ChainInv portfolio base c) (h : SharedSpec c visit c') :
    ChainInv portfolio base c' where
  writes := h.writesSound hinv.writes
  committedRefs := hinv.committedRefs.step h
  readPortfolio := readPortfolio_kept h hinv.readPortfolio
  state f := by
    rw [h.committed.get f]
    exact hinv.state.setAll (soundUpdates_of_step hinv h) f
  updates key execution hcached hmem := by
    rcases h.cached_cases key execution hcached with hold | ⟨rfl, rfl⟩
    · exact hinv.updates key execution hold hmem
    · exact soundUpdates_of_step hinv h
  completed hmem := by
    rw [h.s01_key]
    rcases (h.committed.completedNodes _).mp hmem with hnode | hold
    · rw [hnode, ← h.key, h.recorded]
      exact Option.some_ne_none _
    · obtain ⟨execution, hcached⟩ := Option.ne_none_iff_exists'.mp (hinv.completed hold)
      rw [h.cached_mono _ _ hcached]
      exact Option.some_ne_none _
  first := first_step hinv h
  selected := selected_step hinv h

/-- The strategy that the selection in force names. -/
theorem available_of_readSelected (hinv : ChainInv portfolio base c) {strategyId : String}
    (h : c.state.readSelected = .ok strategyId) :
    c.state.s01ExcludedStrategyIds.length = base.length ∧ Available portfolio base strategyId := by
  obtain ⟨ref, href, hok⟩ := except_bind_ok h
  obtain ⟨hmem, htype, hid⟩ := OptimizationState.requireStageRef_ok href
  obtain ⟨hfirst, hcontent⟩ := hinv.selected ref hmem htype
  rw [hid] at hfirst
  cases hdigest : ref.contentDigest with
  | selectedSolution now ranking portfolioDigest strategyId' approval excluded =>
    rw [hdigest] at hok
    cases hok
    exact ⟨by injection hfirst, hcontent _ _ _ _ _ _ hdigest⟩
  | _ =>
    rw [hdigest] at hok
    cases hok

end Step

end ProductionOptimizer
