import ProductionOptimizer.SelectionChain
import ProductionOptimizer.RevertFallback
import ProductionOptimizer.PassSteps

/-!
# The plan of a fallback strategy

`S02.81` seals the plan and the task list of a case under ids that carry no pass. Once a
strategy with a plan was reverted, no other plan can be sealed: the selection it belongs to
is missing, and where it is supplied the new plan conflicts with the old one.
-/

namespace ProductionOptimizer
open Runs NumberedLog
set_option autoImplicit false

/-- A selection sealed under as many exclusions as the run began with. -/
def FirstSelection (base : List String) (digest : Artifact) : Prop :=
  ∃ now ranking portfolio strategyId approval excluded,
    digest = .selectedSolution now ranking portfolio strategyId approval excluded ∧
      excluded.length = base.length

def FirstPlan (base : List String) (ref : ArtifactRef) : Prop :=
  ∃ now selected phases, ref = ⟨.base, .executionPlan now selected phases⟩ ∧
    FirstSelection base selected

/-- What `S06.80` writes: only a revert touches the exclusions, and it adds to them. -/
def Decides (base : List String) (execution : NodeExecution) : Prop :=
  ∃ outcome updates, execution.updates = .s06Decision outcome :: updates ∧
    ((outcome = .revert ∧ ∃ ids, updates = [.s01ExcludedStrategyIds ids] ∧
        base.length < ids.length) ∨
      (outcome ≠ .revert ∧ (updates = [] ∨ ∃ total, updates = [.s03RevisionAttempts total])))

/-- The nodes between the decision and its seal. -/
def decidingNodes : List NodeId := [⟨.S06, 60⟩, ⟨.S06, 70⟩, ⟨.S06, 80⟩]

def Grown (base : List String) (c : Config) : Prop :=
  base.length < c.state.s01ExcludedStrategyIds.length

def HoldsPlan (c : Config) : Prop :=
  ∃ ref ∈ c.state.artifactRefs, ref.artifactType = .executionPlan

/-- What the stages leave behind for the next plan. -/
structure FallbackInv (base : List String) (c : Config) : Prop where
  decides : ∀ key execution, c.ledger.cached key = some execution → key.node = ⟨.S06, 80⟩ →
    Decides base execution
  decided : c.state.s06Decision = some .revert → Grown base c ∨
    ∃ n ∈ decidingNodes, c.position = some n
  selections : ∀ ref ∈ c.state.artifactRefs, ref.artifactType = .selectedSolution →
    FirstSelection base ref.contentDigest
  plans : ∀ ref ∈ c.state.artifactRefs, ref.artifactType = .executionPlan → FirstPlan base ref
  implemented : ∀ key execution, c.ledger.cached key = some execution →
    key.node = ⟨.S03, 10⟩ → HoldsPlan c
  planned : ∀ n, c.position = some n → n.stage ∉ [Stage.S01, .S02] → n ≠ ⟨.S03, 10⟩ → HoldsPlan c

/-- A converged case that no plan has been sealed for. -/
structure Unplanned (portfolio : SolutionPortfolio) (c : Config) : Prop
    extends Converged portfolio c where
  noPlan : ∀ ref ∈ c.state.artifactRefs, ref.artifactType ≠ .executionPlan

theorem Unplanned.fallbackInv {portfolio : SolutionPortfolio} {c : Config}
    (h : Unplanned portfolio c) : FallbackInv c.state.s01ExcludedStrategyIds c where
  decides key execution hcached hnode := by
    refine absurd ?_ (h.ledger key execution hcached)
    rw [hnode]
    decide
  decided hdecision := by
    rw [h.s06Decision] at hdecision
    cases hdecision
  selections ref href htype := absurd htype (h.artifactRefs ref href).1
  plans ref href htype := absurd htype (h.noPlan ref href)
  implemented key execution hcached hnode := by
    refine absurd ?_ (h.ledger key execution hcached)
    rw [hnode]
    decide
  planned n hn hstage := by
    rw [h.position] at hn
    cases hn
    exact absurd (by decide) hstage

theorem executionPlan_writers : ∀ n ∈ catalog, .executionPlan ∈ nodeTypes n →
    n = ⟨.S02, 81⟩ := by decide +kernel

theorem handleS0281_plan {a : Answers} {s : OptimizationState} {execution : NodeExecution}
    (h : handleS0281 a s = .ok execution) {ref : ArtifactRef}
    (href : ref ∈ execution.artifactRefs) (htype : ref.artifactType = .executionPlan) :
    ∃ selectedRef, s.selectedSolutionRef = .ok selectedRef ∧
      ref = ⟨.base, .executionPlan a.now selectedRef.contentDigest s.s02PlanDraft.phases⟩ := by
  obtain ⟨selectedRef, hselected, h⟩ := except_bind_ok h
  obtain ⟨snapshot, _, h⟩ := except_bind_ok h
  dsimp only at h
  refine ⟨selectedRef, hselected, ?_⟩
  split at h
  · cases h
    simp only [List.mem_cons, List.not_mem_nil, or_false] at href
    rcases href with rfl | rfl | rfl
    · rfl
    · cases htype
    · cases htype
  · cases h
    rw [List.mem_singleton.mp href] at htype
    cases htype

theorem handleS0310_plan {a : Answers} {s : OptimizationState} {execution : NodeExecution}
    (h : handleS0310 a s = .ok execution) :
    ∃ ref ∈ s.artifactRefs, ref.artifactType = .executionPlan := by
  unfold handleS0310 at h
  split at h
  · cases h
  · obtain ⟨phases, hplan, _⟩ := except_bind_ok h
    obtain ⟨ref, href, _⟩ := except_bind_ok hplan
    exact ⟨ref, OptimizationState.requireRef_ok href⟩

section Step
variable {portfolio : SolutionPortfolio} {base : List String} {c c' : Config} {visit : Visit}

theorem HoldsPlan.step (hplan : HoldsPlan c) (h : SharedSpec c visit c') : HoldsPlan c' := by
  obtain ⟨ref, href, htype⟩ := hplan
  exact ⟨ref, h.committed.artifactRefs_mono href, htype⟩

/-- A revert excludes the strategy in force, which was available when the run began. -/
theorem decides_of_handler (hbase : base.Nodup) (hchain : ChainInv portfolio base c) {a : Answers}
    {execution : NodeExecution} (h : handleS0680 a c.state = .ok execution) :
    Decides base execution := by
  obtain ⟨_, _, updates, _, _, _, _, hdecision, hupdates⟩ := handleS0680_ok h
  refine ⟨_, updates, hupdates, ?_⟩
  rcases decisionUpdates_cases c.state hdecision with
    ⟨_, hrevert, rfl⟩ | ⟨hfix, rfl⟩ | ⟨selected, hrevert, hselected, rfl⟩
  · exact Or.inr ⟨hrevert, Or.inl rfl⟩
  · refine Or.inr ⟨?_, Or.inr ⟨_, rfl⟩⟩
    rw [hfix]
    decide
  · refine Or.inl ⟨hrevert, _, rfl, ?_⟩
    obtain ⟨hlength, _, hnot⟩ := available_of_readSelected hchain hselected
    have hperm : base.Perm c.state.s01ExcludedStrategyIds :=
      (hbase.subperm (hchain.state .s01ExcludedStrategyIds)).perm_of_length_le hlength.le
    rw [← hlength]
    exact length_lt_sortedSet (hperm.nodup hbase) fun hmem => hnot (hperm.mem_iff.mpr hmem)

theorem decides_of_step (hbase : base.Nodup) (hchain : ChainInv portfolio base c)
    (hinv : FallbackInv base c) (h : SharedSpec c visit c') (hnode : visit.node = ⟨.S06, 80⟩) :
    Decides base visit.execution := by
  rcases h.origin hnode with hcached | ⟨a, hhandler⟩
  · exact hinv.decides _ _ hcached hnode
  · exact decides_of_handler hbase hchain hhandler

theorem grown_of_decides (h : SharedSpec c visit c') (hdecides : Decides base visit.execution) :
    Grown base c' ∨ (c'.state.s06Decision ≠ some .revert ∧
      c'.state.s01ExcludedStrategyIds = c.state.s01ExcludedStrategyIds) := by
  obtain ⟨outcome, updates, hupdates, hcases⟩ := hdecides
  have hget := h.committed.get
  rw [hupdates] at hget
  rcases hcases with ⟨_, ids, rfl, hlength⟩ | ⟨hrevert, rfl | ⟨total, rfl⟩⟩
  · left
    rw [Grown, show c'.state.s01ExcludedStrategyIds = _ from hget .s01ExcludedStrategyIds]
    exact hlength
  · right
    rw [show c'.state.s06Decision = _ from hget .s06Decision]
    exact ⟨fun heq => hrevert (Option.some.inj heq), hget .s01ExcludedStrategyIds⟩
  · right
    rw [show c'.state.s06Decision = _ from hget .s06Decision]
    exact ⟨fun heq => hrevert (Option.some.inj heq), hget .s01ExcludedStrategyIds⟩

theorem Grown.step (hbase : base.Nodup) (hchain : ChainInv portfolio base c)
    (hinv : FallbackInv base c) (h : SharedSpec c visit c') (hgrown : Grown base c) :
    Grown base c' := by
  have hkept : c'.state.s01ExcludedStrategyIds = c.state.s01ExcludedStrategyIds →
      Grown base c' := by
    intro heq
    rw [Grown, heq]
    exact hgrown
  by_cases hnode : visit.node = ⟨.S06, 80⟩
  · rcases grown_of_decides h (decides_of_step hbase hchain hinv h hnode) with hg | ⟨_, heq⟩
    · exact hg
    · exact hkept heq
  · refine hkept (h.get (f := .s01ExcludedStrategyIds) fun hf => hnode ?_)
    exact s01ExcludedStrategyIds_writers _ h.registered hf

theorem position_of_linear (h : SharedSpec c visit c') {n : NodeId}
    (hinner : ∀ route, innerNext visit.node route = some n) : c'.position = some n := by
  rw [h.next, nextPosition, hinner]

theorem decided_step (hbase : base.Nodup) (hchain : ChainInv portfolio base c)
    (hinv : FallbackInv base c) (h : SharedSpec c visit c')
    (hdecision : c'.state.s06Decision = some .revert) :
    Grown base c' ∨ ∃ n ∈ decidingNodes, c'.position = some n := by
  by_cases h80 : visit.node = ⟨.S06, 80⟩
  · rcases grown_of_decides h (decides_of_step hbase hchain hinv h h80) with hg | ⟨hne, _⟩
    · exact Or.inl hg
    · exact absurd hdecision hne
  by_cases h50 : visit.node = ⟨.S06, 50⟩
  · refine Or.inr ⟨⟨.S06, 60⟩, by decide, position_of_linear h fun route => ?_⟩
    rw [h50]
    rfl
  by_cases h60 : visit.node = ⟨.S06, 60⟩
  · refine Or.inr ⟨⟨.S06, 70⟩, by decide, position_of_linear h fun route => ?_⟩
    rw [h60]
    rfl
  by_cases h70 : visit.node = ⟨.S06, 70⟩
  · refine Or.inr ⟨⟨.S06, 80⟩, by decide, position_of_linear h fun route => ?_⟩
    rw [h70]
    rfl
  -- Every other node leaves the decision, so it was made before and sealed.
  have hkept : c'.state.s06Decision = c.state.s06Decision := by
    refine h.get (f := .s06Decision) fun hf => ?_
    rcases s06Decision_writers _ h.registered hf with hw | hw | hw
    · exact h50 hw
    · exact h70 hw
    · exact h80 hw
  rw [hkept] at hdecision
  rcases hinv.decided hdecision with hg | ⟨n, hn, hpos⟩
  · exact Or.inl (hg.step hbase hchain hinv h)
  · cases h.position.symm.trans hpos
    simp only [decidingNodes, List.mem_cons, List.not_mem_nil, or_false] at hn
    rcases hn with hn | hn | hn
    · exact absurd hn h60
    · exact absurd hn h70
    · exact absurd hn h80

theorem selections_step (hchain : ChainInv portfolio base c) (hinv : FallbackInv base c)
    (h : SharedSpec c visit c') :
    ∀ ref ∈ c'.state.artifactRefs, ref.artifactType = .selectedSolution →
      FirstSelection base ref.contentDigest := by
  intro ref href htype
  rcases selection_cases hchain h href htype with hold | ⟨_, _, _, _, _, _, rfl⟩
  · exact hinv.selections ref hold htype
  · exact ⟨_, _, _, _, _, _, rfl, rfl⟩

theorem plans_step (hchain : ChainInv portfolio base c) (hinv : FallbackInv base c)
    (h : SharedSpec c visit c') :
    ∀ ref ∈ c'.state.artifactRefs, ref.artifactType = .executionPlan → FirstPlan base ref := by
  intro ref href htype
  have honly : ∀ n ∈ catalog, ref.artifactType ∈ nodeTypes n → n = ⟨.S02, 81⟩ := by
    rw [htype]
    exact executionPlan_writers
  rcases hchain.committedRefs.sealed_cases h honly href with hold | ⟨hnode, hflag, hnew⟩
  · exact hinv.plans ref hold htype
  · obtain ⟨_, a, hhandler⟩ := h.fresh hflag
    rw [hnode] at hhandler
    obtain ⟨selectedRef, hselected, rfl⟩ := handleS0281_plan hhandler hnew htype
    obtain ⟨hmem, hsealed, _⟩ := OptimizationState.requireStageRef_ok hselected
    exact ⟨_, _, _, rfl, hinv.selections _ hmem hsealed⟩

theorem holdsPlan_of_first (hinv : FallbackInv base c) (h : SharedSpec c visit c')
    (hnode : visit.node = ⟨.S03, 10⟩) : HoldsPlan c := by
  rcases h.origin hnode with hcached | ⟨a, hhandler⟩
  · exact hinv.implemented _ _ hcached hnode
  · exact handleS0310_plan hhandler

theorem holdsPlan_of_later (hinv : FallbackInv base c) (h : SharedSpec c visit c')
    (hstage : visit.node.stage ∉ [Stage.S01, .S02]) : HoldsPlan c' := by
  by_cases hnode : visit.node = ⟨.S03, 10⟩
  · exact (holdsPlan_of_first hinv h hnode).step h
  · exact (hinv.planned _ h.position hstage hnode).step h

theorem later_of_position (h : SharedSpec c visit c') {n : NodeId} (hpos : c'.position = some n)
    (hstage : n.stage ∉ [Stage.S01, .S02]) (hn : n ≠ ⟨.S03, 10⟩) :
    visit.node.stage ∉ [Stage.S01, .S02] := by
  intro hearly
  rw [h.next] at hpos
  rcases nextPosition_cases hpos with hinner | ⟨_, stage, houter, rfl⟩
  · obtain ⟨_, ⟨_, rfl⟩ | ⟨_, rfl⟩ | ⟨_, hnext⟩⟩ := innerNext_cases hinner
    · exact hstage hearly
    · exact hstage (by decide)
    · rcases hnext with rfl | rfl
      · exact hstage (by decide)
      · exact hstage (by decide)
  · simp only [List.mem_cons, List.not_mem_nil, or_false] at hearly
    rcases hearly with hs | hs
    · rw [hs] at houter
      rw [(completedGate_some houter).2] at hstage
      exact hstage (by decide)
    · rw [hs] at houter
      rw [(completedGate_some houter).2] at hn
      exact hn rfl

theorem FallbackInv.step (hbase : base.Nodup) (hchain : ChainInv portfolio base c)
    (hinv : FallbackInv base c) (h : SharedSpec c visit c') : FallbackInv base c' where
  decides key execution hcached hnode := by
    rcases h.cached_cases key execution hcached with hold | ⟨rfl, rfl⟩
    · exact hinv.decides key execution hold hnode
    · exact decides_of_step hbase hchain hinv h hnode
  decided := decided_step hbase hchain hinv h
  selections := selections_step hchain hinv h
  plans := plans_step hchain hinv h
  implemented key execution hcached hnode := by
    rcases h.cached_cases key execution hcached with hold | ⟨rfl, rfl⟩
    · exact (hinv.implemented key execution hold hnode).step h
    · exact (holdsPlan_of_first hinv h hnode).step h
  planned n hpos hstage hn := holdsPlan_of_later hinv h (later_of_position h hpos hstage hn)

end Step

/-- The state in which `S02.81` judges a draft for the fallback. S01 has sealed a selection
for it, or has not. -/
def planningState (s : OptimizationState) (selection : Option ArtifactRef) (draft : PlanDraft) :
    OptimizationState :=
  { s with
    artifactRefs := s.artifactRefs ++ selection.toList
    s02PlanDraft := draft
    s02CritiqueApproved := true }

/-- A selection of the pass that the exclusions of `s` open. -/
def SelectionOf (s : OptimizationState) (ref : ArtifactRef) : Prop :=
  ∃ now ranking portfolio strategyId approval,
    ref = ⟨.stagePass ⟨.S01, 90⟩ s.s01ExcludedStrategyIds.length,
      .selectedSolution now ranking portfolio strategyId approval s.s01ExcludedStrategyIds⟩

def Accepted (a : Answers) (draft : PlanDraft) : Prop :=
  (planQuality draft true (a.repositoryPaths.map normalizeRepoPath)).all (·.passed) = true

instance (a : Answers) (draft : PlanDraft) : Decidable (Accepted a draft) :=
  inferInstanceAs (Decidable (_ = _))

def firstPhaseWithTasks (phases : List ExecutionPhase) (tasks : List PlanTask) : Option String :=
  ((sortBySequence phases).find? fun phase =>
    !(phaseTaskIds tasks phase.phaseId).isEmpty).map (·.phaseId)

/-- The plan and the task list in force are those of the present selection, and `S03.10`
begins with the first phase. -/
structure OwnPlan (draft : PlanDraft) (s : OptimizationState) : Prop where
  plan : ∃ now selectedRef, s.selectedSolutionRef = .ok selectedRef ∧
    s.requireRef .executionPlan =
      .ok ⟨.base, .executionPlan now selectedRef.contentDigest draft.phases⟩
  tasks : s.readTaskList = .ok draft.tasks
  first : ∀ a execution, handleS0310 a s = .ok execution →
    ∀ phaseId, firstPhaseWithTasks draft.phases draft.tasks = some phaseId →
      .s03ActivePhaseId phaseId ∈ execution.updates

def GetsOwnPlan (a : Answers) (draft : PlanDraft) (s : OptimizationState) : Prop :=
  ∃ execution s', handleS0281 a s = .ok execution ∧ commit ⟨.S02, 81⟩ execution s = .ok s' ∧
    OwnPlan draft s'

theorem content_of_merge {left right out : List ArtifactRef} {ref existing : ArtifactRef}
    (h : mergeArtifactRefs left (ref :: right) = .ok out) (hmem : existing ∈ left)
    (hkey : ref.sameKey existing = true) :
    ∃ found ∈ left, ref.sameKey found = true ∧ found.contentDigest = ref.contentDigest := by
  simp only [mergeArtifactRefs, mergeArtifactRef] at h
  cases hfind : left.find? (ref.sameKey ·) with
  | none => exact absurd hkey (List.find?_eq_none.mp hfind existing hmem)
  | some found =>
    rw [hfind] at h
    by_cases hc : found.contentDigest = ref.contentDigest
    · exact ⟨found, List.mem_of_find?_eq_some hfind, List.find?_some hfind, hc⟩
    · simp only [hc, if_false] at h
      cases h

theorem handleS0281_accepted {a : Answers} {s : OptimizationState} {execution : NodeExecution}
    (h : handleS0281 a s = .ok execution) (hcritic : s.s02CritiqueApproved = true)
    (haccepted : Accepted a s.s02PlanDraft) :
    ∃ selectedRef rest, s.selectedSolutionRef = .ok selectedRef ∧ execution.artifactRefs =
      ⟨.base, .executionPlan a.now selectedRef.contentDigest s.s02PlanDraft.phases⟩ :: rest := by
  obtain ⟨selectedRef, hselected, h⟩ := except_bind_ok h
  obtain ⟨snapshot, _, h⟩ := except_bind_ok h
  have hall : (planQuality s.s02PlanDraft s.s02CritiqueApproved
      (a.repositoryPaths.map normalizeRepoPath)).all (·.passed) = true := by
    rw [hcritic]
    exact haccepted
  dsimp only at h
  rw [if_pos hall] at h
  cases h
  exact ⟨selectedRef, _, hselected, rfl⟩

section Fallback
variable {portfolio : SolutionPortfolio} {c₀ c : Config} {tr : SharedTrace}

/-- A revert leaves through the decision that `S06.80` has sealed. -/
theorem grown_of_revertEdge {base : List String} {t : Transition Config Visit}
    (hinv : FallbackInv base t.after) (h : SharedSpec t.before t.label t.after)
    (hrevert : RevertEdge t) : Grown base t.after := by
  obtain ⟨hstage, hpos⟩ := hrevert
  have hnext := h.next
  rw [hpos] at hnext
  rcases nextPosition_cases hnext.symm with hinner | ⟨_, stage, houter, hfirst⟩
  · obtain ⟨_, ⟨_, hn⟩ | ⟨hnode, _⟩ | ⟨hnode, _⟩⟩ := innerNext_cases hinner
    · have hsame := congrArg NodeId.stage hn
      rw [hstage] at hsame
      cases hsame
    · rw [hnode] at hstage
      cases hstage
    · rw [hnode] at hstage
      cases hstage
  · rw [hstage] at houter
    rcases outerNext_s06 houter with ⟨_, rfl⟩ | ⟨_, _, rfl⟩ | ⟨hdecision, _⟩
    · cases hfirst
    · cases hfirst
    · rcases hinv.decided hdecision with hg | ⟨n, hn, hat⟩
      · exact hg
      · cases hpos.symm.trans hat
        exact absurd hn (by decide)

/-- Whatever a run does after a revert, the exclusions have grown and the plan of the
reverted strategy is still held. -/
theorem reverted_of_run (hstart : Unplanned portfolio c₀) (hrun : Run SharedStep c₀ tr c) :
    ChainInv portfolio c₀.state.s01ExcludedStrategyIds c ∧
      FallbackInv c₀.state.s01ExcludedStrategyIds c ∧
      ((∃ t ∈ tr, RevertEdge t) →
        Grown c₀.state.s01ExcludedStrategyIds c ∧ HoldsPlan c) := by
  have hbase := hstart.s01ExcludedStrategyIds
  induction hrun with
  | nil => exact ⟨hstart.chainInv, hstart.fallbackInv, fun ⟨_, hmem, _⟩ => by cases hmem⟩
  | @snoc tr s s' visit hrun hstep ih =>
    obtain ⟨hchain, hinv, hold⟩ := ih
    have hspec := SharedStep.sharedSpec hchain.writes hstep
    have hinv' := hinv.step hbase hchain hspec
    refine ⟨hchain.step hspec, hinv', ?_⟩
    rintro ⟨t, hmem, hrevert⟩
    rcases List.mem_cons.mp hmem with rfl | hmem
    · refine ⟨grown_of_revertEdge hinv' hspec hrevert, holdsPlan_of_later hinv hspec ?_⟩
      intro hearly
      rw [hrevert.1] at hearly
      exact absurd hearly (by decide)
    · obtain ⟨hgrown, hplan⟩ := hold ⟨t, hmem, hrevert⟩
      exact ⟨hgrown.step hbase hchain hinv hspec, hplan.step hspec⟩

end Fallback

/-! ### Two strategies, the first of which is reverted -/

def twoStrategies : Config :=
  sampleCase [sampleStrategy "s1" .prompt, sampleStrategy "s2" .prompt]

theorem unplanned_sampleCase (strategies : List SolutionStrategy) :
    Unplanned ⟨strategies⟩ (sampleCase strategies) where
  toConverged := converged_sampleCase strategies
  noPlan := by simp [sampleCase, sampleRefs, ArtifactRef.artifactType, Artifact.artifactType]

def sampleDraft : PlanDraft :=
  { phases := sampleAnswers.draftPhases
    tasks := sampleAnswers.draftTasks
    acceptanceCoverage := sampleAnswers.draftCoverage
    rollbackOk := true }

def secondSelection (s : OptimizationState) : ArtifactRef :=
  ⟨.stagePass ⟨.S01, 90⟩ s.s01ExcludedStrategyIds.length,
    .selectedSolution 1 .absent .absent "s2" ⟨.autoSelected, none, none, s01PolicyVersion⟩
      s.s01ExcludedStrategyIds⟩

def sealingConflicts (a : Answers) (s : OptimizationState) : Bool :=
  match handleS0281 a s with
  | .ok execution =>
    match commit ⟨.S02, 81⟩ execution s with
    | .error .artifactConflict => true
    | _ => false
  | .error _ => false

def revertedWithConflict (out : SharedTrace × Config) : Bool :=
  out.1.any (fun t => decide (RevertEdge t)) &&
    sealingConflicts sampleAnswers
      (planningState out.2.state (some (secondSelection out.2.state)) sampleDraft)

theorem exists_revertedRun :
    ∃ tr c, Run SharedStep twoStrategies tr c ∧ (∃ t ∈ tr, RevertEdge t) ∧
      sealingConflicts sampleAnswers
        (planningState c.state (some (secondSelection c.state)) sampleDraft) = true := by
  obtain ⟨tr, c, hrun, hcheck⟩ := exists_sharedRun twoStrategies
    (List.replicate 55 worseAnswers) revertedWithConflict (by decide +kernel)
  simp only [revertedWithConflict, Bool.and_eq_true, List.any_eq_true, decide_eq_true_eq] at hcheck
  exact ⟨tr, c, hrun, hcheck.1, hcheck.2⟩

end ProductionOptimizer
