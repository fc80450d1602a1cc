import ProductionOptimizer.PassSteps
import ProductionOptimizer.FixOnePart

/-!
# The loops are bounded

As long as S04 and S06 are never left early on a stale verdict or decision, S03 is entered
at most five times and a run reverts at most once.
-/

namespace ProductionOptimizer
open Runs NumberedLog
set_option autoImplicit false

structure RunInv (portfolio : SolutionPortfolio) (base : List String) (tr : SharedTrace)
    (c : Config) : Prop where
  pass : PassInv c
  chain : ChainInv portfolio base c
  plan : PlanInv c
  region : Region portfolio.strategies.length base tr c

section Step
variable {portfolio : SolutionPortfolio} {base : List String} {tr : SharedTrace}
  {c c' : Config} {visit : Visit}

theorem RunInv.planning (hinv : RunInv portfolio base tr c) (h : SharedSpec c visit c')
    (hnode : visit.node = ⟨.S02, 10⟩) : c.state.s02RevisionAttempts = 0 := by
  have hpos := hnode ▸ h.position
  cases hinv.region with
  | selecting n hpos' hb =>
    cases hpos.symm.trans hpos'
    exact hb.unplanned (Or.inr rfl)
  | looping n hpos' hl =>
    cases hpos.symm.trans hpos'
    exact absurd hl.stage (by decide)
  | reverted n hpos' ha =>
    cases hpos.symm.trans hpos'
    rw [← hnode] at ha
    exact absurd hnode (ha.not_planning hinv.chain hinv.plan h)
  | closed hclosed _ _ => cases hclosed _ hpos

theorem RunInv.planInv_step (hinv : RunInv portfolio base tr c) (h : SharedSpec c visit c') :
    PlanInv c' where
  counts key execution hcached hnode := by
    rcases h.cached_cases key execution hcached with hold | ⟨rfl, rfl⟩
    · exact hinv.plan.counts key execution hold hnode
    · exact planned_after_quality hinv.plan h hnode
  keys key execution hcached hnode := by
    rcases h.cached_cases key execution hcached with hold | ⟨rfl, _⟩
    · exact hinv.plan.keys key execution hold hnode
    · have hvisit : visit.node = ⟨.S02, 10⟩ := hnode
      rw [h.key, hvisit]
      exact hinv.planning h hvisit

theorem region_step (hbase : base.Nodup) (hinv : RunInv portfolio base tr c)
    (h : SharedSpec c visit c') (hclear : ClearExit ⟨c, visit, c'⟩) :
    PassOutcome portfolio.strategies.length base ⟨c, visit, c'⟩ tr := by
  have hpos := h.position
  cases hinv.region with
  | selecting n hpos' hb =>
    cases hpos.symm.trans hpos'
    refine ⟨hb.step hinv.pass hinv.plan h, ?_⟩
    rintro ⟨hstage | hstage, _⟩
    · exact absurd (show visit.node.stage ∈ loopStages by rw [hstage]; decide) hb.not_loop
    · exact absurd (show visit.node.stage ∈ loopStages by rw [hstage]; decide) hb.not_loop
  | looping n hpos' hl =>
    cases hpos.symm.trans hpos'
    exact hl.step hinv.pass hinv.plan hinv.chain hbase h hclear
  | reverted n hpos' ha =>
    cases hpos.symm.trans hpos'
    refine ⟨ha.step hinv.chain hinv.plan h, ?_⟩
    have hS01 : visit.node.stage = .S01 :=
      ha.stage.resolve_right (ha.not_planning hinv.chain hinv.plan h)
    rintro ⟨hstage | hstage, _⟩
    · cases hS01.symm.trans hstage
    · cases hS01.symm.trans hstage
  | closed hclosed hbounded hreverts =>
    have hS07 := hclosed _ hpos
    have hnext : ∀ n, c'.position = some n → n.stage = .S07 := by
      intro n hn
      rcases nextPosition_cases (h.next.symm.trans hn) with hinner | ⟨_, stage, houter, _⟩
      · obtain ⟨_, ⟨_, rfl⟩ | ⟨hnode, _⟩ | ⟨hnode, _⟩⟩ := innerNext_cases hinner
        · exact hS07
        · rw [hnode] at hS07
          cases hS07
        · rw [hnode] at hS07
          cases hS07
      · rw [hS07] at houter
        cases houter
    have henters : ¬ EntersS03 ⟨c, visit, c'⟩ := fun henters => by cases hnext _ henters
    have hrevert : ¬ RevertEdge ⟨c, visit, c'⟩ := fun hrevert => by cases hnext _ hrevert.2
    refine .of_not_entering (.closed hnext ?_ ?_) henters
    · rw [entries_cons_of_not henters]
      exact hbounded
    · rw [reverts_cons_of_not hrevert]
      exact hreverts

end Step

/-- Every repair edge of the trace stands behind one increment of its pass. -/
def EdgesCounted (tr : SharedTrace) : Prop :=
  ∀ later t earlier, tr = later ++ t :: earlier → RepairEdge t →
    (t :: currentPass earlier).countP (Increments ·) = 1

theorem edgesCounted_cons {t : Transition Config Visit} {tr : SharedTrace}
    (h : EdgesCounted tr)
    (hlast : RepairEdge t → (t :: currentPass tr).countP (Increments ·) = 1) :
    EdgesCounted (t :: tr) := by
  intro later u earlier heq hedge
  cases later with
  | nil =>
    cases heq
    exact hlast hedge
  | cons v later =>
    cases heq
    exact h later u earlier rfl hedge

structure LoopsBounded (strategies : Nat) (tr : SharedTrace) : Prop where
  entries_le : entries tr ≤ 1 + maxPhaseRepairAttempts + reverts tr
  reverts_le : reverts tr ≤ strategies
  edges : EdgesCounted tr

theorem Region.bounds {strategies : Nat} {base : List String} {tr : SharedTrace} {c : Config}
    (h : Region strategies base tr c) :
    entries tr ≤ maxPhaseRepairAttempts ∧ reverts tr ≤ strategies := by
  cases h with
  | selecting _ _ hb =>
    rw [hb.notEntered, hb.notReverted]
    exact ⟨Nat.zero_le _, Nat.zero_le _⟩
  | looping _ _ hl =>
    rw [hl.notReverted]
    exact ⟨hl.bounded, Nat.zero_le _⟩
  | reverted _ _ ha =>
    rw [ha.reverted]
    exact ⟨ha.bounded, ha.available⟩
  | closed _ hbounded hreverts => exact ⟨hbounded, hreverts.2⟩

section Runs
variable {portfolio : SolutionPortfolio} {c₀ c : Config} {tr : SharedTrace}

theorem Converged.runInv (h : Converged portfolio c₀) :
    RunInv portfolio c₀.state.s01ExcludedStrategyIds [] c₀ where
  pass := h.passInv
  chain := h.chainInv
  plan := h.planInv
  region := by
    refine .selecting _ h.position ⟨Or.inl rfl, rfl, h.s03RevisionAttempts, ?_,
      fun _ => h.s02RevisionAttempts, ?_, rfl, rfl⟩
    · intro key execution hcached hloop
      refine h.ledger key execution hcached ?_
      revert hloop
      cases key.node.stage <;> decide
    · intro hninety
      cases hninety

theorem runInv_of_run (hstart : Converged portfolio c₀) (hrun : Run SharedStep c₀ tr c)
    (hclear : ∀ t ∈ tr, ClearExit t) :
    RunInv portfolio c₀.state.s01ExcludedStrategyIds tr c ∧ EdgesCounted tr := by
  induction hrun with
  | nil =>
    refine ⟨hstart.runInv, fun later t earlier heq => ?_⟩
    cases later <;> cases heq
  | snoc _ hstep ih =>
    obtain ⟨hlast, hearlier⟩ := List.forall_mem_cons.mp hclear
    obtain ⟨hinv, hedges⟩ := ih hearlier
    have hspec := SharedStep.sharedSpec hinv.pass.writes hstep
    obtain ⟨hregion, hedge⟩ := region_step hstart.s01ExcludedStrategyIds hinv hspec hlast
    exact ⟨⟨hinv.pass.step hspec, hinv.chain.step hspec, hinv.planInv_step hspec, hregion⟩,
      edgesCounted_cons hedges hedge⟩

/-- Whatever the answers are, a run that leaves no stage on a stale record is bounded. -/
theorem loopsBounded_of_run (hstart : Converged portfolio c₀) (hrun : Run SharedStep c₀ tr c)
    (hclear : ∀ t ∈ tr, ClearExit t) : LoopsBounded portfolio.strategies.length tr := by
  obtain ⟨hinv, hedges⟩ := runInv_of_run hstart hrun hclear
  obtain ⟨hentries, hreverts⟩ := hinv.region.bounds
  exact ⟨by omega, hreverts, hedges⟩

end Runs

def repairedOnce (out : SharedTrace × Config) : Bool :=
  decide (entries out.1 = 2) && out.1.all (decide <| ClearExit ·)

/-- A run with one decided repair. -/
theorem loopsBounded_lintRegression :
    ∃ tr c, Run SharedStep promptRiskCase tr c ∧ (∀ t ∈ tr, ClearExit t) ∧ entries tr = 2 ∧
      LoopsBounded 1 tr := by
  obtain ⟨tr, c, hrun, hcheck⟩ := exists_sharedRun promptRiskCase
    (List.replicate 55 lintRegression) repairedOnce (by decide +kernel)
  simp only [repairedOnce, Bool.and_eq_true, decide_eq_true_eq, List.all_eq_true] at hcheck
  obtain ⟨hentries, hclear⟩ := hcheck
  exact ⟨tr, c, hrun, hclear, hentries,
    loopsBounded_of_run (converged_sampleCase _) hrun hclear⟩

def failingChecks : Answers := { sampleAnswers with checkExitCode := fun _ => some 1 }

/-- In the second pass the workspace is gone when S04 looks for it. -/
def vanishingWorkspace : List Answers :=
  List.replicate 37 failingChecks ++
    List.replicate 10 { failingChecks with workspaceIsDirectory := false }

def reentersUncounted (out : SharedTrace × Config) : Bool :=
  match out.1 with
  | t :: earlier =>
    decide (t.label.node = ⟨.S04, 10⟩ ∧ RepairEdge t ∧
      (t :: currentPass earlier).countP (Increments ·) = 0)
  | [] => false

/-- A rejected `S04.10` is followed by the `revision` edge that the verdict of the first
pass asked for, and the counter does not move. -/
theorem stale_verdict_reenters_uncounted :
    ∃ t earlier c, Run SharedStep promptRiskCase (t :: earlier) c ∧
      t.label.node = ⟨.S04, 10⟩ ∧ RepairEdge t ∧ ¬ LoopsBounded 1 (t :: earlier) := by
  obtain ⟨tr, c, hrun, hcheck⟩ := exists_sharedRun promptRiskCase vanishingWorkspace
    reentersUncounted (by decide +kernel)
  unfold reentersUncounted at hcheck
  split at hcheck
  · rename_i t earlier htr
    dsimp only at htr
    subst htr
    obtain ⟨hnode, hedge, hzero⟩ := of_decide_eq_true hcheck
    refine ⟨t, earlier, c, hrun, hnode, hedge, fun hbounded => ?_⟩
    have hone := hbounded.edges [] t earlier rfl hedge
    rw [hzero] at hone
    cases hone
  · cases hcheck

end ProductionOptimizer
