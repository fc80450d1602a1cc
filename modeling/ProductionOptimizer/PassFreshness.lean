import ProductionOptimizer.LoopBounds

/-!
# Keys of different passes

The key of a node in the loop carries the pass counter. `S06.80` moves the counter before
`S06.90` runs, so behind a decided repair `S06.90` is recorded under the key of the next
pass, and a next pass that reaches `S06.90` with another decision replays it.
-/

namespace ProductionOptimizer
open Runs NumberedLog
set_option autoImplicit false

/-- No node of the loop derives a key of another pass, and none is answered from the
ledger. -/
structure PassFresh (tr : SharedTrace) : Prop where
  keys : ∀ later u between t earlier, tr = later ++ u :: (between ++ t :: earlier) →
    t.label.node.stage ∈ loopStages → (∃ v ∈ between ++ [t], EntersS03 v) →
    u.label.key ≠ t.label.key
  executed : ∀ u ∈ tr, u.label.node.stage ∈ loopStages → u.label.replayed = false

/-- A pass that was entered through a `fix_one_part` edge reaches `S06.90` only with another
repair decided. -/
def RepairsAgain (tr : SharedTrace) : Prop :=
  ∀ later u earlier, tr = later ++ u :: earlier → u.label.node = ⟨.S06, 90⟩ →
    EnteredByFix earlier → u.before.state.s06Decision = some .fixOnePart

theorem entries_append (tr₁ tr₂ : SharedTrace) :
    entries (tr₁ ++ tr₂) = entries tr₁ + entries tr₂ :=
  List.countP_append

theorem entries_pos {tr : SharedTrace} (h : ∃ t ∈ tr, EntersS03 t) : 0 < entries tr := by
  obtain ⟨t, ht, henters⟩ := h
  exact List.countP_pos_iff.mpr ⟨t, ht, by simpa using henters⟩

theorem enteredByFix_append {between earlier : SharedTrace} {t : Transition Config Visit}
    (hbetween : entries between = 0) (henters : EntersS03 t)
    (hstage : t.label.node.stage = .S06) : EnteredByFix (between ++ t :: earlier) := by
  induction between with
  | nil => exact (enteredByFix_cons_of_enters henters).mpr hstage
  | cons v between ih =>
    have hnot : ¬ EntersS03 v := by
      intro hv
      rw [entries_cons_of_enters hv] at hbetween
      cases hbetween
    rw [entries_cons_of_not hnot] at hbetween
    exact (enteredByFix_cons_of_not hnot).mpr (ih hbetween)

section Runs
variable {portfolio : SolutionPortfolio} {c₀ c : Config} {tr earlier : SharedTrace}
  {t : Transition Config Visit}

theorem inLoop_of_step (hstart : Converged portfolio c₀)
    (hrun : Run SharedStep c₀ (t :: earlier) c) (hclear : ∀ v ∈ t :: earlier, ClearExit v)
    (hloop : t.label.node.stage ∈ loopStages) :
    SharedSpec t.before t.label t.after ∧
      InLoop portfolio.strategies.length c₀.state.s01ExcludedStrategyIds earlier t.before
        t.label.node := by
  obtain ⟨hrun₁, hstep⟩ := hrun.last_step
  obtain ⟨hinv, _⟩ := runInv_of_run hstart hrun₁ (List.forall_mem_cons.mp hclear).2
  have hspec := SharedStep.sharedSpec hinv.pass.writes hstep
  refine ⟨hspec, ?_⟩
  have hpos := hspec.position
  cases hinv.region with
  | selecting n hpos' hb =>
    cases hpos.symm.trans hpos'
    exact absurd hloop hb.not_loop
  | looping n hpos' hl =>
    cases hpos.symm.trans hpos'
    exact hl
  | reverted n hpos' ha =>
    cases hpos.symm.trans hpos'
    refine absurd hloop ?_
    rcases ha.stage with hstage | hnode
    · rw [hstage]
      decide
    · rw [hnode]
      decide
  | closed hclosed _ _ =>
    rw [hclosed _ hpos] at hloop
    exact absurd hloop (by decide)

/-- Behind a decided repair the run goes on into S03 or not at all. -/
theorem entersS03_of_pending (hspec : SharedSpec t.before t.label t.after)
    (hnode : t.label.node = ⟨.S06, 90⟩) (hfix : t.before.state.s06Decision = some .fixOnePart)
    (hpos : t.after.position ≠ none) : EntersS03 t := by
  obtain ⟨n, hn⟩ := Option.ne_none_iff_exists'.mp hpos
  have hdecision : t.after.state.s06Decision = t.before.state.s06Decision :=
    hspec.get (f := .s06Decision) (by rw [hnode]; decide)
  rw [hfix] at hdecision
  rcases nextPosition_cases (hspec.next.symm.trans hn) with hinner | ⟨_, stage, houter, rfl⟩
  · rw [hnode] at hinner
    cases hinner
  · rw [hnode] at houter
    rcases outerNext_s06 houter with ⟨hkeep, _⟩ | ⟨_, _, rfl⟩ | ⟨hrevert, _⟩
    · cases hdecision.symm.trans hkeep
    · exact hn
    · cases hdecision.symm.trans hrevert

theorem executed_of_run (hstart : Converged portfolio c₀) (hrun : Run SharedStep c₀ tr c)
    (hclear : ∀ v ∈ tr, ClearExit v) (hrepairs : RepairsAgain tr)
    {u : Transition Config Visit} (hu : u ∈ tr) (hloop : u.label.node.stage ∈ loopStages) :
    u.label.replayed = false := by
  obtain ⟨later, earlier, rfl⟩ := List.append_of_mem hu
  obtain ⟨_, hrun₁, _⟩ := hrun.split
  obtain ⟨hspec, hl⟩ := inLoop_of_step hstart hrun₁
    (fun v hv => hclear v (List.mem_append_right _ hv)) hloop
  by_cases hnode : u.label.node = ⟨.S06, 90⟩
  · cases hflag : u.label.replayed with
    | false => rfl
    | true =>
      have hrevision := key_revision hspec hl.stage
      rcases hl.keys _ _ (hspec.replayed hflag) hl.stage with
        hlt | ⟨hzero, _, hrank | ⟨_, hentered⟩⟩
      · omega
      · exact absurd hrank (Nat.lt_irrefl _)
      · have hfix := hrepairs later u earlier rfl hnode hentered
        rw [pending, if_pos ⟨hnode, hfix⟩] at hzero
        cases hzero
  · exact hl.fresh hspec hnode

/-- In a run that leaves no stage on a stale record, keys repeat across passes only at a
`S06.90` behind a repair. -/
theorem passFresh_of_run (hstart : Converged portfolio c₀) (hrun : Run SharedStep c₀ tr c)
    (hclear : ∀ v ∈ tr, ClearExit v) (hrepairs : RepairsAgain tr) : PassFresh tr := by
  refine ⟨?_, fun u hu hloop => executed_of_run hstart hrun hclear hrepairs hu hloop⟩
  intro later u between t earlier heq hloop hentry hkey
  subst heq
  have hnodes : u.label.node = t.label.node := congrArg IdempotencyKey.node hkey
  obtain ⟨_, hrunU, _⟩ := hrun.split
  have hclearU : ∀ v ∈ u :: (between ++ t :: earlier), ClearExit v :=
    fun v hv => hclear v (List.mem_append_right _ hv)
  obtain ⟨hspecU, hU⟩ := inLoop_of_step hstart hrunU hclearU (hnodes ▸ hloop)
  have hparts : Run SharedStep c₀ ((u :: between) ++ t :: earlier) _ := hrunU
  obtain ⟨cT, hrunT, hrest⟩ := hparts.split
  obtain ⟨hspecT, hT⟩ := inLoop_of_step hstart hrunT
    (fun v hv => hclearU v (List.mem_cons_of_mem _ (List.mem_append_right _ hv))) hloop
  -- the revision counts the entries into S03, up to the pending increment
  have hrevision : u.before.state.s03RevisionAttempts = t.before.state.s03RevisionAttempts := by
    rw [← key_revision hspecU hU.stage, ← key_revision hspecT hT.stage, hkey]
  have henteredU := hU.entered
  have henteredT := hT.entered
  have hsplit : entries (between ++ t :: earlier) =
      entries between + entries [t] + entries earlier := by
    rw [entries_append, ← List.singleton_append, entries_append, Nat.add_assoc]
  have hpositive : 0 < entries between + entries [t] := by
    rw [← entries_append]
    exact entries_pos hentry
  have hboundT : pending t.label.node t.before.state ≤ 1 := by
    unfold pending
    split <;> omega
  have hpendingT : pending t.label.node t.before.state = 1 := by omega
  have hpendingU : pending u.label.node u.before.state = 0 := by omega
  have hfix : t.label.node = ⟨.S06, 90⟩ ∧ t.before.state.s06Decision = some .fixOnePart := by
    unfold pending at hpendingT
    split at hpendingT
    · rename_i hand
      exact hand
    · cases hpendingT
  have hafter : t.after.position ≠ none := by
    cases hrunT with
    | snoc _ _ =>
      obtain ⟨_, _, hnext⟩ := hrest.exists_first_step (List.cons_ne_nil u between)
      rw [hnext.position_eq.1]
      exact Option.some_ne_none _
  have henters := entersS03_of_pending hspecT hfix.1 hfix.2 hafter
  have hone : entries [t] = 1 := entries_cons_of_enters henters
  have hentered : EnteredByFix (between ++ t :: earlier) :=
    enteredByFix_append (by omega) henters (congrArg NodeId.stage hfix.1)
  have hagain := hrepairs later u _ rfl (hnodes.trans hfix.1) hentered
  rw [pending, if_pos ⟨hnodes.trans hfix.1, hagain⟩] at hpendingU
  cases hpendingU

end Runs

def secondPassImplemented (out : SharedTrace × Config) : Bool :=
  decide (entries out.1 = 2) &&
    out.1.all fun t => decide (ClearExit t ∧ t.label.node ≠ ⟨.S06, 90⟩)

/-- A phase that fails its checks is implemented anew. -/
theorem passFresh_failingChecks :
    ∃ tr c, Run SharedStep promptRiskCase tr c ∧ entries tr = 2 ∧ PassFresh tr := by
  obtain ⟨tr, c, hrun, hcheck⟩ := exists_sharedRun promptRiskCase
    (List.replicate 46 failingChecks) secondPassImplemented (by decide +kernel)
  simp only [secondPassImplemented, Bool.and_eq_true, decide_eq_true_eq, List.all_eq_true]
    at hcheck
  obtain ⟨hentries, hall⟩ := hcheck
  refine ⟨tr, c, hrun, hentries,
    passFresh_of_run (converged_sampleCase _) hrun (fun t ht => (hall t ht).1) ?_⟩
  intro later u earlier heq hnode
  refine absurd hnode (hall u ?_).2
  rw [heq]
  exact List.mem_append_right _ List.mem_cons_self

/-- A plan of two phases; the first one is to be repaired. -/
def twoPhases : Answers :=
  { sampleAnswers with
    draftPhases := [⟨"p1", 1, .implementation, .code, some "git revert"⟩,
      ⟨"p2", 2, .implementation, .code, some "git revert"⟩]
    draftTasks := [⟨"t1", "p1", ["a.py"], [], [], false⟩, ⟨"t2", "p2", ["a.py"], [], [], false⟩] }

def repairThenKeep : List Answers :=
  List.replicate 55 { twoPhases with remeasured := lintRegression.remeasured } ++
    List.replicate 36 twoPhases

def keepIsReplayed (out : SharedTrace × Config) : Bool :=
  match out.1 with
  | u :: rest =>
    decide (u.label.node = ⟨.S06, 90⟩ ∧ u.before.state.s06Decision = some .keep ∧
      u.label.replayed = true) &&
    rest.any fun t => decide (t.label.key = u.label.key ∧ EntersS03 t)
  | [] => false

/-- A kept patch is not applied: `S06.90` replays the no-op of the repair before it. -/
theorem kept_patch_replays_repair :
    ∃ u rest c, Run SharedStep promptRiskCase (u :: rest) c ∧ u.label.node = ⟨.S06, 90⟩ ∧
      u.before.state.s06Decision = some .keep ∧ u.label.replayed = true ∧
      ¬ PassFresh (u :: rest) := by
  obtain ⟨tr, c, hrun, hcheck⟩ := exists_sharedRun promptRiskCase repairThenKeep keepIsReplayed
    (by decide +kernel)
  unfold keepIsReplayed at hcheck
  split at hcheck
  · rename_i u rest htr
    dsimp only at htr
    subst htr
    obtain ⟨hlast, hany⟩ := Bool.and_eq_true_iff.mp hcheck
    obtain ⟨hnode, hkeep, hreplayed⟩ := of_decide_eq_true hlast
    obtain ⟨t, ht, hsame⟩ := List.any_eq_true.mp hany
    obtain ⟨hkey, henters⟩ := of_decide_eq_true hsame
    refine ⟨u, rest, c, hrun, hnode, hkeep, hreplayed, fun hfresh => ?_⟩
    obtain ⟨between, earlier, rfl⟩ := List.append_of_mem ht
    refine hfresh.keys [] u between t earlier rfl ?_ ⟨t, by simp, henters⟩ hkey.symm
    have hnodes : t.label.node = u.label.node := congrArg IdempotencyKey.node hkey
    rw [hnodes, hnode]
    decide
  · cases hcheck

end ProductionOptimizer
