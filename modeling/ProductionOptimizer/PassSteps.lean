import ProductionOptimizer.LoopRegions

/-!
# One pass of the repair loop

Inside a pass every node but `S06.90` is executed afresh. A pass ends in a repair edge only
behind the one step that moved the counter.
-/

namespace ProductionOptimizer
open Runs NumberedLog
set_option autoImplicit false

section Counting
variable {t : Transition Config Visit} {tr : SharedTrace}

theorem countP_pass_of_increments (h : Increments t) :
    (t :: currentPass tr).countP (Increments ·) = increments tr + 1 := by
  simp [increments, h]

theorem countP_pass_of_not (h : ¬ Increments t) :
    (t :: currentPass tr).countP (Increments ·) = increments tr := by
  simp [increments, h]

end Counting

theorem policyOutcome_some {s : OptimizationState} {outcome : Outcome}
    (h : policyOutcome s = some outcome) : s.s06Decision = some outcome ∧
      (outcome = .fixOnePart → s.s03RevisionAttempts < maxPhaseRepairAttempts) := by
  unfold policyOutcome at h
  split at h
  · cases h
  · split at h
    · cases h
    · rename_i hcap
      refine ⟨h, ?_⟩
      rintro rfl
      by_contra hle
      exact hcap ⟨h, Nat.not_lt.mp hle⟩

theorem outerNext_s04 {s : OptimizationState} {stage : Stage}
    (h : outerNext .S04 s = some stage) : ⟨.S04, 90⟩ ∈ s.completedNodes ∧
      (((verificationState s).gatePassed = some true ∧ stage = .S05) ∨
      ((verificationState s).gatePassed ≠ some true ∧
        s.s03RevisionAttempts < maxPhaseRepairAttempts ∧ stage = .S03)) := by
  unfold outerNext at h
  cases houtcome : verificationOutcome s with
  | pass =>
    rw [houtcome] at h
    cases h
    unfold verificationOutcome at houtcome
    split at houtcome
    · cases houtcome
    · rename_i hmem
      split at houtcome
      · rename_i hgate
        exact ⟨not_not.mp hmem, Or.inl ⟨hgate, rfl⟩⟩
      · split at houtcome
        · cases houtcome
        · cases houtcome
  | revision =>
    rw [houtcome] at h
    cases h
    unfold verificationOutcome at houtcome
    split at houtcome
    · cases houtcome
    · rename_i hmem
      split at houtcome
      · cases houtcome
      · rename_i hgate
        split at houtcome
        · cases houtcome
        · rename_i hcap
          exact ⟨not_not.mp hmem, Or.inr ⟨hgate, Nat.not_le.mp hcap, rfl⟩⟩
  | halt =>
    rw [houtcome] at h
    cases h

theorem outerNext_s06 {s : OptimizationState} {stage : Stage}
    (h : outerNext .S06 s = some stage) :
    (s.s06Decision = some .keep ∧ stage = .S07) ∨
    (s.s06Decision = some .fixOnePart ∧ s.s03RevisionAttempts < maxPhaseRepairAttempts ∧
      stage = .S03) ∨
    (s.s06Decision = some .revert ∧ stage = .S01) := by
  unfold outerNext at h
  cases houtcome : policyOutcome s with
  | none =>
    rw [houtcome] at h
    cases h
  | some outcome =>
    obtain ⟨hdecision, hcap⟩ := policyOutcome_some houtcome
    rw [houtcome] at h
    cases outcome with
    | keep => exact Or.inl ⟨hdecision, (Option.some.inj h).symm⟩
    | fixOnePart => exact Or.inr (Or.inl ⟨hdecision, hcap rfl, (Option.some.inj h).symm⟩)
    | revert => exact Or.inr (Or.inr ⟨hdecision, (Option.some.inj h).symm⟩)
    | escalate => cases h

theorem decided_of_outerNext {s : OptimizationState} {stage : Stage}
    (h : outerNext .S06 s = some stage) : s.s06Decision ≠ none := by
  intro hnone
  have hways := outerNext_s06 h
  rw [hnone] at hways
  rcases hways with ⟨hdecision, _⟩ | ⟨hdecision, _⟩ | ⟨hdecision, _⟩ <;> cases hdecision

section Keys
variable {Q Q' : IdempotencyKey → NodeExecution → Prop} {c c' : Config} {visit : Visit}
  {n : NodeId}

/-- What a fresh `S06.80` does: the decision stands, a repair moves the counter and a
revert extends the exclusions. -/
theorem decided_of_fresh (h : SharedSpec c visit c') (hnode : visit.node = ⟨.S06, 80⟩)
    (hfresh : visit.replayed = false) :
    (c'.state.s06Decision ≠ some .fixOnePart ∧ c'.state.s06Decision ≠ some .revert ∧
      c'.state.s03RevisionAttempts = c.state.s03RevisionAttempts ∧
      c'.state.s01ExcludedStrategyIds = c.state.s01ExcludedStrategyIds) ∨
    (c'.state.s06Decision = some .fixOnePart ∧
      c'.state.s03RevisionAttempts = c.state.s03RevisionAttempts + 1 ∧
      c'.state.s01ExcludedStrategyIds = c.state.s01ExcludedStrategyIds) ∨
    ∃ selected, c'.state.s06Decision = some .revert ∧
      c'.state.s03RevisionAttempts = c.state.s03RevisionAttempts ∧
      c.state.readSelected = .ok selected ∧ c'.state.s01ExcludedStrategyIds =
        sortedSet (c.state.s01ExcludedStrategyIds ++ [selected]) := by
  obtain ⟨_, a, hhandler⟩ := h.fresh hfresh
  rw [hnode] at hhandler
  obtain ⟨_, _, updates, _, _, _, _, hdecision, hupdates⟩ := handleS0680_ok hhandler
  have hget := h.committed.get
  rw [hupdates] at hget
  rcases decisionUpdates_cases c.state hdecision with
    ⟨hfix, hrevert, rfl⟩ | ⟨hfix, rfl⟩ | ⟨selected, hrevert, hselected, rfl⟩
  · left
    rw [show c'.state.s06Decision = _ from hget .s06Decision,
      show c'.state.s03RevisionAttempts = _ from hget .s03RevisionAttempts,
      show c'.state.s01ExcludedStrategyIds = _ from hget .s01ExcludedStrategyIds]
    exact ⟨fun heq => hfix (Option.some.inj heq), fun heq => hrevert (Option.some.inj heq),
      rfl, rfl⟩
  · right
    left
    rw [hfix] at hget
    exact ⟨hget .s06Decision, hget .s03RevisionAttempts, hget .s01ExcludedStrategyIds⟩
  · right
    right
    rw [hrevert] at hget
    exact ⟨selected, hget .s06Decision, hget .s03RevisionAttempts, hselected,
      hget .s01ExcludedStrategyIds⟩

/-- Intents of the loop belong to earlier passes, or to earlier nodes of this one, or are
exceptions `Q`. -/
def KeysUnder (Q : IdempotencyKey → NodeExecution → Prop) (c : Config) (n : NodeId) : Prop :=
  ∀ key execution, c.ledger.cached key = some execution → key.node.stage ∈ loopStages →
    key.revision < c.state.s03RevisionAttempts ∨
      (pending n c.state = 0 ∧ key.revision = c.state.s03RevisionAttempts ∧
        (nodeRank key.node < nodeRank n ∨ Q key execution))

theorem KeysUnder.fresh (hk : KeysUnder Q c visit.node) (h : SharedSpec c visit c')
    (hloop : visit.node.stage ∈ loopStages)
    (hnone : pending visit.node c.state ≠ 0 ∨ ¬ Q visit.key visit.execution) :
    visit.replayed = false := by
  cases hflag : visit.replayed with
  | false => rfl
  | true =>
    have hrevision := key_revision h hloop
    rcases hk _ _ (h.replayed hflag) hloop with hlt | ⟨hzero, _, hrank | hexception⟩
    · omega
    · exact absurd hrank (Nat.lt_irrefl _)
    · exact (hnone.resolve_left (not_not_intro hzero) hexception).elim

/-- A step that goes on inside the pass and moves no counter. -/
theorem KeysUnder.advance (hk : KeysUnder Q c visit.node) (h : SharedSpec c visit c')
    (hloop : visit.node.stage ∈ loopStages)
    (hQ : ∀ key execution, Q key execution → Q' key execution)
    (hkept : c'.state.s03RevisionAttempts = c.state.s03RevisionAttempts)
    (hpending : pending n c'.state = 0) (hrank : nodeRank visit.node < nodeRank n) :
    KeysUnder Q' c' n := by
  intro key execution hcached hstage
  rw [hkept]
  rcases h.cached_cases key execution hcached with hold | ⟨rfl, _⟩
  · rcases hk key execution hold hstage with hlt | ⟨_, heq, hcase⟩
    · exact Or.inl hlt
    · exact Or.inr ⟨hpending, heq, hcase.imp (fun hlt => hlt.trans hrank) (hQ key execution)⟩
  · exact Or.inr ⟨hpending, key_revision h hloop, Or.inl hrank⟩

/-- A step that moves the counter leaves every recorded intent behind. -/
theorem keysUnder_of_bump (hinv : PassInv c) (h : SharedSpec c visit c')
    (hloop : visit.node.stage ∈ loopStages)
    (hlt : c.state.s03RevisionAttempts < c'.state.s03RevisionAttempts) : KeysUnder Q c' n := by
  intro key execution hcached hstage
  left
  rcases h.cached_cases key execution hcached with hold | ⟨rfl, _⟩
  · exact Nat.lt_of_le_of_lt (hinv.revision_le key execution hold hstage) hlt
  · rw [key_revision h hloop]
    exact hlt

/-- Behind a decided repair every recorded intent is of an earlier pass; the one of `S06.90`
is of the next. -/
theorem KeysUnder.repair (hk : KeysUnder Q c visit.node) (h : SharedSpec c visit c')
    (hloop : visit.node.stage ∈ loopStages) (hpending : pending visit.node c.state ≠ 0)
    (hkept : c'.state.s03RevisionAttempts = c.state.s03RevisionAttempts)
    (hnext : pending n c'.state = 0) (hQ : Q' visit.key visit.execution) : KeysUnder Q' c' n := by
  intro key execution hcached hstage
  rw [hkept]
  rcases h.cached_cases key execution hcached with hold | ⟨rfl, rfl⟩
  · rcases hk key execution hold hstage with hlt | ⟨hzero, _⟩
    · exact Or.inl hlt
    · exact absurd hzero hpending
  · exact Or.inr ⟨hnext, key_revision h hloop, Or.inr hQ⟩

/-- From `S06.80` to `S06.90`. -/
theorem KeysUnder.toApply (hinv : PassInv c) (hk : KeysUnder Q c visit.node)
    (h : SharedSpec c visit c') (hnode : visit.node = ⟨.S06, 80⟩)
    (hfresh : visit.replayed = false)
    (hQ : ∀ key execution, Q key execution → Q' key execution) :
    KeysUnder Q' c' ⟨.S06, 90⟩ := by
  have hloop : visit.node.stage ∈ loopStages := by
    rw [hnode]
    decide
  have hrank : nodeRank visit.node < nodeRank ⟨.S06, 90⟩ := by
    rw [hnode]
    decide
  rcases decided_of_fresh h hnode hfresh with
    ⟨hfix, _, hkept, _⟩ | ⟨_, hsucc, _⟩ | ⟨_, hrevert, hkept, _⟩
  · exact hk.advance h hloop hQ hkept (by simp [pending, hfix]) hrank
  · exact keysUnder_of_bump hinv h hloop (by omega)
  · exact hk.advance h hloop hQ hkept (by simp [pending, hrevert]) hrank

end Keys

section Step
variable {strategies : Nat} {portfolio : SolutionPortfolio} {base : List String}
  {tr : SharedTrace} {c c' : Config} {visit : Visit}

theorem InLoop.keysUnder {n : NodeId} (hl : InLoop strategies base tr c n) :
    KeysUnder (fun key _ => key.node = ⟨.S06, 90⟩ ∧ EnteredByFix tr) c n := hl.keys

theorem InLoop.fresh (hl : InLoop strategies base tr c visit.node) (h : SharedSpec c visit c')
    (hne : visit.node ≠ ⟨.S06, 90⟩) : visit.replayed = false :=
  hl.keysUnder.fresh h hl.stage (Or.inr fun hexception => hne hexception.1)

/-- A step that goes on inside the pass and moves no counter. -/
theorem InLoop.advance (hplan : PlanInv c) (hl : InLoop strategies base tr c visit.node)
    (h : SharedSpec c visit c') {n : NodeId} (hpos : c'.position = some n)
    (h90 : visit.node ≠ ⟨.S06, 90⟩) (h80 : visit.node ≠ ⟨.S06, 80⟩)
    (hkept : c'.state.s03RevisionAttempts = c.state.s03RevisionAttempts)
    (hstage : n.stage ∈ loopStages) (hrank : nodeRank visit.node < nodeRank n)
    (hne : n ≠ ⟨.S06, 90⟩) (hfirst : n ≠ firstNode .S03)
    (hverdict : n = ⟨.S04, 90⟩ →
      (verificationState c'.state).gatePassed = some (checksPassed c'.state.s04CheckResults)) :
    InLoop strategies base (⟨c, visit, c'⟩ :: tr) c' n := by
  have henters : ¬ EntersS03 ⟨c, visit, c'⟩ := by
    intro henters
    cases hpos.symm.trans henters
    exact hfirst rfl
  have hincrements : ¬ Increments ⟨c, visit, c'⟩ := by
    intro hincrements
    have hsucc : c'.state.s03RevisionAttempts = c.state.s03RevisionAttempts + 1 := hincrements
    omega
  have hrevert : ¬ RevertEdge ⟨c, visit, c'⟩ := by
    rintro ⟨_, hback⟩
    cases hpos.symm.trans hback
    exact absurd hstage (by decide)
  have hzero := pending_of_ne h90 c.state
  constructor
  · exact hstage
  · rw [entries_cons_of_not henters, pending_of_ne hne, hkept, ← hl.entered, hzero]
  · rw [increments_cons_of_not henters, countP_pass_of_not hincrements, pending_of_ne hne,
      hl.counted, hzero]
  · rw [entries_cons_of_not henters]
    exact hl.bounded
  · rw [reverts_cons_of_not hrevert, hl.notReverted]
  · refine hl.keysUnder.advance h hl.stage (fun key _ hexception => ?_) hkept
      (pending_of_ne hne _) hrank
    exact ⟨hexception.1, (enteredByFix_cons_of_not henters).mpr hexception.2⟩
  · have hexcluded := hl.excluded
    rw [if_neg fun hand => h90 hand.1] at hexcluded
    rw [if_neg fun hand => hne hand.1, excluded_kept h h80, hexcluded]
  · exact hverdict
  · exact planned_kept hplan h hl.planned

/-- A step that opens the next pass. -/
theorem InLoop.reenter (hinv : PassInv c) (hplan : PlanInv c)
    (hl : InLoop strategies base tr c visit.node) (h : SharedSpec c visit c')
    (hpos : c'.position = some (firstNode .S03))
    (hattempts : entries tr = c'.state.s03RevisionAttempts)
    (hcap : c'.state.s03RevisionAttempts < maxPhaseRepairAttempts)
    (hbump : c.state.s03RevisionAttempts < c'.state.s03RevisionAttempts ∨
      (visit.node = ⟨.S06, 90⟩ ∧ c.state.s06Decision = some .fixOnePart ∧
        c'.state.s03RevisionAttempts = c.state.s03RevisionAttempts))
    (hexcluded : c'.state.s01ExcludedStrategyIds = base) :
    InLoop strategies base (⟨c, visit, c'⟩ :: tr) c' (firstNode .S03) := by
  have hne : firstNode .S03 ≠ ⟨.S06, 90⟩ := by decide
  have henters : EntersS03 ⟨c, visit, c'⟩ := hpos
  have hrevert : ¬ RevertEdge ⟨c, visit, c'⟩ := by
    rintro ⟨_, hback⟩
    cases hpos.symm.trans hback
  constructor
  · decide
  · rw [entries_cons_of_enters henters, pending_of_ne hne, hattempts]
  · rw [increments_cons_of_enters henters, pending_of_ne hne]
  · rw [entries_cons_of_enters henters]
    omega
  · rw [reverts_cons_of_not hrevert, hl.notReverted]
  · rcases hbump with hlt | ⟨hnode, hfix, hkept⟩
    · exact keysUnder_of_bump hinv h hl.stage hlt
    · refine hl.keysUnder.repair h hl.stage ?_ hkept (pending_of_ne hne _) ⟨hnode, ?_⟩
      · rw [pending, if_pos ⟨hnode, hfix⟩]
        exact one_ne_zero
      · rw [enteredByFix_cons_of_enters henters]
        exact congrArg NodeId.stage hnode
  · rw [if_neg fun hand => hne hand.1]
    exact hexcluded
  · intro hnode
    exact absurd hnode (by decide)
  · exact planned_kept hplan h hl.planned

theorem InLoop.close (hl : InLoop strategies base tr c visit.node)
    (hpos : ∀ n, c'.position = some n → n.stage = .S07) :
    Region strategies base (⟨c, visit, c'⟩ :: tr) c' := by
  have henters : ¬ EntersS03 ⟨c, visit, c'⟩ := by
    intro henters
    cases hpos _ henters
  have hrevert : ¬ RevertEdge ⟨c, visit, c'⟩ := by
    rintro ⟨_, hback⟩
    cases hpos _ hback
  refine .closed hpos ?_ ?_
  · rw [entries_cons_of_not henters]
    exact hl.bounded
  · rw [reverts_cons_of_not hrevert, hl.notReverted]
    exact ⟨Nat.zero_le 1, Nat.zero_le strategies⟩

theorem InLoop.sealed (hchain : ChainInv portfolio base c) (hbase : base.Nodup)
    (hl : InLoop portfolio.strategies.length base tr c visit.node) (h : SharedSpec c visit c')
    (hnode : visit.node = ⟨.S06, 80⟩) :
    (c'.state.s06Decision ≠ some .fixOnePart ∧ c'.state.s06Decision ≠ some .revert ∧
      c'.state.s03RevisionAttempts = c.state.s03RevisionAttempts ∧
      c'.state.s01ExcludedStrategyIds = base) ∨
    (c'.state.s06Decision = some .fixOnePart ∧
      c'.state.s03RevisionAttempts = c.state.s03RevisionAttempts + 1 ∧
      c'.state.s01ExcludedStrategyIds = base) ∨
    (c'.state.s06Decision = some .revert ∧
      c'.state.s03RevisionAttempts = c.state.s03RevisionAttempts ∧
      base.length < c'.state.s01ExcludedStrategyIds.length ∧
      0 < portfolio.strategies.length) := by
  have hne : visit.node ≠ ⟨.S06, 90⟩ := by
    rw [hnode]
    decide
  have hexcluded : c.state.s01ExcludedStrategyIds = base := by
    have hclause := hl.excluded
    rw [if_neg fun hand => hne hand.1] at hclause
    exact hclause
  have hcases := decided_of_fresh h hnode (hl.fresh h hne)
  rw [hexcluded] at hcases
  refine hcases.imp_right fun hmoved => hmoved.imp_right ?_
  rintro ⟨selected, hrevert, hkept, hselected, hlonger⟩
  obtain ⟨_, hknown, hnot⟩ := available_of_readSelected hchain hselected
  refine ⟨hrevert, hkept, ?_, ?_⟩
  · rw [hlonger]
    exact length_lt_sortedSet hbase hnot
  · have hpositive := List.length_pos_of_mem hknown
    rwa [List.length_map] at hpositive

theorem InLoop.toApply (hinv : PassInv c) (hplan : PlanInv c)
    (hchain : ChainInv portfolio base c) (hbase : base.Nodup)
    (hl : InLoop portfolio.strategies.length base tr c visit.node) (h : SharedSpec c visit c')
    (hnode : visit.node = ⟨.S06, 80⟩) (hpos : c'.position = some ⟨.S06, 90⟩) :
    InLoop portfolio.strategies.length base (⟨c, visit, c'⟩ :: tr) c' ⟨.S06, 90⟩ := by
  have hne : visit.node ≠ ⟨.S06, 90⟩ := by
    rw [hnode]
    decide
  have hzero := pending_of_ne hne c.state
  have hentered := hl.entered
  have hcounted := hl.counted
  rw [hzero] at hentered hcounted
  have henters : ¬ EntersS03 ⟨c, visit, c'⟩ := by
    intro henters
    cases hpos.symm.trans henters
  have hrevertEdge : ¬ RevertEdge ⟨c, visit, c'⟩ := by
    rintro ⟨_, hback⟩
    cases hpos.symm.trans hback
  have hcases := hl.sealed hchain hbase h hnode
  -- the two ways `pending` can go
  have hpending : (pending ⟨.S06, 90⟩ c'.state = 0 ∧
      c'.state.s03RevisionAttempts = c.state.s03RevisionAttempts) ∨
      (pending ⟨.S06, 90⟩ c'.state = 1 ∧
        c'.state.s03RevisionAttempts = c.state.s03RevisionAttempts + 1) := by
    rcases hcases with ⟨hfix, _, hkept, _⟩ | ⟨hfix, hsucc, _⟩ | ⟨hrevert, hkept, _⟩
    · exact Or.inl ⟨by simp [pending, hfix], hkept⟩
    · exact Or.inr ⟨by simp [pending, hfix], hsucc⟩
    · exact Or.inl ⟨by simp [pending, hrevert], hkept⟩
  constructor
  · decide
  · rw [entries_cons_of_not henters]
    omega
  · rw [increments_cons_of_not henters]
    rcases hpending with ⟨hnone, hkept⟩ | ⟨hone, hsucc⟩
    · rw [countP_pass_of_not, hnone, hcounted]
      intro hincrements
      have hmoved : c'.state.s03RevisionAttempts = c.state.s03RevisionAttempts + 1 := hincrements
      omega
    · rw [countP_pass_of_increments, hone, hcounted]
      exact hsucc
  · rw [entries_cons_of_not henters]
    exact hl.bounded
  · rw [reverts_cons_of_not hrevertEdge, hl.notReverted]
  · refine hl.keysUnder.toApply hinv h hnode (hl.fresh h hne) fun key _ hexception => ?_
    exact ⟨hexception.1, (enteredByFix_cons_of_not henters).mpr hexception.2⟩
  · rcases hcases with ⟨_, hrevert, _, hexcluded⟩ | ⟨hfix, _, hexcluded⟩ |
      ⟨hrevert, _, hlonger, hpositive⟩
    · rw [if_neg fun hand => hrevert hand.2]
      exact hexcluded
    · rw [if_neg fun hand => by rw [hfix] at hand; cases hand.2]
      exact hexcluded
    · rw [if_pos ⟨rfl, hrevert⟩]
      exact ⟨hlonger, hpositive⟩
  · intro hverify
    cases hverify
  · exact planned_kept hplan h hl.planned

/-- Inside a stage of the loop the nodes follow each other in steps of ten. -/
theorem loop_innerNext {n : NodeId} {route : NodeRoute} (h : SharedSpec c visit c')
    (hstage : visit.node.stage ∈ loopStages) (hinner : innerNext visit.node route = some n) :
    n = ⟨visit.node.stage, visit.node.number + 10⟩ ∧ visit.node.number ≠ 90 ∧
      n ≠ firstNode .S03 := by
  obtain ⟨hnumber, ⟨_, rfl⟩ | ⟨hnode, _⟩ | ⟨hnode, _⟩⟩ := innerNext_cases hinner
  · refine ⟨rfl, hnumber, fun hfirst => ?_⟩
    have hten : visit.node.number + 10 = 10 := congrArg NodeId.number hfirst
    have hbound := (number_bounds _ h.registered).1
    omega
  · rw [hnode] at hstage
    exact absurd hstage (by decide)
  · rw [hnode] at hstage
    exact absurd hstage (by decide)

theorem eighty_of_next_ninety {n : NodeId} {stage : Stage}
    (h : (⟨n.stage, n.number + 10⟩ : NodeId) = ⟨stage, 90⟩) : n = ⟨stage, 80⟩ := by
  have hstage : n.stage = stage := congrArg NodeId.stage h
  have hsum : n.number + 10 = 90 := congrArg NodeId.number h
  have heighty : n.number = 80 := by omega
  rw [← hstage, ← heighty]

/-- `S04.80` records the verdict on the results that `S04.90` reads next. -/
theorem gatePassed_of_fresh (h : SharedSpec c visit c') (hnode : visit.node = ⟨.S04, 80⟩)
    (hfresh : visit.replayed = false) :
    (verificationState c'.state).gatePassed = some (checksPassed c'.state.s04CheckResults) := by
  obtain ⟨_, a, hhandler⟩ := h.fresh hfresh
  rw [hnode] at hhandler
  have hexecution := Except.ok.inj hhandler
  have hresults : c'.state.s04CheckResults = c.state.s04CheckResults :=
    h.get (f := .s04CheckResults) (by rw [hnode]; decide)
  have hmanifest : c'.state.s04Manifest =
      (c.state.setAll visit.execution.updates).s04Manifest := h.committed.get .s04Manifest
  rw [verificationState, hmanifest, hresults, ← hexecution]
  rfl

theorem InLoop.inner (hinv : PassInv c) (hplan : PlanInv c) (hchain : ChainInv portfolio base c)
    (hbase : base.Nodup) (hl : InLoop portfolio.strategies.length base tr c visit.node)
    (h : SharedSpec c visit c') {n : NodeId} (hpos : c'.position = some n) {route : NodeRoute}
    (hinner : innerNext visit.node route = some n) :
    InLoop portfolio.strategies.length base (⟨c, visit, c'⟩ :: tr) c' n := by
  obtain ⟨rfl, hnumber, hfirst⟩ := loop_innerNext h hl.stage hinner
  by_cases h80 : visit.node = ⟨.S06, 80⟩
  · rw [h80] at hpos ⊢
    exact hl.toApply hinv hplan hchain hbase h h80 hpos
  · have h90 : visit.node ≠ ⟨.S06, 90⟩ := fun heq => hnumber (congrArg NodeId.number heq)
    have h04 : visit.node ≠ ⟨.S04, 90⟩ := fun heq => hnumber (congrArg NodeId.number heq)
    refine hl.advance hplan h hpos h90 h80 (attempts_kept hinv h h04 h80) hl.stage ?_ ?_ hfirst ?_
    · simp only [nodeRank]
      omega
    · exact fun heq => h80 (eighty_of_next_ninety heq)
    · intro heq
      exact gatePassed_of_fresh h (eighty_of_next_ninety heq) (hl.fresh h h90)

/-- `S04.90` and the recorded verdict agree: it moves the counter exactly when the outer
graph is told that the gate has not passed. -/
theorem verified_of_fresh (hinv : PassInv c) (h : SharedSpec c visit c')
    (hnode : visit.node = ⟨.S04, 90⟩) (hfresh : visit.replayed = false)
    (hverdict : (verificationState c.state).gatePassed =
      some (checksPassed c.state.s04CheckResults)) :
    (c'.state.s03RevisionAttempts = c.state.s03RevisionAttempts ∧
      (verificationState c'.state).gatePassed = some true) ∨
    (c'.state.s03RevisionAttempts = c.state.s03RevisionAttempts + 1 ∧
      (verificationState c'.state).gatePassed = some false) := by
  have hmanifest : c'.state.s04Manifest = c.state.s04Manifest :=
    h.get (f := .s04Manifest) (by rw [hnode]; decide)
  have hgate : (verificationState c'.state).gatePassed =
      some (checksPassed c.state.s04CheckResults) := by
    rw [verificationState, hmanifest]
    exact hverdict
  rw [hgate]
  cases moves_of_step hinv h with
  | kept heq hbumps =>
    left
    refine ⟨heq, ?_⟩
    obtain ⟨_, a, hhandler⟩ := h.fresh hfresh
    rw [hnode] at hhandler
    obtain ⟨_, _, _, _, _, _, _, _, ⟨hpassed, _⟩ | ⟨_, hupdates⟩⟩ := handleS0490_ok hhandler
    · rw [hpassed]
    · refine absurd ?_ hbumps
      rw [Bumps, hupdates]
      exact ⟨_, List.mem_singleton_self _, rfl⟩
  | failed _ _ hchecks heq => exact Or.inr ⟨heq, by rw [hchecks]⟩
  | repairs hnode' _ _ _ =>
    rw [hnode] at hnode'
    cases hnode'

theorem terminal_of_leave_s04 (h : SharedSpec c visit c') (hclear : ClearExit ⟨c, visit, c'⟩)
    (hstage : visit.node.stage = .S04)
    (hend : innerNext visit.node (c'.state.routeFor visit.node) = none)
    (hcompleted : ⟨.S04, 90⟩ ∈ c'.state.completedNodes) : visit.node = ⟨.S04, 90⟩ := by
  rcases innerNext_none hend with hninety | hquality | hrouted
  · rw [← hstage, ← hninety]
  · rw [hquality] at hstage
    cases hstage
  · have honly : ∀ m ∈ routedNodes, m.stage = .S04 → m = ⟨.S04, 10⟩ := by decide
    have hten := honly _ hrouted hstage
    rcases (h.committed.completedNodes _).mp hcompleted with heq | hmem
    · rw [← heq] at hten
      cases hten
    · exact absurd hmem ((hclear hend).1 hten)

theorem terminal_of_leave_s06 (h : SharedSpec c visit c') (hclear : ClearExit ⟨c, visit, c'⟩)
    (hstage : visit.node.stage = .S06)
    (hend : innerNext visit.node (c'.state.routeFor visit.node) = none)
    (hdecision : c'.state.s06Decision ≠ none) : visit.node = ⟨.S06, 90⟩ := by
  rcases innerNext_none hend with hninety | hquality | hrouted
  · rw [← hstage, ← hninety]
  · rw [hquality] at hstage
    cases hstage
  · have honly : ∀ m ∈ routedNodes, m.stage = .S06 → m = ⟨.S06, 10⟩ := by decide
    have hten := honly _ hrouted hstage
    have hkept : c'.state.s06Decision = c.state.s06Decision :=
      h.get (f := .s06Decision) (by rw [hten]; decide)
    rw [hkept] at hdecision
    exact absurd ((hclear hend).2 hten) hdecision

/-- The edges from S03 to S04 and from S05 to S06. -/
structure Forward (n : NodeId) (stage : Stage) : Prop where
  notS04 : n.stage ≠ .S04
  notS06 : n.stage ≠ .S06
  inLoop : stage ∈ loopStages
  notFirst : stage ≠ .S03
  rank : nodeRank n < nodeRank (firstNode stage)

theorem forward_of_outerNext (h : SharedSpec c visit c') {stage : Stage}
    (hstage : visit.node.stage = .S03 ∨ visit.node.stage = .S05)
    (houter : outerNext visit.node.stage c'.state = some stage) : Forward visit.node stage := by
  have hbound := (number_bounds _ h.registered).2
  rcases hstage with hstage | hstage
  · rw [hstage] at houter
    obtain ⟨_, rfl⟩ := completedGate_some houter
    constructor
    · rw [hstage]
      decide
    · rw [hstage]
      decide
    · decide
    · decide
    · simp only [nodeRank, hstage, stageRank, firstNode]
      omega
  · rw [hstage] at houter
    obtain ⟨_, rfl⟩ := completedGate_some houter
    constructor
    · rw [hstage]
      decide
    · rw [hstage]
      decide
    · decide
    · decide
    · simp only [nodeRank, hstage, stageRank, firstNode]
      omega

theorem firstNode_ne_ninety (stage stage' : Stage) : firstNode stage ≠ ⟨stage', 90⟩ := by
  intro heq
  have hnumber : (10 : Nat) = 90 := congrArg NodeId.number heq
  omega

/-- What a step inside a pass leads to: a region again, and a repair edge only behind one
increment of its pass. -/
def PassOutcome (strategies : Nat) (base : List String) (t : Transition Config Visit)
    (tr : SharedTrace) : Prop :=
  Region strategies base (t :: tr) t.after ∧
    (RepairEdge t → (t :: currentPass tr).countP (Increments ·) = 1)

theorem PassOutcome.of_not_entering {t : Transition Config Visit}
    (h : Region strategies base (t :: tr) t.after) (henters : ¬ EntersS03 t) :
    PassOutcome strategies base t tr :=
  ⟨h, fun hedge => absurd hedge.2 henters⟩

/-- The end of S04: forward on a pass, back to S03 on a failure that has moved the counter. -/
theorem InLoop.leave_s04 (hinv : PassInv c) (hplan : PlanInv c)
    (hl : InLoop strategies base tr c visit.node) (h : SharedSpec c visit c')
    (hclear : ClearExit ⟨c, visit, c'⟩) (hstage : visit.node.stage = .S04)
    (hend : innerNext visit.node (c'.state.routeFor visit.node) = none) {stage : Stage}
    (houter : outerNext .S04 c'.state = some stage) (hpos : c'.position = some (firstNode stage)) :
    PassOutcome strategies base ⟨c, visit, c'⟩ tr := by
  have h90 : visit.node ≠ ⟨.S06, 90⟩ := ne_of_stage_ne (by rw [hstage]; decide)
  have h80 : visit.node ≠ ⟨.S06, 80⟩ := ne_of_stage_ne (by rw [hstage]; decide)
  obtain ⟨hcompleted, hways⟩ := outerNext_s04 houter
  have hnode := terminal_of_leave_s04 h hclear hstage hend hcompleted
  have hentered := hl.entered
  have hcounted := hl.counted
  rw [pending_of_ne h90] at hentered hcounted
  rcases verified_of_fresh hinv h hnode (hl.fresh h h90) (hl.verdict hnode) with
    ⟨hkept, hgate⟩ | ⟨hsucc, hgate⟩
  · obtain ⟨_, rfl⟩ | ⟨hnot, _⟩ := hways
    · refine .of_not_entering (.looping _ hpos ?_) fun henters => by cases hpos.symm.trans henters
      refine hl.advance hplan h hpos h90 h80 hkept (by decide) ?_ (by decide) (by decide) ?_
      · rw [hnode]
        decide
      · intro heq
        cases heq
    · exact absurd hgate hnot
  · obtain ⟨hpassed, _⟩ | ⟨_, hcap, rfl⟩ := hways
    · cases hgate.symm.trans hpassed
    · have hexcluded := hl.excluded
      rw [if_neg fun hand => h90 hand.1] at hexcluded
      constructor
      · refine .looping _ hpos (hl.reenter hinv hplan h hpos (by omega) hcap (Or.inl (by omega)) ?_)
        rw [excluded_kept h h80, hexcluded]
      · intro _
        have hincrements : Increments ⟨c, visit, c'⟩ := hsucc
        rw [countP_pass_of_increments hincrements, hcounted]

/-- The end of S06: a kept patch is reported, a decided repair opens the next pass, a revert
goes back to S01. -/
theorem InLoop.leave_s06 (hinv : PassInv c) (hplan : PlanInv c)
    (hl : InLoop strategies base tr c visit.node) (h : SharedSpec c visit c')
    (hclear : ClearExit ⟨c, visit, c'⟩) (hstage : visit.node.stage = .S06)
    (hend : innerNext visit.node (c'.state.routeFor visit.node) = none) {stage : Stage}
    (houter : outerNext .S06 c'.state = some stage) (hpos : c'.position = some (firstNode stage)) :
    PassOutcome strategies base ⟨c, visit, c'⟩ tr := by
  have hways := outerNext_s06 houter
  have hnode := terminal_of_leave_s06 h hclear hstage hend (decided_of_outerNext houter)
  have hdecision : c'.state.s06Decision = c.state.s06Decision :=
    h.get (f := .s06Decision) (by rw [hnode]; decide)
  have hkept := attempts_kept hinv h (by rw [hnode]; decide) (by rw [hnode]; decide)
  have hexcluded := excluded_kept h (by rw [hnode]; decide)
  have hincrements : ¬ Increments ⟨c, visit, c'⟩ := by
    intro hincrements
    have hsucc : c'.state.s03RevisionAttempts = c.state.s03RevisionAttempts + 1 := hincrements
    omega
  have hentered := hl.entered
  have hcounted := hl.counted
  have hclause := hl.excluded
  rw [hdecision] at hways
  rcases hways with ⟨_, rfl⟩ | ⟨hfix, hcap, rfl⟩ | ⟨hrevert, rfl⟩
  · refine .of_not_entering (hl.close ?_) fun henters => by cases hpos.symm.trans henters
    intro n hn
    cases hpos.symm.trans hn
    rfl
  · rw [pending, if_pos ⟨hnode, hfix⟩] at hentered hcounted
    rw [if_neg fun hand => by rw [hfix] at hand; cases hand.2] at hclause
    constructor
    · refine .looping _ hpos (hl.reenter hinv hplan h hpos (by omega) hcap ?_ ?_)
      · exact Or.inr ⟨hnode, hfix, hkept⟩
      · rw [hexcluded, hclause]
    · intro _
      rw [countP_pass_of_not hincrements, hcounted]
  · rw [if_pos ⟨hnode, hrevert⟩] at hclause
    have henters : ¬ EntersS03 ⟨c, visit, c'⟩ := fun henters => by cases hpos.symm.trans henters
    refine .of_not_entering (.reverted _ hpos ?_) henters
    constructor
    · exact Or.inl rfl
    · rw [hexcluded]
      exact hclause.1
    · exact planned_kept hplan h hl.planned
    · rw [entries_cons_of_not henters]
      exact hl.bounded
    · rw [reverts_cons_of_edge ⟨hstage, hpos⟩, hl.notReverted]
    · exact hclause.2

theorem InLoop.leave_forward (hinv : PassInv c) (hplan : PlanInv c)
    (hl : InLoop strategies base tr c visit.node) (h : SharedSpec c visit c') {stage : Stage}
    (hforward : Forward visit.node stage) (hpos : c'.position = some (firstNode stage)) :
    PassOutcome strategies base ⟨c, visit, c'⟩ tr := by
  have hfirst : firstNode stage ≠ firstNode .S03 := ne_of_stage_ne hforward.notFirst
  have h90 : visit.node ≠ ⟨.S06, 90⟩ := ne_of_stage_ne hforward.notS06
  have h80 : visit.node ≠ ⟨.S06, 80⟩ := ne_of_stage_ne hforward.notS06
  have h04 : visit.node ≠ ⟨.S04, 90⟩ := ne_of_stage_ne hforward.notS04
  refine .of_not_entering (.looping _ hpos ?_) fun henters => ?_
  · exact hl.advance hplan h hpos h90 h80 (attempts_kept hinv h h04 h80) hforward.inLoop
      hforward.rank (firstNode_ne_ninety _ _) hfirst
      fun heq => absurd heq (firstNode_ne_ninety _ _)
  · exact hfirst (Option.some.inj (hpos.symm.trans henters))

theorem InLoop.step (hinv : PassInv c) (hplan : PlanInv c) (hchain : ChainInv portfolio base c)
    (hbase : base.Nodup) (hl : InLoop portfolio.strategies.length base tr c visit.node)
    (h : SharedSpec c visit c') (hclear : ClearExit ⟨c, visit, c'⟩) :
    PassOutcome portfolio.strategies.length base ⟨c, visit, c'⟩ tr := by
  cases hpos : c'.position with
  | none =>
    refine .of_not_entering (hl.close fun n hn => by cases hpos.symm.trans hn) ?_
    exact fun henters => by cases hpos.symm.trans henters
  | some n =>
    rcases nextPosition_cases (h.next.symm.trans hpos) with hinner | ⟨hend, stage, houter, rfl⟩
    · refine .of_not_entering (.looping n hpos (hl.inner hinv hplan hchain hbase h hpos hinner)) ?_
      intro henters
      exact (loop_innerNext h hl.stage hinner).2.2 (Option.some.inj (hpos.symm.trans henters))
    · have hstages := hl.stage
      simp only [loopStages, List.mem_cons, List.not_mem_nil, or_false] at hstages
      rcases hstages with hstage | hstage | hstage | hstage
      · exact hl.leave_forward hinv hplan h (forward_of_outerNext h (Or.inl hstage) houter) hpos
      · rw [hstage] at houter
        exact hl.leave_s04 hinv hplan h hclear hstage hend houter hpos
      · exact hl.leave_forward hinv hplan h (forward_of_outerNext h (Or.inr hstage) houter) hpos
      · rw [hstage] at houter
        exact hl.leave_s06 hinv hplan h hclear hstage hend houter hpos

end Step

end ProductionOptimizer
