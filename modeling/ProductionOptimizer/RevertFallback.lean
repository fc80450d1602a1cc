import ProductionOptimizer.SharedWorkflow

/-!
# The fallback after a revert

A revert sends the case back to S01 with one more strategy excluded. The keys of S01 carry
no pass number, so the second visit of S01 is answered from the intents of the first.
-/

namespace ProductionOptimizer
open Runs NumberedLog
set_option autoImplicit false

def RevertEdge (t : Transition Config Visit) : Prop :=
  t.label.node.stage = .S06 ∧ t.after.position = some (firstNode .S01)

instance (t : Transition Config Visit) : Decidable (RevertEdge t) :=
  inferInstanceAs (Decidable (_ ∧ _))

/-- The step was really executed against the present exclusions: `S01.20` lists and
`S01.90` seals no excluded strategy. -/
structure Reevaluated (u : Transition Config Visit) : Prop where
  fresh : u.label.replayed = false
  eligible : u.label.node = ⟨.S01, 20⟩ → ∀ strategyId ∈ u.after.state.s01EligibleStrategyIds,
    strategyId ∉ u.after.state.s01ExcludedStrategyIds
  selected : u.label.node = ⟨.S01, 90⟩ → ∀ ref ∈ u.label.execution.artifactRefs,
    ∀ now ranking portfolio strategyId approval excluded,
      ref.contentDigest = .selectedSolution now ranking portfolio strategyId approval excluded →
        strategyId ∉ u.after.state.s01ExcludedStrategyIds

/-- Every step of a visit of S01 that follows a revert is evaluated anew. -/
def FallbackFresh (tr : SharedTrace) : Prop :=
  ∀ later u between t earlier, tr = later ++ u :: (between ++ t :: earlier) → RevertEdge t →
    (∀ v ∈ u :: between, v.label.node.stage = .S01) → Reevaluated u

def EndsAtRevert (tr : SharedTrace) : Prop :=
  ∀ later u t earlier, tr = later ++ u :: t :: earlier → ¬ RevertEdge t

theorem deriveIdempotencyKey_s01 {c c' : Config} {visit : Visit} {registry : Registry Answers}
    {graph : Graph} (h : GraphStep registry graph c visit c') (number : Nat) :
    deriveIdempotencyKey ⟨.S01, number⟩ c'.state = deriveIdempotencyKey ⟨.S01, number⟩ c.state := by
  obtain ⟨_, _, _, hcommit, _, _⟩ := h.spec
  unfold deriveIdempotencyKey
  rw [hcommit.caseId, hcommit.resumeTargetNode, hcommit.resumeAttempts]
  rfl

section Runs
variable {c₀ c : Config} {tr : SharedTrace}

/-- From its first step on, a run holds a completed intent for `S01.10`. -/
theorem cached_first_node (hstart : c₀.position = some (firstNode .S01))
    (hrun : Run SharedStep c₀ tr c) (htr : tr ≠ []) :
    (c.ledger.cached (deriveIdempotencyKey (firstNode .S01) c.state)).isSome := by
  induction hrun with
  | nil => exact absurd rfl htr
  | @snoc tr s s' visit hrun hstep ih =>
    unfold firstNode at *
    rw [deriveIdempotencyKey_s01 hstep 10]
    by_cases hempty : tr = []
    · subst hempty
      cases hrun
      obtain ⟨_, hpos, hkey, _, hsource, _⟩ := hstep.spec
      rw [Option.some.inj (hstart.symm.trans hpos), ← hkey, hstep.ledger, hsource.cached_self]
      rfl
    · obtain ⟨execution, hcached⟩ := Option.isSome_iff_exists.mp (ih hempty)
      rw [hstep.ledger_mono hcached]
      rfl

/-- The step after a revert is a replay of `S01.10`. -/
theorem replayed_after_revert {t u : Transition Config Visit} {earlier : SharedTrace}
    (hstart : c₀.position = some (firstNode .S01))
    (hrun : Run SharedStep c₀ (u :: t :: earlier) c) (hrevert : RevertEdge t) :
    u.label.node = firstNode .S01 ∧ u.label.replayed = true := by
  obtain ⟨hrun', hstep⟩ := hrun.last_step
  obtain ⟨_, hpos, hkey, _, hsource, _⟩ := hstep.spec
  have hbefore : u.before = t.after := by
    cases hrun' with
    | snoc _ _ => rfl
  have hnode : u.label.node = firstNode .S01 := by
    rw [hbefore, hrevert.2] at hpos
    exact (Option.some.inj hpos).symm
  refine ⟨hnode, hsource.replayed_iff.mpr ?_⟩
  rw [hkey, hnode]
  exact cached_first_node hstart hrun' (List.cons_ne_nil _ _)

/-- The fallback is fresh exactly as long as nothing runs after a revert. -/
theorem fallbackFresh_iff (hstart : c₀.position = some (firstNode .S01))
    (hrun : Run SharedStep c₀ tr c) : FallbackFresh tr ↔ EndsAtRevert tr := by
  constructor
  · intro hfresh later u t earlier heq hrevert
    subst heq
    obtain ⟨s₁, hrun₁, _⟩ := hrun.split
    obtain ⟨hnode, hreplayed⟩ := replayed_after_revert hstart hrun₁ hrevert
    have hre := hfresh later u [] t earlier rfl hrevert (by simp [hnode, firstNode])
    rw [hre.fresh] at hreplayed
    cases hreplayed
  · intro hends later u between t earlier heq hrevert _
    cases hcase : between.reverse with
    | nil =>
      rw [List.reverse_eq_nil_iff.mp hcase] at heq
      exact absurd hrevert (hends later u t earlier heq)
    | cons v rest =>
      have hbetween : between = rest.reverse ++ [v] := by
        rw [← List.reverse_reverse between, hcase, List.reverse_cons]
      rw [hbetween] at heq
      exact absurd hrevert (hends (later ++ u :: rest.reverse) v t earlier (by simp [heq]))

end Runs

def noRevertSoFar (out : SharedTrace × Config) : Bool :=
  out.1.all fun t => !decide (RevertEdge t)

/-- A run that has not reverted has no stale fallback. -/
theorem fallbackFresh_until_implementation :
    ∃ tr c, Run SharedStep promptRiskCase tr c ∧ tr.length = 19 ∧ FallbackFresh tr := by
  obtain ⟨tr, c, hrun, hcheck⟩ := exists_sharedRun promptRiskCase
    (List.replicate 19 sampleAnswers) (fun out => decide (out.1.length = 19) && noRevertSoFar out)
    (by decide +kernel)
  simp only [noRevertSoFar, Bool.and_eq_true, decide_eq_true_eq, List.all_eq_true,
    Bool.not_eq_true', decide_eq_false_iff_not] at hcheck
  refine ⟨tr, c, hrun, hcheck.1, (fallbackFresh_iff rfl hrun).mpr ?_⟩
  intro later u t earlier heq
  exact hcheck.2 t (by simp [heq])

def worseAnswers : Answers := { sampleAnswers with remeasured := fun _ => some (1, 5) }

def listsExcluded (out : SharedTrace × Config) : Bool :=
  match out.1 with
  | u :: v :: t :: _ =>
    decide (u.label.node = ⟨.S01, 20⟩ ∧ v.label.node = ⟨.S01, 10⟩ ∧ RevertEdge t ∧
      u.label.replayed = true ∧ u.after.state.s01EligibleStrategyIds = ["s1"] ∧
      u.after.state.s01ExcludedStrategyIds = ["s1"])
  | _ => false

/-- After a revert of its only strategy, `S01.20` replays the list that still holds it. -/
theorem reverted_strategy_is_eligible_again :
    ∃ tr c, Run SharedStep promptRiskCase tr c ∧
      c.state.s01EligibleStrategyIds = ["s1"] ∧ c.state.s01ExcludedStrategyIds = ["s1"] ∧
      ¬ FallbackFresh tr := by
  obtain ⟨tr, c, hrun, hcheck⟩ := exists_sharedRun promptRiskCase
    (List.replicate 57 worseAnswers) listsExcluded (by decide +kernel)
  unfold listsExcluded at hcheck
  split at hcheck
  · rename_i u v t earlier htr
    dsimp only at htr
    subst htr
    obtain ⟨hu, hv, hrevert, hreplayed, heligible, hexcluded⟩ := of_decide_eq_true hcheck
    have hlast : u.after = c := by
      cases hrun with
      | snoc _ _ => rfl
    rw [hlast] at heligible hexcluded
    refine ⟨_, c, hrun, heligible, hexcluded, fun hfresh => ?_⟩
    have hre := hfresh [] u [v] t earlier rfl hrevert (by simp [hu, hv])
    rw [hre.fresh] at hreplayed
    cases hreplayed
  · cases hcheck

end ProductionOptimizer
