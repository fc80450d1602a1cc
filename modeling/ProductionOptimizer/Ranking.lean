import Mathlib.Tactic.NormNum
import ProductionOptimizer.Handlers.RankAndSelect
import ProductionOptimizer.Library.MarginRanking

/-!
# The order of a ranking

`_rank` carries out the rounds of `MarginRanking` on the total scores, with the risk tiers for
tiers. What holds of every such ranking then holds of the order S01.50 records.
-/

namespace ProductionOptimizer.Ranking
open MarginRanking
set_option autoImplicit false

def scoreKeys : Keys StrategyScore ℚ ℕ where
  score := (·.totalScore)
  tier := fun score => riskTierOrder score.riskTier
  margin := materialTieMargin

def Descending (scores : List StrategyScore) : Prop :=
  scores.Pairwise fun x y => y.totalScore ≤ x.totalScore

theorem descending_sortByScore (scores : List StrategyScore) : Descending (sortByScore scores) := by
  have htotal : Std.Total fun x y : StrategyScore => y.totalScore ≤ x.totalScore :=
    ⟨fun x y => le_total _ _⟩
  have htrans : IsTrans StrategyScore fun x y => y.totalScore ≤ x.totalScore :=
    ⟨fun x y z hxy hyz => hyz.trans hxy⟩
  exact List.pairwise_insertionSort _ _

theorem sortByScore_perm (scores : List StrategyScore) : (sortByScore scores).Perm scores :=
  List.perm_insertionSort _ _

/-- `min` keeps the first of the lowest tier: of two equal tiers the one that stands earlier in
an order the list follows. -/
theorem foldl_lowerRisk_first {R : StrategyScore → StrategyScore → Prop}
    (htrans : ∀ x y z, R x y → R y z → R x z) {best : StrategyScore} {scores : List StrategyScore}
    (h : (best :: scores).Pairwise R) :
    ∀ s ∈ best :: scores, s = scores.foldl lowerRisk best ∨
      riskTierOrder (scores.foldl lowerRisk best).riskTier < riskTierOrder s.riskTier ∨
      riskTierOrder (scores.foldl lowerRisk best).riskTier = riskTierOrder s.riskTier ∧
        R (scores.foldl lowerRisk best) s := by
  induction scores generalizing best with
  | nil =>
    intro s hs
    exact .inl (List.mem_singleton.mp hs)
  | cons score scores ih =>
    intro s hs
    rw [List.foldl_cons]
    obtain ⟨hbest, hrest⟩ := List.pairwise_cons.mp h
    by_cases hrisk : riskTierOrder score.riskTier < riskTierOrder best.riskTier
    · have hstep : lowerRisk best score = score := if_pos hrisk
      rw [hstep]
      rcases List.mem_cons.mp hs with rfl | hs
      · right
        left
        rcases ih hrest score List.mem_cons_self with heq | hlt | ⟨heq, -⟩
        · rw [← heq]
          exact hrisk
        · exact lt_trans hlt hrisk
        · exact lt_of_eq_of_lt heq hrisk
      · exact ih hrest s hs
    · have hstep : lowerRisk best score = best := if_neg hrisk
      rw [hstep]
      have hkept : (best :: scores).Pairwise R :=
        List.pairwise_cons.mpr ⟨fun t ht => hbest t (List.mem_cons_of_mem _ ht),
          (List.pairwise_cons.mp hrest).2⟩
      rcases List.mem_cons.mp hs with rfl | hs
      · exact ih hkept s List.mem_cons_self
      · rcases List.mem_cons.mp hs with rfl | hs
        · -- The candidate that was passed over is no better than the one kept.
          right
          have htier : riskTierOrder best.riskTier ≤ riskTierOrder s.riskTier := not_lt.mp hrisk
          have hahead : R best s := hbest s List.mem_cons_self
          rcases ih hkept best List.mem_cons_self with heq | hlt | ⟨heq, hkeep⟩
          · rw [← heq]
            rcases htier.lt_or_eq with hlt | hsame
            · exact .inl hlt
            · exact .inr ⟨hsame, hahead⟩
          · exact .inl (lt_of_lt_of_le hlt htier)
          · rcases htier.lt_or_eq with hlt | hsame
            · exact .inl (lt_of_eq_of_lt heq hlt)
            · exact .inr ⟨heq.trans hsame, htrans _ _ _ hkeep hahead⟩
        · exact ih hkept s (List.mem_cons_of_mem _ hs)

/-- In a descending list the first of the lowest tier has the highest score of that tier. -/
theorem beats_foldl_lowerRisk {best : StrategyScore} {scores : List StrategyScore}
    (h : Descending (best :: scores)) :
    ∀ s ∈ best :: scores, scoreKeys.Beats (scores.foldl lowerRisk best) s := by
  intro s hs
  have htrans : ∀ x y z : StrategyScore, y.totalScore ≤ x.totalScore →
      z.totalScore ≤ y.totalScore → z.totalScore ≤ x.totalScore := by
    intro x y z hxy hyz
    exact hyz.trans hxy
  rcases foldl_lowerRisk_first htrans h s hs with heq | hlt | htie
  · rw [← heq]
    exact .inr ⟨rfl, le_refl _⟩
  · exact .inl hlt
  · exact .inr htie

theorem materialTieMargin_nonneg : 0 ≤ materialTieMargin := by
  norm_num [materialTieMargin]

/-- The scores a round compares. -/
def tied (top : StrategyScore) (scores : List StrategyScore) : List StrategyScore :=
  scores.filter fun s => top.totalScore - s.totalScore ≤ materialTieMargin

theorem close_iff_of_descending {top : StrategyScore} {rest : List StrategyScore}
    (h : Descending (top :: rest)) (s : StrategyScore) :
    scoreKeys.Close (top :: rest) s ↔ top.totalScore - s.totalScore ≤ materialTieMargin := by
  constructor
  · intro hclose
    exact hclose top List.mem_cons_self
  · intro hmargin t ht
    have htop : t.totalScore ≤ top.totalScore := by
      rcases List.mem_cons.mp ht with rfl | ht
      · exact le_refl _
      · exact (List.pairwise_cons.mp h).1 t ht
    exact (sub_le_sub_right htop _).trans hmargin

/-- The winner of a round is the best of what remains. -/
theorem best_winner {top : StrategyScore} {rest : List StrategyScore}
    (h : Descending (top :: rest)) :
    scoreKeys.Best (top :: rest) ((tied top (top :: rest)).foldl lowerRisk top) := by
  have htop : top ∈ tied top (top :: rest) := by
    apply List.mem_filter.mpr
    refine ⟨List.mem_cons_self, ?_⟩
    rw [sub_self]
    exact decide_eq_true materialTieMargin_nonneg
  have hsub : List.Sublist (tied top (top :: rest)) (top :: rest) := List.filter_sublist
  have hdesc : Descending (top :: tied top (top :: rest)) := by
    apply List.pairwise_cons.mpr
    refine ⟨?_, h.sublist hsub⟩
    intro s hs
    rcases List.mem_cons.mp (hsub.subset hs) with rfl | hs
    · exact le_refl _
    · exact (List.pairwise_cons.mp h).1 s hs
  have hmem : (tied top (top :: rest)).foldl lowerRisk top ∈ tied top (top :: rest) := by
    rcases foldl_lowerRisk_mem (tied top (top :: rest)) top with heq | hmem
    · rw [heq]
      exact htop
    · exact hmem
  obtain ⟨hin, hclose⟩ := List.mem_filter.mp hmem
  refine ⟨hin, (close_iff_of_descending h _).mpr (of_decide_eq_true hclose), ?_⟩
  intro s hs hs'
  apply beats_foldl_lowerRisk hdesc
  apply List.mem_cons_of_mem
  exact List.mem_filter.mpr ⟨hs, decide_eq_true ((close_iff_of_descending h s).mp hs')⟩

/-- Removing the winner by its id removes nothing else. -/
theorem perm_cons_filter_ne {scores : List StrategyScore} {winner : StrategyScore}
    (hnodup : (scores.map (·.strategyId)).Nodup) (hmem : winner ∈ scores) :
    scores.Perm (winner :: scores.filter (·.strategyId != winner.strategyId)) := by
  obtain ⟨before, after, rfl⟩ := List.append_of_mem hmem
  rw [List.map_append, List.map_cons, List.nodup_append] at hnodup
  obtain ⟨-, hafter, hdisjoint⟩ := hnodup
  have hbefore : before.filter (·.strategyId != winner.strategyId) = before := by
    apply List.filter_eq_self.mpr
    intro s hs
    have hne := hdisjoint s.strategyId (List.mem_map_of_mem hs) winner.strategyId
      List.mem_cons_self
    simpa using hne
  have hlater : after.filter (·.strategyId != winner.strategyId) = after := by
    apply List.filter_eq_self.mpr
    intro s hs
    have hne : s.strategyId ≠ winner.strategyId := by
      intro heq
      exact (List.nodup_cons.mp hafter).1 (heq ▸ List.mem_map_of_mem hs)
    simpa using hne
  have hself : (winner.strategyId != winner.strategyId) = false := by simp
  rw [List.filter_append, List.filter_cons, hself, hbefore, hlater]
  exact List.perm_middle

theorem ranked_rankFrom {fuel : Nat} {scores : List StrategyScore} (hfuel : scores.length ≤ fuel)
    (hdesc : Descending scores) (hnodup : (scores.map (·.strategyId)).Nodup) :
    ∃ ranked, rankFrom fuel scores = ranked.map (·.strategyId) ∧
      Ranked scoreKeys scores ranked := by
  induction fuel generalizing scores with
  | zero =>
    obtain rfl := List.length_eq_zero_iff.mp (Nat.le_zero.mp hfuel)
    exact ⟨[], rfl, .nil⟩
  | succ fuel ih =>
    cases scores with
    | nil => exact ⟨[], rfl, .nil⟩
    | cons top rest =>
      have hbest := best_winner hdesc
      have hperm := perm_cons_filter_ne hnodup hbest.mem
      have hlength := hperm.length_eq
      rw [List.length_cons, List.length_cons] at hlength
      rw [List.length_cons] at hfuel
      have hround := @ih ((top :: rest).filter
        (·.strategyId != ((tied top (top :: rest)).foldl lowerRisk top).strategyId))
      obtain ⟨ranked, hrank, hranked⟩ := hround (by omega) (hdesc.sublist List.filter_sublist)
        (hnodup.sublist (List.filter_sublist.map _))
      refine ⟨_ :: ranked, ?_, .cons hbest hperm hranked⟩
      rw [List.map_cons, ← hrank]
      rfl

/-- `_rank` carries out the rounds on all scores. -/
theorem ranked_rank {scores : List StrategyScore} (hnodup : (scores.map (·.strategyId)).Nodup) :
    ∃ ranked, rank scores = ranked.map (·.strategyId) ∧ Ranked scoreKeys scores ranked := by
  have hperm := sortByScore_perm scores
  have hsorted : ((sortByScore scores).map (·.strategyId)).Nodup :=
    (hperm.map _).nodup_iff.mpr hnodup
  obtain ⟨ranked, hrank, hranked⟩ := ranked_rankFrom (Nat.le_of_eq hperm.length_eq)
    (descending_sortByScore scores) hsorted
  exact ⟨ranked, hrank, hranked.of_perm hperm⟩

/-! ### The order S01.50 records -/

/-- `ranked` are the scores in the order of `rank scores`, and that order is sound. -/
structure SoundOrder (scores ranked : List StrategyScore) : Prop where
  ids : rank scores = ranked.map (·.strategyId)
  perm : ranked.Perm scores
  /-- At every place stands the lowest tier of those close to the best not yet ranked. -/
  lowestTier : ∀ before s after, ranked = before ++ s :: after →
    (∀ t ∈ s :: after, t.totalScore - s.totalScore ≤ materialTieMargin) ∧
      ∀ t ∈ s :: after, (∀ u ∈ s :: after, u.totalScore - t.totalScore ≤ materialTieMargin) →
        riskTierOrder s.riskTier ≤ riskTierOrder t.riskTier
  margin : ranked.Pairwise fun i j => j.totalScore - materialTieMargin ≤ i.totalScore
  dominance : ranked.Pairwise fun i j =>
    ¬ (i.totalScore < j.totalScore ∧ riskTierOrder j.riskTier ≤ riskTierOrder i.riskTier)

theorem SoundOrder.of_ranked {scores ranked : List StrategyScore}
    (hids : rank scores = ranked.map (·.strategyId)) (h : Ranked scoreKeys scores ranked) :
    SoundOrder scores ranked where
  ids := hids
  perm := h.perm
  lowestTier _ _ _ hsplit := h.lowest_tier hsplit
  margin := h.within_margin
  dominance := h.not_dominated

def keyOf (pair : ℚ × RiskTier) : ℚ × ℕ := (pair.1, riskTierOrder pair.2)

theorem keyOf_injective : Function.Injective keyOf := by
  rintro ⟨score, tier⟩ ⟨score', tier'⟩ h
  obtain ⟨rfl, htier⟩ := Prod.mk.inj h
  have heq : tier = tier' := by
    cases tier <;> cases tier' <;> first | rfl | cases htier
  rw [heq]

theorem map_key (scores : List StrategyScore) :
    (scores.map fun s => (s.totalScore, s.riskTier)).map keyOf = scores.map scoreKeys.key := by
  rw [List.map_map]
  rfl

/-- Every list of scores with distinct ids is ranked soundly, and another order of the same list
puts a strategy of the same score and tier at every place. -/
theorem ranking_is_sound {scores : List StrategyScore}
    (hnodup : (scores.map (·.strategyId)).Nodup) :
    ∃ ranked, SoundOrder scores ranked ∧ ∀ scores', scores'.Perm scores →
      ∃ ranked', SoundOrder scores' ranked' ∧
        ranked'.map (fun s => (s.totalScore, s.riskTier)) =
          ranked.map fun s => (s.totalScore, s.riskTier) := by
  obtain ⟨ranked, hids, hranked⟩ := ranked_rank hnodup
  refine ⟨ranked, .of_ranked hids hranked, ?_⟩
  intro scores' hperm
  have hnodup' : (scores'.map (·.strategyId)).Nodup := (hperm.map _).nodup_iff.mpr hnodup
  obtain ⟨ranked', hids', hranked'⟩ := ranked_rank hnodup'
  refine ⟨ranked', .of_ranked hids' hranked', ?_⟩
  have hkeys := hranked'.keys_eq hranked (hperm.map _)
  rw [← map_key, ← map_key] at hkeys
  exact List.map_injective_iff.mpr keyOf_injective hkeys

/-- Two scores within the margin, of which the riskier is higher, and a third out of it. -/
def sampleScores : List StrategyScore :=
  [⟨"a", .code, [], 0, 0, 0, 9 / 10⟩, ⟨"b", .prompt, [], 0, 0, 0, 22 / 25⟩,
    ⟨"c", .prompt, [], 0, 0, 0, 1 / 2⟩]

theorem sample_ranked_soundly :
    (sampleScores.map (·.strategyId)).Nodup ∧ ∃ ranked, SoundOrder sampleScores ranked ∧
      ranked.map (·.strategyId) = ["b", "a", "c"] := by
  have hnodup : (sampleScores.map (·.strategyId)).Nodup := by decide
  obtain ⟨ranked, hsound, -⟩ := ranking_is_sound hnodup
  refine ⟨hnodup, ranked, hsound, ?_⟩
  rw [← hsound.ids]
  decide +kernel

end ProductionOptimizer.Ranking
