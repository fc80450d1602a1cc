import ProductionOptimizer.Ranking

/-!
# The first place of a ranking

Which strategy `_rank` puts first, told from the totals alone: it is within the margin of the
best, and of all that are, it has the lowest tier, then the highest total, then the earliest
place in the input. `sorted` is stable, so the last of these is the order the scores came in.
-/

namespace ProductionOptimizer.Ranking
set_option autoImplicit false

def place (scores : List StrategyScore) (score : StrategyScore) : Nat :=
  (scores.map (·.strategyId)).idxOf score.strategyId

section Order
variable (total : StrategyScore → ℚ) (scores : List StrategyScore)

/-- The order of `sorted`, with the places of the input for equal totals. -/
def Earlier (x y : StrategyScore) : Prop :=
  total y < total x ∨ total y = total x ∧ place scores x < place scores y

/-- `w` is within the margin of every strategy and ahead of all others that are. -/
structure Leads (w : StrategyScore) : Prop where
  mem : w ∈ scores
  close : ∀ u ∈ scores, total u - total w ≤ materialTieMargin
  ahead : ∀ u ∈ scores, (∀ v ∈ scores, total v - total u ≤ materialTieMargin) →
    u.strategyId ≠ w.strategyId → riskTierOrder w.riskTier < riskTierOrder u.riskTier ∨
      riskTierOrder w.riskTier = riskTierOrder u.riskTier ∧ Earlier total scores w u

variable {total scores}

theorem Earlier.trans {x y z : StrategyScore} (hxy : Earlier total scores x y)
    (hyz : Earlier total scores y z) : Earlier total scores x z := by
  rcases hxy with hxy | ⟨hxy, hplace⟩
  · rcases hyz with hyz | ⟨hyz, -⟩
    · exact .inl (lt_trans hyz hxy)
    · exact .inl (lt_of_eq_of_lt hyz hxy)
  · rcases hyz with hyz | ⟨hyz, hplace'⟩
    · exact .inl (lt_of_lt_of_eq hyz hxy)
    · exact .inr ⟨hyz.trans hxy, lt_trans hplace hplace'⟩

theorem Earlier.asymm {x y : StrategyScore} (hxy : Earlier total scores x y) :
    ¬ Earlier total scores y x := by
  intro hyx
  rcases hxy with hxy | ⟨hxy, hplace⟩
  · rcases hyx with hyx | ⟨hyx, -⟩
    · exact lt_asymm hxy hyx
    · exact hxy.ne hyx.symm
  · rcases hyx with hyx | ⟨-, hplace'⟩
    · exact hyx.ne hxy.symm
    · exact lt_asymm hplace hplace'

/-- At most one strategy leads. -/
theorem Leads.unique {w w' : StrategyScore} (h : Leads total scores w)
    (h' : Leads total scores w') : w.strategyId = w'.strategyId := by
  by_contra hne
  rcases h.ahead w' h'.mem h'.close (Ne.symm hne) with hlt | ⟨heq, hearlier⟩
  · rcases h'.ahead w h.mem h.close hne with hlt' | ⟨heq', -⟩
    · exact lt_asymm hlt hlt'
    · exact hlt.ne heq'.symm
  · rcases h'.ahead w h.mem h.close hne with hlt' | ⟨-, hearlier'⟩
    · exact hlt'.ne heq.symm
    · exact hearlier.asymm hearlier'

end Order

/-! ### `sorted` is stable -/

theorem pairwise_place {scores : List StrategyScore}
    (hnodup : (scores.map (·.strategyId)).Nodup) :
    scores.Pairwise fun x y => place scores x < place scores y := by
  apply List.pairwise_iff_getElem.mpr
  intro i j hi hj hlt
  have hplace : ∀ k (hk : k < scores.length), place scores scores[k] = k := by
    intro k hk
    have hk' : k < (scores.map (·.strategyId)).length := by
      rw [List.length_map]
      exact hk
    have hidx := hnodup.idxOf_getElem k hk'
    rw [List.getElem_map] at hidx
    exact hidx
  rw [hplace i hi, hplace j hj]
  exact hlt

/-- Inserting a score that came earlier puts it before its equals. -/
theorem pairwise_orderedInsert {all sorted : List StrategyScore} {x : StrategyScore}
    (hsorted : sorted.Pairwise (Earlier (·.totalScore) all))
    (hplace : ∀ y ∈ sorted, place all x < place all y) :
    (sorted.orderedInsert (fun x y => y.totalScore ≤ x.totalScore) x).Pairwise
      (Earlier (·.totalScore) all) := by
  induction sorted with
  | nil => exact List.pairwise_singleton _ _
  | cons y sorted ih =>
    obtain ⟨hy, hrest⟩ := List.pairwise_cons.mp hsorted
    rw [List.orderedInsert_cons]
    by_cases hle : y.totalScore ≤ x.totalScore
    · rw [if_pos hle]
      have hxy : Earlier (·.totalScore) all x y := by
        rcases hle.lt_or_eq with hlt | heq
        · exact .inl hlt
        · exact .inr ⟨heq, hplace y List.mem_cons_self⟩
      apply List.pairwise_cons.mpr
      refine ⟨?_, hsorted⟩
      intro z hz
      rcases List.mem_cons.mp hz with rfl | hz
      · exact hxy
      · exact hxy.trans (hy z hz)
    · rw [if_neg hle]
      apply List.pairwise_cons.mpr
      refine ⟨?_, ih hrest fun z hz => hplace z (List.mem_cons_of_mem _ hz)⟩
      intro z hz
      rcases (List.mem_orderedInsert _).mp hz with rfl | hz
      · exact .inl (not_le.mp hle)
      · exact hy z hz

theorem pairwise_insertionSort {all scores : List StrategyScore}
    (h : scores.Pairwise fun x y => place all x < place all y) :
    (sortByScore scores).Pairwise (Earlier (·.totalScore) all) := by
  induction scores with
  | nil => exact List.Pairwise.nil
  | cons x scores ih =>
    obtain ⟨hx, hrest⟩ := List.pairwise_cons.mp h
    apply pairwise_orderedInsert (ih hrest)
    intro y hy
    exact hx y ((List.mem_insertionSort _).mp hy)

theorem sortByScore_stable {scores : List StrategyScore}
    (hnodup : (scores.map (·.strategyId)).Nodup) :
    (sortByScore scores).Pairwise (Earlier (·.totalScore) scores) :=
  pairwise_insertionSort (pairwise_place hnodup)

/-! ### The head of the ranking -/

theorem lowerRisk_self (score : StrategyScore) : lowerRisk score score = score :=
  if_neg (lt_irrefl _)

/-- The winner of the first round leads. -/
theorem leads_winner {scores rest : List StrategyScore} {top : StrategyScore}
    (hnodup : (scores.map (·.strategyId)).Nodup) (hsorted : sortByScore scores = top :: rest) :
    Leads (·.totalScore) scores ((tied top (top :: rest)).foldl lowerRisk top) := by
  have hdesc : Descending (top :: rest) := hsorted ▸ descending_sortByScore scores
  have hbest := best_winner hdesc
  have hmem : ∀ s, s ∈ top :: rest ↔ s ∈ scores := by
    intro s
    rw [← hsorted]
    exact List.mem_insertionSort _
  have hstable : (top :: rest).Pairwise (Earlier (·.totalScore) scores) :=
    hsorted ▸ sortByScore_stable hnodup
  have htop : tied top (top :: rest) = top :: tied top rest := by
    apply List.filter_cons_of_pos
    rw [sub_self]
    exact decide_eq_true materialTieMargin_nonneg
  refine ⟨(hmem _).mp hbest.mem, ?_, ?_⟩
  · intro u hu
    exact hbest.close u ((hmem u).mpr hu)
  · intro u hu hclose hne
    have hutied : u ∈ tied top (top :: rest) := by
      apply List.mem_filter.mpr
      exact ⟨(hmem u).mpr hu, decide_eq_true (hclose top ((hmem top).mp List.mem_cons_self))⟩
    have hsub : (tied top (top :: rest)).Pairwise (Earlier (·.totalScore) scores) :=
      hstable.sublist List.filter_sublist
    -- The fold starts from the top score and meets it once more as the first tied one.
    have hfold : (tied top (top :: rest)).foldl lowerRisk top =
        (tied top rest).foldl lowerRisk top := by
      rw [htop, List.foldl_cons, lowerRisk_self]
    rw [htop] at hsub hutied
    rw [hfold] at hne ⊢
    have htrans : ∀ x y z, Earlier (·.totalScore) scores x y →
        Earlier (·.totalScore) scores y z → Earlier (·.totalScore) scores x z := by
      intro x y z hxy hyz
      exact hxy.trans hyz
    rcases foldl_lowerRisk_first htrans hsub u hutied with heq | hlt | htie
    · exact absurd (congrArg _ heq) hne
    · exact .inl hlt
    · exact .inr htie

/-- `_rank` puts exactly the leader first. -/
theorem head_rank_iff {scores : List StrategyScore} {w : StrategyScore}
    (hnodup : (scores.map (·.strategyId)).Nodup) (hw : w ∈ scores) :
    (rank scores).head? = some w.strategyId ↔ Leads (·.totalScore) scores w := by
  have hperm := sortByScore_perm scores
  cases hsorted : sortByScore scores with
  | nil =>
    rw [hsorted] at hperm
    rw [hperm.symm.eq_nil] at hw
    cases hw
  | cons top rest =>
    obtain ⟨count, hcount⟩ : ∃ count, scores.length = count + 1 := by
      refine ⟨rest.length, ?_⟩
      rw [← hperm.length_eq, hsorted]
      rfl
    have hhead : (rank scores).head? =
        some ((tied top (top :: rest)).foldl lowerRisk top).strategyId := by
      unfold rank
      rw [hcount, hsorted]
      rfl
    have hleads := leads_winner hnodup hsorted
    rw [hhead, Option.some_inj]
    constructor
    · intro hid
      have heq := List.inj_on_of_nodup_map hnodup hleads.mem hw hid
      exact heq ▸ hleads
    · intro hlead
      exact hleads.unique hlead

theorem rank_eq_nil_iff {scores : List StrategyScore} : rank scores = [] ↔ scores = [] := by
  constructor
  · intro hrank
    have hperm := sortByScore_perm scores
    cases hsorted : sortByScore scores with
    | nil =>
      rw [hsorted] at hperm
      exact hperm.symm.eq_nil
    | cons top rest =>
      rw [hsorted] at hperm
      unfold rank at hrank
      rw [hsorted, ← hperm.length_eq] at hrank
      cases hrank
  · rintro rfl
    rfl

/-- Scores that keep their ids and tiers are led by their new totals. -/
theorem leads_map {f : StrategyScore → StrategyScore} {scores : List StrategyScore}
    {w : StrategyScore} (hid : ∀ s, (f s).strategyId = s.strategyId)
    (htier : ∀ s, (f s).riskTier = s.riskTier) (hw : w ∈ scores) :
    Leads (·.totalScore) (scores.map f) (f w) ↔ Leads (fun s => (f s).totalScore) scores w := by
  have hplace : ∀ s, place (scores.map f) (f s) = place scores s := by
    intro s
    have hids : (scores.map f).map (·.strategyId) = scores.map (·.strategyId) := by
      rw [List.map_map]
      exact List.map_congr_left fun x _ => hid x
    unfold place
    rw [hids, hid]
  constructor
  · rintro ⟨-, hclose, hahead⟩
    refine ⟨hw, fun u hu => hclose (f u) (List.mem_map_of_mem hu), ?_⟩
    intro u hu hbest hne
    have hbest' : ∀ v ∈ scores.map f, v.totalScore - (f u).totalScore ≤ materialTieMargin := by
      intro v hv
      obtain ⟨v₀, hv₀, rfl⟩ := List.mem_map.mp hv
      exact hbest v₀ hv₀
    have hfu := hahead (f u) (List.mem_map_of_mem hu) hbest' (by rw [hid, hid]; exact hne)
    unfold Earlier at hfu ⊢
    rw [htier, htier, hplace, hplace] at hfu
    exact hfu
  · rintro ⟨-, hclose, hahead⟩
    refine ⟨List.mem_map_of_mem hw, ?_, ?_⟩
    · intro u hu
      obtain ⟨u₀, hu₀, rfl⟩ := List.mem_map.mp hu
      exact hclose u₀ hu₀
    · intro u hu hbest hne
      obtain ⟨u₀, hu₀, rfl⟩ := List.mem_map.mp hu
      rw [hid, hid] at hne
      have hfu := hahead u₀ hu₀ (fun v hv => hbest (f v) (List.mem_map_of_mem hv)) hne
      unfold Earlier at hfu ⊢
      rw [htier, htier, hplace, hplace]
      exact hfu

end ProductionOptimizer.Ranking
