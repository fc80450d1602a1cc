import Mathlib.Tactic.FieldSimp
import Mathlib.Tactic.Ring
import ProductionOptimizer.FirstPlace
import ProductionOptimizer.WeightRatios

/-!
# The sensitivity sweep against a recomputation

S01.60 adds half a criterion's score to every total. S01.40 on the request with that criterion's
weight raised divides by a larger sum and scales the benefit by its own factor, so the two give
different totals; they agree on a criterion when the strategy that is first keeps its place
under both totals or under neither.
-/

namespace ProductionOptimizer.SensitivitySweep
open Ranking WeightRatios
set_option autoImplicit false

/-! ### The request with one weight raised -/

section Boost
variable {request : OptimizationRequest} {before after : List Criterion} {c : Criterion}

/-- The request whose criterion `c` has its weight multiplied by `_SENSITIVITY_PERTURBATION`. -/
def boosted (request : OptimizationRequest) (before : List Criterion) (c : Criterion)
    (after : List Criterion) : OptimizationRequest :=
  { request with
    criteria := before ++ { c with weight := c.weight * sensitivityPerturbation } :: after }

/-- Of criteria with one id the last gives the weight. -/
def counts (c : Criterion) (after : List Criterion) : Bool :=
  after.all (·.criterionId != c.criterionId)

/-- The factor by which the larger sum of weights shrinks every share. -/
def shrink (request : OptimizationRequest) (c : Criterion) : ℚ :=
  totalWeight request / (totalWeight request + c.weight * (sensitivityPerturbation - 1))

theorem lastWhere_append_cons (p : Criterion → Bool) :
    lastWhere (before ++ c :: after) p =
      (lastWhere after p).or (if p c then some c else lastWhere before p) := by
  unfold lastWhere
  rw [List.reverse_append, List.reverse_cons, List.append_assoc, List.find?_append]
  congr 1
  show (c :: before.reverse).find? p = _
  rw [List.find?_cons]
  cases p c <;> rfl

theorem totalWeight_pos (hpos : PositiveWeights request) : 0 < totalWeight request := by
  have hnonneg : 0 ≤ (request.criteria.map (·.weight)).sum := by
    apply List.sum_nonneg
    intro weight hweight
    obtain ⟨criterion, hcriterion, rfl⟩ := List.mem_map.mp hweight
    exact le_of_lt (hpos criterion hcriterion)
  unfold totalWeight
  dsimp only
  split
  · exact one_pos
  · rename_i hne
    exact lt_of_le_of_ne hnonneg (Ne.symm hne)

theorem totalWeight_eq_sum (hpos : PositiveWeights request) (hne : request.criteria ≠ []) :
    totalWeight request = (request.criteria.map (·.weight)).sum := by
  apply if_neg
  intro hzero
  exact hne (sum_weights_eq_zero hpos hzero)

variable (hcriteria : request.criteria = before ++ c :: after) (hpos : PositiveWeights request)
include hcriteria hpos

theorem positive_boosted : PositiveWeights (boosted request before c after) := by
  have hall : ∀ criterion ∈ before ++ c :: after, 0 < criterion.weight := by
    intro criterion hmem
    exact hpos criterion (hcriteria ▸ hmem)
  intro criterion hmem
  rcases List.mem_append.mp hmem with hbefore | hrest
  · exact hall criterion (List.mem_append_left _ hbefore)
  · rcases List.mem_cons.mp hrest with rfl | hafter
    · have hc : 0 < c.weight := hall c (List.mem_append_right _ List.mem_cons_self)
      exact mul_pos hc (by norm_num [sensitivityPerturbation])
    · exact hall criterion (List.mem_append_right _ (List.mem_cons_of_mem _ hafter))

theorem totalWeight_boosted : totalWeight (boosted request before c after) =
    totalWeight request + c.weight * (sensitivityPerturbation - 1) := by
  have hne : request.criteria ≠ [] := by
    rw [hcriteria]
    simp
  have hne' : (boosted request before c after).criteria ≠ [] := by
    simp [boosted]
  rw [totalWeight_eq_sum hpos hne, totalWeight_eq_sum (positive_boosted hcriteria hpos) hne',
    hcriteria]
  simp only [boosted, List.map_append, List.map_cons, List.sum_append, List.sum_cons]
  ring

theorem shrink_eq : shrink request c =
    totalWeight request / totalWeight (boosted request before c after) := by
  rw [totalWeight_boosted hcriteria hpos]
  rfl

/-- Every share shrinks; that of the raised criterion is multiplied as well. -/
theorem weightOf_boosted (criterionId : String) :
    weightOf (boosted request before c after) criterionId =
      weightOf request criterionId * (shrink request c *
        if counts c after && criterionId == c.criterionId then sensitivityPerturbation else 1) := by
  have htotal := (totalWeight_pos hpos).ne'
  have htotal' := (totalWeight_pos (positive_boosted hcriteria hpos)).ne'
  rw [shrink_eq hcriteria hpos]
  have hboosted : (boosted request before c after).criteria =
      before ++ { c with weight := c.weight * sensitivityPerturbation } :: after := rfl
  unfold weightOf
  rw [hcriteria, hboosted, lastWhere_append_cons, lastWhere_append_cons]
  cases hafter : lastWhere after (·.criterionId == criterionId) with
  | some criterion =>
    -- A later criterion of the same id decides, so the raised weight does not count for it.
    have hid : criterion.criterionId = criterionId := by simpa using List.find?_some hafter
    have hmem : criterion ∈ after := List.mem_reverse.mp (List.mem_of_find?_eq_some hafter)
    have hcounts : (counts c after && criterionId == c.criterionId) = false := by
      by_contra htrue
      obtain ⟨hall, heq⟩ := Bool.and_eq_true_iff.mp (Bool.not_eq_false _ ▸ htrue)
      have hother := List.all_eq_true.mp hall criterion hmem
      simp only [bne_iff_ne, ne_eq] at hother
      exact hother (hid.trans (by simpa using heq))
    rw [hcounts]
    show criterion.weight / _ = criterion.weight / _ * (_ / _ * 1)
    field_simp
  | none =>
    have hnone : ∀ criterion ∈ after, criterion.criterionId ≠ criterionId := by
      intro criterion hmem heq
      have hfind := List.find?_eq_none.mp hafter criterion (List.mem_reverse.mpr hmem)
      exact hfind (by simpa using heq)
    by_cases heq : c.criterionId = criterionId
    · have hcounts : (counts c after && criterionId == c.criterionId) = true := by
        apply Bool.and_eq_true_iff.mpr
        refine ⟨?_, by simp [heq]⟩
        apply List.all_eq_true.mpr
        intro criterion hmem
        simpa [heq] using hnone criterion hmem
      have hbeq : (c.criterionId == criterionId) = true := by simpa using heq
      rw [hcounts]
      simp only [Option.none_or, hbeq, if_true]
      field_simp
    · have hcounts : (counts c after && criterionId == c.criterionId) = false := by
        simp [Ne.symm heq]
      have hbeq : (c.criterionId == criterionId) = false := by simpa using heq
      rw [hcounts]
      simp only [Option.none_or, hbeq, if_false, Bool.false_eq_true]
      cases lastWhere before (·.criterionId == criterionId) with
      | none => simp
      | some criterion =>
        show criterion.weight / _ = criterion.weight / _ * (_ / _ * 1)
        field_simp

end Boost

/-! ### The two totals -/

def criterionScore (criterionId : String) (score : StrategyScore) : ℚ :=
  (score.criterionScores.lookup criterionId).getD 0

/-- The total of `_perturb_score`. -/
def sweptTotal (criterionId : String) (score : StrategyScore) : ℚ :=
  score.totalScore + criterionScore criterionId score * (sensitivityPerturbation - 1)

/-- The total of S01.40 on the request with the raised weight. -/
def recomputedTotal (request : OptimizationRequest) (c : Criterion) (after : List Criterion)
    (score : StrategyScore) : ℚ :=
  benefitWeight * (shrink request c * ((score.criterionScores.map (·.2)).sum +
    if counts c after then criterionScore c.criterionId score * (sensitivityPerturbation - 1)
    else 0)) +
  effortWeight * score.effortScore + reversibilityWeight * score.reversibilityScore -
    riskWeight * score.riskPenalty

/-- A score as S01.40 gives it when every share is multiplied by `k`, and that of `criterionId`
by `m` as well. -/
def reweigh (k : ℚ) (m : String → ℚ) (score : StrategyScore) : StrategyScore :=
  let criterionScores := score.criterionScores.map fun e => (e.1, e.2 * (k * m e.1))
  { score with
    criterionScores := criterionScores
    totalScore := benefitWeight * (criterionScores.map (·.2)).sum +
      effortWeight * score.effortScore + reversibilityWeight * score.reversibilityScore -
      riskWeight * score.riskPenalty }

/-- What the raised weight multiplies a share by, apart from the larger sum. -/
def raise (c : Criterion) (after : List Criterion) (criterionId : String) : ℚ :=
  if counts c after && criterionId == c.criterionId then sensitivityPerturbation else 1

theorem perturbScore_totalScore (criterionId : String) (score : StrategyScore) :
    (perturbScore criterionId sensitivityPerturbation score).totalScore =
      sweptTotal criterionId score := by
  unfold perturbScore sweptTotal criterionScore
  cases score.criterionScores.lookup criterionId with
  | none => simp
  | some contribution => rfl

theorem perturbScore_strategyId (criterionId : String) (score : StrategyScore) :
    (perturbScore criterionId sensitivityPerturbation score).strategyId = score.strategyId := by
  unfold perturbScore
  cases score.criterionScores.lookup criterionId <;> rfl

theorem perturbScore_riskTier (criterionId : String) (score : StrategyScore) :
    (perturbScore criterionId sensitivityPerturbation score).riskTier = score.riskTier := by
  unfold perturbScore
  cases score.criterionScores.lookup criterionId <;> rfl

/-- In a dict the raised entry is met once. -/
theorem sum_raised (k m : ℚ) (criterionId : String) {entries : List (String × ℚ)}
    (hnodup : (entries.map Prod.fst).Nodup) :
    (entries.map fun e => e.2 * (k * if e.1 == criterionId then m else 1)).sum =
      k * ((entries.map (·.2)).sum + (entries.lookup criterionId).getD 0 * (m - 1)) := by
  induction entries with
  | nil => simp
  | cons e entries ih =>
    obtain ⟨key, value⟩ := e
    rw [List.map_cons] at hnodup
    obtain ⟨hkey, hrest⟩ := List.nodup_cons.mp hnodup
    rw [List.map_cons, List.sum_cons, ih hrest, List.map_cons, List.sum_cons]
    by_cases heq : key = criterionId
    · have hnone : entries.lookup criterionId = none := by
        apply List.lookup_eq_none_iff.mpr
        intro e he
        have hne : e.1 ≠ criterionId := by
          intro hsame
          apply hkey
          rw [heq, ← hsame]
          show e.1 ∈ entries.map Prod.fst
          exact List.mem_map_of_mem he
        simpa using Ne.symm hne
      have hbeq : (key == criterionId) = true := by simpa using heq
      rw [hnone, heq, List.lookup_cons_self]
      simp only [beq_self_eq_true, if_true, Option.getD_some, Option.getD_none]
      ring
    · have hbeq : (key == criterionId) = false := by simpa using heq
      have hbeq' : (criterionId == key) = false := by simpa using Ne.symm heq
      have hlookup : ((key, value) :: entries).lookup criterionId = entries.lookup criterionId := by
        rw [List.lookup_cons, hbeq']
      rw [hlookup]
      simp only [hbeq, Bool.false_eq_true, if_false]
      ring

theorem reweigh_totalScore {request : OptimizationRequest} {c : Criterion}
    {after : List Criterion} {score : StrategyScore}
    (hnodup : (score.criterionScores.map Prod.fst).Nodup) :
    (reweigh (shrink request c) (raise c after) score).totalScore =
      recomputedTotal request c after score := by
  have hsum : ((score.criterionScores.map fun e =>
      (e.1, e.2 * (shrink request c * raise c after e.1))).map (·.2)).sum =
      shrink request c * ((score.criterionScores.map (·.2)).sum +
        if counts c after then
          criterionScore c.criterionId score * (sensitivityPerturbation - 1) else 0) := by
    rw [List.map_map]
    cases hcounts : counts c after with
    | true =>
      have hraise : ∀ id, raise c after id =
          if id == c.criterionId then sensitivityPerturbation else 1 := by
        intro id
        unfold raise
        rw [hcounts, Bool.true_and]
      simp only [Function.comp_def, hraise, if_true]
      exact sum_raised _ _ _ hnodup
    | false =>
      have hraise : ∀ id, raise c after id = 1 := by
        intro id
        unfold raise
        rw [hcounts, Bool.false_and]
        rfl
      simp only [Function.comp_def, hraise, Bool.false_eq_true, if_false, add_zero, mul_one]
      rw [← List.sum_map_mul_left]
      simp only [mul_comm]
  unfold reweigh recomputedTotal
  dsimp only
  rw [hsum]

/-! ### The scores of the second run -/

section Scores
variable {request : OptimizationRequest} {before after : List Criterion} {c : Criterion}
  {portfolio : SolutionPortfolio} {factors : List (String × NormalizedFactor)}
  {scores : List StrategyScore}

theorem scoreAll_boosted (hcriteria : request.criteria = before ++ c :: after)
    (hpos : PositiveWeights request) (h : scoreAll request portfolio factors = .ok scores) :
    scoreAll (boosted request before c after) portfolio factors =
      .ok (scores.map (reweigh (shrink request c) (raise c after))) := by
  have hscore : ∀ strategyId riskTier factor,
      scoreOf (boosted request before c after) strategyId riskTier factor =
        reweigh (shrink request c) (raise c after)
          (scoreOf request strategyId riskTier factor) := by
    intro strategyId riskTier factor
    have hentries : (factor.benefitByCriterion.map fun e =>
        (e.1, e.2 * weightOf (boosted request before c after) e.1)) =
        (factor.benefitByCriterion.map fun e => (e.1, e.2 * weightOf request e.1)).map
          fun e => (e.1, e.2 * (shrink request c * raise c after e.1)) := by
      rw [List.map_map]
      apply List.map_congr_left
      intro e _
      show (e.1, e.2 * _) = (e.1, e.2 * weightOf request e.1 * _)
      rw [weightOf_boosted hcriteria hpos, mul_assoc]
      rfl
    unfold scoreOf reweigh
    dsimp only
    rw [hentries]
  induction factors generalizing scores with
  | nil =>
    cases h
    rfl
  | cons entry factors ih =>
    obtain ⟨strategyId, factor⟩ := entry
    unfold scoreAll at h ⊢
    split at h
    · cases h
    · rename_i strategy hfind
      obtain ⟨rest, hrest, hok⟩ := except_bind_ok h
      cases hok
      simp only [ih hrest]
      show Except.ok _ = _
      rw [hscore, List.map_cons]

theorem scoreAll_ids (h : scoreAll request portfolio factors = .ok scores) :
    scores.map (·.strategyId) = factors.map Prod.fst := by
  induction factors generalizing scores with
  | nil =>
    cases h
    rfl
  | cons entry factors ih =>
    obtain ⟨strategyId, factor⟩ := entry
    unfold scoreAll at h
    split at h
    · cases h
    · obtain ⟨rest, hrest, hok⟩ := except_bind_ok h
      cases hok
      rw [List.map_cons, List.map_cons, ih hrest]
      rfl

theorem scoreAll_keys (h : scoreAll request portfolio factors = .ok scores) :
    ∀ score ∈ scores, ∃ e ∈ factors,
      score.criterionScores.map Prod.fst = e.2.benefitByCriterion.map Prod.fst := by
  induction factors generalizing scores with
  | nil =>
    cases h
    intro score hscore
    cases hscore
  | cons entry factors ih =>
    obtain ⟨strategyId, factor⟩ := entry
    unfold scoreAll at h
    split at h
    · cases h
    · obtain ⟨rest, hrest, hok⟩ := except_bind_ok h
      cases hok
      intro score hscore
      rcases List.mem_cons.mp hscore with rfl | hscore
      · refine ⟨_, List.mem_cons_self, ?_⟩
        show (factor.benefitByCriterion.map _).map _ = _
        rw [List.map_map]
        rfl
      · obtain ⟨e, he, hkeys⟩ := ih hrest score hscore
        exact ⟨e, List.mem_cons_of_mem _ he, hkeys⟩

end Scores

/-! ### When the sweep is right -/

theorem Leads.congr {total total' : StrategyScore → ℚ} {scores : List StrategyScore}
    {w : StrategyScore} (h : ∀ s ∈ scores, total s = total' s) :
    Leads total scores w ↔ Leads total' scores w := by
  have himp : ∀ {t t' : StrategyScore → ℚ}, (∀ s ∈ scores, t s = t' s) → Leads t scores w →
      Leads t' scores w := by
    intro t t' heq hleads
    have hw := heq w hleads.mem
    refine ⟨hleads.mem, ?_, ?_⟩
    · intro u hu
      rw [← heq u hu, ← hw]
      exact hleads.close u hu
    · intro u hu hclose hne
      have hclose' : ∀ v ∈ scores, t v - t u ≤ materialTieMargin := by
        intro v hv
        rw [heq v hv, heq u hu]
        exact hclose v hv
      have hahead := hleads.ahead u hu hclose' hne
      unfold Earlier at hahead ⊢
      rw [heq u hu, hw] at hahead
      exact hahead
  constructor
  · exact himp h
  · exact himp fun s hs => (h s hs).symm

theorem flagText_injective : Function.Injective flagText := by
  intro id id' h
  unfold flagText at h
  have hlists := congrArg String.toList h
  simp only [String.toList_append] at hlists
  exact String.toList_injective (List.append_cancel_left (List.append_cancel_right hlists))

section Sweep
variable {scores : List StrategyScore} {w : StrategyScore}

/-- The first place after a change that keeps ids and tiers. -/
theorem head_rank_map {f : StrategyScore → StrategyScore}
    (hid : ∀ s, (f s).strategyId = s.strategyId) (htier : ∀ s, (f s).riskTier = s.riskTier)
    (hnodup : (scores.map (·.strategyId)).Nodup) (hw : w ∈ scores) :
    (rank (scores.map f)).head? = some w.strategyId ↔
      Leads (fun s => (f s).totalScore) scores w := by
  have hids : (scores.map f).map (·.strategyId) = scores.map (·.strategyId) := by
    rw [List.map_map]
    exact List.map_congr_left fun s _ => hid s
  have hnodup' : ((scores.map f).map (·.strategyId)).Nodup := by
    rw [hids]
    exact hnodup
  rw [← hid w, head_rank_iff hnodup' (List.mem_map_of_mem hw)]
  exact leads_map hid htier hw

theorem flips_iff (hnodup : (scores.map (·.strategyId)).Nodup) (hw : w ∈ scores)
    (criterionId : String) :
    flips scores w.strategyId criterionId = true ↔ ¬ Leads (sweptTotal criterionId) scores w := by
  have htotals : (fun s => (perturbScore criterionId sensitivityPerturbation s).totalScore) =
      sweptTotal criterionId := by
    funext s
    exact perturbScore_totalScore criterionId s
  rw [← htotals, ← head_rank_map (perturbScore_strategyId criterionId)
    (perturbScore_riskTier criterionId) hnodup hw]
  unfold flips
  cases hrank : rank (scores.map (perturbScore criterionId sensitivityPerturbation)) with
  | nil =>
    rw [rank_eq_nil_iff, List.map_eq_nil_iff] at hrank
    rw [hrank] at hw
    cases hw
  | cons winner others => simp

/-- S01.60 flags a criterion when the first strategy loses its place under the swept totals. -/
theorem flagged_iff {request : OptimizationRequest} {c : Criterion} {others : List String}
    (hc : c ∈ request.criteria) (hnodup : (scores.map (·.strategyId)).Nodup) (hw : w ∈ scores) :
    flagText c.criterionId ∈ sensitivityFlags request scores (w.strategyId :: others) ↔
      ¬ Leads (sweptTotal c.criterionId) scores w := by
  rw [sensitivityFlags_eq, List.mem_map_of_injective flagText_injective, List.mem_filter,
    flips_iff hnodup hw]
  constructor
  · exact And.right
  · intro hnot
    exact ⟨List.mem_map_of_mem hc, hnot⟩

end Sweep

/-- S01.60 flags `c` exactly when a recomputation with `c`'s weight raised changes the first
place, if and only if the strategy that is first now leads by the swept totals exactly when it
leads by the recomputed ones. -/
theorem sweep_recomputes_iff {request : OptimizationRequest} {before after : List Criterion}
    {c : Criterion} {portfolio : SolutionPortfolio} {factors : List (String × NormalizedFactor)}
    {scores : List StrategyScore} (hcriteria : request.criteria = before ++ c :: after)
    (hpos : PositiveWeights request) (hfactors : (factors.map Prod.fst).Nodup)
    (hbenefits : ∀ e ∈ factors, (e.2.benefitByCriterion.map Prod.fst).Nodup)
    (hscores : scoreAll request portfolio factors = .ok scores) :
    (flagText c.criterionId ∈ sensitivityFlags request scores (rank scores) ↔
      ∃ scores', scoreAll (boosted request before c after) portfolio factors = .ok scores' ∧
        (rank scores').head? ≠ (rank scores).head?) ↔
    ∀ w, Leads (·.totalScore) scores w →
      (Leads (sweptTotal c.criterionId) scores w ↔
        Leads (recomputedTotal request c after) scores w) := by
  have hnodup : (scores.map (·.strategyId)).Nodup := by
    rw [scoreAll_ids hscores]
    exact hfactors
  have htotals : ∀ s ∈ scores, (reweigh (shrink request c) (raise c after) s).totalScore =
      recomputedTotal request c after s := by
    intro s hs
    obtain ⟨e, he, hkeys⟩ := scoreAll_keys hscores s hs
    apply reweigh_totalScore
    rw [hkeys]
    exact hbenefits e he
  have hrerun : (∃ scores', scoreAll (boosted request before c after) portfolio factors =
      .ok scores' ∧ (rank scores').head? ≠ (rank scores).head?) ↔
      (rank (scores.map (reweigh (shrink request c) (raise c after)))).head? ≠
        (rank scores).head? := by
    rw [scoreAll_boosted hcriteria hpos hscores]
    simp
  rw [hrerun]
  cases hrank : rank scores with
  | nil =>
    -- Nothing is ranked: no flag, and no first place that could change.
    obtain rfl := rank_eq_nil_iff.mp hrank
    constructor
    · intro _ w hw
      cases hw.mem
    · intro _
      constructor
      · intro hflag
        cases hflag
      · intro hne
        exact absurd rfl hne
  | cons first others =>
    obtain ⟨w, hw, rfl⟩ : ∃ w ∈ scores, w.strategyId = first :=
      mem_rank (by rw [hrank]; exact List.mem_cons_self)
    have hleads : Leads (·.totalScore) scores w := by
      apply (head_rank_iff hnodup hw).mp
      rw [hrank]
      rfl
    have hc : c ∈ request.criteria := by
      rw [hcriteria]
      exact List.mem_append_right _ List.mem_cons_self
    have hchanged : (rank (scores.map (reweigh (shrink request c) (raise c after)))).head? ≠
        some w.strategyId ↔ ¬ Leads (recomputedTotal request c after) scores w := by
      rw [← Leads.congr htotals]
      exact not_congr (head_rank_map (fun _ => rfl) (fun _ => rfl) hnodup hw)
    rw [flagged_iff hc hnodup hw, List.head?_cons, hchanged, not_iff_not]
    constructor
    · intro hiff w' hw'
      have hsame := List.inj_on_of_nodup_map hnodup hw'.mem hw (hw'.unique hleads)
      rw [hsame]
      exact hiff
    · intro hall
      exact hall w hleads

/-! ### A flag the sweep misses

Both strategies improve the latency only. Raising the weight of the cost shrinks the share of the
latency, and the benefit that puts "rewrite" first no longer outweighs its effort and risk; the
sweep finds no score for the cost to add. -/

def tiltedStrategy (strategyId : String) (confidence : ℚ) (effort : Effort)
    (reversibility : Reversibility) (uncertainty : ℚ) : SolutionStrategy where
  strategyId := strategyId
  riskCeiling := .prompt
  criterionImpacts := [⟨"latency", .improves, confidence⟩]
  effort := effort
  reversibility := reversibility
  uncertainty := uncertainty
  rollbackReversible := true
  scopeEntries := []
  fullyResolved := true
  eligible := true

def tiltedPortfolio : SolutionPortfolio :=
  ⟨[tiltedStrategy "rewrite" 1 .medium .slow (7 / 10),
    tiltedStrategy "tune" (1 / 10) .low .instant 0]⟩

def latencyCriterion : Criterion := ⟨"latency", "p95", .minimize, 100, 1⟩
def costCriterion : Criterion := ⟨"cost", "usd", .minimize, 5, 1⟩
def tiltedRequest : OptimizationRequest := weighedRequest [latencyCriterion, costCriterion]

def tiltedFactors : List (String × NormalizedFactor) :=
  normalizedFactors tiltedPortfolio ["rewrite", "tune"]

def tiltedScores : List StrategyScore :=
  [⟨"rewrite", .prompt, [("latency", 1 / 2)], 3 / 5, 2 / 5, 7 / 10, 77 / 200⟩,
    ⟨"tune", .prompt, [("latency", 1 / 20)], 1, 1, 0, 151 / 400⟩]

theorem scoreAll_tilted :
    scoreAll tiltedRequest tiltedPortfolio tiltedFactors = .ok tiltedScores := by
  have h : (scoreAll tiltedRequest tiltedPortfolio tiltedFactors).toOption = some tiltedScores := by
    decide +kernel
  cases hscores : scoreAll tiltedRequest tiltedPortfolio tiltedFactors with
  | error failure =>
    rw [hscores] at h
    cases h
  | ok scores =>
    rw [hscores] at h
    cases h
    rfl

theorem rank_tilted : rank tiltedScores = ["rewrite", "tune"] := by
  decide +kernel

theorem flags_tilted : sensitivityFlags tiltedRequest tiltedScores (rank tiltedScores) = [] := by
  decide +kernel

theorem rerun_tilted : ((scoreAll (boosted tiltedRequest [latencyCriterion] costCriterion [])
    tiltedPortfolio tiltedFactors).toOption.map rank) = some ["tune", "rewrite"] := by
  decide +kernel

theorem missed_flag :
    scoreAll tiltedRequest tiltedPortfolio tiltedFactors = .ok tiltedScores ∧
    ¬ (flagText "cost" ∈ sensitivityFlags tiltedRequest tiltedScores (rank tiltedScores) ↔
      ∃ scores', scoreAll (boosted tiltedRequest [latencyCriterion] costCriterion [])
          tiltedPortfolio tiltedFactors = .ok scores' ∧
        (rank scores').head? ≠ (rank tiltedScores).head?) := by
  refine ⟨scoreAll_tilted, ?_⟩
  intro hiff
  have hflag : flagText "cost" ∈
      sensitivityFlags tiltedRequest tiltedScores (rank tiltedScores) := by
    apply hiff.mpr
    have hrerun := rerun_tilted
    cases hscores : scoreAll (boosted tiltedRequest [latencyCriterion] costCriterion [])
        tiltedPortfolio tiltedFactors with
    | error failure =>
      rw [hscores] at hrerun
      cases hrerun
    | ok scores' =>
      rw [hscores] at hrerun
      refine ⟨scores', rfl, ?_⟩
      have hfirst : rank scores' = ["tune", "rewrite"] := Option.some.inj hrerun
      rw [hfirst, rank_tilted]
      simp
  rw [flags_tilted] at hflag
  cases hflag

theorem positive_tilted : PositiveWeights tiltedRequest := by
  intro criterion hmem
  simp only [tiltedRequest, weighedRequest, List.mem_cons, List.not_mem_nil, or_false] at hmem
  rcases hmem with rfl | rfl
  · norm_num [latencyCriterion]
  · norm_num [costCriterion]

theorem rerun_latency : ((scoreAll (boosted tiltedRequest [] latencyCriterion [costCriterion])
    tiltedPortfolio tiltedFactors).toOption.map rank) = some ["rewrite", "tune"] := by
  decide +kernel

/-- Raising the latency's own weight is swept rightly: "rewrite" stays first by both totals. -/
theorem latency_swept_rightly :
    flagText latencyCriterion.criterionId ∉
        sensitivityFlags tiltedRequest tiltedScores (rank tiltedScores) ∧
      ∀ w, Leads (·.totalScore) tiltedScores w →
        (Leads (sweptTotal latencyCriterion.criterionId) tiltedScores w ↔
          Leads (recomputedTotal tiltedRequest latencyCriterion [costCriterion])
            tiltedScores w) := by
  have hcriteria : tiltedRequest.criteria = [] ++ latencyCriterion :: [costCriterion] := rfl
  have hfactors : (tiltedFactors.map Prod.fst).Nodup := by decide +kernel
  have hbenefits : ∀ e ∈ tiltedFactors, (e.2.benefitByCriterion.map Prod.fst).Nodup := by
    decide +kernel
  have hunflagged : flagText latencyCriterion.criterionId ∉
      sensitivityFlags tiltedRequest tiltedScores (rank tiltedScores) := by
    rw [flags_tilted]
    exact List.not_mem_nil
  refine ⟨hunflagged, ?_⟩
  apply (sweep_recomputes_iff hcriteria positive_tilted hfactors hbenefits scoreAll_tilted).mp
  apply iff_of_false hunflagged
  rintro ⟨scores', hscores, hne⟩
  have hrerun := rerun_latency
  rw [hscores] at hrerun
  have hfirst : rank scores' = ["rewrite", "tune"] := Option.some.inj hrerun
  rw [hfirst, rank_tilted] at hne
  exact absurd rfl hne

end ProductionOptimizer.SensitivitySweep
