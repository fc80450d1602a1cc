import Mathlib.Algebra.BigOperators.Ring.List
import Mathlib.Algebra.Order.BigOperators.Group.List
import Mathlib.Algebra.Order.Field.Basic
import Mathlib.Data.List.Sort
import Mathlib.Tactic.Linarith

/-!
# Grouped samples and their order statistics

Samples are grouped by a key into a dictionary of lists, in the order they come. A group is
summarized by its least and greatest value, its mean, and its nearest-rank percentiles.
-/

namespace Samples
set_option autoImplicit false

section Groups
variable {K V : Type*} [DecidableEq K]

/-- `groups.setdefault(k, []).append(v)`. -/
def setdefaultAppend : List (K × List V) → K → V → List (K × List V)
  | [], k, v => [(k, [v])]
  | (k', vs) :: rest, k, v =>
    if k' = k then (k', vs ++ [v]) :: rest else (k', vs) :: setdefaultAppend rest k v

/-- One step of the grouping loop; a sample without a key is skipped. -/
def groupStep (key : V → Option K) (groups : List (K × List V)) (v : V) : List (K × List V) :=
  match key v with
  | some k => setdefaultAppend groups k v
  | none => groups

def grouped (key : V → Option K) (vs : List V) : List (K × List V) :=
  vs.foldl (groupStep key) []

/-- Every key with its samples, and no key without one. -/
structure Groups (key : V → Option K) (vs : List V) (groups : List (K × List V)) : Prop where
  nodup : (groups.map Prod.fst).Nodup
  mem : ∀ k group, (k, group) ∈ groups ↔
    group = vs.filter (fun v => key v = some k) ∧ group ≠ []

theorem mem_fst_setdefaultAppend {groups : List (K × List V)} {k k' : K} {v : V} :
    k' ∈ (setdefaultAppend groups k v).map Prod.fst ↔ k' ∈ groups.map Prod.fst ∨ k' = k := by
  induction groups with
  | nil => simp [setdefaultAppend]
  | cons entry rest ih =>
    obtain ⟨k₀, vs⟩ := entry
    by_cases hk : k₀ = k
    · subst hk
      simp only [setdefaultAppend, if_pos, List.map_cons, List.mem_cons]
      tauto
    · simp only [setdefaultAppend, if_neg hk, List.map_cons, List.mem_cons, ih]
      tauto

theorem nodup_setdefaultAppend {groups : List (K × List V)} {k : K} {v : V}
    (h : (groups.map Prod.fst).Nodup) : ((setdefaultAppend groups k v).map Prod.fst).Nodup := by
  induction groups with
  | nil => simp [setdefaultAppend]
  | cons entry rest ih =>
    obtain ⟨k₀, vs⟩ := entry
    rw [List.map_cons, List.nodup_cons] at h
    by_cases hk : k₀ = k
    · simpa [setdefaultAppend, hk] using h
    · simp only [setdefaultAppend, if_neg hk, List.map_cons, List.nodup_cons]
      refine ⟨?_, ih h.2⟩
      rw [mem_fst_setdefaultAppend]
      rintro (hmem | heq)
      · exact h.1 hmem
      · exact hk heq

theorem mem_setdefaultAppend_of_ne {groups : List (K × List V)} {k k' : K} {v : V}
    {group : List V} (hne : k' ≠ k) :
    (k', group) ∈ setdefaultAppend groups k v ↔ (k', group) ∈ groups := by
  induction groups with
  | nil => simp [setdefaultAppend, hne]
  | cons entry rest ih =>
    obtain ⟨k₀, vs⟩ := entry
    by_cases hk : k₀ = k
    · subst hk
      simp [setdefaultAppend, hne]
    · simp [setdefaultAppend, hk, ih]

theorem mem_setdefaultAppend_self {groups : List (K × List V)} {k : K} {v : V} {group : List V}
    (h : (groups.map Prod.fst).Nodup) :
    (k, group) ∈ setdefaultAppend groups k v ↔
      (∃ old, (k, old) ∈ groups ∧ group = old ++ [v]) ∨
        k ∉ groups.map Prod.fst ∧ group = [v] := by
  induction groups with
  | nil => simp [setdefaultAppend]
  | cons entry rest ih =>
    obtain ⟨k₀, vs⟩ := entry
    rw [List.map_cons, List.nodup_cons] at h
    by_cases hk : k₀ = k
    · subst hk
      have hrest : ∀ old, (k₀, old) ∉ rest := by
        intro old hmem
        exact h.1 (List.mem_map.mpr ⟨(k₀, old), hmem, rfl⟩)
      simp [setdefaultAppend, hrest]
    · have hk' : k ≠ k₀ := fun heq => hk heq.symm
      simp [setdefaultAppend, hk, hk', ih h.2]

theorem Groups.step {key : V → Option K} {vs : List V} {groups : List (K × List V)} (v : V)
    (h : Groups key vs groups) : Groups key (vs ++ [v]) (groupStep key groups v) := by
  unfold groupStep
  cases hkey : key v with
  | none =>
    refine ⟨h.nodup, fun k group => ?_⟩
    rw [h.mem, List.filter_append]
    simp [hkey]
  | some k₀ =>
    refine ⟨nodup_setdefaultAppend h.nodup, fun k group => ?_⟩
    by_cases hk : k = k₀
    · subst hk
      rw [mem_setdefaultAppend_self h.nodup, List.filter_append]
      simp only [h.mem, hkey, decide_true, List.filter_cons_of_pos, List.filter_nil]
      constructor
      · rintro (⟨old, ⟨hold, -⟩, rfl⟩ | ⟨habsent, rfl⟩)
        · exact ⟨by rw [hold], by simp⟩
        · -- a key that is absent has no earlier sample
          have hnil : vs.filter (fun v => key v = some k) = [] := by
            by_contra hne
            exact habsent (List.mem_map_of_mem ((h.mem k _).mpr ⟨rfl, hne⟩))
          exact ⟨by rw [hnil]; rfl, by simp⟩
      · rintro ⟨rfl, -⟩
        by_cases hnil : vs.filter (fun v => key v = some k) = []
        · refine .inr ⟨?_, by rw [hnil]; rfl⟩
          intro hmem
          obtain ⟨⟨k', old⟩, hold, rfl⟩ := List.mem_map.mp hmem
          obtain ⟨rfl, hne⟩ := (h.mem _ _).mp hold
          exact hne hnil
        · exact .inl ⟨_, ⟨rfl, hnil⟩, rfl⟩
    · have hfresh : ¬ some k₀ = some k := fun heq => hk (Option.some.inj heq).symm
      rw [mem_setdefaultAppend_of_ne hk, h.mem, List.filter_append]
      simp [hkey, hfresh]

theorem groups_foldl {key : V → Option K} :
    ∀ {before : List V} {groups : List (K × List V)} (vs : List V), Groups key before groups →
      Groups key (before ++ vs) (vs.foldl (groupStep key) groups)
  | _, _, [], h => by simpa using h
  | _, _, v :: vs, h => by
    have hrest := groups_foldl vs (h.step v)
    simpa using hrest

theorem groups_grouped (key : V → Option K) (vs : List V) : Groups key vs (grouped key vs) := by
  have hnil : Groups key [] ([] : List (K × List V)) := ⟨by simp, by simp⟩
  have hall := groups_foldl vs hnil
  rwa [List.nil_append] at hall

end Groups

section Rank

/-- `max(0, ceil(n * percent / 100) - 1)`. -/
def nearestRank (percent n : Nat) : Nat := (percent * n + 99) / 100 - 1

theorem nearestRank_lt {percent n : Nat} (hpercent : percent ≤ 100) (hn : 0 < n) :
    nearestRank percent n < n := by
  have hle : percent * n ≤ 100 * n := Nat.mul_le_mul_right n hpercent
  unfold nearestRank
  omega

theorem nearestRank_mono {percent percent' : Nat} (n : Nat) (h : percent ≤ percent') :
    nearestRank percent n ≤ nearestRank percent' n := by
  have hle : percent * n ≤ percent' * n := Nat.mul_le_mul_right n h
  unfold nearestRank
  omega

variable {α : Type*} [LinearOrder α]

/-- A value of the list that at least `percent` of a hundred reach, and that fewer than
`percent` of a hundred stay below. -/
structure IsPercentile (percent : Nat) (values : List α) (value : α) : Prop where
  mem : value ∈ values
  reached : percent * values.length ≤ 100 * values.countP (fun v => v ≤ value)
  below : 100 * values.countP (fun v => v < value) < percent * values.length

theorem IsPercentile.perm {percent : Nat} {values values' : List α} {value : α}
    (h : IsPercentile percent values value) (hperm : values.Perm values') :
    IsPercentile percent values' value := by
  refine ⟨hperm.mem_iff.mp h.mem, ?_, ?_⟩
  · rw [← hperm.length_eq, ← hperm.countP_eq]
    exact h.reached
  · rw [← hperm.length_eq, ← hperm.countP_eq]
    exact h.below

theorem getElem_le_getElem {values : List α} (hsorted : values.Pairwise (· ≤ ·)) {i j : Nat}
    (hij : i ≤ j) (hj : j < values.length) : values[i] ≤ values[j] := by
  rcases Nat.lt_or_eq_of_le hij with hlt | rfl
  · exact List.pairwise_iff_getElem.mp hsorted i j _ hj hlt
  · exact le_rfl

theorem lt_countP_le {values : List α} (hsorted : values.Pairwise (· ≤ ·)) {i : Nat}
    (hi : i < values.length) : i + 1 ≤ values.countP (fun v => v ≤ values[i]) := by
  have hall : (values.take (i + 1)).countP (fun v => v ≤ values[i]) = i + 1 := by
    rw [List.countP_eq_length.mpr, List.length_take, Nat.min_eq_left hi]
    intro v hv
    obtain ⟨j, hj, rfl⟩ := List.mem_take_iff_getElem.mp hv
    exact decide_eq_true (getElem_le_getElem hsorted (by omega) hi)
  have hsub : (values.take (i + 1)).countP (fun v => v ≤ values[i]) ≤
      values.countP (fun v => v ≤ values[i]) := (List.take_sublist (i + 1) values).countP_le
  omega

theorem countP_lt_le {values : List α} (hsorted : values.Pairwise (· ≤ ·)) {i : Nat}
    (hi : i < values.length) : values.countP (fun v => v < values[i]) ≤ i := by
  have hnone : (values.drop i).countP (fun v => v < values[i]) = 0 := by
    rw [List.countP_eq_zero]
    intro v hv
    obtain ⟨j, hj, rfl⟩ := List.mem_drop_iff_getElem.mp hv
    have hle := getElem_le_getElem hsorted (Nat.le_add_left i j) hj
    simpa [Nat.add_comm] using hle
  calc values.countP (fun v => v < values[i])
      = (values.take i ++ values.drop i).countP (fun v => v < values[i]) := by
        rw [List.take_append_drop]
    _ = (values.take i).countP (fun v => v < values[i]) := by
        rw [List.countP_append, hnone, Nat.add_zero]
    _ ≤ (values.take i).length := List.countP_le_length
    _ ≤ i := List.length_take_le i values

theorem isPercentile_getElem {values : List α} (hsorted : values.Pairwise (· ≤ ·)) {percent : Nat}
    (hpos : 0 < percent) (hi : nearestRank percent values.length < values.length) :
    IsPercentile percent values values[nearestRank percent values.length] := by
  have hn : 0 < percent * values.length := Nat.mul_pos hpos (by omega)
  have hreached := lt_countP_le hsorted hi
  have hbelow := countP_lt_le hsorted hi
  refine ⟨List.getElem_mem hi, ?_, ?_⟩
  · calc percent * values.length
        ≤ 100 * (nearestRank percent values.length + 1) := by unfold nearestRank; omega
      _ ≤ _ := Nat.mul_le_mul_left 100 hreached
  · calc _ ≤ 100 * nearestRank percent values.length := Nat.mul_le_mul_left 100 hbelow
      _ < percent * values.length := by unfold nearestRank; omega

end Rank

section Mean
variable {α : Type*} [Field α] [LinearOrder α] [IsStrictOrderedRing α]

theorem le_mean {values : List α} {lower : α} (hne : values ≠ [])
    (h : ∀ v ∈ values, lower ≤ v) : lower ≤ values.sum / values.length := by
  have hpos : (0 : α) < values.length := by exact_mod_cast List.length_pos_iff.mpr hne
  rw [le_div_iff₀ hpos, mul_comm, ← nsmul_eq_mul]
  exact List.card_nsmul_le_sum values lower h

theorem mean_le {values : List α} {upper : α} (hne : values ≠ [])
    (h : ∀ v ∈ values, v ≤ upper) : values.sum / values.length ≤ upper := by
  have hpos : (0 : α) < values.length := by exact_mod_cast List.length_pos_iff.mpr hne
  rw [div_le_iff₀ hpos, mul_comm, ← nsmul_eq_mul]
  exact List.sum_le_card_nsmul values upper h

end Mean

section Scale
variable {α : Type*} [Field α]

theorem mean_map_mul (values : List α) (factor : α) :
    (values.map (· * factor)).sum / (values.length : α) =
      values.sum / values.length * factor := by
  rw [List.sum_map_mul_right, List.map_id', mul_div_right_comm]

variable [LinearOrder α] [IsStrictOrderedRing α]

/-- A positive factor keeps the order of the values. -/
theorem insertionSort_map_mul {factor : α} (hfactor : 0 < factor) (values : List α) :
    (values.map (· * factor)).insertionSort (· ≤ ·) =
      (values.insertionSort (· ≤ ·)).map (· * factor) := by
  refine (List.map_insertionSort _ _ _ _ fun a _ b _ => ?_).symm
  exact (mul_le_mul_iff_of_pos_right hfactor).symm

end Scale

end Samples
