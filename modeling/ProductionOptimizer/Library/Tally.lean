import Mathlib.Algebra.BigOperators.Group.List.Basic
import Mathlib.Algebra.Order.BigOperators.Group.List
import Mathlib.Algebra.Order.Field.Basic
import Mathlib.Data.List.Induction
import Mathlib.Data.List.Nodup
import Mathlib.Data.List.Perm.Subperm

/-!
# Counting and grouping in dictionaries

A dictionary keeps the place of a key and overwrites its value. Counting occurrences in one
gives every element its count. Regrouping the counts under a coarser key overwrites instead of
adding, so a group has the share of its last element, and the right one only if it has no other.
-/

namespace Tally
set_option autoImplicit false

section Dict
variable {κ V : Type*} [BEq κ]

def put (d : List (κ × V)) (key : κ) (value : V) : List (κ × V) :=
  if d.any (·.1 == key) then d.map fun e => if e.1 == key then (key, value) else e
  else d ++ [(key, value)]

def ofEntries (entries : List (κ × V)) : List (κ × V) :=
  entries.foldl (fun d e => put d e.1 e.2) []

variable [LawfulBEq κ] {d : List (κ × V)} {key : κ} {value : V}

theorem mem_put {e : κ × V} : e ∈ put d key value ↔ e = (key, value) ∨ (e ∈ d ∧ e.1 ≠ key) := by
  unfold put
  by_cases hany : d.any (·.1 == key) = true
  · rw [if_pos hany, List.mem_map]
    obtain ⟨old, hold, hkey⟩ := List.any_eq_true.mp hany
    constructor
    · rintro ⟨e', he', rfl⟩
      split
      · exact .inl rfl
      · rename_i hne
        exact .inr ⟨he', by simpa using hne⟩
    · rintro (rfl | ⟨he, hne⟩)
      · exact ⟨old, hold, if_pos hkey⟩
      · exact ⟨e, he, if_neg (by simpa using hne)⟩
  · rw [if_neg hany, List.mem_append, List.mem_singleton]
    constructor
    · rintro (he | rfl)
      · refine .inr ⟨he, ?_⟩
        intro hkey
        exact hany (List.any_eq_true.mpr ⟨e, he, by simpa using hkey⟩)
      · exact .inl rfl
    · rintro (rfl | ⟨he, -⟩)
      · exact .inr rfl
      · exact .inl he

theorem keys_put (hd : (d.map Prod.fst).Nodup) : ((put d key value).map Prod.fst).Nodup := by
  unfold put
  split
  · have hkeys : (d.map fun e => if e.1 == key then (key, value) else e).map Prod.fst =
        d.map Prod.fst := by
      rw [List.map_map]
      apply List.map_congr_left
      intro e _
      by_cases hkey : e.1 = key
      · simp [hkey]
      · simp [hkey]
    rw [hkeys]
    exact hd
  · rename_i hany
    rw [List.map_append, List.nodup_append]
    refine ⟨hd, List.nodup_singleton _, ?_⟩
    intro k hk k' hk' heq
    rw [List.map_singleton, List.mem_singleton] at hk'
    obtain ⟨e, he, rfl⟩ := List.mem_map.mp hk
    exact hany (List.any_eq_true.mpr ⟨e, he, by simpa using heq.trans hk'⟩)

theorem lookup_eq_some_iff_mem (hd : (d.map Prod.fst).Nodup) :
    d.lookup key = some value ↔ (key, value) ∈ d := by
  rw [List.lookup_eq_some_iff]
  constructor
  · rintro ⟨before, after, rfl, -⟩
    exact List.mem_append_right _ List.mem_cons_self
  · intro hmem
    obtain ⟨before, after, rfl⟩ := List.append_of_mem hmem
    refine ⟨before, after, rfl, ?_⟩
    intro e he
    rw [List.map_append, List.map_cons, List.nodup_append] at hd
    rw [bne_iff_ne]
    exact (hd.2.2 _ (List.mem_map_of_mem he) _ List.mem_cons_self).symm

theorem lookup_eq_none_of_notMem (h : ∀ value, (key, value) ∉ d) : d.lookup key = none := by
  cases hlookup : d.lookup key with
  | none => rfl
  | some value =>
    obtain ⟨before, after, rfl, -⟩ := List.lookup_eq_some_iff.mp hlookup
    exact absurd (List.mem_append_right _ List.mem_cons_self) (h value)

theorem keys_ofEntries (entries : List (κ × V)) : ((ofEntries entries).map Prod.fst).Nodup := by
  induction entries using List.reverseRecOn with
  | nil => exact List.nodup_nil
  | append_singleton entries e ih =>
    unfold ofEntries
    rw [List.foldl_append]
    exact keys_put ih

/-- What the dictionary holds was put there, and it holds something for every key. -/
theorem mem_of_mem_ofEntries {entries : List (κ × V)} {e : κ × V} (h : e ∈ ofEntries entries) :
    e ∈ entries := by
  induction entries using List.reverseRecOn with
  | nil => cases h
  | append_singleton entries last ih =>
    unfold ofEntries at h
    rw [List.foldl_append] at h
    rcases mem_put.mp h with rfl | ⟨hold, -⟩
    · exact List.mem_append_right _ (List.mem_singleton_self _)
    · exact List.mem_append_left _ (ih hold)

theorem exists_mem_ofEntries {entries : List (κ × V)} {e : κ × V} (h : e ∈ entries) :
    ∃ value, (e.1, value) ∈ ofEntries entries := by
  induction entries using List.reverseRecOn with
  | nil => cases h
  | append_singleton entries last ih =>
    unfold ofEntries
    rw [List.foldl_append]
    by_cases hkey : e.1 = last.1
    · exact ⟨last.2, mem_put.mpr (.inl (by rw [hkey]))⟩
    · rcases List.mem_append.mp h with hold | hlast
      · obtain ⟨value, hmem⟩ := ih hold
        exact ⟨value, mem_put.mpr (.inr ⟨hmem, hkey⟩)⟩
      · rw [List.mem_singleton.mp hlast] at hkey
        exact absurd rfl hkey

end Dict

/-! ### Removing a key -/

section Pop
variable {κ V : Type*} [BEq κ]

def pop (d : List (κ × V)) (key : κ) : List (κ × V) := d.filter fun e => !(e.1 == key)

variable {d : List (κ × V)} {key : κ} {value : V}

theorem keys_pop (hd : (d.map Prod.fst).Nodup) : ((pop d key).map Prod.fst).Nodup :=
  hd.sublist (List.filter_sublist.map _)

variable [LawfulBEq κ]

theorem mem_pop {e : κ × V} : e ∈ pop d key ↔ e ∈ d ∧ e.1 ≠ key := by
  simp [pop]

theorem pop_eq_self (h : d.lookup key = none) : pop d key = d := by
  refine List.filter_eq_self.mpr ?_
  intro e he
  have hne := List.lookup_eq_none_iff.mp h e he
  rw [Bool.not_eq_eq_eq_not, Bool.not_true, beq_eq_false_iff_ne]
  exact fun heq => (bne_iff_ne.mp hne) heq.symm

theorem perm_pop (hd : (d.map Prod.fst).Nodup) (h : d.lookup key = some value) :
    d.Perm ((key, value) :: pop d key) := by
  obtain ⟨before, after, rfl, _⟩ := List.lookup_eq_some_iff.mp h
  have hpop : pop (before ++ (key, value) :: after) key = before ++ after := by
    rw [List.map_append, List.map_cons, List.nodup_append, List.nodup_cons] at hd
    unfold pop
    rw [List.filter_append, List.filter_cons_of_neg (by simp)]
    congr 1
    · refine List.filter_eq_self.mpr ?_
      intro e he
      simpa using hd.2.2 _ (List.mem_map_of_mem he) _ List.mem_cons_self
    · refine List.filter_eq_self.mpr ?_
      intro e he
      have hmem : e.1 ∈ after.map Prod.fst := List.mem_map_of_mem he
      have hne : e.1 ≠ key := by
        intro heq
        rw [heq] at hmem
        exact hd.2.1.1 hmem
      simpa using hne
  rw [hpop]
  exact List.perm_middle

theorem perm_put (hd : (d.map Prod.fst).Nodup) :
    (put d key value).Perm ((key, value) :: pop d key) := by
  rw [List.perm_ext_iff_of_nodup (List.Nodup.of_map _ (keys_put hd)) ?_]
  · intro e
    rw [mem_put, List.mem_cons, mem_pop]
  · rw [List.nodup_cons, mem_pop]
    exact ⟨fun h => h.2 rfl, List.Nodup.of_map _ (keys_pop hd)⟩

end Pop

/-! ### Counts -/

section Counts
variable {κ : Type*} [BEq κ]

def count (d : List (κ × Nat)) (key : κ) : List (κ × Nat) :=
  put d key ((d.lookup key).getD 0 + 1)

def tally (xs : List κ) : List (κ × Nat) := xs.foldl count []

theorem tally_concat (xs : List κ) (x : κ) : tally (xs ++ [x]) = count (tally xs) x := by
  unfold tally
  rw [List.foldl_append]
  rfl

variable [LawfulBEq κ]

theorem keys_tally (xs : List κ) : ((tally xs).map Prod.fst).Nodup := by
  induction xs using List.reverseRecOn with
  | nil => exact List.nodup_nil
  | append_singleton xs x ih =>
    rw [tally_concat]
    exact keys_put ih

theorem mem_tally {xs : List κ} {e : κ × Nat} :
    e ∈ tally xs ↔ e.1 ∈ xs ∧ e.2 = xs.count e.1 := by
  induction xs using List.reverseRecOn generalizing e with
  | nil =>
    constructor
    · intro h
      cases h
    · rintro ⟨h, -⟩
      cases h
  | append_singleton xs x ih =>
    have hcount : ((tally xs).lookup x).getD 0 = xs.count x := by
      by_cases hx : x ∈ xs
      · have hmem : (x, xs.count x) ∈ tally xs := ih.mpr ⟨hx, rfl⟩
        rw [(lookup_eq_some_iff_mem (keys_tally xs)).mpr hmem]
        rfl
      · rw [lookup_eq_none_of_notMem fun n hn => hx (ih.mp hn).1, List.count_eq_zero.mpr hx]
        rfl
    obtain ⟨k, n⟩ := e
    rw [tally_concat, count, hcount, mem_put, ih, List.mem_append, List.mem_singleton,
      List.count_append, Prod.mk.injEq]
    by_cases hk : k = x
    · subst hk
      simp
    · simp [hk, Ne.symm hk]

theorem sum_count {d : List (κ × Nat)} (hd : (d.map Prod.fst).Nodup) (key : κ) :
    ((count d key).map Prod.snd).sum = (d.map Prod.snd).sum + 1 := by
  unfold count put
  by_cases hany : d.any (·.1 == key) = true
  · rw [if_pos hany]
    obtain ⟨⟨key', n⟩, hmem, hkey⟩ := List.any_eq_true.mp hany
    obtain rfl : key' = key := by simpa using hkey
    rw [(lookup_eq_some_iff_mem hd).mpr hmem]
    obtain ⟨before, after, rfl⟩ := List.append_of_mem hmem
    rw [List.map_append, List.map_cons, List.nodup_append] at hd
    have hbefore : before.map (fun e => if e.1 == key' then (key', n + 1) else e) = before := by
      apply (List.map_congr_left _).trans (List.map_id before)
      intro e he
      apply if_neg
      have hne := hd.2.2 _ (List.mem_map_of_mem he) _ List.mem_cons_self
      simpa using hne
    have hafter : after.map (fun e => if e.1 == key' then (key', n + 1) else e) = after := by
      apply (List.map_congr_left _).trans (List.map_id after)
      intro e he
      apply if_neg
      have hne : e.1 ≠ key' := by
        rintro rfl
        exact (List.nodup_cons.mp hd.2.1).1 (List.mem_map.mpr ⟨e, he, rfl⟩)
      simpa using hne
    simp only [Option.getD_some, List.map_append, List.map_cons, List.sum_append, List.sum_cons]
    rw [hbefore, hafter, if_pos (beq_self_eq_true key')]
    omega
  · rw [if_neg hany, lookup_eq_none_of_notMem]
    · simp
    · intro n hn
      exact hany (List.any_eq_true.mpr ⟨(key, n), hn, by simp⟩)

theorem sum_tally (xs : List κ) : ((tally xs).map Prod.snd).sum = xs.length := by
  induction xs using List.reverseRecOn with
  | nil => rfl
  | append_singleton xs x ih =>
    rw [tally_concat, sum_count (keys_tally xs), ih, List.length_append]
    rfl

end Counts

/-! ### Shares of groups -/

section Entries
variable {κ ι : Type*} (K : Type*) [BEq κ] [Field K] (f : κ → Option ι) (xs : List κ) (total : Nat)

/-- The counts as shares of `total`, with the groups of their elements. -/
def shareEntries : List (ι × K) :=
  (tally xs).filterMap fun e => (f e.1).map fun i => (i, (e.2 : K) / total)

variable {K f xs total}

theorem mem_shareEntries [LawfulBEq κ] {i : ι} {q : K} : (i, q) ∈ shareEntries K f xs total ↔
    ∃ x ∈ xs, f x = some i ∧ q = (xs.count x : K) / total := by
  unfold shareEntries
  rw [List.mem_filterMap]
  constructor
  · rintro ⟨e, he, hmap⟩
    obtain ⟨hx, hcount⟩ := mem_tally.mp he
    obtain ⟨j, hj, heq⟩ := Option.map_eq_some_iff.mp hmap
    cases heq
    refine ⟨e.1, hx, hj, ?_⟩
    rw [hcount]
  · rintro ⟨x, hx, hi, rfl⟩
    refine ⟨(x, xs.count x), mem_tally.mpr ⟨hx, rfl⟩, ?_⟩
    rw [hi]
    rfl

end Entries

section Sum
variable {κ ι K : Type*} [Field K] {f : κ → Option ι} {total : Nat}

theorem sum_filterMap_le [LinearOrder K] [IsStrictOrderedRing K] (counts : List (κ × Nat)) :
    ((counts.filterMap fun e => (f e.1).map fun i => (i, (e.2 : K) / total)).map Prod.snd).sum ≤
      ((counts.map Prod.snd).sum : K) / total := by
  induction counts with
  | nil => simp
  | cons e counts ih =>
    have hnonneg : (0 : K) ≤ (e.2 : K) / total := div_nonneg e.2.cast_nonneg total.cast_nonneg
    rw [List.map_cons, List.sum_cons, Nat.cast_add, add_div, List.filterMap_cons]
    cases f e.1 with
    | none => exact ih.trans (le_add_of_nonneg_left hnonneg)
    | some i => exact add_le_add_right ih _

end Sum

section Shares
variable {κ ι : Type*} (K : Type*) [BEq κ] [BEq ι] [Field K] (f : κ → Option ι) (xs : List κ)
  (total : Nat)

def shares : List (ι × K) := ofEntries (shareEntries K f xs total)

/-- How many elements there are of a group. -/
def groupSize (i : ι) : Nat := xs.countP fun x => f x == some i

variable {K f xs total} [LawfulBEq κ] [LawfulBEq ι]

/-- A group that occurs has the share of one of its elements. -/
theorem exists_share {x : κ} {i : ι} (hx : x ∈ xs) (hi : f x = some i) :
    ∃ y ∈ xs, f y = some i ∧ (shares K f xs total).lookup i = some ((xs.count y : K) / total) := by
  have hentry : (i, (xs.count x : K) / total) ∈ shareEntries K f xs total :=
    mem_shareEntries.mpr ⟨x, hx, hi, rfl⟩
  obtain ⟨q, hq⟩ := exists_mem_ofEntries hentry
  obtain ⟨y, hy, hyi, rfl⟩ := mem_shareEntries.mp (mem_of_mem_ofEntries hq)
  exact ⟨y, hy, hyi, (lookup_eq_some_iff_mem (keys_ofEntries _)).mpr hq⟩

theorem lookup_shares_eq_none {i : ι} (h : ∀ x ∈ xs, f x ≠ some i) :
    (shares K f xs total).lookup i = none := by
  apply lookup_eq_none_of_notMem
  intro q hq
  obtain ⟨x, hx, hi, -⟩ := mem_shareEntries.mp (mem_of_mem_ofEntries hq)
  exact h x hx hi

theorem count_lt_groupSize {x y : κ} {i : ι} (hx : f x = some i) (hy : y ∈ xs)
    (hyi : f y = some i) (hne : y ≠ x) : xs.count x < groupSize f xs i := by
  unfold groupSize
  rw [List.countP_eq_countP_filter_add xs _ (· == x)]
  have hsame : (xs.filter (· == x)).countP (fun z => f z == some i) = xs.count x := by
    rw [List.countP_filter, List.count]
    apply List.countP_congr
    intro z _
    rw [Bool.and_eq_true]
    constructor
    · exact And.right
    · intro hz
      refine ⟨?_, hz⟩
      rw [beq_iff_eq.mp hz, hx]
      exact beq_self_eq_true _
  have hother : 0 < (xs.filter fun z => !(z == x)).countP (fun z => f z == some i) := by
    apply List.countP_pos_iff.mpr
    refine ⟨y, List.mem_filter.mpr ⟨hy, by simpa using hne⟩, ?_⟩
    rw [hyi]
    exact beq_self_eq_true _
  rw [hsame]
  omega

variable [LinearOrder K] [IsStrictOrderedRing K]

/-- All shares count their groups exactly if no group has two different elements. -/
theorem shares_count_iff (htotal : 0 < total) :
    (∀ i, ((shares K f xs total).lookup i).getD 0 = (groupSize f xs i : K) / total) ↔
      ∀ x ∈ xs, ∀ y ∈ xs, f x = f y → f x ≠ none → x = y := by
  have hpos : (0 : K) < total := Nat.cast_pos.mpr htotal
  constructor
  · intro hshares x hx y hy hsame hsome
    obtain ⟨i, hi⟩ := Option.ne_none_iff_exists'.mp hsome
    by_contra hne
    obtain ⟨z, hz, hzi, hlookup⟩ : ∃ z ∈ xs, f z = some i ∧
        (shares K f xs total).lookup i = some ((xs.count z : K) / total) := exists_share hx hi
    have hshare := hshares i
    rw [hlookup, Option.getD_some, div_left_inj' hpos.ne', Nat.cast_inj] at hshare
    by_cases hzx : z = x
    · subst hzx
      have hlt := count_lt_groupSize hi hy (hsame.symm.trans hi) (Ne.symm hne)
      omega
    · have hlt := count_lt_groupSize hzi hx hi (Ne.symm hzx)
      omega
  · intro hsingle i
    by_cases hoccurs : ∃ x ∈ xs, f x = some i
    · obtain ⟨x, hx, hi⟩ := hoccurs
      obtain ⟨y, hy, hyi, hlookup⟩ : ∃ y ∈ xs, f y = some i ∧
          (shares K f xs total).lookup i = some ((xs.count y : K) / total) := exists_share hx hi
      have hsize : groupSize f xs i = xs.count y := by
        unfold groupSize List.count
        apply List.countP_congr
        intro z hz
        rw [beq_iff_eq, beq_iff_eq]
        constructor
        · intro hzi
          exact hsingle z hz y hy (hzi.trans hyi.symm) (by rw [hzi]; exact Option.some_ne_none i)
        · rintro rfl
          exact hyi
      rw [hlookup, hsize]
      rfl
    · have hnone : ∀ x ∈ xs, f x ≠ some i := by
        intro x hx hi
        exact hoccurs ⟨x, hx, hi⟩
      have hsize : groupSize f xs i = 0 := by
        apply List.countP_eq_zero.mpr
        intro x hx
        simpa using hnone x hx
      rw [lookup_shares_eq_none hnone, hsize]
      simp

/-- Overwriting keeps the shares together below one. -/
theorem sum_shares_le (htotal : 0 < total) (hlength : xs.length ≤ total) :
    ((shares K f xs total).map Prod.snd).sum ≤ 1 := by
  have hpos : (0 : K) < total := Nat.cast_pos.mpr htotal
  have hnodup : (shares K f xs total).Nodup := (keys_ofEntries _).of_map
  obtain ⟨kept, hperm, hsublist⟩ :=
    List.subperm_of_subset hnodup fun e he => mem_of_mem_ofEntries he
  have hnonneg : ∀ q ∈ (shareEntries K f xs total).map Prod.snd, 0 ≤ q := by
    intro q hq
    obtain ⟨⟨i, q⟩, he, rfl⟩ := List.mem_map.mp hq
    obtain ⟨x, -, -, rfl⟩ := mem_shareEntries.mp he
    exact div_nonneg (Nat.cast_nonneg _) total.cast_nonneg
  calc ((shares K f xs total).map Prod.snd).sum
      = (kept.map Prod.snd).sum := ((hperm.map Prod.snd).sum_eq).symm
    _ ≤ ((shareEntries K f xs total).map Prod.snd).sum :=
      (hsublist.map Prod.snd).sum_le_sum hnonneg
    _ ≤ (((tally xs).map Prod.snd).sum : K) / total := sum_filterMap_le (tally xs)
    _ ≤ 1 := by
      rw [sum_tally, div_le_one hpos]
      exact Nat.cast_le.mpr hlength

end Shares

end Tally
