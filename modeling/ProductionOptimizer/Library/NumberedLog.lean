import Mathlib.Data.List.AList
import Mathlib.Data.List.Destutter
import Mathlib.Order.Interval.Finset.Nat

/-!
# Logs with numbered slots

A log is a finite map in which a name that is recorded again under a different
value claims the next free numbered slot. Slot `0` of a name is its plain entry;
readers walk the numbered slots from `1` until one is free.
-/

namespace NumberedLog
set_option autoImplicit false

universe u v w
variable {K : Type u} {N : Type v} {R : Type w} [DecidableEq K]

abbrev Log (K : Type u) (R : Type w) := AList fun _ : K => R

section Walk
variable (slot : N → Nat → K) (log : Log K R) (n : N)

/-- The first number from `i` on whose slot is free, looking at `fuel` slots at most. -/
def firstFree : Nat → Nat → Nat
  | 0, i => i
  | fuel + 1, i => if slot n i ∈ log then firstFree fuel (i + 1) else i

/-- The walk over the numbered slots. A log holds at most `log.keys.length` of them. -/
def nextFree : Nat := firstFree slot log n log.keys.length 1

def latestKey : Option K :=
  if slot n 0 ∈ log then some (slot n (nextFree slot log n - 1)) else none

/-- An unchanged value keeps its slot; a new value claims the next free one. -/
def nextKey [DecidableEq R] (r : R) : K :=
  match latestKey slot log n with
  | none => slot n 0
  | some key => if log.lookup key = some r then key else slot n (nextFree slot log n)

def latest (default : R) : R :=
  match latestKey slot log n with
  | none => default
  | some key => (log.lookup key).getD default

end Walk

/-- Merge entries into a log; two different values under one key are a conflict. -/
def merge [DecidableEq R] (log : Log K R) : List (K × R) → Option (Log K R)
  | [] => some log
  | (key, r) :: rest =>
    match log.lookup key with
    | some existing => if existing = r then merge (log.insert key r) rest else none
    | none => merge (log.insert key r) rest

theorem merge_of_lookup [DecidableEq R] {entries : List (K × R)} {log : Log K R}
    (h : ∀ e ∈ entries, log.lookup e.1 = some e.2) :
    ∃ log', merge log entries = some log' ∧ ∀ key, log'.lookup key = log.lookup key := by
  induction entries generalizing log with
  | nil => exact ⟨log, rfl, fun _ => rfl⟩
  | cons e rest ih =>
    obtain ⟨key, r⟩ := e
    have hhead : log.lookup key = some r := h (key, r) List.mem_cons_self
    have hsame : ∀ key', (log.insert key r).lookup key' = log.lookup key' := by
      intro key'
      by_cases hkey : key' = key
      · subst hkey
        rw [AList.lookup_insert, hhead]
      · exact AList.lookup_insert_ne hkey
    obtain ⟨log', hmerge, hlookup⟩ := ih fun (e : K × R) he => by
      rw [hsame]
      exact h e (List.mem_cons_of_mem _ he)
    refine ⟨log', ?_, fun key' => (hlookup key').trans (hsame key')⟩
    simp only [merge, hhead, if_true]
    exact hmerge

def record [DecidableEq R] (slot : N → Nat → K) (log : Log K R) (n : N) (r : R) :
    Option (Log K R) :=
  merge log [(nextKey slot log n r, r)]

section Walk
variable {slot : N → Nat → K} {log : Log K R} {n : N}

theorem firstFree_ge (fuel i : Nat) : i ≤ firstFree slot log n fuel i := by
  induction fuel generalizing i with
  | zero => exact Nat.le_refl i
  | succ fuel ih =>
    unfold firstFree
    split
    · exact Nat.le_of_succ_le (ih (i + 1))
    · exact Nat.le_refl i

theorem mem_of_lt_firstFree (fuel i : Nat) {j : Nat} (hij : i ≤ j)
    (hj : j < firstFree slot log n fuel i) : slot n j ∈ log := by
  induction fuel generalizing i with
  | zero => exact absurd hj (Nat.not_lt.mpr hij)
  | succ fuel ih =>
    unfold firstFree at hj
    split at hj
    · rename_i hmem
      rcases Nat.eq_or_lt_of_le hij with rfl | hlt
      · exact hmem
      · exact ih (i + 1) hlt hj
    · exact absurd hj (Nat.not_lt.mpr hij)

theorem firstFree_of_mem (fuel i : Nat)
    (hmem : slot n (firstFree slot log n fuel i) ∈ log) :
    firstFree slot log n fuel i = i + fuel := by
  induction fuel generalizing i with
  | zero => rfl
  | succ fuel ih =>
    unfold firstFree at hmem ⊢
    split at hmem
    · rename_i hi
      rw [if_pos hi, ih (i + 1) hmem]
      omega
    · rename_i hi
      exact absurd hmem hi

theorem nextFree_pos : 1 ≤ nextFree slot log n := firstFree_ge _ _

theorem mem_of_lt_nextFree {j : Nat} (h1 : 1 ≤ j) (hj : j < nextFree slot log n) :
    slot n j ∈ log :=
  mem_of_lt_firstFree _ _ h1 hj

/-- The fuel always suffices: by counting keys, the walk cannot fill every step. -/
theorem nextFree_notMem (hslot : Function.Injective (slot n)) :
    slot n (nextFree slot log n) ∉ log := by
  intro hmem
  have hend : nextFree slot log n = 1 + log.keys.length := firstFree_of_mem _ _ hmem
  have hsub : (Finset.Icc 1 (1 + log.keys.length)).image (slot n) ⊆ log.keys.toFinset := by
    intro key hkey
    obtain ⟨j, hj, rfl⟩ := Finset.mem_image.mp hkey
    obtain ⟨h1, hle⟩ := Finset.mem_Icc.mp hj
    apply List.mem_toFinset.mpr
    apply AList.mem_keys.mp
    rcases Nat.eq_or_lt_of_le hle with rfl | hlt
    · exact hend ▸ hmem
    · exact mem_of_lt_nextFree h1 (hend ▸ hlt)
  have hcard := Finset.card_le_card hsub
  rw [Finset.card_image_of_injective _ hslot, Nat.card_Icc] at hcard
  have hkeys := List.toFinset_card_le log.keys
  omega

theorem nextFree_eq (hslot : Function.Injective (slot n)) {k : Nat} (h1 : 1 ≤ k)
    (hbelow : ∀ j, 1 ≤ j → j < k → slot n j ∈ log) (hfree : slot n k ∉ log) :
    nextFree slot log n = k := by
  rcases Nat.lt_trichotomy (nextFree slot log n) k with hlt | heq | hgt
  · exact absurd (hbelow _ nextFree_pos hlt) (nextFree_notMem hslot)
  · exact heq
  · exact absurd (mem_of_lt_nextFree h1 hgt) hfree

theorem nextFree_congr {log' : Log K R} (hslot : Function.Injective (slot n))
    (h : ∀ j, 1 ≤ j → (slot n j ∈ log' ↔ slot n j ∈ log)) :
    nextFree slot log' n = nextFree slot log n := by
  apply nextFree_eq hslot nextFree_pos
  · intro j h1 hj
    exact (h j h1).mpr (mem_of_lt_nextFree h1 hj)
  · intro hmem
    exact nextFree_notMem hslot ((h _ nextFree_pos).mp hmem)

theorem nextFree_eq_one_iff (hslot : Function.Injective (slot n)) :
    nextFree slot log n = 1 ↔ slot n 1 ∉ log := by
  constructor
  · intro h hmem
    exact nextFree_notMem hslot (h.symm ▸ hmem)
  · intro h
    exact nextFree_eq hslot (Nat.le_refl 1) (by omega) h

theorem latest_congr {log' : Log K R} (hslot : Function.Injective (slot n))
    (h : ∀ j, log'.lookup (slot n j) = log.lookup (slot n j)) (d : R) :
    latest slot log' n d = latest slot log n d := by
  have hmem : ∀ j, slot n j ∈ log' ↔ slot n j ∈ log := by
    intro j
    rw [← AList.lookup_isSome, ← AList.lookup_isSome, h j]
  have hfree := nextFree_congr hslot fun j _ => hmem j
  have hkey : latestKey slot log' n = latestKey slot log n := by
    unfold latestKey
    simp only [hmem, hfree]
  unfold latest
  rw [hkey]
  cases hl : latestKey slot log n with
  | none => rfl
  | some key =>
    have hform : ∃ j, key = slot n j := by
      unfold latestKey at hl
      split at hl
      · exact ⟨_, (Option.some.inj hl).symm⟩
      · cases hl
    obtain ⟨j, rfl⟩ := hform
    simp only [h j]

end Walk

/-- The slots of `n` are filled from the bottom: no gap below a used one, and the
plain slot is used whenever a numbered one is. -/
def FilledAt (slot : N → Nat → K) (log : Log K R) (n : N) : Prop :=
  ∀ j, slot n (j + 1) ∈ log → slot n j ∈ log

omit [DecidableEq K] in
theorem filledAt_of_notMem {slot : N → Nat → K} {log : Log K R} {n : N}
    (h : ∀ j, slot n j ∉ log) : FilledAt slot log n := by
  intro j hj
  exact absurd hj (h (j + 1))

section Record
variable {slot : N → Nat → K} {log : Log K R} {n : N} {r : R}

theorem latestKey_of_mem (h : slot n 0 ∈ log) :
    latestKey slot log n = some (slot n (nextFree slot log n - 1)) := if_pos h

theorem latestKey_of_notMem (h : slot n 0 ∉ log) : latestKey slot log n = none := if_neg h

theorem latest_eq {d : R} (h : slot n 0 ∈ log) :
    latest slot log n d = (log.lookup (slot n (nextFree slot log n - 1))).getD d := by
  unfold latest
  rw [latestKey_of_mem h]

theorem mem_of_lookup {key : K} (h : log.lookup key = some r) : key ∈ log := by
  rw [← AList.lookup_isSome, h]
  rfl

variable [DecidableEq R]

theorem nextKey_of_notMem (h : slot n 0 ∉ log) : nextKey slot log n r = slot n 0 := by
  unfold nextKey
  rw [latestKey_of_notMem h]

theorem nextKey_of_same (h : slot n 0 ∈ log)
    (hr : log.lookup (slot n (nextFree slot log n - 1)) = some r) :
    nextKey slot log n r = slot n (nextFree slot log n - 1) := by
  unfold nextKey
  rw [latestKey_of_mem h]
  exact if_pos hr

theorem nextKey_of_new (h : slot n 0 ∈ log)
    (hr : log.lookup (slot n (nextFree slot log n - 1)) ≠ some r) :
    nextKey slot log n r = slot n (nextFree slot log n) := by
  unfold nextKey
  rw [latestKey_of_mem h]
  exact if_neg hr

/-- A record goes to the plain slot, to the slot that holds its value, or to the first
free one. -/
theorem nextKey_cases (log : Log K R) (n : N) (r : R) :
    (slot n 0 ∉ log ∧ nextKey slot log n r = slot n 0) ∨
    (slot n 0 ∈ log ∧ log.lookup (slot n (nextFree slot log n - 1)) = some r ∧
      nextKey slot log n r = slot n (nextFree slot log n - 1)) ∨
    (slot n 0 ∈ log ∧ nextKey slot log n r = slot n (nextFree slot log n)) := by
  by_cases h0 : slot n 0 ∈ log
  · by_cases hr : log.lookup (slot n (nextFree slot log n - 1)) = some r
    · exact Or.inr (Or.inl ⟨h0, hr, nextKey_of_same h0 hr⟩)
    · exact Or.inr (Or.inr ⟨h0, nextKey_of_new h0 hr⟩)
  · exact Or.inl ⟨h0, nextKey_of_notMem h0⟩

theorem lookup_nextKey (log : Log K R) (r : R) (hslot : Function.Injective (slot n)) :
    log.lookup (nextKey slot log n r) = none ∨ log.lookup (nextKey slot log n r) = some r := by
  rcases nextKey_cases log n r with ⟨h0, hkey⟩ | ⟨_, hr, hkey⟩ | ⟨_, hkey⟩
  · rw [hkey]
    exact Or.inl (AList.lookup_eq_none.mpr h0)
  · rw [hkey]
    exact Or.inr hr
  · rw [hkey]
    exact Or.inl (AList.lookup_eq_none.mpr (nextFree_notMem hslot))

theorem record_eq_some (hslot : Function.Injective (slot n)) :
    record slot log n r = some (log.insert (nextKey slot log n r) r) := by
  unfold record merge
  rcases lookup_nextKey log r hslot with h | h
  · rw [h]
    rfl
  · rw [h]
    exact if_pos rfl

theorem nextKey_eq_slot (slot : N → Nat → K) (log : Log K R) (n : N) (r : R) :
    ∃ j, nextKey slot log n r = slot n j := by
  rcases nextKey_cases log n r with ⟨_, h⟩ | ⟨_, _, h⟩ | ⟨_, h⟩ <;> exact ⟨_, h⟩

theorem latest_record_ne (hslot : Function.Injective2 slot) {m : N} (hm : m ≠ n) (d : R) :
    latest slot (log.insert (nextKey slot log n r) r) m d = latest slot log m d := by
  apply latest_congr (hslot.right m)
  intro j
  obtain ⟨i, hi⟩ := nextKey_eq_slot slot log n r
  rw [hi]
  exact AList.lookup_insert_ne fun h => hm (hslot h).1

/-- When the slots of `n` are filled, the value just recorded is the latest one. -/
theorem latest_record_self (hslot : Function.Injective (slot n)) (hf : FilledAt slot log n) (d : R) :
    latest slot (log.insert (nextKey slot log n r) r) n d = r := by
  rcases nextKey_cases log n r with ⟨h0, hkey⟩ | ⟨h0, hr, hkey⟩ | ⟨h0, hkey⟩
  · -- first visit: no numbered slot can be in use
    have hfree : nextFree slot (log.insert (slot n 0) r) n = 1 := by
      rw [nextFree_eq_one_iff hslot, AList.mem_insert]
      rintro (h | h)
      · exact absurd (hslot h) (by omega)
      · exact h0 (hf 0 h)
    rw [hkey, latest_eq (by rw [AList.mem_insert]; exact Or.inl rfl), hfree, Nat.sub_self,
      AList.lookup_insert, Option.getD_some]
  · -- unchanged value: the same slot is written again
    have hfree : nextFree slot (log.insert (slot n (nextFree slot log n - 1)) r) n =
        nextFree slot log n := by
      apply nextFree_congr hslot
      intro j _
      rw [AList.mem_insert]
      exact ⟨fun h => h.elim (fun h => h ▸ mem_of_lookup hr) id, Or.inr⟩
    rw [hkey, latest_eq (by rw [AList.mem_insert]; exact Or.inr h0), hfree,
      AList.lookup_insert, Option.getD_some]
  · -- new value: it claims the first free slot, and the walk stops right after it
    have hfree : nextFree slot (log.insert (slot n (nextFree slot log n)) r) n =
        nextFree slot log n + 1 := by
      apply nextFree_eq hslot (by omega)
      · intro j h1 hj
        rw [AList.mem_insert]
        rcases Nat.eq_or_lt_of_le (Nat.le_of_lt_succ hj) with rfl | hlt
        · exact Or.inl rfl
        · exact Or.inr (mem_of_lt_nextFree h1 hlt)
      · rw [AList.mem_insert]
        rintro (h | h)
        · exact absurd (hslot h) (by omega)
        · exact nextFree_notMem hslot (hf _ h)
    rw [hkey, latest_eq (by rw [AList.mem_insert]; exact Or.inr h0), hfree,
      Nat.add_sub_cancel, AList.lookup_insert, Option.getD_some]

theorem filledAt_record (hslot : Function.Injective2 slot) {m : N} (hf : FilledAt slot log m) :
    FilledAt slot (log.insert (nextKey slot log n r) r) m := by
  intro j hj
  rw [AList.mem_insert] at hj ⊢
  right
  rcases hj with hj | hj
  · rcases nextKey_cases log n r with ⟨_, hkey⟩ | ⟨_, hr, hkey⟩ | ⟨h0, hkey⟩
    · exact absurd (hslot (hj.trans hkey)).2 (by omega)
    · exact hf j (hj.trans hkey ▸ mem_of_lookup hr)
    · obtain ⟨rfl, hfree⟩ := hslot (hj.trans hkey)
      rcases Nat.eq_zero_or_pos j with rfl | hpos
      · exact h0
      · exact mem_of_lt_nextFree hpos (by omega)
  · exact hf j hj

/-- Dropping the plain slot of `n` and recording `r` afterwards: the walk still
reaches the numbered slots left behind. -/
theorem latest_record_erase (hslot : Function.Injective (slot n)) (h0 : slot n 0 ∈ log) (d : R) :
    latest slot ((log.erase (slot n 0)).insert
      (nextKey slot (log.erase (slot n 0)) n r) r) n d =
      if slot n 1 ∈ log then latest slot log n d else r := by
  have hgone : slot n 0 ∉ log.erase (slot n 0) := by
    rw [AList.mem_erase]
    exact fun h => h.1 rfl
  rw [nextKey_of_notMem hgone]
  have hne : ∀ j, 1 ≤ j → slot n j ≠ slot n 0 := by
    intro j h1 h
    exact absurd (hslot h) (by omega)
  have hfree : nextFree slot ((log.erase (slot n 0)).insert (slot n 0) r) n =
      nextFree slot log n := by
    apply nextFree_congr hslot
    intro j h1
    rw [AList.mem_insert, AList.mem_erase]
    constructor
    · rintro (h | h)
      · exact absurd h (hne j h1)
      · exact h.2
    · exact fun h => Or.inr ⟨hne j h1, h⟩
  rw [latest_eq (by rw [AList.mem_insert]; exact Or.inl rfl), hfree, latest_eq h0]
  split
  · rename_i h1
    have hpos : 1 ≤ nextFree slot log n - 1 := by
      have hone : nextFree slot log n ≠ 1 := fun h => (nextFree_eq_one_iff hslot).mp h h1
      have hge : 1 ≤ nextFree slot log n := nextFree_pos
      omega
    rw [AList.lookup_insert_ne (hne _ hpos), AList.lookup_erase_ne (hne _ hpos)]
  · rename_i h1
    rw [(nextFree_eq_one_iff hslot).mpr h1, Nat.sub_self, AList.lookup_insert, Option.getD_some]

theorem latest_record_erase_ne (hslot : Function.Injective2 slot) {m : N} (hm : m ≠ n) (d : R) :
    latest slot ((log.erase (slot n 0)).insert
      (nextKey slot (log.erase (slot n 0)) n r) r) m d = latest slot log m d := by
  rw [latest_record_ne hslot hm]
  apply latest_congr (hslot.right m)
  intro j
  exact AList.lookup_erase_ne fun h => hm (hslot h).1

end Record

section History
variable [DecidableEq R]

/-- The values recorded under a name, with every run of equal ones collapsed to one. -/
def collapsed (values : List R) : List R := values.destutter (· ≠ ·)

theorem destutter'_concat (a r : R) (values : List R) :
    (values ++ [r]).destutter' (· ≠ ·) a =
      if (values.destutter' (· ≠ ·) a).getLast? = some r then values.destutter' (· ≠ ·) a
      else values.destutter' (· ≠ ·) a ++ [r] := by
  induction values generalizing a with
  | nil =>
    by_cases h : a = r
    · simp [h]
    · simp [h]
  | cons b values ih =>
    by_cases h : a ≠ b
    · have hlast : (a :: values.destutter' (· ≠ ·) b).getLast? =
          (values.destutter' (· ≠ ·) b).getLast? := by
        exact List.getLast?_cons_of_ne_nil (List.destutter'_ne_nil _ _)
      rw [List.cons_append, List.destutter'_cons_pos _ h, List.destutter'_cons_pos _ h, ih b, hlast]
      split <;> rfl
    · rw [List.cons_append, List.destutter'_cons_neg _ h, List.destutter'_cons_neg _ h, ih a]

theorem collapsed_concat (values : List R) (r : R) :
    collapsed (values ++ [r]) =
      if (collapsed values).getLast? = some r then collapsed values
      else collapsed values ++ [r] := by
  cases values with
  | nil => rfl
  | cons a values => exact destutter'_concat a r values

theorem collapsed_eq_nil {values : List R} : collapsed values = [] ↔ values = [] :=
  List.destutter_eq_nil _

theorem getLast?_collapsed (values : List R) : (collapsed values).getLast? = values.getLast? := by
  induction values using List.reverseRecOn with
  | nil => rfl
  | append_singleton values r _ =>
    rw [collapsed_concat, List.getLast?_concat]
    split
    · assumption
    · exact List.getLast?_concat

variable {slot : N → Nat → K} {log : Log K R} {values : N → List R} {n : N}

/-- The log holds exactly the collapsed values of every name, in its slots and in order. -/
structure Reflects (slot : N → Nat → K) (log : Log K R) (values : N → List R) : Prop where
  lookup : ∀ n i, log.lookup (slot n i) = (collapsed (values n))[i]?
  keys : ∀ key ∈ log, ∃ n i, key = slot n i

theorem reflects_empty (slot : N → Nat → K) : Reflects slot (∅ : Log K R) fun _ => [] where
  lookup _ _ := rfl
  keys _ h := absurd h (AList.notMem_empty _)

namespace Reflects

theorem mem_iff (h : Reflects slot log values) (n : N) (i : Nat) :
    slot n i ∈ log ↔ i < (collapsed (values n)).length := by
  rw [← AList.lookup_isSome, h.lookup, Option.isSome_iff_ne_none, ne_eq, List.getElem?_eq_none_iff,
    Nat.not_le]

theorem plain_mem (h : Reflects slot log values) (hn : values n ≠ []) : slot n 0 ∈ log :=
  (h.mem_iff n 0).mpr (List.length_pos_iff.mpr (collapsed_eq_nil.not.mpr hn))

variable (hslot : Function.Injective2 slot)
include hslot

theorem nextFree_eq_length (h : Reflects slot log values) (hn : values n ≠ []) :
    nextFree slot log n = (collapsed (values n)).length := by
  have hpos : 1 ≤ (collapsed (values n)).length :=
    List.length_pos_iff.mpr (collapsed_eq_nil.not.mpr hn)
  apply nextFree_eq (hslot.right n) hpos
  · intro j _ hj
    exact (h.mem_iff n j).mpr hj
  · intro hmem
    exact absurd ((h.mem_iff n _).mp hmem) (Nat.lt_irrefl _)

theorem latestKey_eq (h : Reflects slot log values) (hn : values n ≠ []) :
    latestKey slot log n = some (slot n ((collapsed (values n)).length - 1)) := by
  rw [latestKey_of_mem (h.plain_mem hn), h.nextFree_eq_length hslot hn]

theorem lookup_last (h : Reflects slot log values) (hn : values n ≠ []) :
    log.lookup (slot n (nextFree slot log n - 1)) = (values n).getLast? := by
  rw [h.nextFree_eq_length hslot hn, h.lookup, ← getLast?_collapsed, List.getLast?_eq_getElem?]

/-- The latest value is that of the last record. -/
theorem latest_eq_last (h : Reflects slot log values) {r : R} (hn : (values n).getLast? = some r)
    (d : R) : latest slot log n d = r := by
  have hne : values n ≠ [] := by
    rintro heq
    rw [heq] at hn
    cases hn
  rw [latest_eq (h.plain_mem hne), h.lookup_last hslot hne, hn, Option.getD_some]

/-- One slot is written, and it is the one the collapsed values change in, if they do. -/
theorem exists_nextKey_eq (h : Reflects slot log values) (n : N) (r : R) :
    ∃ k, nextKey slot log n r = slot n k ∧
      ∀ i : Nat, (collapsed (values n ++ [r]))[i]? =
        if i = k then some r else (collapsed (values n))[i]? := by
  by_cases hn : values n = []
  · have hfree : slot n 0 ∉ log := by
      rw [h.mem_iff, collapsed_eq_nil.mpr hn]
      exact Nat.not_lt_zero 0
    refine ⟨0, nextKey_of_notMem hfree, fun i => ?_⟩
    rw [hn]
    cases i with
    | zero => rfl
    | succ i => rfl
  · have hplain := h.plain_mem hn
    have hlast := h.lookup_last hslot hn
    have hlen := h.nextFree_eq_length hslot hn
    by_cases hr : (values n).getLast? = some r
    · refine ⟨_, nextKey_of_same hplain (hlast.trans hr), fun i => ?_⟩
      rw [collapsed_concat, getLast?_collapsed, if_pos hr]
      split
      · subst i
        rw [← h.lookup, hlast, hr]
      · rfl
    · refine ⟨_, nextKey_of_new hplain (fun heq => hr (hlast.symm.trans heq)), fun i => ?_⟩
      rw [collapsed_concat, getLast?_collapsed, if_neg hr, hlen, List.getElem?_append]
      rcases Nat.lt_trichotomy i (collapsed (values n)).length with hlt | heq | hgt
      · rw [if_pos hlt, if_neg (Nat.ne_of_lt hlt)]
      · rw [if_neg (by omega), if_pos heq, heq, Nat.sub_self]
        rfl
      · rw [if_neg (by omega), if_neg (by omega), List.getElem?_eq_none (by simp; omega),
          List.getElem?_eq_none (by omega)]

theorem record [DecidableEq N] (h : Reflects slot log values) (n : N) (r : R) :
    Reflects slot (log.insert (nextKey slot log n r) r)
      (Function.update values n (values n ++ [r])) := by
  obtain ⟨k, hkey, hwritten⟩ := h.exists_nextKey_eq hslot n r
  rw [hkey]
  constructor
  · intro m i
    by_cases hm : m = n
    · subst hm
      rw [Function.update_self, hwritten]
      split
      · subst i
        exact AList.lookup_insert _
      · rename_i hik
        rw [AList.lookup_insert_ne fun heq => hik (hslot heq).2]
        exact h.lookup m i
    · rw [Function.update_of_ne hm, AList.lookup_insert_ne fun heq => hm (hslot heq).1]
      exact h.lookup m i
  · intro key hmem
    rw [AList.mem_insert] at hmem
    rcases hmem with rfl | hold
    · exact ⟨n, k, rfl⟩
    · exact h.keys key hold

end Reflects

end History

end NumberedLog
