import Mathlib.Data.List.Basic
import Mathlib.Data.List.Infix

/-!
# Lists that agree at their ends

How many last elements two lists share, and what a common end of two texts says about the
segments between their separators.
-/

namespace TrailingSegments
set_option autoImplicit false

universe u
variable {α : Type u} [DecidableEq α]

/-! ### The common end of two lists -/

/-- The length of the longest common start. -/
def leading : List α → List α → Nat
  | a :: x, b :: y => if a = b then leading x y + 1 else 0
  | _, _ => 0

/-- The length of the longest common end. -/
def trailing (x y : List α) : Nat := leading x.reverse y.reverse

/-- Equal lists agree on one more than all their elements. -/
def agreement (x y : List α) : Nat := if x = y then x.length + 1 else trailing x y

theorem le_leading_iff {k : Nat} {x y : List α} :
    k ≤ leading x y ↔ k ≤ x.length ∧ x.take k <+: y := by
  induction k generalizing x y with
  | zero => simp
  | succ k ih =>
    cases x with
    | nil => simp [leading]
    | cons a x =>
      cases y with
      | nil => simp [leading]
      | cons b y =>
        rw [leading, List.take_succ_cons, List.length_cons, List.cons_prefix_cons]
        by_cases hab : a = b
        · rw [if_pos hab, Nat.add_le_add_iff_right, Nat.add_le_add_iff_right, ih]
          tauto
        · rw [if_neg hab]
          simp [hab]

theorem le_trailing_iff {k : Nat} {x y : List α} :
    k ≤ trailing x y ↔ k ≤ x.length ∧ x.drop (x.length - k) <:+ y := by
  unfold trailing
  rw [le_leading_iff, List.length_reverse, List.take_reverse, List.reverse_prefix]

theorem trailing_le_length (x y : List α) : trailing x y ≤ x.length :=
  (le_trailing_iff.mp (le_refl _)).1

theorem trailing_self (x : List α) : trailing x x = x.length := by
  apply le_antisymm (trailing_le_length x x)
  apply le_trailing_iff.mpr
  simp

theorem agreement_self (x : List α) : agreement x x = x.length + 1 := if_pos rfl

theorem trailing_le_agreement (x y : List α) : trailing x y ≤ agreement x y := by
  unfold agreement
  split
  · exact (trailing_le_length x y).trans (Nat.le_succ _)
  · exact le_refl _

/-- Up to the length of the list, agreeing is having the same end. -/
theorem le_agreement_iff {k : Nat} {x y : List α} (hk : k ≤ x.length) :
    k ≤ agreement x y ↔ x.drop (x.length - k) <:+ y := by
  unfold agreement
  split
  · rename_i heq
    rw [← heq]
    constructor
    · intro _
      exact List.drop_suffix _ _
    · intro _
      omega
  · rw [le_trailing_iff]
    exact and_iff_right hk

theorem eq_of_length_lt_agreement {x y : List α} (h : x.length < agreement x y) : x = y := by
  by_contra hne
  have hle := trailing_le_length x y
  unfold agreement at h
  rw [if_neg hne] at h
  omega

/-! ### Segments of a text -/

variable {sep : α}

theorem splitOn_injective {x y : List α} (h : x.splitOn sep = y.splitOn sep) : x = y := by
  have hx : [sep].intercalate (x.splitOn sep) = x := List.intercalate_splitOn sep
  rw [← hx, h, List.intercalate_splitOn]

theorem notMem_of_mem_splitOn {x segment : List α} (h : segment ∈ x.splitOn sep) :
    sep ∉ segment := by
  induction x generalizing segment with
  | nil =>
    rw [List.splitOn_nil, List.mem_singleton] at h
    rw [h]
    exact List.not_mem_nil
  | cons a x ih =>
    rw [List.splitOn_cons_eq_if_modifyHead] at h
    split at h
    · rcases List.mem_cons.mp h with rfl | hrest
      · exact List.not_mem_nil
      · exact ih hrest
    · rename_i hne
      cases hsplit : x.splitOn sep with
      | nil => exact absurd hsplit (List.splitOn_ne_nil sep x)
      | cons first rest =>
        rw [hsplit, List.modifyHead_cons] at h
        rcases List.mem_cons.mp h with rfl | hrest
        · intro hmem
          rcases List.mem_cons.mp hmem with heq | hfirst
          · exact hne (by simp [heq])
          · exact ih (by rw [hsplit]; exact List.mem_cons_self) hfirst
        · exact ih (by rw [hsplit]; exact List.mem_cons_of_mem _ hrest)

theorem splitOn_glue (x : List α) {y : List α} {first : List α} {rest : List (List α)}
    (h : y.splitOn sep = first :: rest) :
    ∃ before last, x.splitOn sep = before ++ [last] ∧
      (x ++ y).splitOn sep = before ++ (last ++ first) :: rest := by
  induction x with
  | nil => exact ⟨[], [], by simp, by simp [h]⟩
  | cons a x ih =>
    obtain ⟨before, last, hx, hxy⟩ := ih
    rw [List.cons_append, List.splitOn_cons_eq_if_modifyHead,
      List.splitOn_cons_eq_if_modifyHead, hx, hxy]
    by_cases hsep : (a == sep) = true
    · rw [if_pos hsep, if_pos hsep]
      exact ⟨[] :: before, last, rfl, rfl⟩
    · rw [if_neg hsep, if_neg hsep]
      cases before with
      | nil => exact ⟨[], a :: last, rfl, rfl⟩
      | cons segment before => exact ⟨(a :: segment) :: before, last, rfl, rfl⟩

/-- A text that ends in joined segments either has them as its last segments, or its segment
there is longer than the first of them. -/
theorem splitOn_of_suffix {text : List α} {first : List α} {rest : List (List α)}
    (hfree : ∀ segment ∈ first :: rest, sep ∉ segment)
    (h : [sep].intercalate (first :: rest) <:+ text) :
    first :: rest <:+ text.splitOn sep ∨
      ∃ before extra, extra ≠ [] ∧ text.splitOn sep = before ++ (extra ++ first) :: rest := by
  obtain ⟨x, rfl⟩ := h
  have hsplit := List.splitOn_intercalate sep hfree (List.cons_ne_nil first rest)
  obtain ⟨before, last, -, hxy⟩ := splitOn_glue x hsplit
  rw [hxy]
  by_cases hlast : last = []
  · left
    rw [hlast]
    exact ⟨before, rfl⟩
  · exact .inr ⟨before, last, hlast, rfl⟩

omit [DecidableEq α] in
theorem intercalate_suffix_of_suffix {x y : List (List α)} (hx : x ≠ []) (h : x <:+ y) :
    [sep].intercalate x <:+ [sep].intercalate y := by
  obtain ⟨before, rfl⟩ := h
  induction before with
  | nil => exact List.suffix_rfl
  | cons segment before ih =>
    have hne : before ++ x ≠ [] := by simp [hx]
    rw [List.cons_append, List.intercalate_cons_of_ne_nil hne]
    exact ih.trans ⟨segment ++ [sep], by simp⟩

/-- A text whose last segments are these ends in their join. -/
theorem suffix_of_splitOn {text : List α} {x : List (List α)} (hx : x ≠ [])
    (h : x <:+ text.splitOn sep) : [sep].intercalate x <:+ text := by
  have hsuffix : [sep].intercalate x <:+ [sep].intercalate (text.splitOn sep) :=
    intercalate_suffix_of_suffix hx h
  rwa [List.intercalate_splitOn] at hsuffix

end TrailingSegments
