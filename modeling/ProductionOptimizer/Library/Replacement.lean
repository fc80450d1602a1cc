import Mathlib.Data.List.Infix
import Mathlib.Data.List.Shortlex
import Mathlib.Order.Defs.LinearOrder

/-!
# Replacing every occurrence

Occurrences are found from left to right and do not overlap. However often a replacement is
repeated, a text it changes never comes back: texts move in one direction of the shortlex order.
-/

namespace Replacement
set_option autoImplicit false

universe u
variable {α : Type u}

section Replace
variable [DecidableEq α]

/-- The rest of a text, of which so many elements are already replaced. -/
def sweep (before after : List α) : Nat → List α → List α
  | _, [] => []
  | skip + 1, _ :: text => sweep before after skip text
  | 0, c :: text =>
    if before.isPrefixOf (c :: text) then after ++ sweep before after (before.length - 1) text
    else c :: sweep before after 0 text

/-- Every occurrence of a nonempty text replaced by another. -/
def replaceAll (before after text : List α) : List α := sweep before after 0 text

theorem replaceAll_of_absent {before text : List α} (h : ¬ before <:+: text) (after : List α) :
    replaceAll before after text = text := by
  unfold replaceAll
  induction text with
  | nil => rfl
  | cons c text ih =>
    rw [List.infix_cons_iff, not_or] at h
    have hstarts : ¬ before.isPrefixOf (c :: text) = true := by
      rw [List.isPrefixOf_iff_prefix]
      exact h.1
    rw [sweep, if_neg hstarts, ih h.2]

omit [DecidableEq α] in
theorem drop_of_starts {before rest text : List α} {c : α} (hne : before ≠ [])
    (h : before ++ rest = c :: text) : text.drop (before.length - 1) = rest := by
  obtain ⟨first, others, rfl⟩ := List.exists_cons_of_ne_nil hne
  rw [List.cons_append, List.cons.injEq] at h
  rw [← h.2]
  simp

theorem sweep_same {before : List α} (hne : before ≠ []) (skip : Nat) (text : List α) :
    sweep before before skip text = text.drop skip := by
  induction text generalizing skip with
  | nil => simp [sweep]
  | cons c text ih =>
    cases skip with
    | succ skip => rw [sweep, List.drop_succ_cons, ih]
    | zero =>
      rw [sweep, List.drop_zero]
      split
      · rename_i hstarts
        obtain ⟨rest, hrest⟩ := List.isPrefixOf_iff_prefix.mp hstarts
        rw [ih, drop_of_starts hne hrest, hrest]
      · rw [ih, List.drop_zero]

theorem replaceAll_same {before : List α} (hne : before ≠ []) (text : List α) :
    replaceAll before before text = text :=
  sweep_same hne 0 text

end Replace

/-! ### A direction of texts -/

/-- A relation that is kept under a common start and under any related ends. -/
structure Directed (R : List α → List α → Prop) : Prop where
  irrefl : ∀ x, ¬ R x x
  trans : ∀ {x y z}, R x y → R y z → R x z
  cons : ∀ {x y} (c : α), R x y → R (c :: x) (c :: y)
  append : ∀ {x y s t}, R x y → s = t ∨ R s t → R (x ++ s) (y ++ t)

section Moves
variable [DecidableEq α] {R : List α → List α → Prop} {before after text : List α}

theorem sweep_moves (hR : Directed R) (hne : before ≠ []) (h : R before after) (skip : Nat)
    (text : List α) :
    (¬ before <:+: text.drop skip ∧ sweep before after skip text = text.drop skip) ∨
      R (text.drop skip) (sweep before after skip text) := by
  induction text generalizing skip with
  | nil =>
    left
    rw [List.drop_nil]
    refine ⟨?_, by simp [sweep]⟩
    intro hoccurs
    exact hne (List.infix_nil.mp hoccurs)
  | cons c text ih =>
    cases skip with
    | succ skip => simpa only [sweep, List.drop_succ_cons] using ih skip
    | zero =>
      rw [sweep, List.drop_zero]
      split
      · rename_i hstarts
        right
        obtain ⟨rest, hrest⟩ := List.isPrefixOf_iff_prefix.mp hstarts
        have hdrop := drop_of_starts hne hrest
        rw [← hrest]
        apply hR.append h
        rcases ih (before.length - 1) with ⟨-, heq⟩ | hmoves
        · left
          rw [heq, hdrop]
        · right
          rwa [hdrop] at hmoves
      · rename_i hstarts
        rcases ih 0 with ⟨hoccurs, heq⟩ | hmoves
        · left
          rw [List.drop_zero] at hoccurs heq
          refine ⟨?_, by rw [heq]⟩
          rw [List.infix_cons_iff, not_or]
          exact ⟨fun hstart => hstarts (List.isPrefixOf_iff_prefix.mpr hstart), hoccurs⟩
        · exact .inr (hR.cons c hmoves)

/-- A text without the replaced one stays; any other moves. -/
theorem replaceAll_moves (hR : Directed R) (hne : before ≠ []) (h : R before after)
    (text : List α) :
    (¬ before <:+: text ∧ replaceAll before after text = text) ∨
      R text (replaceAll before after text) :=
  sweep_moves hR hne h 0 text

theorem iterate_moves (hR : Directed R) (hne : before ≠ []) (h : R before after)
    (hoccurs : before <:+: text) (n : Nat) :
    R text ((replaceAll before after)^[n + 1] text) := by
  induction n with
  | zero =>
    rcases replaceAll_moves hR hne h text with ⟨habsent, -⟩ | hmoves
    · exact absurd hoccurs habsent
    · exact hmoves
  | succ n ih =>
    rw [Function.iterate_succ_apply']
    rcases replaceAll_moves hR hne h ((replaceAll before after)^[n + 1] text) with
      ⟨-, hstays⟩ | hmoves
    · rw [hstays]
      exact ih
    · exact hR.trans ih hmoves

end Moves

/-! ### The shortlex order -/

section Shortlex
variable [LinearOrder α]

theorem lex_append {x y : List α} (hlength : x.length = y.length) (h : List.Lex (· < ·) x y)
    (s t : List α) : List.Lex (· < ·) (x ++ s) (y ++ t) := by
  induction h with
  | nil => cases hlength
  | cons _ ih => exact .cons (ih (Nat.succ.inj hlength))
  | rel hlt => exact .rel hlt

theorem length_le_of_shortlex {x y : List α} (h : List.Shortlex (· < ·) x y) :
    x.length ≤ y.length := by
  rcases List.shortlex_def.mp h with hlt | ⟨heq, -⟩
  · exact hlt.le
  · exact heq.le

theorem shortlex_append {x y s t : List α} (h : List.Shortlex (· < ·) x y)
    (hst : s = t ∨ List.Shortlex (· < ·) s t) :
    List.Shortlex (· < ·) (x ++ s) (y ++ t) := by
  have hends : s.length ≤ t.length := by
    rcases hst with rfl | hst
    · exact le_refl _
    · exact length_le_of_shortlex hst
  apply List.shortlex_def.mpr
  rw [List.length_append, List.length_append]
  rcases List.shortlex_def.mp h with hlt | ⟨heq, hlex⟩
  · left
    omega
  · rcases Nat.lt_or_eq_of_le hends with hless | hsame
    · left
      omega
    · exact .inr ⟨by omega, lex_append heq hlex s t⟩

theorem shortlex_trans {x y z : List α} (hxy : List.Shortlex (· < ·) x y)
    (hyz : List.Shortlex (· < ·) y z) : List.Shortlex (· < ·) x z := by
  apply List.shortlex_def.mpr
  rcases List.shortlex_def.mp hxy with hlt | ⟨heq, hlex⟩
  · have hle := length_le_of_shortlex hyz
    left
    omega
  · rcases List.shortlex_def.mp hyz with hlt' | ⟨heq', hlex'⟩
    · left
      omega
    · exact .inr ⟨heq.trans heq', List.lex_trans lt_trans hlex hlex'⟩

theorem shortlex_irrefl (x : List α) : ¬ List.Shortlex (· < ·) x x := by
  intro h
  exact asymm h h

theorem directed_up : Directed (List.Shortlex (· < · : α → α → Prop)) where
  irrefl := shortlex_irrefl
  trans := shortlex_trans
  cons _ h := List.Shortlex.cons h
  append := shortlex_append

theorem directed_down : Directed fun x y : List α => List.Shortlex (· < ·) y x where
  irrefl := shortlex_irrefl
  trans hxy hyz := shortlex_trans hyz hxy
  cons _ h := List.Shortlex.cons h
  append h hst := shortlex_append h (hst.imp_left Eq.symm)

variable {before after text : List α}

/-- However often it is repeated, a replacement that changes a text does not restore it. -/
theorem iterate_ne (hne : before ≠ []) (hdiffer : before ≠ after) (hoccurs : before <:+: text)
    (n : Nat) : (replaceAll before after)^[n + 1] text ≠ text := by
  intro hback
  rcases trichotomous_of (List.Shortlex (· < ·)) before after with hup | heq | hdown
  · have hmoves := iterate_moves directed_up hne hup hoccurs n
    rw [hback] at hmoves
    exact shortlex_irrefl text hmoves
  · exact hdiffer heq
  · have hmoves := iterate_moves directed_down hne hdown hoccurs n
    rw [hback] at hmoves
    exact shortlex_irrefl text hmoves

end Shortlex

end Replacement
