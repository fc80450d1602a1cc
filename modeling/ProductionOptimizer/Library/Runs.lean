import Mathlib.Algebra.Order.BigOperators.Group.List
import Mathlib.Data.List.Pairwise
import Mathlib.Logic.Relation

/-!
# Labelled runs

A run is a list of transitions, latest first, each recorded with the state before
and after it. Properties of whole histories are then properties of one list.
-/

namespace Runs
set_option autoImplicit false

universe u v w
variable {S : Type u} {L : Type v} {A : Type w}

/-- One transition of a run together with the two states it connects. -/
structure Transition (S : Type u) (L : Type v) where
  before : S
  label : L
  after : S

/-- `Run Step s₀ tr s`: `tr`, read from its end, leads from `s₀` to `s`. -/
inductive Run (Step : S → L → S → Prop) (s₀ : S) : List (Transition S L) → S → Prop where
  | nil : Run Step s₀ [] s₀
  | snoc {tr : List (Transition S L)} {s s' : S} {l : L} :
      Run Step s₀ tr s → Step s l s' → Run Step s₀ (⟨s, l, s'⟩ :: tr) s'

def visited (tr : List (Transition S L)) (s : S) : List S := s :: tr.map Transition.before

namespace Run
variable {Step : S → L → S → Prop} {s₀ s₁ s₂ : S} {tr tr₁ tr₂ : List (Transition S L)}

theorem invariant {I : S → Prop} (h0 : I s₀)
    (hstep : ∀ s l s', I s → Step s l s' → I s') (h : Run Step s₀ tr s₁) : I s₁ := by
  induction h with
  | nil => exact h0
  | snoc _ hs ih => exact hstep _ _ _ ih hs

/-- An invariant that may also speak about the history so far. -/
theorem history_invariant {I : List (Transition S L) → S → Prop} (h0 : I [] s₀)
    (hstep : ∀ tr s l s', Run Step s₀ tr s → I tr s → Step s l s' →
      I (⟨s, l, s'⟩ :: tr) s') (h : Run Step s₀ tr s₁) : I tr s₁ := by
  induction h with
  | nil => exact h0
  | snoc hr hs ih => exact hstep _ _ _ _ hr ih hs

theorem trans (h₁ : Run Step s₀ tr₁ s₁) (h₂ : Run Step s₁ tr₂ s₂) :
    Run Step s₀ (tr₂ ++ tr₁) s₂ := by
  induction h₂ with
  | nil => exact h₁
  | snoc _ hs ih => exact .snoc ih hs

theorem split : ∀ {tr₂ : List (Transition S L)} {s₂ : S}, Run Step s₀ (tr₂ ++ tr₁) s₂ →
    ∃ s₁, Run Step s₀ tr₁ s₁ ∧ Run Step s₁ tr₂ s₂
  | [], _, h => ⟨_, h, .nil⟩
  | _ :: _, _, .snoc h hs => by
    obtain ⟨s₁, h₁, h₂⟩ := split h
    exact ⟨s₁, h₁, .snoc h₂ hs⟩

theorem step_of_eq_append {t : Transition S L} (h : Run Step s₀ (tr₂ ++ t :: tr₁) s₂) :
    Run Step s₀ tr₁ t.before ∧ Step t.before t.label t.after ∧ Run Step t.after tr₂ s₂ := by
  obtain ⟨s₁, h₁, h₂⟩ := split h
  cases h₁ with
  | snoc hr hs => exact ⟨hr, hs, h₂⟩

theorem last_step {t : Transition S L} (h : Run Step s₀ (t :: tr₁) s₂) :
    Run Step s₀ tr₁ t.before ∧ Step t.before t.label t.after := by
  cases h with
  | snoc hr hs => exact ⟨hr, hs⟩

theorem exists_oldest (h : Run Step s₀ tr s₁) (htr : tr ≠ []) :
    ∃ t ∈ tr, t.before = s₀ ∧ Step s₀ t.label t.after := by
  induction h with
  | nil => exact absurd rfl htr
  | @snoc tr _ _ _ hrun hstep ih =>
    cases tr with
    | nil =>
      cases hrun
      exact ⟨_, List.mem_cons_self, rfl, hstep⟩
    | cons t tr =>
      obtain ⟨u, hmem, hu⟩ := ih (List.cons_ne_nil t tr)
      exact ⟨u, List.mem_cons_of_mem _ hmem, hu⟩

theorem exists_first_step (h : Run Step s₀ tr s₁) (htr : tr ≠ []) : ∃ l s', Step s₀ l s' := by
  obtain ⟨t, _, _, hstep⟩ := h.exists_oldest htr
  exact ⟨t.label, t.after, hstep⟩

theorem step_of_mem {t : Transition S L} (h : Run Step s₀ tr s₂) (ht : t ∈ tr) :
    ∃ tr₁, Run Step s₀ tr₁ t.before ∧ Step t.before t.label t.after := by
  obtain ⟨tr₂, tr₁, rfl⟩ := List.append_of_mem ht
  obtain ⟨hr, hs, _⟩ := step_of_eq_append h
  exact ⟨tr₁, hr, hs⟩

/-- A transitive relation holds between any two states of a run, earlier to later,
exactly when every step of the run respects it. -/
theorem pairwise_visited_iff {R : S → S → Prop} (htrans : ∀ {a b c}, R a b → R b c → R a c)
    (h : Run Step s₀ tr s₁) :
    (visited tr s₁).Pairwise (fun later earlier => R earlier later) ↔
      ∀ t ∈ tr, R t.before t.after := by
  induction h with
  | nil => simp [visited]
  | @snoc tr s s' l hr hs ih =>
    have hcons : visited (⟨s, l, s'⟩ :: tr) s' = s' :: visited tr s := rfl
    rw [hcons, List.pairwise_cons, ih, List.forall_mem_cons]
    constructor
    · rintro ⟨hlast, hprev⟩
      exact ⟨hlast s List.mem_cons_self, hprev⟩
    · rintro ⟨hlast, hprev⟩
      refine ⟨?_, hprev⟩
      intro a ha
      rcases List.mem_cons.mp ha with rfl | ha
      · exact hlast
      · exact htrans ((List.pairwise_cons.mp (ih.mpr hprev)).1 a ha) hlast

theorem total_eq {M : Type w} [AddCommMonoid M] (total : S → M) (added : Transition S L → M)
    (hstep : ∀ s l s', Step s l s' → total s' = total s + added ⟨s, l, s'⟩)
    (h : Run Step s₀ tr s₁) : total s₁ = total s₀ + (tr.map added).sum := by
  induction h with
  | nil => rw [List.map_nil, List.sum_nil, add_zero]
  | snoc _ hs ih =>
    rw [hstep _ _ _ hs, ih, List.map_cons, List.sum_cons, add_assoc, add_comm (added _)]

end Run

/-- Feed a list of answers to a step function and record the run. -/
def replay (step : S → A → Option (L × S)) :
    List A → List (Transition S L) → S → Option (List (Transition S L) × S)
  | [], tr, s => some (tr, s)
  | a :: as, tr, s =>
    match step s a with
    | none => none
    | some (l, s') => replay step as (⟨s, l, s'⟩ :: tr) s'

theorem run_of_replay {Step : S → L → S → Prop} {step : S → A → Option (L × S)}
    (hstep : ∀ s a l s', step s a = some (l, s') → Step s l s') {s₀ : S} :
    ∀ {as : List A} {tr : List (Transition S L)} {s : S} {out : List (Transition S L) × S},
      Run Step s₀ tr s → replay step as tr s = some out → Run Step s₀ out.1 out.2
  | [], tr, s, out, hr, h => by
    cases h
    exact hr
  | a :: as, tr, s, out, hr, h => by
    unfold replay at h
    split at h
    · cases h
    · rename_i l s' heq
      exact run_of_replay hstep (.snoc hr (hstep _ _ _ _ heq)) h

/-- A decidable check on the replayed run is a statement about an actual run. -/
theorem exists_run_of_replay {Step : S → L → S → Prop} (step : S → A → Option (L × S))
    (hstep : ∀ s a l s', step s a = some (l, s') → Step s l s') (s₀ : S) (as : List A)
    (check : List (Transition S L) × S → Bool)
    (h : (replay step as [] s₀).any check = true) :
    ∃ tr s, Run Step s₀ tr s ∧ check (tr, s) = true := by
  cases hout : replay step as [] s₀ with
  | none => simp [hout] at h
  | some out =>
    rw [hout] at h
    exact ⟨out.1, out.2, run_of_replay hstep .nil hout, h⟩

end Runs
