import Mathlib.Data.List.DropRight

/-!
# Cutting a text into lines

A text is cut after every break; each line keeps the break that ends it, and only the last
one may have none.
-/

namespace LineCut
set_option autoImplicit false

universe u
variable {α : Type u} {p : α → Bool} {b : α} {x line text rest : List α}

def cut (p : α → Bool) : List α → List (List α)
  | [] => []
  | a :: rest =>
    if p a then [a] :: cut p rest
    else
      match cut p rest with
      | [] => [[a]]
      | line :: lines => (a :: line) :: lines

/-- A line that ends in its break, and has no other. -/
def Ended (p : α → Bool) (line : List α) : Prop :=
  ∃ x b, line = x ++ [b] ∧ p b = true ∧ ∀ a ∈ x, p a = false

/-- A line of which only the last element may be a break. -/
def OneLine (p : α → Bool) (line : List α) : Prop :=
  line ≠ [] ∧ ∀ a ∈ line.dropLast, p a = false

theorem cut_append (hx : ∀ a ∈ x, p a = false) {first : List α} {lines : List (List α)}
    (h : cut p rest = first :: lines) : cut p (x ++ rest) = (x ++ first) :: lines := by
  induction x with
  | nil => exact h
  | cons a x ih =>
    have ha := hx a List.mem_cons_self
    have hcut := ih fun c hc => hx c (List.mem_cons_of_mem _ hc)
    simp [cut, ha, hcut]

theorem cut_ended_append (h : Ended p line) (rest : List α) :
    cut p (line ++ rest) = line :: cut p rest := by
  obtain ⟨x, b, rfl, hb, hx⟩ := h
  have hrest : cut p (b :: rest) = [b] :: cut p rest := by simp [cut, hb]
  rw [List.append_assoc, List.singleton_append]
  exact cut_append hx hrest

theorem cut_flatten_append {lines : List (List α)} (h : ∀ line ∈ lines, Ended p line)
    (rest : List α) : cut p (lines.flatten ++ rest) = lines ++ cut p rest := by
  induction lines with
  | nil => rfl
  | cons line lines ih =>
    rw [List.flatten_cons, List.append_assoc, cut_ended_append (h line List.mem_cons_self),
      ih fun l hl => h l (List.mem_cons_of_mem _ hl), List.cons_append]

theorem cut_flatten {lines : List (List α)} (h : ∀ line ∈ lines, Ended p line) :
    cut p lines.flatten = lines := by
  simpa [cut] using cut_flatten_append h []

theorem oneLine_of_mem_cut (h : line ∈ cut p text) : OneLine p line := by
  induction text generalizing line with
  | nil => cases h
  | cons a text ih =>
    unfold cut at h
    split at h
    · rcases List.mem_cons.mp h with rfl | h
      · exact ⟨List.cons_ne_nil _ _, fun _ hc => nomatch hc⟩
      · exact ih h
    · next ha =>
      split at h
      · obtain rfl := List.mem_singleton.mp h
        exact ⟨List.cons_ne_nil _ _, fun _ hc => nomatch hc⟩
      · next first lines hcut =>
        rcases List.mem_cons.mp h with rfl | h
        · have hfirst : first ∈ cut p text := by
            rw [hcut]
            exact List.mem_cons_self
          obtain ⟨hne, hbefore⟩ := ih hfirst
          refine ⟨List.cons_ne_nil _ _, ?_⟩
          intro c hc
          rw [List.dropLast_cons_of_ne_nil hne] at hc
          rcases List.mem_cons.mp hc with rfl | hc
          · exact Bool.eq_false_iff.mpr ha
          · exact hbefore c hc
        · exact ih (by rw [hcut]; exact List.mem_cons_of_mem _ h)

theorem cut_ne_nil (h : text ≠ []) : cut p text ≠ [] := by
  cases text with
  | nil => exact absurd rfl h
  | cons a text =>
    unfold cut
    split
    · exact List.cons_ne_nil _ _
    · split <;> exact List.cons_ne_nil _ _

theorem Ended.cons {a : α} (ha : p a = false) (h : Ended p line) : Ended p (a :: line) := by
  obtain ⟨x, b, rfl, hb, hx⟩ := h
  refine ⟨a :: x, b, rfl, hb, ?_⟩
  intro c hc
  rcases List.mem_cons.mp hc with rfl | hc
  · exact ha
  · exact hx c hc

theorem Ended.tail {a : α} (h : Ended p (a :: line)) (hne : line ≠ []) : Ended p line := by
  obtain ⟨x, b, heq, hb, hx⟩ := h
  cases x with
  | nil => exact absurd (List.cons.inj heq).2 hne
  | cons c x =>
    obtain ⟨-, rfl⟩ := List.cons.inj heq
    exact ⟨x, b, rfl, hb, fun d hd => hx d (List.mem_cons_of_mem _ hd)⟩

theorem Ended.oneLine (h : Ended p line) : OneLine p line := by
  obtain ⟨x, b, rfl, -, hx⟩ := h
  refine ⟨List.append_ne_nil_of_right_ne_nil _ (List.cons_ne_nil _ _), ?_⟩
  rw [List.dropLast_concat]
  exact hx

/-- A line that has no break at its end has none at all. -/
theorem OneLine.no_break (h : OneLine p line) (hended : ¬ Ended p line) :
    ∀ a ∈ line, p a = false := by
  have hsplit := List.dropLast_append_getLast h.1
  intro a ha
  rw [← hsplit] at ha
  rcases List.mem_append.mp ha with ha | ha
  · exact h.2 a ha
  · obtain rfl := List.mem_singleton.mp ha
    by_contra hbreak
    exact hended ⟨line.dropLast, _, hsplit.symm, by simpa using hbreak, h.2⟩

theorem exists_first_not_ended {lines : List (List α)} (h : ¬ ∀ line ∈ lines, Ended p line) :
    ∃ before line after, lines = before ++ line :: after ∧ (∀ l ∈ before, Ended p l) ∧
      ¬ Ended p line := by
  induction lines with
  | nil => exact absurd (by simp) h
  | cons first lines ih =>
    by_cases hfirst : Ended p first
    · obtain ⟨before, line, after, rfl, hbefore, hline⟩ := ih fun hall =>
        h (List.forall_mem_cons.mpr ⟨hfirst, hall⟩)
      exact ⟨first :: before, line, after, rfl, List.forall_mem_cons.mpr ⟨hfirst, hbefore⟩, hline⟩
    · exact ⟨[], first, lines, rfl, by simp, hfirst⟩

theorem ended_singleton (hb : p b = true) : Ended p [b] := ⟨[], b, rfl, hb, fun _ hc => nomatch hc⟩

/-- Every line but the last has its break. -/
theorem ended_of_cut_eq {before after : List (List α)} (h : cut p text = before ++ line :: after)
    (hafter : after ≠ []) : Ended p line := by
  induction text generalizing before line with
  | nil => simp [cut] at h
  | cons a text ih =>
    unfold cut at h
    split at h
    · next ha =>
      cases before with
      | nil =>
        obtain ⟨rfl, -⟩ := List.cons.inj h
        exact ended_singleton ha
      | cons _ before => exact ih (List.cons.inj h).2
    · next ha =>
      split at h
      · cases before with
        | nil => exact absurd (List.cons.inj h).2.symm hafter
        | cons _ before => simp at h
      · next first lines hcut =>
        cases before with
        | nil =>
          obtain ⟨rfl, rfl⟩ := List.cons.inj h
          have hfirst : Ended p first := by
            apply ih
            rw [hcut, List.nil_append]
          exact hfirst.cons (Bool.eq_false_iff.mpr ha)
        | cons _ before =>
          rw [List.cons_append] at h
          obtain ⟨-, rfl⟩ := List.cons.inj h
          rw [← List.cons_append] at hcut
          exact ih hcut

/-- A text that ends in a break has only whole lines. -/
theorem ended_of_mem_cut_concat (hb : p b = true) (h : line ∈ cut p (text ++ [b])) :
    Ended p line := by
  induction text generalizing line with
  | nil =>
    have hcut : cut p ([] ++ [b]) = [[b]] := by simp [cut, hb]
    rw [hcut] at h
    obtain rfl := List.mem_singleton.mp h
    exact ended_singleton hb
  | cons a text ih =>
    rw [List.cons_append] at h
    unfold cut at h
    split at h
    · next ha =>
      rcases List.mem_cons.mp h with rfl | h
      · exact ended_singleton ha
      · exact ih h
    · next ha =>
      split at h
      · next hnil => exact absurd hnil (cut_ne_nil (by simp))
      · next first lines hcut =>
        rcases List.mem_cons.mp h with rfl | h
        · have hfirst : Ended p first := ih (by rw [hcut]; exact List.mem_cons_self)
          exact hfirst.cons (Bool.eq_false_iff.mpr ha)
        · exact ih (by rw [hcut]; exact List.mem_cons_of_mem _ h)

/-- Where one element of joined lists comes from. -/
theorem flatMap_eq_append_cons {β : Type u} {f : β → List α} {bs : List β} {a : α}
    {before after : List α} (h : bs.flatMap f = before ++ a :: after) :
    ∃ bs₁ b bs₂ before' after', bs = bs₁ ++ b :: bs₂ ∧ f b = before' ++ a :: after' ∧
      before = bs₁.flatMap f ++ before' ∧ after = after' ++ bs₂.flatMap f := by
  induction bs generalizing before with
  | nil => simp at h
  | cons b bs ih =>
    rw [List.flatMap_cons, List.append_eq_append_iff] at h
    rcases h with ⟨left, rfl, hleft⟩ | ⟨right, hfirst, hright⟩
    · obtain ⟨bs₁, b', bs₂, before', after', rfl, hb', rfl, rfl⟩ := ih hleft
      exact ⟨b :: bs₁, b', bs₂, before', after', rfl, hb', by simp, rfl⟩
    · cases right with
      | nil =>
        have hrest : bs.flatMap f = [] ++ a :: after := by simpa using hright.symm
        obtain ⟨bs₁, b', bs₂, before', after', rfl, hb', hbefore, rfl⟩ := ih hrest
        refine ⟨b :: bs₁, b', bs₂, before', after', rfl, hb', ?_, rfl⟩
        rw [List.append_nil] at hfirst
        rw [List.flatMap_cons, hfirst, List.append_assoc, ← hbefore, List.append_nil]
      | cons a' right =>
        obtain ⟨rfl, rfl⟩ := List.cons.inj hright
        exact ⟨[], b, bs, before, right, rfl, hfirst, rfl, rfl⟩

end LineCut
