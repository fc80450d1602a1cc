import Mathlib.Algebra.Order.Group.Defs
import Mathlib.Data.List.Perm.Basic

/-!
# Ranking by rounds within a margin

Every round takes, among the elements whose score is within a margin of the best one left, one
of the lowest tier, and of these one with the highest score. Being within the margin is not
transitive, so what a round may take depends on what the rounds before it have taken.
-/

namespace MarginRanking
set_option autoImplicit false

universe u v w

theorem exists_map_eq {α : Type u} {β : Type v} {f : α → β} {l l' : List α}
    (h : (l.map f).Perm (l'.map f)) {a : α} (ha : a ∈ l) : ∃ b ∈ l', f b = f a := by
  have hmem : f a ∈ l'.map f := h.mem_iff.mp (List.mem_map_of_mem ha)
  exact List.mem_map.mp hmem

variable {α : Type u} {K : Type v} {T : Type w} [AddCommGroup K] [LinearOrder K] [LinearOrder T]

/-- What the elements are compared by. -/
structure Keys (α : Type u) (K : Type v) (T : Type w) where
  score : α → K
  tier : α → T
  margin : K

namespace Keys

def key (k : Keys α K T) (a : α) : K × T := (k.score a, k.tier a)

/-- Within the margin of everything in `l`, so of the best score in it. -/
def Close (k : Keys α K T) (l : List α) (a : α) : Prop := ∀ b ∈ l, k.score b - k.score a ≤ k.margin

/-- `a` goes before `b` when both are close to the best. -/
def Beats (k : Keys α K T) (a b : α) : Prop :=
  k.tier a < k.tier b ∨ k.tier a = k.tier b ∧ k.score b ≤ k.score a

structure Best (k : Keys α K T) (l : List α) (a : α) : Prop where
  mem : a ∈ l
  close : k.Close l a
  beats : ∀ b ∈ l, k.Close l b → k.Beats a b

end Keys

/-- `Ranked k l out`: the rounds on `l` take the elements of `out`, in this order. -/
inductive Ranked (k : Keys α K T) : List α → List α → Prop where
  | nil : Ranked k [] []
  | cons {l rest out : List α} {a : α} : k.Best l a → l.Perm (a :: rest) → Ranked k rest out →
      Ranked k l (a :: out)

variable {k : Keys α K T} {l l' out out' : List α} {a b : α}

theorem Ranked.perm (h : Ranked k l out) : out.Perm l := by
  induction h with
  | nil => exact .nil
  | cons _ hperm _ ih => exact (ih.cons _).trans hperm.symm

theorem Ranked.of_perm (h : Ranked k l out) (hperm : l.Perm l') : Ranked k l' out := by
  cases h with
  | nil =>
    obtain rfl := hperm.nil_eq
    exact .nil
  | cons hbest hrest hout =>
    have hmem : ∀ b, b ∈ l' ↔ b ∈ l := fun b => hperm.symm.mem_iff
    refine .cons ⟨(hmem _).mpr hbest.mem, ?_, ?_⟩ (hperm.symm.trans hrest) hout
    · intro b hb
      exact hbest.close b ((hmem b).mp hb)
    · intro b hb hclose
      exact hbest.beats b ((hmem b).mp hb) fun c hc => hclose c ((hmem c).mpr hc)

/-- What holds of the best of any list, against every other element of it, holds of every
element of a ranking against the later ones. -/
theorem Ranked.pairwise {R : α → α → Prop} (hbest : ∀ {l a b}, k.Best l a → b ∈ l → R a b)
    (h : Ranked k l out) : out.Pairwise R := by
  induction h with
  | nil => exact .nil
  | @cons l rest out a hfirst hperm hrest ih =>
    refine List.pairwise_cons.mpr ⟨?_, ih⟩
    intro b hb
    have hmem : b ∈ rest := hrest.perm.mem_iff.mp hb
    exact hbest hfirst (hperm.mem_iff.mpr (List.mem_cons_of_mem _ hmem))

section Order
variable [IsOrderedAddMonoid K]

/-- No element is preceded by one that is worse by more than the margin. -/
theorem Ranked.within_margin (h : Ranked k l out) :
    out.Pairwise fun a b => k.score b - k.margin ≤ k.score a := by
  apply h.pairwise
  intro l a b hbest hb
  have hclose := hbest.close b hb
  rw [sub_le_iff_le_add] at hclose ⊢
  rwa [add_comm] at hclose

/-- An element with a higher score and no higher tier is never preceded by the other. -/
theorem Ranked.not_dominated (h : Ranked k l out) :
    out.Pairwise fun a b => ¬ (k.score a < k.score b ∧ k.tier b ≤ k.tier a) := by
  apply h.pairwise
  rintro l a b hbest hb ⟨hscore, htier⟩
  -- Whoever is above `a` is close to the best as well.
  have hclose : k.Close l b := by
    intro c hc
    exact (sub_le_sub_left hscore.le _).trans (hbest.close c hc)
  rcases hbest.beats b hb hclose with hlt | ⟨-, hle⟩
  · exact absurd htier (not_le_of_gt hlt)
  · exact absurd hscore (not_lt_of_ge hle)

end Order

/-- The element at every place has the lowest tier among the close ones not yet ranked. -/
theorem Ranked.lowest_tier (h : Ranked k l out) {before after : List α}
    (hout : out = before ++ a :: after) :
    k.Close (a :: after) a ∧ ∀ b ∈ a :: after, k.Close (a :: after) b → k.tier a ≤ k.tier b := by
  induction h generalizing before with
  | nil => simp at hout
  | @cons l rest out first hbest hperm hrest ih =>
    cases before with
    | nil =>
      obtain ⟨rfl, rfl⟩ := List.cons.inj hout
      have hsame : ∀ b, b ∈ first :: out ↔ b ∈ l := by
        intro b
        exact ((hrest.perm.cons first).trans hperm.symm).mem_iff
      have hclose : ∀ b, k.Close (first :: out) b ↔ k.Close l b := by
        intro b
        simp only [Keys.Close, hsame]
      refine ⟨(hclose first).mpr hbest.close, ?_⟩
      intro b hb hb'
      rcases hbest.beats b ((hsame b).mp hb) ((hclose b).mp hb') with hlt | ⟨heq, -⟩
      · exact hlt.le
      · exact heq.le
    | cons c before => exact ih (List.cons.inj hout).2

section Keys
variable (hkeys : (l.map k.key).Perm (l'.map k.key))
include hkeys

omit [LinearOrder T] in
theorem close_of_keys {b : α} (hkey : k.key b = k.key a) (h : k.Close l a) : k.Close l' b := by
  intro c hc
  obtain ⟨d, hd, hdc⟩ := exists_map_eq hkeys.symm hc
  have hscore : k.score d = k.score c := congrArg Prod.fst hdc
  have hscore' : k.score b = k.score a := congrArg Prod.fst hkey
  rw [← hscore, hscore']
  exact h d hd

/-- The best of two lists with the same keys have the same key. -/
theorem key_best_eq (h : k.Best l a) (h' : k.Best l' b) : k.key a = k.key b := by
  obtain ⟨a', ha', haa'⟩ := exists_map_eq hkeys h.mem
  obtain ⟨b', hb', hbb'⟩ := exists_map_eq hkeys.symm h'.mem
  have hbeats := h.beats b' hb' (close_of_keys hkeys.symm hbb' h'.close)
  have hbeats' := h'.beats a' ha' (close_of_keys hkeys haa' h.close)
  obtain ⟨hscore, htier⟩ := Prod.mk.inj haa'
  obtain ⟨hscore', htier'⟩ := Prod.mk.inj hbb'
  unfold Keys.Beats at hbeats hbeats'
  rw [hscore', htier'] at hbeats
  rw [hscore, htier] at hbeats'
  rcases hbeats with hlt | ⟨heq, hle⟩
  · rcases hbeats' with hlt' | ⟨heq', -⟩
    · exact absurd hlt' (lt_asymm hlt)
    · exact absurd heq'.symm hlt.ne
  · rcases hbeats' with hlt' | ⟨-, hle'⟩
    · exact absurd heq.symm hlt'.ne
    · exact Prod.ext (le_antisymm hle' hle) heq

end Keys

/-- Rankings of lists with the same keys have the same keys, place by place. -/
theorem Ranked.keys_eq (h : Ranked k l out) (h' : Ranked k l' out')
    (hkeys : (l.map k.key).Perm (l'.map k.key)) : out.map k.key = out'.map k.key := by
  induction h generalizing l' out' with
  | nil =>
    have hnil : l' = [] := by simpa using hkeys.symm.eq_nil
    subst hnil
    cases h' with
    | nil => rfl
    | cons hbest => exact absurd hbest.mem (List.not_mem_nil)
  | @cons l rest out a hbest hperm _ ih =>
    cases h' with
    | nil =>
      have hnil : l = [] := by simpa using hkeys.eq_nil
      subst hnil
      exact absurd hbest.mem (List.not_mem_nil)
    | @cons _ rest' out' b hbest' hperm' hrest' =>
      have hkey := key_best_eq hkeys hbest hbest'
      have hrest : (rest.map k.key).Perm (rest'.map k.key) := by
        have hall := ((hperm.map k.key).symm.trans hkeys).trans (hperm'.map k.key)
        rw [List.map_cons, List.map_cons, hkey] at hall
        exact hall.cons_inv
      rw [List.map_cons, List.map_cons, hkey, ih hrest' hrest]

end MarginRanking
