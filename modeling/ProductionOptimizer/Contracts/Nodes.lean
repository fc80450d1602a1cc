import Mathlib.Data.List.Basic
import Mathlib.Logic.Function.Basic

/-!
# Node identities and routes

`NodeId` is the pair (stage, number) behind an id such as `"S06.90"`; `render` gives
the text the code uses.
-/

namespace ProductionOptimizer
set_option autoImplicit false

inductive NodeRoute where
  | continue_
  | clarification
  | approval
  | rejected
  | missing
  | incomparable
  | revision
  | quarantine
  | merged
  | suppressed
  | refresh
  | closed
  deriving DecidableEq, Repr

inductive Stage where
  | A1 | A2 | A3 | B1 | B2 | C0
  | S01 | S02 | S03 | S04 | S05 | S06 | S07
  deriving DecidableEq, Repr

namespace Stage

def name : Stage → String
  | A1 => "A1"
  | A2 => "A2"
  | A3 => "A3"
  | B1 => "B1"
  | B2 => "B2"
  | C0 => "C0"
  | S01 => "S01"
  | S02 => "S02"
  | S03 => "S03"
  | S04 => "S04"
  | S05 => "S05"
  | S06 => "S06"
  | S07 => "S07"

def all : List Stage := [A1, A2, A3, B1, B2, C0, S01, S02, S03, S04, S05, S06, S07]

theorem find_name (s : Stage) : all.find? (fun t => t.name == s.name) = some s := by
  cases s <;> decide +kernel

theorem name_injective : Function.Injective name := by
  intro a b h
  have hfind := find_name a
  rw [h, find_name b] at hfind
  exact (Option.some.inj hfind).symm

theorem notMem_name (s : Stage) {c : Char} (hc : c = '.' ∨ c = '#' ∨ c = ':') :
    c ∉ s.name.toList := by
  rcases hc with rfl | rfl | rfl <;> cases s <;> decide

end Stage

structure NodeId where
  stage : Stage
  number : Nat
  deriving DecidableEq, Repr

theorem toList_repr_injective {m n : Nat} (h : m.repr.toList = n.repr.toList) : m = n := by
  rw [Nat.toList_repr, Nat.toList_repr] at h
  rw [← Nat.ofDigitChars_ten_toDigits (n := m), h, Nat.ofDigitChars_ten_toDigits]

theorem notMem_repr (n : Nat) {c : Char} (hc : c = '.' ∨ c = '#' ∨ c = ':') :
    c ∉ n.repr.toList := by
  intro h
  rw [Nat.toList_repr] at h
  have hd := Nat.isDigit_of_mem_toDigits (Nat.zero_lt_succ 9) (Nat.le_refl 10) h
  rcases hc with rfl | rfl | rfl <;> exact absurd hd (by decide)

namespace NodeId

def render (n : NodeId) : String := n.stage.name ++ "." ++ n.number.repr

theorem toList_render (n : NodeId) :
    n.render.toList = n.stage.name.toList ++ '.' :: n.number.repr.toList := by
  simp [render]

theorem render_injective : Function.Injective render := by
  intro a b h
  have hlist := congrArg String.toList h
  rw [toList_render, toList_render] at hlist
  obtain ⟨hstage, _, hnumber⟩ := (List.append_cons_inj_of_notMem
    (Stage.notMem_name b.stage (Or.inl rfl)) (notMem_repr b.number (Or.inl rfl))).mp hlist.symm
  cases a
  cases b
  rw [NodeId.mk.injEq]
  exact ⟨(Stage.name_injective (String.toList_inj.mp hstage)).symm,
    (toList_repr_injective hnumber).symm⟩

theorem notMem_render (n : NodeId) {c : Char} (hc : c = '#' ∨ c = ':') :
    c ∉ n.render.toList := by
  rw [toList_render]
  intro h
  rcases List.mem_append.mp h with h | h
  · exact n.stage.notMem_name (Or.inr hc) h
  · rcases List.mem_cons.mp h with rfl | h
    · rcases hc with h | h <;> exact absurd h (by decide)
    · exact notMem_repr n.number (Or.inr hc) h

end NodeId

end ProductionOptimizer
