import ProductionOptimizer.Library.Interaction

/-!
# Servers

A server answers a request out of a state that it may change. Two servers are compared by the
answers they give: to a list of requests, or to a program that goes on with what it is answered.
-/

namespace Interaction
set_option autoImplicit false

variable {Q R A B S T O E α : Type}

abbrev Server (Q R S : Type) := Q → S → R × S

/-! ### Lists of requests -/

def answers (server : Server Q A S) : List Q → S → List A
  | [], _ => []
  | q :: qs, s => (server q s).1 :: answers server qs (server q s).2

def leaves (server : Server Q A S) : List Q → S → S
  | [], s => s
  | q :: qs, s => leaves server qs (server q s).2

/-- Every request is permitted in the state it finds. -/
def Permitted (server : Server Q A S) (permits : Q → S → Prop) : List Q → S → Prop
  | [], _ => True
  | q :: qs, s => permits q s ∧ Permitted server permits qs (server q s).2

/-- Related states answer a request in the same way exactly when it is permitted, and stay related
then. -/
structure Alike (left : Server Q A S) (right : Server Q B T) (rel : S → T → Prop)
    (same : A → B → Prop) (permits : Q → T → Prop) : Prop where
  same_iff : ∀ {q s t}, rel s t → (same (left q s).1 (right q t).1 ↔ permits q t)
  keeps : ∀ {q s t}, rel s t → permits q t → rel (left q s).2 (right q t).2

theorem Alike.answers_iff {left : Server Q A S} {right : Server Q B T} {rel : S → T → Prop}
    {same : A → B → Prop} {permits : Q → T → Prop} (h : Alike left right rel same permits)
    (qs : List Q) {s : S} {t : T} (hrel : rel s t) :
    List.Forall₂ same (answers left qs s) (answers right qs t) ↔
      Permitted right permits qs t := by
  induction qs generalizing s t with
  | nil => exact iff_of_true .nil trivial
  | cons q qs ih =>
    unfold answers Permitted
    rw [List.forall₂_cons, h.same_iff hrel]
    exact and_congr_right fun hq => ih (h.keeps hrel hq)

/-! ### Programs -/

/-- The run of a program against a server, and the state it leaves. -/
structure Served (Q R O E α S : Type) where
  calls : List (Q × R)
  records : List O
  outcome : Except E α
  state : S

def Prog.serve (server : Server Q R S) : Prog Q R O E α → S → Served Q R O E α S
  | .done out, s => ⟨[], [], out, s⟩
  | .call q next, s =>
    let rest := (next (server q s).1).serve server (server q s).2
    { rest with calls := (q, (server q s).1) :: rest.calls }
  | .emit o next, s =>
    let rest := next.serve server s
    { rest with records := o :: rest.records }

namespace Prog

/-- What every answer keeps holds at the end, and of every exchange what holds of each answer. -/
theorem serve_invariant {server : Server Q R S} {I : S → Prop} {P : Q → R → Prop}
    (hstep : ∀ q s, I s → P q (server q s).1 ∧ I (server q s).2) (p : Prog Q R O E α) {s : S}
    (hs : I s) :
    (∀ call ∈ (p.serve server s).calls, P call.1 call.2) ∧ I (p.serve server s).state := by
  induction p generalizing s with
  | done out => exact ⟨fun _ h => absurd h List.not_mem_nil, hs⟩
  | call q next ih =>
    obtain ⟨hanswer, hnext⟩ := hstep q s hs
    obtain ⟨hcalls, hstate⟩ := ih (server q s).1 hnext
    exact ⟨List.forall_mem_cons.mpr ⟨hanswer, hcalls⟩, hstate⟩
  | emit o next ih => exact ih hs

/-- A program cannot tell two servers apart that give the same answer to all it asks. -/
theorem serve_eq {left : Server Q R S} {right : Server Q R T} {rel : S → T → Prop} {P : Q → Prop}
    (hstep : ∀ q s t, P q → rel s t →
      (left q s).1 = (right q t).1 ∧ rel (left q s).2 (right q t).2)
    (p : Prog Q R O E α) {s : S} {t : T} (hrel : rel s t)
    (hasked : ∀ call ∈ (p.serve left s).calls, P call.1) :
    (p.serve left s).calls = (p.serve right t).calls ∧
      (p.serve left s).records = (p.serve right t).records ∧
      (p.serve left s).outcome = (p.serve right t).outcome ∧
      rel (p.serve left s).state (p.serve right t).state := by
  induction p generalizing s t with
  | done out => exact ⟨rfl, rfl, rfl, hrel⟩
  | call q next ih =>
    obtain ⟨hq, hrest⟩ := List.forall_mem_cons.mp hasked
    obtain ⟨hanswer, hnext⟩ := hstep q s t hq hrel
    obtain ⟨hcalls, hothers⟩ := ih (left q s).1 hnext hrest
    simp only [serve]
    rw [← hanswer]
    exact ⟨congrArg _ hcalls, hothers⟩
  | emit o next ih =>
    obtain ⟨hcalls, hrecords, hothers⟩ := ih hrel hasked
    exact ⟨hcalls, congrArg _ hrecords, hothers⟩

end Prog

end Interaction
