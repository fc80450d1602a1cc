import Mathlib.Data.List.Chain
import Mathlib.Data.List.Perm.Subperm
import Mathlib.Logic.Relation
import Mathlib.Order.WellFounded

/-!
# Depth-first search for a cycle

The search keeps the elements of the current path and those it is done with. An element it
meets again on the path closes a cycle. What it is done with leads only to elements it was
done with before, so that a search without a cycle leaves them in order.
-/

namespace DepthFirst
set_option autoImplicit false

structure Marks (α : Type*) where
  visiting : List α
  visited : List α

section Search
variable {α : Type*}

/-- One call after the other, up to the first that fails. -/
def visitAll (call : α → Marks α → Option (Bool × Marks α)) :
    List α → Marks α → Option (Bool × Marks α)
  | [], m => some (true, m)
  | a :: rest, m =>
    match call a m with
    | none => none
    | some (false, m') => some (false, m')
    | some (true, m') => visitAll call rest m'

variable [DecidableEq α]

/-- `none` when the fuel is used up; otherwise whether no cycle was met. -/
def visit (next : α → List α) : Nat → α → Marks α → Option (Bool × Marks α)
  | 0, _, _ => none
  | fuel + 1, a, m =>
    if a ∈ m.visited then some (true, m)
    else if a ∈ m.visiting then some (false, m)
    else
      match visitAll (visit next fuel) (next a) ⟨a :: m.visiting, m.visited⟩ with
      | none => none
      | some (false, m') => some (false, m')
      | some (true, m') => some (true, ⟨m'.visiting.erase a, a :: m'.visited⟩)

end Search

section Calls
variable {α : Type*} {call : α → Marks α → Option (Bool × Marks α)} {m m' : Marks α}

theorem visitAll_cons_true {a : α} {rest : List α}
    (h : visitAll call (a :: rest) m = some (true, m')) :
    ∃ between, call a m = some (true, between) ∧ visitAll call rest between = some (true, m') := by
  unfold visitAll at h
  split at h
  · cases h
  · cases h
  · rename_i between hcall
    exact ⟨between, hcall, h⟩

theorem visitAll_cons_false {a : α} {rest : List α}
    (h : visitAll call (a :: rest) m = some (false, m')) :
    call a m = some (false, m') ∨
      ∃ between, call a m = some (true, between) ∧
        visitAll call rest between = some (false, m') := by
  unfold visitAll at h
  split at h
  · cases h
  · rename_i hcall
    cases h
    exact .inl hcall
  · rename_i between hcall
    exact .inr ⟨between, hcall, h⟩

theorem visitAll_visiting
    (hcall : ∀ a m m', call a m = some (true, m') → m'.visiting = m.visiting) (todo : List α)
    (h : visitAll call todo m = some (true, m')) : m'.visiting = m.visiting := by
  induction todo generalizing m with
  | nil =>
    cases h
    rfl
  | cons a rest ih =>
    obtain ⟨between, hfirst, hrest⟩ := visitAll_cons_true h
    rw [ih hrest]
    exact hcall a m between hfirst

end Calls

section Visit
variable {α : Type*} [DecidableEq α] {next : α → List α} {m m' : Marks α} {a : α} {fuel : Nat}

theorem visit_true_cases (h : visit next (fuel + 1) a m = some (true, m')) :
    (a ∈ m.visited ∧ m' = m) ∨ (a ∉ m.visited ∧ a ∉ m.visiting ∧ ∃ inner,
      visitAll (visit next fuel) (next a) ⟨a :: m.visiting, m.visited⟩ = some (true, inner) ∧
        m' = ⟨inner.visiting.erase a, a :: inner.visited⟩) := by
  unfold visit at h
  split at h
  · rename_i hvisited
    cases h
    exact .inl ⟨hvisited, rfl⟩
  · rename_i hvisited
    split at h
    · cases h
    · rename_i hvisiting
      split at h
      · cases h
      · cases h
      · rename_i inner hinner
        cases h
        exact .inr ⟨hvisited, hvisiting, inner, hinner, rfl⟩

theorem visit_false_cases (h : visit next (fuel + 1) a m = some (false, m')) :
    a ∈ m.visiting ∨
      visitAll (visit next fuel) (next a) ⟨a :: m.visiting, m.visited⟩ = some (false, m') := by
  unfold visit at h
  split at h
  · cases h
  · split at h
    · rename_i hvisiting
      exact .inl hvisiting
    · split at h
      · cases h
      · rename_i hinner
        cases h
        exact .inr hinner
      · cases h

/-- A call that meets no cycle leaves the path as it was. -/
theorem visit_visiting (fuel : Nat) :
    ∀ a m m', visit next fuel a m = some (true, m') → m'.visiting = m.visiting := by
  induction fuel with
  | zero =>
    intro a m m' h
    cases h
  | succ fuel ih =>
    intro a m m' h
    rcases visit_true_cases h with ⟨-, rfl⟩ | ⟨-, -, inner, hinner, rfl⟩
    · rfl
    · have hpath := visitAll_visiting ih _ hinner
      show inner.visiting.erase a = m.visiting
      rw [hpath, List.erase_cons_head]

end Visit

/-! ### Without a cycle -/

/-- No element twice, and each leads to later ones only. -/
def Ordered {α : Type*} (next : α → List α) : List α → Prop
  | [] => True
  | a :: rest => a ∉ rest ∧ (∀ b ∈ next a, b ∈ rest) ∧ Ordered next rest

/-- What successful calls make of the marks. -/
structure Settles {α : Type*} (next : α → List α) (m m' : Marks α) : Prop where
  ordered : Ordered next m'.visited
  kept : ∀ b ∈ m.visited, b ∈ m'.visited
  fresh : ∀ b ∈ m'.visited, b ∈ m.visited ∨ b ∉ m.visiting

section Settled
variable {α : Type*} {next : α → List α} {m m' : Marks α}

theorem settles_refl (h : Ordered next m.visited) : Settles next m m :=
  ⟨h, fun _ hb => hb, fun _ hb => .inl hb⟩

theorem Settles.trans {between : Marks α} (hpath : between.visiting = m.visiting)
    (h : Settles next m between) (h' : Settles next between m') : Settles next m m' := by
  refine ⟨h'.ordered, fun b hb => h'.kept b (h.kept b hb), ?_⟩
  intro b hb
  rcases h'.fresh b hb with hold | hnew
  · exact h.fresh b hold
  · rw [hpath] at hnew
    exact .inr hnew

theorem visitAll_settles {call : α → Marks α → Option (Bool × Marks α)}
    (hpath : ∀ a m m', call a m = some (true, m') → m'.visiting = m.visiting)
    (hcall : ∀ a m m', Ordered next m.visited → call a m = some (true, m') →
      Settles next m m' ∧ a ∈ m'.visited)
    (todo : List α) (hordered : Ordered next m.visited)
    (h : visitAll call todo m = some (true, m')) :
    Settles next m m' ∧ ∀ a ∈ todo, a ∈ m'.visited := by
  induction todo generalizing m with
  | nil =>
    cases h
    refine ⟨settles_refl hordered, ?_⟩
    intro a ha
    cases ha
  | cons a rest ih =>
    obtain ⟨between, hfirst, hrest⟩ := visitAll_cons_true h
    obtain ⟨hsettles, hmem⟩ := hcall a m between hordered hfirst
    obtain ⟨hsettles', hall⟩ := ih hsettles.ordered hrest
    refine ⟨hsettles.trans (hpath a m between hfirst) hsettles', ?_⟩
    intro b hb
    rcases List.mem_cons.mp hb with rfl | hb
    · exact hsettles'.kept b hmem
    · exact hall b hb

variable [DecidableEq α]

theorem visit_settles (fuel : Nat) :
    ∀ a m m', Ordered next m.visited → visit next fuel a m = some (true, m') →
      Settles next m m' ∧ a ∈ m'.visited := by
  induction fuel with
  | zero =>
    intro a m m' _ h
    cases h
  | succ fuel ih =>
    intro a m m' hordered h
    rcases visit_true_cases h with ⟨hvisited, rfl⟩ | ⟨hvisited, hvisiting, inner, hinner, rfl⟩
    · exact ⟨settles_refl hordered, hvisited⟩
    · obtain ⟨hsettles, hall⟩ := visitAll_settles (m := ⟨a :: m.visiting, m.visited⟩)
        (visit_visiting fuel) ih (next a) hordered hinner
      refine ⟨⟨⟨?_, hall, hsettles.ordered⟩, ?_, ?_⟩, List.mem_cons_self⟩
      · -- No nested call is done with an element of the path.
        intro hmem
        rcases hsettles.fresh a hmem with hold | hnew
        · exact hvisited hold
        · exact hnew List.mem_cons_self
      · intro b hb
        exact List.mem_cons_of_mem a (hsettles.kept b hb)
      · intro b hb
        rcases List.mem_cons.mp hb with rfl | hb
        · exact .inr hvisiting
        · rcases hsettles.fresh b hb with hold | hnew
          · exact .inl hold
          · exact .inr fun hpath => hnew (List.mem_cons_of_mem a hpath)

end Settled

/-! ### With a cycle -/

section Cycle
variable {α : Type*} {next : α → List α} {m m' : Marks α}

/-- `b` is one of the elements `a` leads to. -/
def Leads (next : α → List α) (b a : α) : Prop := b ∈ next a

theorem transGen_of_chain {a : α} {path : List α} (h : (a :: path).IsChain (Leads next)) :
    ∀ b ∈ path, Relation.TransGen (Leads next) a b := by
  have hchain : (a :: path).IsChain (Relation.TransGen (Leads next)) :=
    h.imp fun x y hxy => .single hxy
  have hpairs := List.isChain_iff_pairwise.mp hchain
  intro b hb
  exact List.rel_of_pairwise_cons hpairs hb

theorem visitAll_cycle {call : α → Marks α → Option (Bool × Marks α)}
    (hpath : ∀ a m m', call a m = some (true, m') → m'.visiting = m.visiting)
    (hcall : ∀ a m m', (a :: m.visiting).IsChain (Leads next) → call a m = some (false, m') →
      ∃ b, Relation.TransGen (Leads next) b b)
    (todo : List α) (hchain : ∀ a ∈ todo, (a :: m.visiting).IsChain (Leads next))
    (h : visitAll call todo m = some (false, m')) : ∃ b, Relation.TransGen (Leads next) b b := by
  induction todo generalizing m with
  | nil => cases h
  | cons a rest ih =>
    rcases visitAll_cons_false h with hfirst | ⟨between, hfirst, hrest⟩
    · exact hcall a m m' (hchain a List.mem_cons_self) hfirst
    · apply ih _ hrest
      rw [hpath a m between hfirst]
      intro b hb
      exact hchain b (List.mem_cons_of_mem a hb)

variable [DecidableEq α]

theorem visit_cycle (fuel : Nat) :
    ∀ a m m', (a :: m.visiting).IsChain (Leads next) → visit next fuel a m = some (false, m') →
      ∃ b, Relation.TransGen (Leads next) b b := by
  induction fuel with
  | zero =>
    intro a m m' _ h
    cases h
  | succ fuel ih =>
    intro a m m' hchain h
    rcases visit_false_cases h with hvisiting | hinner
    · exact ⟨a, transGen_of_chain hchain a hvisiting⟩
    · apply visitAll_cycle (visit_visiting fuel) ih (next a) _ hinner
      intro b hb
      exact hchain.cons_cons hb

end Cycle

/-! ### Enough fuel -/

section Fuel
variable {α : Type*} {next : α → List α} {m : Marks α}

theorem visitAll_isSome {call : α → Marks α → Option (Bool × Marks α)}
    (hpath : ∀ a m m', call a m = some (true, m') → m'.visiting = m.visiting) (todo : List α)
    (hcall : ∀ a ∈ todo, ∀ m' : Marks α, m'.visiting = m.visiting → (call a m').isSome) :
    (visitAll call todo m).isSome := by
  induction todo generalizing m with
  | nil => rfl
  | cons a rest ih =>
    have hfirst := hcall a List.mem_cons_self m rfl
    unfold visitAll
    split
    · rename_i hnone
      rw [hnone] at hfirst
      cases hfirst
    · rfl
    · rename_i between hsome
      apply ih
      intro b hb m' hm'
      exact hcall b (List.mem_cons_of_mem a hb) m' (hm'.trans (hpath a m between hsome))

variable [DecidableEq α] {nodes : List α}

/-- Every nested call has one element more on its path. -/
theorem visit_isSome (hinside : ∀ a, ∀ b ∈ next a, b ∈ nodes) (fuel : Nat) :
    ∀ (a : α) (m : Marks α), a ∈ nodes → m.visiting.Nodup → m.visiting ⊆ nodes →
      nodes.length < fuel + m.visiting.length → (visit next fuel a m).isSome := by
  induction fuel with
  | zero =>
    intro a m _ hnodup hsubset hfuel
    have hle := (List.subperm_of_subset hnodup hsubset).length_le
    omega
  | succ fuel ih =>
    intro a m ha hnodup hsubset hfuel
    unfold visit
    split
    · rfl
    · split
      · rfl
      · rename_i hvisiting
        have hinner :
            (visitAll (visit next fuel) (next a) ⟨a :: m.visiting, m.visited⟩).isSome := by
          apply visitAll_isSome (visit_visiting fuel)
          intro b hb m' hm'
          apply ih b m' (hinside a b hb)
          · rw [hm']
            exact List.nodup_cons.mpr ⟨hvisiting, hnodup⟩
          · rw [hm']
            exact List.cons_subset.mpr ⟨ha, hsubset⟩
          · rw [hm', List.length_cons]
            omega
        split
        · rename_i hnone
          rw [hnone] at hinner
          cases hinner
        · rfl
        · rfl

end Fuel

/-! ### The whole search -/

section Whole
variable {α : Type*} {next : α → List α} {nodes : List α}

theorem nodup_of_ordered {order : List α} (h : Ordered next order) : order.Nodup := by
  induction order with
  | nil => exact List.nodup_nil
  | cons first rest ih => exact List.nodup_cons.mpr ⟨h.1, ih h.2.2⟩

theorem leads_later {order before after : List α} {a : α} (h : Ordered next order)
    (horder : order = before ++ a :: after) : ∀ b ∈ next a, b ∈ after := by
  subst horder
  induction before with
  | nil => exact h.2.1
  | cons first before ih => exact ih h.2.2

theorem not_cycle_of_acc {r : α → α → Prop} {a : α} (h : Acc r a) : ¬ Relation.TransGen r a a := by
  have hacc := h.transGen
  clear h
  induction hacc with
  | intro a _ ih =>
    intro hcycle
    exact ih a hcycle hcycle

variable [DecidableEq α]

/-- With one step of fuel more than there are elements the search ends, and it either leaves
all of them in order or has met a cycle. -/
theorem search_cases (hinside : ∀ a, ∀ b ∈ next a, b ∈ nodes) {fuel : Nat}
    (hfuel : nodes.length < fuel) :
    (∃ m, visitAll (visit next fuel) nodes ⟨[], []⟩ = some (true, m) ∧ Ordered next m.visited ∧
      ∀ a ∈ nodes, a ∈ m.visited) ∨
    (∃ m, visitAll (visit next fuel) nodes ⟨[], []⟩ = some (false, m)) ∧
      ∃ a, Relation.TransGen (Leads next) a a := by
  have hsome : (visitAll (visit next fuel) nodes ⟨[], []⟩).isSome := by
    apply visitAll_isSome (visit_visiting fuel)
    intro a ha m hm
    apply visit_isSome hinside fuel a m ha
    · rw [hm]
      exact List.nodup_nil
    · rw [hm]
      exact List.nil_subset _
    · rw [hm]
      exact hfuel
  obtain ⟨⟨ok, m⟩, hsearch⟩ := Option.isSome_iff_exists.mp hsome
  cases ok with
  | true =>
    obtain ⟨hsettles, hall⟩ :=
      visitAll_settles (m := ⟨[], []⟩) (visit_visiting fuel) (visit_settles fuel) nodes trivial
        hsearch
    exact .inl ⟨m, hsearch, hsettles.ordered, hall⟩
  | false =>
    refine .inr ⟨⟨m, hsearch⟩, ?_⟩
    exact visitAll_cycle (visit_visiting fuel) (visit_cycle fuel) nodes
      (fun a _ => List.isChain_singleton a) hsearch

end Whole

end DepthFirst
