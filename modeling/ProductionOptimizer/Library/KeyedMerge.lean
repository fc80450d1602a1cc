import Mathlib.Data.List.Sort
import Mathlib.Algebra.BigOperators.Group.List.Basic
import Mathlib.Algebra.Order.Group.Nat
import Mathlib.Data.Multiset.OrderedMonoid
import Mathlib.Algebra.GroupWithZero.Nat

/-!
# Merging keyed values

Values with a key and a content are merged into the list of their last representatives, in
the order of the keys; two values with one key and different contents are a conflict. The
result depends on which values are merged, not on their order, their number of occurrences
or the way the merges are grouped.
-/

namespace KeyedMerge
set_option autoImplicit false

universe u v w

/-- Contributions and how their merges are nested. -/
inductive Grouping (U : Type u) where
  | one (update : U)
  | both (left right : Grouping U)

namespace Grouping
variable {U : Type u}

def leaves : Grouping U → List U
  | one update => [update]
  | both left right => left.leaves ++ right.leaves

/-- The value of a grouping under a partial merge. -/
def eval (merge : U → U → Option U) : Grouping U → Option U
  | one update => some update
  | both left right =>
    match left.eval merge, right.eval merge with
    | some a, some b => merge a b
    | _, _ => none

end Grouping

section Sorted
variable {α : Type u} {κ : Type v} [LinearOrder κ] {key : α → κ}

/-- `out` lists the values `xs` in the order of their keys, none twice. -/
structure Lists (key : α → κ) (out xs : List α) : Prop where
  sorted : out.Pairwise fun x y => key x < key y
  mem_iff : ∀ x, x ∈ out ↔ x ∈ xs

theorem Lists.nodup {out xs : List α} (h : Lists key out xs) : out.Nodup := by
  apply h.sorted.imp
  rintro x y hlt rfl
  exact absurd hlt (lt_irrefl _)

theorem Lists.keys_nodup {out xs : List α} (h : Lists key out xs) : (out.map key).Nodup := by
  apply List.pairwise_map.mpr
  exact h.sorted.imp ne_of_lt

/-- A set of values is listed in one way only. -/
theorem Lists.unique {out out' xs xs' : List α} (h : Lists key out xs) (h' : Lists key out' xs')
    (hmem : ∀ x, x ∈ xs ↔ x ∈ xs') : out = out' := by
  have hperm : out.Perm out' := by
    apply (List.perm_ext_iff_of_nodup h.nodup h'.nodup).mpr
    intro x
    rw [h.mem_iff, h'.mem_iff, hmem]
  apply hperm.eq_of_pairwise ?_ h.sorted h'.sorted
  intro x y _ _ hxy hyx
  exact absurd (hxy.trans hyx) (lt_irrefl _)

/-- Sorting by key lists values of distinct keys. -/
theorem lists_insertionSort {xs : List α} (hkeys : (xs.map key).Nodup) :
    Lists key (xs.insertionSort fun x y => key x ≤ key y) xs := by
  have hperm := xs.perm_insertionSort fun x y => key x ≤ key y
  have htotal : Std.Total fun x y : α => key x ≤ key y := ⟨fun x y => le_total (key x) (key y)⟩
  have htrans : IsTrans α fun x y => key x ≤ key y := ⟨fun _ _ _ => le_trans⟩
  have hsorted := List.pairwise_insertionSort (fun x y : α => key x ≤ key y) xs
  have hdistinct : (xs.insertionSort fun x y => key x ≤ key y).Pairwise fun x y => key x ≠ key y :=
    List.pairwise_map.mp ((hperm.map key).nodup_iff.mpr hkeys)
  refine ⟨(hsorted.and hdistinct).imp fun h => lt_of_le_of_ne h.1 h.2, fun x => hperm.mem_iff⟩

end Sorted

section Conflicts
variable {α : Type u} {κ : Type v} {δ : Type w}

/-- Two values with one key and different contents. -/
def Conflict (key : α → κ) (content : α → δ) (xs : List α) : Prop :=
  ∃ x ∈ xs, ∃ y ∈ xs, key x = key y ∧ content x ≠ content y

/-- Key and content tell the value. -/
def Determined (key : α → κ) (content : α → δ) (xs : List α) : Prop :=
  ∀ x ∈ xs, ∀ y ∈ xs, key x = key y → content x = content y → x = y

/-- The dict `merged` holds the values `ys`. -/
structure Represents (key : α → κ) (merged ys : List α) : Prop where
  keys : (merged.map key).Nodup
  mem_iff : ∀ x, x ∈ merged ↔ x ∈ ys

variable {key : α → κ} {content : α → δ}

theorem Conflict.mono {xs ys : List α} (h : Conflict key content xs) (hsub : ∀ x ∈ xs, x ∈ ys) :
    Conflict key content ys := by
  obtain ⟨x, hx, y, hy, hkey, hcontent⟩ := h
  exact ⟨x, hsub x hx, y, hsub y hy, hkey, hcontent⟩

theorem Determined.mono {xs ys : List α} (h : Determined key content ys) (hsub : ∀ x ∈ xs, x ∈ ys) :
    Determined key content xs :=
  fun x hx y hy => h x (hsub x hx) y (hsub y hy)

theorem Represents.not_conflict {merged ys : List α} (h : Represents key merged ys) :
    ¬ Conflict key content ys := by
  rintro ⟨x, hx, y, hy, hkey, hcontent⟩
  have heq : x = y :=
    List.inj_on_of_nodup_map h.keys ((h.mem_iff x).mpr hx) ((h.mem_iff y).mpr hy) hkey
  exact hcontent (congrArg content heq)

end Conflicts

section Merge
variable {α : Type u} {κ : Type v} {δ : Type w} [LinearOrder κ] [DecidableEq δ]
variable (key : α → κ) (content : α → δ)

/-- One value goes into a dict with the key as its key: a later value replaces an equal one. -/
def put (merged : List α) (x : α) : Option (List α) :=
  match merged.find? (key · = key x) with
  | some existing =>
    if content existing = content x then some (merged.map fun y => if key y = key x then x else y)
    else none
  | none => some (merged ++ [x])

def mergeSorted (left right : List α) : Option (List α) :=
  ((left ++ right).foldlM (put key content) []).map fun merged =>
    merged.insertionSort fun x y => key x ≤ key y

variable {key content}

theorem put_spec {merged ys : List α} {x : α} (h : Represents key merged ys)
    (hdet : Determined key content (ys ++ [x])) :
    (put key content merged x = none ∧ Conflict key content (ys ++ [x])) ∨
      ∃ merged', put key content merged x = some merged' ∧ Represents key merged' (ys ++ [x]) := by
  have hlast : x ∈ ys ++ [x] := List.mem_append_right _ List.mem_cons_self
  unfold put
  cases hfind : merged.find? (key · = key x) with
  | none =>
    right
    refine ⟨merged ++ [x], rfl, ?_, fun y => ?_⟩
    · have hnew : key x ∉ merged.map key := by
        intro hmem
        obtain ⟨y, hy, hkey⟩ := List.mem_map.mp hmem
        have hno := List.find?_eq_none.mp hfind y hy
        exact hno (decide_eq_true hkey)
      rw [List.map_append, List.map_singleton]
      exact List.nodup_append.mpr ⟨h.keys, List.nodup_singleton _, by
        rintro k hk _ hk' rfl
        rw [List.mem_singleton] at hk'
        exact hnew (hk' ▸ hk)⟩
    · rw [List.mem_append, List.mem_append, h.mem_iff]
  | some existing =>
    have hmem : existing ∈ merged := List.mem_of_find?_eq_some hfind
    have hkey : key existing = key x := by
      have hp := List.find?_some hfind
      exact of_decide_eq_true hp
    have hold : existing ∈ ys ++ [x] := List.mem_append_left _ ((h.mem_iff existing).mp hmem)
    dsimp only
    by_cases hcontent : content existing = content x
    · -- an equal value is put in its own place
      right
      have heq : existing = x := hdet existing hold x hlast hkey hcontent
      subst heq
      have hsame : (merged.map fun y => if key y = key existing then existing else y) = merged := by
        refine (List.map_congr_left fun y hy => ?_).trans (List.map_id merged)
        split
        · rename_i hky
          exact (List.inj_on_of_nodup_map h.keys hy hmem hky).symm
        · rfl
      rw [if_pos hcontent, hsame]
      refine ⟨merged, rfl, h.keys, fun y => ?_⟩
      rw [h.mem_iff, List.mem_append, List.mem_singleton]
      constructor
      · exact Or.inl
      · rintro (hy | rfl)
        · exact hy
        · exact (h.mem_iff _).mp hmem
    · left
      rw [if_neg hcontent]
      exact ⟨rfl, existing, hold, x, hlast, hkey, hcontent⟩

theorem foldlM_put_spec {merged ys xs : List α} (h : Represents key merged ys)
    (hdet : Determined key content (ys ++ xs)) :
    (xs.foldlM (put key content) merged = none ∧ Conflict key content (ys ++ xs)) ∨
      ∃ out, xs.foldlM (put key content) merged = some out ∧ Represents key out (ys ++ xs) := by
  induction xs generalizing merged ys with
  | nil =>
    rw [List.append_nil]
    exact Or.inr ⟨merged, rfl, h⟩
  | cons x xs ih =>
    have hsplit : ys ++ x :: xs = ys ++ [x] ++ xs := by simp
    rw [hsplit] at hdet ⊢
    have hhead : Determined key content (ys ++ [x]) :=
      hdet.mono fun y hy => List.mem_append_left _ hy
    rcases put_spec h hhead with ⟨hnone, hconflict⟩ | ⟨merged', hput, hrep⟩
    · left
      refine ⟨?_, hconflict.mono fun y hy => List.mem_append_left _ hy⟩
      rw [List.foldlM_cons, hnone]
      rfl
    · rw [List.foldlM_cons, hput]
      exact ih hrep hdet

/-- A merge raises exactly on a conflict and otherwise lists what it was given. -/
theorem mergeSorted_spec {left right : List α} (hdet : Determined key content (left ++ right)) :
    (mergeSorted key content left right = none ∧ Conflict key content (left ++ right)) ∨
      (¬ Conflict key content (left ++ right) ∧
        ∃ out, mergeSorted key content left right = some out ∧ Lists key out (left ++ right)) := by
  have hempty : Represents key ([] : List α) [] := ⟨List.nodup_nil, fun _ => Iff.rfl⟩
  have hall : Determined key content ([] ++ (left ++ right)) := hdet
  unfold mergeSorted
  rcases foldlM_put_spec hempty hall with ⟨hnone, hconflict⟩ | ⟨out, hout, hrep⟩
  · rw [hnone]
    exact Or.inl ⟨rfl, hconflict⟩
  · rw [hout]
    have hlists := lists_insertionSort hrep.keys
    exact Or.inr ⟨hrep.not_conflict, _, rfl, hlists.sorted,
      fun x => (hlists.mem_iff x).trans (hrep.mem_iff x)⟩

/-- `out` holds nothing but the values `xs`, and each of them up to what key and content do not
tell. -/
structure Gathers (key : α → κ) (content : α → δ) (out xs : List α) : Prop where
  mem : ∀ y ∈ out, y ∈ xs
  kept : ∀ y ∈ xs, ∃ z ∈ out, key z = key y ∧ content z = content y

theorem gathers_put {merged out : List α} {x : α} (hkeys : (merged.map key).Nodup)
    (h : put key content merged x = some out) :
    (out.map key).Nodup ∧ Gathers key content out (merged ++ [x]) := by
  unfold put at h
  split at h
  · rename_i existing hfind
    have hmem := List.mem_of_find?_eq_some hfind
    have hkey : key existing = key x := by
      have hp := List.find?_some hfind
      exact of_decide_eq_true hp
    split at h
    · rename_i hcontent
      cases h
      have hsame : (merged.map fun y => if key y = key x then x else y).map key =
          merged.map key := by
        rw [List.map_map]
        refine List.map_congr_left fun y _ => ?_
        by_cases hy : key y = key x <;> simp [hy]
      refine ⟨hsame ▸ hkeys, fun y hy => ?_, fun y hy => ?_⟩
      · obtain ⟨z, hz, rfl⟩ := List.mem_map.mp hy
        split
        · exact List.mem_append_right _ (List.mem_singleton_self x)
        · exact List.mem_append_left _ hz
      · have hput : x ∈ merged.map fun y => if key y = key x then x else y :=
          List.mem_map.mpr ⟨existing, hmem, if_pos hkey⟩
        rcases List.mem_append.mp hy with hy | hy
        · by_cases hyx : key y = key x
          · have heq := List.inj_on_of_nodup_map hkeys hy hmem (hyx.trans hkey.symm)
            exact ⟨x, hput, hyx.symm, heq ▸ hcontent.symm⟩
          · exact ⟨y, List.mem_map.mpr ⟨y, hy, if_neg hyx⟩, rfl, rfl⟩
        · cases List.mem_singleton.mp hy
          exact ⟨x, hput, rfl, rfl⟩
    · cases h
  · rename_i hfind
    cases h
    refine ⟨?_, fun y hy => hy, fun y hy => ⟨y, hy, rfl, rfl⟩⟩
    rw [List.map_append, List.map_singleton, ← List.concat_eq_append]
    refine hkeys.concat fun hmem => ?_
    obtain ⟨y, hy, hkey⟩ := List.mem_map.mp hmem
    exact List.find?_eq_none.mp hfind y hy (decide_eq_true hkey)

theorem gathers_foldlM {merged out xs : List α} (hkeys : (merged.map key).Nodup)
    (h : xs.foldlM (put key content) merged = some out) :
    Gathers key content out (merged ++ xs) := by
  induction xs generalizing merged with
  | nil =>
    cases h
    exact ⟨fun y hy => by simpa using hy, fun y hy => ⟨y, by simpa using hy, rfl, rfl⟩⟩
  | cons x xs ih =>
    rw [List.foldlM_cons] at h
    obtain ⟨merged', hput, h⟩ := Option.bind_eq_some_iff.mp h
    obtain ⟨hkeys', hgathers⟩ := gathers_put hkeys hput
    have hrest := ih hkeys' h
    refine ⟨fun y hy => ?_, fun y hy => ?_⟩
    · rcases List.mem_append.mp (hrest.mem y hy) with hy | hy
      · rcases List.mem_append.mp (hgathers.mem y hy) with hy | hy
        · exact List.mem_append_left _ hy
        · exact List.mem_append_right _ (List.mem_cons.mpr (Or.inl (List.mem_singleton.mp hy)))
      · exact List.mem_append_right _ (List.mem_cons_of_mem _ hy)
    · rw [← List.singleton_append, ← List.append_assoc] at hy
      rcases List.mem_append.mp hy with hy | hy
      · obtain ⟨z, hz, hkey, hcontent⟩ := hgathers.kept y hy
        obtain ⟨w, hw, hkey', hcontent'⟩ := hrest.kept z (List.mem_append_left _ hz)
        exact ⟨w, hw, hkey'.trans hkey, hcontent'.trans hcontent⟩
      · exact hrest.kept y (List.mem_append_right _ hy)

theorem gathers_mergeSorted {left right out : List α}
    (h : mergeSorted key content left right = some out) :
    Gathers key content out (left ++ right) := by
  obtain ⟨merged, hfold, rfl⟩ := Option.map_eq_some_iff.mp h
  have hempty : (([] : List α).map key).Nodup := List.nodup_nil
  have hgathers := gathers_foldlM hempty hfold
  have hperm := merged.perm_insertionSort fun x y => key x ≤ key y
  refine ⟨fun y hy => hgathers.mem y (hperm.mem_iff.mp hy), fun y hy => ?_⟩
  obtain ⟨z, hz, hsame⟩ := hgathers.kept y hy
  exact ⟨z, hperm.mem_iff.mpr hz, hsame⟩

end Merge

section Groupings
variable {U : Type u} {α : Type v} {κ : Type w} {δ : Type*} [LinearOrder κ]

/-- What a reducer does with two values of its channel: it raises exactly on a conflict and
otherwise lists the members of both. -/
structure Reducer (members : U → List α) (key : α → κ) (content : α → δ)
    (merge : U → U → Option U) : Prop where
  injective : Function.Injective members
  spec : ∀ a b, Determined key content (members a ++ members b) →
    (merge a b = none ∧ Conflict key content (members a ++ members b)) ∨
      (¬ Conflict key content (members a ++ members b) ∧
        ∃ out, merge a b = some out ∧ Lists key (members out) (members a ++ members b))

variable {members : U → List α} {key : α → κ} {content : α → δ} {merge : U → U → Option U}

/-- Everything that is merged in a grouping. -/
def Grouping.all (members : U → List α) (g : Grouping U) : List α := g.leaves.flatMap members

theorem Grouping.all_both (l r : Grouping U) :
    (Grouping.both l r).all members = l.all members ++ r.all members := by
  unfold Grouping.all
  rw [Grouping.leaves, List.flatMap_append]

theorem Grouping.mem_all_of_perm {g g' : Grouping U} (h : g.leaves.Perm g'.leaves) (x : α) :
    x ∈ g.all members ↔ x ∈ g'.all members :=
  (h.flatMap_right members).mem_iff

theorem Grouping.eval_both_some {l r : Grouping U} {out : U}
    (h : (Grouping.both l r).eval merge = some out) :
    ∃ a b, l.eval merge = some a ∧ r.eval merge = some b ∧ merge a b = some out := by
  unfold Grouping.eval at h
  split at h
  · rename_i a b hl hr
    exact ⟨a, b, hl, hr, h⟩
  · cases h

namespace Reducer
variable (hred : Reducer members key content merge)
include hred

theorem eval_spec (g : Grouping U) (hdet : Determined key content (g.all members)) :
    (g.eval merge = none → Conflict key content (g.all members)) ∧
      ∀ out, g.eval merge = some out → ∀ x, x ∈ members out ↔ x ∈ g.all members := by
  induction g with
  | one update =>
    have hall : (Grouping.one update).all members = members update := List.flatMap_singleton _ _
    refine ⟨fun h => (Option.some_ne_none _ h).elim, fun out hout x => ?_⟩
    cases hout
    rw [hall]
  | both l r ihl ihr =>
    rw [Grouping.all_both] at hdet ⊢
    have hl := ihl (hdet.mono fun x hx => List.mem_append_left _ hx)
    have hr := ihr (hdet.mono fun x hx => List.mem_append_right _ hx)
    unfold Grouping.eval
    cases hel : l.eval merge with
    | none =>
      refine ⟨fun _ => (hl.1 hel).mono fun x hx => List.mem_append_left _ hx, fun out hout => ?_⟩
      cases hout
    | some a =>
      cases her : r.eval merge with
      | none =>
        refine ⟨fun _ => (hr.1 her).mono fun x hx => List.mem_append_right _ hx, fun out hout => ?_⟩
        cases hout
      | some b =>
        have hmem : ∀ x, x ∈ members a ++ members b ↔ x ∈ l.all members ++ r.all members := by
          intro x
          rw [List.mem_append, List.mem_append, hl.2 a hel, hr.2 b her]
        have hdet' := hdet.mono fun x hx => (hmem x).mp hx
        rcases hred.spec a b hdet' with ⟨hnone, hconflict⟩ | ⟨_, out, hout, hlists⟩
        · refine ⟨fun _ => hconflict.mono fun x hx => (hmem x).mp hx, fun out hout => ?_⟩
          cases hnone.symm.trans hout
        · refine ⟨fun hnone => ?_, fun out' hout' x => ?_⟩
          · cases hout.symm.trans hnone
          · cases hout.symm.trans hout'
            exact (hlists.mem_iff x).trans (hmem x)

/-- The value of a nested merge: none on a conflict, else the members of all contributions in
the order of their keys. -/
theorem eval_both_spec (l r : Grouping U)
    (hdet : Determined key content ((Grouping.both l r).all members)) :
    ((Grouping.both l r).eval merge = none ∧
        Conflict key content ((Grouping.both l r).all members)) ∨
      (¬ Conflict key content ((Grouping.both l r).all members) ∧
        ∃ out, (Grouping.both l r).eval merge = some out ∧
          Lists key (members out) ((Grouping.both l r).all members)) := by
  cases he : (Grouping.both l r).eval merge with
  | none => exact Or.inl ⟨rfl, (hred.eval_spec _ hdet).1 he⟩
  | some out =>
    right
    obtain ⟨a, b, hel, her, hab⟩ := Grouping.eval_both_some he
    rw [Grouping.all_both] at hdet ⊢
    have hl := (hred.eval_spec l (hdet.mono fun x hx => List.mem_append_left _ hx)).2 a hel
    have hr := (hred.eval_spec r (hdet.mono fun x hx => List.mem_append_right _ hx)).2 b her
    have hmem : ∀ x, x ∈ members a ++ members b ↔ x ∈ l.all members ++ r.all members := by
      intro x
      rw [List.mem_append, List.mem_append, hl, hr]
    rcases hred.spec a b (hdet.mono fun x hx => (hmem x).mp hx) with
      ⟨hnone, _⟩ | ⟨hfree, out', hout', hlists⟩
    · cases hnone.symm.trans hab
    · cases hout'.symm.trans hab
      refine ⟨fun hconflict => hfree (hconflict.mono fun x hx => (hmem x).mpr hx), out, rfl,
        hlists.sorted, fun x => (hlists.mem_iff x).trans (hmem x)⟩

theorem eval_eq_none_iff (l r : Grouping U)
    (hdet : Determined key content ((Grouping.both l r).all members)) :
    (Grouping.both l r).eval merge = none ↔
      Conflict key content ((Grouping.both l r).all members) := by
  rcases hred.eval_both_spec l r hdet with ⟨hnone, hconflict⟩ | ⟨hfree, out, hout, _⟩
  · exact ⟨fun _ => hconflict, fun _ => hnone⟩
  · exact ⟨fun hnone => (Option.some_ne_none out (hout.symm.trans hnone)).elim,
      fun hconflict => absurd hconflict hfree⟩

/-- Two nested merges of the same members have the same value. -/
theorem eval_congr {l r l' r' : Grouping U}
    (hdet : Determined key content ((Grouping.both l r).all members))
    (hmem : ∀ x, x ∈ (Grouping.both l r).all members ↔ x ∈ (Grouping.both l' r').all members) :
    (Grouping.both l r).eval merge = (Grouping.both l' r').eval merge := by
  have hdet' := hdet.mono fun x hx => (hmem x).mpr hx
  rcases hred.eval_both_spec l r hdet with ⟨hnone, hconflict⟩ | ⟨hfree, out, hout, hlists⟩
  · have hconflict' := hconflict.mono fun x hx => (hmem x).mp hx
    rw [hnone, (hred.eval_eq_none_iff l' r' hdet').mpr hconflict']
  · rcases hred.eval_both_spec l' r' hdet' with ⟨_, hconflict'⟩ | ⟨_, out', hout', hlists'⟩
    · exact absurd (hconflict'.mono fun x hx => (hmem x).mpr hx) hfree
    · rw [hout, hout', hred.injective (hlists.unique hlists' hmem)]

/-- Merging a value that was merged from `s` into `s` again changes nothing. -/
theorem merge_absolute {s final : U} {d : Grouping U}
    (hdet : Determined key content ((Grouping.both (.one s) d).all members))
    (hfinal : (Grouping.both (.one s) d).eval merge = some final) : merge s final = some final := by
  have hmem := (hred.eval_spec _ hdet).2 final hfinal
  have hall : ∀ x, x ∈ (Grouping.both (.one s) d).all members ↔
      x ∈ (Grouping.both (.one s) (.one final)).all members := by
    intro x
    have hs : (Grouping.one s).all members = members s := List.flatMap_singleton _ _
    have hf : (Grouping.one final).all members = members final := List.flatMap_singleton _ _
    rw [Grouping.all_both (.one s) (.one final), hs, hf, List.mem_append, hmem x,
      Grouping.all_both, hs, List.mem_append]
    tauto
  exact (hred.eval_congr hdet hall).symm.trans hfinal

end Reducer

end Groupings

/-! ### Values under numbers -/

section Sums
variable {α : Type u} {key : α → ℕ}

theorem sum_map_range_single {n k : ℕ} (hk : k < n) (v : ℕ) :
    ((List.range n).map fun i => if k = i then v else 0).sum = v := by
  induction n with
  | zero => omega
  | succ n ih =>
    rw [List.range_succ, List.map_append, List.sum_append]
    by_cases hlast : k = n
    · have hzero : ((List.range n).map fun i => if k = i then v else 0).sum = 0 := by
        apply List.sum_eq_zero
        intro x hx
        obtain ⟨i, hi, rfl⟩ := List.mem_map.mp hx
        have hlt := List.mem_range.mp hi
        rw [if_neg (by omega)]
      rw [hzero]
      simp [hlast]
    · rw [ih (by omega)]
      simp [hlast]

/-- Summing by number counts every value of a list once, if the numbers are below `n` and
no two values share one. -/
theorem sum_map_range_find {l : List α} {n : ℕ} (hkeys : (l.map key).Nodup)
    (hlt : ∀ x ∈ l, key x < n) (f : α → ℕ) :
    ((List.range n).map fun i => ((l.find? (key · == i)).map f).getD 0).sum = (l.map f).sum := by
  induction l with
  | nil => simp
  | cons x l ih =>
    obtain ⟨hx, hl⟩ := List.nodup_cons.mp hkeys
    obtain ⟨hxlt, hllt⟩ := List.forall_mem_cons.mp hlt
    have hsplit : ∀ i, (((x :: l).find? (key · == i)).map f).getD 0 =
        (if key x = i then f x else 0) + ((l.find? (key · == i)).map f).getD 0 := by
      intro i
      by_cases hi : key x = i
      · have hnone : l.find? (key · == i) = none := by
          rw [List.find?_eq_none]
          intro y hy hyi
          apply hx
          rw [hi, ← beq_iff_eq.mp hyi]
          exact List.mem_map_of_mem hy
        simp [hi, hnone]
      · simp [hi]
    simp only [hsplit, List.sum_map_add, sum_map_range_single hxlt, ih hl hllt, List.map_cons,
      List.sum_cons]

end Sums

end KeyedMerge
