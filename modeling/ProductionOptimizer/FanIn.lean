import Mathlib.Data.Prod.Lex
import Mathlib.Data.List.Dedup
import Mathlib.Data.String.Basic
import Mathlib.Algebra.Order.Ring.Rat
import Mathlib.Tactic.FieldSimp
import ProductionOptimizer.Contracts.Nodes
import ProductionOptimizer.Library.KeyedMerge

/-!
# The reducers at a fan-in

The reducers of `artifact_refs`, `completed_nodes` and `node_routes`, with the order of what
they return. Parallel branches may arrive in any order, merged one by one or in groups, and a
subgraph returns the whole value of a channel and not only what it added.
-/

namespace ProductionOptimizer.FanIn
open KeyedMerge
set_option autoImplicit false

/-! ### `merge_artifact_refs` -/

structure ArtifactRef where
  artifactType : String
  schemaVersion : String
  artifactId : String
  contentDigest : String
  uri : String
  deriving DecidableEq, Repr

def ArtifactRef.key (ref : ArtifactRef) : String ×ₗ String :=
  toLex (ref.artifactType, ref.artifactId)

def mergeArtifactRefs : List ArtifactRef → List ArtifactRef → Option (List ArtifactRef) :=
  mergeSorted ArtifactRef.key ArtifactRef.contentDigest

theorem reducer_artifactRefs :
    Reducer id ArtifactRef.key ArtifactRef.contentDigest mergeArtifactRefs where
  injective := Function.injective_id
  spec _ _ hdet := mergeSorted_spec hdet

/-! ### `merge_node_ids` -/

/-- The digits between the letter of a stage and the dot. -/
def stageNumber : Stage → Nat
  | .A1 => 1
  | .A2 => 2
  | .A3 => 3
  | .B1 => 1
  | .B2 => 2
  | .C0 => 0
  | .S01 => 1
  | .S02 => 2
  | .S03 => 3
  | .S04 => 4
  | .S05 => 5
  | .S06 => 6
  | .S07 => 7

/-- `float(value[1:])`: the number of a node is read as decimals. -/
def nodeValue (n : NodeId) : ℚ := stageNumber n.stage + n.number / 10 ^ n.number.repr.length

def sortKey (n : NodeId) : String ×ₗ ℚ := toLex (n.stage.name, nodeValue n)

/-- The order in which a set is iterated. -/
structure SetOrder where
  iterate : List NodeId → List NodeId
  perm : ∀ xs, (iterate xs).Perm xs

def mergeNodeIds (order : SetOrder) (left right : List NodeId) : Option (List NodeId) :=
  some ((order.iterate (left ++ right).dedup).insertionSort fun x y => sortKey x ≤ sortKey y)

/-- As every id of the catalog: `A1.10` to `S07.90`. -/
def TwoDigits (n : NodeId) : Prop := 10 ≤ n.number ∧ n.number < 100

theorem length_repr_of_twoDigits {n : NodeId} (h : TwoDigits n) : n.number.repr.length = 2 := by
  have hall : ∀ k < 100, 10 ≤ k → k.repr.length = 2 := by decide +kernel
  exact hall n.number h.2 h.1

/-- Numbers of one length are told apart by the decimals. -/
theorem sortKey_injOn {m n : NodeId} (hm : TwoDigits m) (hn : TwoDigits n)
    (h : sortKey m = sortKey n) : m = n := by
  obtain ⟨hname, hvalue⟩ := Prod.mk.inj (toLex.injective h)
  have hstage : m.stage = n.stage := Stage.name_injective hname
  unfold nodeValue at hvalue
  rw [hstage, length_repr_of_twoDigits hm, length_repr_of_twoDigits hn] at hvalue
  have hnumber : (m.number : ℚ) = n.number := by
    have hfraction := add_left_cancel hvalue
    field_simp at hfraction
    exact hfraction
  cases m
  cases n
  simp_all

theorem reducer_nodeIds (order : SetOrder) :
    Reducer id sortKey (fun _ => ()) (mergeNodeIds order) where
  injective := Function.injective_id
  spec left right hdet := by
    right
    have hkeys : ((order.iterate (left ++ right).dedup).map sortKey).Nodup := by
      apply ((order.perm _).map sortKey).nodup_iff.mpr
      apply List.Nodup.map_on _ (List.nodup_dedup _)
      intro x hx y hy hkey
      exact hdet x (List.mem_dedup.mp hx) y (List.mem_dedup.mp hy) hkey rfl
    have hlists := lists_insertionSort hkeys
    refine ⟨?_, _, rfl, hlists.sorted, fun x => ?_⟩
    · rintro ⟨x, _, y, _, _, hne⟩
      exact hne rfl
    · exact (hlists.mem_iff x).trans ((order.perm _).mem_iff.trans List.mem_dedup)

/-! ### `merge_node_routes` -/

/-- The items of a dict. -/
structure RouteDict where
  items : List (String × NodeRoute)
  distinct : (items.map Prod.fst).Nodup

theorem RouteDict.items_injective : Function.Injective RouteDict.items := by
  rintro ⟨items, _⟩ ⟨items', _⟩ rfl
  rfl

/-- A pair is told by its two parts. -/
theorem determined_items (items : List (String × NodeRoute)) :
    Determined Prod.fst Prod.snd items := fun _ _ _ _ hkey hroute => Prod.ext hkey hroute

theorem RouteDict.represents (d : RouteDict) : Represents Prod.fst d.items d.items :=
  ⟨d.distinct, fun _ => Iff.rfl⟩

/-- `merged = dict(left)`, then the routes of `right` one by one. -/
def putAll (left right : RouteDict) : Option (List (String × NodeRoute)) :=
  right.items.foldlM (put Prod.fst Prod.snd) left.items

theorem putAll_spec (left right : RouteDict) :
    (putAll left right = none ∧ Conflict Prod.fst Prod.snd (left.items ++ right.items)) ∨
      ∃ merged, putAll left right = some merged ∧
        Represents Prod.fst merged (left.items ++ right.items) :=
  foldlM_put_spec left.represents (determined_items _)

theorem distinct_of_putAll {left right : RouteDict} {merged : List (String × NodeRoute)}
    (h : putAll left right = some merged) :
    ((merged.insertionSort fun x y => x.1 ≤ y.1).map Prod.fst).Nodup := by
  rcases putAll_spec left right with ⟨hnone, _⟩ | ⟨merged', hmerged, hrep⟩
  · cases hnone.symm.trans h
  · cases hmerged.symm.trans h
    exact (lists_insertionSort hrep.keys).keys_nodup

def mergeNodeRoutes (left right : RouteDict) : Option RouteDict :=
  match h : putAll left right with
  | none => none
  | some merged => some ⟨merged.insertionSort fun x y => x.1 ≤ y.1, distinct_of_putAll h⟩

theorem reducer_nodeRoutes :
    Reducer RouteDict.items Prod.fst Prod.snd mergeNodeRoutes where
  injective := RouteDict.items_injective
  spec left right _ := by
    unfold mergeNodeRoutes
    split
    · rename_i hnone
      rcases putAll_spec left right with ⟨_, hconflict⟩ | ⟨merged, hmerged, _⟩
      · exact Or.inl ⟨rfl, hconflict⟩
      · cases hnone.symm.trans hmerged
    · rename_i merged hmerged
      rcases putAll_spec left right with ⟨hnone, _⟩ | ⟨merged', hmerged', hrep⟩
      · cases hnone.symm.trans hmerged
      · cases hmerged.symm.trans hmerged'
        have hlists := lists_insertionSort hrep.keys
        exact Or.inr ⟨hrep.not_conflict, _, rfl, hlists.sorted,
          fun x => (hlists.mem_iff x).trans (hrep.mem_iff x)⟩

/-! ### Order, grouping and absolute values -/

/-- Merging contributions in any order and grouping, for those that are admitted: a merge
raises exactly if two members conflict, and otherwise there is one value, without duplicates,
which merging it into a value that it was merged from reproduces. -/
structure OrderFree {U α : Type} (members : U → List α) (admitted conflict : List α → Prop)
    (merge : U → U → Option U) : Prop where
  raises_iff : ∀ l r : Grouping U, admitted ((Grouping.both l r).all members) →
    ((Grouping.both l r).eval merge = none ↔ conflict ((Grouping.both l r).all members))
  eval_eq : ∀ l r l' r' : Grouping U, admitted ((Grouping.both l r).all members) →
    (Grouping.both l r).leaves.Perm (Grouping.both l' r').leaves →
    (Grouping.both l r).eval merge = (Grouping.both l' r').eval merge
  nodup : ∀ (l r : Grouping U) (out : U), admitted ((Grouping.both l r).all members) →
    (Grouping.both l r).eval merge = some out → (members out).Nodup
  absolute : ∀ (s final : U) (delta : Grouping U),
    admitted ((Grouping.both (.one s) delta).all members) →
    (Grouping.both (.one s) delta).eval merge = some final →
    (Grouping.both (.one s) (.one final)).eval merge =
      (Grouping.both (.one s) delta).eval merge

theorem orderFree_of_reducer {U α κ δ : Type} [LinearOrder κ] {members : U → List α} {key : α → κ}
    {content : α → δ} {merge : U → U → Option U} (hred : Reducer members key content merge)
    {admitted : List α → Prop} (hadmitted : ∀ xs, admitted xs → Determined key content xs) :
    OrderFree members admitted (Conflict key content) merge where
  raises_iff l r h := hred.eval_eq_none_iff l r (hadmitted _ h)
  eval_eq l r l' r' h hperm := hred.eval_congr (hadmitted _ h) (Grouping.mem_all_of_perm hperm)
  nodup l r out h hout := by
    rcases hred.eval_both_spec l r (hadmitted _ h) with ⟨hnone, _⟩ | ⟨_, out', hout', hlists⟩
    · cases hnone.symm.trans hout
    · cases hout'.symm.trans hout
      exact hlists.nodup
  absolute s final delta h hfinal := by
    rw [hfinal]
    exact hred.merge_absolute (hadmitted _ h) hfinal

/-- What the store guarantees: type, id and digest of a ref tell the ref. -/
def StoreRefs (refs : List ArtifactRef) : Prop :=
  ∀ x ∈ refs, ∀ y ∈ refs, x.artifactType = y.artifactType → x.artifactId = y.artifactId →
    x.contentDigest = y.contentDigest → x = y

def RefConflict (refs : List ArtifactRef) : Prop :=
  ∃ x ∈ refs, ∃ y ∈ refs, (x.artifactType = y.artifactType ∧ x.artifactId = y.artifactId) ∧
    x.contentDigest ≠ y.contentDigest

def RouteConflict (items : List (String × NodeRoute)) : Prop :=
  ∃ x ∈ items, ∃ y ∈ items, x.1 = y.1 ∧ x.2 ≠ y.2

theorem key_eq_iff (x y : ArtifactRef) :
    x.key = y.key ↔ x.artifactType = y.artifactType ∧ x.artifactId = y.artifactId := by
  unfold ArtifactRef.key
  rw [toLex_inj, Prod.mk.injEq]

theorem determined_of_storeRefs {refs : List ArtifactRef} (h : StoreRefs refs) :
    Determined ArtifactRef.key ArtifactRef.contentDigest refs := by
  intro x hx y hy hkey hdigest
  obtain ⟨htype, hid⟩ := (key_eq_iff x y).mp hkey
  exact h x hx y hy htype hid hdigest

theorem determined_of_twoDigits {ids : List NodeId} (h : ∀ n ∈ ids, TwoDigits n) :
    Determined sortKey (fun _ => ()) ids :=
  fun m hm n hn hkey _ => sortKey_injOn (h m hm) (h n hn) hkey

theorem conflict_iff_refConflict (refs : List ArtifactRef) :
    Conflict ArtifactRef.key ArtifactRef.contentDigest refs ↔ RefConflict refs := by
  unfold Conflict RefConflict
  simp only [key_eq_iff]

/-- The order in which the sets are iterated is lost in the sorting. -/
theorem eval_mergeNodeIds_congr (order order' : SetOrder) (l r : Grouping (List NodeId))
    (h : ∀ n ∈ (Grouping.both l r).all id, TwoDigits n) :
    (Grouping.both l r).eval (mergeNodeIds order) =
      (Grouping.both l r).eval (mergeNodeIds order') := by
  have hdet := determined_of_twoDigits h
  have hfree : ¬ Conflict sortKey (fun _ => ()) ((Grouping.both l r).all id) := by
    rintro ⟨x, _, y, _, _, hne⟩
    exact hne rfl
  rcases (reducer_nodeIds order).eval_both_spec l r hdet with ⟨_, hc⟩ | ⟨_, out, hout, hlists⟩
  · exact absurd hc hfree
  rcases (reducer_nodeIds order').eval_both_spec l r hdet with ⟨_, hc⟩ | ⟨_, out', hout', hlists'⟩
  · exact absurd hc hfree
  have heq : out = out' := hlists.unique hlists' fun _ => Iff.rfl
  rw [hout, hout', heq]

/-- The three reducers are independent of the order and the grouping of the branches, the
completion markers whatever order their sets are iterated in. -/
theorem fan_in_order_free :
    OrderFree id StoreRefs RefConflict mergeArtifactRefs ∧
      (∀ order, OrderFree id (fun ids => ∀ n ∈ ids, TwoDigits n) (fun _ => False)
        (mergeNodeIds order)) ∧
      (∀ (order order' : SetOrder) (l r : Grouping (List NodeId)),
        (∀ n ∈ (Grouping.both l r).all id, TwoDigits n) →
        (Grouping.both l r).eval (mergeNodeIds order) =
          (Grouping.both l r).eval (mergeNodeIds order')) ∧
      OrderFree RouteDict.items (fun _ => True) RouteConflict mergeNodeRoutes := by
  refine ⟨?_, fun order => ?_, eval_mergeNodeIds_congr, ?_⟩
  · have hfree := orderFree_of_reducer reducer_artifactRefs fun _ => determined_of_storeRefs
    have hconflict : RefConflict = Conflict ArtifactRef.key ArtifactRef.contentDigest := by
      funext refs
      exact propext (conflict_iff_refConflict refs).symm
    rw [hconflict]
    exact hfree
  · have hfree := orderFree_of_reducer (reducer_nodeIds order) fun _ => determined_of_twoDigits
    have hconflict : (fun _ => False) = Conflict sortKey fun _ => () := by
      funext ids
      apply propext
      refine ⟨False.elim, ?_⟩
      rintro ⟨x, _, y, _, _, hne⟩
      exact hne rfl
    rw [hconflict]
    exact hfree
  · exact orderFree_of_reducer reducer_nodeRoutes fun items _ => determined_items items

end ProductionOptimizer.FanIn
