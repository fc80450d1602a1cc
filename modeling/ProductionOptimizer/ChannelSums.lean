import ProductionOptimizer.SharedWorkflow
import Mathlib.Algebra.Order.Group.Nat
import Mathlib.Data.Multiset.OrderedMonoid
import Mathlib.Algebra.GroupWithZero.Nat

/-!
# Summing channels of nested graphs

A compiled subgraph that is used as a node starts from the parent's channel values and
hands its absolute final values back. The parent applies `operator.add` to them, so what
was in a summing channel when the subgraph was entered is counted once more.
-/

namespace ProductionOptimizer
open Runs
set_option autoImplicit false

/-- The list channels that are reduced with `operator.add`. -/
inductive ListChannel where
  | eventRefs
  | b1RunGroups
  | b1Signals
  | b1FeatureBindings
  | b1SourceBindings
  | b1OwnershipBindings
  | b1Scores
  | b1QualificationDecisions
  | b1CooldownDecisions
  deriving DecidableEq, Repr

/-- The values of the summing channels: `a3_model_tokens_spent` and the lists. -/
structure Sums (α : Type) where
  tokens : Nat := 0
  lists : ListChannel → List α := fun _ => []

def Sums.add {α : Type} (left right : Sums α) : Sums α :=
  ⟨left.tokens + right.tokens, fun channel => left.lists channel ++ right.lists channel⟩

/-- The compiled graphs: the root, the lanes, the shared workflow and the stages. -/
inductive GraphName where
  | root
  | laneA
  | laneB
  | laneBProposal
  | sharedWorkflow
  | stage (stage : Stage)
  deriving DecidableEq, Repr

/-- A node of a compiled graph: a business node, or a compiled graph of its own. -/
inductive Member where
  | task (n : NodeId)
  | sub (graph : GraphName)
  deriving DecidableEq, Repr

/-- The business nodes of a stage in catalog order. Parallel branches are executed in that
order; `B1.95` and `B2.22` are compiled graphs. -/
def stageCatalog : Stage → List Nat
  | .A1 => [10, 20, 30, 40, 50, 60, 61, 62, 63, 70, 71, 80, 90, 95]
  | .A2 => [10, 20, 30, 31, 40, 41, 50, 60, 61, 62, 63, 64, 70, 71, 80, 90, 91, 95]
  | .A3 => [10, 11, 20, 21, 30, 31, 32, 33, 40, 41, 50, 51, 60, 61, 62, 63, 64, 70, 80, 81,
      82, 90]
  | .B1 => [10, 20, 21, 30, 31, 32, 33, 34, 35, 40, 41, 50, 51, 52, 53, 60, 61, 62, 70, 71,
      80, 81, 90, 91, 96]
  | .B2 => [10, 20, 21, 30, 31, 40, 41, 50, 51, 52, 60]
  | .C0 => [10, 20, 30, 40, 50, 60, 70]
  | stage => nodeNumbers stage

def successor : List Nat → Nat → Option Nat
  | a :: b :: rest, k => if a = k then some b else successor (b :: rest) k
  | _, _ => none

/-- Nodes with a routed edge to `END` beside the linear one. -/
def endingNodes : List NodeId :=
  [⟨.A1, 80⟩, ⟨.A1, 90⟩, ⟨.A2, 10⟩, ⟨.A2, 31⟩, ⟨.A2, 40⟩, ⟨.A2, 50⟩, ⟨.A2, 90⟩, ⟨.A2, 91⟩,
   ⟨.A3, 51⟩, ⟨.B1, 71⟩, ⟨.B1, 80⟩, ⟨.B1, 81⟩, ⟨.B2, 31⟩, ⟨.C0, 60⟩] ++ routedNodes

/-- The edge to the next node of the catalog; `none` is `END`. -/
def linearEdge (n : NodeId) : Option Member :=
  (successor (stageCatalog n.stage) n.number).map fun k => .task ⟨n.stage, k⟩

/-- Where the edges of a stage graph lead from a business node. Which of them is taken is
decided by the node's route. -/
def taskEdges (n : NodeId) : List (Option Member) :=
  if n = ⟨.A3, 81⟩ then [some (.task ⟨.A3, 90⟩), some (.task ⟨.A3, 82⟩), none]
  else if n = ⟨.A3, 82⟩ then [some (.task ⟨.A3, 60⟩), none]
  else if n = ⟨.B1, 91⟩ then [some (.sub (.stage .A2)), none]
  else if n = ⟨.B2, 21⟩ then [some (.sub (.stage .A3))]
  else if n = ⟨.B2, 50⟩ then [some (.task ⟨.B2, 60⟩), some (.task ⟨.B2, 51⟩), none]
  else if n = ⟨.B2, 52⟩ then [some (.task ⟨.B2, 60⟩), some (.sub (.stage .A3)), none]
  else if n = ⟨.S02, 81⟩ then [some (.task ⟨.S02, 90⟩), some (.task ⟨.S02, 30⟩), none]
  else if n ∈ endingNodes then [linearEdge n, none]
  else [linearEdge n]

/-- Where a graph goes on behind a compiled graph that is one of its nodes. -/
def subEdges : GraphName → GraphName → List (Option Member)
  | .laneA, .stage .A1 => [some (.sub (.stage .A2)), none]
  | .laneA, .stage .A2 => [some (.sub (.stage .A3)), none]
  | .laneA, .stage .A3 => [some (.sub (.stage .C0)), none]
  | .laneBProposal, .stage .B2 => [some (.sub (.stage .C0)), none]
  | .stage .B1, .stage .A2 => [some (.task ⟨.B1, 96⟩), none]
  | .stage .B2, .stage .A3 => [some (.task ⟨.B2, 30⟩), none]
  | .sharedWorkflow, .stage .S01 => [some (.sub (.stage .S02)), none]
  | .sharedWorkflow, .stage .S02 => [some (.sub (.stage .S03)), none]
  | .sharedWorkflow, .stage .S03 => [some (.sub (.stage .S04)), none]
  | .sharedWorkflow, .stage .S04 => [some (.sub (.stage .S05)), some (.sub (.stage .S03)), none]
  | .sharedWorkflow, .stage .S05 => [some (.sub (.stage .S06)), none]
  | .sharedWorkflow, .stage .S06 =>
    [some (.sub (.stage .S07)), some (.sub (.stage .S03)), some (.sub (.stage .S01)), none]
  | _, _ => [none]

def edges (graph : GraphName) : Member → List (Option Member)
  | .task n => taskEdges n
  | .sub sub => subEdges graph sub

/-- The nodes behind `START`; the root's `initialize_case` writes no summing channel. -/
def starts : GraphName → List Member
  | .root => [.sub .laneA, .sub .laneB]
  | .laneA => [.sub (.stage .A1)]
  | .laneB => [.sub (.stage .B1), .sub .laneBProposal]
  | .laneBProposal => [.sub (.stage .B2)]
  | .sharedWorkflow => [.sub (.stage .S01)]
  | .stage stage => [.task ⟨stage, 10⟩]

/-- The nodes whose handlers write a summing channel. -/
def tokenWriters : List NodeId := [⟨.A3, 40⟩, ⟨.A3, 50⟩, ⟨.A3, 60⟩]

def listWriters : ListChannel → List NodeId
  | .eventRefs => []
  | .b1RunGroups => [⟨.B1, 40⟩]
  | .b1Signals => [⟨.B1, 50⟩, ⟨.B1, 51⟩, ⟨.B1, 52⟩, ⟨.B1, 53⟩]
  | .b1FeatureBindings => [⟨.B1, 60⟩]
  | .b1SourceBindings => [⟨.B1, 61⟩]
  | .b1OwnershipBindings => [⟨.B1, 62⟩]
  | .b1Scores => [⟨.B1, 70⟩]
  | .b1QualificationDecisions => [⟨.B1, 71⟩]
  | .b1CooldownDecisions => [⟨.B1, 81⟩]

/-- What one execution of a node hands to the summing channels. A replayed one hands over
what the recorded intent did. -/
structure Report (α : Type) where
  node : NodeId
  replayed : Bool
  sums : Sums α

structure Report.Sound {α : Type} (r : Report α) : Prop where
  tokens : r.node ∉ tokenWriters → r.sums.tokens = 0
  lists : ∀ channel, r.node ∉ listWriters channel → r.sums.lists channel = []

/-- A compiled graph that is being executed. `none` is its `END`. -/
structure Frame (α : Type) where
  graph : GraphName
  position : Option Member
  sums : Sums α

/-- The graphs under execution, innermost first. -/
abbrev Nest (α : Type) := List (Frame α)

inductive NestLabel (α : Type) where
  | node (report : Report α)
  | enter
  | leave
  | resume

/-- One step of a nested execution. A resume that restarts hands the channels to the next
invocation; a checkpointed one goes on in the same nest. -/
inductive NestStep {α : Type} : Nest α → NestLabel α → Nest α → Prop where
  | node {graph : GraphName} {next : Option Member} {sums : Sums α} {rest : Nest α}
      (r : Report α) : r.Sound → next ∈ edges graph (.task r.node) →
      NestStep (⟨graph, some (.task r.node), sums⟩ :: rest) (.node r)
        (⟨graph, next, sums.add r.sums⟩ :: rest)
  | enter {graph sub : GraphName} {start : Member} {sums : Sums α} {rest : Nest α} :
      start ∈ starts sub →
      NestStep (⟨graph, some (.sub sub), sums⟩ :: rest) .enter
        (⟨sub, some start, sums⟩ :: ⟨graph, some (.sub sub), sums⟩ :: rest)
  | leave {graph sub : GraphName} {next : Option Member} {sums final : Sums α} {rest : Nest α} :
      next ∈ edges graph (.sub sub) →
      NestStep (⟨sub, none, final⟩ :: ⟨graph, some (.sub sub), sums⟩ :: rest) .leave
        (⟨graph, next, sums.add final⟩ :: rest)
  | resume {graph : GraphName} {start : Member} {sums : Sums α} : start ∈ starts graph →
      NestStep [⟨graph, none, sums⟩] .resume [⟨graph, some start, sums⟩]

abbrev NestTrace (α : Type) := List (Transition (Nest α) (NestLabel α))

def freshSums {α : Type} (t : Transition (Nest α) (NestLabel α)) : Sums α :=
  match t.label with
  | .node r => if r.replayed then {} else r.sums
  | _ => {}

/-- What a step adds although nothing was contributed: a replay repeats its intent, and a
subgraph takes a copy of the channels with it. -/
def surplus {α : Type} (t : Transition (Nest α) (NestLabel α)) : Sums α :=
  match t.label, t.before with
  | .node r, _ => if r.replayed then r.sums else {}
  | .enter, frame :: _ => frame.sums
  | _, _ => {}

/-- From `before` to `after` every fresh contribution is counted, and counted once. -/
structure CountsOnce {α : Type} (before : Sums α) (tr : NestTrace α) (after : Sums α) : Prop where
  tokens : after.tokens = before.tokens + (tr.map fun t => (freshSums t).tokens).sum
  lists : ∀ channel, (after.lists channel : Multiset α) =
    before.lists channel + (tr.map fun t => ((freshSums t).lists channel : Multiset α)).sum

/-- The step meets empty channels: no replay repeats a contribution, and a subgraph is
entered before anything was contributed. -/
def MeetsEmpty {α : Type} (t : Transition (Nest α) (NestLabel α)) : Prop :=
  (surplus t).tokens = 0 ∧ ∀ channel, (surplus t).lists channel = []

section Totals
variable {α M : Type} [AddCancelCommMonoid M]

/-- A quantity that `operator.add` adds up. -/
structure Additive (μ : Sums α → M) : Prop where
  empty : μ {} = 0
  add : ∀ left right, μ (left.add right) = μ left + μ right

def nestTotal (μ : Sums α → M) (nest : Nest α) : M := (nest.map fun frame => μ frame.sums).sum

theorem nestTotal_step {μ : Sums α → M} (hμ : Additive μ) {nest nest' : Nest α}
    {l : NestLabel α} (h : NestStep nest l nest') :
    nestTotal μ nest' = nestTotal μ nest +
      (μ (freshSums ⟨nest, l, nest'⟩) + μ (surplus ⟨nest, l, nest'⟩)) := by
  cases h with
  | node r _ _ =>
    have hsplit : μ r.sums = μ (if r.replayed then {} else r.sums) +
        μ (if r.replayed then r.sums else {}) := by
      cases r.replayed with
      | true => simp [hμ.empty]
      | false => simp [hμ.empty]
    simp only [nestTotal, List.map_cons, List.sum_cons, freshSums, surplus, hμ.add]
    rw [← hsplit, add_right_comm]
  | enter _ =>
    simp only [nestTotal, List.map_cons, List.sum_cons, freshSums, surplus, hμ.empty, zero_add]
    rw [add_comm]
  | leave _ =>
    simp only [nestTotal, List.map_cons, List.sum_cons, freshSums, surplus, hμ.empty, hμ.add]
    rw [add_zero, add_zero, ← add_assoc, add_comm (μ _) (μ _)]
  | resume _ => simp only [nestTotal, List.map_cons, freshSums, surplus, hμ.empty, add_zero,
      List.map_nil]

variable [PartialOrder M] [IsOrderedAddMonoid M] [CanonicallyOrderedAdd M]

/-- Over a whole run the quantity counts what was contributed exactly when no step had a
surplus. -/
theorem counted_iff {μ : Sums α → M} (hμ : Additive μ) {graph graph' : GraphName}
    {position position' : Option Member} {before after : Sums α} {tr : NestTrace α}
    (hrun : Run NestStep [⟨graph, position, before⟩] tr [⟨graph', position', after⟩]) :
    μ after = μ before + (tr.map fun t => μ (freshSums t)).sum ↔
      ∀ t ∈ tr, μ (surplus t) = 0 := by
  have htotal := hrun.total_eq (nestTotal μ) (fun t => μ (freshSums t) + μ (surplus t))
    fun _ _ _ h => nestTotal_step hμ h
  simp only [nestTotal, List.map_cons, List.map_nil, List.sum_cons, List.sum_nil, add_zero,
    List.sum_map_add] at htotal
  rw [htotal, ← add_assoc, add_eq_left, List.sum_eq_zero_iff, List.forall_mem_map]

end Totals

theorem additive_tokens {α : Type} : Additive (Sums.tokens : Sums α → Nat) where
  empty := rfl
  add _ _ := rfl

theorem additive_list {α : Type} (channel : ListChannel) :
    Additive fun sums : Sums α => (sums.lists channel : Multiset α) where
  empty := rfl
  add left right := (Multiset.coe_add (left.lists channel) (right.lists channel)).symm

/-- Sums are right in exactly those runs in which every step meets empty channels. -/
theorem countsOnce_iff {α : Type} {graph graph' : GraphName} {position position' : Option Member}
    {before after : Sums α} {tr : NestTrace α}
    (hrun : Run NestStep [⟨graph, position, before⟩] tr [⟨graph', position', after⟩]) :
    CountsOnce before tr after ↔ ∀ t ∈ tr, MeetsEmpty t := by
  have htokens := counted_iff additive_tokens hrun
  have hlists := fun channel => counted_iff (additive_list channel) hrun
  constructor
  · intro h t ht
    refine ⟨htokens.mp h.tokens t ht, fun channel => ?_⟩
    exact Multiset.coe_eq_zero _ |>.mp ((hlists channel).mp (h.lists channel) t ht)
  · intro h
    refine ⟨htokens.mpr fun t ht => (h t ht).1, fun channel => ?_⟩
    refine (hlists channel).mpr fun t ht => ?_
    exact (Multiset.coe_eq_zero _).mpr ((h t ht).2 channel)

/-! ### The manual lane with one model call -/

def reportOf (tokens : Nat) (n : NodeId) : Report Unit :=
  ⟨n, false, ⟨if n = ⟨.A3, 40⟩ then tokens else 0, fun _ => []⟩⟩

theorem sound_reportOf (tokens : Nat) (n : NodeId) : (reportOf tokens n).Sound := by
  refine ⟨fun hn => if_neg ?_, fun _ _ => rfl⟩
  rintro rfl
  exact hn List.mem_cons_self

def driveNest (tokens : Nat) (nest : Nest Unit) (_ : Unit) :
    Option (NestLabel Unit × Nest Unit) :=
  match nest with
  | ⟨graph, some (.task n), sums⟩ :: rest =>
    (edges graph (.task n)).head?.map fun next =>
      (.node (reportOf tokens n), ⟨graph, next, sums.add (reportOf tokens n).sums⟩ :: rest)
  | ⟨graph, some (.sub sub), sums⟩ :: rest =>
    (starts sub).head?.map fun start =>
      (.enter, ⟨sub, some start, sums⟩ :: ⟨graph, some (.sub sub), sums⟩ :: rest)
  | ⟨sub, none, final⟩ :: ⟨graph, some (.sub sub'), sums⟩ :: rest =>
    if sub = sub' then
      (edges graph (.sub sub)).head?.map fun next =>
        (.leave, ⟨graph, next, sums.add final⟩ :: rest)
    else none
  | _ => none

theorem nestStep_of_driveNest {tokens : Nat} (nest : Nest Unit) (u : Unit) (l : NestLabel Unit)
    (nest' : Nest Unit) (h : driveNest tokens nest u = some (l, nest')) :
    NestStep nest l nest' := by
  unfold driveNest at h
  split at h
  · rename_i graph n sums rest
    obtain ⟨next, hnext, heq⟩ := Option.map_eq_some_iff.mp h
    cases heq
    have hmem : next ∈ edges graph (.task n) := List.mem_of_mem_head? hnext
    exact NestStep.node (reportOf tokens n) (sound_reportOf tokens n) hmem
  · obtain ⟨start, hstart, heq⟩ := Option.map_eq_some_iff.mp h
    cases heq
    exact NestStep.enter (List.mem_of_mem_head? hstart)
  · split at h
    · rename_i hsub
      subst hsub
      obtain ⟨next, hnext, heq⟩ := Option.map_eq_some_iff.mp h
      cases heq
      exact NestStep.leave (List.mem_of_mem_head? hnext)
    · cases h
  · cases h

def laneACase : Nest Unit := [⟨.laneA, some (.sub (.stage .A1)), {}⟩]

def laneEnds (reported final : Nat) (out : NestTrace Unit × Nest Unit) : Bool :=
  match out.2 with
  | [frame] => decide (frame.position = none ∧ frame.sums.tokens = final ∧
      (out.1.map fun t => (freshSums t).tokens).sum = reported)
  | _ => false

theorem exists_laneARun (tokens reported final : Nat)
    (h : (replay (driveNest tokens) (List.replicate 68 ()) [] laneACase).any
      (laneEnds reported final) = true) :
    ∃ tr frame, Run NestStep laneACase tr [frame] ∧ frame.position = none ∧
      frame.sums.tokens = final ∧ (tr.map fun t => (freshSums t).tokens).sum = reported := by
  obtain ⟨tr, nest, hrun, hcheck⟩ := exists_run_of_replay _ nestStep_of_driveNest laneACase _ _ h
  unfold laneEnds at hcheck
  split at hcheck
  · rename_i frame hnest
    cases hnest
    exact ⟨tr, _, hrun, of_decide_eq_true hcheck⟩
  · cases hcheck

theorem countsOnce_iff_laneACase :
    ∃ tr frame, Run NestStep laneACase tr [frame] ∧ frame.position = none ∧
      frame.sums.tokens = 0 ∧ (CountsOnce {} tr frame.sums ↔ ∀ t ∈ tr, MeetsEmpty t) := by
  obtain ⟨tr, frame, hrun, hend, htokens, _⟩ := exists_laneARun 0 0 0 (by decide +kernel)
  exact ⟨tr, frame, hrun, hend, htokens, countsOnce_iff hrun⟩

/-- The lane spends 100 tokens, and C0 hands them back a second time. -/
theorem lane_a_doubles_tokens :
    ∃ tr frame, Run NestStep laneACase tr [frame] ∧ frame.position = none ∧
      (tr.map fun t => (freshSums t).tokens).sum = 100 ∧ frame.sums.tokens = 200 ∧
      ¬ CountsOnce {} tr frame.sums := by
  obtain ⟨tr, frame, hrun, hend, htokens, hreported⟩ :=
    exists_laneARun 100 100 200 (by decide +kernel)
  refine ⟨tr, frame, hrun, hend, hreported, htokens, fun h => ?_⟩
  have hcount := h.tokens
  rw [htokens, hreported] at hcount
  exact absurd hcount (by decide)

end ProductionOptimizer
