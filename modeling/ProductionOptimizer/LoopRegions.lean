import ProductionOptimizer.RepairPasses
import ProductionOptimizer.SelectionChain
import ProductionOptimizer.StageGates
import ProductionOptimizer.RevertFallback

/-!
# Where a run is

A run from a converged case selects and plans, then goes through passes of S03 to S06, and
may end with a revert: S01 is then answered from the ledger and `S02.10` raises, because no
selection is sealed under the longer list of exclusions. As long as no stale verdict or
decision is read, the pass counter is the number of times S03 was entered again.
-/

namespace ProductionOptimizer
open Runs NumberedLog
set_option autoImplicit false

/-- The outer graph enters S03 after the step; a pass begins. -/
def EntersS03 (t : Transition Config Visit) : Prop := t.after.position = some (firstNode .S03)

def Increments (t : Transition Config Visit) : Prop :=
  t.after.state.s03RevisionAttempts = t.before.state.s03RevisionAttempts + 1

/-- A `revision` or a `fix_one_part` edge. -/
def RepairEdge (t : Transition Config Visit) : Prop :=
  (t.label.node.stage = .S04 ∨ t.label.node.stage = .S06) ∧ EntersS03 t

instance (t : Transition Config Visit) : Decidable (EntersS03 t) :=
  inferInstanceAs (Decidable (_ = _))

instance (t : Transition Config Visit) : Decidable (Increments t) :=
  inferInstanceAs (Decidable (_ = _))

instance (t : Transition Config Visit) : Decidable (RepairEdge t) :=
  inferInstanceAs (Decidable (_ ∧ _))

def entries (tr : SharedTrace) : Nat := tr.countP (EntersS03 ·)

def reverts (tr : SharedTrace) : Nat := tr.countP (RevertEdge ·)

def currentPass (tr : SharedTrace) : SharedTrace := tr.takeWhile fun t => !decide (EntersS03 t)

def increments (tr : SharedTrace) : Nat := (currentPass tr).countP (Increments ·)

/-- The present pass was entered through a `fix_one_part` edge. -/
def EnteredByFix (tr : SharedTrace) : Prop :=
  ∃ t, tr.find? (EntersS03 ·) = some t ∧ t.label.node.stage = .S06

section Traces
variable {t : Transition Config Visit} {tr : SharedTrace}

theorem entries_cons_of_enters (h : EntersS03 t) : entries (t :: tr) = entries tr + 1 := by
  simp [entries, h]

theorem entries_cons_of_not (h : ¬ EntersS03 t) : entries (t :: tr) = entries tr := by
  simp [entries, h]

theorem reverts_cons_of_edge (h : RevertEdge t) : reverts (t :: tr) = reverts tr + 1 := by
  simp [reverts, h]

theorem reverts_cons_of_not (h : ¬ RevertEdge t) : reverts (t :: tr) = reverts tr := by
  simp [reverts, h]

theorem increments_cons_of_enters (h : EntersS03 t) : increments (t :: tr) = 0 := by
  simp [increments, currentPass, h]

theorem increments_cons_of_not (h : ¬ EntersS03 t) :
    increments (t :: tr) = (t :: currentPass tr).countP (Increments ·) := by
  simp [increments, currentPass, h]

theorem enteredByFix_cons_of_enters (h : EntersS03 t) :
    EnteredByFix (t :: tr) ↔ t.label.node.stage = .S06 := by
  simp [EnteredByFix, h]

theorem enteredByFix_cons_of_not (h : ¬ EntersS03 t) :
    EnteredByFix (t :: tr) ↔ EnteredByFix tr := by
  simp [EnteredByFix, h]

end Traces

/-- The step does not leave its stage on a stale record: `S04.10` rejects only before any
verdict of `S04.90`, and `S06.10` only before any decision. -/
def ClearExit (t : Transition Config Visit) : Prop :=
  EndsVisit t →
    (t.label.node = ⟨.S04, 10⟩ → ⟨.S04, 90⟩ ∉ t.before.state.completedNodes) ∧
    (t.label.node = ⟨.S06, 10⟩ → t.before.state.s06Decision = none)

instance (t : Transition Config Visit) : Decidable (ClearExit t) :=
  inferInstanceAs (Decidable (_ → _ ∧ _))

def stageRank : Stage → Nat
  | .S03 => 3
  | .S04 => 4
  | .S05 => 5
  | .S06 => 6
  | _ => 0

/-- The order in which a pass visits the nodes of the loop. -/
def nodeRank (n : NodeId) : Nat := 100 * stageRank n.stage + n.number

theorem number_bounds : ∀ n ∈ catalog, 10 ≤ n.number ∧ n.number ≤ 90 := by decide +kernel

/-- One when a decided repair has already moved the counter and S03 is not yet entered. -/
def pending (n : NodeId) (s : OptimizationState) : Nat :=
  if n = ⟨.S06, 90⟩ ∧ s.s06Decision = some .fixOnePart then 1 else 0

theorem pending_of_ne {n : NodeId} (h : n ≠ ⟨.S06, 90⟩) (s : OptimizationState) :
    pending n s = 0 := by
  simp [pending, h]

structure BeforeLoop (base : List String) (tr : SharedTrace) (c : Config) (n : NodeId) :
    Prop where
  stage : n.stage = .S01 ∨ n.stage = .S02
  excluded : c.state.s01ExcludedStrategyIds = base
  attempts : c.state.s03RevisionAttempts = 0
  ledger : ∀ key execution, c.ledger.cached key = some execution → key.node.stage ∉ loopStages
  unplanned : n.stage = .S01 ∨ n = ⟨.S02, 10⟩ → c.state.s02RevisionAttempts = 0
  planned : n = ⟨.S02, 90⟩ → 1 ≤ c.state.s02RevisionAttempts
  notEntered : entries tr = 0
  notReverted : reverts tr = 0

/-- Intents of the loop belong to earlier passes, or to earlier nodes of this one. The
exception is `S06.90`: behind a decided repair it was recorded under the next pass. -/
def KeysAt (tr : SharedTrace) (c : Config) (n : NodeId) : Prop :=
  ∀ key execution, c.ledger.cached key = some execution → key.node.stage ∈ loopStages →
    key.revision < c.state.s03RevisionAttempts ∨
      (pending n c.state = 0 ∧ key.revision = c.state.s03RevisionAttempts ∧
        (nodeRank key.node < nodeRank n ∨ (key.node = ⟨.S06, 90⟩ ∧ EnteredByFix tr)))

structure InLoop (strategies : Nat) (base : List String) (tr : SharedTrace) (c : Config)
    (n : NodeId) : Prop where
  stage : n.stage ∈ loopStages
  entered : entries tr + pending n c.state = c.state.s03RevisionAttempts + 1
  counted : increments tr = pending n c.state
  bounded : entries tr ≤ maxPhaseRepairAttempts
  notReverted : reverts tr = 0
  keys : KeysAt tr c n
  excluded : if n = ⟨.S06, 90⟩ ∧ c.state.s06Decision = some .revert then
    base.length < c.state.s01ExcludedStrategyIds.length ∧ 0 < strategies
    else c.state.s01ExcludedStrategyIds = base
  verdict : n = ⟨.S04, 90⟩ →
    (verificationState c.state).gatePassed = some (checksPassed c.state.s04CheckResults)
  planned : 1 ≤ c.state.s02RevisionAttempts

/-- S01 after a revert, up to the `S02.10` that raises. -/
structure AfterRevert (strategies : Nat) (base : List String) (tr : SharedTrace) (c : Config)
    (n : NodeId) : Prop where
  stage : n.stage = .S01 ∨ n = ⟨.S02, 10⟩
  excluded : base.length < c.state.s01ExcludedStrategyIds.length
  planned : 1 ≤ c.state.s02RevisionAttempts
  bounded : entries tr ≤ maxPhaseRepairAttempts
  reverted : reverts tr = 1
  available : 0 < strategies

inductive Region (strategies : Nat) (base : List String) (tr : SharedTrace) (c : Config) :
    Prop where
  | selecting (n : NodeId) (hpos : c.position = some n) (h : BeforeLoop base tr c n)
  | looping (n : NodeId) (hpos : c.position = some n) (h : InLoop strategies base tr c n)
  | reverted (n : NodeId) (hpos : c.position = some n) (h : AfterRevert strategies base tr c n)
  | closed (hpos : ∀ n, c.position = some n → n.stage = .S07)
      (hbounded : entries tr ≤ maxPhaseRepairAttempts)
      (hreverts : reverts tr ≤ 1 ∧ reverts tr ≤ strategies)

/-! ### Planning -/

theorem s02RevisionAttempts_writers : ∀ n ∈ catalog, .s02RevisionAttempts ∈ nodeFields n →
    n = ⟨.S02, 81⟩ := by decide +kernel

/-- The counter of S02 leaves zero with the first attempt, and `S02.10` runs before that. -/
structure PlanInv (c : Config) : Prop where
  counts : ∀ key execution, c.ledger.cached key = some execution → key.node = ⟨.S02, 81⟩ →
    ∃ total, execution.updates = [.s02RevisionAttempts (total + 1)]
  keys : ∀ key execution, c.ledger.cached key = some execution → key.node = ⟨.S02, 10⟩ →
    key.revision = 0

theorem Converged.planInv {portfolio : SolutionPortfolio} {c : Config}
    (h : Converged portfolio c) : PlanInv c where
  counts key execution hcached hnode := by
    refine absurd ?_ (h.ledger key execution hcached)
    rw [hnode]
    decide
  keys key execution hcached hnode := by
    refine absurd ?_ (h.ledger key execution hcached)
    rw [hnode]
    decide

section Step
variable {strategies : Nat} {portfolio : SolutionPortfolio} {base : List String}
  {tr : SharedTrace} {c c' : Config} {visit : Visit}

theorem planned_after_quality (hplan : PlanInv c) (h : SharedSpec c visit c')
    (hnode : visit.node = ⟨.S02, 81⟩) :
    ∃ total, visit.execution.updates = [.s02RevisionAttempts (total + 1)] := by
  rcases h.origin hnode with hcached | ⟨a, hhandler⟩
  · exact hplan.counts _ _ hcached hnode
  · exact ⟨_, handleS0281_ok hhandler⟩

theorem s02RevisionAttempts_kept (h : SharedSpec c visit c') (hnode : visit.node ≠ ⟨.S02, 81⟩) :
    c'.state.s02RevisionAttempts = c.state.s02RevisionAttempts :=
  h.get (f := .s02RevisionAttempts) fun hf =>
    hnode (s02RevisionAttempts_writers _ h.registered hf)

theorem planned_of_quality (hplan : PlanInv c) (h : SharedSpec c visit c')
    (hnode : visit.node = ⟨.S02, 81⟩) : 1 ≤ c'.state.s02RevisionAttempts := by
  obtain ⟨total, hupdates⟩ := planned_after_quality hplan h hnode
  have hget : c'.state.s02RevisionAttempts =
      (c.state.setAll visit.execution.updates).s02RevisionAttempts :=
    h.committed.get .s02RevisionAttempts
  rw [hget, hupdates]
  exact Nat.succ_pos total

theorem planned_kept (hplan : PlanInv c) (h : SharedSpec c visit c')
    (hpos : 1 ≤ c.state.s02RevisionAttempts) : 1 ≤ c'.state.s02RevisionAttempts := by
  by_cases hnode : visit.node = ⟨.S02, 81⟩
  · exact planned_of_quality hplan h hnode
  · rw [s02RevisionAttempts_kept h hnode]
    exact hpos

/-- Outside the loop, and inside it except at two nodes, the counter stays. -/
theorem attempts_kept (hinv : PassInv c) (h : SharedSpec c visit c')
    (h04 : visit.node ≠ ⟨.S04, 90⟩) (h06 : visit.node ≠ ⟨.S06, 80⟩) :
    c'.state.s03RevisionAttempts = c.state.s03RevisionAttempts := by
  cases moves_of_step hinv h with
  | kept heq _ => exact heq
  | failed hnode _ _ _ => exact absurd hnode h04
  | repairs hnode _ _ _ => exact absurd hnode h06

theorem excluded_kept (h : SharedSpec c visit c') (h06 : visit.node ≠ ⟨.S06, 80⟩) :
    c'.state.s01ExcludedStrategyIds = c.state.s01ExcludedStrategyIds :=
  h.get (f := .s01ExcludedStrategyIds) fun hf =>
    h06 (s01ExcludedStrategyIds_writers _ h.registered hf)

theorem ne_of_stage_ne {n m : NodeId} (h : n.stage ≠ m.stage) : n ≠ m :=
  fun heq => h (congrArg NodeId.stage heq)

/-! ### Selecting and planning -/

section Before

theorem BeforeLoop.not_loop {n : NodeId} (hb : BeforeLoop base tr c n) :
    n.stage ∉ loopStages := by
  rcases hb.stage with hstage | hstage <;> rw [hstage] <;> decide

theorem BeforeLoop.attempts_zero (hinv : PassInv c) (hb : BeforeLoop base tr c visit.node)
    (h : SharedSpec c visit c') : c'.state.s03RevisionAttempts = 0 := by
  have hnot := hb.not_loop
  rw [attempts_kept hinv h, hb.attempts]
  · intro hnode
    rw [hnode] at hnot
    exact hnot (by decide)
  · intro hnode
    rw [hnode] at hnot
    exact hnot (by decide)

theorem BeforeLoop.excluded_base (hb : BeforeLoop base tr c visit.node)
    (h : SharedSpec c visit c') : c'.state.s01ExcludedStrategyIds = base := by
  have hnot := hb.not_loop
  rw [excluded_kept h, hb.excluded]
  intro hnode
  rw [hnode] at hnot
  exact hnot (by decide)

theorem BeforeLoop.ledger_step (hb : BeforeLoop base tr c visit.node) (h : SharedSpec c visit c')
    (key : IdempotencyKey) (execution : NodeExecution)
    (hcached : c'.ledger.cached key = some execution) : key.node.stage ∉ loopStages := by
  rcases h.cached_cases key execution hcached with hold | ⟨rfl, _⟩
  · exact hb.ledger key execution hold
  · exact hb.not_loop

theorem BeforeLoop.not_revert (hb : BeforeLoop base tr c visit.node) :
    ¬ RevertEdge ⟨c, visit, c'⟩ := by
  rintro ⟨hstage, _⟩
  have hnot := hb.not_loop
  rw [show visit.node.stage = .S06 from hstage] at hnot
  exact hnot (by decide)

theorem BeforeLoop.stay (hinv : PassInv c) (hb : BeforeLoop base tr c visit.node)
    (h : SharedSpec c visit c') {n : NodeId} (hpos : c'.position = some n)
    (hstage : n.stage = .S01 ∨ n.stage = .S02)
    (hunplanned : n.stage = .S01 ∨ n = ⟨.S02, 10⟩ → c'.state.s02RevisionAttempts = 0)
    (hplanned : n = ⟨.S02, 90⟩ → 1 ≤ c'.state.s02RevisionAttempts) :
    BeforeLoop base (⟨c, visit, c'⟩ :: tr) c' n where
  stage := hstage
  excluded := hb.excluded_base h
  attempts := hb.attempts_zero hinv h
  ledger := hb.ledger_step h
  unplanned := hunplanned
  planned := hplanned
  notEntered := by
    rw [entries_cons_of_not, hb.notEntered]
    intro henters
    cases hpos.symm.trans henters
    rcases hstage with hstage | hstage <;> cases hstage
  notReverted := by
    rw [reverts_cons_of_not hb.not_revert, hb.notReverted]

theorem BeforeLoop.enter (hinv : PassInv c) (hb : BeforeLoop base tr c visit.node)
    (h : SharedSpec c visit c') (hpos : c'.position = some (firstNode .S03))
    (hplanned : 1 ≤ c'.state.s02RevisionAttempts) :
    InLoop strategies base (⟨c, visit, c'⟩ :: tr) c' (firstNode .S03) := by
  have hne : firstNode .S03 ≠ ⟨.S06, 90⟩ := by decide
  have henters : EntersS03 ⟨c, visit, c'⟩ := hpos
  have hentries : entries (⟨c, visit, c'⟩ :: tr) = 1 := by
    rw [entries_cons_of_enters henters, hb.notEntered]
  constructor
  · decide
  · rw [hentries, pending_of_ne hne, hb.attempts_zero hinv h]
  · rw [increments_cons_of_enters henters, pending_of_ne hne]
  · rw [hentries]
    decide
  · rw [reverts_cons_of_not hb.not_revert, hb.notReverted]
  · intro key execution hcached hloop
    exact absurd hloop (hb.ledger_step h key execution hcached)
  · rw [if_neg fun hand => hne hand.1]
    exact hb.excluded_base h
  · intro hnode
    exact absurd hnode (by decide)
  · exact hplanned

theorem BeforeLoop.inner (hinv : PassInv c) (hplan : PlanInv c)
    (hb : BeforeLoop base tr c visit.node) (h : SharedSpec c visit c') {n : NodeId}
    (hpos : c'.position = some n) {route : NodeRoute}
    (hinner : innerNext visit.node route = some n) :
    BeforeLoop base (⟨c, visit, c'⟩ :: tr) c' n := by
  have hnumber := (number_bounds _ h.registered).1
  obtain ⟨_, ⟨h80, rfl⟩ | ⟨hnode, rfl⟩ | ⟨hnode, hnext⟩⟩ := innerNext_cases hinner
  · refine hb.stay hinv h hpos hb.stage ?_ ?_
    · rintro (hstage | hten)
      · have hne : visit.node ≠ ⟨.S02, 81⟩ := ne_of_stage_ne (by rw [hstage]; decide)
        rw [s02RevisionAttempts_kept h hne]
        exact hb.unplanned (Or.inl hstage)
      · have hzero : visit.node.number + 10 = 10 := congrArg NodeId.number hten
        omega
    · intro hninety
      have hstage : visit.node.stage = .S02 := congrArg NodeId.stage hninety
      have hsum : visit.node.number + 10 = 90 := congrArg NodeId.number hninety
      have heighty : visit.node.number = 80 := by omega
      refine absurd ?_ h80
      rw [← hstage, ← heighty]
  · refine hb.stay hinv h hpos (Or.inr rfl) ?_ ?_
    · rintro (hstage | hten)
      · cases hstage
      · cases hten
    · intro hninety
      cases hninety
  · refine hb.stay hinv h hpos ?_ ?_ fun _ => planned_of_quality hplan h hnode
    · rcases hnext with rfl | rfl <;> exact Or.inr rfl
    · rintro (hstage | hten)
      · rcases hnext with rfl | rfl <;> cases hstage
      · rcases hnext with rfl | rfl <;> cases hten

theorem BeforeLoop.step (hinv : PassInv c) (hplan : PlanInv c)
    (hb : BeforeLoop base tr c visit.node) (h : SharedSpec c visit c') :
    Region strategies base (⟨c, visit, c'⟩ :: tr) c' := by
  cases hpos : c'.position with
  | none =>
    refine .closed (fun n hn => ?_) ?_ ?_
    · rw [hpos] at hn
      cases hn
    · rw [entries_cons_of_not, hb.notEntered]
      · decide
      · intro henters
        cases hpos.symm.trans henters
    · rw [reverts_cons_of_not hb.not_revert, hb.notReverted]
      exact ⟨Nat.zero_le 1, Nat.zero_le strategies⟩
  | some n =>
    have hnext := h.next.symm.trans hpos
    rcases nextPosition_cases hnext with hinner | ⟨hend, stage, houter, rfl⟩
    · exact .selecting n hpos (hb.inner hinv hplan h hpos hinner)
    · rcases hb.stage with hstage | hstage
      · rw [hstage] at houter
        obtain ⟨_, rfl⟩ := completedGate_some houter
        refine .selecting _ hpos (hb.stay hinv h hpos (Or.inr rfl) (fun _ => ?_) ?_)
        · have hne : visit.node ≠ ⟨.S02, 81⟩ := ne_of_stage_ne (by rw [hstage]; decide)
          rw [s02RevisionAttempts_kept h hne]
          exact hb.unplanned (Or.inl hstage)
        · intro hninety
          cases hninety
      · rw [hstage] at houter
        obtain ⟨_, rfl⟩ := completedGate_some houter
        refine .looping _ hpos (hb.enter hinv h hpos ?_)
        rcases innerNext_none hend with hninety | hquality | hrouted
        · refine planned_kept hplan h (hb.planned ?_)
          rw [← hstage, ← hninety]
        · exact planned_of_quality hplan h hquality
        · have hnone : ∀ m ∈ routedNodes, m.stage ≠ .S02 := by decide
          exact absurd hstage (hnone _ hrouted)

end Before

/-! ### After a revert -/

section After

/-- No selection is sealed under the exclusions that a revert leaves behind. -/
theorem AfterRevert.not_planning (hchain : ChainInv portfolio base c) (hplan : PlanInv c)
    (ha : AfterRevert strategies base tr c visit.node) (h : SharedSpec c visit c') :
    visit.node ≠ ⟨.S02, 10⟩ := by
  intro hnode
  have hrevision : visit.key.revision = c.state.s02RevisionAttempts := by
    rw [h.key, hnode]
    rfl
  rcases h.origin hnode with hcached | ⟨a, hhandler⟩
  · have hzero := hplan.keys _ _ hcached hnode
    have hplanned := ha.planned
    omega
  · obtain ⟨selected, hselected, _⟩ := except_bind_ok hhandler
    have hlength := (available_of_readSelected hchain hselected).1
    have hlonger := ha.excluded
    omega

theorem AfterRevert.step (hchain : ChainInv portfolio base c) (hplan : PlanInv c)
    (ha : AfterRevert strategies base tr c visit.node) (h : SharedSpec c visit c') :
    Region strategies base (⟨c, visit, c'⟩ :: tr) c' := by
  have hstage : visit.node.stage = .S01 :=
    ha.stage.resolve_right (ha.not_planning hchain hplan h)
  have hrevert : ¬ RevertEdge ⟨c, visit, c'⟩ := by
    rintro ⟨hS06, _⟩
    cases hstage.symm.trans hS06
  have hreverts : reverts (⟨c, visit, c'⟩ :: tr) = 1 := by
    rw [reverts_cons_of_not hrevert, ha.reverted]
  have hexcluded := excluded_kept h (ne_of_stage_ne (by rw [hstage]; decide))
  have hstay : ∀ n, c'.position = some n → n.stage = .S01 ∨ n = ⟨.S02, 10⟩ := by
    intro n hn
    rcases nextPosition_cases (h.next.symm.trans hn) with hinner | ⟨_, stage, houter, rfl⟩
    · obtain ⟨_, ⟨_, rfl⟩ | ⟨hnode, _⟩ | ⟨hnode, _⟩⟩ := innerNext_cases hinner
      · exact Or.inl hstage
      · rw [hnode] at hstage
        cases hstage
      · rw [hnode] at hstage
        cases hstage
    · rw [hstage] at houter
      obtain ⟨_, rfl⟩ := completedGate_some houter
      exact Or.inr rfl
  have hentries : entries (⟨c, visit, c'⟩ :: tr) ≤ maxPhaseRepairAttempts := by
    rw [entries_cons_of_not]
    · exact ha.bounded
    · intro henters
      rcases hstay _ henters with hfirst | hfirst <;> cases hfirst
  cases hpos : c'.position with
  | none =>
    refine .closed (fun n hn => ?_) hentries ?_
    · rw [hpos] at hn
      cases hn
    · rw [hreverts]
      exact ⟨le_rfl, ha.available⟩
  | some n =>
    refine .reverted n hpos ⟨hstay n hpos, ?_, planned_kept hplan h ha.planned, hentries,
      hreverts, ha.available⟩
    rw [hexcluded]
    exact ha.excluded

end After

end Step

end ProductionOptimizer
