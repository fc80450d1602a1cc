import ProductionOptimizer.SharedWorkflow

/-!
# Stage gates

`completed(X.90)` reads a set that only grows. It agrees with the visit that has just
ended as long as the terminal node is left with `continue`, or the visit stops early for
the first time.
-/

namespace ProductionOptimizer
open Runs NumberedLog
set_option autoImplicit false

def gatedStages : List Stage := [.S01, .S02, .S03, .S05]

def terminalNode (stage : Stage) : NodeId := ⟨stage, 90⟩

/-- The part of a trace that belongs to the present visit of a stage. Every visit starts
at the stage's node 10, and no edge leads back to it from inside the stage. -/
def currentVisit : SharedTrace → SharedTrace
  | [] => []
  | t :: tr => if t.label.node.number = 10 then [t] else t :: currentVisit tr

def EndsVisit (t : Transition Config Visit) : Prop :=
  innerNext t.label.node (t.after.state.routeFor t.label.node) = none

/-- Whether the gate behind a visit of `stage` looked at that visit: the run goes on only
after its terminal node was executed in it with route `continue`. -/
def GateHolds (stage : Stage) (tr : SharedTrace) (position : Option NodeId) : Prop :=
  position ≠ none → ∃ u ∈ currentVisit tr,
    u.label.node = terminalNode stage ∧ u.label.execution.route = .continue_

def GatesHold (tr : SharedTrace) : Prop :=
  ∀ later t earlier, tr = later ++ t :: earlier → t.label.node.stage ∈ gatedStages →
    EndsVisit t → GateHolds t.label.node.stage (t :: earlier) t.after.position

/-- The step does not take a wrong way out of its stage: a terminal node continues, and a
visit that stops before it does so while the terminal node has never been completed. -/
def LeavesRightly (t : Transition Config Visit) : Prop :=
  t.label.node.stage ∈ gatedStages → EndsVisit t →
    if t.label.node = terminalNode t.label.node.stage then t.label.execution.route = .continue_
    else terminalNode t.label.node.stage ∉ t.before.state.completedNodes

instance (t : Transition Config Visit) : Decidable (EndsVisit t) :=
  inferInstanceAs (Decidable (_ = _))

instance (t : Transition Config Visit) : Decidable (LeavesRightly t) :=
  inferInstanceAs (Decidable (_ → _ → _))

section Gates
variable {c₀ c : Config} {tr : SharedTrace} {t : Transition Config Visit}

theorem SharedStep.position_eq {c c' : Config} {visit : Visit} (h : SharedStep c visit c') :
    c.position = some visit.node ∧ c'.position = nextPosition visit.node c'.state := by
  obtain ⟨_, hpos, _, _, _, hnext⟩ := h.spec
  exact ⟨hpos, hnext⟩

theorem nextPosition_of_innerNext_none {n : NodeId} {s : OptimizationState}
    (h : innerNext n (s.routeFor n) = none) :
    nextPosition n s = (outerNext n.stage s).map firstNode := by
  unfold nextPosition
  rw [h]

theorem number_after_terminal {n m : NodeId} {s : OptimizationState} (hn : n.number = 90)
    (h : nextPosition n s = some m) : m.number = 10 := by
  rw [nextPosition_of_innerNext_none (by simp only [innerNext, hn, if_true])] at h
  obtain ⟨stage, _, rfl⟩ := Option.map_eq_some_iff.mp h
  rfl

theorem outerNext_gated {stage : Stage} (h : stage ∈ gatedStages) (s : OptimizationState) :
    outerNext stage s ≠ none ↔ terminalNode stage ∈ s.completedNodes := by
  simp only [gatedStages, List.mem_cons, List.not_mem_nil, or_false] at h
  rcases h with rfl | rfl | rfl | rfl <;> simp [outerNext, completedGate, terminalNode]

theorem terminal_is_last (h : Run SharedStep c₀ tr c) {u : Transition Config Visit}
    (hu : u ∈ currentVisit tr) (hnumber : u.label.node.number = 90) :
    tr.head? = some u := by
  induction h with
  | nil => cases hu
  | @snoc tr s s' visit hrun hstep ih =>
    unfold currentVisit at hu
    split at hu
    · rw [List.mem_singleton.mp hu]
      rfl
    · rename_i hten
      rcases List.mem_cons.mp hu with rfl | hu
      · rfl
      · have hlast := ih hu
        cases hrun with
        | nil => cases hlast
        | @snoc tr₀ s₀ _ visit₀ _ hstep₀ =>
          cases hlast
          have hnext := hstep₀.position_eq.2.symm.trans hstep.position_eq.1
          exact absurd (number_after_terminal hnumber hnext) hten

theorem gateHolds_iff (h : Run SharedStep c₀ (t :: tr) c)
    (hstage : t.label.node.stage ∈ gatedStages) (hend : EndsVisit t) :
    GateHolds t.label.node.stage (t :: tr) t.after.position ↔
      if t.label.node = terminalNode t.label.node.stage then t.label.execution.route = .continue_
      else terminalNode t.label.node.stage ∉ t.before.state.completedNodes := by
  obtain ⟨_, hstep⟩ := h.last_step
  obtain ⟨_, _, _, hcommit, _, hnext⟩ := hstep.spec
  have hposition : t.after.position ≠ none ↔
      terminalNode t.label.node.stage ∈ t.after.state.completedNodes := by
    rw [show t.after.position = _ from hnext, nextPosition_of_innerNext_none hend,
      ← outerNext_gated hstage, ne_eq, Option.map_eq_none_iff]
  unfold GateHolds
  rw [hposition, hcommit.completedNodes]
  -- a node 90 of this visit is the step itself
  have honly : (∃ u ∈ currentVisit (t :: tr), u.label.node = terminalNode t.label.node.stage ∧
      u.label.execution.route = .continue_) ↔
      t.label.node = terminalNode t.label.node.stage ∧ t.label.execution.route = .continue_ := by
    constructor
    · rintro ⟨u, hu, hnode, hroute⟩
      have hlast := terminal_is_last h hu (by rw [hnode]; rfl)
      cases hlast
      exact ⟨hnode, hroute⟩
    · intro ht
      refine ⟨t, ?_, ht⟩
      unfold currentVisit
      split <;> exact List.mem_cons_self
  rw [honly]
  split
  · rename_i hterminal
    exact ⟨fun hgate => (hgate (Or.inl hterminal.symm)).2, fun hroute _ => ⟨hterminal, hroute⟩⟩
  · rename_i hterminal
    refine ⟨fun hgate hmem => hterminal (hgate (Or.inr hmem)).1, fun hmem hor => ?_⟩
    rcases hor with heq | hor
    · exact absurd heq.symm hterminal
    · exact absurd hor hmem

/-- The gates of a run look at the visit that ended exactly when every step leaves its
stage rightly. -/
theorem gatesHold_iff (h : Run SharedStep c₀ tr c) :
    GatesHold tr ↔ ∀ t ∈ tr, LeavesRightly t := by
  constructor
  · intro hgates t ht hstage hend
    obtain ⟨later, earlier, rfl⟩ := List.append_of_mem ht
    obtain ⟨hrun, hstep, _⟩ := Run.step_of_eq_append h
    exact (gateHolds_iff (.snoc hrun hstep) hstage hend).mp
      (hgates later t earlier rfl hstage hend)
  · intro hsteps later t earlier heq hstage hend
    subst heq
    obtain ⟨hrun, hstep, _⟩ := Run.step_of_eq_append h
    exact (gateHolds_iff (.snoc hrun hstep) hstage hend).mpr
      (hsteps t (by simp) hstage hend)

end Gates

def reachesImplementation (out : SharedTrace × Config) : Bool :=
  decide (out.2.position = some (firstNode .S03)) && out.1.all (decide <| LeavesRightly ·)

/-- A low-risk case passes the gates of S01 and S02 rightly. -/
theorem gatesHold_until_implementation :
    ∃ tr c, Run SharedStep promptRiskCase tr c ∧
      c.position = some (firstNode .S03) ∧ GatesHold tr := by
  obtain ⟨tr, c, hrun, hcheck⟩ := exists_sharedRun promptRiskCase
    (List.replicate 19 sampleAnswers) reachesImplementation (by decide +kernel)
  simp only [reachesImplementation, Bool.and_eq_true, decide_eq_true_eq, List.all_eq_true] at hcheck
  exact ⟨tr, c, hrun, hcheck.1, (gatesHold_iff hrun).mpr hcheck.2⟩

def implementsBeforeApproval (out : SharedTrace × Config) : Bool :=
  out.1.head?.any fun t => decide (t.label.node = terminalNode .S02 ∧
    t.label.execution.route = .approval ∧ t.after.position = some (firstNode .S03))

/-- `S02.90` halts for the owner of a code change, and S03 is entered all the same. -/
theorem pending_plan_enters_implementation :
    ∃ tr c t earlier, Run SharedStep codeRiskCase tr c ∧ tr = t :: earlier ∧
      t.label.node = terminalNode .S02 ∧ t.label.execution.route = .approval ∧
      t.after.position = some (firstNode .S03) ∧ ¬ GatesHold tr := by
  obtain ⟨tr, c, hrun, hcheck⟩ := exists_sharedRun codeRiskCase
    (List.replicate 19 sampleAnswers) implementsBeforeApproval (by decide +kernel)
  simp only [implementsBeforeApproval, Option.any_eq_true, decide_eq_true_eq] at hcheck
  obtain ⟨t, hhead, hnode, hroute, hpos⟩ := hcheck
  obtain ⟨earlier, rfl⟩ := List.head?_eq_some_iff.mp hhead
  refine ⟨t :: earlier, c, t, earlier, hrun, rfl, hnode, hroute, hpos, fun hgates => ?_⟩
  have hend : EndsVisit t := by rw [EndsVisit, hnode]; rfl
  obtain ⟨u, hu, huNode, huRoute⟩ := hgates [] t earlier rfl (by rw [hnode]; decide) hend
    (by rw [hpos]; exact Option.some_ne_none _)
  cases terminal_is_last hrun hu (by rw [huNode]; rfl)
  rw [hroute] at huRoute
  cases huRoute

end ProductionOptimizer
