import ProductionOptimizer.SharedWorkflow

/-!
# A scope that S02.10 rejects

The graph of S02 leaves `S02.10` by a plain edge, and no later node reads the verdict. A
rejected scope is drafted, sealed and approved like any other.
-/

namespace ProductionOptimizer
open Runs NumberedLog
set_option autoImplicit false

def s02Next (n : NodeId) (s : OptimizationState) : Option NodeId := innerNext n (s.routeFor n)

def s02Graph : Graph := .ofFunction (firstNode .S02) s02Next

abbrev S02Step : Config → Visit → Config → Prop := GraphStep sharedRegistry s02Graph

/-- `S02.10` finds that the scope of the selected strategy does not stand any more. -/
def RejectsScope (t : Transition Config Visit) : Prop :=
  t.label.node = ⟨.S02, 10⟩ ∧ t.label.execution.route = .rejected

def SealsPlan (t : Transition Config Visit) : Prop :=
  ∃ ref ∈ t.label.execution.artifactRefs,
    ref.artifactType = .executionPlan ∨ ref.artifactType = .taskList

def ApprovesPlan (t : Transition Config Visit) : Prop :=
  ∃ approval, .s02Approval approval ∈ t.label.execution.updates ∧
    (approval.decision = .approved ∨ approval.decision = .autoApproved)

/-- A rejected scope ends the visit: no node of S02 is executed after it, so no plan is
sealed and none approved. -/
structure RejectionHonoured (tr : SharedTrace) : Prop where
  ends : ∀ t ∈ tr, RejectsScope t → t.after.position = none
  unplanned : ∀ later t earlier, tr = later ++ t :: earlier → RejectsScope t →
    ∀ u ∈ later, ¬ SealsPlan u ∧ ¬ ApprovesPlan u

section Runs
variable {c₀ c : Config} {tr : SharedTrace}

theorem after_scope_check {c c' : Config} {visit : Visit} (h : S02Step c visit c')
    (hnode : visit.node = ⟨.S02, 10⟩) : c'.position = some ⟨.S02, 20⟩ := by
  obtain ⟨_, _, _, _, _, hnext⟩ := h.spec
  have hedge : c'.position = s02Next visit.node c'.state := hnext
  rw [hedge, hnode]
  rfl

/-- The rejection is honoured exactly in the runs in which nothing is rejected. -/
theorem rejectionHonoured_iff (hrun : Run S02Step c₀ tr c) :
    RejectionHonoured tr ↔ ∀ t ∈ tr, ¬ RejectsScope t := by
  constructor
  · intro hhonoured t ht hrejects
    obtain ⟨_, _, hstep⟩ := hrun.step_of_mem ht
    have hend := hhonoured.ends t ht hrejects
    rw [after_scope_check hstep hrejects.1] at hend
    cases hend
  · intro hnone
    refine ⟨fun t ht hrejects => absurd hrejects (hnone t ht), ?_⟩
    intro later t earlier heq hrejects
    refine absurd hrejects (hnone t ?_)
    rw [heq]
    exact List.mem_append_right _ List.mem_cons_self

end Runs

instance (t : Transition Config Visit) : Decidable (RejectsScope t) :=
  inferInstanceAs (Decidable (_ ∧ _))

/-- A case whose selection is sealed. The strategy treats a file that is to exist. -/
def scopedCase : Config :=
  let strategy := { sampleStrategy "s1" .prompt with scopeEntries := [⟨"gone.py", false⟩] }
  let start := sampleCase [strategy]
  { start with
    position := some (firstNode .S02)
    state := { start.state with
      artifactRefs := sampleRefs [strategy] ++ [⟨.stagePass ⟨.S01, 90⟩ 0,
        .selectedSolution 0 .absent .absent "s1" ⟨.autoSelected, none, none, s01PolicyVersion⟩
          []⟩] } }

def s02Replay (answers : List Answers) : Option (SharedTrace × Config) :=
  replay (advance sharedRegistry s02Next) answers [] scopedCase

theorem exists_s02Run (answers : List Answers) (check : SharedTrace × Config → Bool)
    (h : (s02Replay answers).any check = true) :
    ∃ tr c, Run S02Step scopedCase tr c ∧ check (tr, c) = true :=
  exists_run_of_replay (advance sharedRegistry s02Next)
    (fun _ _ _ _ hs => graphStep_of_advance sharedRegistry (firstNode .S02) s02Next hs)
    scopedCase answers check h

/-- With the file in place nothing is rejected. -/
theorem rejectionHonoured_scopedCase :
    ∃ tr c, Run S02Step scopedCase tr c ∧ tr.length = 10 ∧ RejectionHonoured tr := by
  obtain ⟨tr, c, hrun, hcheck⟩ := exists_s02Run (List.replicate 10 sampleAnswers)
    (fun out => decide (out.1.length = 10 ∧ ∀ t ∈ out.1, ¬ RejectsScope t)) (by decide +kernel)
  obtain ⟨hlength, hnone⟩ := of_decide_eq_true hcheck
  exact ⟨tr, c, hrun, hlength, (rejectionHonoured_iff hrun).mpr hnone⟩

def missingScope : Answers := { sampleAnswers with pathExists := (· != "gone.py") }

def plansRejectedScope (out : SharedTrace × Config) : Bool :=
  decide ((∃ t ∈ out.1, RejectsScope t ∧ t.after.position = some ⟨.S02, 20⟩) ∧
    (∃ ref ∈ out.2.state.artifactRefs, ref.artifactType = .executionPlan) ∧
    (out.2.state.s02Approval.map (·.decision)) = some .autoApproved)

theorem rejected_scope_is_planned :
    ∃ tr c, Run S02Step scopedCase tr c ∧
      (∃ ref ∈ c.state.artifactRefs, ref.artifactType = .executionPlan) ∧
      (c.state.s02Approval.map (·.decision)) = some .autoApproved ∧ ¬ RejectionHonoured tr := by
  obtain ⟨tr, c, hrun, hcheck⟩ := exists_s02Run (List.replicate 10 missingScope)
    plansRejectedScope (by decide +kernel)
  obtain ⟨⟨t, ht, hrejects, hnext⟩, hplan, happroval⟩ := of_decide_eq_true hcheck
  refine ⟨tr, c, hrun, hplan, happroval, fun hhonoured => ?_⟩
  have hend := hhonoured.ends t ht hrejects
  rw [hnext] at hend
  cases hend

end ProductionOptimizer
