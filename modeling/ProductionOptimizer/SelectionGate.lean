import ProductionOptimizer.SharedWorkflow

/-!
# The selection gate

S01 on its own, with resumes. A pending approval of `S01.80` keeps the route `continue`,
so the gate is only as good as the condition that this branch is never taken.
-/

namespace ProductionOptimizer
open Runs NumberedLog
set_option autoImplicit false

def s01Next (n : NodeId) (s : OptimizationState) : Option NodeId := innerNext n (s.routeFor n)

def s01Graph : Graph := .ofFunction (firstNode .S01) s01Next

abbrev S01Step : Config → Act → Config → Prop := SessionStep sharedRegistry s01Graph

/-- A case that enters S01 for the first time. -/
structure FreshSelection (c : Config) : Prop where
  position : c.position = some (firstNode .S01)
  ledger : ∀ key execution, c.ledger.cached key = some execution → key.node.stage ≠ .S01
  pendingInterrupt : c.state.pendingInterrupt = none
  s01Approval : c.state.s01Approval = none
  completedNodes : ⟨.S01, 90⟩ ∉ c.state.completedNodes
  artifactRefs : ∀ ref ∈ c.state.artifactRefs, ref.artifactType ≠ .selectedSolution

def approveSupplied (s : OptimizationState) : Bool :=
  s.resumeCommand.any (·.decision == "approve")

/-- The two forms of the rule: `S01.90` has run only if nobody had to be asked or an
approval was supplied, and every sealed selection says which of the two it was. -/
structure SelectionGated (s : OptimizationState) : Prop where
  completed : ⟨.S01, 90⟩ ∈ s.completedNodes → asksForOwner s = true → approveSupplied s = true
  selections : ∀ ref ∈ s.artifactRefs, ∀ now ranking portfolio strategyId approval excluded,
    ref.contentDigest = .selectedSolution now ranking portfolio strategyId approval excluded →
      approval.decision = .approved ∨
        (approval.decision = .autoSelected ∧ asksForOwner s = false)

/-- When `S01.80` runs and an owner has to be asked, a resume command is at hand. -/
def OwnerAsked (t : Transition Config Act) : Prop :=
  match t.label with
  | .node visit => visit.node = ⟨.S01, 80⟩ → asksForOwner t.before.state = true →
      t.before.state.resumeCommand ≠ none
  | .resume .. => True

/-- What `s01_approval` says once `S01.80` has continued. -/
def ApprovalFits (s : OptimizationState) : Prop :=
  ∀ approval, s.s01Approval = some approval → approval.decision ≠ .rejected →
    (approval.decision = .approved ∧ approveSupplied s = true) ∨
      (approval.decision = .autoSelected ∧ asksForOwner s = false)

/-- The run is before `S01.90`: every node ahead is fresh, nothing is sealed. -/
structure Selecting (n : NodeId) (c : Config) : Prop where
  stage : n.stage = .S01
  ledger : ∀ key execution, c.ledger.cached key = some execution → key.node.stage = .S01 →
    key.node.number < n.number
  pendingInterrupt : c.state.pendingInterrupt = none
  approval : if n.number = 90 then ApprovalFits c.state else c.state.s01Approval = none
  completedNodes : ⟨.S01, 90⟩ ∉ c.state.completedNodes
  artifactRefs : ∀ ref ∈ c.state.artifactRefs, ref.artifactType ≠ .selectedSolution

def SelectionInv (c : Config) : Prop :=
  match c.position with
  | some n => Selecting n c
  | none => c.state.pendingInterrupt = none ∧ SelectionGated c.state

theorem FreshSelection.selecting {c : Config} (h : FreshSelection c) :
    Selecting (firstNode .S01) c where
  stage := rfl
  ledger key execution hc hstage := absurd hstage (h.ledger key execution hc)
  pendingInterrupt := h.pendingInterrupt
  approval := h.s01Approval
  completedNodes := h.completedNodes
  artifactRefs := h.artifactRefs

theorem Selecting.gated {n : NodeId} {c : Config} (h : Selecting n c) :
    SelectionGated c.state where
  completed hmem := absurd hmem h.completedNodes
  selections ref href now ranking portfolio strategyId approval excluded hcontent := by
    refine absurd ?_ (h.artifactRefs ref href)
    rw [ArtifactRef.artifactType, hcontent]
    rfl

theorem innerNext_s01 {n m : NodeId} {route : NodeRoute} (hstage : n.stage = .S01)
    (h : innerNext n route = some m) : m = ⟨.S01, n.number + 10⟩ ∧ n.number ≠ 90 := by
  obtain ⟨hnumber, ⟨_, rfl⟩ | ⟨hnode, _⟩ | ⟨hnode, _⟩⟩ := innerNext_cases h
  · rw [hstage]
    exact ⟨rfl, hnumber⟩
  · rw [hnode] at hstage
    cases hstage
  · rw [hnode] at hstage
    cases hstage

section Steps
variable {n : NodeId} {c c' : Config} {visit : Visit}

/-- Before `S01.90` no node of S01 has an intent yet, so the visit is fresh. -/
theorem Selecting.fresh {a : Answers} (h : Selecting visit.node c)
    (hsource : Source sharedRegistry visit.node a c.state c.ledger visit) :
    handleS01 visit.node.number a c.state = .ok visit.execution ∧
      visit.execution.route ∈ declaredRoutes visit.node := by
  have hfresh : visit.replayed = false := by
    cases hsource with
    | replay _ hcached _ =>
      have hlt := h.ledger visit.key visit.execution hcached h.stage
      exact absurd hlt (Nat.lt_irrefl _)
    | fresh _ hflag _ _ _ _ _ => exact hflag
  obtain ⟨hhandler, hroute, _⟩ := fresh_handler hsource hfresh
  unfold nodeHandler at hhandler
  rw [h.stage] at hhandler
  exact ⟨hhandler, hroute⟩

theorem Selecting.next (h : Selecting visit.node c)
    (hstep : GraphStep sharedRegistry s01Graph c visit c')
    (hnumber : visit.node.number ≠ 90)
    (hpending : c'.state.pendingInterrupt = none)
    (happroval : if visit.node.number = 80 then ApprovalFits c'.state
      else c'.state.s01Approval = none)
    (hrefs : ∀ ref ∈ c'.state.artifactRefs, ref.artifactType ≠ .selectedSolution) :
    SelectionInv c' := by
  obtain ⟨a, _, _, hcommit, hsource, hnext⟩ := hstep.spec
  have hcompleted : ⟨.S01, 90⟩ ∉ c'.state.completedNodes := by
    intro hmem
    rcases (hcommit.completedNodes _).mp hmem with heq | hmem
    · exact hnumber (congrArg NodeId.number heq).symm
    · exact h.completedNodes hmem
  unfold SelectionInv
  split
  · rename_i m hm
    obtain ⟨rfl, _⟩ := innerNext_s01 h.stage (hnext.symm.trans hm)
    refine ⟨rfl, ?_, hpending, ?_, hcompleted, hrefs⟩
    · intro key execution hcached hstage
      rw [hstep.ledger] at hcached
      rcases hsource.cached_cases hcached with hold | ⟨rfl, _⟩
      · exact Nat.lt_add_right 10 (h.ledger key execution hold hstage)
      · exact Nat.lt_add_of_pos_right (Nat.succ_pos 9)
    · by_cases h80 : visit.node.number = 80
      · rw [if_pos h80] at happroval
        rw [if_pos (by simp [h80])]
        exact happroval
      · rw [if_neg h80] at happroval
        rw [if_neg (by simp only; omega)]
        exact happroval
  · refine ⟨hpending, fun hmem => absurd hmem hcompleted, ?_⟩
    intro ref href now ranking portfolio strategyId approval excluded hcontent
    refine absurd ?_ (hrefs ref href)
    rw [ArtifactRef.artifactType, hcontent]
    rfl

/-- `S01.10` to `S01.70` touch neither the approval nor the selection. -/
theorem selectionInv_scoring (h : Selecting visit.node c)
    (hstep : GraphStep sharedRegistry s01Graph c visit c')
    (h80 : visit.node.number ≠ 80) (h90 : visit.node.number ≠ 90) : SelectionInv c' := by
  obtain ⟨a, _, _, hcommit, hsource, _⟩ := hstep.spec
  have hwrites := handleS01_writes a c.state visit.node.number _ (h.fresh hsource).1
  obtain ⟨happroval, hpending⟩ := s01Fields_of_ne h80
  refine h.next hstep h90 ?_ ?_ ?_
  · exact (hcommit.get_of_writesOnly hwrites hpending).trans h.pendingInterrupt
  · have hnone := h.approval
    rw [if_neg h90] at hnone
    rw [if_neg h80]
    exact (hcommit.get_of_writesOnly hwrites happroval).trans hnone
  · intro ref href htype
    refine h.artifactRefs ref (hcommit.ref_of_writesOnly hwrites href ?_) htype
    rw [htype]
    exact s01Types_of_ne h90

/-- `S01.80` with an owner asked never leaves a pending approval behind. -/
theorem selectionInv_approving (h : Selecting visit.node c)
    (hstep : GraphStep sharedRegistry s01Graph c visit c') (h80 : visit.node.number = 80)
    (hasked : asksForOwner c.state = true → c.state.resumeCommand ≠ none) :
    SelectionInv c' := by
  obtain ⟨a, _, _, hcommit, hsource, _⟩ := hstep.spec
  have hhandler := (h.fresh hsource).1
  rw [h80] at hhandler
  have hwrites := handleS01_writes a c.state 80 _ hhandler
  have hrouting : c'.state.s01RoutingDecision = c.state.s01RoutingDecision :=
    hcommit.get_of_writesOnly hwrites (f := .s01RoutingDecision) (by decide)
  have hasks : asksForOwner c'.state = asksForOwner c.state := by
    rw [asksForOwner, hrouting]
    rfl
  have hsupplied : approveSupplied c'.state = approveSupplied c.state := by
    rw [approveSupplied, hcommit.resumeCommand]
    rfl
  obtain ⟨portfolioRef, _, _, hways⟩ := handleS0180_ok hhandler
  have hpendingGet := hcommit.get .pendingInterrupt
  have happrovalGet := hcommit.get .s01Approval
  refine h.next hstep (by rw [h80]; decide) ?_ ?_ ?_
  · rcases hways with ⟨_, hu⟩ | ⟨hneeds, hnone, _⟩ | ⟨_, _, _, ⟨_, hu⟩ | ⟨_, _, hu⟩⟩
    · rw [hu] at hpendingGet
      exact hpendingGet.trans h.pendingInterrupt
    · exact absurd hnone (hasked hneeds)
    · rw [hu] at hpendingGet
      exact hpendingGet.trans h.pendingInterrupt
    · rw [hu] at hpendingGet
      exact hpendingGet.trans h.pendingInterrupt
  · rw [if_pos h80]
    intro approval happroval hrejected
    rw [hasks, hsupplied]
    rcases hways with ⟨hneeds, hu⟩ | ⟨hneeds, hnone, _⟩ | ⟨command, _, hsome, ⟨hdec, hu⟩ | ⟨_, _, hu⟩⟩
    · rw [hu] at happrovalGet
      cases happrovalGet.symm.trans happroval
      exact Or.inr ⟨rfl, hneeds⟩
    · exact absurd hnone (hasked hneeds)
    · rw [hu] at happrovalGet
      cases happrovalGet.symm.trans happroval
      refine Or.inl ⟨rfl, ?_⟩
      rw [approveSupplied, hsome]
      simp [hdec]
    · rw [hu] at happrovalGet
      cases happrovalGet.symm.trans happroval
      exact absurd rfl hrejected
  · intro ref href htype
    refine h.artifactRefs ref (hcommit.ref_of_writesOnly hwrites href ?_) htype
    rw [htype]
    exact s01Types_of_ne (by decide)

/-- `S01.90` seals the approval that `S01.80` left. -/
theorem selectionInv_sealing (h : Selecting visit.node c)
    (hstep : GraphStep sharedRegistry s01Graph c visit c') (h90 : visit.node.number = 90) :
    SelectionInv c' := by
  obtain ⟨a, _, _, hcommit, hsource, hnext⟩ := hstep.spec
  obtain ⟨hhandler, hroute⟩ := h.fresh hsource
  have hnode : visit.node = ⟨.S01, 90⟩ := by
    rw [← h.stage, ← h90]
  rw [hnode] at hroute
  rw [h90] at hhandler
  have hwrites := handleS01_writes a c.state 90 _ hhandler
  obtain ⟨rankingRef, portfolioRef, approval, routing, happroval, hrejected, hrouting, hsealed, _⟩ :=
    handleS0190_ok hhandler (List.mem_singleton.mp hroute)
  have hfits := h.approval
  rw [if_pos h90] at hfits
  have hfit := hfits approval happroval hrejected
  have hasks : asksForOwner c'.state = asksForOwner c.state := by
    have hget : c'.state.s01RoutingDecision = c.state.s01RoutingDecision :=
      hcommit.get_of_writesOnly hwrites (f := .s01RoutingDecision) (by decide)
    rw [asksForOwner, hget]
    rfl
  have hsupplied : approveSupplied c'.state = approveSupplied c.state := by
    rw [approveSupplied, hcommit.resumeCommand]
    rfl
  have hend : c'.position = none := by
    rw [show c'.position = _ from hnext, hnode]
    rfl
  unfold SelectionInv
  rw [hend]
  refine ⟨?_, ?_, ?_⟩
  · exact (hcommit.get_of_writesOnly hwrites (f := .pendingInterrupt) (by decide)).trans
      h.pendingInterrupt
  · intro _ hneeds
    rw [hasks] at hneeds
    rw [hsupplied]
    rcases hfit with ⟨_, happrove⟩ | ⟨_, hauto⟩
    · exact happrove
    · rw [hauto] at hneeds
      cases hneeds
  · intro ref href now ranking portfolio strategyId approval' excluded hcontent
    rcases hcommit.mem_artifactRefs href with hold | hnew
    · refine absurd ?_ (h.artifactRefs ref hold)
      rw [ArtifactRef.artifactType, hcontent]
      rfl
    · rw [hsealed] at hnew
      rw [List.mem_singleton.mp hnew] at hcontent
      cases hcontent
      rw [hasks]
      exact hfit.imp_left And.left

end Steps

theorem selectionInv_step {c c' : Config} {act : Act} (h : SelectionInv c)
    (hstep : S01Step c act c') (hasked : OwnerAsked ⟨c, act, c'⟩) : SelectionInv c' := by
  cases act with
  | node visit =>
    obtain ⟨_, hpos, _⟩ := GraphStep.spec hstep
    unfold SelectionInv at h
    rw [hpos] at h
    by_cases h80 : visit.node.number = 80
    · refine selectionInv_approving h hstep h80 (hasked ?_)
      rw [← h80, ← h.stage]
    · by_cases h90 : visit.node.number = 90
      · exact selectionInv_sealing h hstep h90
      · exact selectionInv_scoring h hstep h80 h90
  | resume interrupt command checkpointed =>
    -- nothing is pending, so there is nothing to resume
    have hnone : c.state.pendingInterrupt = none := by
      unfold SelectionInv at h
      split at h
      · exact h.pendingInterrupt
      · exact h.1
    have hsome := hstep.1
    rw [hnone] at hsome
    cases hsome

/-- As long as `S01.80` never has to ask an owner without a command at hand, the gate holds
in every state of every session of S01. -/
theorem selectionGated_of_run {c₀ c : Config} {tr : List (Transition Config Act)}
    (hstart : FreshSelection c₀) (hrun : Run S01Step c₀ tr c)
    (hasked : ∀ t ∈ tr, OwnerAsked t) : SelectionGated c.state := by
  have hinv : SelectionInv c := by
    induction hrun with
    | nil =>
      unfold SelectionInv
      rw [hstart.position]
      exact hstart.selecting
    | snoc _ hstep ih =>
      obtain ⟨hlast, hearlier⟩ := List.forall_mem_cons.mp hasked
      exact selectionInv_step (ih hearlier) hstep hlast
  unfold SelectionInv at hinv
  split at hinv
  · exact hinv.gated
  · exact hinv.2

instance (t : Transition Config Act) : Decidable (OwnerAsked t) :=
  match t with
  | ⟨_, .node _, _⟩ => inferInstanceAs (Decidable (_ → _ → _))
  | ⟨_, .resume .., _⟩ => inferInstanceAs (Decidable True)

theorem freshSelection_sampleCase (strategies : List SolutionStrategy) :
    FreshSelection (sampleCase strategies) where
  position := rfl
  ledger key execution h := by
    rw [sampleCase, Ledger.cached_empty] at h
    cases h
  pendingInterrupt := rfl
  s01Approval := rfl
  completedNodes := by simp [sampleCase]
  artifactRefs := by simp [sampleCase, sampleRefs, ArtifactRef.artifactType, Artifact.artifactType]

def selectionCompleted (out : List (Transition Config Act) × Config) : Bool :=
  decide (⟨.S01, 90⟩ ∈ out.2.state.completedNodes) && out.1.all (decide <| OwnerAsked ·)

/-- A low-risk winner is selected automatically. -/
theorem selectionGated_promptRiskCase :
    ∃ tr c, Run S01Step promptRiskCase tr c ∧ (∀ t ∈ tr, OwnerAsked t) ∧
      ⟨.S01, 90⟩ ∈ c.state.completedNodes ∧ SelectionGated c.state := by
  obtain ⟨tr, c, hrun, hcheck⟩ := exists_sessionRun sharedRegistry (firstNode .S01) s01Next promptRiskCase
    (List.replicate 9 (.answers sampleAnswers)) selectionCompleted (by decide +kernel)
  simp only [selectionCompleted, Bool.and_eq_true, decide_eq_true_eq, List.all_eq_true] at hcheck
  exact ⟨tr, c, hrun, hcheck.2, hcheck.1,
    selectionGated_of_run (freshSelection_sampleCase _) hrun hcheck.2⟩

def completedUnasked (out : List (Transition Config Act) × Config) : Bool :=
  decide (⟨.S01, 90⟩ ∈ out.2.state.completedNodes ∧ asksForOwner out.2.state = true ∧
    out.2.state.resumeCommand.isNone = true ∧
    out.2.state.pendingInterrupt.map (·.stage) = some ⟨.S01, 80⟩)

/-- A code change is selected while its owner's decision is still pending. -/
theorem pending_selection_is_sealed :
    ∃ tr c, Run S01Step codeRiskCase tr c ∧ ⟨.S01, 90⟩ ∈ c.state.completedNodes ∧
      asksForOwner c.state = true ∧ c.state.resumeCommand = none ∧
      c.state.pendingInterrupt.map (·.stage) = some ⟨.S01, 80⟩ ∧ ¬ SelectionGated c.state := by
  obtain ⟨tr, c, hrun, hcheck⟩ := exists_sessionRun sharedRegistry (firstNode .S01) s01Next codeRiskCase
    (List.replicate 9 (.answers sampleAnswers)) completedUnasked (by decide +kernel)
  obtain ⟨hcompleted, hasks, hnone, hpending⟩ := of_decide_eq_true hcheck
  have hcommand : c.state.resumeCommand = none := Option.isNone_iff_eq_none.mp hnone
  refine ⟨tr, c, hrun, hcompleted, hasks, hcommand, hpending, fun hgated => ?_⟩
  have hsupplied := hgated.completed hcompleted hasks
  rw [approveSupplied, hcommand] at hsupplied
  cases hsupplied

end ProductionOptimizer
