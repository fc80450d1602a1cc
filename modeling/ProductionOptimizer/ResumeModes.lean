import ProductionOptimizer.ApprovalBinding
import ProductionOptimizer.StageGates
import ProductionOptimizer.SharedRuns

/-!
# The two resume modes

`resume_case` restarts a halted case from `START`, or continues its checkpoint when a
config is given. Only the first way comes by the halted node again: the checkpoint goes on
behind the stage that was left, or nowhere once the graph has returned.
-/

namespace ProductionOptimizer
open Runs NumberedLog
set_option autoImplicit false

def keptRoutes (s : OptimizationState) (interrupt : InterruptEnvelope) :
    List ((NodeId × Nat) × NodeRoute) :=
  (s.nodeRoutes.erase (interrupt.stage, 0)).entries.map fun e => (e.1, e.2)

/-- `update_state`: every value goes through the reducer of its channel. -/
def updateState (s : OptimizationState) (interrupt : InterruptEnvelope)
    (command : ResumeInterruptCommand) : Except Failure OptimizationState :=
  match mergeArtifactRefs s.artifactRefs
      (s.artifactRefs.filter (·.contentDigest != interrupt.artifactDigest)),
    merge s.nodeRoutes (keptRoutes s interrupt) with
  | .ok refs, some routes =>
    .ok { s with
      artifactRefs := refs
      nodeRoutes := routes
      resumeCommand := some command
      resumeAttempts := s.resumeAttempts + 1
      resumeTargetNode := some interrupt.stage
      pendingInterrupt := none }
  | .error e, _ => .error e
  | .ok _, none => .error .routeConflict

theorem mergeArtifactRefs_of_mem {left right out : List ArtifactRef}
    (hmem : ∀ ref ∈ right, ref ∈ left) (h : mergeArtifactRefs left right = .ok out) :
    out = left := by
  induction right generalizing left with
  | nil =>
    cases h
    rfl
  | cons ref right ih =>
    simp only [mergeArtifactRefs, mergeArtifactRef] at h
    have href : ref ∈ left := hmem ref List.mem_cons_self
    have hrest : ∀ r ∈ right, r ∈ left := fun r hr => hmem r (List.mem_cons_of_mem _ hr)
    cases hfind : left.find? (ref.sameKey ·) with
    | none =>
      have hself := List.find?_eq_none.mp hfind ref href
      simp [ArtifactRef.sameKey] at hself
    | some existing =>
      rw [hfind] at h
      by_cases hc : existing.contentDigest = ref.contentDigest
      · simp only [hc, if_true] at h
        exact ih hrest h
      · simp only [hc, if_false] at h
        cases h

theorem lookup_of_mem_keptRoutes {s : OptimizationState} {interrupt : InterruptEnvelope}
    {e : (NodeId × Nat) × NodeRoute} (h : e ∈ keptRoutes s interrupt) :
    s.nodeRoutes.lookup e.1 = some e.2 := by
  obtain ⟨⟨key, route⟩, hmem, rfl⟩ := List.mem_map.mp h
  have hlookup := AList.mem_lookup_iff.mpr hmem
  have hkey : key ≠ (interrupt.stage, 0) := by
    rintro rfl
    rw [AList.lookup_erase] at hlookup
    cases hlookup
  rw [AList.lookup_erase_ne hkey] at hlookup
  exact hlookup

/-- The reducers are unions, so what was pruned is merged back. -/
theorem updateState_prunes_nothing {s s' : OptimizationState} {interrupt : InterruptEnvelope}
    {command : ResumeInterruptCommand} (h : updateState s interrupt command = .ok s') :
    { s' with nodeRoutes := s.nodeRoutes } = checkpointedState s interrupt command ∧
      ∀ key, s'.nodeRoutes.lookup key = s.nodeRoutes.lookup key := by
  have hkept : ∀ e ∈ keptRoutes s interrupt, s.nodeRoutes.lookup e.1 = some e.2 :=
    fun e he => lookup_of_mem_keptRoutes he
  obtain ⟨routes, hmerge, hlookup⟩ := merge_of_lookup hkept
  unfold updateState at h
  rw [hmerge] at h
  split at h
  · rename_i refs routes' hrefs heq
    cases heq
    cases h
    have hsame := mergeArtifactRefs_of_mem (fun ref href => (List.mem_filter.mp href).1) hrefs
    subst hsame
    exact ⟨rfl, hlookup⟩
  · cases h
  · rename_i heq
    cases heq

def Later (n m : NodeId) : Prop :=
  sharedStages.idxOf n.stage < sharedStages.idxOf m.stage ∨
    (n.stage = m.stage ∧ n.number < m.number)

theorem not_later_self (n : NodeId) : ¬ Later n n := by
  rintro (h | ⟨_, h⟩)
  · exact Nat.lt_irrefl _ h
  · exact Nat.lt_irrefl _ h

/-- The stages behind which `run.py` pauses the checkpointed graph. -/
def pausedStages : List Stage := [.S01, .S02]

/-- The run has stopped with an interrupt of one of the gates pending: the invocation has
returned, or it is paused behind the stage of the gate. -/
structure Halted (tr : List (Transition Config Act)) (c : Config)
    (interrupt : InterruptEnvelope) : Prop where
  pending : c.state.pendingInterrupt = some interrupt
  gate : interrupt.stage ∈ approvalNodes
  stopped : c.position = none ∨
    ∃ before visit earlier, tr = ⟨before, .node visit, c⟩ :: earlier ∧
      visit.node.stage = interrupt.stage.stage ∧ visit.node.stage ∈ pausedStages ∧
      innerNext visit.node (c.state.routeFor visit.node) = none

/-- Where the next invocation starts. `graph.invoke(None)` goes on with the node after the
last completed one. -/
def resumeCase (checkpointed : Bool) (c : Config) (interrupt : InterruptEnvelope)
    (command : ResumeInterruptCommand) : Except Failure Config :=
  if checkpointed then
    (updateState c.state interrupt command).map fun s => ⟨c.position, s, c.ledger⟩
  else .ok ⟨some sharedGraph.start, resumedState c.state interrupt command, c.ledger⟩

/-- A step in an environment that answers every intent in a fixed way. -/
def EnvStep (env : IdempotencyKey → Answers) (c : Config) (visit : Visit) (c' : Config) : Prop :=
  advance sharedRegistry nextPosition c (env visit.key) = some (visit, c')

/-- The halted node is executed once under the command before any later node. -/
def ExecutesUnder (n : NodeId) (command : ResumeInterruptCommand) (tr : SharedTrace) : Prop :=
  ∃ later t earlier, tr = later ++ t :: earlier ∧ t.label.node = n ∧
    t.before.state.resumeCommand = some command ∧
    ∀ u ∈ earlier, u.label.node ≠ n ∧ ¬ Later n u.label.node

/-- A complete invocation that `resume_case` makes in the given mode. -/
def Resumes (env : IdempotencyKey → Answers) (checkpointed : Bool) (c : Config)
    (interrupt : InterruptEnvelope) (command : ResumeInterruptCommand) (tr : SharedTrace)
    (c' : Config) : Prop :=
  ∃ c₁, resumeCase checkpointed c interrupt command = .ok c₁ ∧ Run (EnvStep env) c₁ tr c' ∧
    c'.position = none

/-- The same routes, approval records and artifact keys. -/
structure SameOutcome (s s' : OptimizationState) : Prop where
  routes : ∀ n, s.routeFor n = s'.routeFor n
  selection : s.s01Approval = s'.s01Approval
  plan : s.s02Approval = s'.s02Approval
  apply : s.s06Apply = s'.s06Apply
  artifacts : ∀ t id, (∃ ref ∈ s.artifactRefs, ref.artifactType = t ∧ ref.artifactId = id) ↔
    ∃ ref ∈ s'.artifactRefs, ref.artifactType = t ∧ ref.artifactId = id

/-- What the two modes owe each other in one environment. -/
def ModesAgree (env : IdempotencyKey → Answers) (c : Config) (interrupt : InterruptEnvelope)
    (command : ResumeInterruptCommand) : Prop :=
  ∃ tr₁ c₁ tr₂ c₂,
    Resumes env false c interrupt command tr₁ c₁ ∧ ExecutesUnder interrupt.stage command tr₁ ∧
    Resumes env true c interrupt command tr₂ c₂ ∧ ExecutesUnder interrupt.stage command tr₂ ∧
    SameOutcome c₁.state c₂.state

section Modes
variable {c₀ c c' : Config} {tr : List (Transition Config Act)} {interrupt : InterruptEnvelope}
  {command : ResumeInterruptCommand} {env : IdempotencyKey → Answers}

/-- Where a halted run would go on, everything is later than the halted node. -/
theorem later_of_halted (hrun : Run (SessionStep sharedRegistry sharedGraph) c₀ tr c)
    (h : Halted tr c interrupt) {m : NodeId} (hm : c.position = some m) :
    Later interrupt.stage m := by
  rcases h.stopped with hnone | ⟨before, visit, earlier, rfl, hstage, hpaused, hinner⟩
  · rw [hnone] at hm
    cases hm
  · obtain ⟨_, hstep⟩ := hrun.last_step
    have hnext := (SharedStep.position_eq hstep).2
    rw [hm, nextPosition_of_innerNext_none hinner, hstage] at hnext
    obtain ⟨stage, houter, hfirst⟩ := Option.map_eq_some_iff.mp hnext.symm
    rw [hstage] at hpaused
    simp only [pausedStages, List.mem_cons, List.not_mem_nil, or_false] at hpaused
    left
    rcases hpaused with hs | hs
    · rw [hs] at houter ⊢
      rw [← hfirst, (completedGate_some houter).2]
      decide
    · rw [hs] at houter ⊢
      rw [← hfirst, (completedGate_some houter).2]
      decide

/-- A run that starts behind a node comes to a later node first. -/
theorem not_executesUnder {n : NodeId} {tr : SharedTrace}
    (hlater : ∀ m, c.position = some m → Later n m) (hrun : Run (EnvStep env) c tr c') :
    ¬ ExecutesUnder n command tr := by
  rintro ⟨later, t, earlier, rfl, hnode, _, hearlier⟩
  obtain ⟨_, hfirst, _⟩ := hrun.split
  obtain ⟨u, hmem, _, hstep⟩ := hfirst.exists_oldest (List.cons_ne_nil _ _)
  obtain ⟨hpos, _⟩ := SharedStep.position_eq
    (graphStep_of_advance sharedRegistry (firstNode .S01) nextPosition hstep)
  have hu := hlater _ hpos
  rcases List.mem_cons.mp hmem with rfl | hold
  · rw [hnode] at hu
    exact not_later_self n hu
  · exact (hearlier u hold).2 hu

theorem checkpointed_skips_halted
    (hrun : Run (SessionStep sharedRegistry sharedGraph) c₀ tr c) (h : Halted tr c interrupt)
    {tr' : SharedTrace} (hresume : Resumes env true c interrupt command tr' c') :
    ¬ ExecutesUnder interrupt.stage command tr' := by
  obtain ⟨c₁, hcase, hrun', _⟩ := hresume
  obtain ⟨s, _, rfl⟩ := except_map_eq_ok hcase
  refine not_executesUnder (fun m hm => ?_) hrun'
  exact later_of_halted hrun h hm

/-- Whatever run is halted and whatever its owner answers, the two modes part. -/
theorem resume_modes_part (hrun : Run (SessionStep sharedRegistry sharedGraph) c₀ tr c)
    (h : Halted tr c interrupt) : ¬ ModesAgree env c interrupt command := by
  rintro ⟨_, _, tr₂, c₂, _, _, hresume, hexecutes, _⟩
  exact checkpointed_skips_halted hrun h hresume hexecutes

end Modes

/-! ### A selection that waits for its owner -/

/-- The last node of a restart is the halted one, and only nodes of its stage came before. -/
def endsAtHalted (n : NodeId) (command : ResumeInterruptCommand)
    (out : SharedTrace × Config) : Bool :=
  match out.1 with
  | [] => false
  | t :: earlier =>
    decide (t.label.node = n) && decide (t.before.state.resumeCommand = some command) &&
      earlier.all fun u => decide (u.label.node.stage = n.stage ∧ u.label.node.number < n.number)

theorem executesUnder_of_endsAtHalted {n : NodeId} {command : ResumeInterruptCommand}
    {out : SharedTrace × Config} (h : endsAtHalted n command out = true) :
    ExecutesUnder n command out.1 := by
  unfold endsAtHalted at h
  split at h
  · cases h
  · rename_i t earlier htr
    simp only [Bool.and_eq_true, decide_eq_true_eq, List.all_eq_true] at h
    obtain ⟨⟨hnode, hcommand⟩, hearlier⟩ := h
    refine ⟨[], t, earlier, htr, hnode, hcommand, fun u hu => ?_⟩
    obtain ⟨hstage, hnumber⟩ := hearlier u hu
    constructor
    · intro heq
      rw [heq] at hnumber
      exact Nat.lt_irrefl _ hnumber
    · rintro (hlt | ⟨_, hlt⟩)
      · rw [hstage] at hlt
        exact Nat.lt_irrefl _ hlt
      · omega

/-- The first invocation is paused behind S01 with the selection pending, and a restart
comes back to `S01.80` under the owner's command. -/
def selectionPaused (out : List (Transition Config Act) × Config) : Bool :=
  match out.1, out.2.state.pendingInterrupt, ownerApprovesPending out.2 with
  | ⟨_, .node visit, after⟩ :: _, some interrupt, .resume command actor now =>
    decide (interrupt.stage = ⟨.S01, 80⟩ ∧ visit.node = ⟨.S01, 90⟩ ∧
      authorizeResume command interrupt actor now = []) &&
    (replay (fun d (_ : Unit) => advance sharedRegistry nextPosition d sampleAnswers)
      (List.replicate 8 ()) [] ⟨some sharedGraph.start, resumedState after.state interrupt command,
        after.ledger⟩).any (endsAtHalted ⟨.S01, 80⟩ command)
  | _, _, _ => false

/-- `resume_case` in the given mode makes a run that executes the halted node. -/
def ReachesHalted (checkpointed : Bool) (c : Config) (interrupt : InterruptEnvelope)
    (command : ResumeInterruptCommand) : Prop :=
  ∃ c₁ tr c', resumeCase checkpointed c interrupt command = .ok c₁ ∧
    Run (EnvStep fun _ => sampleAnswers) c₁ tr c' ∧ ExecutesUnder interrupt.stage command tr

theorem exists_paused_selection :
    ∃ tr c interrupt command actor now,
      Run (SessionStep sharedRegistry sharedGraph) codeRiskCase tr c ∧
      Halted tr c interrupt ∧ authorizeResume command interrupt actor now = [] ∧
      ReachesHalted false c interrupt command := by
  obtain ⟨tr, c, hrun, hcheck⟩ := exists_sessionRun sharedRegistry (firstNode .S01) nextPosition
    codeRiskCase (List.replicate 9 (.answers sampleAnswers)) selectionPaused (by decide +kernel)
  unfold selectionPaused at hcheck
  split at hcheck
  · rename_i before visit after earlier interrupt command actor now htr hpending _
    simp only at htr hpending
    subst htr
    have hafter : after = c := by
      cases hrun
      rfl
    subst hafter
    rw [Bool.and_eq_true, decide_eq_true_eq] at hcheck
    obtain ⟨⟨hstage, hnode, hauth⟩, hrestart⟩ := hcheck
    have hhalted : Halted (⟨before, .node visit, after⟩ :: earlier) after interrupt :=
      { pending := hpending
        gate := by
          rw [hstage]
          decide
        stopped := Or.inr ⟨before, visit, earlier, rfl, by rw [hnode, hstage],
          by rw [hnode]; decide, by rw [hnode]; rfl⟩ }
    have hanswers : ∀ d (_ : Unit) visit d',
        advance sharedRegistry nextPosition d sampleAnswers = some (visit, d') →
          EnvStep (fun _ => sampleAnswers) d visit d' := fun _ _ _ _ h => h
    obtain ⟨tr', c', hrun', hends⟩ := exists_run_of_replay _ hanswers _ _ _ hrestart
    refine ⟨_, after, interrupt, command, actor, now, hrun, hhalted, hauth, ?_⟩
    refine ⟨_, tr', c', rfl, hrun', ?_⟩
    rw [hstage]
    exact executesUnder_of_endsAtHalted hends
  · cases hcheck

theorem resume_modes_part_at_selection :
    ∃ tr c interrupt, Run (SessionStep sharedRegistry sharedGraph) codeRiskCase tr c ∧
      Halted tr c interrupt ∧ ∀ env command, ¬ ModesAgree env c interrupt command := by
  obtain ⟨tr, c, interrupt, _, _, _, hrun, hhalted, _⟩ := exists_paused_selection
  exact ⟨tr, c, interrupt, hrun, hhalted, fun _ _ => resume_modes_part hrun hhalted⟩

/-- A restart executes `S01.80` under the owner's approval, the checkpoint does not. -/
theorem checkpoint_ignores_selection_approval :
    ∃ tr c interrupt command actor now,
      Run (SessionStep sharedRegistry sharedGraph) codeRiskCase tr c ∧
      Halted tr c interrupt ∧ authorizeResume command interrupt actor now = [] ∧
      ReachesHalted false c interrupt command ∧
      ∀ env, ¬ ModesAgree env c interrupt command := by
  obtain ⟨tr, c, interrupt, command, actor, now, hrun, hhalted, hauth, hrestart⟩ :=
    exists_paused_selection
  refine ⟨tr, c, interrupt, command, actor, now, hrun, hhalted, hauth, hrestart, ?_⟩
  rintro env ⟨_, _, _, _, _, _, hresume, hexecutes, _⟩
  exact checkpointed_skips_halted hrun hhalted hresume hexecutes

end ProductionOptimizer
