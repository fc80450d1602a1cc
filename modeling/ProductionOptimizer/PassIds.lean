import ProductionOptimizer.SessionPasses
import ProductionOptimizer.ApprovalBinding

/-!
# Ids of different passes

Whatever a sealing node returns behind a back edge is to be sealed under other ids than
those of its earlier executions. S03 to S06 scope by the counter that also numbers their
keys; S01 is scoped by a counter that its keys do not carry, and the plan of S02 by none.
-/

namespace ProductionOptimizer
open Runs NumberedLog
set_option autoImplicit false

/-- The back edges: a redraft in S02, a failed verification or a repair, a revert. -/
def LoopTransition (t : Transition Config Act) : Prop :=
  match t.label with
  | .node visit =>
    (visit.node = ⟨.S02, 81⟩ ∧ t.after.position = some ⟨.S02, 30⟩) ∨
      RepairEdge ⟨t.before, visit, t.after⟩ ∨ RevertEdge ⟨t.before, visit, t.after⟩
  | .resume _ _ _ => False

instance : DecidablePred LoopTransition
  | ⟨before, .node visit, after⟩ => inferInstanceAs (Decidable
      ((visit.node = ⟨.S02, 81⟩ ∧ after.position = some ⟨.S02, 30⟩) ∨
        RepairEdge ⟨before, visit, after⟩ ∨ RevertEdge ⟨before, visit, after⟩))
  | ⟨_, .resume _ _ _, _⟩ => inferInstanceAs (Decidable False)

def behindLoop (tr : SessionTrace) : SessionTrace :=
  tr.dropWhile fun t => !decide (LoopTransition t)

/-- What `execute` has at hand before it commits: the recorded execution under the node's
key, or else what the handler makes of the answers. -/
def Returns (c : Config) (a : Answers) (n : NodeId) (execution : NodeExecution) : Prop :=
  c.position = some n ∧
    match c.ledger.cached (deriveIdempotencyKey n c.state) with
    | some recorded => execution = recorded
    | none => nodeHandler n a c.state = .ok execution

/-- The execution of `n` seals under other keys than every execution of `n` behind a back
edge, and merges with what that one sealed. -/
structure SeparateIds (tr : SessionTrace) (n : NodeId) (execution : NodeExecution) : Prop where
  ids : ∀ t ∈ behindLoop tr, ∀ visit, Executes t n visit →
    ∀ ref ∈ execution.artifactRefs, ∀ ref' ∈ visit.execution.artifactRefs,
      ref.sameKey ref' = false
  merges : ∀ t ∈ behindLoop tr, ∀ visit, Executes t n visit →
    ∃ merged, mergeArtifactRefs visit.execution.artifactRefs execution.artifactRefs = .ok merged

/-- Behind a back edge, S01 is executed afresh and with more exclusions than before, and
`S02.81` does not accept a second draft. -/
structure ClearSeal (tr : SessionTrace) (c : Config) (a : Answers) (n : NodeId) : Prop where
  selection : n.stage = .S01 → ∀ t ∈ behindLoop tr, ∀ visit, Executes t n visit →
    c.ledger.cached (deriveIdempotencyKey n c.state) = none ∧
      t.before.state.s01ExcludedStrategyIds.length < c.state.s01ExcludedStrategyIds.length
  plan : n = ⟨.S02, 81⟩ → Accepts a c.state → ∀ t ∈ behindLoop tr, ∀ visit, Executes t n visit →
    visit.execution.route ≠ .continue_

section Separate
variable {portfolio : SolutionPortfolio} {c₀ c : Config} {tr : SessionTrace} {visit : Visit}
  {n : NodeId} {a : Answers} {execution : NodeExecution} {t : Transition Config Act}

theorem mem_of_mem_behindLoop (h : t ∈ behindLoop tr) : t ∈ tr :=
  (List.dropWhile_suffix _).subset h

theorem scope_loop {s : OptimizationState} {id : ArtifactId} (hloop : n.stage ∈ loopStages)
    (h : Scope n s execution id) : ∃ phaseId, id = .phasePass n phaseId s.s03RevisionAttempts := by
  simp only [loopStages, List.mem_cons, List.not_mem_nil, or_false] at hloop
  unfold Scope at h
  rcases hloop with hstage | hstage | hstage | hstage <;> rw [hstage] at h <;> exact h

theorem stage_of_sealing : ∀ n ∈ sealingNodes, n.stage ∈ sharedStages ∧
    (n.stage = .S01 ∨ n = ⟨.S02, 81⟩ ∨ n.stage ∈ loopStages) := by decide

theorem sealed_of_returns (hstart : Converged portfolio c₀) (hrun : Run SharedSession c₀ tr c)
    (hn : n ∈ sealingNodes) (hreturns : Returns c a n execution) :
    ∃ s, SealsUnder n s execution ∧ revisionPass n.stage s = revisionPass n.stage c.state := by
  obtain ⟨_, hresult⟩ := hreturns
  split at hresult
  · rename_i recorded hcached
    subst hresult
    obtain ⟨t, _, _, _, hkey, a', hhandler⟩ :=
      (ran_of_session hstart hrun).2 _ _ hcached (stage_of_sealing n hn).1
    refine ⟨t.before.state, nodeHandler_seals hn _ hhandler, ?_⟩
    exact (congrArg IdempotencyKey.revision hkey).symm
  · exact ⟨c.state, nodeHandler_seals hn _ hresult, rfl⟩

theorem sealed_behindLoop (hstart : Converged portfolio c₀) (hrun : Run SharedSession c₀ tr c)
    (hn : n ∈ sealingNodes) (ht : t ∈ behindLoop tr) (hexecutes : Executes t n visit) :
    ∃ u ∈ behindLoop tr, (∃ first, Executes u n first) ∧
      SealsUnder n u.before.state visit.execution ∧
      revisionPass n.stage u.before.state = visit.key.revision := by
  have hnode : visit.key.node = n := hexecutes.2
  have hsplit := List.takeWhile_append_dropWhile (p := fun t => !decide (LoopTransition t)) (l := tr)
  rw [← hsplit] at hrun
  obtain ⟨c₁, hrun₁, _⟩ := hrun.split
  have hcached := recorded_of_mem hrun₁ ht hexecutes
  obtain ⟨u, hu, first, hfirst, hkey, a', hhandler⟩ :=
    (ran_of_session hstart hrun₁).2 _ _ hcached (by rw [hnode]; exact (stage_of_sealing n hn).1)
  rw [hnode] at hfirst hkey hhandler
  refine ⟨u, hu, ⟨first, hfirst⟩, nodeHandler_seals hn _ hhandler, ?_⟩
  exact (congrArg IdempotencyKey.revision hkey).symm

/-- S01, executed afresh under more exclusions. -/
theorem separate_selection (hstart : Converged portfolio c₀) (hrun : Run SharedSession c₀ tr c)
    (hn : n ∈ sealingNodes) (hstage : n.stage = .S01) (hreturns : Returns c a n execution)
    (hseal : ClearSeal tr c a n) (ht : t ∈ behindLoop tr) (hexecutes : Executes t n visit)
    {ref ref' : ArtifactRef} (href : ref ∈ execution.artifactRefs)
    (href' : ref' ∈ visit.execution.artifactRefs) : ref.artifactId ≠ ref'.artifactId := by
  obtain ⟨u, hu, ⟨first, hfirst⟩, hearlier, _⟩ :=
    sealed_behindLoop hstart hrun hn ht hexecutes
  obtain ⟨hnone, hlonger⟩ := hseal.selection hstage u hu first hfirst
  obtain ⟨_, hresult⟩ := hreturns
  rw [hnone] at hresult
  have hscope := (nodeHandler_seals hn _ hresult).ids ref href
  have hscope' := hearlier.ids ref' href'
  rw [Scope, hstage] at hscope hscope'
  obtain ⟨node, hid⟩ := hscope
  obtain ⟨node', hid'⟩ := hscope'
  rw [hid, hid']
  intro heq
  have hlength := (ArtifactId.stagePass.inj heq).2
  omega

/-- `S02.81`, with another count of drafts, and only one of the two accepting. -/
theorem separate_plan (hstart : Converged portfolio c₀) (hrun : Run SharedSession c₀ tr c)
    (hinv : SessionInv c) (hn : n ∈ sealingNodes) (hnode : n = ⟨.S02, 81⟩)
    (hreturns : Returns c a n execution) (hseal : ClearSeal tr c a n) (ht : t ∈ behindLoop tr)
    (hexecutes : Executes t n visit) {ref ref' : ArtifactRef}
    (href : ref ∈ execution.artifactRefs) (href' : ref' ∈ visit.execution.artifactRefs) :
    ref.artifactId ≠ ref'.artifactId := by
  obtain ⟨s, hlater, hrevision⟩ := sealed_of_returns hstart hrun hn hreturns
  obtain ⟨u, _, _, hearlier, hrevision'⟩ := sealed_behindLoop hstart hrun hn ht hexecutes
  have hcached := recorded_of_mem hrun (mem_of_mem_behindLoop ht) hexecutes
  have hlt := hinv.drafts _ _ hcached (hexecutes.2.trans hnode)
  have hscope := hlater.ids ref href
  have hscope' := hearlier.ids ref' href'
  subst hnode
  have hcount : s.s02RevisionAttempts = c.state.s02RevisionAttempts := hrevision
  have hcount' : u.before.state.s02RevisionAttempts = visit.key.revision := hrevision'
  rcases hscope with hid | ⟨hid, hroute⟩ <;> rcases hscope' with hid' | ⟨hid', hroute'⟩
  · rw [hid, hid']
    intro heq
    have hsame := (ArtifactId.stagePass.inj heq).2
    omega
  · rw [hid, hid']
    exact ArtifactId.noConfusion
  · rw [hid, hid']
    exact ArtifactId.noConfusion
  · -- both accepted: the present one would be a second plan
    obtain ⟨_, hresult⟩ := hreturns
    split at hresult
    · rename_i recorded hrecorded
      exact absurd (hinv.drafts _ _ hrecorded rfl) (Nat.lt_irrefl _)
    · exact absurd hroute' (hseal.plan rfl (accepts_of_continue hresult hroute) t ht visit hexecutes)

theorem separate_pass (hstart : Converged portfolio c₀) (hrun : Run SharedSession c₀ tr c)
    (hinv : SessionInv c) (hn : n ∈ sealingNodes) (hloop : n.stage ∈ loopStages)
    (hreturns : Returns c a n execution) (ht : t ∈ behindLoop tr)
    (hexecutes : Executes t n visit) {ref ref' : ArtifactRef}
    (href : ref ∈ execution.artifactRefs) (href' : ref' ∈ visit.execution.artifactRefs) :
    ref.artifactId ≠ ref'.artifactId := by
  obtain ⟨s, hlater, hrevision⟩ := sealed_of_returns hstart hrun hn hreturns
  obtain ⟨u, _, _, hearlier, hrevision'⟩ := sealed_behindLoop hstart hrun hn ht hexecutes
  rw [revisionPass_loop hloop, revisionPass_loop hloop] at hrevision
  rw [revisionPass_loop hloop] at hrevision'
  have hcached := recorded_of_mem hrun (mem_of_mem_behindLoop ht) hexecutes
  have hnode : visit.key.node = n := hexecutes.2
  obtain ⟨phaseId, hid⟩ := scope_loop hloop (hlater.ids ref href)
  obtain ⟨phaseId', hid'⟩ := scope_loop hloop (hearlier.ids ref' href')
  rcases (hinv.looping n hreturns.1 hloop).keys _ _ hcached (by rw [hnode]; exact hloop) with
    hlt | ⟨_, _, hrank | ⟨_, hidle⟩⟩
  · rw [hid, hid']
    intro heq
    have hsame := (ArtifactId.phasePass.inj heq).2.2
    omega
  · rw [hnode] at hrank
    exact absurd hrank (Nat.lt_irrefl _)
  · rw [hidle] at href'
    cases href'

/-- In every session that leaves no stage on a stale record, a sealing node that is executed
afresh behind a back edge seals under ids of its own, and without a conflict. -/
theorem separateIds_of_session (hstart : Converged portfolio c₀)
    (hrun : Run SharedSession c₀ tr c) (hclear : ∀ t ∈ tr, ClearLeave t)
    (hn : n ∈ sealingNodes) (hreturns : Returns c a n execution) (hseal : ClearSeal tr c a n) :
    SeparateIds tr n execution := by
  have hinv := sessionInv_of_run hstart hrun hclear
  have hids : ∀ t ∈ behindLoop tr, ∀ visit, Executes t n visit →
      ∀ ref ∈ execution.artifactRefs, ∀ ref' ∈ visit.execution.artifactRefs,
        ref.sameKey ref' = false := by
    intro t ht visit hexecutes ref href ref' href'
    apply sameKey_eq_false
    rcases (stage_of_sealing n hn).2 with hstage | hnode | hloop
    · exact separate_selection hstart hrun hn hstage hreturns hseal ht hexecutes href href'
    · exact separate_plan hstart hrun hinv hn hnode hreturns hseal ht hexecutes href href'
    · exact separate_pass hstart hrun hinv hn hloop hreturns ht hexecutes href href'
  obtain ⟨s, hsealed, _⟩ := sealed_of_returns hstart hrun hn hreturns
  refine ⟨hids, fun t ht visit hexecutes => ?_⟩
  have hmerged := mergeArtifactRefs_of_separate (hids t ht visit hexecutes) hsealed.types
  exact ⟨_, hmerged⟩

end Separate

/-! ### Sessions -/

def returned (c : Config) (a : Answers) (n : NodeId) : Option NodeExecution :=
  if c.position = some n then
    match c.ledger.cached (deriveIdempotencyKey n c.state) with
    | some recorded => some recorded
    | none => (nodeHandler n a c.state).toOption
  else none

theorem returns_of_returned {c : Config} {a : Answers} {n : NodeId} {execution : NodeExecution}
    (h : returned c a n = some execution) : Returns c a n execution := by
  unfold returned at h
  split at h
  · rename_i hpos
    refine ⟨hpos, ?_⟩
    split at h
    · exact (Option.some.inj h).symm
    · exact eq_ok_of_toOption h
  · cases h

def repeats (tr : SessionTrace) (n : NodeId) (execution : NodeExecution) : Bool :=
  (behindLoop tr).any fun t =>
    match t.label with
    | .node visit => decide (visit.node = n) && execution.artifactRefs.any fun ref =>
        visit.execution.artifactRefs.any (ref.sameKey ·)
    | .resume _ _ _ => false

theorem not_separateIds_of_repeats {tr : SessionTrace} {n : NodeId} {execution : NodeExecution}
    (h : repeats tr n execution = true) : ¬ SeparateIds tr n execution := by
  intro hseparate
  obtain ⟨t, ht, hsame⟩ := List.any_eq_true.mp h
  split at hsame
  · rename_i visit hlabel
    obtain ⟨hnode, hany⟩ := Bool.and_eq_true_iff.mp hsame
    obtain ⟨ref, href, hany⟩ := List.any_eq_true.mp hany
    obtain ⟨ref', href', hkey⟩ := List.any_eq_true.mp hany
    have hne := hseparate.ids t ht visit ⟨hlabel, of_decide_eq_true hnode⟩ ref href ref' href'
    rw [hkey] at hne
    cases hne
  · cases hsame

def sealsAgain (tr : SessionTrace) (n : NodeId) : Bool :=
  (behindLoop tr).any fun t =>
    match t.label with
    | .node visit => decide (visit.node = n ∧ visit.execution.artifactRefs ≠ [])
    | .resume _ _ _ => false

def sealsSecondPatch (out : SessionTrace × Config) : Bool :=
  out.1.all (decide <| ClearLeave ·) && (sealsAgain out.1 ⟨.S03, 80⟩ &&
    (returned out.2 failingChecks ⟨.S03, 80⟩).any fun execution =>
      !execution.artifactRefs.isEmpty)

/-- A patch of the second pass, after the checks of the first one have failed. -/
theorem separateIds_failingChecks :
    ∃ tr c execution, Run SharedSession promptRiskCase tr c ∧
      Returns c failingChecks ⟨.S03, 80⟩ execution ∧ sealsAgain tr ⟨.S03, 80⟩ = true ∧
      execution.artifactRefs ≠ [] ∧ SeparateIds tr ⟨.S03, 80⟩ execution := by
  obtain ⟨tr, c, hrun, hcheck⟩ := exists_sessionRun sharedRegistry (firstNode .S01) nextPosition
    promptRiskCase (List.replicate 44 (.answers failingChecks)) sealsSecondPatch (by decide +kernel)
  obtain ⟨hclear, hcheck⟩ := Bool.and_eq_true_iff.mp hcheck
  obtain ⟨hagain, hany⟩ := Bool.and_eq_true_iff.mp hcheck
  obtain ⟨execution, hreturned, hrefs⟩ := (Option.any_eq_true _ _).mp hany
  have hreturns := returns_of_returned hreturned
  have hclear' : ∀ t ∈ tr, ClearLeave t := by simpa using hclear
  refine ⟨tr, c, execution, hrun, hreturns, hagain, ?_, ?_⟩
  · intro hnil
    rw [hnil] at hrefs
    cases hrefs
  · refine separateIds_of_session (converged_sampleCase _) hrun hclear' (by decide) hreturns ?_
    constructor
    · intro hstage
      cases hstage
    · intro hnode
      cases hnode

/-- The checks fail once; the kept patch then needs its owner, who approves it. -/
def approvedPatch : List (Config → Stimulus Answers) :=
  List.replicate 37 (fun _ => .answers failingChecks) ++
    List.replicate 36 (fun _ => .answers
      { sampleAnswers with policy := some ⟨true, "require_approval", "v1", []⟩ }) ++
    [ownerApprovesPending] ++ List.replicate 17 (fun _ => .answers sampleAnswers)

def laterAnswers : Answers := { sampleAnswers with now := 1 }

def mergeConflicts (c : Config) (execution : NodeExecution) : Bool :=
  match mergeArtifactRefs c.state.artifactRefs execution.artifactRefs with
  | .error .artifactConflict => true
  | _ => false

/-- After a revert `S01.80` returns the ranking of the first pass. And when a case is resumed
behind a failed verification, `S02.81` seals a second plan under the id of the first one,
and the merge raises. -/
theorem passes_share_ids :
    (∃ tr c execution, Run SharedSession promptRiskCase tr c ∧
      Returns c worseAnswers ⟨.S01, 80⟩ execution ∧ ¬ SeparateIds tr ⟨.S01, 80⟩ execution) ∧
    ∃ tr c execution, Run SharedSession promptRiskCase tr c ∧
      Returns c laterAnswers ⟨.S02, 81⟩ execution ∧
      mergeArtifactRefs c.state.artifactRefs execution.artifactRefs = .error .artifactConflict ∧
      ¬ SeparateIds tr ⟨.S02, 81⟩ execution := by
  constructor
  · obtain ⟨tr, c, hrun, hcheck⟩ := exists_sessionRun sharedRegistry (firstNode .S01) nextPosition
      promptRiskCase (List.replicate 62 (.answers worseAnswers))
      (fun out => (returned out.2 worseAnswers ⟨.S01, 80⟩).any (repeats out.1 ⟨.S01, 80⟩))
      (by decide +kernel)
    obtain ⟨execution, hreturned, hrepeats⟩ := (Option.any_eq_true _ _).mp hcheck
    exact ⟨tr, c, execution, hrun, returns_of_returned hreturned,
      not_separateIds_of_repeats hrepeats⟩
  · obtain ⟨tr, c, hrun, hcheck⟩ := exists_scriptedRun sharedRegistry (firstNode .S01) nextPosition
      promptRiskCase approvedPatch
      (fun out => (returned out.2 laterAnswers ⟨.S02, 81⟩).any fun execution =>
        repeats out.1 ⟨.S02, 81⟩ execution && mergeConflicts out.2 execution)
      (by decide +kernel)
    obtain ⟨execution, hreturned, hboth⟩ := (Option.any_eq_true _ _).mp hcheck
    obtain ⟨hrepeats, hconflict⟩ := Bool.and_eq_true_iff.mp hboth
    refine ⟨tr, c, execution, hrun, returns_of_returned hreturned, ?_,
      not_separateIds_of_repeats hrepeats⟩
    unfold mergeConflicts at hconflict
    split at hconflict
    · rename_i hmerge
      exact hmerge
    · cases hconflict

end ProductionOptimizer
