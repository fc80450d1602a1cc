import ProductionOptimizer.RepairPasses

/-!
# Does a repair decision repair the active phase?

`S04.90` promotes the tasks of a phase on the strength of its checks, before S05 and S06
judge the phase. By the time `S06.80` decides on a repair the phase has no open task left,
so `S03.10` cannot pick it again.
-/

namespace ProductionOptimizer
open Runs NumberedLog
set_option autoImplicit false

/-- S06 has decided on a repair and the outer graph re-enters S03. -/
def FixEdge (t : Transition Config Visit) : Prop :=
  t.label.node = ⟨.S06, 90⟩ ∧ t.after.state.s06Decision = some .fixOnePart ∧
    t.after.position = some (firstNode .S03)

/-- The step selects the phase that was active when the repair was decided. -/
def SelectsSamePhase (t u : Transition Config Visit) : Prop :=
  ∃ phaseId, t.after.state.s03ActivePhaseId = some phaseId ∧
    .s03ActivePhaseId phaseId ∈ u.label.execution.updates

def FixesRepair (tr : SharedTrace) : Prop :=
  ∀ later u t earlier, tr = later ++ u :: t :: earlier → FixEdge t → SelectsSamePhase t u

def Promoted (s : OptimizationState) (phaseId : String) : Prop :=
  ∃ tasks, s.readTaskList = .ok tasks ∧
    ∀ taskId ∈ phaseTaskIds tasks phaseId, taskId ∈ s.s03CompletedTaskIds

/-- A sealed verdict of `S04.90` has had its effect: a pass promoted the phase, a failure
closed the pass. -/
def ReportEffective (s : OptimizationState) (ref : ArtifactRef) : Prop :=
  ∀ phaseId revision now patchDigest provenanceDigest reportPhase results attributions passed,
    ref.artifactId = .phasePass ⟨.S04, 90⟩ phaseId revision →
    ref.contentDigest = .verificationReport now patchDigest provenanceDigest reportPhase results
      attributions passed →
    if passed then Promoted s phaseId else revision < s.s03RevisionAttempts

structure RepairInv (c : Config) : Prop extends PassInv c where
  keys : ∀ key execution, c.ledger.cached key = some execution → key.node ∈ catalog →
    key = { deriveIdempotencyKey key.node c.state with revision := key.revision }
  committedRefs : RefsCommitted c
  verdicts : ∀ key execution, c.ledger.cached key = some execution → key.node = ⟨.S04, 90⟩ →
    key.revision = c.state.s03RevisionAttempts → ∃ ids,
      execution.updates = [.s03CompletedTaskIds ids] ∧ c.state.s03CompletedTaskIds = ids
  decisions : ∀ key execution, c.ledger.cached key = some execution → key.node = ⟨.S06, 80⟩ →
    ∀ s : OptimizationState, (s.setAll execution.updates).s06Decision = some .fixOnePart →
      Bumps execution
  reports : ∀ ref ∈ c.state.artifactRefs, ReportEffective c.state ref

theorem Converged.repairInv {portfolio : SolutionPortfolio} {c : Config}
    (h : Converged portfolio c) : RepairInv c where
  toPassInv := h.passInv
  keys key execution hcached hmem :=
    absurd (stage_of_mem_catalog _ hmem) (h.ledger key execution hcached)
  committedRefs := h.refsCommitted
  verdicts key execution hcached hnode := by
    refine absurd ?_ (h.ledger key execution hcached)
    rw [hnode]
    decide
  decisions key execution hcached hnode := by
    refine absurd ?_ (h.ledger key execution hcached)
    rw [hnode]
    decide
  reports ref href phaseId revision now _ _ _ _ _ _ _ hcontent := by
    refine absurd ?_ (h.artifactRefs ref href).2
    rw [ArtifactRef.artifactType, hcontent]
    rfl

section Step
variable {c c' : Config} {visit : Visit}

theorem readTaskList_kept (h : SharedSpec c visit c') {tasks : List PlanTask}
    (hread : c.state.readTaskList = .ok tasks) : c'.state.readTaskList = .ok tasks := by
  obtain ⟨ref, href, hok⟩ := except_bind_ok hread
  unfold OptimizationState.readTaskList
  rw [h.committed.requireRef_of_ok href]
  exact hok

/-- Completed tasks stay completed: a replayed verdict of the present pass writes the list
that is there already. -/
theorem completed_mono (hinv : RepairInv c) (h : SharedSpec c visit c') {taskId : String}
    (hmem : taskId ∈ c.state.s03CompletedTaskIds) : taskId ∈ c'.state.s03CompletedTaskIds := by
  by_cases hnode : visit.node = ⟨.S04, 90⟩
  · have hget : c'.state.s03CompletedTaskIds =
        (c.state.setAll visit.execution.updates).s03CompletedTaskIds :=
      h.committed.get .s03CompletedTaskIds
    rcases h.origin hnode with hcached | ⟨a, hhandler⟩
    · obtain ⟨ids, hu, hids⟩ := hinv.verdicts _ _ hcached hnode
        (key_revision h (by rw [hnode]; decide))
      rw [hu] at hget
      rw [hget]
      exact hids ▸ hmem
    · obtain ⟨tasks, phaseId, _, _, _, _, _, _, ⟨_, hu⟩ | ⟨_, hu⟩⟩ := handleS0490_ok hhandler
      · rw [hu] at hget
        rw [hget]
        exact mem_sortedSet.mpr (List.mem_append_left _ hmem)
      · rw [hu] at hget
        rw [hget]
        exact hmem
  · have hkept : c'.state.s03CompletedTaskIds = c.state.s03CompletedTaskIds :=
      h.get (f := .s03CompletedTaskIds) fun hf =>
        hnode (s03CompletedTaskIds_writers _ h.registered hf)
    rw [hkept]
    exact hmem

theorem Promoted.step (hinv : RepairInv c) (h : SharedSpec c visit c') {phaseId : String}
    (hp : Promoted c.state phaseId) : Promoted c'.state phaseId := by
  obtain ⟨tasks, hread, hall⟩ := hp
  exact ⟨tasks, readTaskList_kept h hread, fun taskId hmem => completed_mono hinv h (hall taskId hmem)⟩

theorem ReportEffective.step (hinv : RepairInv c) (h : SharedSpec c visit c') {ref : ArtifactRef}
    (hr : ReportEffective c.state ref) : ReportEffective c'.state ref := by
  intro phaseId revision now patchDigest provenanceDigest reportPhase results attributions passed
    hid hcontent
  have hold := hr _ _ _ _ _ _ _ _ _ hid hcontent
  split
  · rename_i hpassed
    rw [if_pos hpassed] at hold
    exact hold.step hinv h
  · rename_i hpassed
    rw [if_neg hpassed] at hold
    exact Nat.lt_of_lt_of_le hold (moves_of_step hinv.toPassInv h).le

theorem fresh_report_effective (hinv : RepairInv c) (h : SharedSpec c visit c')
    (hnode : visit.node = ⟨.S04, 90⟩) (hfresh : visit.replayed = false) {ref : ArtifactRef}
    (href : ref ∈ visit.execution.artifactRefs) : ReportEffective c'.state ref := by
  obtain ⟨_, a, hhandler⟩ := h.fresh hfresh
  rw [hnode] at hhandler
  obtain ⟨tasks, phaseId, _, _, _, htasks, _, hrefs, hupdates⟩ := handleS0490_ok hhandler
  rw [hrefs] at href
  rw [List.mem_singleton.mp href]
  intro phaseId' revision _ _ _ _ _ _ passed hid hcontent
  cases hid
  cases hcontent
  rcases hupdates with ⟨hpassed, hu⟩ | ⟨hfailed, hu⟩
  · rw [if_pos hpassed]
    refine ⟨tasks, readTaskList_kept h htasks, fun taskId hmem => ?_⟩
    have hget : c'.state.s03CompletedTaskIds =
        (c.state.setAll visit.execution.updates).s03CompletedTaskIds :=
      h.committed.get .s03CompletedTaskIds
    rw [hget, hu]
    exact mem_sortedSet.mpr (List.mem_append_right _ hmem)
  · rw [if_neg (by rw [hfailed]; decide)]
    refine (moves_of_step hinv.toPassInv h).lt_of_bumps ?_
    rw [Bumps, hu]
    exact ⟨_, List.mem_singleton_self _, rfl⟩

theorem reports_step (hinv : RepairInv c) (h : SharedSpec c visit c') :
    ∀ ref ∈ c'.state.artifactRefs, ReportEffective c'.state ref := by
  intro ref href
  by_cases htype : ref.artifactType = .verificationReport
  · have honly : ∀ n ∈ catalog, ref.artifactType ∈ nodeTypes n → n = ⟨.S04, 90⟩ := by
      rw [htype]
      exact verificationReport_writers
    rcases hinv.committedRefs.sealed_cases h honly href with hold | ⟨hnode, hflag, hnew⟩
    · exact (hinv.reports ref hold).step hinv h
    · exact fresh_report_effective hinv h hnode hflag hnew
  · intro _ _ _ _ _ _ _ _ _ _ hcontent
    refine absurd ?_ htype
    rw [ArtifactRef.artifactType, hcontent]
    rfl

theorem keys_step (hinv : RepairInv c) (h : SharedSpec c visit c') {key : IdempotencyKey}
    {execution : NodeExecution} (hcached : c'.ledger.cached key = some execution)
    (hmem : key.node ∈ catalog) :
    key = { deriveIdempotencyKey key.node c'.state with revision := key.revision } := by
  have hsame : { deriveIdempotencyKey key.node c'.state with revision := key.revision } =
      { deriveIdempotencyKey key.node c.state with revision := key.revision } := by
    unfold deriveIdempotencyKey
    rw [h.committed.caseId, h.committed.resumeTargetNode, h.committed.resumeAttempts]
  rw [hsame]
  rcases h.cached_cases key execution hcached with hold | ⟨rfl, _⟩
  · exact hinv.keys key execution hold hmem
  · have hkey := h.key
    unfold Visit.node at hkey
    rw [← hkey]

/-- A verdict of `S04.90` that left the counter alone is the one in force. -/
theorem verdicts_step (hinv : RepairInv c) (h : SharedSpec c visit c') {key : IdempotencyKey}
    {execution : NodeExecution} (hcached : c'.ledger.cached key = some execution)
    (hnode : key.node = ⟨.S04, 90⟩) (hrevision : key.revision = c'.state.s03RevisionAttempts) :
    ∃ ids, execution.updates = [.s03CompletedTaskIds ids] ∧ c'.state.s03CompletedTaskIds = ids := by
  have hkeyMem : key.node ∈ catalog := by
    rw [hnode]
    decide
  have hloop : key.node.stage ∈ loopStages := by
    rw [hnode]
    decide
  have hmoves := moves_of_step hinv.toPassInv h
  have hget : c'.state.s03CompletedTaskIds =
      (c.state.setAll visit.execution.updates).s03CompletedTaskIds :=
    h.committed.get .s03CompletedTaskIds
  rcases h.cached_cases key execution hcached with hold | ⟨rfl, rfl⟩
  · have hle := hinv.revision_le key execution hold hloop
    have hrev : key.revision = c.state.s03RevisionAttempts := by
      have := hmoves.le
      omega
    obtain ⟨ids, hu, hids⟩ := hinv.verdicts key execution hold hnode hrev
    refine ⟨ids, hu, ?_⟩
    by_cases hvisit : visit.node = ⟨.S04, 90⟩
    · -- the same key again, so the step replayed this very verdict
      have hkey : key = visit.key := by
        rw [hinv.keys key execution hold hkeyMem, h.key, hnode, hvisit, hrev]
        rfl
      subst hkey
      have hsame := hold
      cases hflag : visit.replayed with
      | false =>
        rw [(h.fresh hflag).1] at hsame
        cases hsame
      | true =>
        rw [h.replayed hflag] at hsame
        cases hsame
        rw [hget, hu]
        rfl
    · have hkept : c'.state.s03CompletedTaskIds = c.state.s03CompletedTaskIds :=
        h.get (f := .s03CompletedTaskIds) fun hf =>
          hvisit (s03CompletedTaskIds_writers _ h.registered hf)
      rw [hkept, hids]
  · have hrev := key_revision h hloop
    rcases h.origin hnode with hcached | ⟨a, hhandler⟩
    · obtain ⟨ids, hu, _⟩ := hinv.verdicts _ _ hcached hnode hrev
      refine ⟨ids, hu, ?_⟩
      rw [hget, hu]
      rfl
    · obtain ⟨_, _, _, _, _, _, _, _, ⟨_, hu⟩ | ⟨_, hu⟩⟩ := handleS0490_ok hhandler
      · refine ⟨_, hu, ?_⟩
        rw [hget, hu]
        rfl
      · have hlt := hmoves.lt_of_bumps (by
          rw [Bumps, hu]
          exact ⟨_, List.mem_singleton_self _, rfl⟩)
        omega

theorem bumps_of_repair_decision {a : Answers} {s s' : OptimizationState}
    {execution : NodeExecution} (h : handleS0680 a s = .ok execution)
    (hfix : (s'.setAll execution.updates).s06Decision = some .fixOnePart) : Bumps execution := by
  obtain ⟨_, _, updates, _, _, _, _, hdecision, hu⟩ := handleS0680_ok h
  rw [hu] at hfix
  rw [Bumps, hu]
  rcases decisionUpdates_cases s hdecision with
    ⟨hnot, _, rfl⟩ | ⟨_, rfl⟩ | ⟨_, hrevert, _, rfl⟩
  · exact absurd (Option.some.inj hfix) hnot
  · exact ⟨_, List.mem_cons_of_mem _ (List.mem_singleton_self _), rfl⟩
  · have houtcome : s.s06Decision.getD .escalate = .fixOnePart := Option.some.inj hfix
    rw [hrevert] at houtcome
    cases houtcome

/-- A step that leaves `fix_one_part` decided at `S06.80` closes the pass. -/
theorem bumps_of_repair_step (hinv : RepairInv c) (h : SharedSpec c visit c')
    (hnode : visit.node = ⟨.S06, 80⟩) {s : OptimizationState}
    (hfix : (s.setAll visit.execution.updates).s06Decision = some .fixOnePart) :
    Bumps visit.execution := by
  rcases h.origin hnode with hcached | ⟨a, hhandler⟩
  · exact hinv.decisions _ _ hcached hnode s hfix
  · exact bumps_of_repair_decision hhandler hfix

theorem RepairInv.step (hinv : RepairInv c) (h : SharedSpec c visit c') : RepairInv c' where
  toPassInv := hinv.toPassInv.step h
  keys _ _ hcached hmem := keys_step hinv h hcached hmem
  committedRefs := hinv.committedRefs.step h
  verdicts _ _ hcached hnode hrevision := verdicts_step hinv h hcached hnode hrevision
  decisions key execution hcached hnode s hfix := by
    rcases h.cached_cases key execution hcached with hold | ⟨rfl, rfl⟩
    · exact hinv.decisions key execution hold hnode s hfix
    · exact bumps_of_repair_step hinv h hnode hfix
  reports := reports_step hinv h

/-- Just before `S06.90`: a decided repair has a promoted phase and a pass of its own. -/
def RepairReady (c : Config) : Prop :=
  c.state.s06Decision = some .fixOnePart → (∃ phaseId, c.state.s03ActivePhaseId = some phaseId ∧
    Promoted c.state phaseId) ∧
    ∀ key execution, c.ledger.cached key = some execution → key.node = ⟨.S03, 10⟩ →
      key.revision < c.state.s03RevisionAttempts

theorem before_apply (h : SharedSpec c visit c') (hpos : c'.position = some ⟨.S06, 90⟩) :
    visit.node = ⟨.S06, 80⟩ := by
  rw [h.next] at hpos
  rcases nextPosition_cases hpos with hinner | ⟨_, stage, _, hfirst⟩
  · obtain ⟨_, ⟨_, heq⟩ | ⟨_, heq⟩ | ⟨_, heq | heq⟩⟩ := innerNext_cases hinner
    · have hstage : .S06 = visit.node.stage := congrArg NodeId.stage heq
      have hnumber : 90 = visit.node.number + 10 := congrArg NodeId.number heq
      have hten : visit.node.number = 80 := by omega
      rw [hstage, ← hten]
    · cases heq
    · cases heq
    · cases heq
  · cases hfirst

/-- A phase that S06 decides on afresh has been promoted: a failing report of this pass
would have closed it. -/
theorem promoted_at_decision (hinv : RepairInv c) (h : SharedSpec c visit c')
    (hnode : visit.node = ⟨.S06, 80⟩) (hfresh : visit.replayed = false) :
    ∃ phaseId, c'.state.s03ActivePhaseId = some phaseId ∧ Promoted c'.state phaseId := by
  obtain ⟨_, a, hhandler⟩ := h.fresh hfresh
  rw [hnode] at hhandler
  obtain ⟨phaseId, ref, _, hphase, hmem, htype, hid, _, _⟩ := handleS0680_ok hhandler
  refine ⟨phaseId, ?_, ?_⟩
  · have hkept : c'.state.s03ActivePhaseId = c.state.s03ActivePhaseId :=
      h.get (f := .s03ActivePhaseId) (by rw [hnode]; decide)
    rw [hkept]
    exact OptimizationState.activePhaseId_ok hphase
  · have heffective := hinv.reports ref hmem
    unfold ArtifactRef.artifactType Artifact.artifactType at htype
    split at htype <;> try cases htype
    rename_i now patchDigest provenanceDigest reportPhase results attributions passed hcontent
    have hreport := heffective _ _ _ _ _ _ _ _ _ hid hcontent
    cases passed with
    | true => exact Promoted.step hinv h hreport
    | false => exact absurd hreport (Nat.lt_irrefl _)

theorem repairReady_at_apply (hinv : RepairInv c) (h : SharedSpec c visit c')
    (hpos : c'.position = some ⟨.S06, 90⟩) : RepairReady c' := by
  intro hfix
  have hnode := before_apply h hpos
  have hloop : visit.node.stage ∈ loopStages := by
    rw [hnode]
    decide
  have hbumps : Bumps visit.execution := by
    have hget : c'.state.s06Decision = (c.state.setAll visit.execution.updates).s06Decision :=
      h.committed.get .s06Decision
    rw [hget] at hfix
    exact bumps_of_repair_step hinv h hnode hfix
  have hlt := (moves_of_step hinv.toPassInv h).lt_of_bumps hbumps
  refine ⟨promoted_at_decision hinv h hnode (fresh_of_bumps hinv.toPassInv h hbumps), ?_⟩
  intro key execution hcached hkey
  have hle : key.revision ≤ c.state.s03RevisionAttempts := by
    rcases h.cached_cases key execution hcached with hold | ⟨rfl, _⟩
    · exact hinv.revision_le key execution hold (by rw [hkey]; decide)
    · exact (key_revision h hloop).le
  omega

theorem repairReady_after_apply (hinv : RepairInv c) (h : SharedSpec c visit c')
    (hnode : visit.node = ⟨.S06, 90⟩) (hready : RepairReady c) : RepairReady c' := by
  intro hfix
  have hdecision : c'.state.s06Decision = c.state.s06Decision :=
    h.get (f := .s06Decision) (by rw [hnode]; decide)
  have hactive : c'.state.s03ActivePhaseId = c.state.s03ActivePhaseId :=
    h.get (f := .s03ActivePhaseId) (by rw [hnode]; decide)
  rw [hdecision] at hfix
  obtain ⟨⟨phaseId, hphase, hpromoted⟩, hkeys⟩ := hready hfix
  refine ⟨⟨phaseId, hactive.trans hphase, hpromoted.step hinv h⟩, ?_⟩
  intro key execution hcached hkey
  rcases h.cached_cases key execution hcached with hold | ⟨rfl, _⟩
  · exact Nat.lt_of_lt_of_le (hkeys key execution hold hkey) (moves_of_step hinv.toPassInv h).le
  · rw [show visit.key.node = ⟨.S06, 90⟩ from hnode] at hkey
    cases hkey

theorem not_selected_again (h : SharedSpec c visit c') (hready : RepairReady c)
    (hfix : c.state.s06Decision = some .fixOnePart) (hnode : visit.node = firstNode .S03)
    {phaseId : String} (hactive : c.state.s03ActivePhaseId = some phaseId) :
    .s03ActivePhaseId phaseId ∉ visit.execution.updates := by
  obtain ⟨⟨phaseId', hphase, tasks, hread, hall⟩, hkeys⟩ := hready hfix
  cases hactive.symm.trans hphase
  have hfresh : visit.replayed = false := by
    cases hflag : visit.replayed with
    | false => rfl
    | true =>
      have hlt := hkeys _ _ (h.replayed hflag) hnode
      rw [key_revision h (by rw [hnode]; decide)] at hlt
      exact absurd hlt (Nat.lt_irrefl _)
  obtain ⟨_, a, hhandler⟩ := h.fresh hfresh
  rw [hnode] at hhandler
  obtain ⟨phases, tasks', _, hread', ⟨_, _, hu⟩ | ⟨picked, _, hopen, hu⟩⟩ := handleS0310_ok hhandler
  · rw [hu]
    simp
  · rw [hu]
    intro hmem
    have hpicked : phaseId = picked := by simpa using hmem
    subst hpicked
    cases hread.symm.trans hread'
    obtain ⟨taskId, htask, hnot⟩ := firstOpenPhase_open hopen
    exact hnot (hall taskId htask)

end Step

section Runs
variable {portfolio : SolutionPortfolio} {c₀ c : Config} {tr : SharedTrace}

theorem repairInv_of_run (hstart : Converged portfolio c₀) (hrun : Run SharedStep c₀ tr c) :
    RepairInv c ∧ (c.position = some ⟨.S06, 90⟩ → RepairReady c) := by
  induction hrun with
  | nil =>
    refine ⟨hstart.repairInv, fun hpos => ?_⟩
    rw [hstart.position] at hpos
    cases hpos
  | snoc _ hstep ih =>
    have hspec := SharedStep.sharedSpec ih.1.writes hstep
    exact ⟨ih.1.step hspec, repairReady_at_apply ih.1 hspec⟩

/-- After a repair decision the active phase is never selected again, in no run and for no
plan. -/
theorem repair_never_reselects {later earlier : SharedTrace} {u t : Transition Config Visit}
    (hstart : Converged portfolio c₀) (hrun : Run SharedStep c₀ tr c)
    (heq : tr = later ++ u :: t :: earlier) (hedge : FixEdge t) : ¬ SelectsSamePhase t u := by
  rintro ⟨phaseId, hactive, hselected⟩
  obtain ⟨hnode, hfix, hpos⟩ := hedge
  subst heq
  obtain ⟨c₁, hrun₁, _⟩ := hrun.split
  obtain ⟨hrun₂, hstepU⟩ := hrun₁.last_step
  obtain ⟨hrun₃, hstepT⟩ := hrun₂.last_step
  obtain ⟨hinv, hready⟩ := repairInv_of_run hstart hrun₃
  have hspecT := SharedStep.sharedSpec hinv.writes hstepT
  have hready' := repairReady_after_apply hinv hspecT hnode (hready (hnode ▸ hspecT.position))
  have hinv' := hinv.step hspecT
  have hbefore : u.before = t.after := by
    cases hrun₂ with
    | snoc _ _ => rfl
  rw [← hbefore] at hready' hactive hfix hpos hinv'
  have hspecU := SharedStep.sharedSpec hinv'.writes hstepU
  have hnodeU := Option.some.inj (hspecU.position.symm.trans hpos)
  exact not_selected_again hspecU hready' hfix hnodeU hactive hselected

end Runs

instance (t : Transition Config Visit) : Decidable (FixEdge t) :=
  inferInstanceAs (Decidable (_ ∧ _ ∧ _))

/-- The lint criterion is remeasured worse than its baseline, the unit criterion is not. -/
def lintRegression : Answers :=
  { sampleAnswers with remeasured := fun criterionId =>
      if criterionId = "unit-ok" then some (1, 0) else some (1, 5) }

def repairFindsNothing (out : SharedTrace × Config) : Bool :=
  match out.1 with
  | u :: t :: _ =>
    decide (FixEdge t ∧ t.after.state.s03ActivePhaseId = some "p1" ∧
      u.label.node = ⟨.S03, 10⟩ ∧ u.label.execution.route = .rejected ∧
      ∀ x ∈ u.label.execution.updates, x.field ≠ .s03ActivePhaseId)
  | _ => false

theorem exists_repair_without_phase :
    ∃ u t earlier c, Run SharedStep promptRiskCase (u :: t :: earlier) c ∧ FixEdge t ∧
      t.after.state.s03ActivePhaseId = some "p1" ∧ u.label.node = ⟨.S03, 10⟩ ∧
      u.label.execution.route = .rejected ∧
      ∀ x ∈ u.label.execution.updates, x.field ≠ .s03ActivePhaseId := by
  obtain ⟨tr, c, hrun, hcheck⟩ := exists_sharedRun promptRiskCase
    (List.replicate 56 lintRegression) repairFindsNothing (by decide +kernel)
  unfold repairFindsNothing at hcheck
  split at hcheck
  · rename_i u t earlier htr
    dsimp only at htr
    subst htr
    exact ⟨u, t, earlier, c, hrun, of_decide_eq_true hcheck⟩
  · cases hcheck

/-- The repair of the only phase of a plan does not select that phase. -/
theorem repair_never_reselects_promptRiskCase :
    ∃ u t earlier c, Run SharedStep promptRiskCase (u :: t :: earlier) c ∧ FixEdge t ∧
      ¬ SelectsSamePhase t u := by
  obtain ⟨u, t, earlier, c, hrun, hedge, _⟩ := exists_repair_without_phase
  exact ⟨u, t, earlier, c, hrun, hedge,
    repair_never_reselects (converged_sampleCase _) hrun (List.nil_append _).symm hedge⟩

/-- It is rejected because no phase is left. -/
theorem repair_of_only_phase_is_rejected :
    ∃ u t earlier c, Run SharedStep promptRiskCase (u :: t :: earlier) c ∧
      t.after.state.s03ActivePhaseId = some "p1" ∧ u.label.node = ⟨.S03, 10⟩ ∧
      u.label.execution.route = .rejected ∧ ¬ FixesRepair (u :: t :: earlier) := by
  obtain ⟨u, t, earlier, c, hrun, hedge, hphase, hnode, hroute, hupdates⟩ :=
    exists_repair_without_phase
  refine ⟨u, t, earlier, c, hrun, hphase, hnode, hroute, fun hrepairs => ?_⟩
  obtain ⟨phaseId, _, hselected⟩ := hrepairs [] u t earlier rfl hedge
  exact hupdates _ hselected rfl

end ProductionOptimizer
