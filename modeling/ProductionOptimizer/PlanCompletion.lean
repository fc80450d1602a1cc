import ProductionOptimizer.FixOnePart

/-!
# Is a plan carried out before its case is reported as kept?

`S03.10` picks one phase per visit, and the `keep` edge of S06 goes to the report at once.
So S07 is entered after the first phase that is kept, whatever the other phases of the
plan are.
-/

namespace ProductionOptimizer
open Runs NumberedLog
set_option autoImplicit false

/-- The phase of a sealed `KEEP` decision. -/
def keptPhase (ref : ArtifactRef) : Option String :=
  match ref.contentDigest with
  | .decision _ phaseId _ _ _ _ _ .keep _ => some phaseId
  | _ => none

/-- Every task is promoted and its phase has a `KEEP` decision of its own. -/
def PlanDone (s : OptimizationState) (tasks : List PlanTask) : Prop :=
  (∀ task ∈ tasks, task.taskId ∈ s.s03CompletedTaskIds) ∧
    ∀ task ∈ tasks, ∃ ref ∈ s.artifactRefs, keptPhase ref = some task.phaseId

def SinglePhase (tasks : List PlanTask) : Prop :=
  ∀ task ∈ tasks, ∀ other ∈ tasks, task.phaseId = other.phaseId

/-- The outer graph enters S07 after the step. -/
def EntersReport (t : Transition Config Visit) : Prop :=
  t.after.position = some (firstNode .S07)

/-- A converged case of which no phase has been selected or decided on. -/
structure Undecided (portfolio : SolutionPortfolio) (c : Config) : Prop extends
    Converged portfolio c where
  decisions : ∀ ref ∈ c.state.artifactRefs, ref.artifactType ≠ .decision
  activePhase : c.state.s03ActivePhaseId = none

def HasTask (s : OptimizationState) (phaseId : String) : Prop :=
  ∃ tasks, s.readTaskList = .ok tasks ∧ ∃ task ∈ tasks, task.phaseId = phaseId

/-- The positions after a `KEEP` decision is sealed. -/
def AfterKeep (position : Option NodeId) : Prop :=
  ∀ n, position = some n → n = ⟨.S06, 90⟩ ∨ n.stage = .S07

/-- The positions at which `keep` may be the outcome in force. -/
def DuringKeep (position : Option NodeId) : Prop :=
  ∀ n, position = some n → n ∈ [⟨.S06, 60⟩, ⟨.S06, 70⟩, ⟨.S06, 80⟩, ⟨.S06, 90⟩] ∨ n.stage = .S07

structure KeepInv (c : Config) : Prop extends RepairInv c where
  during : c.state.s06Decision = some .keep → DuringKeep c.position
  kept : ∀ ref ∈ c.state.artifactRefs, ∀ phaseId, keptPhase ref = some phaseId →
    AfterKeep c.position ∧ c.state.s06Decision = some .keep ∧
      c.state.s03ActivePhaseId = some phaseId
  intents : ∀ key execution, c.ledger.cached key = some execution → key.node = ⟨.S06, 80⟩ →
    ∀ s : OptimizationState, (s.setAll execution.updates).s06Decision = some .keep →
      ∃ ref ∈ execution.artifactRefs, ∃ phaseId, keptPhase ref = some phaseId
  selected : ∀ key execution, c.ledger.cached key = some execution → key.node = ⟨.S03, 10⟩ →
    ∀ phaseId, .s03ActivePhaseId phaseId ∈ execution.updates → HasTask c.state phaseId
  active : ∀ phaseId, c.state.s03ActivePhaseId = some phaseId → HasTask c.state phaseId

theorem decision_of_keptPhase {ref : ArtifactRef} {phaseId : String}
    (h : keptPhase ref = some phaseId) : ref.artifactType = .decision := by
  unfold keptPhase at h
  split at h
  · rename_i hcontent
    rw [ArtifactRef.artifactType, hcontent]
    rfl
  · cases h

theorem Undecided.keepInv {portfolio : SolutionPortfolio} {c : Config}
    (h : Undecided portfolio c) : KeepInv c where
  toRepairInv := h.toConverged.repairInv
  during hkeep := by
    rw [h.s06Decision] at hkeep
    cases hkeep
  kept ref href phaseId hkept := absurd (decision_of_keptPhase hkept) (h.decisions ref href)
  intents key execution hcached hnode := by
    refine absurd ?_ (h.ledger key execution hcached)
    rw [hnode]
    decide
  selected key execution hcached hnode := by
    refine absurd ?_ (h.ledger key execution hcached)
    rw [hnode]
    decide
  active phaseId hactive := by
    rw [h.activePhase] at hactive
    cases hactive

section Positions
variable {n : NodeId} {s : OptimizationState}

theorem report_next (h : n.stage = .S07) {m : NodeId} (hnext : nextPosition n s = some m) :
    m.stage = .S07 := by
  rcases nextPosition_cases hnext with hinner | ⟨_, stage, houter, _⟩
  · obtain ⟨_, ⟨_, rfl⟩ | ⟨rfl, _⟩ | ⟨rfl, _⟩⟩ := innerNext_cases hinner
    · exact h
    · cases h
    · cases h
  · rw [h] at houter
    cases houter

theorem keep_next (hkeep : s.s06Decision = some .keep) {m : NodeId}
    (hnext : nextPosition ⟨.S06, 90⟩ s = some m) : m = firstNode .S07 := by
  rcases nextPosition_cases hnext with hinner | ⟨_, stage, houter, rfl⟩
  · cases hinner
  · simp only [outerNext, policyOutcome, hkeep] at houter
    split at houter
    · cases houter
      rfl
    · rename_i hpolicy
      split at hpolicy <;> cases hpolicy
    · rename_i hpolicy
      split at hpolicy <;> cases hpolicy
    · cases houter

theorem afterKeep_next (hafter : n = ⟨.S06, 90⟩ ∨ n.stage = .S07)
    (hkeep : s.s06Decision = some .keep) : AfterKeep (nextPosition n s) := by
  intro m hm
  rcases hafter with rfl | hstage
  · exact Or.inr (by rw [keep_next hkeep hm]; rfl)
  · exact Or.inr (report_next hstage hm)

theorem outerNext_report {stage : Stage} (h : outerNext stage s = some .S07) :
    stage = .S06 ∧ s.s06Decision = some .keep := by
  cases stage with
  | A1 | A2 | A3 | B1 | B2 | C0 | S07 => cases h
  | S01 | S02 | S03 | S05 =>
    obtain ⟨_, hstage⟩ := completedGate_some h
    cases hstage
  | S04 =>
    simp only [outerNext] at h
    split at h <;> cases h
  | S06 =>
    simp only [outerNext] at h
    split at h
    · rename_i hpolicy
      refine ⟨rfl, ?_⟩
      unfold policyOutcome at hpolicy
      split at hpolicy
      · cases hpolicy
      · split at hpolicy
        · cases hpolicy
        · exact hpolicy
    · cases h
    · cases h
    · cases h

theorem number_ne_zero : ∀ n ∈ catalog, n.number ≠ 0 := by decide +kernel

/-- S07 is entered from the first or the last node of S06, with `keep` in force. -/
theorem enters_report (h : nextPosition n s = some (firstNode .S07)) (hmem : n ∈ catalog) :
    s.s06Decision = some .keep ∧ (n = ⟨.S06, 90⟩ ∨ n = ⟨.S06, 10⟩) := by
  rcases nextPosition_cases h with hinner | ⟨hnone, stage, houter, hfirst⟩
  · obtain ⟨_, ⟨_, hm⟩ | ⟨_, hm⟩ | ⟨_, hm | hm⟩⟩ := innerNext_cases hinner
    · have hnumber : 10 = n.number + 10 := congrArg NodeId.number hm
      exact absurd (by omega) (number_ne_zero n hmem)
    · cases hm
    · cases hm
    · cases hm
  · cases congrArg NodeId.stage hfirst
    obtain ⟨hstage, hkeep⟩ := outerNext_report houter
    obtain ⟨nStage, number⟩ := n
    cases hstage
    refine ⟨hkeep, ?_⟩
    rcases innerNext_none hnone with hnumber | hnode | hrouted
    · cases hnumber
      exact Or.inl rfl
    · cases hnode
    · simp only [routedNodes, List.mem_cons, List.not_mem_nil, NodeId.mk.injEq, reduceCtorEq,
        false_and, true_and, or_false, false_or] at hrouted
      exact Or.inr (by rw [hrouted])

end Positions

section Step
variable {c c' : Config} {visit : Visit}

theorem HasTask.step {phaseId : String} (ht : HasTask c.state phaseId)
    (h : SharedSpec c visit c') : HasTask c'.state phaseId := by
  obtain ⟨tasks, hread, htask⟩ := ht
  exact ⟨tasks, readTaskList_kept h hread, htask⟩

theorem during_step (hinv : KeepInv c) (h : SharedSpec c visit c')
    (hkeep : c'.state.s06Decision = some .keep) : DuringKeep c'.position := by
  rw [h.next]
  by_cases hfield : .s06Decision ∈ nodeFields visit.node
  · rcases s06Decision_writers _ h.registered hfield with hnode | hnode | hnode
    all_goals
      rw [hnode]
      intro n hn
      cases hn
      exact Or.inl (by decide)
  · have hbefore : c.state.s06Decision = some .keep :=
      (h.get (f := .s06Decision) hfield).symm.trans hkeep
    rcases hinv.during hbefore _ h.position with hmem | hstage
    · simp only [List.mem_cons, List.not_mem_nil, or_false] at hmem
      rcases hmem with hnode | hnode | hnode | hnode
      · rw [hnode]
        intro n hn
        cases hn
        exact Or.inl (by decide)
      · exact absurd (hnode ▸ by decide) hfield
      · exact absurd (hnode ▸ by decide) hfield
      · rw [hnode]
        intro n hn
        exact Or.inr (by rw [keep_next hkeep hn]; rfl)
    · exact fun n hn => Or.inr (report_next hstage hn)

/-- A recorded `KEEP` is not replayed: no run comes back to `S06.80` after sealing one. -/
theorem fresh_of_keep (hinv : KeepInv c) (h : SharedSpec c visit c')
    (hnode : visit.node = ⟨.S06, 80⟩) (hkeep : c'.state.s06Decision = some .keep) :
    visit.replayed = false := by
  cases hflag : visit.replayed with
  | false => rfl
  | true =>
    have hget : c'.state.s06Decision = (c.state.setAll visit.execution.updates).s06Decision :=
      h.committed.get .s06Decision
    obtain ⟨ref, href, phaseId, hkept⟩ := hinv.intents _ _ (h.replayed hflag) hnode c.state
      (hget.symm.trans hkeep)
    have hmem := hinv.committedRefs _ _ (h.replayed hflag) h.registered ref href
    obtain ⟨hafter, _⟩ := hinv.kept ref hmem phaseId hkept
    rcases hafter _ h.position with hpos | hpos
    · rw [hnode] at hpos
      cases hpos
    · rw [hnode] at hpos
      cases hpos

theorem sealed_of_keep {a : Answers} {s s' : OptimizationState} {execution : NodeExecution}
    (hok : handleS0680 a s = .ok execution)
    (hkeep : (s'.setAll execution.updates).s06Decision = some .keep) :
    ∃ ref ∈ execution.artifactRefs, ∃ phaseId, keptPhase ref = some phaseId ∧
      s.activePhaseId = .ok phaseId := by
  rw [handleS0680_outcome hok] at hkeep
  obtain ⟨phaseId, _, _, _, _, _, _, hphase, hrefs⟩ := handleS0680_decision hok
  rw [Option.some.inj hkeep] at hrefs
  exact ⟨_, by rw [hrefs]; exact List.mem_singleton_self _, phaseId, rfl, hphase⟩

theorem keep_of_sealed {a : Answers} {s : OptimizationState} {execution : NodeExecution}
    (hok : handleS0680 a s = .ok execution) {ref : ArtifactRef}
    (href : ref ∈ execution.artifactRefs) {phaseId : String} (hkept : keptPhase ref = some phaseId) :
    s.activePhaseId = .ok phaseId ∧ ∀ s' : OptimizationState,
      (s'.setAll execution.updates).s06Decision = some .keep := by
  obtain ⟨active, _, _, _, _, _, _, hphase, hrefs⟩ := handleS0680_decision hok
  have houtcome := handleS0680_outcome hok
  rw [hrefs] at href
  rw [List.mem_singleton.mp href] at hkept
  simp only [keptPhase] at hkept
  split at hkept
  · rename_i hcontent
    cases hkept
    simp only [Artifact.decision.injEq] at hcontent
    obtain ⟨_, rfl, _, _, _, _, _, hkeep, _⟩ := hcontent
    rw [hkeep] at houtcome
    exact ⟨hphase, houtcome⟩
  · cases hkept

theorem kept_step (hinv : KeepInv c) (h : SharedSpec c visit c') {ref : ArtifactRef}
    (href : ref ∈ c'.state.artifactRefs) {phaseId : String} (hkept : keptPhase ref = some phaseId) :
    AfterKeep c'.position ∧ c'.state.s06Decision = some .keep ∧
      c'.state.s03ActivePhaseId = some phaseId := by
  have honly : ∀ n ∈ catalog, ref.artifactType ∈ nodeTypes n → n = ⟨.S06, 80⟩ := by
    rw [decision_of_keptPhase hkept]
    decide +kernel
  rcases hinv.committedRefs.sealed_cases h honly href with hold | ⟨hnode, hflag, hnew⟩
  · obtain ⟨hafter, hkeep, hactive⟩ := hinv.kept ref hold phaseId hkept
    have hnode := hafter _ h.position
    have hdecision : c'.state.s06Decision = c.state.s06Decision := by
      refine h.get (f := .s06Decision) ?_
      rcases hnode with hnode | hstage
      · rw [hnode]
        decide
      · unfold nodeFields
        rw [hstage]
        exact List.not_mem_nil
    have hphase : c'.state.s03ActivePhaseId = c.state.s03ActivePhaseId := by
      refine h.get (f := .s03ActivePhaseId) fun hf => ?_
      rw [s03ActivePhaseId_writers _ h.registered hf] at hnode
      rcases hnode with hnode | hnode <;> cases hnode
    refine ⟨?_, hdecision.trans hkeep, hphase.trans hactive⟩
    rw [h.next]
    exact afterKeep_next hnode (hdecision.trans hkeep)
  · obtain ⟨_, a, hok⟩ := h.fresh hflag
    rw [hnode] at hok
    obtain ⟨hphase, hkeep⟩ := keep_of_sealed (a := a) hok hnew hkept
    refine ⟨?_, (h.committed.get .s06Decision).trans (hkeep c.state), ?_⟩
    · rw [h.next, hnode]
      intro n hn
      cases hn
      exact Or.inl rfl
    · have hsame : c'.state.s03ActivePhaseId = c.state.s03ActivePhaseId :=
        h.get (f := .s03ActivePhaseId) (by rw [hnode]; decide)
      rw [hsame]
      exact OptimizationState.activePhaseId_ok hphase

theorem hasTask_of_selection {a : Answers} {s : OptimizationState} {execution : NodeExecution}
    (hok : handleS0310 a s = .ok execution) {phaseId : String}
    (hu : .s03ActivePhaseId phaseId ∈ execution.updates) : HasTask s phaseId := by
  obtain ⟨phases, tasks, _, hread, ⟨_, _, hupdates⟩ | ⟨picked, _, hopen, hupdates⟩⟩ :=
    handleS0310_ok hok
  · rw [hupdates] at hu
    simp at hu
  · rw [hupdates] at hu
    have hpicked : phaseId = picked := by simpa using hu
    subst hpicked
    obtain ⟨taskId, htask, _⟩ := firstOpenPhase_open hopen
    obtain ⟨task, htask, _⟩ := List.mem_map.mp htask
    obtain ⟨hmem, hphase⟩ := List.mem_filter.mp htask
    exact ⟨tasks, hread, task, hmem, beq_iff_eq.mp hphase⟩

theorem hasTask_of_visit (hinv : KeepInv c) (h : SharedSpec c visit c')
    (hnode : visit.node = ⟨.S03, 10⟩) {phaseId : String}
    (hu : .s03ActivePhaseId phaseId ∈ visit.execution.updates) : HasTask c.state phaseId := by
  rcases h.origin hnode with hcached | ⟨a, hok⟩
  · exact hinv.selected _ _ hcached hnode phaseId hu
  · exact hasTask_of_selection (a := a) hok hu

theorem setAll_s03ActivePhaseId {phaseId : String} {updates : List FieldUpdate}
    {s : OptimizationState} (h : (s.setAll updates).s03ActivePhaseId = some phaseId) :
    .s03ActivePhaseId phaseId ∈ updates ∨ s.s03ActivePhaseId = some phaseId := by
  induction updates generalizing s with
  | nil => exact Or.inr h
  | cons u updates ih =>
    rcases ih (s := u.set s) h with hmem | hset
    · exact Or.inl (List.mem_cons_of_mem _ hmem)
    · by_cases hfield : u.field = .s03ActivePhaseId
      · cases u <;> cases hfield
        cases hset
        exact Or.inl List.mem_cons_self
      · exact Or.inr ((u.get_set_of_ne s hfield).symm.trans hset)

theorem active_step (hinv : KeepInv c) (h : SharedSpec c visit c') {phaseId : String}
    (hactive : c'.state.s03ActivePhaseId = some phaseId) : HasTask c'.state phaseId := by
  have hget : c'.state.s03ActivePhaseId =
      (c.state.setAll visit.execution.updates).s03ActivePhaseId := h.committed.get .s03ActivePhaseId
  rw [hget] at hactive
  rcases setAll_s03ActivePhaseId hactive with hu | hold
  · have hnode := s03ActivePhaseId_writers _ h.registered (h.writes.field_mem hu)
    exact (hasTask_of_visit hinv h hnode hu).step h
  · exact (hinv.active phaseId hold).step h

theorem KeepInv.step (hinv : KeepInv c) (h : SharedSpec c visit c') : KeepInv c' where
  toRepairInv := hinv.toRepairInv.step h
  during hkeep := during_step hinv h hkeep
  kept _ href _ hkept := kept_step hinv h href hkept
  intents key execution hcached hnode s hkeep := by
    rcases h.cached_cases key execution hcached with hold | ⟨rfl, rfl⟩
    · exact hinv.intents key execution hold hnode s hkeep
    · rcases h.origin hnode with hold | ⟨a, hok⟩
      · exact hinv.intents _ _ hold hnode s hkeep
      · obtain ⟨ref, href, phaseId, hkept, _⟩ := sealed_of_keep (a := a) hok hkeep
        exact ⟨ref, href, phaseId, hkept⟩
  selected key execution hcached hnode phaseId hu := by
    rcases h.cached_cases key execution hcached with hold | ⟨rfl, rfl⟩
    · exact (hinv.selected key execution hold hnode phaseId hu).step h
    · exact (hasTask_of_visit hinv h hnode hu).step h
  active _ hactive := active_step hinv h hactive

/-- With `keep` in force at `S06.90`, the active phase is promoted and kept. -/
def KeepReady (c : Config) : Prop :=
  c.state.s06Decision = some .keep → ∃ phaseId, c.state.s03ActivePhaseId = some phaseId ∧
    Promoted c.state phaseId ∧ ∃ ref ∈ c.state.artifactRefs, keptPhase ref = some phaseId

theorem keepReady_at_apply (hinv : KeepInv c) (h : SharedSpec c visit c')
    (hpos : c'.position = some ⟨.S06, 90⟩) : KeepReady c' := by
  intro hkeep
  have hnode := before_apply h hpos
  have hfresh := fresh_of_keep hinv h hnode hkeep
  obtain ⟨phaseId, hactive, hpromoted⟩ := promoted_at_decision hinv.toRepairInv h hnode hfresh
  obtain ⟨_, a, hok⟩ := h.fresh hfresh
  rw [hnode] at hok
  have hget : c'.state.s06Decision = (c.state.setAll visit.execution.updates).s06Decision :=
    h.committed.get .s06Decision
  obtain ⟨ref, href, kept, hkept, _⟩ := sealed_of_keep (a := a) hok (hget.symm.trans hkeep)
  have hmem := h.committed.artifactRefs_mem href
  obtain ⟨_, _, hsame⟩ := kept_step hinv h hmem hkept
  cases hactive.symm.trans hsame
  exact ⟨phaseId, hactive, hpromoted, ref, hmem, hkept⟩

/-- What the entry of S07 rests on: one kept phase, and no other. -/
theorem entry_of_report (hinv : KeepInv c) (hready : c.position = some ⟨.S06, 90⟩ → KeepReady c)
    (h : SharedSpec c visit c') (hentry : c'.position = some (firstNode .S07)) :
    ∃ phaseId, c'.state.s03ActivePhaseId = some phaseId ∧ Promoted c'.state phaseId ∧
      (∃ ref ∈ c'.state.artifactRefs, keptPhase ref = some phaseId) := by
  obtain ⟨hkeep, hnode⟩ := enters_report (h.next.symm.trans hentry) h.registered
  have hfield : .s06Decision ∉ nodeFields visit.node := by
    rcases hnode with hnode | hnode <;> rw [hnode] <;> decide
  have hbefore : c.state.s06Decision = some .keep :=
    (h.get (f := .s06Decision) hfield).symm.trans hkeep
  have happly : visit.node = ⟨.S06, 90⟩ := by
    refine hnode.resolve_right fun hfirst => ?_
    rcases hinv.during hbefore _ h.position with hmem | hstage
    · rw [hfirst] at hmem
      revert hmem
      decide
    · rw [hfirst] at hstage
      cases hstage
  obtain ⟨phaseId, hactive, hpromoted, ref, href, hkept⟩ := hready (happly ▸ h.position) hbefore
  have hsame : c'.state.s03ActivePhaseId = c.state.s03ActivePhaseId :=
    h.get (f := .s03ActivePhaseId) (by rw [happly]; decide)
  exact ⟨phaseId, hsame.trans hactive, hpromoted.step hinv.toRepairInv h, ref,
    h.committed.artifactRefs_mono href, hkept⟩

end Step

theorem keepInv_of_run {portfolio : SolutionPortfolio} {c₀ c : Config} {tr : SharedTrace}
    (hstart : Undecided portfolio c₀) (hrun : Run SharedStep c₀ tr c) :
    KeepInv c ∧ (c.position = some ⟨.S06, 90⟩ → KeepReady c) := by
  induction hrun with
  | nil =>
    refine ⟨hstart.keepInv, fun hpos => ?_⟩
    rw [hstart.position] at hpos
    cases hpos
  | snoc _ hstep ih =>
    have hspec := SharedStep.sharedSpec ih.1.writes hstep
    exact ⟨ih.1.step hspec, keepReady_at_apply ih.1 hspec⟩

/-- A plan is carried out when S07 is entered exactly if its tasks belong to one phase. -/
theorem plan_done_at_report_iff {portfolio : SolutionPortfolio} {c₀ c : Config}
    {tr later earlier : SharedTrace} {t : Transition Config Visit}
    (hstart : Undecided portfolio c₀) (hrun : Run SharedStep c₀ tr c)
    (heq : tr = later ++ t :: earlier) (hentry : EntersReport t) :
    ∃ tasks, t.after.state.readTaskList = .ok tasks ∧
      (PlanDone t.after.state tasks ↔ SinglePhase tasks) := by
  subst heq
  obtain ⟨hrun, hstep, _⟩ := Run.step_of_eq_append hrun
  obtain ⟨hinv, hready⟩ := keepInv_of_run hstart hrun
  have hspec := SharedStep.sharedSpec hinv.writes hstep
  obtain ⟨phaseId, hactive, ⟨tasks, hread, hpromoted⟩, ref, href, hkept⟩ :=
    entry_of_report hinv hready hspec hentry
  refine ⟨tasks, hread, ?_⟩
  constructor
  · -- every kept phase is the active one
    rintro ⟨_, hdecisions⟩
    have hphase : ∀ task ∈ tasks, task.phaseId = phaseId := by
      intro task htask
      obtain ⟨ref, href, hkept⟩ := hdecisions task htask
      obtain ⟨_, _, hsame⟩ := kept_step hinv hspec href hkept
      exact Option.some.inj (hsame.symm.trans hactive)
    intro task htask other hother
    rw [hphase task htask, hphase other hother]
  · intro hsingle
    have hphase : ∀ task ∈ tasks, task.phaseId = phaseId := by
      obtain ⟨tasks', hread', own, hown, hphase⟩ := active_step hinv hspec hactive
      cases hread.symm.trans hread'
      intro task htask
      rw [hsingle task htask own hown, hphase]
    constructor
    · intro task htask
      refine hpromoted task.taskId (List.mem_map_of_mem ?_)
      exact List.mem_filter.mpr ⟨htask, beq_iff_eq.mpr (hphase task htask)⟩
    · intro task htask
      exact ⟨ref, href, by rw [hkept, hphase task htask]⟩

theorem undecided_sampleCase (strategies : List SolutionStrategy) :
    Undecided ⟨strategies⟩ (sampleCase strategies) where
  toConverged := converged_sampleCase strategies
  decisions := by simp [sampleCase, sampleRefs, ArtifactRef.artifactType, Artifact.artifactType]
  activePhase := rfl

instance (t : Transition Config Visit) : Decidable (EntersReport t) :=
  inferInstanceAs (Decidable (_ = _))

def entersReport (out : SharedTrace × Config) : Bool := out.1.head?.any (decide <| EntersReport ·)

theorem plan_done_at_report_promptRiskCase :
    ∃ t earlier c tasks, Run SharedStep promptRiskCase (t :: earlier) c ∧ EntersReport t ∧
      t.after.state.readTaskList = .ok tasks ∧
      (PlanDone t.after.state tasks ↔ SinglePhase tasks) := by
  obtain ⟨tr, c, hrun, hcheck⟩ := exists_sharedRun promptRiskCase
    (List.replicate 55 sampleAnswers) entersReport (by decide +kernel)
  simp only [entersReport, Option.any_eq_true, decide_eq_true_eq] at hcheck
  obtain ⟨t, hhead, hentry⟩ := hcheck
  obtain ⟨earlier, rfl⟩ := List.head?_eq_some_iff.mp hhead
  obtain ⟨tasks, hread, hiff⟩ := plan_done_at_report_iff (undecided_sampleCase _) hrun
    (List.nil_append _).symm hentry
  exact ⟨t, earlier, c, tasks, hrun, hentry, hread, hiff⟩

/-- A plan of two phases with one task each. -/
def twoPhaseAnswers : Answers :=
  { sampleAnswers with
    draftPhases := [⟨"p1", 1, .implementation, .code, some "git revert"⟩,
      ⟨"p2", 2, .implementation, .code, some "git revert"⟩]
    draftTasks := [⟨"t1", "p1", ["a.py"], [], [], false⟩, ⟨"t2", "p2", ["a.py"], [], [], false⟩] }

def reportsWithOpenTask (out : SharedTrace × Config) : Bool :=
  out.1.head?.any fun t => decide (EntersReport t) &&
    t.after.state.readTaskList.toOption.any fun tasks =>
      tasks.any fun task => !t.after.state.s03CompletedTaskIds.contains task.taskId

/-- The second phase of the plan is never begun. -/
theorem report_entered_with_open_phase :
    ∃ t earlier c tasks, Undecided ⟨[sampleStrategy "s1" .prompt]⟩ promptRiskCase ∧
      Run SharedStep promptRiskCase (t :: earlier) c ∧ EntersReport t ∧
      t.after.state.readTaskList = .ok tasks ∧ ¬ PlanDone t.after.state tasks := by
  obtain ⟨tr, c, hrun, hcheck⟩ := exists_sharedRun promptRiskCase
    (List.replicate 55 twoPhaseAnswers) reportsWithOpenTask (by decide +kernel)
  simp only [reportsWithOpenTask, Option.any_eq_true, Bool.and_eq_true, decide_eq_true_eq,
    List.any_eq_true] at hcheck
  obtain ⟨t, hhead, hentry, tasks, htasks, task, htask, hopen⟩ := hcheck
  obtain ⟨earlier, rfl⟩ := List.head?_eq_some_iff.mp hhead
  refine ⟨t, earlier, c, tasks, undecided_sampleCase _, hrun, hentry, eq_ok_of_toOption htasks, ?_⟩
  rintro ⟨hcompleted, _⟩
  simp [hcompleted task htask] at hopen

end ProductionOptimizer
