import ProductionOptimizer.ApprovalBinding
import ProductionOptimizer.FallbackPlan
import ProductionOptimizer.SessionPasses

/-!
# The redrafts of a visit to S02

`s02_revision_attempts` counts every draft of the case and is never set back. It bounds the
redrafts of the first visit as intended; a visit that finds it moved has fewer of them, or none,
and cannot seal a plan next to the first one.
-/

namespace ProductionOptimizer
open Runs NumberedLog
set_option autoImplicit false

/-! ### Drafts -/

/-- The step executes `S02.10`, with which a visit to S02 begins. -/
def entersPlanning (t : Transition Config Act) : Bool :=
  match t.label with
  | .node visit => visit.node = ⟨.S02, 10⟩
  | .resume _ _ _ => false

/-- The execution of `S02.81` at a step. -/
def draftOf (t : Transition Config Act) : Option NodeExecution :=
  match t.label with
  | .node visit => if visit.node = ⟨.S02, 81⟩ then some visit.execution else none
  | .resume _ _ _ => none

/-- The drafts judged in the present visit, latest first. -/
def drafts (tr : SessionTrace) : List NodeExecution :=
  (tr.takeWhile (!entersPlanning ·)).filterMap draftOf

/-- The quality reports an execution seals: their ids and results. -/
def qualityReports (execution : NodeExecution) : List (ArtifactId × List PlanQualityResult) :=
  execution.artifactRefs.filterMap fun ref =>
    match ref.contentDigest with
    | .planQualityReport _ _ _ results => some (ref.artifactId, results)
    | _ => none

/-- The ids of the reports, over all visits. -/
def reportIds (tr : SessionTrace) : List ArtifactId :=
  (tr.filterMap draftOf).flatMap fun draft => (qualityReports draft).map (·.1)

/-- All dimensions of the report passed. -/
def draftPassed (execution : NodeExecution) : Bool :=
  (qualityReports execution).any (·.2.all (·.passed))

def planTypes : List ArtifactType := [.executionPlan, .taskList]

def SealsType (execution : NodeExecution) (type : ArtifactType) : Prop :=
  ∃ ref ∈ execution.artifactRefs, ref.artifactType = type

/-- What the redrafts of a case owe, up to a configuration. -/
structure FairRedrafts (tr : SessionTrace) (c : Config) : Prop where
  bounded : ∀ later earlier, tr = later ++ earlier →
    (drafts earlier).length ≤ maxS02Revisions + 1
  revised : ∀ later t earlier draft, tr = later ++ t :: earlier → draftOf t = some draft →
    draftPassed draft = false →
    ((drafts earlier).filter (!draftPassed ·)).length < maxS02Revisions →
      draft.route = .revision ∧ t.after.position = some ⟨.S02, 30⟩
  distinct : (reportIds tr).Nodup
  sealed : ∀ later earlier, tr = later ++ earlier → ∀ type ∈ planTypes,
    ((∃ draft ∈ drafts earlier, SealsType draft type) ↔
      (drafts earlier).head?.any draftPassed = true)
  kept : c.position = some ⟨.S02, 81⟩ → ∀ a execution, handleS0281 a c.state = .ok execution →
    ∃ visit c', SharedStep c visit c' ∧ visit.execution = execution

section Judged
variable {a : Answers} {s : OptimizationState} {execution : NodeExecution}

theorem mem_qualityReports {ref : ArtifactRef} (href : ref ∈ execution.artifactRefs)
    (htype : ref.artifactType = .planQualityReport) :
    ∃ results, (ref.artifactId, results) ∈ qualityReports execution := by
  unfold ArtifactRef.artifactType at htype
  cases hdigest : ref.contentDigest with
  | planQualityReport now plan tasks results =>
    refine ⟨results, List.mem_filterMap.mpr ⟨ref, href, ?_⟩⟩
    rw [hdigest]
  | _ =>
    rw [hdigest] at htype
    cases htype

/-- What `S02.81` makes of a draft: its verdict, its route and what it seals. -/
theorem judged_cases (h : handleS0281 a s = .ok execution) :
    (∃ results, qualityReports execution =
      [(.stagePass ⟨.S02, 81⟩ s.s02RevisionAttempts, results)]) ∧
    ((draftPassed execution = true ∧ execution.route = .continue_ ∧
      ∀ type ∈ planTypes, SealsType execution type) ∨
    (draftPassed execution = false ∧
      execution.route = (if s.s02RevisionAttempts < maxS02Revisions then .revision else .rejected) ∧
      ∀ type ∈ planTypes, ¬ SealsType execution type)) := by
  obtain ⟨selectedRef, _, h⟩ := except_bind_ok h
  obtain ⟨snapshot, _, h⟩ := except_bind_ok h
  dsimp only at h
  split at h
  · rename_i hall
    cases h
    refine ⟨⟨_, rfl⟩, .inl ⟨?_, rfl, ?_⟩⟩
    · simpa [draftPassed, qualityReports] using hall
    · intro type htype
      simp only [planTypes, List.mem_cons, List.not_mem_nil, or_false] at htype
      rcases htype with rfl | rfl
      · exact ⟨_, List.mem_cons_self, rfl⟩
      · exact ⟨_, List.mem_cons_of_mem _ List.mem_cons_self, rfl⟩
  · rename_i hnot
    cases h
    refine ⟨⟨_, rfl⟩, .inr ⟨?_, rfl, ?_⟩⟩
    · simpa [draftPassed, qualityReports] using hnot
    · rintro type htype ⟨ref, href, rfl⟩
      rw [List.mem_singleton.mp href] at htype
      have hreport : ArtifactType.planQualityReport ∉ planTypes := by decide
      exact hreport htype

end Judged

/-! ### Interrupts -/

/-- The interrupts of an execution are those of gates other than `S02.81`. -/
def InterruptsElsewhere (execution : NodeExecution) : Prop :=
  ∀ interrupt, .pendingInterrupt interrupt ∈ execution.updates → interrupt.stage ≠ ⟨.S02, 81⟩

section Interrupts
variable {a : Answers} {s : OptimizationState} {n : NodeId} {execution : NodeExecution}

theorem interruptsElsewhere_of_notMem {fields : List Field} {types : List ArtifactType}
    (h : WritesOnly fields types execution) (hfield : .pendingInterrupt ∉ fields) :
    InterruptsElsewhere execution := by
  intro interrupt hmem
  exact absurd (h.field_mem hmem) hfield

theorem handleS0180_interrupts : Yields InterruptsElsewhere (handleS0180 a s) := by
  intro execution h
  obtain ⟨portfolioRef, -, -, hways⟩ := handleS0180_ok h
  unfold InterruptsElsewhere
  rcases hways with ⟨-, hupdates⟩ | ⟨-, -, hupdates⟩ | ⟨command, -, -, hresumed⟩
  · simp [hupdates]
  · simp [hupdates, gateInterrupt]
  · rcases hresumed with ⟨-, hupdates⟩ | ⟨-, -, hupdates⟩
    · simp [hupdates]
    · simp [hupdates]

theorem handleS0290_interrupts : Yields InterruptsElsewhere (handleS0290 a s) := by
  unfold handleS0290
  refine Yields.bind fun selected _ => Yields.bind fun portfolio _ =>
    Yields.bind fun strategy _ => Yields.bind fun planRef _ => ?_
  unfold InterruptsElsewhere
  split
  · exact Yields.ok (by simp)
  · split
    · exact Yields.ok (by simp [gateInterrupt])
    · split
      · exact Yields.ok (by simp)
      · exact Yields.ok (by simp)

theorem sealApplyResult_interrupts {request : ApplyRequest}
    {outcome : Except ApplyFailure (String × String)} {approval : ApplyApproval}
    {actorId : Option String} :
    InterruptsElsewhere (sealApplyResult a request outcome approval actorId) := by
  unfold InterruptsElsewhere sealApplyResult
  simp

theorem handleS0690_interrupts : Yields InterruptsElsewhere (handleS0690 a s) := by
  unfold handleS0690
  split
  · exact Yields.ok (by simp [InterruptsElsewhere])
  split
  · exact Yields.error
  refine Yields.bind fun snapshot _ => Yields.bind fun patchRef _ => Yields.bind fun patch _ =>
    Yields.bind fun phaseId _ => Yields.bind fun stageId _ => ?_
  dsimp only
  split
  · split
    · exact Yields.ok sealApplyResult_interrupts
    · split
      · exact Yields.ok sealApplyResult_interrupts
      · exact Yields.ok (by simp [InterruptsElsewhere, gateInterrupt])
  · split
    · exact Yields.ok sealApplyResult_interrupts
    · exact Yields.ok sealApplyResult_interrupts

theorem pendingInterrupt_writers : ∀ n ∈ catalog, .pendingInterrupt ∈ nodeFields n →
    n = ⟨.S01, 80⟩ ∨ n = ⟨.S02, 90⟩ ∨ n = ⟨.S06, 90⟩ := by decide +kernel

theorem nodeHandler_interrupts (hn : n ∈ catalog) :
    Yields InterruptsElsewhere (nodeHandler n a s) := by
  by_cases hfield : .pendingInterrupt ∈ nodeFields n
  · rcases pendingInterrupt_writers n hn hfield with rfl | rfl | rfl
    · exact handleS0180_interrupts
    · exact handleS0290_interrupts
    · exact handleS0690_interrupts
  · intro execution h
    exact interruptsElsewhere_of_notMem (nodeHandler_writes n a s execution h) hfield

theorem setAll_pendingInterrupt {updates : List FieldUpdate} {interrupt : InterruptEnvelope}
    (h : (s.setAll updates).pendingInterrupt = some interrupt) :
    .pendingInterrupt interrupt ∈ updates ∨ s.pendingInterrupt = some interrupt := by
  induction updates generalizing s with
  | nil => exact .inr h
  | cons u updates ih =>
    rcases ih (s := u.set s) h with hmem | hset
    · exact .inl (List.mem_cons_of_mem _ hmem)
    · by_cases hfield : u.field = .pendingInterrupt
      · cases u <;> cases hfield
        cases hset
        exact .inl List.mem_cons_self
      · exact .inr ((u.get_set_of_ne s hfield).symm.trans hset)

end Interrupts

/-! ### What a session keeps -/

/-- The nodes of S02 between its entry and the verdict. -/
def redraftNodes : List NodeId :=
  [⟨.S02, 20⟩, ⟨.S02, 30⟩, ⟨.S02, 40⟩, ⟨.S02, 50⟩, ⟨.S02, 60⟩, ⟨.S02, 70⟩, ⟨.S02, 80⟩, ⟨.S02, 81⟩]

/-- A converged case of which nothing in S02 has run. -/
structure Undrafted (portfolio : SolutionPortfolio) (c : Config) : Prop
    extends Unplanned portfolio c where
  noTaskList : ∀ ref ∈ c.state.artifactRefs, ref.artifactType ≠ .taskList
  noReport : ∀ ref ∈ c.state.artifactRefs, ref.artifactType ≠ .planQualityReport
  routes : FilledAt Prod.mk c.state.nodeRoutes ⟨.S02, 81⟩
  interrupt : ∀ interrupt, c.state.pendingInterrupt = some interrupt →
    interrupt.stage ≠ ⟨.S02, 81⟩

/-- The ledger and the log of routes, as far as `S02.81` is concerned. -/
structure DraftLedger (c : Config) : Prop where
  writes : WritesSound c.ledger
  keys : ∀ key execution, c.ledger.cached key = some execution → key.node = ⟨.S02, 81⟩ →
    key.revision < c.state.s02RevisionAttempts
  routes : FilledAt Prod.mk c.state.nodeRoutes ⟨.S02, 81⟩
  interrupts : ∀ key execution, c.ledger.cached key = some execution → key.node ∈ catalog →
    InterruptsElsewhere execution
  pending : ∀ interrupt, c.state.pendingInterrupt = some interrupt →
    interrupt.stage ≠ ⟨.S02, 81⟩

theorem Undrafted.draftLedger {portfolio : SolutionPortfolio} {c : Config}
    (h : Undrafted portfolio c) : DraftLedger c where
  writes := h.writesSound
  keys key execution hcached hnode := by
    refine absurd ?_ (h.ledger key execution hcached)
    rw [hnode]
    decide
  routes := h.routes
  interrupts key execution hcached hmem :=
    absurd (stage_of_mem_catalog _ hmem) (h.ledger key execution hcached)
  pending := h.interrupt

section Ledger
variable {c c' : Config} {visit : Visit}

theorem DraftLedger.fresh (hinv : DraftLedger c) (h : SharedSpec c visit c')
    (hnode : visit.node = ⟨.S02, 81⟩) :
    ∃ a, handleS0281 a c.state = .ok visit.execution :=
  DraftsNumbered.fresh hinv.keys h hnode

theorem DraftLedger.draft (hinv : DraftLedger c) (h : SharedSpec c visit c')
    (hnode : visit.node = ⟨.S02, 81⟩) :
    c'.state.s02RevisionAttempts = c.state.s02RevisionAttempts + 1 :=
  DraftsNumbered.draft hinv.keys h hnode

theorem DraftLedger.route (hinv : DraftLedger c) (h : SharedSpec c visit c')
    (hnode : visit.node = ⟨.S02, 81⟩) : c'.state.routeFor ⟨.S02, 81⟩ = visit.execution.route := by
  have hcommitted := h.committed
  rw [hnode] at hcommitted
  exact hcommitted.routeFor_self hinv.routes

theorem DraftLedger.step (hinv : DraftLedger c) (h : SharedSpec c visit c') : DraftLedger c' where
  writes := h.writesSound hinv.writes
  keys := DraftsNumbered.step hinv.keys h
  routes := h.committed.filledAt hinv.routes
  interrupts key execution hcached hmem := by
    rcases h.cached_cases key execution hcached with hold | ⟨rfl, rfl⟩
    · exact hinv.interrupts key execution hold hmem
    · rcases h.origin rfl with hold | ⟨a, hhandler⟩
      · exact hinv.interrupts _ _ hold hmem
      · exact nodeHandler_interrupts hmem _ hhandler
  pending interrupt hpending := by
    have hget : c'.state.pendingInterrupt =
        (c.state.setAll visit.execution.updates).pendingInterrupt :=
      h.committed.get .pendingInterrupt
    rw [hget] at hpending
    rcases setAll_pendingInterrupt hpending with hmem | hold
    · rcases h.origin rfl with hcached | ⟨a, hhandler⟩
      · exact hinv.interrupts _ _ hcached h.registered interrupt hmem
      · exact nodeHandler_interrupts h.registered _ hhandler interrupt hmem
    · exact hinv.pending interrupt hold

theorem DraftLedger.resume {interrupt : InterruptEnvelope} {command : ResumeInterruptCommand}
    {checkpointed : Bool} (hinv : DraftLedger c)
    (h : SharedSession c (.resume interrupt command checkpointed) c') : DraftLedger c' := by
  have hresumed := resumed_of_step h
  obtain ⟨hpending, -, h⟩ := h
  have hstage := hinv.pending interrupt hpending
  refine ⟨?_, ?_, ?_, ?_, ?_⟩
  · rw [hresumed.ledger]
    exact hinv.writes
  · rw [hresumed.ledger, hresumed.s02RevisionAttempts]
    exact hinv.keys
  · split at h
    · rw [h]
      exact hinv.routes
    · rw [h.2]
      intro j hj
      have hkept : ∀ k, ((⟨.S02, 81⟩, k) : NodeId × Nat) ≠ (interrupt.stage, 0) := by
        intro k heq
        exact hstage (congrArg Prod.fst heq).symm
      exact AList.mem_erase.mpr ⟨hkept j, hinv.routes j (AList.mem_erase.mp hj).2⟩
  · rw [hresumed.ledger]
    exact hinv.interrupts
  · intro other hother
    split at h
    · rw [h] at hother
      cases hother
    · rw [h.2] at hother
      cases hother

end Ledger

/-- Every visit so far that was entered found the counter at zero. -/
structure RedraftInv (tr : SessionTrace) (c : Config) : Prop where
  ledger : DraftLedger c
  count : c.state.s02RevisionAttempts = (drafts tr).length
  bounded : (drafts tr).length ≤ maxS02Revisions + 1
  failed : ∀ draft ∈ (drafts tr).tail, draftPassed draft = false
  redrafting : ∀ n ∈ redraftNodes, c.position = some n →
    (∀ draft ∈ drafts tr, draftPassed draft = false) ∧ (drafts tr).length ≤ maxS02Revisions
  sealed : ∀ draft ∈ drafts tr, ∀ type ∈ planTypes,
    (SealsType draft type ↔ draftPassed draft = true)
  plans : ∀ ref ∈ c.state.artifactRefs, ref.artifactType ∈ planTypes →
    (drafts tr).head?.any draftPassed = true
  reports : ∀ ref ∈ c.state.artifactRefs, ref.artifactType = .planQualityReport →
    ∃ number < c.state.s02RevisionAttempts, ref.artifactId = .stagePass ⟨.S02, 81⟩ number

theorem Undrafted.redraftInv {portfolio : SolutionPortfolio} {c : Config}
    (h : Undrafted portfolio c) : RedraftInv [] c where
  ledger := h.draftLedger
  count := h.s02RevisionAttempts
  bounded := Nat.zero_le _
  failed draft hdraft := by cases hdraft
  redrafting n hn hpos := by
    cases h.position.symm.trans hpos
    exact absurd hn (by decide)
  sealed draft hdraft := by cases hdraft
  plans ref href htype := by
    simp only [planTypes, List.mem_cons, List.not_mem_nil, or_false] at htype
    rcases htype with hplan | htasks
    · exact absurd hplan (h.noPlan ref href)
    · exact absurd htasks (h.noTaskList ref href)
  reports ref href htype := absurd htype (h.noReport ref href)

section Traces
variable {tr : SessionTrace} {t : Transition Config Act} {draft : NodeExecution}

theorem drafts_cons_of_enters (h : entersPlanning t = true) : drafts (t :: tr) = [] := by
  unfold drafts
  rw [List.takeWhile_cons_of_neg (by simp [h])]
  rfl

theorem drafts_cons_of_draft (henters : entersPlanning t = false) (h : draftOf t = some draft) :
    drafts (t :: tr) = draft :: drafts tr := by
  unfold drafts
  rw [List.takeWhile_cons_of_pos (by simp [henters]), List.filterMap_cons_some h]

theorem drafts_cons_of_other (henters : entersPlanning t = false) (h : draftOf t = none) :
    drafts (t :: tr) = drafts tr := by
  unfold drafts
  rw [List.takeWhile_cons_of_pos (by simp [henters]), List.filterMap_cons_none h]

end Traces

section Step
variable {tr : SessionTrace} {c c' : Config} {visit : Visit}

theorem redraftNodes_succ : ∀ n ∈ catalog, (⟨n.stage, n.number + 10⟩ : NodeId) ∈ redraftNodes →
    n ∈ redraftNodes ∨ n = ⟨.S02, 10⟩ := by decide +kernel

theorem firstNode_notMem_redraftNodes (stage : Stage) : firstNode stage ∉ redraftNodes := by
  cases stage <;> decide

/-- Between entry and verdict, S02 is only reached from within. -/
theorem redraftNodes_from (h : SharedSpec c visit c') {n : NodeId} (hn : n ∈ redraftNodes)
    (hpos : c'.position = some n) (hdraft : visit.node ≠ ⟨.S02, 81⟩)
    (hfirst : visit.node ≠ ⟨.S02, 10⟩) : visit.node ∈ redraftNodes := by
  rcases nextPosition_cases (h.next.symm.trans hpos) with hinner | ⟨-, stage, -, rfl⟩
  · obtain ⟨-, ⟨-, rfl⟩ | ⟨hnode, -⟩ | ⟨hnode, -⟩⟩ := innerNext_cases hinner
    · exact (redraftNodes_succ _ h.registered hn).resolve_right hfirst
    · rw [hnode]
      decide
    · exact absurd hnode hdraft
  · exact absurd hn (firstNode_notMem_redraftNodes stage)

/-- Where the verdict leads: on to the approval, back to the draft, or out of the stage. -/
theorem draft_next (hledger : DraftLedger c) (h : SharedSpec c visit c')
    (hnode : visit.node = ⟨.S02, 81⟩) {n : NodeId} (hn : n ∈ redraftNodes)
    (hpos : c'.position = some n) : visit.execution.route = .revision := by
  have hnext := h.next
  rw [hpos, hnode] at hnext
  have hroute := hledger.route h hnode
  rcases nextPosition_cases hnext.symm with hinner | ⟨-, stage, -, rfl⟩
  · rw [hroute] at hinner
    generalize visit.execution.route = route at hinner ⊢
    cases route with
    | continue_ =>
      cases hinner
      exact absurd hn (by decide)
    | revision => rfl
    | _ => cases hinner
  · exact absurd hn (firstNode_notMem_redraftNodes stage)

theorem draft_returns (hledger : DraftLedger c) (h : SharedSpec c visit c')
    (hnode : visit.node = ⟨.S02, 81⟩) (hroute : visit.execution.route = .revision) :
    c'.position = some ⟨.S02, 30⟩ := by
  rw [h.next, hnode]
  unfold nextPosition
  rw [hledger.route h hnode, hroute]
  rfl

theorem planTypes_writers : ∀ n ∈ catalog, ∀ type ∈ .planQualityReport :: planTypes,
    type ∈ nodeTypes n → n = ⟨.S02, 81⟩ := by decide +kernel

theorem ref_kept (h : SharedSpec c visit c') (hdraft : visit.node ≠ ⟨.S02, 81⟩)
    {ref : ArtifactRef} (href : ref ∈ c'.state.artifactRefs)
    (htype : ref.artifactType ∈ .planQualityReport :: planTypes) : ref ∈ c.state.artifactRefs := by
  apply h.ref_of_type href
  intro hmem
  exact hdraft (planTypes_writers _ h.registered _ htype hmem)

/-- A step that judges no draft, where an entry finds none judged. -/
theorem RedraftInv.other (hinv : RedraftInv tr c) (h : SharedSpec c visit c')
    (hdraft : visit.node ≠ ⟨.S02, 81⟩) (hfirst : visit.node = ⟨.S02, 10⟩ → drafts tr = []) :
    RedraftInv (⟨c, .node visit, c'⟩ :: tr) c' := by
  have hdrafts : drafts (⟨c, .node visit, c'⟩ :: tr) = drafts tr := by
    by_cases henters : visit.node = ⟨.S02, 10⟩
    · rw [hfirst henters]
      exact drafts_cons_of_enters (by simp [entersPlanning, henters])
    · apply drafts_cons_of_other
      · simp [entersPlanning, henters]
      · simp [draftOf, hdraft]
  have hcount := s02RevisionAttempts_kept h hdraft
  refine ⟨hinv.ledger.step h, ?_, ?_, ?_, ?_, ?_, ?_, ?_⟩
  · rw [hdrafts, hcount]
    exact hinv.count
  · rw [hdrafts]
    exact hinv.bounded
  · rw [hdrafts]
    exact hinv.failed
  · intro n hn hpos
    rw [hdrafts]
    by_cases henters : visit.node = ⟨.S02, 10⟩
    · rw [hfirst henters]
      refine ⟨?_, Nat.zero_le _⟩
      intro draft hmem
      cases hmem
    · exact hinv.redrafting _ (redraftNodes_from h hn hpos hdraft henters) h.position
  · rw [hdrafts]
    exact hinv.sealed
  · intro ref href htype
    rw [hdrafts]
    exact hinv.plans ref (ref_kept h hdraft href (List.mem_cons_of_mem _ htype)) htype
  · intro ref href htype
    rw [hcount]
    apply hinv.reports ref (ref_kept h hdraft href ?_) htype
    rw [htype]
    exact List.mem_cons_self

/-- In front of a verdict there is no plan: all drafts before it failed. -/
theorem RedraftInv.noPlans (hinv : RedraftInv tr c) (hpos : c.position = some ⟨.S02, 81⟩)
    {ref : ArtifactRef} (href : ref ∈ c.state.artifactRefs) : ref.artifactType ∉ planTypes := by
  intro htype
  obtain ⟨hfailed, -⟩ := hinv.redrafting _ (by decide) hpos
  obtain ⟨draft, hhead, hpassed⟩ := (Option.any_eq_true _ _).mp (hinv.plans ref href htype)
  rw [hfailed draft (List.mem_of_head? hhead)] at hpassed
  cases hpassed

/-- `S02.81` judges one more draft. -/
theorem RedraftInv.judge (hinv : RedraftInv tr c) (h : SharedSpec c visit c')
    (hdraft : visit.node = ⟨.S02, 81⟩) : RedraftInv (⟨c, .node visit, c'⟩ :: tr) c' := by
  have hdrafts : drafts (⟨c, .node visit, c'⟩ :: tr) = visit.execution :: drafts tr := by
    apply drafts_cons_of_draft
    · simp [entersPlanning, hdraft]
    · simp [draftOf, hdraft]
  obtain ⟨a, hhandler⟩ := hinv.ledger.fresh h hdraft
  obtain ⟨⟨results, hreports⟩, hways⟩ := judged_cases hhandler
  obtain ⟨hfailed, hlength⟩ := hinv.redrafting _ (by decide) (hdraft ▸ h.position)
  have hcount := hinv.ledger.draft h hdraft
  refine ⟨hinv.ledger.step h, ?_, ?_, ?_, ?_, ?_, ?_, ?_⟩
  · rw [hdrafts, hcount, hinv.count]
    rfl
  · rw [hdrafts, List.length_cons]
    omega
  · rw [hdrafts]
    exact hfailed
  · intro n hn hpos
    have hroute := draft_next hinv.ledger h hdraft hn hpos
    rcases hways with ⟨-, hcontinue, -⟩ | ⟨hverdict, hback, -⟩
    · rw [hcontinue] at hroute
      cases hroute
    · rw [hroute] at hback
      split at hback
      · rename_i hless
        rw [hinv.count] at hless
        rw [hdrafts]
        refine ⟨?_, hless⟩
        intro draft hmem
        rcases List.mem_cons.mp hmem with rfl | hmem
        · exact hverdict
        · exact hfailed draft hmem
      · cases hback
  · intro draft hmem type htype
    rw [hdrafts] at hmem
    rcases List.mem_cons.mp hmem with rfl | hmem
    · rcases hways with ⟨hverdict, -, hseals⟩ | ⟨hverdict, -, hseals⟩
      · exact iff_of_true (hseals type htype) hverdict
      · apply iff_of_false (hseals type htype)
        rw [hverdict]
        exact Bool.false_ne_true
    · exact hinv.sealed draft hmem type htype
  · intro ref href htype
    rw [hdrafts]
    rcases h.committed.mem_artifactRefs href with hold | hnew
    · exact absurd htype (hinv.noPlans (hdraft ▸ h.position) hold)
    · rcases hways with ⟨hverdict, -⟩ | ⟨-, -, hseals⟩
      · exact hverdict
      · exact absurd ⟨ref, hnew, rfl⟩ (hseals _ htype)
  · intro ref href htype
    rw [hcount]
    rcases h.committed.mem_artifactRefs href with hold | hnew
    · obtain ⟨number, hlt, hid⟩ := hinv.reports ref hold htype
      exact ⟨number, by omega, hid⟩
    · refine ⟨c.state.s02RevisionAttempts, Nat.lt_succ_self _, ?_⟩
      obtain ⟨found, hfound⟩ := mem_qualityReports hnew htype
      rw [hreports, List.mem_singleton] at hfound
      exact congrArg Prod.fst hfound

theorem RedraftInv.resume {interrupt : InterruptEnvelope} {command : ResumeInterruptCommand}
    {checkpointed : Bool} (hinv : RedraftInv tr c)
    (h : SharedSession c (.resume interrupt command checkpointed) c') :
    RedraftInv (⟨c, .resume interrupt command checkpointed, c'⟩ :: tr) c' := by
  have hdrafts : drafts (⟨c, .resume interrupt command checkpointed, c'⟩ :: tr) = drafts tr :=
    drafts_cons_of_other rfl rfl
  have hresumed := resumed_of_step h
  have hrefs : ∀ ref ∈ c'.state.artifactRefs, ref ∈ c.state.artifactRefs := by
    intro ref href
    obtain ⟨-, -, h⟩ := h
    split at h
    · rw [h] at href
      exact href
    · rw [h.2] at href
      exact List.mem_of_mem_filter href
  refine ⟨hinv.ledger.resume h, ?_, ?_, ?_, ?_, ?_, ?_, ?_⟩
  · rw [hdrafts, hresumed.s02RevisionAttempts]
    exact hinv.count
  · rw [hdrafts]
    exact hinv.bounded
  · rw [hdrafts]
    exact hinv.failed
  · intro n hn hpos
    rw [hdrafts]
    rcases hresumed.position with hsame | hstart
    · exact hinv.redrafting n hn (hsame.symm.trans hpos)
    · cases hstart.symm.trans hpos
      exact absurd hn (by decide)
  · rw [hdrafts]
    exact hinv.sealed
  · intro ref href htype
    rw [hdrafts]
    exact hinv.plans ref (hrefs ref href) htype
  · intro ref href htype
    rw [hresumed.s02RevisionAttempts]
    exact hinv.reports ref (hrefs ref href) htype

end Step

/-! ### Sessions -/

/-- S02 is entered only while no draft of the case has been judged. -/
def EntersUndrafted (tr : SessionTrace) : Prop :=
  ∀ t ∈ tr, entersPlanning t = true → t.before.state.s02RevisionAttempts = 0

section Sessions
variable {portfolio : SolutionPortfolio} {c₀ c : Config} {tr : SessionTrace}

theorem redraftInv_of_session (hstart : Undrafted portfolio c₀) (hrun : Run SharedSession c₀ tr c)
    (henters : EntersUndrafted tr) : RedraftInv tr c := by
  induction hrun with
  | nil => exact hstart.redraftInv
  | @snoc tr s s' act hrun hstep ih =>
    have hinv := ih fun t ht => henters t (List.mem_cons_of_mem _ ht)
    cases act with
    | resume interrupt command checkpointed => exact hinv.resume hstep
    | node visit =>
      have hspec := SharedStep.sharedSpec hinv.ledger.writes hstep
      by_cases hdraft : visit.node = ⟨.S02, 81⟩
      · exact hinv.judge hspec hdraft
      · apply hinv.other hspec hdraft
        intro hfirst
        have hzero := henters _ List.mem_cons_self (by simp [entersPlanning, hfirst])
        apply List.eq_nil_of_length_eq_zero
        rw [← hinv.count]
        exact hzero

/-- A session up to one of its steps is a session. -/
theorem redraftInv_earlier (hstart : Undrafted portfolio c₀) (hrun : Run SharedSession c₀ tr c)
    (henters : EntersUndrafted tr) {later earlier : SessionTrace} (htr : tr = later ++ earlier) :
    ∃ c₁, RedraftInv earlier c₁ := by
  subst htr
  obtain ⟨c₁, hbefore, -⟩ := hrun.split
  refine ⟨c₁, redraftInv_of_session hstart hbefore ?_⟩
  intro t ht
  exact henters t (List.mem_append_right _ ht)

theorem draftOf_eq_some {t : Transition Config Act} {draft : NodeExecution}
    (h : draftOf t = some draft) :
    ∃ visit, t.label = .node visit ∧ visit.node = ⟨.S02, 81⟩ ∧ visit.execution = draft := by
  unfold draftOf at h
  split at h
  · rename_i visit hlabel
    split at h
    · rename_i hnode
      exact ⟨visit, hlabel, hnode, Option.some.inj h⟩
    · cases h
  · cases h

theorem draftLedger_of_session (hstart : Undrafted portfolio c₀)
    (hrun : Run SharedSession c₀ tr c) : DraftLedger c := by
  refine hrun.invariant hstart.draftLedger ?_
  intro s act s' hinv hstep
  cases act with
  | node visit => exact hinv.step (SharedStep.sharedSpec hinv.writes hstep)
  | resume interrupt command checkpointed => exact hinv.resume hstep

/-- Every report has the number of its draft, and no two drafts have the same. -/
theorem reportIds_of_session (hstart : Undrafted portfolio c₀)
    (hrun : Run SharedSession c₀ tr c) :
    (reportIds tr).Nodup ∧ ∀ id ∈ reportIds tr,
      ∃ number < c.state.s02RevisionAttempts, id = .stagePass ⟨.S02, 81⟩ number := by
  induction hrun with
  | nil =>
    refine ⟨List.nodup_nil, ?_⟩
    intro id hid
    cases hid
  | @snoc tr s s' act hrun hstep ih =>
    obtain ⟨hnodup, hids⟩ := ih
    have hledger := draftLedger_of_session hstart hrun
    cases act with
    | resume interrupt command checkpointed =>
      rw [(resumed_of_step hstep).s02RevisionAttempts]
      exact ⟨hnodup, hids⟩
    | node visit =>
      have hspec := SharedStep.sharedSpec hledger.writes hstep
      by_cases hdraft : visit.node = ⟨.S02, 81⟩
      · obtain ⟨a, hhandler⟩ := hledger.fresh hspec hdraft
        obtain ⟨⟨results, hreports⟩, -⟩ := judged_cases hhandler
        have hcons : reportIds (⟨s, .node visit, s'⟩ :: tr) =
            .stagePass ⟨.S02, 81⟩ s.state.s02RevisionAttempts :: reportIds tr := by
          simp [reportIds, draftOf, hdraft, hreports]
        rw [hcons, hledger.draft hspec hdraft, List.nodup_cons]
        refine ⟨⟨?_, hnodup⟩, ?_⟩
        · intro hmem
          obtain ⟨number, hlt, hid⟩ := hids _ hmem
          injection hid with _ hnumber
          omega
        · intro id hid
          rcases List.mem_cons.mp hid with rfl | hid
          · exact ⟨_, Nat.lt_succ_self _, rfl⟩
          · obtain ⟨number, hlt, heq⟩ := hids id hid
            exact ⟨number, by omega, heq⟩
      · have hcons : reportIds (⟨s, .node visit, s'⟩ :: tr) = reportIds tr := by
          simp [reportIds, draftOf, hdraft]
        rw [hcons, s02RevisionAttempts_kept hspec hdraft]
        exact ⟨hnodup, hids⟩

/-- In a visit the last draft alone may pass, and seals the pair just then. -/
theorem RedraftInv.sealed_iff (hinv : RedraftInv tr c) {type : ArtifactType}
    (htype : type ∈ planTypes) :
    (∃ draft ∈ drafts tr, SealsType draft type) ↔ (drafts tr).head?.any draftPassed = true := by
  rw [Option.any_eq_true]
  constructor
  · rintro ⟨draft, hmem, hseals⟩
    have hpassed := (hinv.sealed draft hmem type htype).mp hseals
    cases hdrafts : drafts tr with
    | nil =>
      rw [hdrafts] at hmem
      cases hmem
    | cons last others =>
      rw [hdrafts] at hmem
      rcases List.mem_cons.mp hmem with rfl | hother
      · exact ⟨draft, rfl, hpassed⟩
      · have hfailed := hinv.failed draft (by rw [hdrafts]; exact hother)
        rw [hfailed] at hpassed
        cases hpassed
  · rintro ⟨draft, hhead, hpassed⟩
    have hmem := List.mem_of_head? hhead
    exact ⟨draft, hmem, (hinv.sealed draft hmem type htype).mpr hpassed⟩

/-- A failing draft goes back to `S02.30` as long as fewer than two have failed before it. -/
theorem RedraftInv.revised (hinv : RedraftInv tr c) {c' : Config} {visit : Visit}
    (h : SharedSpec c visit c') (hdraft : visit.node = ⟨.S02, 81⟩)
    (hfailing : draftPassed visit.execution = false)
    (hfew : ((drafts tr).filter (!draftPassed ·)).length < maxS02Revisions) :
    visit.execution.route = .revision ∧ c'.position = some ⟨.S02, 30⟩ := by
  obtain ⟨hfailed, -⟩ := hinv.redrafting _ (by decide) (hdraft ▸ h.position)
  have hall : (drafts tr).filter (!draftPassed ·) = drafts tr := by
    apply List.filter_eq_self.mpr
    intro draft hmem
    rw [hfailed draft hmem]
    rfl
  rw [hall, ← hinv.count] at hfew
  obtain ⟨a, hhandler⟩ := hinv.ledger.fresh h hdraft
  rcases (judged_cases hhandler).2 with ⟨hpassed, -⟩ | ⟨-, hroute, -⟩
  · rw [hfailing] at hpassed
    cases hpassed
  · rw [if_pos hfew] at hroute
    exact ⟨hroute, draft_returns hinv.ledger h hdraft hroute⟩

/-- Nothing in the state is in the way of what `S02.81` seals. -/
theorem RedraftInv.merges (hinv : RedraftInv tr c) (hpos : c.position = some ⟨.S02, 81⟩)
    {a : Answers} {execution : NodeExecution} (h : handleS0281 a c.state = .ok execution) :
    ∃ merged, mergeArtifactRefs c.state.artifactRefs execution.artifactRefs = .ok merged := by
  have hseals := handleS0281_seals execution h
  obtain ⟨⟨results, hreports⟩, -⟩ := judged_cases h
  refine ⟨_, mergeArtifactRefs_of_separate ?_ hseals.types⟩
  intro ref href old hold
  by_cases htypes : ref.artifactType = old.artifactType
  · have hwritten : ref.artifactType ∈ s02Types 81 :=
      (handleS0281_writes a c.state execution h).type_mem href
    by_cases hreport : ref.artifactType = .planQualityReport
    · -- Reports of earlier drafts have smaller numbers.
      obtain ⟨found, hfound⟩ := mem_qualityReports href hreport
      rw [hreports, List.mem_singleton] at hfound
      obtain ⟨number, hlt, hid⟩ := hinv.reports old hold (htypes.symm.trans hreport)
      have hown : ref.artifactId = .stagePass ⟨.S02, 81⟩ c.state.s02RevisionAttempts :=
        congrArg Prod.fst hfound
      apply sameKey_eq_false
      rw [hown, hid]
      intro heq
      injection heq with _ hnumber
      omega
    · have hplan : old.artifactType ∈ planTypes := by
        rw [← htypes]
        simp only [s02Types, planTypes, List.mem_cons, List.not_mem_nil, or_false] at hwritten ⊢
        tauto
      exact absurd hplan (hinv.noPlans hpos hold)
  · simp [ArtifactRef.sameKey, htypes]

theorem RedraftInv.kept (hinv : RedraftInv tr c) (hpos : c.position = some ⟨.S02, 81⟩) {a : Answers}
    {execution : NodeExecution} (h : handleS0281 a c.state = .ok execution) :
    ∃ visit c', SharedStep c visit c' ∧ visit.execution = execution := by
  obtain ⟨merged, hmerged⟩ := hinv.merges hpos h
  have hcached : c.ledger.cached (deriveIdempotencyKey ⟨.S02, 81⟩ c.state) = none := by
    by_contra hne
    obtain ⟨recorded, hrecorded⟩ := Option.ne_none_iff_exists'.mp hne
    exact absurd (hinv.ledger.keys _ _ hrecorded rfl) (lt_irrefl _)
  have hroute : execution.route ∈ declaredRoutes ⟨.S02, 81⟩ := by
    rcases (judged_cases h).2 with ⟨-, hroute, -⟩ | ⟨-, hroute, -⟩
    · rw [hroute]
      decide
    · rw [hroute]
      split <;> decide
  have hcommit : ∃ s', commit ⟨.S02, 81⟩ execution c.state = .ok s' := by
    unfold commit
    rw [hmerged, record_eq_some (prodMk_injective2.right _)]
    exact ⟨_, rfl⟩
  obtain ⟨s', hcommit⟩ := hcommit
  have hexecute : execute sharedRegistry ⟨.S02, 81⟩ a c.state c.ledger =
      .ok ⟨deriveIdempotencyKey ⟨.S02, 81⟩ c.state, false, execution, s',
        c.ledger.record (deriveIdempotencyKey ⟨.S02, 81⟩ c.state) execution⟩ := by
    have hregistered : sharedRegistry ⟨.S02, 81⟩ =
        some ⟨declaredRoutes ⟨.S02, 81⟩, nodeHandler ⟨.S02, 81⟩⟩ := if_pos (by decide)
    have hhandler : nodeHandler ⟨.S02, 81⟩ a c.state = .ok execution := h
    unfold execute
    rw [hregistered]
    dsimp only
    rw [hcached]
    dsimp only
    rw [hhandler]
    dsimp only
    rw [if_pos hroute, hcommit]
    rfl
  exact ⟨_, ⟨_, s', _⟩, ⟨⟨_, a, hpos, hexecute, rfl⟩, rfl, rfl⟩, rfl⟩

/-- In every session that enters S02 only before the first draft of the case is judged, the
redrafts are bounded and fair, the reports have ids of their own, and the plan is sealed just
when the last draft passes. -/
theorem fairRedrafts_of_session (hstart : Undrafted portfolio c₀)
    (hrun : Run SharedSession c₀ tr c) (henters : EntersUndrafted tr) : FairRedrafts tr c := by
  have hinv := redraftInv_of_session hstart hrun henters
  refine ⟨?_, ?_, (reportIds_of_session hstart hrun).1, ?_, ?_⟩
  · intro later earlier htr
    obtain ⟨c₁, hearlier⟩ := redraftInv_earlier hstart hrun henters htr
    exact hearlier.bounded
  · intro later t earlier draft htr hdraft hfailing hfew
    subst htr
    obtain ⟨hbefore, hstep, -⟩ := hrun.step_of_eq_append
    have hearlier := redraftInv_of_session hstart hbefore fun u hu =>
      henters u (List.mem_append_right _ (List.mem_cons_of_mem _ hu))
    obtain ⟨visit, hlabel, hnode, rfl⟩ := draftOf_eq_some hdraft
    rw [hlabel] at hstep
    exact hearlier.revised (SharedStep.sharedSpec hearlier.ledger.writes hstep) hnode hfailing hfew
  · intro later earlier htr type htype
    obtain ⟨c₁, hearlier⟩ := redraftInv_earlier hstart hrun henters htr
    exact hearlier.sealed_iff htype
  · intro hpos a execution h
    exact hinv.kept hpos h

end Sessions

/-! ### Runs without a resume -/

/-- The positions from which S02 is still to be entered. -/
def BeforePlanning (n : NodeId) : Prop := n.stage = .S01 ∨ n = ⟨.S02, 10⟩

theorem beforePlanning_outer {c c' : Config} {visit : Visit} {stage : Stage}
    (houter : outerNext visit.node.stage c'.state = some stage)
    (hn : BeforePlanning (firstNode stage)) (hpos : c'.position = some (firstNode stage)) :
    visit.node.stage = .S01 ∨ RevertEdge ⟨c, visit, c'⟩ := by
  have hstages : stage = .S01 ∨ stage = .S02 := by
    rcases hn with hfirst | hsecond
    · exact .inl hfirst
    · exact .inr (congrArg NodeId.stage hsecond)
  cases hstage : visit.node.stage with
  | S01 => exact .inl rfl
  | S06 =>
    rw [hstage] at houter
    rcases outerNext_s06 houter with ⟨-, rfl⟩ | ⟨-, -, rfl⟩ | ⟨-, rfl⟩
    · simp at hstages
    · simp at hstages
    · exact .inr ⟨hstage, hpos⟩
  | S04 =>
    rw [hstage] at houter
    rcases (outerNext_s04 houter).2 with ⟨-, rfl⟩ | ⟨-, -, rfl⟩
    · simp at hstages
    · simp at hstages
  | S02 | S03 | S05 =>
    rw [hstage] at houter
    obtain ⟨-, rfl⟩ := completedGate_some houter
    simp at hstages
  | _ =>
    rw [hstage] at houter
    cases houter

/-- Back in front of S02, a step comes from S01 or from a revert. -/
theorem beforePlanning_from {c c' : Config} {visit : Visit} (h : SharedSpec c visit c')
    {n : NodeId} (hn : BeforePlanning n) (hpos : c'.position = some n) :
    visit.node.stage = .S01 ∨ RevertEdge ⟨c, visit, c'⟩ := by
  rcases nextPosition_cases (h.next.symm.trans hpos) with hinner | ⟨-, stage, houter, rfl⟩
  · left
    obtain ⟨-, ⟨-, rfl⟩ | ⟨-, rfl⟩ | ⟨-, rfl | rfl⟩⟩ := innerNext_cases hinner
    · rcases hn with hstage | hsecond
      · exact hstage
      · have hnumber := congrArg NodeId.number hsecond
        have hbound := (number_bounds _ h.registered).1
        simp only at hnumber
        omega
    all_goals simp [BeforePlanning] at hn
  · exact beforePlanning_outer houter hn hpos

section Runs
variable {portfolio : SolutionPortfolio} {c₀ c : Config} {tr : SharedTrace}

/-- In front of S02, either no draft was judged or a strategy was reverted. -/
structure EntryInv (base : List String) (c : Config) : Prop where
  early : ∀ n, BeforePlanning n → c.position = some n →
    c.state.s02RevisionAttempts = 0 ∨ Grown base c
  keys : ∀ key execution, c.ledger.cached key = some execution → key.node = ⟨.S02, 10⟩ →
    key.revision = 0

/-- After a revert the selection of the fallback is missing, so `S02.10` raises. -/
theorem EntryInv.enters {base : List String} {c' : Config} {visit : Visit}
    (hinv : EntryInv base c) (hchain : ChainInv portfolio base c) (h : SharedSpec c visit c')
    (hnode : visit.node = ⟨.S02, 10⟩) : c.state.s02RevisionAttempts = 0 := by
  rcases hinv.early _ (.inr hnode) h.position with hzero | hgrown
  · exact hzero
  · rcases h.origin hnode with hcached | ⟨a, hhandler⟩
    · have hrevision := hinv.keys _ _ hcached hnode
      rw [h.key, hnode] at hrevision
      exact hrevision
    · obtain ⟨selected, hselected, -⟩ := except_bind_ok hhandler
      have hlength := (available_of_readSelected hchain hselected).1
      unfold Grown at hgrown
      omega

theorem EntryInv.step {base : List String} {c' : Config} {visit : Visit} (hinv : EntryInv base c)
    (hchain : ChainInv portfolio base c) (hfallback : FallbackInv base c')
    (h : SharedSpec c visit c') : EntryInv base c' where
  early n hn hpos := by
    rcases beforePlanning_from h hn hpos with hstage | hrevert
    · have hdraft : visit.node ≠ ⟨.S02, 81⟩ := ne_of_stage_ne (by rw [hstage]; decide)
      have hdecision : visit.node ≠ ⟨.S06, 80⟩ := ne_of_stage_ne (by rw [hstage]; decide)
      rw [s02RevisionAttempts_kept h hdraft, Grown, excluded_kept h hdecision]
      exact hinv.early _ (.inl hstage) h.position
    · exact .inr (grown_of_revertEdge hfallback h hrevert)
  keys key execution hcached hnode := by
    rcases h.cached_cases key execution hcached with hold | ⟨rfl, -⟩
    · exact hinv.keys key execution hold hnode
    · have hvisit : visit.node = ⟨.S02, 10⟩ := hnode
      rw [h.key, hvisit]
      exact hinv.enters hchain h hvisit

theorem entryInv_of_run (hstart : Undrafted portfolio c₀) (hrun : Run SharedStep c₀ tr c) :
    EntryInv c₀.state.s01ExcludedStrategyIds c ∧
      ∀ t ∈ tr, t.label.node = ⟨.S02, 10⟩ → t.before.state.s02RevisionAttempts = 0 := by
  induction hrun with
  | nil =>
    refine ⟨⟨?_, ?_⟩, ?_⟩
    · intro n _ _
      exact .inl hstart.s02RevisionAttempts
    · intro key execution hcached hnode
      refine absurd ?_ (hstart.ledger key execution hcached)
      rw [hnode]
      decide
    · intro t ht
      cases ht
  | @snoc tr s s' visit hrun hstep ih =>
    obtain ⟨hinv, hentered⟩ := ih
    obtain ⟨hchain, -, -⟩ := reverted_of_run hstart.toUnplanned hrun
    obtain ⟨-, hfallback, -⟩ := reverted_of_run hstart.toUnplanned (hrun.snoc hstep)
    have hspec := SharedStep.sharedSpec hchain.writes hstep
    refine ⟨hinv.step hchain hfallback hspec, ?_⟩
    intro t ht hnode
    rcases List.mem_cons.mp ht with rfl | ht
    · exact hinv.enters hchain hspec hnode
    · exact hentered t ht hnode

/-- A run as a session. -/
def asSession (tr : SharedTrace) : SessionTrace :=
  tr.map fun t => ⟨t.before, .node t.label, t.after⟩

theorem session_of_run (hrun : Run SharedStep c₀ tr c) : Run SharedSession c₀ (asSession tr) c := by
  induction hrun with
  | nil => exact .nil
  | snoc _ hstep ih => exact ih.snoc hstep

/-- Without a resume S02 is not entered again after a draft: a revert ends in an error. -/
theorem entersUndrafted_of_run (hstart : Undrafted portfolio c₀) (hrun : Run SharedStep c₀ tr c) :
    EntersUndrafted (asSession tr) := by
  intro t ht henters
  obtain ⟨u, hu, rfl⟩ := List.mem_map.mp ht
  exact (entryInv_of_run hstart hrun).2 u hu (by simpa [entersPlanning] using henters)

end Runs

/-- The redrafts of every session are fair that enters S02 only before the first draft of the case
is judged, and so are those of every run without a resume. -/
theorem redrafts_fair_of_fresh_entry {portfolio : SolutionPortfolio} {c₀ : Config}
    (hstart : Undrafted portfolio c₀) :
    (∀ tr c, Run SharedSession c₀ tr c → EntersUndrafted tr → FairRedrafts tr c) ∧
      ∀ tr c, Run SharedStep c₀ tr c → FairRedrafts (asSession tr) c := by
  constructor
  · intro tr c hrun henters
    exact fairRedrafts_of_session hstart hrun henters
  · intro tr c hrun
    exact fairRedrafts_of_session hstart (session_of_run hrun) (entersUndrafted_of_run hstart hrun)

theorem undrafted_sampleCase (strategies : List SolutionStrategy) :
    Undrafted ⟨strategies⟩ (sampleCase strategies) where
  toUnplanned := unplanned_sampleCase strategies
  noTaskList := by simp [sampleCase, sampleRefs, ArtifactRef.artifactType, Artifact.artifactType]
  noReport := by simp [sampleCase, sampleRefs, ArtifactRef.artifactType, Artifact.artifactType]
  routes := filledAt_of_notMem fun j => by simp [sampleCase]
  interrupt interrupt hpending := by cases hpending

/-- The first draft fails and the second passes. -/
def secondDraftPasses : List (Stimulus Answers) :=
  List.replicate 18 (.answers { sampleAnswers with criticApproved := false }) ++
    List.replicate 7 (.answers sampleAnswers)

theorem second_draft_sealed :
    ∃ tr c, Run SharedSession promptRiskCase tr c ∧ (drafts tr).map draftPassed = [true, false] ∧
      FairRedrafts tr c := by
  obtain ⟨tr, c, hrun, hcheck⟩ := exists_sessionRun sharedRegistry (firstNode .S01) nextPosition
    promptRiskCase secondDraftPasses
    (fun out => decide ((drafts out.1).map draftPassed = [true, false]) &&
      out.1.all fun t => !entersPlanning t || t.before.state.s02RevisionAttempts == 0)
    (by decide +kernel)
  rw [Bool.and_eq_true, decide_eq_true_eq, List.all_eq_true] at hcheck
  refine ⟨tr, c, hrun, hcheck.1, ?_⟩
  apply (redrafts_fair_of_fresh_entry (undrafted_sampleCase _)).1 tr c hrun
  intro t ht henters
  simpa [henters] using hcheck.2 t ht

/-! ### A visit after a resume -/

/-- Three drafts fail and the run ends; the owner approves the selection that is still pending,
and the first draft of the next run fails too. -/
def resumedDraftFails : List (Config → Stimulus Answers) :=
  List.replicate 32 (fun _ => .answers doubtedAnswers) ++ [ownerApprovesPending] ++
    List.replicate 18 (fun _ => .answers { doubtedAnswers with now := 2 })

def firstDraftRejected (out : SessionTrace × Config) : Bool :=
  match out.1 with
  | t :: earlier =>
    (draftOf t).any (fun draft => !draftPassed draft && draft.route == .rejected) &&
      (drafts earlier).isEmpty
  | [] => false

/-- The first draft of the second visit fails and is not revised. -/
theorem first_draft_rejected :
    ∃ tr c, Run SharedSession codeRiskCase tr c ∧ firstDraftRejected (tr, c) = true ∧
      ¬ FairRedrafts tr c := by
  obtain ⟨tr, c, hrun, hcheck⟩ := exists_scriptedRun sharedRegistry (firstNode .S01) nextPosition
    codeRiskCase resumedDraftFails firstDraftRejected (by decide +kernel)
  refine ⟨tr, c, hrun, hcheck, ?_⟩
  intro hfair
  unfold firstDraftRejected at hcheck
  split at hcheck
  · rename_i t earlier htr
    rw [Bool.and_eq_true, Option.any_eq_true] at hcheck
    obtain ⟨⟨draft, hdraft, hverdict⟩, hnone⟩ := hcheck
    rw [Bool.and_eq_true, Bool.not_eq_true', beq_iff_eq] at hverdict
    have hrevised := hfair.revised [] t earlier draft htr hdraft hverdict.1
      (by rw [List.isEmpty_iff.mp hnone]; decide)
    rw [hrevised.1] at hverdict
    cases hverdict.2
  · cases hcheck

end ProductionOptimizer
