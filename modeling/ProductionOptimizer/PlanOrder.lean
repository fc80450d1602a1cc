import ProductionOptimizer.SharedRuns

/-!
# Is a sealed plan executable in order?

S02.50 drops tasks of unknown phases, S02.81 checks cycles and the order of risks. Neither
compares ids or sequences with each other, looks for dependencies that name no task, or
compares the phases of two tasks of which one depends on the other.
-/

namespace ProductionOptimizer
open Runs
set_option autoImplicit false

/-! ### Tasks of known phases -/

def TasksKnown (draft : PlanDraft) : Prop :=
  ∀ task ∈ draft.tasks, ∃ phase ∈ draft.phases, phase.phaseId = task.phaseId

/-- The drafts an execution writes. -/
def WritesKnown (execution : NodeExecution) : Prop :=
  ∃ draft, execution.updates = [.s02PlanDraft draft] ∧ TasksKnown draft

theorem handleS0250_known {a : Answers} {s : OptimizationState} {execution : NodeExecution}
    (h : handleS0250 a s = .ok execution) : WritesKnown execution := by
  obtain ⟨snapshot, _, h⟩ := except_bind_ok h
  cases h
  refine ⟨_, rfl, fun task htask => ?_⟩
  obtain ⟨phase, hphase, hid⟩ := List.any_eq_true.mp (List.mem_filter.mp htask).2
  exact ⟨phase, hphase, eq_of_beq hid⟩

theorem handleS0260_known {a : Answers} {s : OptimizationState} {execution : NodeExecution}
    (h : handleS0260 a s = .ok execution) (hknown : TasksKnown s.s02PlanDraft) :
    WritesKnown execution := by
  obtain ⟨selected, _, h⟩ := except_bind_ok h
  obtain ⟨portfolio, _, h⟩ := except_bind_ok h
  obtain ⟨strategy, _, h⟩ := except_bind_ok h
  cases h
  exact ⟨_, rfl, hknown⟩

theorem handleS0270_known {a : Answers} {s : OptimizationState} {execution : NodeExecution}
    (h : handleS0270 a s = .ok execution) (hknown : TasksKnown s.s02PlanDraft) :
    WritesKnown execution := by
  cases h
  exact ⟨_, rfl, hknown⟩

/-- The nodes that write a draft whose tasks are known. -/
def draftingNodes : List NodeId := [⟨.S02, 50⟩, ⟨.S02, 60⟩, ⟨.S02, 70⟩]

/-- The nodes that only such drafts reach. -/
def checkingNodes : List NodeId := [⟨.S02, 60⟩, ⟨.S02, 70⟩, ⟨.S02, 80⟩, ⟨.S02, 81⟩]

/-- A draft that reaches the checks has tasks of known phases, whether it was just written
or read back. -/
structure DraftsKnown (c : Config) : Prop where
  cached : ∀ key execution, c.ledger.cached key = some execution → key.node ∈ draftingNodes →
    WritesKnown execution
  state : ∀ n ∈ checkingNodes, c.position = some n → TasksKnown c.state.s02PlanDraft

theorem Converged.draftsKnown {portfolio : SolutionPortfolio} {c : Config}
    (h : Converged portfolio c) : DraftsKnown c where
  cached key execution hcached hnode := by
    have hshared : ∀ n ∈ draftingNodes, n.stage ∈ sharedStages := by decide
    exact absurd (hshared _ hnode) (h.ledger key execution hcached)
  state n hn hpos := by
    rw [h.position] at hpos
    cases hpos
    exact absurd hn (by decide)

/-- A node of the checks is entered from the one before it. -/
theorem entered_of_mem_checkingNodes {n q : NodeId} {s : OptimizationState} (hn : n ∈ catalog)
    (hq : q ∈ checkingNodes) (h : nextPosition n s = some q) :
    n ∈ draftingNodes ∨ n = ⟨.S02, 80⟩ := by
  rcases nextPosition_cases h with hinner | ⟨_, stage, _, rfl⟩
  · obtain ⟨_, ⟨_, rfl⟩ | ⟨rfl, rfl⟩ | ⟨_, rfl | rfl⟩⟩ := innerNext_cases hinner
    · left
      have hdrafts : ∀ m ∈ catalog, ⟨m.stage, m.number + 10⟩ ∈ checkingNodes →
          m ∈ draftingNodes := by decide +kernel
      exact hdrafts n hn hq
    · exact .inr rfl
    · exact absurd hq (by decide)
    · exact absurd hq (by decide)
  · cases stage <;> exact absurd hq (by decide)

section Step
variable {c c' : Config} {visit : Visit}

/-- A drafting node writes known tasks, in the run or in the run it is read back from. -/
theorem DraftsKnown.writes (hknown : DraftsKnown c) (h : SharedSpec c visit c')
    (hnode : visit.node ∈ draftingNodes) : WritesKnown visit.execution := by
  rcases h.origin rfl with hcached | ⟨a, hhandler⟩
  · exact hknown.cached _ _ hcached hnode
  · have hstate := fun hn => hknown.state visit.node hn h.position
    simp only [draftingNodes, List.mem_cons, List.not_mem_nil, or_false] at hnode
    rcases hnode with hn | hn | hn
    · rw [hn] at hhandler
      exact handleS0250_known hhandler
    · rw [hn] at hhandler hstate
      exact handleS0260_known hhandler (hstate (by decide))
    · rw [hn] at hhandler hstate
      exact handleS0270_known (a := a) hhandler (hstate (by decide))

theorem SharedSpec.s02PlanDraft_of_writes (h : SharedSpec c visit c') {draft : PlanDraft}
    (hupdates : visit.execution.updates = [.s02PlanDraft draft]) :
    c'.state.s02PlanDraft = draft := by
  have hget := h.committed.get .s02PlanDraft
  rw [hupdates] at hget
  exact hget

theorem DraftsKnown.step (hknown : DraftsKnown c) (h : SharedSpec c visit c') :
    DraftsKnown c' where
  cached key execution hcached hnode := by
    rcases h.cached_cases key execution hcached with hold | ⟨rfl, rfl⟩
    · exact hknown.cached key execution hold hnode
    · exact hknown.writes h hnode
  state n hn hpos := by
    rcases entered_of_mem_checkingNodes h.registered hn (h.next.symm.trans hpos) with
      hdrafts | hlast
    · obtain ⟨draft, hupdates, hdraft⟩ := hknown.writes h hdrafts
      rw [h.s02PlanDraft_of_writes hupdates]
      exact hdraft
    · have hsame : c'.state.s02PlanDraft = c.state.s02PlanDraft :=
        h.get (f := .s02PlanDraft) (by rw [hlast]; decide)
      rw [hsame]
      exact hknown.state visit.node (by rw [hlast]; decide) h.position

end Step

/-! ### What S03.10 starts -/

/-- The phase that is started is the first with an open task, in the order of sequences. -/
theorem firstOpenPhase_spec {phases : List ExecutionPhase} {tasks : List PlanTask}
    {completed : List String} {phaseId : String}
    (h : firstOpenPhase phases tasks completed = some phaseId) :
    ∃ phase ∈ phases, phase.phaseId = phaseId ∧
      ∀ earlier ∈ phases, earlier.sequence < phase.sequence →
        ∀ taskId ∈ phaseTaskIds tasks earlier.phaseId, taskId ∈ completed := by
  obtain ⟨phase, hfind, hid⟩ := Option.map_eq_some_iff.mp h
  obtain ⟨hopen, before, after, hsplit, hclosed⟩ := List.find?_eq_some_iff_append.mp hfind
  have hmem : ∀ x, x ∈ sortBySequence phases ↔ x ∈ phases := fun x => List.mem_insertionSort _
  refine ⟨phase, (hmem phase).mp (List.mem_of_find?_eq_some hfind), hid, ?_⟩
  intro earlier hearlier hlt taskId htask
  have hplace : earlier ∈ before := by
    have hall := (hmem earlier).mpr hearlier
    rw [hsplit, List.mem_append, List.mem_cons] at hall
    have hsorted : (sortBySequence phases).Pairwise fun x y => x.sequence ≤ y.sequence :=
      List.pairwise_insertionSort _ _
    rw [hsplit] at hsorted
    rcases hall with hbefore | rfl | hafter
    · exact hbefore
    · exact absurd hlt (Nat.lt_irrefl _)
    · have hle := (List.pairwise_cons.mp (List.pairwise_append.mp hsorted).2.1).1 earlier hafter
      exact absurd hlt (Nat.not_lt.mpr hle)
  have hdone := hclosed earlier hplace
  simp only [Bool.not_not] at hdone
  have htaskDone := List.all_eq_true.mp hdone taskId htask
  simpa using htaskDone

/-! ### Executable plans -/

/-- What no node compares: ids and sequences with each other, and dependencies with the tasks
and the phases that they name. -/
structure WellOrdered (phases : List ExecutionPhase) (tasks : List PlanTask) : Prop where
  phaseIds : (phases.map (·.phaseId)).Nodup
  sequences : (phases.map (·.sequence)).Nodup
  taskIds : (tasks.map (·.taskId)).Nodup
  dependencies : ∀ task ∈ tasks, ∀ taskId ∈ task.dependsOn, ∃ dep ∈ tasks, dep.taskId = taskId
  backward : ∀ task ∈ tasks, ∀ dep ∈ tasks, dep.taskId ∈ task.dependsOn →
    ∀ phase ∈ phases, ∀ depPhase ∈ phases, phase.phaseId = task.phaseId →
      depPhase.phaseId = dep.phaseId → depPhase.sequence ≤ phase.sequence

/-- Whatever has been completed, the phase that S03.10 starts depends on completed tasks and
on its own. -/
def StartsInOrder (phases : List ExecutionPhase) (tasks : List PlanTask) : Prop :=
  ∀ completed phaseId, firstOpenPhase phases tasks completed = some phaseId →
    ∀ task ∈ tasks, task.phaseId = phaseId → ∀ taskId ∈ task.dependsOn,
      taskId ∈ completed ∨ ∃ dep ∈ tasks, dep.taskId = taskId ∧ dep.phaseId = phaseId

structure Executable (phases : List ExecutionPhase) (tasks : List PlanTask) : Prop where
  ordered : WellOrdered phases tasks
  named : ∀ task ∈ tasks, ∃ phase ∈ phases, phase.phaseId = task.phaseId
  started : StartsInOrder phases tasks

theorem WellOrdered.startsInOrder {phases : List ExecutionPhase} {tasks : List PlanTask}
    (h : WellOrdered phases tasks)
    (hnamed : ∀ task ∈ tasks, ∃ phase ∈ phases, phase.phaseId = task.phaseId) :
    StartsInOrder phases tasks := by
  intro completed phaseId hfirst task htask hphaseId taskId hdep
  obtain ⟨phase, hphase, hid, hearlier⟩ := firstOpenPhase_spec hfirst
  obtain ⟨dep, hdepTask, rfl⟩ := h.dependencies task htask taskId hdep
  obtain ⟨depPhase, hdepPhase, hdepId⟩ := hnamed dep hdepTask
  have hle := h.backward task htask dep hdepTask hdep phase hphase depPhase hdepPhase
    (hid.trans hphaseId.symm) hdepId
  rcases Nat.lt_or_eq_of_le hle with hlt | heq
  · left
    apply hearlier depPhase hdepPhase hlt
    exact List.mem_map_of_mem (List.mem_filter.mpr ⟨hdepTask, beq_iff_eq.mpr hdepId.symm⟩)
  · right
    have hsame : depPhase = phase :=
      List.inj_on_of_nodup_map h.sequences hdepPhase hphase heq
    refine ⟨dep, hdepTask, rfl, ?_⟩
    rw [← hdepId, hsame, hid]

/-- What S02.81 seals is the draft. -/
theorem handleS0281_seals_draft {a : Answers} {s : OptimizationState} {execution : NodeExecution}
    (h : handleS0281 a s = .ok execution) :
    (∀ id now selected phases, ⟨id, .executionPlan now selected phases⟩ ∈ execution.artifactRefs →
      phases = s.s02PlanDraft.phases) ∧
    ∀ id now plan tasks, ⟨id, .taskList now plan tasks⟩ ∈ execution.artifactRefs →
      tasks = s.s02PlanDraft.tasks := by
  obtain ⟨selectedRef, _, h⟩ := except_bind_ok h
  obtain ⟨snapshot, _, h⟩ := except_bind_ok h
  dsimp only at h
  split at h
  · cases h
    constructor
    · intro id now selected phases href
      simp at href
      exact href.2.2.2
    · intro id now plan tasks href
      simp at href
      exact href.2.2.2
  · cases h
    constructor
    · intro id now selected phases href
      simp at href
    · intro id now plan tasks href
      simp at href

/-- In every run, a plan and a task list that S02.81 seals are executable exactly if the draft
that it found was well ordered. -/
theorem sealed_plan_executable_iff {portfolio : SolutionPortfolio} {c₀ c c' : Config}
    {tr : SharedTrace} {visit : Visit} (hconverged : Converged portfolio c₀)
    (hrun : Run SharedStep c₀ tr c) (hstep : SharedStep c visit c')
    (hnode : visit.node = ⟨.S02, 81⟩) (hfresh : visit.replayed = false) {now now' : Nat}
    {selected plan : Artifact} {phases : List ExecutionPhase} {tasks : List PlanTask}
    (hplan : ⟨.base, .executionPlan now selected phases⟩ ∈ visit.execution.artifactRefs)
    (htasks : ⟨.base, .taskList now' plan tasks⟩ ∈ visit.execution.artifactRefs) :
    Executable phases tasks ↔
      WellOrdered c.state.s02PlanDraft.phases c.state.s02PlanDraft.tasks := by
  have hinv : WritesSound c.ledger ∧ DraftsKnown c :=
    hrun.invariant (I := fun c => WritesSound c.ledger ∧ DraftsKnown c)
      ⟨hconverged.writesSound, hconverged.draftsKnown⟩ fun _ _ _ hinv hs =>
        have hspec := SharedStep.sharedSpec hinv.1 hs
        ⟨hspec.writesSound hinv.1, hinv.2.step hspec⟩
  have hspec := SharedStep.sharedSpec hinv.1 hstep
  obtain ⟨_, a, hhandler⟩ := hspec.fresh hfresh
  rw [hnode] at hhandler
  obtain ⟨hphases, htasks'⟩ := handleS0281_seals_draft (a := a) hhandler
  cases hphases _ _ _ _ hplan
  cases htasks' _ _ _ _ htasks
  have hknown : TasksKnown c.state.s02PlanDraft :=
    hinv.2.state ⟨.S02, 81⟩ (by decide) (hnode ▸ hspec.position)
  exact ⟨fun h => h.ordered, fun h => ⟨h, hknown, h.startsInOrder hknown⟩⟩

/-! ### A draft with a dependency into a later phase -/

def orderedPhases : List ExecutionPhase :=
  [⟨"p1", 1, .implementation, .code, some "git revert"⟩,
    ⟨"p2", 2, .implementation, .code, some "git revert"⟩]

def tasksWith (first second : List String) : List PlanTask :=
  [⟨"t1", "p1", ["a.py"], [], first, false⟩, ⟨"t2", "p2", ["a.py"], [], second, false⟩]

def draftAnswers (tasks : List PlanTask) : Answers :=
  { sampleAnswers with draftPhases := orderedPhases, draftTasks := tasks }

/-- The run ends with S02.81 sealing the two phases and the tasks. -/
def endsSealing (tasks : List PlanTask) (out : SharedTrace × Config) : Bool :=
  match out.1 with
  | [] => false
  | t :: _ => decide (t.label.node = ⟨.S02, 81⟩) && !t.label.replayed &&
      t.label.execution.artifactRefs.any fun ref =>
        match ref with
        | ⟨.base, .taskList _ (.executionPlan now selected phases) tasks'⟩ =>
          decide (phases = orderedPhases) && decide (tasks' = tasks) &&
            t.label.execution.artifactRefs.contains
              ⟨.base, .executionPlan now selected phases⟩
        | _ => false

theorem exists_sealingRun (tasks : List PlanTask)
    (h : (sharedReplay promptRiskCase (List.replicate 18 (draftAnswers tasks))).any
      (endsSealing tasks) = true) :
    ∃ tr c visit c' now now' selected plan, Run SharedStep promptRiskCase tr c ∧
      SharedStep c visit c' ∧ visit.node = ⟨.S02, 81⟩ ∧ visit.replayed = false ∧
      ⟨.base, .executionPlan now selected orderedPhases⟩ ∈ visit.execution.artifactRefs ∧
      ⟨.base, .taskList now' plan tasks⟩ ∈ visit.execution.artifactRefs := by
  obtain ⟨tr, c', hrun, hcheck⟩ := exists_sharedRun promptRiskCase
    (List.replicate 18 (draftAnswers tasks)) (endsSealing tasks) h
  cases tr with
  | nil => cases hcheck
  | cons t tr =>
    obtain ⟨hbefore, hstep⟩ := hrun.last_step
    simp only [endsSealing, Bool.and_eq_true, decide_eq_true_eq, Bool.not_eq_true',
      List.any_eq_true] at hcheck
    obtain ⟨⟨hnode, hfresh⟩, ref, href, hmatch⟩ := hcheck
    split at hmatch
    · rename_i _ now' now selected phases tasks'
      simp only [Bool.and_eq_true, decide_eq_true_eq, List.contains_iff_mem] at hmatch
      obtain ⟨⟨rfl, rfl⟩, hplan⟩ := hmatch
      exact ⟨tr, t.before, t.label, t.after, now, now', selected, _, hbefore, hstep, hnode,
        hfresh, hplan, href⟩
    · cases hmatch

/-- The first task depends on the second, whose phase comes later. -/
theorem later_dependency_sealed :
    ∃ tr c visit c' now now' selected plan, Run SharedStep promptRiskCase tr c ∧
      SharedStep c visit c' ∧ visit.node = ⟨.S02, 81⟩ ∧ visit.replayed = false ∧
      ⟨.base, .executionPlan now selected orderedPhases⟩ ∈ visit.execution.artifactRefs ∧
      ⟨.base, .taskList now' plan (tasksWith ["t2"] [])⟩ ∈ visit.execution.artifactRefs ∧
      ¬ Executable orderedPhases (tasksWith ["t2"] []) := by
  obtain ⟨tr, c, visit, c', now, now', selected, plan, hrun, hstep, hnode, hfresh, hplan, htasks⟩ :=
    exists_sealingRun (tasksWith ["t2"] []) (by decide +kernel)
  refine ⟨tr, c, visit, c', now, now', selected, plan, hrun, hstep, hnode, hfresh, hplan, htasks,
    fun h => ?_⟩
  have hle := h.ordered.backward _ (List.mem_cons_self) _
    (List.mem_cons_of_mem _ List.mem_cons_self) List.mem_cons_self _ (List.mem_cons_self) _
    (List.mem_cons_of_mem _ List.mem_cons_self) rfl rfl
  exact absurd hle (by decide)

/-- The dependency the other way round. -/
theorem sealed_plan_orderedPhases :
    ∃ tr c visit c', Run SharedStep promptRiskCase tr c ∧ SharedStep c visit c' ∧
      visit.node = ⟨.S02, 81⟩ ∧
      (Executable orderedPhases (tasksWith [] ["t1"]) ↔
        WellOrdered c.state.s02PlanDraft.phases c.state.s02PlanDraft.tasks) := by
  obtain ⟨tr, c, visit, c', now, now', selected, plan, hrun, hstep, hnode, hfresh, hplan, htasks⟩ :=
    exists_sealingRun (tasksWith [] ["t1"]) (by decide +kernel)
  exact ⟨tr, c, visit, c', hrun, hstep, hnode,
    sealed_plan_executable_iff (converged_sampleCase _) hrun hstep hnode hfresh hplan htasks⟩

end ProductionOptimizer
