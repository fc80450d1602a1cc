import ProductionOptimizer.Handlers.PlanAndTasks
import ProductionOptimizer.Library.DepthFirst

/-!
# The dependency check decides acyclicity

`_check_acyclic` is a depth-first search over the tasks of a draft, with the sets `visiting` and
`visited` shared by all of its calls. Here it runs with the two sets spelled out, and `none`
stands for a call that has not returned. S02.81 takes its verdict from `checkAcyclic`, which
agrees with it.
-/

namespace ProductionOptimizer
open DepthFirst (Marks visit visitAll)
set_option autoImplicit false

/-! ### The search -/

/-- The ids that `visit` goes on to: those of `graph.get(task_id, [])` that are in the graph. -/
def listedDependencies (graph : List (String × List String)) (taskId : String) : List String :=
  ((graph.lookup taskId).getD []).filter fun dep => graph.any (·.1 == dep)

/-- The loop over the graph. `repr` is Python's, of a `str`. -/
def checkRoots (repr : String → String) (graph : List (String × List String)) (fuel : Nat) :
    List String → Marks String → Option (Bool × Option String)
  | [], _ => some (true, none)
  | taskId :: rest, m =>
    match visit (listedDependencies graph) fuel taskId m with
    | none => none
    | some (false, _) => some (false, some ("dependency cycle detected involving " ++ repr taskId))
    | some (true, m') => checkRoots repr graph fuel rest m'

/-- `_check_acyclic` on a stack of `fuel` nested calls. -/
def checkAcyclicRun (repr : String → String) (fuel : Nat) (tasks : List PlanTask) :
    Option (Bool × Option String) :=
  checkRoots repr (dependencyGraph tasks) fuel ((dependencyGraph tasks).map (·.1)) ⟨[], []⟩

theorem checkRoots_eq (repr : String → String) (graph : List (String × List String)) (fuel : Nat)
    (roots : List String) (m : Marks String) :
    (checkRoots repr graph fuel roots m).map (·.1) =
      (visitAll (visit (listedDependencies graph) fuel) roots m).map (·.1) := by
  induction roots generalizing m with
  | nil => rfl
  | cons taskId rest ih =>
    unfold checkRoots visitAll
    cases visit (listedDependencies graph) fuel taskId m with
    | none => rfl
    | some result =>
      obtain ⟨ok, m'⟩ := result
      cases ok with
      | false => rfl
      | true => exact ih m'

/-! ### The verdict of S02.81 -/

/-- What a search without a cycle is done with. -/
def done : Option (Bool × Marks String) → Option (List String)
  | some (true, m) => some m.visited
  | _ => none

section Verdict
variable {graph : List (String × List String)} {fuel : Nat}

theorem foldlM_eq_done {call : String → Marks String → Option (Bool × Marks String)}
    {step : List String → String → Option (List String)} {path : List String}
    (hpath : ∀ a m m', call a m = some (true, m') → m'.visiting = m.visiting)
    (hstep : ∀ visited a, step visited a = done (call a ⟨path, visited⟩))
    (listed : String → Bool) (todo : List String) (visited : List String) :
    todo.foldlM (fun visited a => if listed a then step visited a else some visited) visited =
      done (visitAll call (todo.filter listed) ⟨path, visited⟩) := by
  induction todo generalizing visited with
  | nil => rfl
  | cons a rest ih =>
    rw [List.foldlM_cons, List.filter_cons]
    by_cases hlisted : listed a = true
    · rw [if_pos hlisted, if_pos hlisted, hstep]
      unfold visitAll
      split
      · rename_i hnone
        rw [hnone]
        rfl
      · rename_i hfalse
        rw [hfalse]
        rfl
      · rename_i m' htrue
        obtain ⟨visiting, inner⟩ := m'
        obtain rfl : visiting = path := hpath a _ _ htrue
        rw [htrue]
        exact ih inner
    · rw [if_neg hlisted, if_neg hlisted]
      exact ih visited

/-- `visitTask` leaves the path to its callers and gives up the difference between a cycle and
a lack of fuel. -/
theorem visitTask_eq (fuel : Nat) (visiting visited : List String) (taskId : String) :
    visitTask graph fuel visiting visited taskId =
      done (visit (listedDependencies graph) fuel taskId ⟨visiting, visited⟩) := by
  induction fuel generalizing visiting visited taskId with
  | zero => rfl
  | succ fuel ih =>
    unfold visitTask visit
    by_cases hvisited : taskId ∈ visited
    · rw [if_pos (List.contains_iff_mem.mpr hvisited), if_pos hvisited]
      rfl
    · rw [if_neg (by simpa using hvisited), if_neg hvisited]
      by_cases hvisiting : taskId ∈ visiting
      · rw [if_pos (List.contains_iff_mem.mpr hvisiting), if_pos hvisiting]
        rfl
      · rw [if_neg (by simpa using hvisiting), if_neg hvisiting,
          foldlM_eq_done (DepthFirst.visit_visiting fuel) (fun inner a => ih _ inner a)]
        show (done (visitAll _ (listedDependencies graph taskId) _)).map _ = _
        split
        · rename_i hnone
          rw [hnone]
          rfl
        · rename_i hfalse
          rw [hfalse]
          rfl
        · rename_i m' htrue
          rw [htrue]
          rfl

theorem checkAcyclic_eq (tasks : List PlanTask) :
    checkAcyclic tasks =
      (done (visitAll (visit (listedDependencies (dependencyGraph tasks))
        ((dependencyGraph tasks).length + 1)) ((dependencyGraph tasks).map (·.1))
          ⟨[], []⟩)).isSome := by
  unfold checkAcyclic
  have hfold : ((dependencyGraph tasks).map (·.1)).foldlM (fun visited a => if true then
        visitTask (dependencyGraph tasks) ((dependencyGraph tasks).length + 1) [] visited a
      else some visited) [] = _ :=
    foldlM_eq_done (DepthFirst.visit_visiting ((dependencyGraph tasks).length + 1))
      (fun visited a => visitTask_eq _ [] visited a) (fun _ => true) _ []
  rw [List.filter_true] at hfold
  rw [← hfold]
  rfl

end Verdict

/-! ### Tasks and their dependencies -/

/-- One listed task depends on another. Unknown ids relate nothing. -/
def DependsOn (tasks : List PlanTask) (dep task : PlanTask) : Prop :=
  dep ∈ tasks ∧ task ∈ tasks ∧ dep.taskId ∈ task.dependsOn

/-- The tasks can be done one after the other. -/
def Sortable (tasks : List PlanTask) : Prop :=
  ∃ order, order.Perm tasks ∧ ∀ before task after, order = before ++ task :: after →
    ∀ dep, DependsOn tasks dep task → dep ∈ before

section Tasks
variable {tasks : List PlanTask}

theorem dependencyGraph_eq (hids : (tasks.map (·.taskId)).Nodup) :
    dependencyGraph tasks = tasks.map fun task => (task.taskId, task.dependsOn) := by
  apply dictOf_eq_self
  rw [List.map_map]
  exact hids

theorem keys_dependencyGraph (hids : (tasks.map (·.taskId)).Nodup) :
    (dependencyGraph tasks).map (·.1) = tasks.map (·.taskId) := by
  rw [dependencyGraph_eq hids, List.map_map]
  rfl

theorem eq_of_taskId (hids : (tasks.map (·.taskId)).Nodup) {task other : PlanTask}
    (htask : task ∈ tasks) (hother : other ∈ tasks) (h : task.taskId = other.taskId) :
    task = other :=
  List.inj_on_of_nodup_map hids htask hother h

theorem lookup_taskId (hids : (tasks.map (·.taskId)).Nodup) {task : PlanTask}
    (htask : task ∈ tasks) : (dependencyGraph tasks).lookup task.taskId = some task.dependsOn := by
  rw [dependencyGraph_eq hids]
  obtain ⟨before, after, rfl⟩ := List.append_of_mem htask
  rw [List.lookup_eq_some_iff]
  refine ⟨before.map _, after.map _, by rw [List.map_append, List.map_cons], ?_⟩
  intro entry hentry
  obtain ⟨other, hother, rfl⟩ := List.mem_map.mp hentry
  rw [List.map_append, List.map_cons, List.nodup_append] at hids
  rw [bne_iff_ne]
  exact (hids.2.2 _ (List.mem_map_of_mem hother) _ List.mem_cons_self).symm

theorem mem_listedDependencies (hids : (tasks.map (·.taskId)).Nodup) {taskId dep : String} :
    dep ∈ listedDependencies (dependencyGraph tasks) taskId ↔
      ∃ task other, DependsOn tasks other task ∧ task.taskId = taskId ∧ other.taskId = dep := by
  unfold listedDependencies
  have hlisted : (dependencyGraph tasks).any (·.1 == dep) = true ↔
      ∃ other ∈ tasks, other.taskId = dep := by
    rw [dependencyGraph_eq hids]
    simp
  rw [List.mem_filter, hlisted]
  constructor
  · rintro ⟨hdep, other, hother, rfl⟩
    cases hlookup : (dependencyGraph tasks).lookup taskId with
    | none =>
      rw [hlookup] at hdep
      cases hdep
    | some dependencies =>
      obtain ⟨before, after, hgraph, -⟩ := List.lookup_eq_some_iff.mp hlookup
      have hmem : (taskId, dependencies) ∈ dependencyGraph tasks := by
        rw [hgraph]
        exact List.mem_append_right _ List.mem_cons_self
      rw [dependencyGraph_eq hids] at hmem
      obtain ⟨task, htask, heq⟩ := List.mem_map.mp hmem
      cases heq
      rw [hlookup] at hdep
      exact ⟨task, other, ⟨hother, htask, hdep⟩, rfl, rfl⟩
  · rintro ⟨task, other, ⟨hother, htask, hdepends⟩, rfl, rfl⟩
    refine ⟨?_, other, hother, rfl⟩
    rw [lookup_taskId hids htask]
    exact hdepends

theorem mem_ids_of_listed (hids : (tasks.map (·.taskId)).Nodup) (taskId : String) :
    ∀ dep ∈ listedDependencies (dependencyGraph tasks) taskId, dep ∈ tasks.map (·.taskId) := by
  intro dep hdep
  obtain ⟨-, other, ⟨hother, -⟩, -, rfl⟩ := (mem_listedDependencies hids).mp hdep
  exact List.mem_map_of_mem hother

/-- A cycle of ids is a cycle of tasks. -/
theorem exists_cycle (hids : (tasks.map (·.taskId)).Nodup)
    (h : ∃ id, Relation.TransGen
      (DepthFirst.Leads (listedDependencies (dependencyGraph tasks))) id id) :
    ∃ task, Relation.TransGen (DependsOn tasks) task task := by
  have hlift : ∀ {first last}, Relation.TransGen
      (DepthFirst.Leads (listedDependencies (dependencyGraph tasks))) first last →
        ∃ task other, task.taskId = first ∧ other.taskId = last ∧ other ∈ tasks ∧
          task ∈ tasks ∧ Relation.TransGen (DependsOn tasks) task other := by
    intro first last hpath
    induction hpath with
    | single hleads =>
      obtain ⟨task, other, hdepends, rfl, rfl⟩ := (mem_listedDependencies hids).mp hleads
      exact ⟨other, task, rfl, rfl, hdepends.2.1, hdepends.1, .single hdepends⟩
    | tail _ hleads ih =>
      obtain ⟨start, middle, rfl, rfl, hmiddle, hstart, hpath⟩ := ih
      obtain ⟨task, other, hdepends, rfl, hid⟩ := (mem_listedDependencies hids).mp hleads
      obtain rfl := eq_of_taskId hids hdepends.1 hmiddle hid
      exact ⟨start, task, rfl, rfl, hdepends.2.1, hstart, hpath.tail hdepends⟩
  obtain ⟨id, hcycle⟩ := h
  obtain ⟨task, other, hid, hid', hother, htask, hpath⟩ := hlift hcycle
  obtain rfl := eq_of_taskId hids htask hother (hid.trans hid'.symm)
  exact ⟨task, hpath⟩

/-- In an order of the tasks no task comes before itself. -/
theorem not_cycle_of_sortable (h : Sortable tasks) (task : PlanTask) :
    ¬ Relation.TransGen (DependsOn tasks) task task := by
  obtain ⟨order, hperm, hbefore⟩ := h
  have hacc : ∀ before after, order = before ++ after →
      ∀ dep ∈ before, Acc (DependsOn tasks) dep := by
    intro before
    induction before using List.reverseRecOn with
    | nil =>
      intro after _ dep hdep
      cases hdep
    | append_singleton before last ih =>
      intro after horder dep hdep
      rw [List.append_assoc, List.singleton_append] at horder
      rcases List.mem_append.mp hdep with hdep | hdep
      · exact ih (last :: after) horder dep hdep
      · obtain rfl := List.mem_singleton.mp hdep
        refine Acc.intro dep fun other hother => ?_
        exact ih (dep :: after) horder other (hbefore before dep after horder other hother)
  intro hcycle
  have htask : task ∈ order := by
    obtain ⟨other, hfirst, -⟩ := Relation.TransGen.head'_iff.mp hcycle
    exact hperm.mem_iff.mpr hfirst.1
  exact DepthFirst.not_cycle_of_acc (hacc order [] (List.append_nil order).symm task htask) hcycle

/-- The task with an id. -/
def taskOf (tasks : List PlanTask) (taskId : String) : Option PlanTask :=
  tasks.find? (·.taskId == taskId)

theorem taskOf_eq_some (hids : (tasks.map (·.taskId)).Nodup) {taskId : String} {task : PlanTask} :
    taskOf tasks taskId = some task ↔ task ∈ tasks ∧ task.taskId = taskId := by
  unfold taskOf
  constructor
  · intro h
    exact ⟨List.mem_of_find?_eq_some h, by simpa using List.find?_some h⟩
  · rintro ⟨htask, rfl⟩
    cases hfind : tasks.find? (·.taskId == task.taskId) with
    | none =>
      have hnone := List.find?_eq_none.mp hfind task htask
      simp at hnone
    | some other =>
      have hid : other.taskId = task.taskId := by simpa using List.find?_some hfind
      rw [eq_of_taskId hids (List.mem_of_find?_eq_some hfind) htask hid]

/-- The tasks in the order in which the search is done with them. -/
theorem sortable_of_ordered (hids : (tasks.map (·.taskId)).Nodup) {order : List String}
    (hordered : DepthFirst.Ordered (listedDependencies (dependencyGraph tasks)) order)
    (hall : ∀ id ∈ tasks.map (·.taskId), id ∈ order) : Sortable tasks := by
  have hfound : ∀ {task}, task ∈ tasks → taskOf tasks task.taskId = some task :=
    fun htask => (taskOf_eq_some hids).mpr ⟨htask, rfl⟩
  refine ⟨order.reverse.filterMap (taskOf tasks), ?_, ?_⟩
  · apply (List.perm_ext_iff_of_nodup _ hids.of_map).mpr
    · intro task
      rw [List.mem_filterMap]
      constructor
      · rintro ⟨id, -, htask⟩
        exact ((taskOf_eq_some hids).mp htask).1
      · intro htask
        have hid := hall _ (List.mem_map_of_mem htask)
        exact ⟨task.taskId, List.mem_reverse.mpr hid, hfound htask⟩
    · apply List.Nodup.filterMap
      · intro id id' task hid hid'
        rw [← ((taskOf_eq_some hids).mp hid).2, ← ((taskOf_eq_some hids).mp hid').2]
      · exact List.nodup_reverse.mpr (DepthFirst.nodup_of_ordered hordered)
  · intro before task after hsplit dep hdepends
    obtain ⟨front, back, horder, rfl, hback⟩ := List.filterMap_eq_append_iff.mp hsplit
    obtain ⟨skipped, id, rest, rfl, hskipped, hid, -⟩ := List.filterMap_eq_cons_iff.mp hback
    obtain ⟨-, rfl⟩ := (taskOf_eq_some hids).mp hid
    have hreversed : order = rest.reverse ++ task.taskId :: (front ++ skipped).reverse := by
      rw [← List.reverse_inj, horder]
      simp
    have hmem := DepthFirst.leads_later hordered hreversed dep.taskId
      ((mem_listedDependencies hids).mpr ⟨task, dep, hdepends, rfl, rfl⟩)
    rw [List.mem_reverse, List.mem_append] at hmem
    rcases hmem with hfront | hskip
    · exact List.mem_filterMap.mpr ⟨dep.taskId, hfront, hfound hdepends.1⟩
    · have hnone := hskipped dep.taskId hskip
      rw [hfound hdepends.1] at hnone
      cases hnone

/-- Enough fuel gives a verdict: true with an order of the tasks, or false with a cycle. -/
theorem search_verdict (hids : (tasks.map (·.taskId)).Nodup) {fuel : Nat}
    (hfuel : tasks.length < fuel) :
    ∃ ok m, visitAll (visit (listedDependencies (dependencyGraph tasks)) fuel)
      ((dependencyGraph tasks).map (·.1)) ⟨[], []⟩ = some (ok, m) ∧ (ok = true ↔ Sortable tasks) ∧
        (Sortable tasks ∨ ∃ task, Relation.TransGen (DependsOn tasks) task task) := by
  have hlength : (tasks.map (·.taskId)).length < fuel := by
    rw [List.length_map]
    exact hfuel
  rw [keys_dependencyGraph hids]
  rcases DepthFirst.search_cases (mem_ids_of_listed hids) hlength with
    ⟨m, hsearch, hordered, hall⟩ | ⟨⟨m, hsearch⟩, hcycle⟩
  · have hsortable := sortable_of_ordered hids hordered hall
    exact ⟨true, m, hsearch, iff_of_true rfl hsortable, .inl hsortable⟩
  · obtain ⟨task, hcycle⟩ := exists_cycle hids hcycle
    refine ⟨false, m, hsearch, ?_, .inr ⟨task, hcycle⟩⟩
    apply iff_of_false Bool.false_ne_true
    intro hsortable
    exact not_cycle_of_sortable hsortable task hcycle

theorem sortable_iff (hids : (tasks.map (·.taskId)).Nodup) :
    Sortable tasks ↔ ∀ task, ¬ Relation.TransGen (DependsOn tasks) task task := by
  constructor
  · exact not_cycle_of_sortable
  · intro hnone
    obtain ⟨-, -, -, -, hsortable | ⟨task, hcycle⟩⟩ :=
      search_verdict hids (Nat.lt_succ_self tasks.length)
    · exact hsortable
    · exact absurd hcycle (hnone task)

theorem checkAcyclic_iff (hids : (tasks.map (·.taskId)).Nodup) :
    checkAcyclic tasks = true ↔ Sortable tasks := by
  have hlength : (dependencyGraph tasks).length = tasks.length := by
    rw [dependencyGraph_eq hids, List.length_map]
  obtain ⟨ok, m, hsearch, hok, -⟩ := search_verdict hids (Nat.lt_succ_self tasks.length)
  rw [checkAcyclic_eq, hlength, hsearch, ← hok]
  cases ok with
  | true => exact Iff.rfl
  | false => exact Iff.rfl

end Tasks

/-- With a stack deeper than there are tasks the check returns. It returns true exactly when no
task depends on itself, directly or through others, that is, when the tasks can be put in an
order. -/
theorem check_acyclic_decides (repr : String → String) {tasks : List PlanTask} {fuel : Nat}
    (hids : (tasks.map (·.taskId)).Nodup) (hfuel : tasks.length < fuel) :
    ∃ ok detail, checkAcyclicRun repr fuel tasks = some (ok, detail) ∧ checkAcyclic tasks = ok ∧
      (ok = true ↔ ∀ task, ¬ Relation.TransGen (DependsOn tasks) task task) ∧
      (ok = true ↔ Sortable tasks) := by
  obtain ⟨ok, m, hsearch, hok, -⟩ := search_verdict hids hfuel
  have hrun : (checkAcyclicRun repr fuel tasks).map (·.1) = some ok := by
    unfold checkAcyclicRun
    rw [checkRoots_eq, hsearch]
    rfl
  obtain ⟨⟨verdict, detail⟩, hresult, rfl⟩ := Option.map_eq_some_iff.mp hrun
  refine ⟨verdict, detail, hresult, ?_, ?_, hok⟩
  · apply Bool.eq_iff_iff.mpr
    rw [hok]
    exact checkAcyclic_iff hids
  · rw [hok]
    exact sortable_iff hids

/-! A chain of three tasks, with an unknown id and a repeated one, and a loop of two. -/

def plannedTask (taskId : String) (dependsOn : List String) : PlanTask where
  taskId := taskId
  phaseId := "phase-1"
  files := []
  symbols := []
  dependsOn := dependsOn
  proposedCreation := false

def chainedTasks : List PlanTask :=
  [plannedTask "c" ["b", "b", "a"], plannedTask "b" ["a", "unknown"], plannedTask "a" []]

theorem chained_tasks_sortable :
    ∃ ok detail, checkAcyclicRun (fun id => "'" ++ id ++ "'") 4 chainedTasks = some (ok, detail) ∧
      checkAcyclic chainedTasks = ok ∧
      (ok = true ↔ ∀ task, ¬ Relation.TransGen (DependsOn chainedTasks) task task) ∧
      (ok = true ↔ Sortable chainedTasks) :=
  check_acyclic_decides _ (by decide) (by decide)

example : checkAcyclicRun (fun id => "'" ++ id ++ "'") 3
    [plannedTask "a" ["b"], plannedTask "b" ["a"]] =
      some (false, some "dependency cycle detected involving 'a'") := by
  decide +kernel

end ProductionOptimizer
