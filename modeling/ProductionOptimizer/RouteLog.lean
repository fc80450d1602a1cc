import ProductionOptimizer.Contracts.Nodes
import ProductionOptimizer.Library.NumberedLog
import ProductionOptimizer.Library.Runs

/-!
# The `node_routes` log and its pruning on resume

Routes of a node live under `n`, `n#2`, `n#3`, ... in a log whose merge rejects
conflicting values. `resume_case` without a checkpoint drops the plain key of the
halted node only.
-/

namespace ProductionOptimizer
open NumberedLog Runs
set_option autoImplicit false

/-- The text key of a node's `i`-th recorded route, counted from zero. -/
def routeSlot (n : NodeId) : Nat → String
  | 0 => n.render
  | i + 1 => n.render ++ "#" ++ (i + 2).repr

theorem toList_routeSlot_succ (n : NodeId) (i : Nat) :
    (routeSlot n (i + 1)).toList = n.render.toList ++ '#' :: (i + 2).repr.toList := by
  simp [routeSlot]

theorem routeSlot_zero_ne_succ (m n : NodeId) (i : Nat) : routeSlot m 0 ≠ routeSlot n (i + 1) := by
  intro h
  have hlist := congrArg String.toList h
  rw [toList_routeSlot_succ] at hlist
  apply m.notMem_render (Or.inl rfl)
  change '#' ∈ (routeSlot m 0).toList
  rw [hlist]
  exact List.mem_append_right _ List.mem_cons_self

theorem routeSlot_injective2 : Function.Injective2 routeSlot := by
  intro m n i j h
  match i, j with
  | 0, 0 => exact ⟨NodeId.render_injective h, rfl⟩
  | 0, j + 1 => exact absurd h (routeSlot_zero_ne_succ m n j)
  | i + 1, 0 => exact absurd h.symm (routeSlot_zero_ne_succ n m i)
  | i + 1, j + 1 =>
    have hlist := congrArg String.toList h
    rw [toList_routeSlot_succ, toList_routeSlot_succ] at hlist
    obtain ⟨hnode, _, hnumber⟩ := (List.append_cons_inj_of_notMem
      (n.notMem_render (Or.inl rfl)) (notMem_repr (j + 2) (Or.inr (Or.inl rfl)))).mp hlist.symm
    refine ⟨(NodeId.render_injective (String.toList_inj.mp hnode)).symm, ?_⟩
    have := toList_repr_injective hnumber
    omega

abbrev NodeRoutes := Log String NodeRoute

def latestRouteKey (n : NodeId) (routes : NodeRoutes) : Option String :=
  latestKey routeSlot routes n

def nextRouteKey (n : NodeId) (existingRoutes : NodeRoutes) (route : NodeRoute) : String :=
  nextKey routeSlot existingRoutes n route

def mergeNodeRoutes (left : NodeRoutes) (right : List (String × NodeRoute)) : Option NodeRoutes :=
  merge left right

/-- The `node_routes` part of `NodeRuntime._commit` followed by the reducer. -/
def commitRoute (n : NodeId) (route : NodeRoute) (routes : NodeRoutes) : Option NodeRoutes :=
  mergeNodeRoutes routes [(nextRouteKey n routes route, route)]

def routeFor (n : NodeId) (routes : NodeRoutes) : NodeRoute :=
  latest routeSlot routes n .continue_

/-- What `resume_case` removes before it invokes the graph again. -/
def pruneRoutes (stage : NodeId) (routes : NodeRoutes) : NodeRoutes := routes.erase stage.render

theorem commitRoute_eq (n : NodeId) (route : NodeRoute) (routes : NodeRoutes) :
    commitRoute n route routes = some (routes.insert (nextRouteKey n routes route) route) :=
  record_eq_some (routeSlot_injective2.right n)

/-- What one execution does to `pending_interrupt`. A node only raises its own. -/
inductive InterruptEffect where
  | keep
  | clear
  | raise
  deriving DecidableEq, Repr

structure RouteState where
  nodeRoutes : NodeRoutes
  pendingInterrupt : Option NodeId

inductive RouteAction where
  | commit (n : NodeId) (route : NodeRoute) (effect : InterruptEffect)
  | resume
  | resumeCheckpointed
  deriving DecidableEq, Repr

namespace RouteState

def initial : RouteState := ⟨∅, none⟩

def step (s : RouteState) : RouteAction → Option RouteState
  | .commit n route effect =>
    match commitRoute n route s.nodeRoutes with
    | none => none
    | some routes =>
      match effect with
      | .keep => some ⟨routes, s.pendingInterrupt⟩
      | .clear => some ⟨routes, none⟩
      | .raise => some ⟨routes, some n⟩
  | .resume =>
    match s.pendingInterrupt with
    | none => none
    | some stage => some ⟨pruneRoutes stage s.nodeRoutes, none⟩
  | .resumeCheckpointed =>
    -- `update_state` merges the pruned map back into the persisted one
    match s.pendingInterrupt with
    | none => none
    | some _ => some ⟨s.nodeRoutes, none⟩

def Step (s : RouteState) (a : RouteAction) (s' : RouteState) : Prop := s.step a = some s'

/-- A halted node has a plain entry: it recorded its route when it raised the
interrupt, and pruning clears the interrupt too. -/
def PendingRecorded (s : RouteState) : Prop :=
  ∀ n, s.pendingInterrupt = some n → routeSlot n 0 ∈ s.nodeRoutes

theorem plain_mem_commit (n : NodeId) (route : NodeRoute) (routes : NodeRoutes) :
    routeSlot n 0 ∈ routes.insert (nextRouteKey n routes route) route := by
  rw [AList.mem_insert]
  by_cases h : routeSlot n 0 ∈ routes
  · exact Or.inr h
  · exact Or.inl (nextKey_of_notMem h).symm

theorem pendingRecorded_step {s s' : RouteState} {a : RouteAction} (h : s.PendingRecorded)
    (hs : Step s a s') : s'.PendingRecorded := by
  intro m hm
  cases a with
  | commit n route effect =>
    simp only [Step, step, commitRoute_eq] at hs
    cases effect with
    | keep =>
      cases hs
      rw [AList.mem_insert]
      exact Or.inr (h m hm)
    | clear =>
      cases hs
      cases hm
    | raise =>
      cases hs
      cases hm
      exact plain_mem_commit m route s.nodeRoutes
  | resume =>
    simp only [Step, step] at hs
    split at hs <;> cases hs
    cases hm
  | resumeCheckpointed =>
    simp only [Step, step] at hs
    split at hs <;> cases hs
    cases hm

theorem pendingRecorded_of_run {tr : List (Transition RouteState RouteAction)} {s : RouteState}
    (h : Run Step initial tr s) : s.PendingRecorded :=
  h.invariant (fun _ hm => by cases hm) fun _ _ _ => pendingRecorded_step

/-- Pruning for a resume of `n` and committing `route` for it afterwards raises no
conflict, shows `route` for `n` and changes no other node's route. -/
def ResumeReadable (s : RouteState) (n : NodeId) (route : NodeRoute) : Prop :=
  ∃ routes, commitRoute n route (pruneRoutes n s.nodeRoutes) = some routes ∧
    routeFor n routes = route ∧ ∀ m, m ≠ n → routeFor m routes = routeFor m s.nodeRoutes

/-- The log stays readable exactly when the halted node owns no numbered entry, or
comes back with the route it halted with. -/
theorem resumeReadable_iff {tr : List (Transition RouteState RouteAction)} {s : RouteState}
    {n : NodeId} (hrun : Run Step initial tr s) (hpending : s.pendingInterrupt = some n)
    (route : NodeRoute) :
    s.ResumeReadable n route ↔
      routeSlot n 1 ∉ s.nodeRoutes ∨ routeFor n s.nodeRoutes = route := by
  have hplain : routeSlot n 0 ∈ s.nodeRoutes := pendingRecorded_of_run hrun n hpending
  have hinj := routeSlot_injective2
  have hself := latest_record_erase (r := route) (hinj.right n) hplain NodeRoute.continue_
  unfold ResumeReadable
  simp only [commitRoute_eq, Option.some.injEq, exists_eq_left']
  constructor
  · rintro ⟨hroute, _⟩
    by_cases hnum : routeSlot n 1 ∈ s.nodeRoutes
    · right
      rw [if_pos hnum] at hself
      exact hself.symm.trans hroute
    · exact Or.inl hnum
  · intro hcond
    refine ⟨?_, fun m hm => latest_record_erase_ne hinj hm _⟩
    refine hself.trans ?_
    split
    · rename_i hnum
      exact hcond.resolve_left (fun h => h hnum)
    · rfl

theorem step_of_map_step {s s' : RouteState} {a l : RouteAction}
    (h : (s.step a).map (Prod.mk a) = some (l, s')) : Step s l s' := by
  obtain ⟨s'', hs, heq⟩ := Option.map_eq_some_iff.mp h
  cases heq
  exact hs

/-- A first halt has only its plain entry, and its resume reads back as recorded. -/
theorem first_halt_resumeReadable :
    ∃ tr s, Run Step initial tr s ∧ s.pendingInterrupt = some ⟨.S06, 90⟩ ∧
      s.ResumeReadable ⟨.S06, 90⟩ .continue_ := by
  obtain ⟨tr, s, hrun, hcheck⟩ := exists_run_of_replay (fun s a => (s.step a).map (Prod.mk a))
    (fun _ _ _ _ => step_of_map_step) initial [.commit ⟨.S06, 90⟩ .approval .raise]
    (fun out => out.2.pendingInterrupt = some ⟨.S06, 90⟩ ∧
      routeSlot ⟨.S06, 90⟩ 1 ∉ out.2.nodeRoutes)
    (by decide +kernel)
  obtain ⟨hpending, hnumbered⟩ := of_decide_eq_true hcheck
  exact ⟨tr, s, hrun, hpending, (resumeReadable_iff hrun hpending _).mpr (Or.inl hnumbered)⟩

/-- `S06.90` answered `continue` in an earlier pass and halts for approval now. -/
def repairedThenHalted : List RouteAction :=
  [.commit ⟨.S06, 90⟩ .continue_ .keep, .commit ⟨.S06, 90⟩ .approval .raise]

theorem exists_halted_with_numbered_entry :
    ∃ tr s, Run Step initial tr s ∧ s.pendingInterrupt = some ⟨.S06, 90⟩ ∧
      ¬ s.ResumeReadable ⟨.S06, 90⟩ .continue_ := by
  obtain ⟨tr, s, hrun, hcheck⟩ := exists_run_of_replay (fun s a => (s.step a).map (Prod.mk a))
    (fun _ _ _ _ => step_of_map_step) initial repairedThenHalted
    (fun out => out.2.pendingInterrupt = some ⟨.S06, 90⟩ ∧
      routeSlot ⟨.S06, 90⟩ 1 ∈ out.2.nodeRoutes ∧
      routeFor ⟨.S06, 90⟩ out.2.nodeRoutes ≠ .continue_)
    (by decide +kernel)
  obtain ⟨hpending, hnumbered, hroute⟩ := of_decide_eq_true hcheck
  refine ⟨tr, s, hrun, hpending, fun h => ?_⟩
  obtain ⟨routes, hcommit, hself, _⟩ := h
  rw [commitRoute_eq] at hcommit
  cases hcommit
  have hplain := pendingRecorded_of_run hrun _ hpending
  have hstale := latest_record_erase (r := .continue_) (routeSlot_injective2.right _) hplain
    NodeRoute.continue_
  rw [if_pos hnumbered] at hstale
  exact hroute (hstale.symm.trans hself)

end RouteState
end ProductionOptimizer
