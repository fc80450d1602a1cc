import ProductionOptimizer.RouteLog

/-!
# What the route log holds after any number of visits

Every visit commits one route. Without a resume in between no commit conflicts, and the keys
of a node list its routes in the order of its visits, a route repeated at once counting once.
-/

namespace ProductionOptimizer
open NumberedLog
set_option autoImplicit false

/-- A node that ran: the route it declares and what it does to the rest of the state. -/
structure RouteVisit (σ : Type) where
  node : NodeId
  route : NodeRoute
  update : σ → σ

section Visits
variable {σ : Type}

/-- `_commit`, with `node_routes` merged by its reducer. An entry of that name among the
node's own updates is overwritten, so the rest of the state is all that a node changes. -/
def commitVisit (s : NodeRoutes × σ) (visit : RouteVisit σ) : Option (NodeRoutes × σ) :=
  (commitRoute visit.node visit.route s.1).map fun routes => (routes, visit.update s.2)

def commitVisits (visits : List (RouteVisit σ)) (s : NodeRoutes × σ) : Option (NodeRoutes × σ) :=
  visits.foldlM commitVisit s

/-- The routes a node declared, in the order of its visits. -/
def routesOf (visits : List (RouteVisit σ)) (n : NodeId) : List NodeRoute :=
  (visits.filter (·.node = n)).map (·.route)

theorem routesOf_concat (visits : List (RouteVisit σ)) (visit : RouteVisit σ) :
    routesOf (visits ++ [visit]) =
      Function.update (routesOf visits) visit.node
        (routesOf visits visit.node ++ [visit.route]) := by
  funext n
  unfold routesOf
  rw [List.filter_append, List.map_append]
  by_cases hn : n = visit.node
  · subst hn
    rw [Function.update_self]
    simp
  · rw [Function.update_of_ne hn]
    simp [Ne.symm hn]

theorem commitVisits_concat (visits : List (RouteVisit σ)) (visit : RouteVisit σ)
    (s : NodeRoutes × σ) :
    commitVisits (visits ++ [visit]) s = (commitVisits visits s).bind (commitVisit · visit) := by
  unfold commitVisits
  rw [List.foldlM_append]
  cases List.foldlM commitVisit s visits with
  | none => rfl
  | some s' => simp

theorem commitVisit_eq (s : NodeRoutes × σ) (visit : RouteVisit σ) :
    commitVisit s visit =
      some (s.1.insert (nextRouteKey visit.node s.1 visit.route) visit.route,
        visit.update s.2) := by
  rw [commitVisit, commitRoute_eq, Option.map_some]

/-- No commit conflicts, and the log reflects the routes of every node. -/
theorem reflects_of_visits (visits : List (RouteVisit σ)) (rest : σ) :
    ∃ s, commitVisits visits (∅, rest) = some s ∧ Reflects routeSlot s.1 (routesOf visits) := by
  induction visits using List.reverseRecOn with
  | nil => exact ⟨(∅, rest), rfl, reflects_empty routeSlot⟩
  | append_singleton visits visit ih =>
    obtain ⟨s, hs, hreflects⟩ := ih
    have hcommit := commitVisit_eq s visit
    refine ⟨(s.1.insert (nextRouteKey visit.node s.1 visit.route) visit.route, visit.update s.2),
      ?_, ?_⟩
    · rw [commitVisits_concat, hs, Option.bind_some, hcommit]
    · rw [routesOf_concat]
      exact hreflects.record routeSlot_injective2 visit.node visit.route

/-- The key is `n` or one of `n#...`. -/
def BelongsTo (key : String) (n : NodeId) : Prop :=
  key = n.render ∨ ∃ suffix, key = n.render ++ "#" ++ suffix

theorem belongsTo_routeSlot (n : NodeId) (i : Nat) : BelongsTo (routeSlot n i) n := by
  cases i with
  | zero => exact Or.inl rfl
  | succ i => exact Or.inr ⟨(i + 2).repr, rfl⟩

/-- A key tells its node, also where one id extends another. -/
theorem eq_of_belongsTo {m n : NodeId} {i : Nat} (h : BelongsTo (routeSlot m i) n) : m = n := by
  rcases h with hplain | ⟨suffix, hnumbered⟩
  · have hslot : routeSlot m i = routeSlot n 0 := hplain
    exact (routeSlot_injective2 hslot).1
  · have hlist := congrArg String.toList hnumbered
    rw [String.toList_append, String.toList_append, List.append_assoc] at hlist
    change _ = n.render.toList ++ '#' :: suffix.toList at hlist
    cases i with
    | zero =>
      refine absurd ?_ (m.notMem_render (Or.inl rfl))
      change '#' ∈ (routeSlot m 0).toList
      rw [hlist]
      exact List.mem_append_right _ List.mem_cons_self
    | succ i =>
      rw [toList_routeSlot_succ] at hlist
      obtain ⟨hnode, _⟩ := (List.append_cons_inj_of_notMem (m.notMem_render (Or.inl rfl))
        (notMem_repr (i + 2) (Or.inr (Or.inl rfl)))).mp hlist
      exact NodeId.render_injective (String.toList_inj.mp hnode)

/-- What the log says of one node after the visits `visits`. -/
structure RoutesLogged (visits : List (RouteVisit σ)) (routes : NodeRoutes) (n : NodeId) :
    Prop where
  nonempty : 1 ≤ (collapsed (routesOf visits n)).length
  keys : ∀ key, key ∈ routes ∧ BelongsTo key n ↔
    ∃ i < (collapsed (routesOf visits n)).length, key = routeSlot n i
  values : ∀ i, routes.lookup (routeSlot n i) = (collapsed (routesOf visits n))[i]?
  latest : latestRouteKey n routes =
    some (routeSlot n ((collapsed (routesOf visits n)).length - 1))
  last : (routesOf visits n).getLast? = some (routeFor n routes)

theorem routesLogged_of_reflects {visits : List (RouteVisit σ)} {routes : NodeRoutes} {n : NodeId}
    (h : Reflects routeSlot routes (routesOf visits))
    (hvisited : ∃ visit ∈ visits, visit.node = n) :
    RoutesLogged visits routes n := by
  have hne : routesOf visits n ≠ [] := by
    obtain ⟨visit, hmem, hnode⟩ := hvisited
    have hroute : visit.route ∈ routesOf visits n :=
      List.mem_map_of_mem (List.mem_filter.mpr ⟨hmem, decide_eq_true hnode⟩)
    exact List.ne_nil_of_mem hroute
  refine ⟨List.length_pos_iff.mpr (collapsed_eq_nil.not.mpr hne), fun key => ?_, h.lookup n,
    h.latestKey_eq routeSlot_injective2 hne, ?_⟩
  · constructor
    · rintro ⟨hmem, hbelongs⟩
      obtain ⟨m, i, rfl⟩ := h.keys key hmem
      cases eq_of_belongsTo hbelongs
      exact ⟨i, (h.mem_iff n i).mp hmem, rfl⟩
    · rintro ⟨i, hi, rfl⟩
      exact ⟨(h.mem_iff n i).mpr hi, belongsTo_routeSlot n i⟩
  · cases hlast : (routesOf visits n).getLast? with
    | none => exact absurd (List.getLast?_eq_none_iff.mp hlast) hne
    | some r => rw [routeFor, h.latest_eq_last routeSlot_injective2 hlast]

/-- For every sequence of visits the commits never conflict, the log lists the routes of every
visited node, and a visit of another node does not change what is read for it. -/
theorem route_log_of_visits (visits : List (RouteVisit σ)) (rest : σ) :
    ∃ s, commitVisits visits (∅, rest) = some s ∧
      ∀ n, (∃ visit ∈ visits, visit.node = n) →
        RoutesLogged visits s.1 n ∧
          ∀ other : RouteVisit σ, other.node ≠ n →
            ∃ s', commitVisit s other = some s' ∧ routeFor n s'.1 = routeFor n s.1 := by
  obtain ⟨s, hs, hreflects⟩ := reflects_of_visits visits rest
  refine ⟨s, hs, fun n hvisited => ⟨routesLogged_of_reflects hreflects hvisited, ?_⟩⟩
  intro other hother
  refine ⟨_, commitVisit_eq s other, ?_⟩
  exact latest_record_ne routeSlot_injective2 (Ne.symm hother) _

end Visits

end ProductionOptimizer
