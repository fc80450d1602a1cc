import ProductionOptimizer.Handlers.Answers
import ProductionOptimizer.Handlers.AutomaticScan

/-!
# The steps of an automatic scan

A superstep is a node with its updates, a fan-out whose branches hand over refs of evidence
branches, or the embedded A2. All that the reducers do to the channels is said once here.
-/

namespace ProductionOptimizer.Scan
open KeyedMerge Policy Runs
set_option autoImplicit false

/-! ### Merges and moves -/

namespace ScanType

def all : List ScanType :=
  [discoveryScanContext, registeredSourceSet, observedSourceIdentity, historicalSourceInventory,
    readAuthorization, historicalEvidenceBranch, detectionReport, optimizationRequest,
    qualifiedOpportunity, recovered .sourceSnapshot, recovered .baselineSnapshot,
    recovered .evidenceBundle, recovered .comparabilityReport]

theorem find_name (type : ScanType) : all.find? (·.name == type.name) = some type := by
  cases type with
  | recovered type => cases type <;> decide +kernel
  | _ => decide +kernel

theorem name_injective : Function.Injective name := by
  intro a b h
  have hfind := find_name a
  rw [h, find_name b] at hfind
  exact (Option.some.inj hfind).symm

end ScanType

section Moves
variable {D : Type}

/-- `out` is `left` with `new` merged into it. -/
structure Merged (left new out : List (Ref D)) : Prop where
  mem : ∀ ref ∈ out, ref ∈ left ∨ ref ∈ new
  kept : ∀ ref, ref ∈ left ∨ ref ∈ new →
    ∃ held ∈ out, held.type = ref.type ∧ held.digest = ref.digest

theorem Merged.refl (left : List (Ref D)) : Merged left [] left where
  mem _ h := Or.inl h
  kept ref h := by
    rcases h with h | h
    · exact ⟨ref, h, rfl, rfl⟩
    · cases h

theorem Merged.trans {left new mid more out : List (Ref D)} (h : Merged left new mid)
    (h' : Merged mid more out) : Merged left (new ++ more) out where
  mem ref hout := by
    rcases h'.mem ref hout with hmid | hmore
    · rcases h.mem ref hmid with hleft | hnew
      · exact Or.inl hleft
      · exact Or.inr (List.mem_append_left _ hnew)
    · exact Or.inr (List.mem_append_right _ hmore)
  kept ref hin := by
    have hstages : (ref ∈ left ∨ ref ∈ new) ∨ ref ∈ more := by
      rcases hin with hleft | hright
      · exact Or.inl (Or.inl hleft)
      · rcases List.mem_append.mp hright with hnew | hmore
        · exact Or.inl (Or.inr hnew)
        · exact Or.inr hmore
    rcases hstages with hfirst | hmore
    · obtain ⟨held, hheld, htype, hdigest⟩ := h.kept ref hfirst
      obtain ⟨last, hlast, htype', hdigest'⟩ := h'.kept held (Or.inl hheld)
      exact ⟨last, hlast, htype'.trans htype, hdigest'.trans hdigest⟩
    · exact h'.kept ref (Or.inr hmore)

/-- What the reducers make of a state and some updates, in the channels that are read. -/
structure Moved (s : ScanState D) (updates : Updates D) (s' : ScanState D) : Prop where
  caseId : s'.caseId = s.caseId
  tenantId : s'.tenantId = s.tenantId
  refs : Merged s.artifactRefs updates.artifactRefs s'.artifactRefs
  signals : s'.signals = s.signals ++ updates.signals
  featureBindings : s'.featureBindings = s.featureBindings ++ updates.featureBindings
  sourceBindings : s'.sourceBindings = s.sourceBindings ++ updates.sourceBindings
  scores : s'.scores = s.scores ++ updates.scores
  decisions : s'.qualificationDecisions = s.qualificationDecisions ++ updates.qualificationDecisions
  completed : ∀ node ∈ s.completedNodes, node ∈ s'.completedNodes

theorem Moved.refl (s : ScanState D) : Moved s {} s where
  caseId := rfl
  tenantId := rfl
  refs := .refl _
  signals := (List.append_nil _).symm
  featureBindings := (List.append_nil _).symm
  sourceBindings := (List.append_nil _).symm
  scores := (List.append_nil _).symm
  decisions := (List.append_nil _).symm
  completed _ h := h

theorem Moved.trans {s mid s' : ScanState D} {new more : List (Ref D)}
    (h : Moved s { artifactRefs := new } mid) (h' : Moved mid { artifactRefs := more } s') :
    Moved s { artifactRefs := new ++ more } s' where
  caseId := h'.caseId.trans h.caseId
  tenantId := h'.tenantId.trans h.tenantId
  refs := h.refs.trans h'.refs
  signals := by rw [h'.signals, h.signals, List.append_nil]
  featureBindings := by rw [h'.featureBindings, h.featureBindings, List.append_nil]
  sourceBindings := by rw [h'.sourceBindings, h.sourceBindings, List.append_nil]
  scores := by rw [h'.scores, h.scores, List.append_nil]
  decisions := by rw [h'.decisions, h.decisions, List.append_nil]
  completed node hnode := h'.completed node (h.completed node hnode)

/-- Neither the cursor nor more completion markers matter to a move. -/
theorem Moved.withCursor {s mid s' : ScanState D} {updates : Updates D} (h : Moved s updates mid)
    {nodes : List NodeId} {pending : List Nat} (hnodes : ∀ n ∈ mid.completedNodes, n ∈ nodes)
    (hs' : s' = { mid with completedNodes := nodes, pending }) : Moved s updates s' := by
  subst hs'
  exact ⟨h.caseId, h.tenantId, h.refs, h.signals, h.featureBindings, h.sourceBindings, h.scores,
    h.decisions, fun n hn => hnodes n (h.completed n hn)⟩

theorem mem_markCompleted {nodes : List NodeId} {node n : NodeId} :
    n ∈ markCompleted nodes node ↔ n ∈ nodes ∨ n = node := by
  unfold markCompleted
  split
  · rename_i hmem
    constructor
    · exact Or.inl
    · rintro (h | rfl)
      · exact h
      · exact hmem
  · rw [List.mem_append, List.mem_singleton]

theorem subset_foldl_markCompleted {nodes more : List NodeId} :
    ∀ n ∈ nodes, n ∈ more.foldl markCompleted nodes := by
  induction more generalizing nodes with
  | nil => exact fun n hn => hn
  | cons node more ih => exact fun n hn => ih n (mem_markCompleted.mpr (Or.inl hn))

variable [DecidableEq D]

theorem merged_of_mergeArtifactRefs {left new out : List (Ref D)}
    (h : mergeArtifactRefs left new = some out) : Merged left new out := by
  have hgathers := gathers_mergeSorted h
  refine ⟨fun ref hout => List.mem_append.mp (hgathers.mem ref hout), fun ref hin => ?_⟩
  obtain ⟨held, hheld, hkey, hdigest⟩ := hgathers.kept ref (List.mem_append.mpr hin)
  exact ⟨held, hheld, ScanType.name_injective (congrArg (fun k => (ofLex k).1) hkey), hdigest⟩

theorem moved_of_commit {s merged : ScanState D} {updates : Updates D}
    (h : commit s updates = .ok merged) : Moved s updates merged := by
  unfold commit at h
  split at h
  · cases h
  · rename_i refs hrefs
    cases h
    exact ⟨rfl, rfl, merged_of_mergeArtifactRefs hrefs, rfl, rfl, rfl, rfl, rfl, fun _ hn => hn⟩

end Moves

/-! ### What the helpers of the nodes give -/

section Helpers
variable {D : Type} {ports : Ports D} {now : Int} {s s' : ScanState D}

theorem requiredStateStr_ok {key value text : String}
    (h : requiredStateStr key value = .ok text) : text = value := by
  unfold requiredStateStr at h
  split at h
  · cases h
  · exact (Except.ok.inj h).symm

theorem requireRef_ok {type : ScanType} {ref : Ref D} (h : requireRef s type = .ok ref) :
    ref ∈ s.artifactRefs ∧ ref.type = type := by
  unfold requireRef tryRef at h
  split at h
  · rename_i found hfind
    cases h
    have htype := List.find?_some hfind
    exact ⟨List.mem_of_find?_eq_some hfind, eq_of_beq htype⟩
  · cases h

theorem sealModel_ok {parents : List D} {body : Body D} {ref : Ref D}
    (h : sealModel ports now s parents body = .ok ref) : ref.body = body := by
  unfold sealModel at h
  obtain ⟨caseId, _, h⟩ := except_bind_ok h
  obtain ⟨_, _, h⟩ := except_bind_ok h
  cases h
  rfl

theorem readRegistry_ok {sources : List RegisteredSource} (h : readRegistry s = .ok sources) :
    ∃ ref ∈ s.artifactRefs, ref.body = .registeredSourceSet sources := by
  unfold readRegistry at h
  obtain ⟨ref, href, h⟩ := except_bind_ok h
  split at h
  · rename_i found hbody
    cases h
    exact ⟨ref, (requireRef_ok href).1, hbody⟩
  · cases h

theorem readReport_ok {ref : Ref D} {report : DetectionReport} (h : readReport ref = .ok report) :
    ref.body = .detectionReport report := by
  unfold readReport at h
  split at h
  · rename_i found hbody
    cases h
    exact hbody
  · cases h

/-- An evidence branch as a query leaves it: without evidence, the authorization being the
reason. -/
def Queried (refs : List (Ref D)) (body : Body D) : Prop :=
  ∃ authorization ∈ refs, ∃ scanId allowed reasons kinds node kind,
    authorization.body = .readAuthorization scanId allowed reasons kinds ∧
    body = .historicalEvidenceBranch node kind [] (some (unavailable kind allowed reasons))

/-- A node of a fan-out hands over evidence branches and nothing else. -/
def BranchNode (ports : Ports D) (now : Int) (s : ScanState D) (join node : Nat) : Prop :=
  (∀ route, after node route = [join]) ∧ ∀ execution, handle ports now s node = .ok execution →
    ∃ new, execution.updates = { artifactRefs := new } ∧
      ∀ ref ∈ new, Queried s.artifactRefs ref.body

theorem branchNode_detector {node : Nat} (hnode : node ∈ [50, 51, 52, 53]) :
    BranchNode ports now s 60 node := by
  have hhandle : handle ports now s node = .ok { updates := { signals := [] } } := by
    simp only [List.mem_cons, List.not_mem_nil, or_false] at hnode
    rcases hnode with rfl | rfl | rfl | rfl <;> rfl
  refine ⟨fun route => ?_, fun execution h => ?_⟩
  · simp only [List.mem_cons, List.not_mem_nil, or_false] at hnode
    rcases hnode with rfl | rfl | rfl | rfl <;> rfl
  · rw [hhandle] at h
    cases h
    exact ⟨[], rfl, fun _ href => by cases href⟩

theorem queryBranch_ok {node : Nat} {kind : QueryKind} {execution : Execution D}
    (h : queryBranch ports now s node kind = .ok execution) :
    ∃ authorization ∈ s.artifactRefs, ∃ scanId allowed reasons kinds ref,
      authorization.body = .readAuthorization scanId allowed reasons kinds ∧
      execution = sealing ref ∧ ref.body = .historicalEvidenceBranch node kind []
        (some (unavailable kind allowed reasons)) := by
  unfold queryBranch at h
  obtain ⟨authorization, href, h⟩ := except_bind_ok h
  split at h
  · rename_i scanId allowed reasons kinds hbody
    obtain ⟨caseId, _, h⟩ := except_bind_ok h
    obtain ⟨_, _, h⟩ := except_bind_ok h
    cases h
    exact ⟨authorization, (requireRef_ok href).1, scanId, allowed, reasons, kinds, _, hbody, rfl,
      rfl⟩
  · cases h

theorem branchNode_query {node : Nat} (hnode : node ∈ queryBranchIds) :
    BranchNode ports now s 40 node := by
  simp only [queryBranchIds, List.mem_cons, List.not_mem_nil, or_false] at hnode
  have hkind : ∃ kind, handle ports now s node = queryBranch ports now s node kind := by
    rcases hnode with rfl | rfl | rfl | rfl <;> exact ⟨_, rfl⟩
  obtain ⟨kind, hkind⟩ := hkind
  refine ⟨fun route => ?_, fun execution h => ?_⟩
  · rcases hnode with rfl | rfl | rfl | rfl <;> rfl
  · rw [hkind] at h
    obtain ⟨authorization, hmem, scanId, allowed, reasons, kinds, ref, hread, rfl, hbody⟩ :=
      queryBranch_ok h
    refine ⟨[ref], rfl, fun ref' href => ?_⟩
    rw [List.mem_singleton.mp href]
    exact ⟨authorization, hmem, scanId, allowed, reasons, kinds, node, kind, hread, hbody⟩

/-! ### The stops of a scan -/

/-- What can be pending. -/
def stops : List (List Nat) :=
  [[10], [20], [21], [30], [31], queryBranchIds, [40], [41], [50, 51, 52, 53], [60], [61], [62],
    [70], [71], [80], [81], [90], [91], [95], [96], []]

def nodeStops : List Nat := [10, 20, 21, 30, 31, 40, 41, 60, 61, 62, 70, 71, 80, 81, 90, 91, 96]

theorem after_mem_stops {node : Nat} (hnode : node ∈ nodeStops) (route : NodeRoute) :
    after node route ∈ stops := by
  simp only [nodeStops, List.mem_cons, List.not_mem_nil, or_false] at hnode
  rcases hnode with rfl | rfl | rfl | rfl | rfl | rfl | rfl | rfl | rfl | rfl | rfl | rfl | rfl |
    rfl | rfl | rfl | rfl <;> cases route <;> decide

/-- What one superstep can do. -/
inductive Move (ports : Ports D) (now : Int) (s s' : ScanState D) : Prop where
  | node {node : Nat} {execution : Execution D} (hnode : node ∈ nodeStops)
      (hpending : s.pending = [node]) (hhandle : handle ports now s node = .ok execution)
      (hmoved : Moved s execution.updates s')
      (hpending' : s'.pending = after node execution.route)
  | fanOut {new : List (Ref D)}
      (hpending : s.pending = queryBranchIds ∧ s'.pending = [40] ∨
        s.pending = [50, 51, 52, 53] ∧ s'.pending = [60])
      (hnew : ∀ ref ∈ new, Queried s.artifactRefs ref.body)
      (hmoved : Moved s { artifactRefs := new } s')
  | recovered {refs : List (RecoveredRef D)} (hpending : s.pending = [95])
      (hmoved : Moved s (recoveredUpdates s refs) s')
      (hpending' : s'.pending = if ⟨.A2, 95⟩ ∈ s'.completedNodes then [96] else [])

theorem Move.stop (h : Move ports now s s') : s'.pending ∈ stops := by
  cases h with
  | node hnode _ _ _ hpending' =>
    rw [hpending']
    exact after_mem_stops hnode _
  | fanOut hpending _ _ =>
    rcases hpending with ⟨_, hpending'⟩ | ⟨_, hpending'⟩ <;> rw [hpending'] <;> decide
  | recovered _ _ hpending' =>
    rw [hpending']
    split <;> decide

end Helpers

/-! ### The supersteps -/

section Steps
variable {D : Type} [DecidableEq D] {ports : Ports D} {now : Int} {s s' merged : ScanState D}

theorem superstep_cons {node : Nat} {nodes : List Nat}
    (h : superstep ports now s (node :: nodes) merged = .ok s') :
    ∃ execution mid, handle ports now s node = .ok execution ∧
      Moved merged execution.updates mid ∧ mid.pending = after node execution.route ∧
      superstep ports now s nodes mid = .ok s' := by
  unfold superstep at h
  obtain ⟨execution, hexecution, h⟩ := except_bind_ok h
  obtain ⟨mid, hcommit, h⟩ := except_bind_ok h
  refine ⟨execution, _, hexecution, ?_, rfl, h⟩
  exact (moved_of_commit hcommit).withCursor
    (fun n hn => mem_markCompleted.mpr (Or.inl hn)) rfl

theorem superstep_branches {join : Nat} {nodes : List Nat}
    (hnodes : ∀ node ∈ nodes, BranchNode ports now s join node)
    (h : superstep ports now s nodes merged = .ok s') :
    (∃ new, Moved merged { artifactRefs := new } s' ∧
      ∀ ref ∈ new, Queried s.artifactRefs ref.body) ∧
      (nodes ≠ [] ∨ merged.pending = [join] → s'.pending = [join]) := by
  induction nodes generalizing merged with
  | nil =>
    cases h
    refine ⟨⟨[], .refl _, fun _ href => by cases href⟩, fun hjoin => ?_⟩
    exact hjoin.resolve_left fun hne => hne rfl
  | cons node nodes ih =>
    obtain ⟨hnode, hnodes⟩ := List.forall_mem_cons.mp hnodes
    obtain ⟨execution, mid, hexecution, hmoved, hpending, h⟩ := superstep_cons h
    obtain ⟨new, hnew, htypes⟩ := hnode.2 execution hexecution
    obtain ⟨⟨more, hmore, htypes'⟩, hjoin⟩ := ih hnodes h
    rw [hnew] at hmoved
    refine ⟨⟨new ++ more, hmoved.trans hmore, fun ref href => ?_⟩, fun _ => ?_⟩
    · rcases List.mem_append.mp href with href | href
      · exact htypes ref href
      · exact htypes' ref href
    · exact hjoin (Or.inr (hpending.trans (hnode.1 execution.route)))

theorem move_node {node : Nat} (hnode : node ∈ nodeStops) (hpending : s.pending = [node])
    (h : superstep ports now s s.pending s = .ok s') : Move ports now s s' := by
  rw [hpending] at h
  obtain ⟨execution, mid, hhandle, hmoved, hnext, h⟩ := superstep_cons h
  cases h
  exact .node hnode hpending hhandle hmoved hnext

theorem move_recovered (hpending : s.pending = [95]) (h : recoverBaseline ports s = .ok s') :
    Move ports now s s' := by
  unfold recoverBaseline at h
  obtain ⟨⟨refs, nodes⟩, _, h⟩ := except_bind_ok h
  obtain ⟨mid, hcommit, h⟩ := except_bind_ok h
  cases h
  exact .recovered hpending
    ((moved_of_commit hcommit).withCursor subset_foldl_markCompleted rfl) rfl

theorem move_of_step (hstop : s.pending ∈ stops) (h : Step ports s now s') :
    Move ports now s s' := by
  obtain ⟨hne, h⟩ := h
  unfold step at h
  split at h
  · rename_i hnil
    exact absurd hnil hne
  · rename_i hpending
    exact move_recovered hpending h
  · rename_i hother
    by_cases hquery : s.pending = queryBranchIds
    · rw [hquery] at h
      obtain ⟨⟨new, hmoved, hnew⟩, hjoin⟩ := superstep_branches (fun _ => branchNode_query) h
      exact .fanOut (Or.inl ⟨hquery, hjoin (Or.inl (List.cons_ne_nil _ _))⟩) hnew hmoved
    · by_cases hdetect : s.pending = [50, 51, 52, 53]
      · rw [hdetect] at h
        obtain ⟨⟨new, hmoved, hnew⟩, hjoin⟩ := superstep_branches (fun _ => branchNode_detector) h
        exact .fanOut (Or.inr ⟨hdetect, hjoin (Or.inl (List.cons_ne_nil _ _))⟩) hnew hmoved
      · have hsingle : ∃ node ∈ nodeStops, s.pending = [node] := by
          simp only [stops, List.mem_cons, List.not_mem_nil, or_false] at hstop
          simp only [nodeStops, List.mem_cons, List.not_mem_nil, or_false, exists_eq_or_imp,
            exists_eq_left]
          tauto
        obtain ⟨node, hnode, hpending⟩ := hsingle
        exact move_node hnode hpending h

end Steps

end ProductionOptimizer.Scan
