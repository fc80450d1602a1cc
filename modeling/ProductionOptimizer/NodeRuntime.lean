import ProductionOptimizer.Contracts.State
import ProductionOptimizer.IntentLedger

/-!
# Node execution with an intent ledger

`execute` is `NodeRuntime.execute` for a node that is not pure: derive the idempotency key,
replay the completed intent under it or run the handler, then commit. Graph wrappers call
nothing else.
-/

namespace ProductionOptimizer
open NumberedLog
set_option autoImplicit false

structure NodeExecution where
  route : NodeRoute := .continue_
  artifactRefs : List ArtifactRef := []
  updates : List FieldUpdate := []

/-- The parts of `<case>:<node>:<version>[:rev<n>][:resume<n>]` that vary. The version is
fixed by the stage, and a suffix is left out exactly when its number is zero. -/
structure IdempotencyKey where
  node : NodeId
  revision : Nat
  resume : Nat
  caseId : String
  deriving DecidableEq

def revisionPass (stage : Stage) (s : OptimizationState) : Nat :=
  match stage with
  | .A3 => s.a3RevisionAttempts
  | .S02 => s.s02RevisionAttempts
  | .S03 | .S04 | .S05 | .S06 => s.s03RevisionAttempts
  | _ => 0

def deriveIdempotencyKey (n : NodeId) (s : OptimizationState) : IdempotencyKey where
  caseId := s.caseId
  node := n
  revision := revisionPass n.stage s
  resume := if s.resumeTargetNode = some n then s.resumeAttempts else 0

/-- The key a node has as long as it is not the resumed one. -/
def baseKey (n : NodeId) (s : OptimizationState) : IdempotencyKey where
  caseId := s.caseId
  node := n
  revision := revisionPass n.stage s
  resume := 0

abbrev Ledger := AList fun _ : IdempotencyKey => IntentRow NodeExecution

namespace Ledger

def cached (ledger : Ledger) (key : IdempotencyKey) : Option NodeExecution :=
  IntentRow.replayable (ledger.lookup key)

/-- The row after `prepare`, a successful handler and `complete`. -/
def record (ledger : Ledger) (key : IdempotencyKey) (execution : NodeExecution) : Ledger :=
  ledger.insert key ⟨.completed, some execution⟩

theorem lookup_record (ledger : Ledger) (key : IdempotencyKey) (execution : NodeExecution) :
    (ledger.record key execution).lookup key =
      IntentRow.complete execution (some (IntentRow.prepare (ledger.lookup key))) := by
  rw [record, AList.lookup_insert]
  rfl

theorem cached_record_self (ledger : Ledger) (key : IdempotencyKey) (execution : NodeExecution) :
    (ledger.record key execution).cached key = some execution := by
  rw [cached, record, AList.lookup_insert]
  rfl

theorem cached_record_ne (ledger : Ledger) {key key' : IdempotencyKey} (execution : NodeExecution)
    (h : key' ≠ key) : (ledger.record key execution).cached key' = ledger.cached key' := by
  rw [cached, record, AList.lookup_insert_ne h]
  rfl

theorem cached_record (ledger : Ledger) (key key' : IdempotencyKey) (execution : NodeExecution) :
    (ledger.record key execution).cached key' =
      if key' = key then some execution else ledger.cached key' := by
  split
  · rename_i h
    rw [h, cached_record_self]
  · rename_i h
    exact cached_record_ne ledger execution h

theorem cached_empty (key : IdempotencyKey) : Ledger.cached ∅ key = none := by
  rw [cached, AList.lookup_empty]
  rfl

end Ledger

/-- Only membership of `completed_nodes` is ever read, so its order is left out. -/
def mergeNodeIds (left : List NodeId) (n : NodeId) : List NodeId :=
  if n ∈ left then left else n :: left

theorem mem_mergeNodeIds {left : List NodeId} {m n : NodeId} :
    m ∈ mergeNodeIds left n ↔ m = n ∨ m ∈ left := by
  unfold mergeNodeIds
  split
  · rename_i h
    exact ⟨Or.inr, fun hm => hm.elim (fun e => e ▸ h) id⟩
  · exact List.mem_cons

def OptimizationState.routeFor (s : OptimizationState) (n : NodeId) : NodeRoute :=
  latest Prod.mk s.nodeRoutes n .continue_

/-- `NodeRuntime._commit` followed by the state's reducers. -/
def commit (n : NodeId) (execution : NodeExecution) (s : OptimizationState) :
    Except Failure OptimizationState :=
  match mergeArtifactRefs s.artifactRefs execution.artifactRefs,
      record Prod.mk s.nodeRoutes n execution.route with
  | .ok refs, some routes =>
    .ok { s.setAll execution.updates with
          artifactRefs := refs
          nodeRoutes := routes
          completedNodes := mergeNodeIds s.completedNodes n }
  | .error e, _ => .error e
  | .ok _, none => .error .routeConflict

theorem prodMk_injective2 : Function.Injective2 (Prod.mk : NodeId → Nat → NodeId × Nat) :=
  fun _ _ _ _ h => Prod.mk.inj h

structure Committed (n : NodeId) (execution : NodeExecution)
    (s s' : OptimizationState) : Prop where
  get : ∀ f, s'.get f = (s.setAll execution.updates).get f
  caseId : s'.caseId = s.caseId
  resumeCommand : s'.resumeCommand = s.resumeCommand
  resumeAttempts : s'.resumeAttempts = s.resumeAttempts
  resumeTargetNode : s'.resumeTargetNode = s.resumeTargetNode
  completedNodes : ∀ m, m ∈ s'.completedNodes ↔ m = n ∨ m ∈ s.completedNodes
  nodeRoutes : s'.nodeRoutes =
    s.nodeRoutes.insert (nextKey Prod.mk s.nodeRoutes n execution.route) execution.route
  artifactRefs : mergeArtifactRefs s.artifactRefs execution.artifactRefs = .ok s'.artifactRefs

theorem committed_of_commit {n : NodeId} {execution : NodeExecution} {s s' : OptimizationState}
    (h : commit n execution s = .ok s') : Committed n execution s s' := by
  unfold commit at h
  rw [record_eq_some (prodMk_injective2.right n)] at h
  split at h
  · rename_i refs routes hrefs hroutes
    cases hroutes
    cases h
    exact {
      get := fun f => by cases f <;> rfl
      caseId := OptimizationState.setAll_caseId ..
      resumeCommand := OptimizationState.setAll_resumeCommand ..
      resumeAttempts := OptimizationState.setAll_resumeAttempts ..
      resumeTargetNode := OptimizationState.setAll_resumeTargetNode ..
      completedNodes := fun _ => mem_mergeNodeIds
      nodeRoutes := rfl
      artifactRefs := hrefs }
  · cases h
  · rename_i hnone
    cases hnone

namespace Committed
variable {n m : NodeId} {execution : NodeExecution} {s s' : OptimizationState}

theorem get_of_untouched (h : Committed n execution s s') {f : Field}
    (hf : ∀ u ∈ execution.updates, u.field ≠ f) : s'.get f = s.get f :=
  (h.get f).trans (s.get_setAll hf)

theorem routeFor_self (h : Committed n execution s s') (hf : FilledAt Prod.mk s.nodeRoutes n) :
    s'.routeFor n = execution.route := by
  rw [OptimizationState.routeFor, h.nodeRoutes]
  exact latest_record_self (prodMk_injective2.right n) hf _

theorem filledAt (h : Committed n execution s s') (hf : FilledAt Prod.mk s.nodeRoutes m) :
    FilledAt Prod.mk s'.nodeRoutes m := by
  rw [h.nodeRoutes]
  exact filledAt_record prodMk_injective2 hf

theorem mem_artifactRefs (h : Committed n execution s s') {ref : ArtifactRef}
    (hr : ref ∈ s'.artifactRefs) : ref ∈ s.artifactRefs ∨ ref ∈ execution.artifactRefs := by
  obtain ⟨new, hout, hnew, _⟩ := mergeArtifactRefs_ok h.artifactRefs
  rw [hout] at hr
  exact (List.mem_append.mp hr).imp_right (hnew ref)

theorem artifactRefs_mem (h : Committed n execution s s') {ref : ArtifactRef}
    (hr : ref ∈ execution.artifactRefs) : ref ∈ s'.artifactRefs := by
  obtain ⟨_, _, _, hall⟩ := mergeArtifactRefs_ok h.artifactRefs
  exact hall ref hr

theorem artifactRefs_mono (h : Committed n execution s s') {ref : ArtifactRef}
    (hr : ref ∈ s.artifactRefs) : ref ∈ s'.artifactRefs := by
  obtain ⟨new, hout, _, _⟩ := mergeArtifactRefs_ok h.artifactRefs
  rw [hout]
  exact List.mem_append_left _ hr

theorem tryRef_of_some (h : Committed n execution s s') {t : ArtifactType} {ref : ArtifactRef}
    (hr : s.tryRef t = some ref) : s'.tryRef t = some ref := by
  obtain ⟨new, hout, _, _⟩ := mergeArtifactRefs_ok h.artifactRefs
  rw [OptimizationState.tryRef, hout, List.find?_append, ← OptimizationState.tryRef, hr]
  rfl

theorem requireRef_of_ok (h : Committed n execution s s') {t : ArtifactType} {ref : ArtifactRef}
    (hr : s.requireRef t = .ok ref) : s'.requireRef t = .ok ref := by
  unfold OptimizationState.requireRef at hr ⊢
  cases hfind : s.tryRef t with
  | none =>
    rw [hfind] at hr
    cases hr
  | some found =>
    rw [hfind] at hr
    rw [h.tryRef_of_some hfind]
    exact hr

theorem requireStageRef_of_ok (h : Committed n execution s s') {id : ArtifactId} {t : ArtifactType}
    {ref : ArtifactRef} (hr : s.requireStageRef id t = .ok ref) :
    s'.requireStageRef id t = .ok ref := by
  obtain ⟨new, hout, _, _⟩ := mergeArtifactRefs_ok h.artifactRefs
  unfold OptimizationState.requireStageRef OptimizationState.tryStageRef at hr ⊢
  rw [hout, List.find?_append]
  split at hr
  · rename_i found hfind
    rw [hfind]
    exact hr
  · cases hr

/-- A ref that was just sealed is the one a later read by stage finds. -/
theorem requireStageRef_sealed (h : Committed n execution s s') {ref : ArtifactRef}
    (hr : ref ∈ execution.artifactRefs) :
    s'.requireStageRef ref.artifactId ref.artifactType = .ok ref := by
  have hkey : (fun r : ArtifactRef => r.artifactType == ref.artifactType &&
      r.artifactId == ref.artifactId) = (ref.sameKey ·) := by
    funext r
    rw [ArtifactRef.sameKey, BEq.comm, BEq.comm (a := r.artifactId)]
  unfold OptimizationState.requireStageRef OptimizationState.tryStageRef
  rw [hkey, mergeArtifactRefs_find h.artifactRefs hr]

end Committed

/-- A handler of the registry together with the routes its `NodeSpec` declares. -/
structure RegisteredNode (A : Type) where
  allowedRoutes : List NodeRoute
  handler : A → OptimizationState → Except Failure NodeExecution

abbrev Registry (A : Type) := NodeId → Option (RegisteredNode A)

/-- One executed node: the key it derived, whether it was answered from the ledger, what
it committed, and what it left behind. -/
structure Visit where
  key : IdempotencyKey
  replayed : Bool
  execution : NodeExecution
  state : OptimizationState
  ledger : Ledger

def execute {A : Type} (registry : Registry A) (n : NodeId) (answers : A)
    (s : OptimizationState) (ledger : Ledger) : Except Failure Visit :=
  match registry n with
  | none => .error (.nodeNotEnabled n)
  | some node =>
    let key := deriveIdempotencyKey n s
    match ledger.cached key with
    | some execution =>
      (commit n execution s).map fun s' => ⟨key, true, execution, s', ledger⟩
    | none =>
      match node.handler answers s with
      | .error e => .error e
      | .ok execution =>
        if execution.route ∈ node.allowedRoutes then
          (commit n execution s).map fun s' =>
            ⟨key, false, execution, s', ledger.record key execution⟩
        else .error (.undeclaredRoute n execution.route)

section Execute
variable {A : Type} {registry : Registry A} {n : NodeId} {answers : A} {s : OptimizationState}
  {ledger : Ledger} {visit : Visit}

inductive Source (registry : Registry A) (n : NodeId) (answers : A) (s : OptimizationState)
    (ledger : Ledger) (visit : Visit) : Prop where
  | replay (hflag : visit.replayed = true)
      (hcached : ledger.cached visit.key = some visit.execution)
      (hledger : visit.ledger = ledger)
  | fresh (node : RegisteredNode A) (hflag : visit.replayed = false)
      (hcached : ledger.cached visit.key = none) (hnode : registry n = some node)
      (hhandler : node.handler answers s = .ok visit.execution)
      (hroute : visit.execution.route ∈ node.allowedRoutes)
      (hledger : visit.ledger = ledger.record visit.key visit.execution)

theorem except_map_eq_ok {ε α β : Type} {f : α → β} {x : Except ε α} {b : β}
    (h : x.map f = .ok b) : ∃ a, x = .ok a ∧ f a = b := by
  cases x with
  | error e => cases h
  | ok a =>
    cases h
    exact ⟨a, rfl, rfl⟩

/-- Everything a successful `execute` can do. -/
theorem execute_ok (h : execute registry n answers s ledger = .ok visit) :
    visit.key = deriveIdempotencyKey n s ∧ Committed n visit.execution s visit.state ∧
      Source registry n answers s ledger visit := by
  unfold execute at h
  split at h
  · cases h
  · rename_i node hnode
    dsimp only at h
    split at h
    · rename_i execution hcached
      obtain ⟨s', hcommit, hvisit⟩ := except_map_eq_ok h
      cases hvisit
      exact ⟨rfl, committed_of_commit hcommit, .replay rfl hcached rfl⟩
    · rename_i hcached
      split at h
      · cases h
      · rename_i execution hhandler
        split at h
        · rename_i hroute
          obtain ⟨s', hcommit, hvisit⟩ := except_map_eq_ok h
          cases hvisit
          exact ⟨rfl, committed_of_commit hcommit,
            .fresh node rfl hcached hnode hhandler hroute rfl⟩
        · cases h

namespace Source

theorem replayed_iff (h : Source registry n answers s ledger visit) :
    visit.replayed = true ↔ (ledger.cached visit.key).isSome := by
  cases h with
  | replay hflag hcached _ => simp [hflag, hcached]
  | fresh _ hflag hcached _ _ _ _ => simp [hflag, hcached]

theorem cached_self (h : Source registry n answers s ledger visit) :
    visit.ledger.cached visit.key = some visit.execution := by
  cases h with
  | replay _ hcached hledger => rw [hledger, hcached]
  | fresh _ _ _ _ _ _ hledger => rw [hledger, Ledger.cached_record_self]

theorem cached_mono (h : Source registry n answers s ledger visit) {key : IdempotencyKey}
    {execution : NodeExecution} (hc : ledger.cached key = some execution) :
    visit.ledger.cached key = some execution := by
  cases h with
  | replay _ _ hledger => rw [hledger, hc]
  | fresh _ _ hcached _ _ _ hledger =>
    rw [hledger, Ledger.cached_record_ne _ _ (fun e => by rw [e, hcached] at hc; cases hc), hc]

theorem cached_cases (h : Source registry n answers s ledger visit) {key : IdempotencyKey}
    {execution : NodeExecution} (hc : visit.ledger.cached key = some execution) :
    ledger.cached key = some execution ∨ (key = visit.key ∧ execution = visit.execution) := by
  cases h with
  | replay _ _ hledger =>
    rw [hledger] at hc
    exact Or.inl hc
  | fresh _ _ _ _ _ _ hledger =>
    rw [hledger, Ledger.cached_record] at hc
    split at hc
    · rename_i hkey
      exact Or.inr ⟨hkey, (Option.some.inj hc).symm⟩
    · exact Or.inl hc

end Source

end Execute

end ProductionOptimizer
