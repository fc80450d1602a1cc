import ProductionOptimizer.SharedRuns

/-!
# Handing over inside a stage

Inside a stage a node is entered from one other node only. While the second of two such
nodes has no intent for a pass, the run stands between the two. So what an unrecorded node
finds in the state was computed by fresh executions of the same pass, and not read back
from the ledger.
-/

namespace ProductionOptimizer
open Runs NumberedLog
set_option autoImplicit false

/-- The key that `n` derives in pass `pass` of its stage. -/
def passKey (n : NodeId) (pass : Nat) (s : OptimizationState) : IdempotencyKey :=
  { deriveIdempotencyKey n s with revision := pass }

theorem passKey_present (n : NodeId) (s : OptimizationState) :
    passKey n (revisionPass n.stage s) s = deriveIdempotencyKey n s := rfl

/-- `q` is entered from `p` only, and `p` does not move the pass of their stage. -/
structure Link (p q : NodeId) : Prop where
  stage : p.stage = q.stage
  ne : p ≠ q
  enters : ∀ n s, nextPosition n s = some q → n = p
  counter : p.stage ∈ [.S03, .S04, .S05, .S06] ∧ .s03RevisionAttempts ∉ nodeFields p

/-- `p` was executed in a pass and led to `q`, which has no intent for it: the run is there. -/
def Handed (leads : NodeExecution → Prop) (p q : NodeId) (c : Config) : Prop :=
  ∀ pass execution, c.ledger.cached (passKey p pass c.state) = some execution →
    leads execution → c.ledger.cached (passKey q pass c.state) = none →
    c.position = some q ∧ revisionPass q.stage c.state = pass

/-- What holds where a node without an intent is about to run. -/
def Trail (q : NodeId) (T : Config → Prop) (c : Config) : Prop :=
  c.position = some q → c.ledger.cached (deriveIdempotencyKey q c.state) = none → T c

theorem handed_of_uncached {leads : NodeExecution → Prop} {p q : NodeId} {c : Config}
    (h : ∀ key execution, c.ledger.cached key = some execution → key.node ≠ p) :
    Handed leads p q c := by
  intro pass execution hcached
  exact absurd rfl (h _ _ hcached)

theorem trail_of_position {q : NodeId} {T : Config → Prop} {c : Config}
    (h : c.position ≠ some q) : Trail q T c :=
  fun hpos => absurd hpos h

section Step
variable {leads : NodeExecution → Prop} {p q : NodeId} {c c' : Config} {visit : Visit}

theorem SharedSpec.passKey (h : SharedSpec c visit c') (n : NodeId) (pass : Nat) :
    passKey n pass c'.state = passKey n pass c.state := by
  unfold ProductionOptimizer.passKey deriveIdempotencyKey
  rw [h.committed.caseId, h.committed.resumeTargetNode, h.committed.resumeAttempts]

theorem SharedSpec.uncached (h : SharedSpec c visit c') {key : IdempotencyKey}
    (hnone : c'.ledger.cached key = none) : c.ledger.cached key = none := by
  cases hcached : c.ledger.cached key with
  | none => rfl
  | some execution =>
    rw [h.cached_mono _ _ hcached] at hnone
    cases hnone

theorem revisionPass_repair {stage : Stage} (hstage : stage ∈ [Stage.S03, .S04, .S05, .S06])
    (s : OptimizationState) : revisionPass stage s = s.s03RevisionAttempts := by
  simp only [List.mem_cons, List.not_mem_nil, or_false] at hstage
  rcases hstage with rfl | rfl | rfl | rfl <;> rfl

namespace Link

theorem revisionPass (link : Link p q) (h : SharedSpec c visit c') (hnode : visit.node = p) :
    ProductionOptimizer.revisionPass q.stage c'.state =
      ProductionOptimizer.revisionPass q.stage c.state := by
  obtain ⟨hstage, hfield⟩ := link.counter
  rw [← link.stage, revisionPass_repair hstage, revisionPass_repair hstage]
  exact h.get (f := .s03RevisionAttempts) (hnode ▸ hfield)

theorem node_of_position (link : Link p q) (h : SharedSpec c visit c')
    (hpos : c'.position = some q) : visit.node = p :=
  link.enters _ _ (h.next.symm.trans hpos)

end Link

theorem Handed.step (link : Link p q) (hand : Handed leads p q c) (h : SharedSpec c visit c')
    (hlead : visit.node = p → leads visit.execution → c'.position = some q) :
    Handed leads p q c' := by
  intro pass execution hcached hleads hnone
  rw [h.passKey] at hcached hnone
  have hbefore := h.uncached hnone
  rcases h.cached_cases _ _ hcached with hold | ⟨hkey, rfl⟩
  · -- the run stood at `q`, so this step has recorded `q`
    obtain ⟨hpos, hpass⟩ := hand pass execution hold hleads hbefore
    have hnode : visit.node = q := Option.some.inj (h.position.symm.trans hpos)
    have hrecorded := h.recorded
    rw [h.key, hnode, ← passKey_present, hpass, hnone] at hrecorded
    cases hrecorded
  · have hnode : visit.node = p := by rw [Visit.node, ← hkey]; rfl
    have hpass : revisionPass q.stage c.state = pass := by
      rw [h.key, hnode, ← passKey_present] at hkey
      rw [← link.stage]
      exact (congrArg IdempotencyKey.revision hkey).symm
    exact ⟨hlead hnode hleads, (link.revisionPass h hnode).trans hpass⟩

/-- A node that stands before an unrecorded one was not answered from the ledger. -/
theorem Handed.fresh (link : Link p q) (hand : Handed leads p q c) (h : SharedSpec c visit c')
    (hlead : visit.node = p → c'.position = some q → leads visit.execution)
    (hpos : c'.position = some q)
    (hnone : c'.ledger.cached (deriveIdempotencyKey q c'.state) = none) :
    visit.replayed = false := by
  have hnode := link.node_of_position h hpos
  cases hflag : visit.replayed with
  | false => rfl
  | true =>
    have hcached := h.replayed hflag
    rw [h.key, hnode, ← passKey_present, link.stage] at hcached
    rw [← passKey_present, link.revisionPass h hnode, h.passKey] at hnone
    obtain ⟨hq, _⟩ := hand _ _ hcached (hlead hnode hpos) (h.uncached hnone)
    have hp := h.position.symm.trans hq
    rw [hnode] at hp
    exact absurd (Option.some.inj hp) link.ne

/-- The rule for trails: one fresh execution of `p` carries its trail over to `q`. -/
theorem Trail.step {T T' : Config → Prop} (link : Link p q)
    (hand : Handed leads p q c) (trail : Trail p T c) (h : SharedSpec c visit c')
    (hlead : visit.node = p → c'.position = some q → leads visit.execution)
    (carry : ∀ a, visit.node = p → nodeHandler p a c.state = .ok visit.execution →
      leads visit.execution → T c → T' c') :
    Trail q T' c' := by
  intro hpos hnone
  have hnode := link.node_of_position h hpos
  obtain ⟨hcached, a, hhandler⟩ := h.fresh (hand.fresh link h hlead hpos hnone)
  rw [hnode] at hhandler
  rw [h.key, hnode] at hcached
  exact carry a hnode hhandler (hlead hnode hpos) (trail (hnode ▸ h.position) hcached)

end Step

/-- A commit that leaves the phase and the pass alone. -/
structure SameScope (n : NodeId) (execution : NodeExecution) (s s' : OptimizationState) :
    Prop where
  committed : Committed n execution s s'
  phase : s'.s03ActivePhaseId = s.s03ActivePhaseId
  pass : s'.s03RevisionAttempts = s.s03RevisionAttempts

namespace SameScope
variable {n : NodeId} {execution : NodeExecution} {s s' : OptimizationState}

theorem activePhaseId (h : SameScope n execution s s') : s'.activePhaseId = s.activePhaseId := by
  unfold OptimizationState.activePhaseId
  rw [h.phase]

theorem requirePhaseRef (h : SameScope n execution s s') {node : NodeId} {t : ArtifactType}
    {ref : ArtifactRef} (hr : s.requirePhaseRef node t = .ok ref) :
    s'.requirePhaseRef node t = .ok ref := by
  obtain ⟨id, hid, hr⟩ := except_bind_ok hr
  unfold OptimizationState.requirePhaseRef
  have hid' : s'.phaseStage node = .ok id := by
    unfold OptimizationState.phaseStage at hid ⊢
    rw [h.activePhaseId, h.pass]
    exact hid
  rw [hid']
  exact h.committed.requireStageRef_of_ok hr

end SameScope

/-- The intents of `writer` bring no ref that is not in the state. -/
def RefsKept (writer : NodeId) (c : Config) : Prop :=
  ∀ key execution, c.ledger.cached key = some execution → key.node = writer →
    ∀ ref ∈ execution.artifactRefs, ref ∈ c.state.artifactRefs

namespace RefsKept
variable {writer : NodeId} {c c' : Config} {visit : Visit}

theorem of_uncached
    (h : ∀ key execution, c.ledger.cached key = some execution → key.node ≠ writer) :
    RefsKept writer c :=
  fun key execution hcached hnode => absurd hnode (h key execution hcached)

theorem step (hkept : RefsKept writer c) (h : SharedSpec c visit c') : RefsKept writer c' := by
  intro key execution hcached hnode ref href
  rcases h.cached_cases key execution hcached with hold | ⟨rfl, rfl⟩
  · exact h.committed.artifactRefs_mono (hkept key execution hold hnode ref href)
  · exact h.committed.artifactRefs_mem href

/-- A ref of the writer's type was there before, or the writer has just sealed it afresh. -/
theorem sealed_cases (hkept : RefsKept writer c) (h : SharedSpec c visit c') {ref : ArtifactRef}
    (honly : ∀ n ∈ catalog, ref.artifactType ∈ nodeTypes n → n = writer)
    (href : ref ∈ c'.state.artifactRefs) :
    ref ∈ c.state.artifactRefs ∨
      (visit.node = writer ∧ visit.replayed = false ∧ ref ∈ visit.execution.artifactRefs) := by
  rcases h.committed.mem_artifactRefs href with hold | hnew
  · exact Or.inl hold
  · have hnode := honly _ h.registered (h.writes.type_mem hnew)
    cases hflag : visit.replayed with
    | true => exact Or.inl (hkept _ _ (h.replayed hflag) hnode ref hnew)
    | false => exact Or.inr ⟨hnode, rfl, hnew⟩

end RefsKept

/-- Outside S02 every node but the first of its stage is entered from the one before. -/
theorem eq_of_nextPosition {n q : NodeId} {s : OptimizationState} (hfirst : q.number ≠ 10)
    (hstage : q.stage ≠ .S02) (h : nextPosition n s = some q) :
    n.stage = q.stage ∧ n.number + 10 = q.number := by
  rcases nextPosition_cases h with hinner | ⟨_, stage, _, rfl⟩
  · obtain ⟨_, ⟨_, rfl⟩ | ⟨_, rfl⟩ | ⟨_, rfl | rfl⟩⟩ := innerNext_cases hinner
    · exact ⟨rfl, rfl⟩
    · exact absurd rfl hstage
    · exact absurd rfl hstage
    · exact absurd rfl hstage
  · exact absurd rfl hfirst

/-- Within a stage a routed node is only left on `continue`. -/
theorem route_of_nextPosition {n q : NodeId} {s : OptimizationState} (hrouted : n ∈ routedNodes)
    (hstage : n.stage ≠ .S02) (hfirst : q.number ≠ 10) (h : nextPosition n s = some q) :
    s.routeFor n = .continue_ := by
  by_contra hne
  have hinner : innerNext n (s.routeFor n) = none := by
    unfold innerNext
    have hother : ∀ number, n ≠ ⟨.S02, number⟩ := by
      rintro number rfl
      exact hstage rfl
    split
    · rfl
    · rw [if_neg (hother 80), if_neg (hother 81), if_pos ⟨hrouted, hne⟩]
  rcases nextPosition_cases h with hsome | ⟨_, stage, _, rfl⟩
  · rw [hinner] at hsome
    cases hsome
  · exact hfirst rfl

theorem link_of_consecutive {stage : Stage} {number : Nat} (hnumber : number ≠ 0)
    (hstage : stage ∈ [Stage.S03, .S04, .S05, .S06])
    (hfield : .s03RevisionAttempts ∉ nodeFields ⟨stage, number⟩) :
    Link ⟨stage, number⟩ ⟨stage, number + 10⟩ where
  stage := rfl
  ne := by simp
  enters n s h := by
    have hs02 : stage ≠ .S02 := by
      rintro rfl
      revert hstage
      decide
    obtain ⟨h1, h2⟩ := eq_of_nextPosition (fun h10 => hnumber (by simpa using h10)) hs02 h
    obtain ⟨nStage, nNumber⟩ := n
    simp only at h1 h2
    subst h1
    rw [Nat.add_right_cancel h2]
  counter := ⟨hstage, hfield⟩

end ProductionOptimizer
