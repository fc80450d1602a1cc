import ProductionOptimizer.Handlers.Proposal

/-!
# The revision loop of B2

An owner who asks for a revision sends the graph from `B2.52` back into A3. The keys of B2
carry no counter and that of `A3.60` is the one of the round before, so the loop is
answered from the ledger: nothing is generated again, and the recorded decision sends it
round once more.
-/

namespace ProductionOptimizer
open Runs NumberedLog
set_option autoImplicit false

/-- `B2.52` sends the graph back to `B2.22`. -/
def RevisionEdge (t : Transition Config Visit) : Prop :=
  t.label.node = ⟨.B2, 52⟩ ∧ t.after.position = some ⟨.A3, 10⟩

instance (t : Transition Config Visit) : Decidable (RevisionEdge t) :=
  inferInstanceAs (Decidable (_ ∧ _))

def revisionEdges (tr : ProposalTrace) : Nat := tr.countP (RevisionEdge ·)

/-- Strategies are generated anew. -/
def Generates (t : Transition Config Visit) : Prop :=
  t.label.node = ⟨.A3, 60⟩ ∧ t.label.replayed = false

/-- A case before its first node of B2. -/
structure ProposalStart (c : Config) : Prop where
  position : c.position = some ⟨.B2, 10⟩
  ledger : ∀ key execution, c.ledger.cached key = some execution → key.node ∉ proposalNodes
  completedNodes : ⟨.A3, 90⟩ ∉ c.state.completedNodes
  routes : ∀ n ∈ proposalNodes, FilledAt Prod.mk c.state.nodeRoutes n

structure ProposalSpec (c : Config) (visit : Visit) (c' : Config) : Prop where
  position : c.position = some visit.node
  registered : visit.node ∈ proposalNodes
  key : visit.key = deriveIdempotencyKey visit.node c.state
  committed : Committed visit.node visit.execution c.state c'.state
  next : c'.position = proposalNext visit.node c'.state
  replayed : visit.replayed = true → c.ledger.cached visit.key = some visit.execution
  fresh : visit.replayed = false → c.ledger.cached visit.key = none ∧ ∃ a,
    proposalHandler visit.node a c.state = .ok visit.execution
  cached_mono : ∀ key execution, c.ledger.cached key = some execution →
    c'.ledger.cached key = some execution
  recorded : c'.ledger.cached visit.key = some visit.execution
  cached_cases : ∀ key execution, c'.ledger.cached key = some execution →
    c.ledger.cached key = some execution ∨ (key = visit.key ∧ execution = visit.execution)

theorem ProposalStep.proposalSpec {c c' : Config} {visit : Visit} (h : ProposalStep c visit c') :
    ProposalSpec c visit c' := by
  obtain ⟨a, hpos, hkey, hcommit, hsource, hnext⟩ := h.spec
  have hregistered : visit.node ∈ proposalNodes := by
    obtain ⟨n, a', hpos', hexec, _⟩ := h.executed
    cases hpos.symm.trans hpos'
    by_contra hnot
    unfold execute at hexec
    rw [proposalRegistry, if_neg hnot] at hexec
    cases hexec
  refine ⟨hpos, hregistered, hkey, hcommit, hnext, ?_, ?_, ?_, ?_, ?_⟩
  · intro hflag
    cases hsource with
    | replay _ hcached _ => exact hcached
    | fresh _ hfresh _ _ _ _ _ =>
      rw [hflag] at hfresh
      cases hfresh
  · intro hflag
    cases hsource with
    | replay hreplay _ _ =>
      rw [hflag] at hreplay
      cases hreplay
    | fresh node _ hcached hnode hhandler _ _ =>
      rw [proposalRegistry, if_pos hregistered] at hnode
      cases hnode
      exact ⟨hcached, a, hhandler⟩
  · intro key execution hcached
    rw [h.ledger]
    exact hsource.cached_mono hcached
  · rw [h.ledger]
    exact hsource.cached_self
  · intro key execution hcached
    rw [h.ledger] at hcached
    exact hsource.cached_cases hcached

/-! ### The edges -/

theorem mem_of_lookup {K V : Type} [BEq K] [LawfulBEq K] {l : List (K × V)} {k : K} {v : V}
    (h : l.lookup k = some v) : (k, v) ∈ l := by
  obtain ⟨l₁, l₂, rfl, _⟩ := List.lookup_eq_some_iff.mp h
  exact List.mem_append_right _ List.mem_cons_self

theorem edge_of_goto {n m : NodeId} {route : NodeRoute} (h : proposalEdge n route = .goto m) :
    (n, m) ∈ linearEdges ∨ ((n, route), m) ∈ routedEdges := by
  unfold proposalEdge at h
  split at h
  · rename_i found hlookup
    cases h
    exact Or.inl (mem_of_lookup hlookup)
  · split at h
    · rename_i found hlookup
      cases h
      exact Or.inr (mem_of_lookup hlookup)
    · split at h <;> cases h

theorem stage_of_endA3 {n : NodeId} {route : NodeRoute} (h : proposalEdge n route = .endA3) :
    n.stage = .A3 := by
  unfold proposalEdge at h
  split at h
  · cases h
  · split at h
    · cases h
    · split at h
      · rename_i hstage
        exact hstage
      · cases h

/-- The nodes of A3 between generation and the quality gate. -/
def afterGeneration : List NodeId := [61, 62, 63, 64, 70, 80, 81].map (⟨.A3, ·⟩)

theorem before_generated {n m : NodeId} {route : NodeRoute}
    (h : proposalEdge n route = .goto m) (hm : m ∈ afterGeneration) :
    n = ⟨.A3, 60⟩ ∨ n ∈ afterGeneration := by
  have hlinear : ∀ e ∈ linearEdges, e.2 ∈ afterGeneration →
      e.1 = ⟨.A3, 60⟩ ∨ e.1 ∈ afterGeneration := by decide
  have hrouted : ∀ e ∈ routedEdges, e.2 ∉ afterGeneration := by decide
  rcases edge_of_goto h with he | he
  · exact hlinear _ he hm
  · exact absurd hm (hrouted _ he)

theorem before_seal {n m : NodeId} {route : NodeRoute} (h : proposalEdge n route = .goto m)
    (hm : m = ⟨.A3, 90⟩ ∨ m = ⟨.A3, 82⟩) : n = ⟨.A3, 81⟩ ∧
      (m = ⟨.A3, 90⟩ → route = .continue_) ∧ (m = ⟨.A3, 82⟩ → route = .revision) := by
  have hlinear : ∀ e ∈ linearEdges, ¬ (e.2 = ⟨.A3, 90⟩ ∨ e.2 = ⟨.A3, 82⟩) := by decide
  have hrouted : ∀ e ∈ routedEdges, e.2 = ⟨.A3, 90⟩ ∨ e.2 = ⟨.A3, 82⟩ → e.1.1 = ⟨.A3, 81⟩ ∧
      (e.2 = ⟨.A3, 90⟩ → e.1.2 = .continue_) ∧ (e.2 = ⟨.A3, 82⟩ → e.1.2 = .revision) := by decide
  rcases edge_of_goto h with he | he
  · exact absurd hm (hlinear _ he)
  · exact hrouted _ he hm

theorem before_review {n m : NodeId} {route : NodeRoute} (h : proposalEdge n route = .goto m)
    (hstage : m.stage = .B2) (hnumber : 30 ≤ m.number) : n.stage = .B2 ∧ 30 ≤ n.number := by
  have hlinear : ∀ e ∈ linearEdges, e.2.stage = .B2 → 30 ≤ e.2.number →
      e.1.stage = .B2 ∧ 30 ≤ e.1.number := by decide
  have hrouted : ∀ e ∈ routedEdges, e.2.stage = .B2 → 30 ≤ e.2.number →
      e.1.1.stage = .B2 ∧ 30 ≤ e.1.1.number := by decide
  rcases edge_of_goto h with he | he
  · exact hlinear _ he hstage hnumber
  · exact hrouted _ he hstage hnumber

theorem proposalNext_cases {n m : NodeId} {s : OptimizationState}
    (h : proposalNext n s = some m) : proposalEdge n (s.routeFor n) = .goto m ∨
      (n.stage = .A3 ∧ ⟨.A3, 90⟩ ∈ s.completedNodes ∧ m = ⟨.B2, 30⟩) := by
  unfold proposalNext at h
  split at h
  · rename_i hedge
    cases h
    exact Or.inl hedge
  · rename_i hedge
    split at h
    · rename_i hmem
      cases h
      exact Or.inr ⟨stage_of_endA3 hedge, hmem, rfl⟩
    · cases h
  · cases h

/-! ### No second generation -/

/-- `A3.60` has an intent under its present key. -/
def Generated (c : Config) : Prop :=
  ∃ execution, c.ledger.cached (deriveIdempotencyKey ⟨.A3, 60⟩ c.state) = some execution

/-- `A3.81` has let the present attempt through. -/
def PassAccepted (c : Config) : Prop :=
  ∃ execution, c.ledger.cached (deriveIdempotencyKey ⟨.A3, 81⟩ c.state) = some execution ∧
    execution.route = .continue_

def Sealed (c : Config) : Prop := ⟨.A3, 90⟩ ∈ c.state.completedNodes

structure ProposalInv (c : Config) : Prop where
  counter : ∀ key execution, c.ledger.cached key = some execution → key.node ∈ proposalNodes →
    key.node ≠ ⟨.A3, 82⟩ → ∀ u ∈ execution.updates, u.field ≠ .a3RevisionAttempts
  routes : ∀ n ∈ proposalNodes, FilledAt Prod.mk c.state.nodeRoutes n
  generated : ∀ n, c.position = some n → n ∈ afterGeneration → Generated c
  accepted : c.position = some ⟨.A3, 90⟩ → Generated c ∧ PassAccepted c
  done : Sealed c → (Generated c ∧ PassAccepted c) ∧ c.position ≠ some ⟨.A3, 82⟩
  review : ∀ n, c.position = some n → n.stage = .B2 → 30 ≤ n.number → Sealed c

theorem ProposalStart.proposalInv {c : Config} (h : ProposalStart c) : ProposalInv c where
  counter key execution hcached hmem := absurd hmem (h.ledger key execution hcached)
  routes := h.routes
  generated n hpos hmem := by
    rw [h.position] at hpos
    cases hpos
    exact absurd hmem (by decide)
  accepted hpos := by
    rw [h.position] at hpos
    cases hpos
  done hsealed := absurd hsealed h.completedNodes
  review n hpos _ hnumber := by
    rw [h.position] at hpos
    cases hpos
    exact absurd hnumber (by decide)

theorem counter_of_handler {n : NodeId} {a : ProposalAnswers} {s : OptimizationState}
    {execution : NodeExecution} (h : proposalHandler n a s = .ok execution)
    (hn : n ≠ ⟨.A3, 82⟩) : ∀ u ∈ execution.updates, u.field ≠ .a3RevisionAttempts := by
  obtain ⟨stage, number⟩ := n
  have hyields : Yields (fun e => ∀ u ∈ e.updates, u.field ≠ .a3RevisionAttempts)
      (proposalHandler ⟨stage, number⟩ a s) := by
    cases stage with
    | A3 =>
      refine Yields.ok ?_
      have hnumber : number ≠ 82 := by
        rintro rfl
        exact hn rfl
      simp [hnumber]
    | B2 =>
      show Yields _ (handleB2 number a s)
      unfold handleB2
      split
      · exact Yields.bind fun _ _ => Yields.ok (by simp)
      · exact Yields.bind fun _ _ => Yields.ok (by simp)
      · exact Yields.bind fun _ _ => Yields.bind fun _ _ => Yields.ok (by simp)
      · exact Yields.bind fun _ _ => Yields.ok (by simp)
      · exact Yields.ok (by simp [FieldUpdate.field])
      · exact Yields.bind fun _ _ => Yields.bind fun _ _ => Yields.bind fun _ _ =>
          Yields.bind fun _ _ => Yields.ok (by simp)
      · refine Yields.bind fun portfolio _ => ?_
        split
        · exact Yields.error
        · exact Yields.ok (by simp)
      · refine Yields.bind fun portfolio _ => ?_
        split
        · exact Yields.ok (by simp [FieldUpdate.field])
        · exact Yields.ok (by simp [FieldUpdate.field])
      · exact Yields.ok (by simp [FieldUpdate.field])
      · exact Yields.ok (by simp)
      · refine Yields.bind fun _ _ => Yields.bind fun _ _ => Yields.bind fun _ _ =>
          Yields.bind fun _ _ => ?_
        split
        · exact Yields.error
        · exact Yields.ok (by simp)
      · exact Yields.error
    | _ => exact Yields.error
  exact hyields execution h

section Step
variable {c c' : Config} {visit : Visit}

theorem counter_step (hinv : ProposalInv c) (h : ProposalSpec c visit c')
    (hn : visit.node ≠ ⟨.A3, 82⟩) :
    ∀ u ∈ visit.execution.updates, u.field ≠ .a3RevisionAttempts := by
  cases hflag : visit.replayed with
  | true => exact hinv.counter _ _ (h.replayed hflag) h.registered hn
  | false =>
    obtain ⟨_, a, hok⟩ := h.fresh hflag
    exact counter_of_handler hok hn

/-- Only `A3.82` opens a new attempt; every other step leaves all keys alone. -/
theorem key_step (hinv : ProposalInv c) (h : ProposalSpec c visit c')
    (hn : visit.node ≠ ⟨.A3, 82⟩) (n : NodeId) (hstage : n.stage = .A3 ∨ n.stage = .B2) :
    deriveIdempotencyKey n c'.state = deriveIdempotencyKey n c.state := by
  have hcount : c'.state.a3RevisionAttempts = c.state.a3RevisionAttempts :=
    h.committed.get_of_untouched (f := .a3RevisionAttempts) (counter_step hinv h hn)
  have hpass : revisionPass n.stage c'.state = revisionPass n.stage c.state := by
    rcases hstage with hstage | hstage <;> rw [hstage]
    · exact hcount
    · rfl
  unfold deriveIdempotencyKey
  rw [h.committed.caseId, h.committed.resumeTargetNode, h.committed.resumeAttempts, hpass]

theorem Generated.step (hinv : ProposalInv c) (h : ProposalSpec c visit c')
    (hn : visit.node ≠ ⟨.A3, 82⟩) (hg : Generated c) : Generated c' := by
  obtain ⟨execution, hcached⟩ := hg
  refine ⟨execution, ?_⟩
  rw [key_step hinv h hn _ (Or.inl rfl)]
  exact h.cached_mono _ _ hcached

theorem PassAccepted.step (hinv : ProposalInv c) (h : ProposalSpec c visit c')
    (hn : visit.node ≠ ⟨.A3, 82⟩) (ha : PassAccepted c) : PassAccepted c' := by
  obtain ⟨execution, hcached, hroute⟩ := ha
  refine ⟨execution, ?_, hroute⟩
  rw [key_step hinv h hn _ (Or.inl rfl)]
  exact h.cached_mono _ _ hcached

theorem recorded_step (hinv : ProposalInv c) (h : ProposalSpec c visit c')
    (hn : visit.node ≠ ⟨.A3, 82⟩) (hstage : visit.node.stage = .A3 ∨ visit.node.stage = .B2) :
    c'.ledger.cached (deriveIdempotencyKey visit.node c'.state) = some visit.execution := by
  rw [key_step hinv h hn _ hstage, ← h.key]
  exact h.recorded

theorem sealed_step (h : ProposalSpec c visit c') (hs : Sealed c') (hn : visit.node ≠ ⟨.A3, 90⟩) :
    Sealed c :=
  ((h.committed.completedNodes _).mp hs).resolve_left fun heq => hn heq.symm

theorem route_step (hinv : ProposalInv c) (h : ProposalSpec c visit c') :
    c'.state.routeFor visit.node = visit.execution.route :=
  h.committed.routeFor_self (hinv.routes _ h.registered)

/-- After an attempt was counted the graph is not sealed, so it generates or ends. -/
theorem step_of_counting (hinv : ProposalInv c) (h : ProposalSpec c visit c')
    (hn : visit.node = ⟨.A3, 82⟩) :
    ¬ Sealed c' ∧ ∀ n, c'.position = some n → n = ⟨.A3, 60⟩ := by
  have hbefore : ¬ Sealed c := fun hs => (hinv.done hs).2 (hn ▸ h.position)
  have hafter : ¬ Sealed c' := fun hs => hbefore (sealed_step h hs (by rw [hn]; decide))
  refine ⟨hafter, fun n hpos => ?_⟩
  rw [h.next, hn] at hpos
  rcases proposalNext_cases hpos with hedge | ⟨_, hmem, _⟩
  · have hlinear : ∀ e ∈ linearEdges, e.1 ≠ ⟨.A3, 82⟩ := by decide
    have hrouted : ∀ e ∈ routedEdges, e.1.1 = ⟨.A3, 82⟩ → e.2 = ⟨.A3, 60⟩ := by decide
    rcases edge_of_goto hedge with he | he
    · exact absurd rfl (hlinear _ he)
    · exact hrouted _ he rfl
  · exact absurd hmem hafter

theorem generated_step (hinv : ProposalInv c) (h : ProposalSpec c visit c') {n : NodeId}
    (hpos : c'.position = some n) (hmem : n ∈ afterGeneration) : Generated c' := by
  by_cases hn : visit.node = ⟨.A3, 82⟩
  · rw [(step_of_counting hinv h hn).2 n hpos] at hmem
    exact absurd hmem (by decide)
  · rw [h.next] at hpos
    rcases proposalNext_cases hpos with hedge | ⟨_, _, rfl⟩
    · rcases before_generated hedge hmem with hnode | hbefore
      · have hrecorded := recorded_step hinv h hn (Or.inl (by rw [hnode]))
        rw [hnode] at hrecorded
        exact ⟨visit.execution, hrecorded⟩
      · exact (hinv.generated _ h.position hbefore).step hinv h hn
    · exact absurd hmem (by decide)

theorem accepted_step (hinv : ProposalInv c) (h : ProposalSpec c visit c')
    (hpos : c'.position = some ⟨.A3, 90⟩) : Generated c' ∧ PassAccepted c' := by
  by_cases hn : visit.node = ⟨.A3, 82⟩
  · cases (step_of_counting hinv h hn).2 _ hpos
  · rw [h.next] at hpos
    rcases proposalNext_cases hpos with hedge | ⟨_, _, hm⟩
    · obtain ⟨hnode, hroute, _⟩ := before_seal hedge (Or.inl rfl)
      rw [route_step hinv h] at hroute
      have hrecorded := recorded_step hinv h hn (Or.inl (by rw [hnode]))
      rw [hnode] at hrecorded
      have hgenerated := hinv.generated _ h.position (by rw [hnode]; decide)
      exact ⟨hgenerated.step hinv h hn, visit.execution, hrecorded, hroute rfl⟩
    · cases hm

theorem done_step (hinv : ProposalInv c) (h : ProposalSpec c visit c') (hs : Sealed c') :
    (Generated c' ∧ PassAccepted c') ∧ c'.position ≠ some ⟨.A3, 82⟩ := by
  by_cases hn : visit.node = ⟨.A3, 82⟩
  · exact absurd hs (step_of_counting hinv h hn).1
  · by_cases hseal : visit.node = ⟨.A3, 90⟩
    · obtain ⟨hgenerated, haccepted⟩ := hinv.accepted (hseal ▸ h.position)
      refine ⟨⟨hgenerated.step hinv h hn, haccepted.step hinv h hn⟩, fun hpos => ?_⟩
      rw [h.next] at hpos
      rcases proposalNext_cases hpos with hedge | ⟨_, _, hm⟩
      · have hnode := (before_seal hedge (Or.inr rfl)).1
        rw [hseal] at hnode
        cases hnode
      · cases hm
    · obtain ⟨⟨hgenerated, haccepted⟩, _⟩ := hinv.done (sealed_step h hs hseal)
      refine ⟨⟨hgenerated.step hinv h hn, haccepted.step hinv h hn⟩, fun hpos => ?_⟩
      -- the gate would have to answer differently from its own intent
      rw [h.next] at hpos
      rcases proposalNext_cases hpos with hedge | ⟨_, _, hm⟩
      · obtain ⟨hnode, _, hroute⟩ := before_seal hedge (Or.inr rfl)
        obtain ⟨execution, hcached, hcontinue⟩ := haccepted.step hinv h hn
        have hrecorded := recorded_step hinv h hn (Or.inl (by rw [hnode]))
        rw [hnode, hcached] at hrecorded
        cases hrecorded
        rw [route_step hinv h, hcontinue] at hroute
        cases hroute rfl
      · cases hm

theorem review_step (hinv : ProposalInv c) (h : ProposalSpec c visit c') {n : NodeId}
    (hpos : c'.position = some n) (hstage : n.stage = .B2) (hnumber : 30 ≤ n.number) :
    Sealed c' := by
  rw [h.next] at hpos
  rcases proposalNext_cases hpos with hedge | ⟨_, hmem, _⟩
  · obtain ⟨hstage', hnumber'⟩ := before_review hedge hstage hnumber
    exact (h.committed.completedNodes _).mpr
      (Or.inr (hinv.review _ h.position hstage' hnumber'))
  · exact hmem

theorem ProposalInv.step (hinv : ProposalInv c) (h : ProposalSpec c visit c') :
    ProposalInv c' where
  counter key execution hcached hmem hn := by
    rcases h.cached_cases key execution hcached with hold | ⟨rfl, rfl⟩
    · exact hinv.counter key execution hold hmem hn
    · exact counter_step hinv h hn
  routes n hmem := h.committed.filledAt (hinv.routes n hmem)
  generated _ hpos hmem := generated_step hinv h hpos hmem
  accepted hpos := accepted_step hinv h hpos
  done hs := done_step hinv h hs
  review _ hpos hstage hnumber := review_step hinv h hpos hstage hnumber

/-- Once A3 has sealed a portfolio, strategy generation is answered from the ledger. -/
theorem not_generates_of_sealed (hinv : ProposalInv c) (h : ProposalSpec c visit c')
    (hs : Sealed c) : ¬ Generates ⟨c, visit, c'⟩ := by
  rintro ⟨hnode, hfresh⟩
  obtain ⟨⟨⟨execution, hcached⟩, _⟩, _⟩ := hinv.done hs
  have hnone := (h.fresh hfresh).1
  rw [h.key, show visit.node = ⟨.A3, 60⟩ from hnode, hcached] at hnone
  cases hnone

end Step

theorem proposalInv_of_run {c₀ c : Config} {tr : ProposalTrace} (h0 : ProposalStart c₀)
    (hrun : Run ProposalStep c₀ tr c) : ProposalInv c :=
  hrun.invariant h0.proposalInv fun _ _ _ hinv hstep => hinv.step hstep.proposalSpec

theorem sealed_mono {c c' : Config} {tr : ProposalTrace} (hrun : Run ProposalStep c tr c')
    (hs : Sealed c) : Sealed c' :=
  hrun.invariant (I := Sealed) hs fun _ _ _ hs hstep =>
    (hstep.proposalSpec.committed.completedNodes _).mpr (Or.inr hs)

/-! ### The loop repeats

As long as `A3.82` has counted no attempt, every node of the loop has one key only. When
`B2.52` asks for a revision all of them have an intent, and each leads to the next. -/

def loopNodes : List NodeId :=
  a3Nodes.erase ⟨.A3, 82⟩ ++ [30, 31, 40, 41, 50, 51, 52].map (⟨.B2, ·⟩)

/-- Each node with the one after it, and the last with `last`. -/
def pairsOf (last : NodeId) : List NodeId → List (NodeId × NodeId)
  | [] => []
  | p :: rest => (p, rest.headD last) :: pairsOf last rest

def loopPairs : List (NodeId × NodeId) := pairsOf ⟨.A3, 10⟩ loopNodes

def LeadsTo (p q : NodeId) (execution : NodeExecution) : Prop :=
  proposalEdge p execution.route = .goto q ∨ (p = ⟨.A3, 90⟩ ∧ q = ⟨.B2, 30⟩)

def RecordedOn (e : NodeId × NodeId) (c : Config) : Prop :=
  ∃ execution, c.ledger.cached (deriveIdempotencyKey e.1 c.state) = some execution ∧
    LeadsTo e.1 e.2 execution

def walkedPairs (q : NodeId) : List (NodeId × NodeId) := loopPairs.takeWhile (·.1 ≠ q)

structure WalkInv (c : Config) : Prop extends ProposalInv c where
  counted : ∀ key execution, c.ledger.cached key = some execution → key.node = ⟨.A3, 82⟩ →
    ∃ total, execution.updates = [.a3RevisionAttempts (total + 1)]
  found : ∀ key execution, c.ledger.cached key = some execution → key.node ∈ proposalNodes →
    ∀ ref ∈ execution.artifactRefs, c.state.artifactRefs.find? (ref.sameKey ·) = some ref
  walked : c.state.a3RevisionAttempts = 0 → ∀ q, c.position = some q → q ∈ loopNodes →
    ∀ e ∈ walkedPairs q, RecordedOn e c
  analysed : c.state.a3RevisionAttempts = 0 → Sealed c → ∀ e ∈ loopPairs, e.1.stage = .A3 →
    RecordedOn e c

theorem ProposalStart.walkInv {c : Config} (h : ProposalStart c) : WalkInv c where
  toProposalInv := h.proposalInv
  counted key execution hcached hnode :=
    absurd (by rw [hnode]; decide) (h.ledger key execution hcached)
  found key execution hcached hmem := absurd hmem (h.ledger key execution hcached)
  walked _ q hpos hmem := by
    rw [h.position] at hpos
    cases hpos
    exact absurd hmem (by decide)
  analysed _ hs := absurd hs h.completedNodes

section Loop
variable {c c' : Config} {visit : Visit}

theorem RecordedOn.step (hinv : ProposalInv c) (h : ProposalSpec c visit c')
    (hn : visit.node ≠ ⟨.A3, 82⟩) {e : NodeId × NodeId} (hmem : e ∈ loopPairs)
    (hr : RecordedOn e c) : RecordedOn e c' := by
  have hstages : ∀ e ∈ loopPairs, e.1.stage = .A3 ∨ e.1.stage = .B2 := by decide
  obtain ⟨execution, hcached, hleads⟩ := hr
  refine ⟨execution, ?_, hleads⟩
  rw [key_step hinv h hn _ (hstages e hmem)]
  exact h.cached_mono _ _ hcached

theorem counting_of_visit (hinv : WalkInv c) (h : ProposalSpec c visit c')
    (hn : visit.node = ⟨.A3, 82⟩) :
    ∃ total, visit.execution.updates = [.a3RevisionAttempts (total + 1)] := by
  cases hflag : visit.replayed with
  | true => exact hinv.counted _ _ (h.replayed hflag) hn
  | false =>
    obtain ⟨_, a, hok⟩ := h.fresh hflag
    rw [hn] at hok
    exact ⟨c.state.a3RevisionAttempts, by rw [← Except.ok.inj hok]; rfl⟩

/-- Without an attempt counted the step was not `A3.82`, and none was counted before. -/
theorem uncounted_step (hinv : WalkInv c) (h : ProposalSpec c visit c')
    (hzero : c'.state.a3RevisionAttempts = 0) :
    visit.node ≠ ⟨.A3, 82⟩ ∧ c.state.a3RevisionAttempts = 0 := by
  have hn : visit.node ≠ ⟨.A3, 82⟩ := by
    intro hn
    obtain ⟨total, hu⟩ := counting_of_visit hinv h hn
    have hget : c'.state.a3RevisionAttempts =
        (c.state.setAll visit.execution.updates).a3RevisionAttempts :=
      h.committed.get .a3RevisionAttempts
    rw [hu, hzero] at hget
    cases hget
  have hkept : c'.state.a3RevisionAttempts = c.state.a3RevisionAttempts :=
    h.committed.get_of_untouched (f := .a3RevisionAttempts) (counter_step hinv.toProposalInv h hn)
  exact ⟨hn, hkept.symm.trans hzero⟩

theorem recordedOn_visit (hinv : ProposalInv c) (h : ProposalSpec c visit c')
    (hn : visit.node ≠ ⟨.A3, 82⟩) (hstage : visit.node.stage = .A3 ∨ visit.node.stage = .B2)
    {q : NodeId} (hleads : LeadsTo visit.node q visit.execution) :
    RecordedOn (visit.node, q) c' :=
  ⟨visit.execution, recorded_step hinv h hn hstage, hleads⟩

/-- A node of A3 that has an intent on the loop goes on along the loop. -/
theorem leads_of_recorded (hinv : ProposalInv c) (h : ProposalSpec c visit c')
    (hn : visit.node ≠ ⟨.A3, 82⟩) {q : NodeId} (hmem : (visit.node, q) ∈ loopPairs)
    (hr : RecordedOn (visit.node, q) c) : LeadsTo visit.node q visit.execution := by
  obtain ⟨execution, hcached, hleads⟩ := hr.step hinv h hn hmem
  have hstages : ∀ e ∈ loopPairs, e.1.stage = .A3 ∨ e.1.stage = .B2 := by decide
  have hrecorded := recorded_step hinv h hn (hstages _ hmem)
  rw [hcached] at hrecorded
  cases hrecorded
  exact hleads

theorem exists_pair : ∀ p ∈ loopNodes, ∃ e ∈ loopPairs, e.1 = p := by decide

/-- A step inside the loop follows the loop. -/
theorem pair_of_step (hinv : WalkInv c) (h : ProposalSpec c visit c')
    (hzero : c'.state.a3RevisionAttempts = 0) (hloop : visit.node ∈ loopNodes) {q : NodeId}
    (hpos : c'.position = some q) (hq : q ∈ loopNodes) :
    (visit.node, q) ∈ loopPairs ∧ LeadsTo visit.node q visit.execution := by
  obtain ⟨hn, hbefore⟩ := uncounted_step hinv h hzero
  rw [h.next] at hpos
  rcases proposalNext_cases hpos with hedge | ⟨hstage, hmem, rfl⟩
  · rw [route_step hinv.toProposalInv h] at hedge
    refine ⟨?_, Or.inl hedge⟩
    have hlinear : ∀ e ∈ linearEdges, e.1 ∈ loopNodes → e ∈ loopPairs := by decide
    have hrouted : ∀ e ∈ routedEdges, e.1.1 ∈ loopNodes → e.2 ∈ loopNodes →
        (e.1.1, e.2) ∈ loopPairs := by decide
    rcases edge_of_goto hedge with he | he
    · exact hlinear _ he hloop
    · exact hrouted _ he hloop hq
  · by_cases hseal : visit.node = ⟨.A3, 90⟩
    · rw [hseal]
      exact ⟨by decide, Or.inr ⟨rfl, rfl⟩⟩
    · -- the end of A3 was reached in a round whose gate is answered from the ledger
      have hs : Sealed c := sealed_step h hmem hseal
      obtain ⟨e, he, hnode⟩ := exists_pair _ hloop
      have hpair : (visit.node, e.2) ∈ loopPairs := by
        rw [← hnode]
        exact he
      have hleads := leads_of_recorded hinv.toProposalInv h hn hpair
        (hinv.analysed hbefore hs _ hpair hstage)
      have hnext : e.2 = ⟨.B2, 30⟩ := by
        rcases hleads with hedge | ⟨hnode, _⟩
        · unfold proposalNext at hpos
          rw [route_step hinv.toProposalInv h, hedge] at hpos
          exact Option.some.inj hpos
        · exact absurd hnode hseal
      rw [hnext] at hpair hleads
      exact ⟨hpair, hleads⟩

theorem walkedPairs_next : ∀ e ∈ loopPairs, walkedPairs e.2 = [] ∨
    walkedPairs e.2 = walkedPairs e.1 ++ [e] := by decide +kernel

theorem walked_step (hinv : WalkInv c) (h : ProposalSpec c visit c')
    (hzero : c'.state.a3RevisionAttempts = 0) {q : NodeId} (hpos : c'.position = some q)
    (hq : q ∈ loopNodes) : ∀ e ∈ walkedPairs q, RecordedOn e c' := by
  obtain ⟨hn, hbefore⟩ := uncounted_step hinv h hzero
  by_cases hloop : visit.node ∈ loopNodes
  · obtain ⟨hpair, hleads⟩ := pair_of_step hinv h hzero hloop hpos hq
    have hstages : ∀ e ∈ loopPairs, e.1.stage = .A3 ∨ e.1.stage = .B2 := by decide
    rcases walkedPairs_next _ hpair with hnil | hnext
    · simp only at hnil
      simp [hnil]
    · simp only at hnext
      rw [hnext]
      intro e he
      rcases List.mem_append.mp he with he | he
      · exact (hinv.walked hbefore _ h.position hloop e he).step hinv.toProposalInv h hn
          ((List.takeWhile_prefix _).subset he)
      · rw [List.mem_singleton.mp he]
        exact recordedOn_visit hinv.toProposalInv h hn (hstages _ hpair) hleads
  · -- the loop is entered at its first node
    have hfirst : q = ⟨.A3, 10⟩ := by
      have hout : ∀ n ∈ proposalNodes, n ∉ loopNodes → n ≠ ⟨.A3, 82⟩ → n.stage = .B2 := by decide
      have hlinear : ∀ e ∈ linearEdges, e.1 ∉ loopNodes → e.2 ∈ loopNodes →
          e.2 = ⟨.A3, 10⟩ := by decide
      have hrouted : ∀ e ∈ routedEdges, e.1.1 ∈ loopNodes ∨ e.1.1 = ⟨.A3, 82⟩ := by decide
      rw [h.next] at hpos
      rcases proposalNext_cases hpos with hedge | ⟨hstage, _, _⟩
      · rcases edge_of_goto hedge with he | he
        · exact hlinear _ he hloop hq
        · rcases hrouted _ he with hin | hcount
          · exact absurd hin hloop
          · exact absurd hcount hn
      · rw [hout _ h.registered hloop hn] at hstage
        cases hstage
    rw [hfirst]
    have hnil : walkedPairs ⟨.A3, 10⟩ = [] := by decide
    simp [hnil]

theorem analysed_step (hinv : WalkInv c) (h : ProposalSpec c visit c')
    (hzero : c'.state.a3RevisionAttempts = 0) (hs : Sealed c') {e : NodeId × NodeId}
    (he : e ∈ loopPairs) (hstage : e.1.stage = .A3) : RecordedOn e c' := by
  obtain ⟨hn, hbefore⟩ := uncounted_step hinv h hzero
  by_cases hseal : visit.node = ⟨.A3, 90⟩
  · have hall : ∀ e ∈ loopPairs, e.1.stage = .A3 →
        e ∈ walkedPairs ⟨.A3, 90⟩ ∨ e = (⟨.A3, 90⟩, ⟨.B2, 30⟩) := by decide +kernel
    rcases hall e he hstage with hwalked | rfl
    · exact (hinv.walked hbefore _ (hseal ▸ h.position) (by decide) e hwalked).step
        hinv.toProposalInv h hn he
    · have hrecorded := recordedOn_visit (q := ⟨.B2, 30⟩) hinv.toProposalInv h hn
        (Or.inl (by rw [hseal])) (Or.inr ⟨hseal, rfl⟩)
      rw [hseal] at hrecorded
      exact hrecorded
  · exact (hinv.analysed hbefore (sealed_step h hs hseal) e he hstage).step hinv.toProposalInv h
      hn he

theorem WalkInv.step (hinv : WalkInv c) (h : ProposalSpec c visit c') : WalkInv c' where
  toProposalInv := hinv.toProposalInv.step h
  counted key execution hcached hnode := by
    rcases h.cached_cases key execution hcached with hold | ⟨rfl, rfl⟩
    · exact hinv.counted key execution hold hnode
    · exact counting_of_visit hinv h hnode
  found key execution hcached hmem ref href := by
    rcases h.cached_cases key execution hcached with hold | ⟨rfl, rfl⟩
    · obtain ⟨new, hout, _, _⟩ := mergeArtifactRefs_ok h.committed.artifactRefs
      rw [hout, List.find?_append, hinv.found key execution hold hmem ref href]
      rfl
    · exact mergeArtifactRefs_find h.committed.artifactRefs href
  walked hzero _ hpos hq := walked_step hinv h hzero hpos hq
  analysed hzero hs _ he hstage := analysed_step hinv h hzero hs he hstage

/-- Every node of the loop is answered from the ledger and leads on. -/
structure Lap (c : Config) : Prop extends WalkInv c where
  uncounted : c.state.a3RevisionAttempts = 0
  isSealed : Sealed c
  recorded : ∀ e ∈ loopPairs, RecordedOn e c

theorem mergeArtifactRefs_of_found {left right : List ArtifactRef}
    (h : ∀ ref ∈ right, left.find? (ref.sameKey ·) = some ref) :
    mergeArtifactRefs left right = .ok left := by
  induction right with
  | nil => rfl
  | cons ref right ih =>
    obtain ⟨href, hrest⟩ := List.forall_mem_cons.mp h
    simp only [mergeArtifactRefs, mergeArtifactRef, href, if_true]
    exact ih hrest

theorem pairs_registered : ∀ e ∈ loopPairs, e.1 ∈ proposalNodes ∧ e.1 ≠ ⟨.A3, 82⟩ := by decide

/-- One node of the loop: replayed, and on to the next. -/
theorem Lap.step (hlap : Lap c) {e : NodeId × NodeId} (he : e ∈ loopPairs)
    (hpos : c.position = some e.1) : ∃ visit c', ProposalStep c visit c' ∧ visit.node = e.1 ∧
      visit.replayed = true ∧ c'.position = some e.2 ∧ Lap c' ∧
      c'.state.resumeCommand = c.state.resumeCommand := by
  obtain ⟨hregistered, hn⟩ := pairs_registered e he
  obtain ⟨execution, hcached, hleads⟩ := hlap.recorded e he
  have hmerge := mergeArtifactRefs_of_found (hlap.found _ _ hcached hregistered)
  obtain ⟨s', hcommit⟩ : ∃ s', commit e.1 execution c.state = .ok s' := by
    unfold commit
    rw [hmerge, record_eq_some (prodMk_injective2.right e.1)]
    exact ⟨_, rfl⟩
  let visit : Visit := ⟨deriveIdempotencyKey e.1 c.state, true, execution, s', c.ledger⟩
  have hstep : ProposalStep c visit ⟨proposalNext e.1 s', s', c.ledger⟩ := by
    refine ⟨⟨e.1, {}, hpos, ?_, rfl⟩, rfl, rfl⟩
    unfold execute
    rw [proposalRegistry, if_pos hregistered]
    simp only [hcached, hcommit]
    rfl
  have hspec := hstep.proposalSpec
  have hzero : s'.a3RevisionAttempts = 0 :=
    (hspec.committed.get_of_untouched (f := .a3RevisionAttempts)
      (counter_step hlap.toProposalInv hspec hn)).trans hlap.uncounted
  have hs : ⟨.A3, 90⟩ ∈ s'.completedNodes :=
    (hspec.committed.completedNodes _).mpr (Or.inr hlap.isSealed)
  have hnext : proposalNext e.1 s' = some e.2 := by
    have hroute : s'.routeFor e.1 = execution.route := route_step hlap.toProposalInv hspec
    unfold proposalNext
    rw [hroute]
    rcases hleads with hedge | ⟨h90, h30⟩
    · rw [hedge]
    · rw [h90, h30]
      have hend : ∀ route, proposalEdge ⟨.A3, 90⟩ route = .endA3 := by
        intro route
        cases route <;> rfl
      simp only [hend, if_pos hs]
  refine ⟨visit, _, hstep, rfl, rfl, hnext, ⟨hlap.toWalkInv.step hspec, hzero, hs, ?_⟩,
    hspec.committed.resumeCommand⟩
  exact fun e' he' => (hlap.recorded e' he').step hlap.toProposalInv hspec hn he'

/-- The rest of a lap. -/
theorem Lap.rest : ∀ {l : List NodeId} {c : Config}, Lap c →
    (∀ e ∈ pairsOf ⟨.A3, 10⟩ l, e ∈ loopPairs) → c.position = some (l.headD ⟨.A3, 10⟩) →
    ∃ tr c', Run ProposalStep c tr c' ∧ revisionEdges tr = l.count ⟨.B2, 52⟩ ∧
      c'.position = some ⟨.A3, 10⟩ ∧ Lap c' ∧ (∀ u ∈ tr, u.label.replayed = true) ∧
      c'.state.resumeCommand = c.state.resumeCommand
  | [], c, hlap, _, hpos => ⟨[], c, .nil, rfl, hpos, hlap, by simp, rfl⟩
  | p :: l, c, hlap, hsub, hpos => by
    obtain ⟨hpair, hsub⟩ := List.forall_mem_cons.mp hsub
    obtain ⟨visit, c₁, hstep, hnode, hreplayed, hpos₁, hlap₁, hcommand⟩ := hlap.step hpair hpos
    obtain ⟨tr, c', hrun, hcount, hpos', hlap', hall, hcommand'⟩ := Lap.rest hlap₁ hsub hpos₁
    refine ⟨tr ++ [⟨c, visit, c₁⟩], c', Run.trans (.snoc .nil hstep) hrun, ?_, hpos', hlap', ?_,
      hcommand'.trans hcommand⟩
    · have hedge : RevisionEdge ⟨c, visit, c₁⟩ ↔ p = ⟨.B2, 52⟩ := by
        have hlast : ∀ e ∈ loopPairs, e.1 = ⟨.B2, 52⟩ → e.2 = ⟨.A3, 10⟩ := by decide
        refine ⟨fun hedge => hnode.symm.trans hedge.1, fun hp => ⟨hnode.trans hp, ?_⟩⟩
        rw [hpos₁]
        exact congrArg some (hlast _ hpair hp)
      rw [revisionEdges] at hcount
      rw [revisionEdges, List.countP_append, hcount, List.count_cons]
      simp [hedge]
    · intro u hu
      rcases List.mem_append.mp hu with hu | hu
      · exact hall u hu
      · rw [List.mem_singleton.mp hu]
        exact hreplayed

theorem Lap.repeats (hlap : Lap c) (hpos : c.position = some ⟨.A3, 10⟩) (n : Nat) :
    ∃ tr c', Run ProposalStep c tr c' ∧ revisionEdges tr = n ∧
      c'.position = some ⟨.A3, 10⟩ ∧ Lap c' ∧ (∀ u ∈ tr, u.label.replayed = true) ∧
      c'.state.resumeCommand = c.state.resumeCommand := by
  induction n with
  | zero => exact ⟨[], c, .nil, rfl, hpos, hlap, by simp, rfl⟩
  | succ n ih =>
    obtain ⟨tr, c₁, hrun, hcount, hpos₁, hlap₁, hall, hcommand⟩ := ih
    obtain ⟨tr', c', hrun', hcount', hpos', hlap', hall', hcommand'⟩ :=
      Lap.rest (l := loopNodes) hlap₁ (fun e he => he) hpos₁
    refine ⟨tr' ++ tr, c', hrun.trans hrun', ?_, hpos', hlap', ?_, hcommand'.trans hcommand⟩
    · rw [revisionEdges] at hcount hcount'
      rw [revisionEdges, List.countP_append, hcount, hcount']
      have hone : loopNodes.count ⟨.B2, 52⟩ = 1 := by decide
      rw [hone, Nat.add_comm]
    · intro u hu
      rcases List.mem_append.mp hu with hu | hu
      · exact hall' u hu
      · exact hall u hu

theorem lap_of_revision (hinv : WalkInv c) (h : ProposalSpec c visit c')
    (hnode : visit.node = ⟨.B2, 52⟩) (hpos : c'.position = some ⟨.A3, 10⟩)
    (hzero : c'.state.a3RevisionAttempts = 0) : Lap c' := by
  obtain ⟨hn, hbefore⟩ := uncounted_step hinv h hzero
  have hs : Sealed c := hinv.review _ h.position (by rw [hnode]) (by rw [hnode]; decide)
  refine ⟨hinv.step h, hzero, (h.committed.completedNodes _).mpr (Or.inr hs), ?_⟩
  have hall : ∀ e ∈ loopPairs, e ∈ walkedPairs ⟨.B2, 52⟩ ∨ e = (⟨.B2, 52⟩, ⟨.A3, 10⟩) := by
    decide +kernel
  intro e he
  rcases hall e he with hwalked | rfl
  · exact (hinv.walked hbefore _ (hnode ▸ h.position) (by decide) e hwalked).step
      hinv.toProposalInv h hn he
  · obtain ⟨_, hleads⟩ := pair_of_step hinv h hzero (by rw [hnode]; decide) hpos (by decide)
    have hrecorded := recordedOn_visit hinv.toProposalInv h hn (Or.inr (by rw [hnode])) hleads
    rw [hnode] at hrecorded
    exact hrecorded

end Loop

/-- A revision asked for by the owner makes no progress: strategies are never generated
again, and unless an attempt was counted before, the one decision sends the graph back as
often as one likes, without any handler being asked. -/
theorem revision_makes_no_progress {c₀ c : Config} {tr later earlier : ProposalTrace}
    {t : Transition Config Visit} (h0 : ProposalStart c₀) (hrun : Run ProposalStep c₀ tr c)
    (heq : tr = later ++ t :: earlier) (hedge : RevisionEdge t) :
    (∀ u ∈ later, ¬ Generates u) ∧
    (t.after.state.a3RevisionAttempts = 0 → ∀ n, ∃ more c', Run ProposalStep t.after more c' ∧
      revisionEdges more = n ∧ (∀ u ∈ more, u.label.replayed = true) ∧
      c'.state.resumeCommand = t.after.state.resumeCommand) := by
  subst heq
  obtain ⟨hrun, hstep, hlater⟩ := Run.step_of_eq_append hrun
  have hinv : WalkInv t.before :=
    hrun.invariant h0.walkInv fun _ _ _ hinv hstep => hinv.step hstep.proposalSpec
  obtain ⟨hnode, hpos⟩ := hedge
  have hspec := hstep.proposalSpec
  constructor
  · have hs : Sealed t.after := (hspec.committed.completedNodes _).mpr
      (Or.inr (hinv.review _ hspec.position (by rw [hnode]) (by rw [hnode]; decide)))
    intro u hu
    obtain ⟨after, before, rfl⟩ := List.append_of_mem hu
    obtain ⟨hrun', hstep', _⟩ := Run.step_of_eq_append hlater
    have hinv' : ProposalInv u.before :=
      hrun'.invariant (hinv.step hspec).toProposalInv
        fun _ _ _ hinv hstep => hinv.step hstep.proposalSpec
    exact not_generates_of_sealed hinv' hstep'.proposalSpec (sealed_mono hrun' hs)
  · intro hzero n
    obtain ⟨more, c', hmore, hcount, _, _, hall, hcommand⟩ :=
      (lap_of_revision hinv hspec hnode hpos hzero).repeats hpos n
    exact ⟨more, c', hmore, hcount, hall, hcommand⟩

/-! ### A proposal that an owner wants revised -/

def reviseCommand : ResumeInterruptCommand where
  tenantId := "tenant"
  caseId := "case"
  threadId := "thread"
  interruptId := "case-REVIEW"
  actorId := "owner-1"
  actorRoles := ["owner"]
  decision := "revise"
  artifactDigest := .qualifiedOpportunity 0
  policyVersion := b2ApprovalPolicyVersion

def revisedProposal : Config :=
  ⟨some ⟨.B2, 10⟩,
   { caseId := "case", threadId := "thread", tenantId := "tenant"
     resumeCommand := some reviseCommand
     artifactRefs := [⟨.base, .qualifiedOpportunity 0⟩, ⟨.base, .evidenceBundle 0⟩,
       ⟨.base, .repositoryManifest ⟨[.unit], [], []⟩⟩,
       ⟨.base, .optimizationRequest
         ⟨[⟨"unit-ok", "unit_command_result", .minimize, 0, 1⟩], [], [], "workload", 60⟩⟩] }, ∅⟩

/-- A3 finds something and proposes one change of code. -/
def codeProposal : ProposalAnswers where
  analysisRefs := [⟨.base, .findingSet 0 0⟩,
    ⟨.base, .solutionPortfolio ⟨[⟨"s1", .code, [], .low, .instant, 0, true, [], true, true⟩]⟩⟩,
    ⟨.base, .a3QualityReport 0 0⟩]

theorem proposalStart_revisedProposal : ProposalStart revisedProposal where
  position := rfl
  ledger key execution h := by
    rw [revisedProposal, Ledger.cached_empty] at h
    cases h
  completedNodes := by simp [revisedProposal]
  routes n _ := filledAt_of_notMem fun _ => AList.notMem_empty _

/-- Two rounds: the second asks for a revision again and has generated nothing. -/
def revisedTwice (out : ProposalTrace × Config) : Bool :=
  match out.1 with
  | t :: earlier =>
    decide (RevisionEdge t) && decide (revisionEdges earlier = 1) &&
    (earlier.takeWhile fun u => !decide (RevisionEdge u)).any
      (fun u => decide (u.label.node = ⟨.A3, 60⟩) && u.label.replayed) &&
    decide (t.after.state.a3RevisionAttempts = 0) &&
    decide (t.after.state.resumeCommand = some reviseCommand)
  | [] => false

theorem exists_second_revision : ∃ t earlier c,
    Run ProposalStep revisedProposal (t :: earlier) c ∧ revisedTwice (t :: earlier, c) = true := by
  obtain ⟨tr, c, hrun, hcheck⟩ := exists_run_of_replay
    (advance proposalRegistry proposalNext)
    (fun _ _ _ _ hs => graphStep_of_advance proposalRegistry ⟨.B2, 10⟩ proposalNext hs)
    revisedProposal (List.replicate 59 codeProposal) revisedTwice (by decide +kernel)
  cases tr with
  | nil => cases hcheck
  | cons t earlier => exact ⟨t, earlier, c, hrun, hcheck⟩

/-- One `revise` decision has sent the graph back twice, and the visit of `A3.60` between
the two was answered from the ledger. -/
theorem one_decision_revises_twice : ∃ t earlier c,
    Run ProposalStep revisedProposal (t :: earlier) c ∧ RevisionEdge t ∧
      revisionEdges (t :: earlier) = 2 ∧ t.after.state.resumeCommand = some reviseCommand ∧
      ∃ u ∈ earlier, u.label.node = ⟨.A3, 60⟩ ∧ u.label.replayed = true := by
  obtain ⟨t, earlier, c, hrun, hcheck⟩ := exists_second_revision
  simp only [revisedTwice, Bool.and_eq_true, decide_eq_true_eq, List.any_eq_true] at hcheck
  obtain ⟨⟨⟨⟨hedge, hcount⟩, u, hu, hnode, hreplayed⟩, _⟩, hcommand⟩ := hcheck
  refine ⟨t, earlier, c, hrun, hedge, ?_, hcommand, u, (List.takeWhile_prefix _).subset hu, hnode,
    hreplayed⟩
  rw [revisionEdges] at hcount ⊢
  rw [List.countP_cons, hcount]
  simp [hedge]

theorem revision_makes_no_progress_revisedProposal : ∃ t earlier c,
    Run ProposalStep revisedProposal (t :: earlier) c ∧ RevisionEdge t ∧
      ∀ n, ∃ more c', Run ProposalStep t.after more c' ∧ revisionEdges more = n ∧
        ∀ u ∈ more, u.label.replayed = true := by
  obtain ⟨t, earlier, c, hrun, hcheck⟩ := exists_second_revision
  simp only [revisedTwice, Bool.and_eq_true, decide_eq_true_eq] at hcheck
  obtain ⟨⟨⟨⟨hedge, _⟩, _⟩, hzero⟩, _⟩ := hcheck
  refine ⟨t, earlier, c, hrun, hedge, fun n => ?_⟩
  obtain ⟨more, c', hmore, hcount, hall, _⟩ := (revision_makes_no_progress
    proposalStart_revisedProposal hrun (List.nil_append _).symm hedge).2 hzero n
  exact ⟨more, c', hmore, hcount, hall⟩

end ProductionOptimizer
