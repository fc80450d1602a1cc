import ProductionOptimizer.LoopBounds
import ProductionOptimizer.SealScopes

/-!
# The passes of a session

A plain resume starts the graph over, so S02 could open the loop a second time. As long as no
stage is left on a record of an earlier visit it does not: all passes of a session belong to
one invocation, and each has a number of its own.
-/

namespace ProductionOptimizer
open Runs NumberedLog
set_option autoImplicit false

abbrev SharedSession : Config → Act → Config → Prop := SessionStep sharedRegistry sharedGraph

abbrev SessionTrace := List (Transition Config Act)

/-- The step executes `n`, afresh or from the ledger. -/
def Executes (t : Transition Config Act) (n : NodeId) (visit : Visit) : Prop :=
  t.label = .node visit ∧ visit.node = n

/-- The step leaves no stage on a record of an earlier visit. Once `S02.90` is completed,
`S02.81` only asks for redrafts. -/
def ClearLeave (t : Transition Config Act) : Prop :=
  match t.label with
  | .node visit => ClearExit ⟨t.before, visit, t.after⟩ ∧
      (visit.node = ⟨.S02, 81⟩ → t.after.position ≠ some ⟨.S02, 30⟩ →
        ⟨.S02, 90⟩ ∉ t.before.state.completedNodes)
  | .resume _ _ _ => True

instance : DecidablePred ClearLeave
  | ⟨before, .node visit, after⟩ => inferInstanceAs (Decidable
      (ClearExit ⟨before, visit, after⟩ ∧ (visit.node = ⟨.S02, 81⟩ →
        after.position ≠ some ⟨.S02, 30⟩ → ⟨.S02, 90⟩ ∉ before.state.completedNodes)))
  | ⟨_, .resume _ _ _, _⟩ => inferInstanceAs (Decidable True)

/-! ### One step of a session -/

/-- A resume touches neither the ledger nor a counter, and moves to the start or nowhere. -/
structure Resumed (c c' : Config) : Prop where
  ledger : c'.ledger = c.ledger
  completedNodes : c'.state.completedNodes = c.state.completedNodes
  s02RevisionAttempts : c'.state.s02RevisionAttempts = c.state.s02RevisionAttempts
  s03RevisionAttempts : c'.state.s03RevisionAttempts = c.state.s03RevisionAttempts
  s04Manifest : c'.state.s04Manifest = c.state.s04Manifest
  s04CheckResults : c'.state.s04CheckResults = c.state.s04CheckResults
  s06Decision : c'.state.s06Decision = c.state.s06Decision
  position : c'.position = c.position ∨ c'.position = some (firstNode .S01)

section Session
variable {portfolio : SolutionPortfolio} {c₀ c c' : Config} {act : Act} {tr : SessionTrace}
  {visit : Visit} {n : NodeId} {a : Answers} {execution : NodeExecution}

theorem resumed_of_step {interrupt : InterruptEnvelope} {command : ResumeInterruptCommand}
    {checkpointed : Bool}
    (h : SharedSession c (.resume interrupt command checkpointed) c') : Resumed c c' := by
  obtain ⟨_, _, h⟩ := h
  split at h
  · rw [h]
    exact ⟨rfl, rfl, rfl, rfl, rfl, rfl, rfl, Or.inl rfl⟩
  · rw [h.2]
    exact ⟨rfl, rfl, rfl, rfl, rfl, rfl, rfl, Or.inr rfl⟩

theorem writesSound_of_step (hw : WritesSound c.ledger) (h : SharedSession c act c') :
    WritesSound c'.ledger := by
  cases act with
  | node visit => exact (SharedStep.sharedSpec hw h).writesSound hw
  | resume interrupt command checkpointed =>
    rw [(resumed_of_step h).ledger]
    exact hw

def Ran (tr : SessionTrace) (key : IdempotencyKey) (execution : NodeExecution) : Prop :=
  ∃ t ∈ tr, ∃ visit, Executes t key.node visit ∧
    key = deriveIdempotencyKey key.node t.before.state ∧
    ∃ a, nodeHandler key.node a t.before.state = .ok execution

theorem Ran.cons {t : Transition Config Act} {key : IdempotencyKey} (h : Ran tr key execution) :
    Ran (t :: tr) key execution := by
  obtain ⟨u, hu, hran⟩ := h
  exact ⟨u, List.mem_cons_of_mem _ hu, hran⟩

/-- Every recorded intent of the shared workflow was executed by a step of the session. -/
theorem ran_of_session (hstart : Converged portfolio c₀) (hrun : Run SharedSession c₀ tr c) :
    WritesSound c.ledger ∧ ∀ key execution, c.ledger.cached key = some execution →
      key.node.stage ∈ sharedStages → Ran tr key execution := by
  induction hrun with
  | nil =>
    refine ⟨hstart.writesSound, fun key execution hcached hshared => ?_⟩
    exact absurd hshared (hstart.ledger key execution hcached)
  | @snoc tr s s' act hrun hstep ih =>
    obtain ⟨hw, hran⟩ := ih
    refine ⟨writesSound_of_step hw hstep, fun key execution hcached hshared => ?_⟩
    cases act with
    | resume interrupt command checkpointed =>
      rw [(resumed_of_step hstep).ledger] at hcached
      exact (hran key execution hcached hshared).cons
    | node visit =>
      have hspec := SharedStep.sharedSpec hw hstep
      rcases hspec.cached_cases key execution hcached with hold | ⟨rfl, rfl⟩
      · exact (hran key execution hold hshared).cons
      · rcases hspec.origin rfl with hold | ⟨a, hhandler⟩
        · exact (hran _ _ hold hshared).cons
        · exact ⟨_, List.mem_cons_self, visit, ⟨rfl, rfl⟩, hspec.key, a, hhandler⟩

theorem recorded_of_mem (hrun : Run SharedSession c₀ tr c) {t : Transition Config Act}
    (ht : t ∈ tr) (hexecutes : Executes t n visit) :
    c.ledger.cached visit.key = some visit.execution := by
  obtain ⟨later, earlier, rfl⟩ := List.append_of_mem ht
  obtain ⟨_, hstep, hrest⟩ := hrun.step_of_eq_append
  rw [hexecutes.1] at hstep
  refine session_ledger_mono hrest ?_
  obtain ⟨_, _, _, _, hsource, _⟩ := GraphStep.spec hstep
  rw [hstep.ledger]
  exact hsource.cached_self

end Session

/-! ### The passes of a session -/

/-- Behind a decided repair `S06.90` is recorded under the next pass, and seals nothing. -/
def IdleApply (key : IdempotencyKey) (execution : NodeExecution) : Prop :=
  key.node = ⟨.S06, 90⟩ ∧ execution.artifactRefs = []

/-- A pass of a session, at node `n`. -/
structure LoopKeys (c : Config) (n : NodeId) : Prop where
  keys : KeysUnder IdleApply c n
  verdict : n = ⟨.S04, 90⟩ →
    (verificationState c.state).gatePassed = some (checksPassed c.state.s04CheckResults)

section Passes
variable {c c' : Config} {visit : Visit} {n : NodeId}

theorem LoopKeys.fresh (hl : LoopKeys c visit.node) (h : SharedSpec c visit c')
    (hloop : visit.node.stage ∈ loopStages) (hne : visit.node ≠ ⟨.S06, 90⟩) :
    visit.replayed = false :=
  hl.keys.fresh h hloop (Or.inr fun hidle => hne hidle.1)

theorem LoopKeys.advance (hl : LoopKeys c visit.node) (h : SharedSpec c visit c')
    (hloop : visit.node.stage ∈ loopStages)
    (hkept : c'.state.s03RevisionAttempts = c.state.s03RevisionAttempts)
    (hpending : pending n c'.state = 0) (hrank : nodeRank visit.node < nodeRank n)
    (hverdict : n = ⟨.S04, 90⟩ →
      (verificationState c'.state).gatePassed = some (checksPassed c'.state.s04CheckResults)) :
    LoopKeys c' n :=
  ⟨hl.keys.advance h hloop (fun _ _ hidle => hidle) hkept hpending hrank, hverdict⟩

theorem LoopKeys.inner (hinv : PassInv c) (hl : LoopKeys c visit.node) (h : SharedSpec c visit c')
    (hloop : visit.node.stage ∈ loopStages) {route : NodeRoute}
    (hinner : innerNext visit.node route = some n) : LoopKeys c' n := by
  obtain ⟨rfl, hnumber, _⟩ := loop_innerNext h hloop hinner
  have h90 : visit.node ≠ ⟨.S06, 90⟩ := fun heq => hnumber (congrArg NodeId.number heq)
  by_cases h80 : visit.node = ⟨.S06, 80⟩
  · rw [h80]
    refine ⟨?_, fun heq => by cases heq⟩
    exact hl.keys.toApply hinv h h80 (hl.fresh h hloop h90) fun _ _ hidle => hidle
  · have h04 : visit.node ≠ ⟨.S04, 90⟩ := fun heq => hnumber (congrArg NodeId.number heq)
    refine hl.advance h hloop (attempts_kept hinv h h04 h80) (pending_of_ne ?_ _) ?_ ?_
    · exact fun heq => h80 (eighty_of_next_ninety heq)
    · simp only [nodeRank]
      omega
    · intro heq
      exact gatePassed_of_fresh h (eighty_of_next_ninety heq) (hl.fresh h hloop h90)

theorem LoopKeys.leave_s04 (hinv : PassInv c) (hl : LoopKeys c visit.node)
    (h : SharedSpec c visit c') (hclear : ClearExit ⟨c, visit, c'⟩)
    (hstage : visit.node.stage = .S04)
    (hend : innerNext visit.node (c'.state.routeFor visit.node) = none) {stage : Stage}
    (houter : outerNext .S04 c'.state = some stage) : LoopKeys c' (firstNode stage) := by
  have hloop : visit.node.stage ∈ loopStages := by
    rw [hstage]
    decide
  have h90 : visit.node ≠ ⟨.S06, 90⟩ := ne_of_stage_ne (by rw [hstage]; decide)
  obtain ⟨hcompleted, hways⟩ := outerNext_s04 houter
  have hnode := terminal_of_leave_s04 h hclear hstage hend hcompleted
  rcases verified_of_fresh hinv h hnode (hl.fresh h hloop h90) (hl.verdict hnode) with
    ⟨hkept, hgate⟩ | ⟨hsucc, _⟩
  · obtain ⟨_, rfl⟩ | ⟨hnot, _⟩ := hways
    · refine hl.advance h hloop hkept (pending_of_ne (firstNode_ne_ninety _ _) _) ?_
        fun heq => absurd heq (firstNode_ne_ninety _ _)
      rw [hnode]
      decide
    · exact absurd hgate hnot
  · refine ⟨keysUnder_of_bump hinv h hloop ?_, fun heq => absurd heq (firstNode_ne_ninety _ _)⟩
    omega

/-- The end of S06 on a repair: the counter has moved, and `S06.90` has sealed nothing. -/
theorem LoopKeys.leave_s06 (hinv : PassInv c) (hl : LoopKeys c visit.node)
    (h : SharedSpec c visit c') (hclear : ClearExit ⟨c, visit, c'⟩)
    (hstage : visit.node.stage = .S06)
    (hend : innerNext visit.node (c'.state.routeFor visit.node) = none) {stage : Stage}
    (houter : outerNext .S06 c'.state = some stage) (hback : stage ∈ loopStages) :
    LoopKeys c' (firstNode stage) := by
  have hloop : visit.node.stage ∈ loopStages := by
    rw [hstage]
    decide
  have hnode := terminal_of_leave_s06 h hclear hstage hend (decided_of_outerNext houter)
  have hdecision : c'.state.s06Decision = c.state.s06Decision :=
    h.get (f := .s06Decision) (by rw [hnode]; decide)
  have hkept := attempts_kept hinv h (by rw [hnode]; decide) (by rw [hnode]; decide)
  have hways := outerNext_s06 houter
  rw [hdecision] at hways
  rcases hways with ⟨_, rfl⟩ | ⟨hfix, _, rfl⟩ | ⟨_, rfl⟩
  · exact absurd hback (by decide)
  · have hpending : pending visit.node c.state ≠ 0 := by
      rw [pending, if_pos ⟨hnode, hfix⟩]
      exact one_ne_zero
    obtain ⟨_, a, hhandler⟩ := h.fresh (hl.keys.fresh h hloop (Or.inl hpending))
    rw [hnode] at hhandler
    have hidle : visit.execution.artifactRefs = [] :=
      handleS0690_idle hhandler (by rw [hfix]; decide)
    refine ⟨?_, fun heq => absurd heq (firstNode_ne_ninety _ _)⟩
    exact hl.keys.repair h hloop hpending hkept (pending_of_ne (firstNode_ne_ninety _ _) _)
      ⟨hnode, hidle⟩
  · exact absurd hback (by decide)

theorem LoopKeys.step (hinv : PassInv c) (hl : LoopKeys c visit.node) (h : SharedSpec c visit c')
    (hclear : ClearExit ⟨c, visit, c'⟩) (hloop : visit.node.stage ∈ loopStages)
    (hpos : c'.position = some n) (hn : n.stage ∈ loopStages) : LoopKeys c' n := by
  rcases nextPosition_cases (h.next.symm.trans hpos) with hinner | ⟨hend, stage, houter, rfl⟩
  · exact hl.inner hinv h hloop hinner
  · have hforward : Forward visit.node stage → LoopKeys c' (firstNode stage) := by
      intro hforward
      have hkept := attempts_kept hinv h (ne_of_stage_ne hforward.notS04)
        (ne_of_stage_ne hforward.notS06)
      exact hl.advance h hloop hkept (pending_of_ne (firstNode_ne_ninety _ _) _) hforward.rank
        fun heq => absurd heq (firstNode_ne_ninety _ _)
    have hstages := hloop
    simp only [loopStages, List.mem_cons, List.not_mem_nil, or_false] at hstages
    rcases hstages with hstage | hstage | hstage | hstage
    · exact hforward (forward_of_outerNext h (Or.inl hstage) houter)
    · rw [hstage] at houter
      exact hl.leave_s04 hinv h hclear hstage hend houter
    · exact hforward (forward_of_outerNext h (Or.inr hstage) houter)
    · rw [hstage] at houter
      exact hl.leave_s06 hinv h hclear hstage hend houter hn

end Passes

/-- The drafts on record have smaller numbers than the next one. -/
def DraftsNumbered (c : Config) : Prop :=
  ∀ key execution, c.ledger.cached key = some execution → key.node = ⟨.S02, 81⟩ →
    key.revision < c.state.s02RevisionAttempts

/-- What a session keeps that leaves no stage on a stale record: S03 is entered from S02
once, so all passes belong to one invocation of the graph. -/
structure SessionInv (c : Config) : Prop where
  pass : PassInv c
  drafts : ∀ key execution, c.ledger.cached key = some execution → key.node = ⟨.S02, 81⟩ →
    key.revision < c.state.s02RevisionAttempts
  planning : ⟨.S02, 90⟩ ∉ c.state.completedNodes →
    (∀ key execution, c.ledger.cached key = some execution → key.node.stage ∉ loopStages) ∧
      ∀ n, c.position = some n → n.stage = .S01 ∨ n.stage = .S02
  planned : ⟨.S02, 90⟩ ∈ c.state.completedNodes → c.position ≠ some ⟨.S02, 90⟩
  looping : ∀ n, c.position = some n → n.stage ∈ loopStages → LoopKeys c n

theorem Converged.sessionInv {portfolio : SolutionPortfolio} {c : Config}
    (h : Converged portfolio c) : SessionInv c where
  pass := h.passInv
  drafts key execution hcached hnode := by
    refine absurd ?_ (h.ledger key execution hcached)
    rw [hnode]
    decide
  planning _ := by
    constructor
    · intro key execution hcached hloop
      refine h.ledger key execution hcached ?_
      revert hloop
      cases key.node.stage <;> decide
    · intro n hn
      cases h.position.symm.trans hn
      exact Or.inl rfl
  planned hmem := absurd (by decide) (h.completedNodes _ hmem)
  looping n hn hloop := by
    cases h.position.symm.trans hn
    exact absurd hloop (by decide)

section Invariant
variable {c c' : Config} {visit : Visit} {n : NodeId}

theorem PassInv.resume (hinv : PassInv c) (h : Resumed c c') : PassInv c' := by
  refine ⟨?_, ?_, ?_⟩
  · rw [h.ledger]
    exact hinv.writes
  · rw [h.ledger, h.s03RevisionAttempts]
    exact hinv.revision_le
  · rw [h.ledger, h.s03RevisionAttempts]
    exact hinv.bumped

theorem SessionInv.resume (hinv : SessionInv c) (h : Resumed c c') : SessionInv c' where
  pass := hinv.pass.resume h
  drafts := by
    rw [h.ledger, h.s02RevisionAttempts]
    exact hinv.drafts
  planning hnot := by
    rw [h.completedNodes] at hnot
    rw [h.ledger]
    refine ⟨(hinv.planning hnot).1, fun n hn => ?_⟩
    rcases h.position with hsame | hstart
    · exact (hinv.planning hnot).2 n (hsame.symm.trans hn)
    · cases hstart.symm.trans hn
      exact Or.inl rfl
  planned hmem := by
    rw [h.completedNodes] at hmem
    rcases h.position with hsame | hstart
    · rw [hsame]
      exact hinv.planned hmem
    · rw [hstart]
      decide
  looping n hn hloop := by
    rcases h.position with hsame | hstart
    · obtain ⟨hkeys, hverdict⟩ := hinv.looping n (hsame.symm.trans hn) hloop
      constructor
      · rw [KeysUnder, h.ledger, h.s03RevisionAttempts, pending, h.s06Decision]
        exact hkeys
      · rw [verificationState, h.s04Manifest, h.s04CheckResults]
        exact hverdict
    · cases hstart.symm.trans hn
      exact absurd hloop (by decide)

/-- `S02.81` is never answered from the ledger: it has moved its counter every time. -/
theorem DraftsNumbered.fresh (hnumbered : DraftsNumbered c) (h : SharedSpec c visit c')
    (hnode : visit.node = ⟨.S02, 81⟩) :
    ∃ a, handleS0281 a c.state = .ok visit.execution := by
  rcases h.origin hnode with hcached | hhandler
  · have hlt := hnumbered _ _ hcached hnode
    rw [h.key, hnode] at hlt
    exact absurd hlt (lt_irrefl _)
  · exact hhandler

theorem DraftsNumbered.draft (hnumbered : DraftsNumbered c) (h : SharedSpec c visit c')
    (hnode : visit.node = ⟨.S02, 81⟩) :
    c'.state.s02RevisionAttempts = c.state.s02RevisionAttempts + 1 := by
  obtain ⟨a, hhandler⟩ := hnumbered.fresh h hnode
  have hget := h.committed.get .s02RevisionAttempts
  rw [handleS0281_ok hhandler] at hget
  exact hget

theorem DraftsNumbered.step (hnumbered : DraftsNumbered c) (h : SharedSpec c visit c') :
    DraftsNumbered c' := by
  intro key execution hcached hnode
  rcases h.cached_cases key execution hcached with hold | ⟨rfl, _⟩
  · have hlt := hnumbered key execution hold hnode
    by_cases hdraft : visit.node = ⟨.S02, 81⟩
    · rw [hnumbered.draft h hdraft]
      omega
    · rw [s02RevisionAttempts_kept h hdraft]
      exact hlt
  · rw [hnumbered.draft h hnode, h.key, show visit.node = _ from hnode]
    exact Nat.lt_succ_self _

theorem draft_of_next_approval (h : SharedSpec c visit c')
    (hpos : c'.position = some ⟨.S02, 90⟩) : visit.node = ⟨.S02, 81⟩ := by
  rcases nextPosition_cases (h.next.symm.trans hpos) with hinner | ⟨_, stage, _, hfirst⟩
  · obtain ⟨_, ⟨h80, hnext⟩ | ⟨_, hnext⟩ | ⟨hnode, _⟩⟩ := innerNext_cases hinner
    · exact absurd (eighty_of_next_ninety hnext.symm) h80
    · cases hnext
    · exact hnode
  · exact absurd hfirst.symm (firstNode_ne_ninety _ _)

/-- S03 is entered from S02 behind `S02.90`, for the first time. -/
theorem approval_of_enter (h : SharedSpec c visit c')
    (hdraft : visit.node = ⟨.S02, 81⟩ → c'.position ≠ some ⟨.S02, 30⟩ →
      ⟨.S02, 90⟩ ∉ c.state.completedNodes)
    (hstage : visit.node.stage = .S02) (hpos : c'.position = some (firstNode .S03))
    (hend : innerNext visit.node (c'.state.routeFor visit.node) = none)
    (hcompleted : ⟨.S02, 90⟩ ∈ c'.state.completedNodes) : visit.node = ⟨.S02, 90⟩ := by
  rcases innerNext_none hend with hninety | hquality | hrouted
  · rw [← hstage, ← hninety]
  · have hnot := hdraft hquality (by rw [hpos]; decide)
    rcases (h.committed.completedNodes _).mp hcompleted with heq | hmem
    · exact heq.symm
    · exact absurd hmem hnot
  · have hnone : ∀ m ∈ routedNodes, m.stage ≠ .S02 := by decide
    exact absurd hstage (hnone _ hrouted)

theorem SessionInv.planning_step (hinv : SessionInv c) (h : SharedSpec c visit c')
    (hnot : ⟨.S02, 90⟩ ∉ c'.state.completedNodes) :
    (∀ key execution, c'.ledger.cached key = some execution → key.node.stage ∉ loopStages) ∧
      ∀ n, c'.position = some n → n.stage = .S01 ∨ n.stage = .S02 := by
  have hbefore : ⟨.S02, 90⟩ ∉ c.state.completedNodes :=
    fun hmem => hnot ((h.committed.completedNodes _).mpr (Or.inr hmem))
  obtain ⟨hkeys, hearly⟩ := hinv.planning hbefore
  have hstage := hearly _ h.position
  refine ⟨fun key execution hcached => ?_, fun n hn => ?_⟩
  · rcases h.cached_cases key execution hcached with hold | ⟨rfl, _⟩
    · exact hkeys key execution hold
    · show visit.node.stage ∉ loopStages
      rcases hstage with hstage | hstage <;> rw [hstage] <;> decide
  · rcases nextPosition_cases (h.next.symm.trans hn) with hinner | ⟨_, stage, houter, rfl⟩
    · obtain ⟨_, ⟨_, rfl⟩ | ⟨_, rfl⟩ | ⟨_, hnext⟩⟩ := innerNext_cases hinner
      · exact hstage
      · exact Or.inr rfl
      · rcases hnext with rfl | rfl <;> exact Or.inr rfl
    · rcases hstage with hstage | hstage
      · rw [hstage] at houter
        obtain ⟨_, rfl⟩ := completedGate_some houter
        exact Or.inr rfl
      · rw [hstage] at houter
        exact absurd (completedGate_some houter).1 hnot

theorem SessionInv.looping_step (hinv : SessionInv c) (h : SharedSpec c visit c')
    (hclear : ClearExit ⟨c, visit, c'⟩)
    (hdraft : visit.node = ⟨.S02, 81⟩ → c'.position ≠ some ⟨.S02, 30⟩ →
      ⟨.S02, 90⟩ ∉ c.state.completedNodes)
    (hpos : c'.position = some n) (hn : n.stage ∈ loopStages) : LoopKeys c' n := by
  by_cases hloop : visit.node.stage ∈ loopStages
  · exact (hinv.looping _ h.position hloop).step hinv.pass h hclear hloop hpos hn
  · -- from outside, the loop is entered through S02 only
    have henter : ∃ stage, visit.node.stage = .S02 ∧ n = firstNode stage ∧
        innerNext visit.node (c'.state.routeFor visit.node) = none ∧
        outerNext .S02 c'.state = some stage := by
      rcases nextPosition_cases (h.next.symm.trans hpos) with hinner | ⟨hend, stage, houter, rfl⟩
      · obtain ⟨_, ⟨_, rfl⟩ | ⟨_, rfl⟩ | ⟨_, hnext⟩⟩ := innerNext_cases hinner
        · exact absurd hn hloop
        · exact absurd hn (by decide)
        · rcases hnext with rfl | rfl <;> exact absurd hn (by decide)
      · cases hstage : visit.node.stage with
        | S01 =>
          rw [hstage] at houter
          obtain ⟨_, rfl⟩ := completedGate_some houter
          exact absurd hn (by decide)
        | S02 =>
          rw [hstage] at houter
          exact ⟨stage, rfl, rfl, hend, houter⟩
        | S03 | S04 | S05 | S06 =>
          rw [hstage] at hloop
          exact absurd (by decide) hloop
        | A1 | A2 | A3 | B1 | B2 | C0 | S07 =>
          rw [hstage] at houter
          cases houter
    obtain ⟨stage, hstage, rfl, hend, houter⟩ := henter
    obtain ⟨hcompleted, rfl⟩ := completedGate_some houter
    have hnode := approval_of_enter h hdraft hstage hpos hend hcompleted
    have hfirst : ⟨.S02, 90⟩ ∉ c.state.completedNodes := by
      intro hmem
      refine hinv.planned hmem ?_
      rw [h.position, hnode]
    refine ⟨fun key execution hcached hkey => ?_, fun heq => absurd heq (firstNode_ne_ninety _ _)⟩
    rcases h.cached_cases key execution hcached with hold | ⟨rfl, _⟩
    · exact absurd hkey ((hinv.planning hfirst).1 key execution hold)
    · exact absurd hkey hloop

theorem SessionInv.step {act : Act} (hinv : SessionInv c) (h : SharedSession c act c')
    (hclear : ClearLeave ⟨c, act, c'⟩) : SessionInv c' := by
  cases act with
  | resume interrupt command checkpointed => exact hinv.resume (resumed_of_step h)
  | node visit =>
    have hspec := SharedStep.sharedSpec hinv.pass.writes h
    obtain ⟨hexit, hdraft⟩ := hclear
    refine ⟨hinv.pass.step hspec, DraftsNumbered.step hinv.drafts hspec,
      hinv.planning_step hspec, ?_, ?_⟩
    · intro hmem hpos
      have hnode := draft_of_next_approval hspec hpos
      have hnot := hdraft hnode (by dsimp only; rw [hpos]; decide)
      rcases (hspec.committed.completedNodes _).mp hmem with heq | hmem
      · rw [← heq] at hnode
        cases hnode
      · exact hnot hmem
    · exact fun n hpos hn => hinv.looping_step hspec hexit hdraft hpos hn

theorem sessionInv_of_run {portfolio : SolutionPortfolio} {c₀ : Config} {tr : SessionTrace}
    (hstart : Converged portfolio c₀) (hrun : Run SharedSession c₀ tr c)
    (hclear : ∀ t ∈ tr, ClearLeave t) : SessionInv c := by
  induction hrun with
  | nil => exact hstart.sessionInv
  | snoc _ hstep ih =>
    obtain ⟨hlast, hearlier⟩ := List.forall_mem_cons.mp hclear
    exact (ih hearlier).step hstep hlast

end Invariant

end ProductionOptimizer
