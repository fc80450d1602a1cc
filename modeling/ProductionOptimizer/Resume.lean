import ProductionOptimizer.NodeRuntime
import ProductionOptimizer.Library.Runs

/-!
# Graph runs and resumes

A graph run executes one node after the other; `resume_case` starts the next run of the
same case once an authorized command answers the pending interrupt. A session is any
alternation of the two.
-/

namespace ProductionOptimizer
open Runs
set_option autoImplicit false

/-- The named checks of `authorize_resume`, each `true` when it fails. -/
def resumeChecks (command : ResumeInterruptCommand) (interrupt : InterruptEnvelope)
    (actor : ActorContext) (now : Nat) : List (String × Bool) :=
  [("expired interrupt", decide (interrupt.expiresAt ≤ now)),
   ("actor identity mismatch", command.actorId != actor.actorId),
   ("tenant mismatch", command.tenantId != actor.tenantId),
   ("case mismatch", command.caseId != interrupt.caseId),
   ("thread mismatch", command.threadId != interrupt.threadId),
   ("interrupt mismatch", command.interruptId != interrupt.interruptId),
   ("artifact digest mismatch", command.artifactDigest != interrupt.artifactDigest),
   ("policy version mismatch", command.policyVersion != interrupt.policyVersion),
   ("decision is not allowed", !interrupt.allowedDecisions.contains command.decision),
   ("required actor role is missing", !actor.roles.contains interrupt.requiredActorRole),
   ("asserted roles exceed authenticated roles",
     !command.actorRoles.all (actor.roles.contains ·))]

/-- The reasons `authorize_resume` raises with; it accepts when there is none. -/
def authorizeResume (command : ResumeInterruptCommand) (interrupt : InterruptEnvelope)
    (actor : ActorContext) (now : Nat) : List String :=
  ((resumeChecks command interrupt actor now).filter (·.2)).map (·.1)

theorem artifactDigest_of_authorized {command : ResumeInterruptCommand}
    {interrupt : InterruptEnvelope} {actor : ActorContext} {now : Nat}
    (h : authorizeResume command interrupt actor now = []) :
    command.artifactDigest = interrupt.artifactDigest := by
  have hall : ∀ check ∈ resumeChecks command interrupt actor now, check.2 = false := by
    intro check hmem
    rw [authorizeResume, List.map_eq_nil_iff, List.filter_eq_nil_iff] at h
    exact Bool.eq_false_iff.mpr (h check hmem)
  have hdigest := hall
    ("artifact digest mismatch", command.artifactDigest != interrupt.artifactDigest)
    (by simp [resumeChecks])
  simpa using hdigest

/-- The input of the next invocation: the halted node's ref and plain route entry are
dropped, the command and the bumped attempt are set. -/
def resumedState (s : OptimizationState) (interrupt : InterruptEnvelope)
    (command : ResumeInterruptCommand) : OptimizationState :=
  { s with
    artifactRefs := s.artifactRefs.filter (·.contentDigest != interrupt.artifactDigest)
    nodeRoutes := s.nodeRoutes.erase (interrupt.stage, 0)
    resumeCommand := some command
    resumeAttempts := s.resumeAttempts + 1
    resumeTargetNode := some interrupt.stage
    pendingInterrupt := none }

/-- `update_state` merges the pruned lists back into the checkpoint, so only the
last-value channels change. -/
def checkpointedState (s : OptimizationState) (interrupt : InterruptEnvelope)
    (command : ResumeInterruptCommand) : OptimizationState :=
  { s with
    resumeCommand := some command
    resumeAttempts := s.resumeAttempts + 1
    resumeTargetNode := some interrupt.stage
    pendingInterrupt := none }

/-- A compiled graph: its first node, and the nodes it may execute after a commit.
`none` is the end of the invocation. -/
structure Graph where
  start : NodeId
  next : NodeId → OptimizationState → Option NodeId → Prop

structure Config where
  position : Option NodeId
  state : OptimizationState
  ledger : Ledger

section Steps
variable {A : Type} (registry : Registry A) (graph : Graph)

/-- One node of a graph run. The answers are what the environment says at that node. -/
structure GraphStep (c : Config) (visit : Visit) (c' : Config) : Prop where
  executed : ∃ n answers, c.position = some n ∧
    execute registry n answers c.state c.ledger = .ok visit ∧
    graph.next n visit.state c'.position
  state : c'.state = visit.state
  ledger : c'.ledger = visit.ledger

inductive Act where
  | node (visit : Visit)
  | resume (interrupt : InterruptEnvelope) (command : ResumeInterruptCommand)
      (checkpointed : Bool)

/-- A step of a session. A plain resume answers a run that has returned and starts over;
a checkpointed one continues where the run paused. -/
def SessionStep (c : Config) (act : Act) (c' : Config) : Prop :=
  match act with
  | .node visit => GraphStep registry graph c visit c'
  | .resume interrupt command checkpointed =>
    c.state.pendingInterrupt = some interrupt ∧
      (∃ actor now, authorizeResume command interrupt actor now = []) ∧
      if checkpointed then c' = ⟨c.position, checkpointedState c.state interrupt command, c.ledger⟩
      else c.position = none ∧
        c' = ⟨some graph.start, resumedState c.state interrupt command, c.ledger⟩

end Steps

def Visit.node (visit : Visit) : NodeId := visit.key.node

section Facts
variable {A : Type} {registry : Registry A} {graph : Graph} {c c' : Config} {visit : Visit}

theorem GraphStep.spec (h : GraphStep registry graph c visit c') :
    ∃ answers, c.position = some visit.node ∧
      visit.key = deriveIdempotencyKey visit.node c.state ∧
      Committed visit.node visit.execution c.state c'.state ∧
      Source registry visit.node answers c.state c.ledger visit ∧
      graph.next visit.node c'.state c'.position := by
  obtain ⟨n, answers, hpos, hexec, hnext⟩ := h.executed
  obtain ⟨hkey, hcommit, hsource⟩ := execute_ok hexec
  have hn : visit.node = n := by
    rw [Visit.node, hkey]
    rfl
  rw [← h.state] at hcommit hnext
  rw [hn]
  exact ⟨answers, hpos, hkey, hcommit, hsource, hnext⟩

theorem GraphStep.ledger_mono (h : GraphStep registry graph c visit c') {key : IdempotencyKey}
    {execution : NodeExecution} (hc : c.ledger.cached key = some execution) :
    c'.ledger.cached key = some execution := by
  obtain ⟨answers, _, _, _, hsource, _⟩ := h.spec
  rw [h.ledger]
  exact hsource.cached_mono hc

theorem SessionStep.ledger_mono {act : Act} (h : SessionStep registry graph c act c')
    {key : IdempotencyKey} {execution : NodeExecution}
    (hc : c.ledger.cached key = some execution) : c'.ledger.cached key = some execution := by
  cases act with
  | node visit => exact GraphStep.ledger_mono h hc
  | resume interrupt command checkpointed =>
    obtain ⟨_, _, h⟩ := h
    split at h
    · rw [h]
      exact hc
    · rw [h.2]
      exact hc

theorem session_ledger_mono {tr : List (Transition Config Act)}
    (h : Run (SessionStep registry graph) c tr c') {key : IdempotencyKey}
    {execution : NodeExecution} (hc : c.ledger.cached key = some execution) :
    c'.ledger.cached key = some execution :=
  h.invariant (I := fun d => d.ledger.cached key = some execution) hc
    fun _ _ _ hd hs => hs.ledger_mono hd

end Facts

def Graph.ofFunction (start : NodeId) (next : NodeId → OptimizationState → Option NodeId) :
    Graph := ⟨start, fun n s p => p = next n s⟩

section Replay
variable {A : Type} (registry : Registry A) (start : NodeId)
  (next : NodeId → OptimizationState → Option NodeId)

/-- Execute the node at the present position with the given answers. -/
def advance (c : Config) (answers : A) : Option (Visit × Config) :=
  match c.position with
  | none => none
  | some n =>
    match execute registry n answers c.state c.ledger with
    | .ok visit => some (visit, ⟨next n visit.state, visit.state, visit.ledger⟩)
    | .error _ => none

theorem graphStep_of_advance {c c' : Config} {answers : A} {visit : Visit}
    (h : advance registry next c answers = some (visit, c')) :
    GraphStep registry (.ofFunction start next) c visit c' := by
  unfold advance at h
  split at h
  · cases h
  · rename_i n hpos
    split at h
    · rename_i v hexec
      cases h
      exact ⟨⟨n, answers, hpos, hexec, rfl⟩, rfl, rfl⟩
    · cases h

/-- What drives a session: answers for the next node, or an owner's plain resume. -/
inductive Stimulus (A : Type) where
  | answers (a : A)
  | resume (command : ResumeInterruptCommand) (actor : ActorContext) (now : Nat)

def sessionAdvance (c : Config) : Stimulus A → Option (Act × Config)
  | .answers a => (advance registry next c a).map fun out => (.node out.1, out.2)
  | .resume command actor now =>
    match c.position, c.state.pendingInterrupt with
    | none, some interrupt =>
      if authorizeResume command interrupt actor now = [] then
        some (.resume interrupt command false,
          ⟨some start, resumedState c.state interrupt command, c.ledger⟩)
      else none
    | _, _ => none

theorem sessionStep_of_sessionAdvance (c : Config) (stimulus : Stimulus A) (act : Act)
    (c' : Config) (h : sessionAdvance registry start next c stimulus = some (act, c')) :
    SessionStep registry (.ofFunction start next) c act c' := by
  cases stimulus with
  | answers a =>
    obtain ⟨out, hout, heq⟩ := Option.map_eq_some_iff.mp h
    cases heq
    exact graphStep_of_advance registry start next hout
  | resume command actor now =>
    simp only [sessionAdvance] at h
    split at h
    · rename_i interrupt hpos hpending
      split at h
      · rename_i hauth
        cases h
        exact ⟨hpending, ⟨actor, now, hauth⟩, hpos, rfl⟩
      · cases h
    · cases h

theorem exists_sessionRun (c : Config) (stimuli : List (Stimulus A))
    (check : List (Transition Config Act) × Config → Bool)
    (h : (replay (sessionAdvance registry start next) stimuli [] c).any check = true) :
    ∃ tr c', Run (SessionStep registry (.ofFunction start next)) c tr c' ∧
      check (tr, c') = true :=
  exists_run_of_replay (sessionAdvance registry start next)
    (sessionStep_of_sessionAdvance registry start next) c stimuli check h

end Replay

end ProductionOptimizer
