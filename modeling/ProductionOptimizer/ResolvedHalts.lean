import ProductionOptimizer.Resume
import ProductionOptimizer.Handlers.LaneGates

/-!
# Do resolved halts stay resolved?

A halted node that was resumed must answer from its resumed execution in every later run
of the case. The resume suffix of its key follows `resume_target_node`, so the node falls
back to its first intent as soon as another node is resumed.
-/

namespace ProductionOptimizer
open Runs
set_option autoImplicit false

/-- A resume without checkpoint that approves what `n` halted for. -/
def Act.Approves (act : Act) (n : NodeId) : Prop :=
  ∃ interrupt command, act = .resume interrupt command false ∧ interrupt.stage = n ∧
    command.decision = "approve"

/-- No completed intent carries a later attempt than the last one made. -/
def AttemptsBound (c : Config) : Prop :=
  ∀ key execution, c.ledger.cached key = some execution → key.resume ≤ c.state.resumeAttempts

section Sessions
variable {A : Type} {registry : Registry A} {graph : Graph} {c₀ c c' : Config} {act : Act}
  {tr : List (Transition Config Act)}

theorem resumeAttempts_resume {interrupt : InterruptEnvelope} {command : ResumeInterruptCommand}
    {checkpointed : Bool}
    (h : SessionStep registry graph c (.resume interrupt command checkpointed) c') :
    c'.state.resumeAttempts = c.state.resumeAttempts + 1 ∧
      c'.state.resumeTargetNode = some interrupt.stage ∧
      c'.state.resumeCommand = some command ∧ c'.ledger = c.ledger := by
  obtain ⟨_, _, h⟩ := h
  split at h
  · subst h
    exact ⟨rfl, rfl, rfl, rfl⟩
  · obtain ⟨_, rfl⟩ := h
    exact ⟨rfl, rfl, rfl, rfl⟩

theorem resumeAttempts_mono_step (h : SessionStep registry graph c act c') :
    c.state.resumeAttempts ≤ c'.state.resumeAttempts := by
  cases act with
  | node visit =>
    obtain ⟨_, _, _, hcommit, _, _⟩ := GraphStep.spec h
    exact hcommit.resumeAttempts.ge
  | resume interrupt command checkpointed =>
    rw [(resumeAttempts_resume h).1]
    exact Nat.le_succ _

theorem attemptsBound_step (hc : AttemptsBound c) (h : SessionStep registry graph c act c') :
    AttemptsBound c' := by
  intro key execution hcached
  refine Nat.le_trans ?_ (resumeAttempts_mono_step h)
  cases act with
  | node visit =>
    obtain ⟨_, _, hkey, _, hsource, _⟩ := GraphStep.spec h
    rw [h.ledger] at hcached
    rcases hsource.cached_cases hcached with hold | ⟨rfl, _⟩
    · exact hc key execution hold
    · rw [hkey]
      simp only [deriveIdempotencyKey]
      split
      · exact Nat.le_refl _
      · exact Nat.zero_le _
  | resume interrupt command checkpointed =>
    rw [(resumeAttempts_resume h).2.2.2] at hcached
    exact hc key execution hcached

theorem resumeAttempts_mono (h : Run (SessionStep registry graph) c tr c') :
    c.state.resumeAttempts ≤ c'.state.resumeAttempts :=
  h.invariant (I := fun d => c.state.resumeAttempts ≤ d.state.resumeAttempts)
    (Nat.le_refl _) fun _ _ _ hd hs => Nat.le_trans hd (resumeAttempts_mono_step hs)

/-- Whatever node the session is about to execute, if it was resumed before then the
intent it consults was not completed before that resume. -/
def StaysResolved (tr : List (Transition Config Act)) (c : Config) : Prop :=
  ∀ n, c.position = some n → ∀ r ∈ tr, r.label.Approves n →
    r.before.ledger.cached (deriveIdempotencyKey n c.state) = none

theorem deriveIdempotencyKey_of_ne {n : NodeId} {s : OptimizationState}
    (h : s.resumeTargetNode ≠ some n) : deriveIdempotencyKey n s = baseKey n s := by
  simp only [deriveIdempotencyKey, baseKey, if_neg h]

/-- A key made after a resume of `n`, while `n` is still the target, is newer than every
intent completed before that resume. -/
theorem cached_resumed_key {n : NodeId} (hstart : AttemptsBound c₀)
    (hrun : Run (SessionStep registry graph) c₀ tr c) {r : Transition Config Act} (hr : r ∈ tr)
    (happ : r.label.Approves n) (htarget : c.state.resumeTargetNode = some n) :
    r.before.ledger.cached (deriveIdempotencyKey n c.state) = none := by
  obtain ⟨later, earlier, rfl⟩ := List.append_of_mem hr
  obtain ⟨hbefore, hstep, hafter⟩ := hrun.step_of_eq_append
  obtain ⟨interrupt, command, hlabel, _, _⟩ := happ
  rw [hlabel] at hstep
  have hbound : AttemptsBound r.before := hbefore.invariant hstart fun _ _ _ => attemptsBound_step
  have hmono := resumeAttempts_mono hafter
  rw [(resumeAttempts_resume hstep).1] at hmono
  cases hcached : r.before.ledger.cached (deriveIdempotencyKey n c.state) with
  | none => rfl
  | some execution =>
    have hle := hbound _ _ hcached
    simp only [deriveIdempotencyKey, if_pos htarget] at hle
    omega

end Sessions

/-! ### A graph with two gates in sequence -/

def firstGate : NodeId := ⟨.A1, 90⟩

def secondGate : NodeId := ⟨.A2, 31⟩

/-- A gate that halts until its own interrupt has been answered with an approval. -/
def haltUntilApproved (n : NodeId) : Answers → OptimizationState → Except Failure NodeExecution :=
  fun a s =>
    if s.resumeTargetNode = some n ∧ s.resumeCommand.any (·.decision == "approve") then .ok {}
    else .ok { route := .approval
               updates := [.pendingInterrupt (gateInterrupt s a n n.render (.other 0) "v1")] }

def twoGates : Registry Answers := fun n =>
  some ⟨[.continue_, .approval], haltUntilApproved n⟩

def twoGatesNext (n : NodeId) (s : OptimizationState) : Option NodeId :=
  if n = firstGate ∧ s.routeFor n = .continue_ then some secondGate else none

def twoGatesGraph : Graph := .ofFunction firstGate twoGatesNext

def twoGatesCase : Config :=
  ⟨some firstGate, { caseId := "case", threadId := "thread", tenantId := "tenant" }, ∅⟩

def ownerApproves (n : NodeId) : Stimulus Answers :=
  .resume
    { tenantId := "tenant", caseId := "case", threadId := "thread",
      interruptId := "case" ++ n.render, actorId := "owner-1", actorRoles := ["owner"],
      decision := "approve", artifactDigest := .other 0, policyVersion := "v1" }
    ⟨"owner-1", "tenant", ["owner"]⟩ 10

/-- The first gate halts and its owner approves. -/
def firstHalt : List (Stimulus Answers) := [.answers {}, ownerApproves firstGate]

/-- The run then passes the first gate, halts at the second, and that halt is approved. -/
def bothHalts : List (Stimulus Answers) :=
  firstHalt ++ [.answers {}, .answers {}, ownerApproves secondGate]

/-- Whether a transition is an approving resume of `n` that already found an intent
under `key`. -/
def resumedWithIntent (n : NodeId) (key : IdempotencyKey) (t : Transition Config Act) : Bool :=
  match t.label with
  | .resume interrupt command false =>
    interrupt.stage == n && command.decision == "approve" && (t.before.ledger.cached key).isSome
  | _ => false

theorem approves_of_resumedWithIntent {n : NodeId} {key : IdempotencyKey}
    {t : Transition Config Act} (h : resumedWithIntent n key t = true) :
    t.label.Approves n ∧ t.before.ledger.cached key ≠ none := by
  unfold resumedWithIntent at h
  split at h
  · rename_i interrupt command hlabel
    simp only [Bool.and_eq_true, beq_iff_eq] at h
    refine ⟨⟨interrupt, command, hlabel, h.1.1, h.1.2⟩, fun hnone => ?_⟩
    rw [hnone] at h
    cases h.2
  · cases h

theorem attemptsBound_twoGatesCase : AttemptsBound twoGatesCase := by
  intro key execution h
  rw [twoGatesCase, Ledger.cached_empty] at h
  cases h

def haltsAtFirstGate (step : Visit × Config) : Bool :=
  decide (step.1.node = firstGate ∧ step.1.execution.route = .approval ∧ step.2.position = none)

end ProductionOptimizer
