import ProductionOptimizer.SharedWorkflow
import ProductionOptimizer.ResolvedHalts
import ProductionOptimizer.SelectionGate

/-!
# Approval binding

Five nodes read `resume_command`, and nothing clears it once the resumed node has run. An
approval is bound to what it was given for exactly when the node that consumes it is still
the resume's target and the digest in the command is that of the artifact at hand.
-/

namespace ProductionOptimizer
open Runs
set_option autoImplicit false

/-- The nodes with an 'approved by resume' branch. -/
def gateHandler :
    NodeId → Option (Answers → OptimizationState → Except Failure NodeExecution)
  | ⟨.A1, 90⟩ => some handleA190
  | ⟨.A2, 31⟩ => some handleA231
  | ⟨.S01, 80⟩ => some handleS0180
  | ⟨.S02, 90⟩ => some handleS0290
  | ⟨.S06, 90⟩ => some handleS0690
  | _ => none

/-- A registry of a lane graph or of the shared workflow: the gates are the real ones, the
other nodes are arbitrary. -/
def RunsGates (registry : Registry Answers) : Prop :=
  ∀ n handler node, gateHandler n = some handler → registry n = some node →
    node.handler = handler

/-- An execution of a gate that approves, with the digest of what it approves. -/
inductive Approves (s : OptimizationState) (execution : NodeExecution) :
    NodeId → Artifact → Prop where
  | request (id : ArtifactId) (now haltedAt fingerprint : Nat) (binding : String × String)
      (h : ⟨id, .a1ApprovalDecision now (some binding) fingerprint .continue_⟩ ∈
        execution.artifactRefs) :
      Approves s execution ⟨.A1, 90⟩ (.a1ApprovalDecision haltedAt none fingerprint .approval)
  | command (id : ArtifactId) (now : Nat) (commands : List CommandKind) (proposal : CommandProposal)
      (h : ⟨id, .verificationManifest now commands (some proposal)⟩ ∈ execution.artifactRefs) :
      Approves s execution ⟨.A2, 31⟩ (.commandProposal proposal)
  | selection (approval : SelectionApproval) (ref : ArtifactRef)
      (happroval : .s01Approval approval ∈ execution.updates)
      (hdecision : approval.decision = .approved) (href : ref ∈ execution.artifactRefs)
      (htype : ref.artifactType = .rankingResult) :
      Approves s execution ⟨.S01, 80⟩ ref.contentDigest
  | plan (approval : PlanApproval) (ref : ArtifactRef)
      (happroval : .s02Approval approval ∈ execution.updates)
      (hdecision : approval.decision = .approved) (href : s.tryRef .executionPlan = some ref) :
      Approves s execution ⟨.S02, 90⟩ ref.contentDigest
  | patch (id : ArtifactId) (now : Nat) (phaseId : String) (patchDigest : Artifact)
      (commit : Option (String × String)) (baseRevision : String)
      (failure : Option ApplyFailure) (actorId : Option String)
      (h : ⟨id, .repositoryApplyResult now phaseId patchDigest commit baseRevision failure
        .approved actorId⟩ ∈ execution.artifactRefs) :
      Approves s execution ⟨.S06, 90⟩ patchDigest

/-- The digest of what a gate has before it, read from its inputs alone. -/
inductive Presents (a : Answers) (s : OptimizationState) : NodeId → Artifact → Prop where
  | request (haltedAt : Nat) :
      Presents a s ⟨.A1, 90⟩ (.a1ApprovalDecision haltedAt none a.requestFingerprint .approval)
  | command (proposal : CommandProposal) (h : s.pendingCommandProposal = some proposal) :
      Presents a s ⟨.A2, 31⟩ (.commandProposal proposal)
  | selection (portfolioRef : ArtifactRef)
      (h : s.requireRef .solutionPortfolio = .ok portfolioRef) :
      Presents a s ⟨.S01, 80⟩ (rankingOf a s portfolioRef.contentDigest)
  | plan (ref : ArtifactRef) (h : s.tryRef .executionPlan = some ref) :
      Presents a s ⟨.S02, 90⟩ ref.contentDigest
  | patch (ref : ArtifactRef) (h : s.requirePhaseRef ⟨.S03, 80⟩ .patchArtifact = .ok ref) :
      Presents a s ⟨.S06, 90⟩ ref.contentDigest

/-- A gate took its 'approved by resume' branch. -/
def TakesApproval (s : OptimizationState) (visit : Visit) : Prop :=
  s.resumeCommand ≠ none ∧ visit.replayed = false ∧ ∃ d, Approves s visit.execution visit.node d

/-- The accepted resume that wrote the present `resume_command`. -/
def lastResume : List (Transition Config Act) → Option (InterruptEnvelope × ResumeInterruptCommand)
  | [] => none
  | ⟨_, .resume interrupt command _, _⟩ :: _ => some (interrupt, command)
  | ⟨_, .node _, _⟩ :: tr => lastResume tr

/-- The command that `visit` consumed was accepted against an interrupt of that same node,
raised over the artifact it approves. -/
def Bound (earlier : List (Transition Config Act)) (s : OptimizationState) (visit : Visit) : Prop :=
  ∃ interrupt command, lastResume earlier = some (interrupt, command) ∧
    s.resumeCommand = some command ∧
    (∃ actor now, authorizeResume command interrupt actor now = []) ∧
    interrupt.stage = visit.node ∧ Approves s visit.execution visit.node interrupt.artifactDigest

def BindsApprovals (tr : List (Transition Config Act)) : Prop :=
  ∀ later before visit after earlier, tr = later ++ ⟨before, .node visit, after⟩ :: earlier →
    TakesApproval before.state visit → Bound earlier before.state visit

/-- The gate is the target of the last resume, and the command carries the digest of what
the gate has before it. -/
def OwnCommand (a : Answers) (n : NodeId) (s : OptimizationState) : Prop :=
  s.resumeTargetNode = some n ∧
    ∃ command, s.resumeCommand = some command ∧ Presents a s n command.artifactDigest

def ApprovesOwn (registry : Registry Answers) (tr : List (Transition Config Act)) : Prop :=
  ∀ before visit after, ⟨before, .node visit, after⟩ ∈ tr → TakesApproval before.state visit →
    ∀ a, execute registry visit.node a before.state before.ledger = .ok visit →
      OwnCommand a visit.node before.state

section Gates
variable {a : Answers} {s : OptimizationState} {execution : NodeExecution} {d : Artifact}

theorem handleA190_approves (h : handleA190 a s = .ok execution)
    (htakes : ∃ d', Approves s execution ⟨.A1, 90⟩ d') :
    Approves s execution ⟨.A1, 90⟩ d ↔ Presents a s ⟨.A1, 90⟩ d := by
  have hrefs : execution.artifactRefs = [⟨.base, .a1ApprovalDecision a.now (a190Verdict a s).2
      a.requestFingerprint (a190Verdict a s).1⟩] := by
    unfold handleA190 at h
    dsimp only at h
    split at h
    · cases h
      rfl
    · cases h
      rfl
  have hsealed : ∀ id now fingerprint binding,
      (⟨id, .a1ApprovalDecision now (some binding) fingerprint .continue_⟩ : ArtifactRef) ∈
        execution.artifactRefs → fingerprint = a.requestFingerprint := by
    intro id now fingerprint binding hmem
    rw [hrefs] at hmem
    have heq := List.mem_singleton.mp hmem
    simp only [ArtifactRef.mk.injEq, Artifact.a1ApprovalDecision.injEq] at heq
    exact heq.2.2.2.1
  obtain ⟨_, hd⟩ := htakes
  cases hd with
  | request id now _ fingerprint binding hmem =>
    cases hsealed id now fingerprint binding hmem
    constructor
    · intro happroves
      cases happroves with
      | request id' now' haltedAt fingerprint' binding' hmem' =>
        cases hsealed id' now' fingerprint' binding' hmem'
        exact .request haltedAt
    · intro hpresents
      cases hpresents with
      | request haltedAt => exact .request id now haltedAt _ binding hmem

theorem handleA231_approves (h : handleA231 a s = .ok execution)
    (htakes : ∃ d', Approves s execution ⟨.A2, 31⟩ d') :
    Approves s execution ⟨.A2, 31⟩ d ↔ Presents a s ⟨.A2, 31⟩ d := by
  have hsealed : ∀ id now commands proposal,
      (⟨id, .verificationManifest now commands (some proposal)⟩ : ArtifactRef) ∈
        execution.artifactRefs → s.pendingCommandProposal = some proposal := by
    intro id now commands proposal hmem
    rcases handleA231_cases h with rfl | ⟨_, rfl⟩ | ⟨_, hrefs⟩
    · cases List.mem_singleton.mp hmem
    · have heq := List.mem_singleton.mp hmem
      simp only [ArtifactRef.mk.injEq, Artifact.verificationManifest.injEq] at heq
      exact heq.2.2.2.symm
    · rw [hrefs] at hmem
      cases List.mem_singleton.mp hmem
  obtain ⟨_, hd⟩ := htakes
  cases hd with
  | command id now commands proposal hmem =>
    have hpending := hsealed id now commands proposal hmem
    constructor
    · intro happroves
      cases happroves with
      | command id' now' commands' proposal' hmem' => exact .command proposal' (hsealed _ _ _ _ hmem')
    · intro hpresents
      cases hpresents with
      | command proposal' hpending' =>
        cases hpending.symm.trans hpending'
        exact .command id now commands proposal hmem

theorem handleS0180_approves (h : handleS0180 a s = .ok execution)
    (htakes : ∃ d', Approves s execution ⟨.S01, 80⟩ d') :
    Approves s execution ⟨.S01, 80⟩ d ↔ Presents a s ⟨.S01, 80⟩ d := by
  obtain ⟨portfolioRef, hportfolio, hrefs, _⟩ := handleS0180_ok h
  obtain ⟨_, hd⟩ := htakes
  cases hd with
  | selection approval ref happroval hdecision href htype =>
    constructor
    · intro happroves
      cases happroves with
      | selection _ ref' _ _ href' _ =>
        rw [hrefs] at href'
        rw [List.mem_singleton.mp href']
        exact .selection portfolioRef hportfolio
    · intro hpresents
      cases hpresents with
      | selection portfolioRef' hportfolio' =>
        cases hportfolio.symm.trans hportfolio'
        rw [hrefs] at href
        have hcontent : ref.contentDigest = rankingOf a s portfolioRef.contentDigest := by
          rw [List.mem_singleton.mp href]
          rfl
        rw [← hcontent]
        exact .selection approval ref happroval hdecision (by rw [hrefs]; exact href) htype

theorem approves_plan_iff (htakes : ∃ d', Approves s execution ⟨.S02, 90⟩ d') :
    Approves s execution ⟨.S02, 90⟩ d ↔ Presents a s ⟨.S02, 90⟩ d := by
  obtain ⟨_, hd⟩ := htakes
  cases hd with
  | plan approval _ happroval hdecision _ =>
    constructor
    · intro happroves
      cases happroves with
      | plan _ ref _ _ href => exact .plan ref href
    · intro hpresents
      cases hpresents with
      | plan ref href => exact .plan approval ref happroval hdecision href

theorem handleS0690_sealed (h : handleS0690 a s = .ok execution) {ref : ArtifactRef}
    (href : ref ∈ execution.artifactRefs) :
    ∃ patchRef, s.requirePhaseRef ⟨.S03, 80⟩ .patchArtifact = .ok patchRef ∧
      ∃ now phaseId commit baseRevision failure approval actorId, ref.contentDigest =
        .repositoryApplyResult now phaseId patchRef.contentDigest commit baseRevision failure
          approval actorId := by
  unfold handleS0690 at h
  split at h
  · cases h
    cases href
  · split at h
    · cases h
    · obtain ⟨snapshot, _, h⟩ := except_bind_ok h
      obtain ⟨patchRef, hpatch, h⟩ := except_bind_ok h
      obtain ⟨patch, _, h⟩ := except_bind_ok h
      obtain ⟨phaseId, _, h⟩ := except_bind_ok h
      obtain ⟨stageId, _, h⟩ := except_bind_ok h
      refine ⟨patchRef, hpatch, ?_⟩
      dsimp only at h
      split at h
      · split at h
        · cases h
          rw [List.mem_singleton.mp href]
          exact ⟨_, _, _, _, _, _, _, rfl⟩
        · split at h
          · cases h
            rw [List.mem_singleton.mp href]
            exact ⟨_, _, _, _, _, _, _, rfl⟩
          · cases h
            cases href
      · split at h
        · cases h
          rw [List.mem_singleton.mp href]
          exact ⟨_, _, _, _, _, _, _, rfl⟩
        · cases h
          rw [List.mem_singleton.mp href]
          exact ⟨_, _, _, _, _, _, _, rfl⟩

theorem handleS0690_approves (h : handleS0690 a s = .ok execution)
    (htakes : ∃ d', Approves s execution ⟨.S06, 90⟩ d') :
    Approves s execution ⟨.S06, 90⟩ d ↔ Presents a s ⟨.S06, 90⟩ d := by
  obtain ⟨_, hd⟩ := htakes
  cases hd with
  | patch id now phaseId _ commit baseRevision failure actorId hmem =>
    obtain ⟨patchRef, hpatch, _, _, _, _, _, _, _, hcontent⟩ := handleS0690_sealed h hmem
    cases hcontent
    constructor
    · intro happroves
      cases happroves with
      | patch _ _ _ _ _ _ _ _ hmem' =>
        obtain ⟨patchRef', hpatch', _, _, _, _, _, _, _, hcontent'⟩ := handleS0690_sealed h hmem'
        cases hcontent'
        exact .patch patchRef' hpatch'
    · intro hpresents
      cases hpresents with
      | patch patchRef' hpatch' =>
        cases hpatch.symm.trans hpatch'
        exact .patch id now phaseId _ commit baseRevision failure actorId hmem

theorem approves_iff_presents {n : NodeId}
    {handler : Answers → OptimizationState → Except Failure NodeExecution}
    (hn : gateHandler n = some handler) (h : handler a s = .ok execution)
    (htakes : ∃ d', Approves s execution n d') :
    Approves s execution n d ↔ Presents a s n d := by
  unfold gateHandler at hn
  split at hn
  · cases hn
    exact handleA190_approves h htakes
  · cases hn
    exact handleA231_approves h htakes
  · cases hn
    exact handleS0180_approves h htakes
  · cases hn
    exact approves_plan_iff htakes
  · cases hn
    exact handleS0690_approves h htakes
  · cases hn

theorem gateHandler_of_approves {n : NodeId} (h : Approves s execution n d) :
    ∃ handler, gateHandler n = some handler := by
  cases h <;> exact ⟨_, rfl⟩

end Gates

section Sessions
variable {registry : Registry Answers} {graph : Graph} {c₀ c : Config}
  {tr : List (Transition Config Act)}

/-- `resume_command` and `resume_target_node` are those of the last accepted resume. -/
theorem lastResume_spec (hstart : c₀.state.resumeCommand = none)
    (hrun : Run (SessionStep registry graph) c₀ tr c) :
    match lastResume tr with
    | none => c.state.resumeCommand = none
    | some (interrupt, command) => c.state.resumeCommand = some command ∧
        c.state.resumeTargetNode = some interrupt.stage ∧
        ∃ actor now, authorizeResume command interrupt actor now = [] := by
  induction hrun with
  | nil => exact hstart
  | @snoc tr s s' act hrun hstep ih =>
    cases act with
    | node visit =>
      obtain ⟨_, _, _, hcommit, _, _⟩ := GraphStep.spec hstep
      unfold lastResume
      rw [hcommit.resumeCommand, hcommit.resumeTargetNode]
      exact ih
    | resume interrupt command checkpointed =>
      obtain ⟨_, htarget, hcommand, _⟩ := resumeAttempts_resume hstep
      exact ⟨hcommand, htarget, hstep.2.1⟩

/-- One approving step: its command is bound exactly when it is the gate's own. -/
theorem bound_iff (hgates : RunsGates registry) (hstart : c₀.state.resumeCommand = none)
    (hrun : Run (SessionStep registry graph) c₀ tr c) {visit : Visit} {a : Answers}
    (hexec : execute registry visit.node a c.state c.ledger = .ok visit)
    (htakes : TakesApproval c.state visit) :
    Bound tr c.state visit ↔ OwnCommand a visit.node c.state := by
  obtain ⟨hcommand, hfresh, happroves⟩ := htakes
  have hpresents : ∀ d, Approves c.state visit.execution visit.node d ↔
      Presents a c.state visit.node d := by
    intro d
    obtain ⟨_, happ⟩ := happroves
    obtain ⟨handler, hgate⟩ := gateHandler_of_approves happ
    obtain ⟨_, _, hsource⟩ := execute_ok hexec
    cases hsource with
    | replay hflag _ _ =>
      rw [hflag] at hfresh
      cases hfresh
    | fresh node _ _ hnode hhandler _ _ =>
      rw [hgates _ _ _ hgate hnode] at hhandler
      exact approves_iff_presents hgate hhandler ⟨_, happ⟩
  have hlast := lastResume_spec hstart hrun
  unfold Bound OwnCommand
  cases hresume : lastResume tr with
  | none =>
    rw [hresume] at hlast
    exact absurd hlast hcommand
  | some pair =>
    obtain ⟨interrupt, command⟩ := pair
    rw [hresume] at hlast
    obtain ⟨hsome, htarget, actor, now, hauth⟩ := hlast
    have hdigest := artifactDigest_of_authorized hauth
    constructor
    · rintro ⟨interrupt', command', heq, _, _, hstage, happ⟩
      cases heq
      rw [htarget, hstage]
      refine ⟨rfl, command, hsome, ?_⟩
      rw [hdigest]
      exact (hpresents _).mp happ
    · rintro ⟨hown, command', hsome', hpresent⟩
      cases hsome.symm.trans hsome'
      rw [hdigest] at hpresent
      exact ⟨interrupt, command, rfl, hsome, ⟨actor, now, hauth⟩,
        Option.some.inj (htarget.symm.trans hown), (hpresents _).mpr hpresent⟩

end Sessions

theorem runsGates_sharedRegistry : RunsGates sharedRegistry := by
  intro n handler node hgate hnode
  obtain ⟨hmem, rfl⟩ := sharedRegistry_some hnode
  unfold gateHandler at hgate
  split at hgate
  · cases hmem
  · cases hmem
  · cases hgate
    rfl
  · cases hgate
    rfl
  · cases hgate
    rfl
  · cases hgate

/-! ### A session in which an approval travels on -/

def ownerApprovesPending (c : Config) : Stimulus Answers :=
  match c.state.pendingInterrupt with
  | none => .answers {}
  | some interrupt =>
    .resume
      { tenantId := "tenant", caseId := interrupt.caseId, threadId := interrupt.threadId,
        interruptId := interrupt.interruptId, actorId := "owner-1", actorRoles := ["owner"],
        decision := "approve", artifactDigest := interrupt.artifactDigest,
        policyVersion := interrupt.policyVersion }
      ⟨"owner-1", "tenant", ["owner"]⟩ (interrupt.issuedAt + 1)

theorem exists_scriptedRun (registry : Registry Answers) (start : NodeId)
    (next : NodeId → OptimizationState → Option NodeId) (c : Config)
    (script : List (Config → Stimulus Answers))
    (check : List (Transition Config Act) × Config → Bool)
    (h : (replay (fun c f => sessionAdvance registry start next c (f c)) script [] c).any check =
      true) :
    ∃ tr c', Run (SessionStep registry (.ofFunction start next)) c tr c' ∧
      check (tr, c') = true :=
  exists_run_of_replay _
    (fun c f l c' hs => sessionStep_of_sessionAdvance registry start next c (f c) l c' hs)
    c script check h

/-- `S01` halts, its owner approves, and the selection is approved in the second run. -/
def approvedSelection : List (Config → Stimulus Answers) :=
  List.replicate 9 (fun _ => .answers sampleAnswers) ++ [ownerApprovesPending] ++
    List.replicate 8 (fun _ => .answers sampleAnswers)

def doubtedAnswers : Answers := { sampleAnswers with now := 1, criticApproved := false }

/-- The first run ends at `S02.81`; the owner approves the selection that is still pending;
the second run gets to `S02.90`. -/
def approvalTravels : List (Config → Stimulus Answers) :=
  List.replicate 32 (fun _ => .answers doubtedAnswers) ++ [ownerApprovesPending] ++
    List.replicate 19 (fun _ => .answers { sampleAnswers with now := 2 })

def approvesPlan : FieldUpdate → Bool
  | .s02Approval approval => approval.decision == .approved
  | _ => false

def planApprovedForSelection (out : List (Transition Config Act) × Config) : Bool :=
  match out.1 with
  | ⟨before, .node visit, _⟩ :: earlier =>
    decide (visit.node = ⟨.S02, 90⟩ ∧ visit.replayed = false ∧
      before.state.resumeCommand.isSome = true ∧
      (before.state.tryRef .executionPlan).isSome = true ∧
      visit.execution.updates.any approvesPlan = true ∧
      (lastResume earlier).map (·.1.stage) = some ⟨.S01, 80⟩)
  | _ => false

end ProductionOptimizer
