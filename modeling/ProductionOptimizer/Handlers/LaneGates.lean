import ProductionOptimizer.Handlers.Answers

/-!
# The approval gates of the manual lane

`A1.90` decides on the frozen request, `A2.31` on a command the model proposed when the
repository declares none; `A2.30` parses the snapshot before it. The two gates halt with a
pending interrupt and read `resume_command` when they run again.
-/

namespace ProductionOptimizer
set_option autoImplicit false

/-- The interrupt every gate raises; the gates differ in the arguments only. -/
def gateInterrupt (s : OptimizationState) (a : Answers) (stage : NodeId) (suffix : String)
    (artifactDigest : Artifact) (policyVersion : String) : InterruptEnvelope where
  interruptId := s.caseId ++ suffix
  caseId := s.caseId
  threadId := s.threadId
  stage := stage
  artifactDigest := artifactDigest
  allowedDecisions := ["approve", "reject"]
  requiredActorRole := "owner"
  policyVersion := policyVersion
  issuedAt := a.now
  expiresAt := a.now + 86400

/-- Route and approving actor of `A1.90`. A resume command, whatever interrupt it
answered, comes before quality and policy. -/
def a190Verdict (a : Answers) (s : OptimizationState) :
    NodeRoute × Option (String × String) :=
  match s.resumeCommand with
  | some command =>
    if command.decision = "approve" then
      (.continue_, some (command.actorId, (firstRole command).getD ""))
    else (.rejected, none)
  | none =>
    if !a.requestQualityPassed then (.rejected, none)
    else
      match a.policy with
      | some decision =>
        if !decision.allowed then (.rejected, none)
        else if decision.decision = "require_approval" then (.approval, none)
        else if decision.decision = "allow" then
          (.continue_, some (a.requesterId, a.requesterRole))
        else (.rejected, none)
      | none =>
        if ["owner", "approver", "platform_owner"].contains a.requesterRole then
          (.continue_, some (a.requesterId, a.requesterRole))
        else (.approval, none)

/-- The policy version `A1.90` records: the command's, the policy's or the payload's. -/
def a190PolicyVersion (a : Answers) (s : OptimizationState) : String :=
  match s.resumeCommand with
  | some command => command.policyVersion
  | none =>
    match a.requestQualityPassed, a.policy with
    | true, some decision => decision.policyVersion
    | _, _ => a.requestPolicyVersion

def handleA190 (a : Answers) (s : OptimizationState) : Except Failure NodeExecution :=
  let verdict := a190Verdict a s
  let decision := Artifact.a1ApprovalDecision a.now verdict.2 a.requestFingerprint verdict.1
  let ref : ArtifactRef := ⟨.base, decision⟩
  if verdict.1 = .approval then
    .ok { route := .approval
          artifactRefs := [ref]
          updates := [.pendingInterrupt
            (gateInterrupt s a ⟨.A1, 90⟩ "-A1-APPROVAL" decision (a190PolicyVersion a s))] }
  else .ok { route := verdict.1, artifactRefs := [ref] }

/-- `A2.30`. The snapshot is parsed for everything but commands: those are left to
`A2.31`, and the list stays empty. -/
def handleA230 (a : Answers) (s : OptimizationState) : Except Failure NodeExecution := do
  let _ ← s.readSnapshot
  .ok { artifactRefs := [⟨.base, .repositoryManifest
          { commands := []
            testRoots := a.testRoots.insertionSort (· ≤ ·)
            manifestFiles := a.manifestFiles.insertionSort (· ≤ ·) }⟩] }

def sealVerificationManifest (a : Answers) (adopted : Option CommandProposal) : NodeExecution :=
  { artifactRefs := [⟨.base, .verificationManifest a.now a.repositoryCommands adopted⟩] }

/-- `A2.31`: declared or detected commands win; the model's proposal is the last resort
and needs an owner. -/
def handleA231 (a : Answers) (s : OptimizationState) : Except Failure NodeExecution := do
  let _ ← s.readSnapshot
  let _ ← s.readManifest
  let _ ← s.readRequest
  if a.repositoryCommands ≠ [] then .ok (sealVerificationManifest a none)
  else
    match s.resumeCommand with
    | some command =>
      if command.decision = "approve" then
        .ok (sealVerificationManifest a s.pendingCommandProposal)
      else .ok (sealVerificationManifest a none)
    | none =>
      match a.modelWired, a.commandProposal with
      | true, some proposal =>
        .ok { route := .approval
              artifactRefs := [⟨.external (" ".intercalate proposal.argv), .commandProposal proposal⟩]
              updates := [
                .pendingInterrupt (gateInterrupt s a ⟨.A2, 31⟩ "-A2-COMMAND-APPROVAL"
                  (.commandProposal proposal) "a2-command-approval-v1"),
                .pendingCommandProposal proposal] }
      | _, _ => .ok (sealVerificationManifest a none)

/-- What `A2.31` seals: its own list, the approved proposal in place of an empty one, or
nothing but the proposal it halts for. -/
theorem handleA231_cases {a : Answers} {s : OptimizationState} {execution : NodeExecution}
    (h : handleA231 a s = .ok execution) :
    execution = sealVerificationManifest a none ∨
      (a.repositoryCommands = [] ∧
        execution = sealVerificationManifest a s.pendingCommandProposal) ∨
      ∃ proposal, execution.artifactRefs =
        [⟨.external (" ".intercalate proposal.argv), .commandProposal proposal⟩] := by
  unfold handleA231 at h
  obtain ⟨_, _, h⟩ := except_bind_ok h
  obtain ⟨_, _, h⟩ := except_bind_ok h
  obtain ⟨_, _, h⟩ := except_bind_ok h
  split at h
  · cases h
    exact Or.inl rfl
  · rename_i hnone
    rw [not_not] at hnone
    split at h
    · split at h
      · cases h
        exact Or.inr (Or.inl ⟨hnone, rfl⟩)
      · cases h
        exact Or.inl rfl
    · split at h
      · cases h
        exact Or.inr (Or.inr ⟨_, rfl⟩)
      · cases h
        exact Or.inl rfl

end ProductionOptimizer
