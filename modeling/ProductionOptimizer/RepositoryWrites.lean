import ProductionOptimizer.BootstrapPolicy
import ProductionOptimizer.SharedRuns

/-!
# Commits under the bootstrap policy

`S06.90` is the only node that writes to the real repository. It asks the policy only while no
resume command is in the state, and the bootstrap policy never answers `allow` there. So in every
session, whatever is answered and resumed, a commit has an owner's approval in its record.
-/

namespace ProductionOptimizer
open Runs Policy
set_option autoImplicit false

/-! ### The shared workflow with the bootstrap policy wired in -/

/-- The facts `S06.90` sends; where they cannot be read the node fails before it asks. -/
def applyFacts (s : OptimizationState) : Except Failure (List (String × Fact)) := do
  let patchRef ← s.requirePhaseRef ⟨.S03, 80⟩ .patchArtifact
  let patch ← readPatch patchRef
  let phaseId ← s.activePhaseId
  .ok [("phase_id", .text phaseId), ("case_id", .text s.caseId),
    ("base_revision", .text patch.baseRevision), ("changed_files", .texts patch.changedFiles)]

def applyPolicyRequest (s : OptimizationState) : PolicyRequest :=
  ⟨"apply_to_real_repo", s06PolicyVersion, s.tenantId, (applyFacts s).toOption.getD []⟩

/-- The answers of a visit, with that of the policy to `S06.90` put in; the other nodes may be
answered in any way. -/
def withPolicy (policy : DeterministicPythonPolicy) (n : NodeId) (a : Answers)
    (s : OptimizationState) : Answers :=
  if n = ⟨.S06, 90⟩ then { a with policy := (policy.evaluate (applyPolicyRequest s)).toOption }
  else a

def policyRegistry (policy : DeterministicPythonPolicy) : Registry Answers := fun n =>
  (sharedRegistry n).map fun node =>
    { node with handler := fun a s => node.handler (withPolicy policy n a s) s }

/-! ### What is sealed -/

/-- A record of a commit names its approval and the owner who gave it. -/
def OwnerApproved (ref : ArtifactRef) : Prop :=
  ∀ now phaseId patchDigest commit baseRevision failure approval actorId,
    ref.contentDigest = .repositoryApplyResult now phaseId patchDigest (some commit) baseRevision
      failure approval actorId → approval = .approved ∧ actorId.isSome = true

def CleanExecution (execution : NodeExecution) : Prop :=
  ∀ ref ∈ execution.artifactRefs, OwnerApproved ref

structure CleanCase (c : Config) : Prop where
  state : ∀ ref ∈ c.state.artifactRefs, OwnerApproved ref
  ledger : ∀ key execution, c.ledger.cached key = some execution → CleanExecution execution

section Sealed
variable {a : Answers} {s : OptimizationState} {execution : NodeExecution}
  {texts : Texts} {policyVersion : String} {policy : DeterministicPythonPolicy}

/-- Where the policy does not allow on its own, a commit is the answer to an approving resume. -/
theorem handleS0690_commit (h : handleS0690 a s = .ok execution)
    (hpolicy : ∀ d, a.policy = some d → d.decision ≠ "allow") {ref : ArtifactRef}
    (href : ref ∈ execution.artifactRefs) {now : Nat} {phaseId : String} {patchDigest : Artifact}
    {commit : String × String} {baseRevision : String} {failure : Option ApplyFailure}
    {approval : ApplyApproval} {actorId : Option String}
    (hcontent : ref.contentDigest = .repositoryApplyResult now phaseId patchDigest (some commit)
      baseRevision failure approval actorId) :
    ∃ command, s.resumeCommand = some command ∧ command.decision = "approve" ∧
      approval = .approved ∧ actorId = some command.actorId := by
  unfold handleS0690 at h
  split at h
  · cases h
    cases href
  · split at h
    · cases h
    · rename_i d hd
      obtain ⟨_, _, h⟩ := except_bind_ok h
      obtain ⟨patchRef, _, h⟩ := except_bind_ok h
      obtain ⟨patch, _, h⟩ := except_bind_ok h
      obtain ⟨phase, _, h⟩ := except_bind_ok h
      obtain ⟨stageId, _, h⟩ := except_bind_ok h
      dsimp only at h
      split at h
      · split at h
        · cases h
          rw [List.mem_singleton.mp href] at hcontent
          cases hcontent
        · split at h
          · rename_i hallow
            exact absurd hallow (hpolicy d hd)
          · cases h
            cases href
      · rename_i command hcommand
        split at h
        · rename_i hdecision
          cases h
          rw [List.mem_singleton.mp href] at hcontent
          simp only [Artifact.repositoryApplyResult.injEq] at hcontent
          obtain ⟨_, _, _, _, _, _, rfl, rfl⟩ := hcontent
          exact ⟨command, hcommand, hdecision, rfl, rfl⟩
        · cases h
          rw [List.mem_singleton.mp href] at hcontent
          cases hcontent

theorem policy_never_allows (hbuild : buildBootstrapPolicy texts policyVersion = .ok policy)
    {d : PolicyDecision} (h : (withPolicy policy ⟨.S06, 90⟩ a s).policy = some d) :
    d.decision ≠ "allow" := by
  rw [withPolicy, if_pos rfl, evaluate_apply hbuild rfl] at h
  cases h
  exact applyToRealRepo_decision

theorem applyResult_writers : ∀ n ∈ catalog, .repositoryApplyResult ∈ nodeTypes n →
    n = ⟨.S06, 90⟩ := by
  decide +kernel

/-- What the handler of any node seals. -/
theorem handler_clean (hbuild : buildBootstrapPolicy texts policyVersion = .ok policy) {n : NodeId}
    (hn : n ∈ catalog) (h : nodeHandler n (withPolicy policy n a s) s = .ok execution) :
    CleanExecution execution := by
  intro ref href now phaseId patchDigest commit baseRevision failure approval actorId hcontent
  have htype : ref.artifactType = .repositoryApplyResult := by
    rw [ArtifactRef.artifactType, hcontent]
    rfl
  have hmem : .repositoryApplyResult ∈ nodeTypes n := by
    rw [← htype]
    exact (nodeHandler_writes n _ s execution h).type_mem href
  obtain rfl := applyResult_writers n hn hmem
  obtain ⟨command, _, _, happroval, hactor⟩ := handleS0690_commit h
    (fun _ hd => policy_never_allows hbuild hd) href hcontent
  exact ⟨happroval, by rw [hactor]; rfl⟩

end Sealed

/-! ### Sessions -/

section Sessions
variable {texts : Texts} {policyVersion : String} {policy : DeterministicPythonPolicy}
  {c c' : Config} {act : Act} {visit : Visit}

theorem policyRegistry_some {n : NodeId} {node : RegisteredNode Answers}
    (h : policyRegistry policy n = some node) :
    n ∈ catalog ∧ node.handler = fun a s => nodeHandler n (withPolicy policy n a s) s := by
  obtain ⟨found, hfound, rfl⟩ := Option.map_eq_some_iff.mp h
  obtain ⟨hmem, rfl⟩ := sharedRegistry_some hfound
  exact ⟨mem_catalog hmem, rfl⟩

/-- One visit: what it seals is clean, whether it is fresh or read back. -/
theorem CleanCase.execution (hclean : CleanCase c)
    (hbuild : buildBootstrapPolicy texts policyVersion = .ok policy)
    (h : GraphStep (policyRegistry policy) sharedGraph c visit c') :
    CleanExecution visit.execution := by
  obtain ⟨answers, _, _, _, hsource, _⟩ := h.spec
  cases hsource with
  | replay _ hcached _ => exact hclean.ledger visit.key visit.execution hcached
  | fresh node _ _ hnode hhandler _ _ =>
    obtain ⟨hmem, hnodeHandler⟩ := policyRegistry_some hnode
    rw [hnodeHandler] at hhandler
    exact handler_clean hbuild hmem hhandler

theorem CleanCase.step (hclean : CleanCase c)
    (hbuild : buildBootstrapPolicy texts policyVersion = .ok policy)
    (h : SessionStep (policyRegistry policy) sharedGraph c act c') : CleanCase c' := by
  cases act with
  | node visit =>
    have hexecution := hclean.execution hbuild h
    obtain ⟨answers, _, _, hcommit, hsource, _⟩ := GraphStep.spec h
    refine ⟨?_, ?_⟩
    · intro ref href
      rcases hcommit.mem_artifactRefs href with hold | hnew
      · exact hclean.state ref hold
      · exact hexecution ref hnew
    · intro key execution hcached
      rw [h.ledger] at hcached
      rcases hsource.cached_cases hcached with hold | ⟨_, rfl⟩
      · exact hclean.ledger key execution hold
      · exact hexecution
  | resume interrupt command checkpointed =>
    obtain ⟨_, _, hresume⟩ := h
    cases checkpointed with
    | true =>
      rw [if_pos rfl] at hresume
      subst hresume
      exact ⟨hclean.state, hclean.ledger⟩
    | false =>
      rw [if_neg (by simp)] at hresume
      obtain ⟨_, rfl⟩ := hresume
      exact ⟨fun ref href => hclean.state ref (List.mem_of_mem_filter href), hclean.ledger⟩

/-- In every session of the shared workflow under the bootstrap policy, with any answers and any
accepted resumes: each record of a commit names an owner's approval, and the visit that made the
commit had an approving resume command of that owner before it. -/
theorem commits_owner_approved (hbuild : buildBootstrapPolicy texts policyVersion = .ok policy)
    {c₀ : Config} {tr : List (Transition Config Act)} (hclean : CleanCase c₀)
    (hrun : Run (SessionStep (policyRegistry policy) sharedGraph) c₀ tr c) :
    (∀ ref ∈ c.state.artifactRefs, OwnerApproved ref) ∧
      ∀ t ∈ tr, ∀ visit, t.label = .node visit → visit.replayed = false →
        ∀ ref ∈ visit.execution.artifactRefs, ∀ now phaseId patchDigest commit baseRevision failure
          approval actorId, ref.contentDigest = .repositoryApplyResult now phaseId patchDigest
            (some commit) baseRevision failure approval actorId →
          ∃ command, t.before.state.resumeCommand = some command ∧
            command.decision = "approve" ∧ actorId = some command.actorId := by
  have hall : CleanCase c := hrun.invariant hclean fun _ _ _ hc hstep => hc.step hbuild hstep
  refine ⟨hall.state, ?_⟩
  intro t ht visit hlabel hfresh ref href now phaseId patchDigest commit baseRevision failure
    approval actorId hcontent
  obtain ⟨_, _, hstep⟩ := hrun.step_of_mem ht
  rw [hlabel] at hstep
  obtain ⟨answers, _, _, _, hsource, _⟩ := GraphStep.spec hstep
  cases hsource with
  | replay hflag _ _ =>
    rw [hflag] at hfresh
    cases hfresh
  | fresh node _ _ hnode hhandler _ _ =>
    obtain ⟨hmem, hnodeHandler⟩ := policyRegistry_some hnode
    rw [hnodeHandler] at hhandler
    have htype : ref.artifactType = .repositoryApplyResult := by
      rw [ArtifactRef.artifactType, hcontent]
      rfl
    have hnode : visit.node = ⟨.S06, 90⟩ := by
      refine applyResult_writers visit.node hmem ?_
      rw [← htype]
      exact (nodeHandler_writes _ _ _ _ hhandler).type_mem href
    rw [hnode] at hhandler
    obtain ⟨command, hcommand, hdecision, _, hactor⟩ := handleS0690_commit hhandler
      (fun _ hd => policy_never_allows hbuild hd) href hcontent
    exact ⟨command, hcommand, hdecision, hactor⟩

end Sessions

/-! A kept patch whose commit an owner has just approved. -/

def keptPatch : Artifact := .patchArtifact 0 .absent .absent "p1" [] "head" ["a.py"] "diff" [] []

def ownerCommand : ResumeInterruptCommand :=
  ⟨"tenant", "case", "thread", "case-S06-APPLY", "mara", ["owner"], "approve", keptPatch, "v1"⟩

def approvedCase : Config :=
  ⟨some ⟨.S06, 90⟩,
   { caseId := "case", threadId := "thread", tenantId := "tenant",
     artifactRefs := [⟨.base, .sourceSnapshot ⟨"repo", some "head"⟩⟩,
       ⟨.phasePass ⟨.S03, 80⟩ "p1" 0, keptPatch⟩],
     s03ActivePhaseId := some "p1", s06Decision := some .keep,
     resumeCommand := some ownerCommand }, ∅⟩

def committedResult : Artifact :=
  .repositoryApplyResult 0 "p1" keptPatch (some ("optimizer/case-p1", "sha")) "head" none .approved
    (some "mara")

def repositoryPolicy : DeterministicPythonPolicy := ⟨"v1", bootstrapDecisions ⟨fun _ => ""⟩ "v1"⟩

theorem cleanCase_approvedCase : CleanCase approvedCase := by
  refine ⟨?_, ?_⟩
  · intro ref href now phaseId patchDigest commit baseRevision failure approval actorId hcontent
    rcases List.mem_cons.mp href with rfl | href
    · cases hcontent
    · rw [List.mem_singleton.mp href] at hcontent
      cases hcontent
  · intro key execution hcached
    rw [approvedCase, Ledger.cached_empty] at hcached
    cases hcached

theorem approved_commit : ∃ tr c,
    Run (SessionStep (policyRegistry repositoryPolicy) sharedGraph) approvedCase tr c ∧
      (∃ ref ∈ c.state.artifactRefs, ref.contentDigest = committedResult) ∧
      ∀ ref ∈ c.state.artifactRefs, OwnerApproved ref := by
  have hcheck : ((advance (policyRegistry repositoryPolicy) nextPosition approvedCase
      sampleAnswers).any fun out =>
        out.2.state.artifactRefs.any (·.contentDigest == committedResult)) = true := by
    decide +kernel
  cases hadvance : advance (policyRegistry repositoryPolicy) nextPosition approvedCase
    sampleAnswers with
  | none =>
    rw [hadvance] at hcheck
    cases hcheck
  | some out =>
    rw [hadvance] at hcheck
    have hstep : SessionStep (policyRegistry repositoryPolicy) sharedGraph approvedCase
        (.node out.1) out.2 :=
      graphStep_of_advance (policyRegistry repositoryPolicy) (firstNode .S01) nextPosition hadvance
    have hrun := Run.nil.snoc hstep
    obtain ⟨ref, href, hcontent⟩ := List.any_eq_true.mp hcheck
    exact ⟨_, _, hrun, ⟨ref, href, by simpa using hcontent⟩,
      (commits_owner_approved (buildBootstrapPolicy_eq (by decide +kernel))
        cleanCase_approvedCase hrun).1⟩

end ProductionOptimizer
