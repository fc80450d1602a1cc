import Mathlib.Data.List.Sort
import Mathlib.Data.String.Basic
import ProductionOptimizer.Contracts.Nodes

/-!
# Refs, digests and stored bytes

Here digests, the bytes in the store and the models they parse to are three different
things, and refs keep the order of their ids. `Codec` is what pydantic and SHA-256 do.
-/

namespace ProductionOptimizer
set_option autoImplicit false

inductive SealedType where
  | optimizationRequest
  | sourceSnapshot
  | baselineSnapshot
  | evidenceBundle
  | findingSet
  | solutionStrategySet
  | a3QualityReport
  | revisionDirective
  | solutionPortfolio
  | qualifiedOpportunity
  | proposalEnvelope
  | convergenceDecision
  | selectedSolution
  | executionPlan
  | taskList
  | patchArtifact
  | executionProvenance
  | verificationReport
  | measurement
  | decision
  deriving DecidableEq, Repr

def SealedType.name : SealedType → String
  | .optimizationRequest => "OptimizationRequest"
  | .sourceSnapshot => "SourceSnapshot"
  | .baselineSnapshot => "BaselineSnapshot"
  | .evidenceBundle => "EvidenceBundle"
  | .findingSet => "FindingSet"
  | .solutionStrategySet => "SolutionStrategySet"
  | .a3QualityReport => "A3QualityReport"
  | .revisionDirective => "RevisionDirective"
  | .solutionPortfolio => "SolutionPortfolio"
  | .qualifiedOpportunity => "QualifiedOpportunity"
  | .proposalEnvelope => "ProposalEnvelope"
  | .convergenceDecision => "ConvergenceDecision"
  | .selectedSolution => "SelectedSolution"
  | .executionPlan => "ExecutionPlan"
  | .taskList => "TaskList"
  | .patchArtifact => "PatchArtifact"
  | .executionProvenance => "ExecutionProvenance"
  | .verificationReport => "VerificationReport"
  | .measurement => "Measurement"
  | .decision => "Decision"

inductive DigestField where
  | requestDigest
  | sourceSnapshotDigest
  | baselineDigest
  | evidenceBundleDigest
  | findingSetDigest
  | qualityReportDigest
  | solutionPortfolioDigest
  | qualifiedOpportunityDigest
  | selectedSolutionDigest
  | executionPlanDigest
  | executionProvenanceDigest
  | patchDigest
  | measurementDigest
  | verificationDigest
  deriving DecidableEq, Repr

structure A3Finding where
  findingId : String
  supportingEvidenceIds : List String
  verifiedCause : Bool
  trustedT4 : Bool
  deriving DecidableEq, Repr

structure A3Strategy where
  strategyId : String
  findingIds : List String
  strategyTradeoffs : String
  eligible : Bool
  gateReasons : List String
  deriving DecidableEq, Repr

structure QualityGateResult where
  dimension : String
  passed : Bool
  detail : String
  deriving DecidableEq, Repr

inductive Origin where
  | manual
  | automatic
  deriving DecidableEq, Repr

/-- The fields of an artifact that are not digests, as far as a modelled node reads or
writes them; `text` is the content of all other artifacts. -/
inductive Body where
  | optimizationRequest (origin : Origin) (workloadId environmentId : String)
      (maximumModelTokens : Nat)
  | sourceSnapshot (canonicalPathRef : String) (gitRevision : Option String)
  | baselineSnapshot (workloadId environmentId : String)
  | evidenceBundle (observedAts : List Nat)
  | findingSet (findings : List A3Finding)
  | strategies (strategies : List A3Strategy)
  | a3QualityReport (passed : Bool) (results : List QualityGateResult)
  | revisionDirective (attemptNumber : Nat) (targetedFindingIds targetedStrategyIds : List String)
      (reason : String)
  | convergenceDecision (converged : Bool) (reasons : List String)
  | text (content : String)
  deriving DecidableEq, Repr

structure SealedModel (D : Type) where
  artifactType : SealedType
  artifactId : String
  createdAt : Nat
  digests : List (DigestField × D)
  body : Body
  deriving DecidableEq, Repr

def SealedModel.digest {D : Type} (m : SealedModel D) (field : DigestField) : Option D :=
  m.digests.lookup field

structure SealedRef (D : Type) where
  artifactType : SealedType
  artifactId : String
  contentDigest : D
  deriving DecidableEq, Repr

/-- Canonical JSON, `model_validate` for the class of a type, and the hash. -/
structure Codec (D B : Type) where
  canonicalJson : SealedModel D → B
  validate : SealedType → B → Option (SealedModel D)
  sha256 : B → D

/-- The objects of one tenant. The key of an object is the digest it was put under. -/
abbrev ObjectStore (D B : Type) := D → Option B

inductive CaseFailure where
  | missingRef (t : SealedType)
  | missingStageRef (artifactId : String)
  | objectNotFound (t : SealedType)
  | validationError (t : SealedType)
  | originMismatch
  | missingPhase
  | artifactConflict (t : SealedType) (artifactId : String)
  deriving DecidableEq, Repr

namespace SealedRef
variable {D : Type}

/-- The order of `sorted` on the pairs (type, id). -/
def le (a b : SealedRef D) : Prop :=
  a.artifactType.name < b.artifactType.name ∨
    (a.artifactType.name = b.artifactType.name ∧ a.artifactId ≤ b.artifactId)

instance : DecidableRel (le (D := D)) :=
  fun _ _ => inferInstanceAs (Decidable (_ ∨ _))

instance : Std.Total (le (D := D)) where
  total a b := by
    unfold le
    rcases lt_trichotomy a.artifactType.name b.artifactType.name with h | h | h
    · exact Or.inl (Or.inl h)
    · rcases le_total a.artifactId b.artifactId with hid | hid
      · exact Or.inl (Or.inr ⟨h, hid⟩)
      · exact Or.inr (Or.inr ⟨h.symm, hid⟩)
    · exact Or.inr (Or.inl h)

instance : IsTrans (SealedRef D) le where
  trans a b c hab hbc := by
    unfold le at *
    rcases hab with hab | ⟨hab, hida⟩
    · rcases hbc with hbc | ⟨hbc, _⟩
      · exact Or.inl (hab.trans hbc)
      · exact Or.inl (hbc ▸ hab)
    · rcases hbc with hbc | ⟨hbc, hidb⟩
      · exact Or.inl (hab ▸ hbc)
      · exact Or.inr ⟨hab.trans hbc, hida.trans hidb⟩

end SealedRef

section Refs
variable {D : Type} [DecidableEq D]

/-- One round of the loop of `merge_artifact_refs`, before the final sort. -/
def mergeSealedRef (merged : List (SealedRef D)) (ref : SealedRef D) :
    Except CaseFailure (List (SealedRef D)) :=
  match merged.find? fun r => r.artifactType == ref.artifactType && r.artifactId == ref.artifactId with
  | none => .ok (merged ++ [ref])
  | some existing =>
    if existing.contentDigest = ref.contentDigest then .ok merged
    else .error (.artifactConflict ref.artifactType ref.artifactId)

/-- `merge_artifact_refs`: the left list is one this function returned, so its keys are
distinct already. -/
def mergeSealedRefs (left right : List (SealedRef D)) : Except CaseFailure (List (SealedRef D)) := do
  let merged ← right.foldlM mergeSealedRef left
  .ok (merged.insertionSort SealedRef.le)

theorem mem_mergeSealedRef {merged out : List (SealedRef D)} {ref : SealedRef D}
    (h : mergeSealedRef merged ref = .ok out) (r : SealedRef D) :
    r ∈ out ↔ r ∈ merged ∨ r = ref := by
  unfold mergeSealedRef at h
  split at h
  · cases h
    simp
  · rename_i existing hfind
    split at h
    · rename_i hdigest
      cases h
      have hkey := List.find?_some hfind
      simp only [Bool.and_eq_true, beq_iff_eq] at hkey
      have hsame : existing = ref := by
        cases existing
        cases ref
        simp_all
      have hmem := List.mem_of_find?_eq_some hfind
      rw [hsame] at hmem
      exact ⟨Or.inl, fun hr => hr.elim id fun heq => heq ▸ hmem⟩
    · cases h

theorem mem_foldlM_merge {right left out : List (SealedRef D)}
    (h : right.foldlM mergeSealedRef left = .ok out) (r : SealedRef D) :
    r ∈ out ↔ r ∈ left ∨ r ∈ right := by
  induction right generalizing left with
  | nil =>
    cases h
    simp
  | cons ref right ih =>
    rw [List.foldlM_cons] at h
    cases hmerge : mergeSealedRef left ref with
    | error e =>
      rw [hmerge] at h
      cases h
    | ok merged =>
      rw [hmerge] at h
      rw [ih h, mem_mergeSealedRef hmerge, List.mem_cons, or_assoc]

theorem mergeSealedRefs_ok {left right out : List (SealedRef D)}
    (h : mergeSealedRefs left right = .ok out) :
    out.Pairwise SealedRef.le ∧ ∀ r, r ∈ out ↔ r ∈ left ∨ r ∈ right := by
  unfold mergeSealedRefs at h
  cases hmerged : right.foldlM mergeSealedRef left with
  | error e =>
    rw [hmerged] at h
    cases h
  | ok merged =>
    rw [hmerged] at h
    cases h
    refine ⟨List.pairwise_insertionSort _ _, fun r => ?_⟩
    rw [List.mem_insertionSort, mem_foldlM_merge hmerged]

omit [DecidableEq D] in
theorem find_least {refs : List (SealedRef D)} (hsorted : refs.Pairwise SealedRef.le)
    {t : SealedType} {ref other : SealedRef D}
    (hfind : refs.find? (·.artifactType == t) = some ref) (hmem : other ∈ refs)
    (htype : other.artifactType = t) : ref.artifactId ≤ other.artifactId := by
  have href : ref.artifactType = t := by simpa using List.find?_some hfind
  obtain ⟨_, earlier, later, hsplit, hearlier⟩ := List.find?_eq_some_iff_append.mp hfind
  rw [hsplit] at hmem hsorted
  rcases List.mem_append.mp hmem with hmem | hmem
  · have hnot := hearlier other hmem
    rw [htype] at hnot
    simp at hnot
  · rcases List.mem_cons.mp hmem with rfl | hmem
    · exact le_rfl
    · have hle := (List.pairwise_cons.mp (List.pairwise_append.mp hsorted).2.1).1 other hmem
      rcases hle with hlt | ⟨_, hid⟩
      · rw [href, htype] at hlt
        exact absurd hlt (lt_irrefl _)
      · exact hid

end Refs

end ProductionOptimizer
