import Mathlib.Data.String.Basic
import Mathlib.Tactic.Linarith

/-!
# The length of derived identifiers

A command is accepted with a case and a tenant of up to 100 characters. Every envelope, every
interrupt and every object key of the case is named after them, in fields that hold 100
characters themselves.
-/

namespace ProductionOptimizer.IdentifierLengths
set_option autoImplicit false

/-! ### What a case derives -/

inductive Entrypoint where
  | manual
  | discovery
  | qualified
  deriving DecidableEq, Repr

/-- The identifiers of an accepted `StartWorkflowCommand`. -/
structure StartWorkflowCommand where
  entrypoint : Entrypoint
  tenantId : String
  caseId : String
  tenantId_length : 1 ≤ tenantId.length ∧ tenantId.length ≤ 100
  caseId_length : 1 ≤ caseId.length ∧ caseId.length ≤ 100

/-- The hexadecimal part of a `content_digest`. -/
structure Digest where
  hex : String
  length_eq : hex.length = 64

/-- The name of a bucket, which has at most 63 characters. -/
structure Bucket where
  name : String
  length_le : name.length ≤ 63

/-- A field of a contract with the text that goes into it. -/
structure Field where
  text : String
  maxLength : Option Nat

def Field.Admitted (field : Field) : Prop :=
  1 ≤ field.text.length ∧ ∀ bound ∈ field.maxLength, field.text.length ≤ bound

inductive Subgraph where
  | A1 | A2 | A3 | B1 | B2 | C0 | S01 | S02 | S06
  deriving DecidableEq, Repr

/-- What the graphs under an entry point run, the artifacts of the phases aside. A scan ends
with its baseline; B2 goes through A3. -/
def subgraphs : Entrypoint → List Subgraph
  | .manual => [.A1, .A2, .A3, .C0, .S01, .S02, .S06]
  | .discovery => [.B1, .A2]
  | .qualified => [.B2, .A3, .C0, .S01, .S02, .S06]

/-- The artifact types named by case and type only. -/
def baseTypes : Subgraph → List String
  | .A1 => ["IntakeEnvelope", "RawRequestDraft", "LocalSourceIdentity", "ProjectProfile",
      "FeatureScope", "CanonicalObjective", "CriterionSet", "GuardrailSet",
      "ExecutionBudgetArtifact", "WorkloadIdentity", "EvidenceRequirementSet",
      "A1QualityReport", "A1ApprovalDecision", "OptimizationRequest"]
  | .A2 => ["A2IntakeDecision", "SourceSnapshot", "RepositoryManifest", "VerificationManifest",
      "CollectorPlan", "EnvironmentManifest", "ExecutionAuthorization", "RawEvidenceFanIn",
      "NormalizedEvidenceSet", "EvidenceBundle", "EvidenceQualityReport",
      "ComparabilityReport", "BaselineSnapshot"]
  | .A3 => ["A3IntakeDecision", "EvidenceCatalog", "ProblemSignalSet", "PrioritizedSignalSet",
      "FindingDraftSet", "CitationResolutionReportSet", "FindingJudgementSet", "FindingSet",
      "SolutionPortfolio"]
  | .B1 => ["DiscoveryScanContext", "RegisteredSourceSet", "ObservedSourceIdentity",
      "HistoricalSourceInventory", "ReadAuthorization", "DetectionReport",
      "OptimizationRequest", "QualifiedOpportunity"]
  | .B2 => ["ProposalEnvelope"]
  | .C0 => ["ConvergenceDecision", "ConvergedCase"]
  | .S01 => []
  | .S02 => ["ExecutionPlan", "TaskList"]
  | .S06 => []

/-- The artifacts named by their node too. -/
def nodeTypes : Subgraph → List (String × String)
  | .A2 => ["A2.60", "A2.61", "A2.62", "A2.63", "A2.64"].map (·, "BranchEvidenceRefs")
  | .A3 => ["A3.30", "A3.31", "A3.32", "A3.33"].map (·, "AnalyzerObservationBranch")
  | .B1 => ["B1.32", "B1.33", "B1.34", "B1.35"].map (·, "HistoricalEvidenceBranch")
  | _ => []

/-- The artifacts named by node and pass. -/
def passTypes : Subgraph → List (String × String)
  | .A3 => ["A3.60", "A3.61", "A3.62", "A3.63", "A3.64", "A3.70"].map (·, "StrategyDraftSet") ++
      [("A3.80", "SolutionStrategySet"), ("A3.81", "A3QualityReport"),
        ("A3.82", "RevisionDirective")]
  | .S01 => [("S01.80", "RankingResult"), ("S01.90", "SelectedSolution")]
  | .S02 => [("S02.81", "PlanQualityReport")]
  | _ => []

/-- The artifacts named by node, phase and pass, up to the decision. -/
def phaseTypes : List (String × String) :=
  [("S03.80", "ExecutionProvenance"), ("S03.80", "PatchArtifact"),
    ("S04.90", "VerificationReport"), ("S05.20", "IsolationReport"),
    ("S05.70", "ComparabilityReport"), ("S05.80", "StatisticalReport"),
    ("S05.90", "Measurement"), ("S06.60", "RollbackReport"), ("S06.80", "Decision")]

def interrupts : Subgraph → List String
  | .A1 => ["A1-CLARIFICATION", "A1-APPROVAL"]
  | .A2 => ["A2-EVIDENCE-REQUIRED", "A2-COMMAND-APPROVAL"]
  | .S01 => ["S01-SELECTION"]
  | .S02 => ["S02-PLAN"]
  | .S06 => ["S06-APPLY"]
  | _ => []

/-- `_base_envelope`, and the interrupts in the same form. -/
def baseArtifactId (caseId artifactType : String) : String := caseId ++ "-" ++ artifactType

def stageArtifactId (caseId nodeId artifactType : String) : String :=
  caseId ++ "-" ++ nodeId ++ "-" ++ artifactType

def passStageId (nodeId : String) (pass : Nat) : String := nodeId ++ "-pass" ++ toString pass

def phaseStageId (nodeId phaseId : String) (pass : Nat) : String :=
  nodeId ++ "-" ++ phaseId ++ "-pass" ++ toString pass

/-- `_object_key`. -/
def objectKey (tenantId : String) (digest : Digest) : String := tenantId ++ "/" ++ digest.hex

def objectUri (bucket : Bucket) (key : String) : String := "s3://" ++ bucket.name ++ "/" ++ key

/-- The course of a case: the passes of its subgraphs, the passes over the phases of its plan,
those of them that were applied and reported, what it stores and the jobs it submits. -/
structure Course where
  passes : Subgraph → List Nat
  phasePasses : List (String × Nat)
  applied : List (String × Nat)
  bucket : Bucket
  digests : List Digest
  stored : digests ≠ []
  commandIds : List String
  checkKinds : List String
  criterionIds : List String

section Derived
variable (command : StartWorkflowCommand) (course : Course)

def graphIds (g : Subgraph) : List String :=
  (baseTypes g).map (baseArtifactId command.caseId) ++
    (nodeTypes g).map (fun t => stageArtifactId command.caseId t.1 t.2) ++
    ((course.passes g).flatMap fun pass =>
      (passTypes g).map fun t => stageArtifactId command.caseId (passStageId t.1 pass) t.2)

def phaseIds (phase : String × Nat) : List String :=
  phaseTypes.map fun t => stageArtifactId command.caseId (phaseStageId t.1 phase.1 phase.2) t.2

def appliedIds (phase : String × Nat) : List String :=
  [stageArtifactId command.caseId (phaseStageId "S06.90" phase.1 phase.2) "RepositoryApplyResult",
    stageArtifactId command.caseId (phaseStageId "S07.80" phase.1 0) "OptimizationReport"]

/-- A scan has no phases. -/
def envelopeIds : List String :=
  (subgraphs command.entrypoint).flatMap (graphIds command course) ++
    match command.entrypoint with
    | .discovery => []
    | _ => course.phasePasses.flatMap (phaseIds command) ++
        course.applied.flatMap (appliedIds command)

def interruptIds : List String :=
  ((subgraphs command.entrypoint).flatMap interrupts).map (baseArtifactId command.caseId)

def jobIds : List String :=
  course.commandIds.map (fun id => command.caseId ++ ":A2.50:" ++ id) ++
    course.checkKinds.map (fun kind => command.caseId ++ "-S04-" ++ kind) ++
    course.criterionIds.map (fun id => command.caseId ++ "-S05-" ++ id)

/-- The artifact id of the envelope and of its reference, the interrupt id of the answer, the
reference to the stored object, and the jobs, whose id has no upper bound. -/
def derivedFields : List Field :=
  (envelopeIds command course).map (⟨·, some 100⟩) ++
    (interruptIds command).map (⟨·, some 100⟩) ++
    course.digests.map (fun digest => ⟨objectKey command.tenantId digest, some 100⟩) ++
    course.digests.map (fun digest =>
      ⟨objectUri course.bucket (objectKey command.tenantId digest), some 2048⟩) ++
    (jobIds command course).map (⟨·, none⟩)

end Derived

def digitCount (n : Nat) : Nat := (toString n).length

/-- The lengths that leave room for what the fields add. -/
structure Fits (command : StartWorkflowCommand) (course : Course) : Prop where
  tenant : command.tenantId.length ≤ 35
  case : command.caseId.length ≤ if command.entrypoint = .discovery then 69 else 68
  revisions : command.entrypoint ≠ .discovery →
    (∀ pass ∈ course.passes .A3, command.caseId.length + digitCount pass ≤ 69) ∧
    (∀ pass ∈ course.passes .S01, command.caseId.length + digitCount pass ≤ 71) ∧
    ∀ pass ∈ course.passes .S02, command.caseId.length + digitCount pass ≤ 70
  phases : command.entrypoint ≠ .discovery →
    (∀ phase ∈ course.phasePasses,
      command.caseId.length + phase.1.length + digitCount phase.2 ≤ 67) ∧
    ∀ phase ∈ course.applied,
      command.caseId.length + phase.1.length + digitCount phase.2 ≤ 65

/-! ### Lengths -/

/-- What a table of lengths asks of the rest of a text. -/
theorem forall_add_le_iff (lengths : List Nat) (k b : Nat) :
    (∀ n ∈ lengths, k + n ≤ b) ↔ lengths = [] ∨ k + lengths.foldr max 0 ≤ b := by
  induction lengths with
  | nil => simp
  | cons n lengths ih =>
    rw [List.forall_mem_cons, ih, List.foldr_cons]
    constructor
    · intro h
      right
      rcases h with ⟨hn, rfl | hrest⟩
      · simpa using hn
      · omega
    · intro h
      rcases h with h | h
      · cases h
      · refine ⟨by omega, Or.inr (by omega)⟩

/-- Hyphens and fixed words included. -/
def fixedLengths (g : Subgraph) : List Nat :=
  (baseTypes g).map (1 + ·.length) ++ (nodeTypes g).map (fun t => 2 + t.1.length + t.2.length) ++
    (interrupts g).map (1 + ·.length)

def passLengths (g : Subgraph) : List Nat :=
  (passTypes g).map fun t => 7 + t.1.length + t.2.length

def phaseLengths : List Nat := phaseTypes.map fun t => 8 + t.1.length + t.2.length

/-- The longest fixed part of an identifier of the subgraph. -/
def longest : Subgraph → Nat
  | .A1 => 24
  | .A2 => 25
  | .A3 => 32
  | .B1 => 31
  | .B2 => 17
  | .C0 => 20
  | .S01 => 14
  | .S02 => 14
  | .S06 => 10

/-- The same of those with a pass in them, the pass itself aside. -/
def longestPass : Subgraph → Option Nat
  | .A3 => some 31
  | .S01 => some 29
  | .S02 => some 30
  | _ => none

theorem forall_fixedLengths_iff (g : Subgraph) (k b : Nat) :
    (∀ n ∈ fixedLengths g, k + n ≤ b) ↔ k + longest g ≤ b := by
  have hne : fixedLengths g ≠ [] := by cases g <;> decide
  have hmax : (fixedLengths g).foldr max 0 = longest g := by cases g <;> decide +kernel
  rw [forall_add_le_iff, or_iff_right hne, hmax]

theorem forall_passLengths_iff (g : Subgraph) (k b : Nat) :
    (∀ n ∈ passLengths g, k + n ≤ b) ↔ ∀ n ∈ longestPass g, k + n ≤ b := by
  rw [forall_add_le_iff]
  cases hpass : longestPass g with
  | none =>
    have hempty : passLengths g = [] := by
      cases g <;> first | rfl | cases hpass
    simp [hempty]
  | some m =>
    have hne : passLengths g ≠ [] := by
      cases g <;> first | decide | cases hpass
    have hmax : (passLengths g).foldr max 0 = m := by
      cases g <;> cases hpass <;> decide +kernel
    simp [hne, hmax]

theorem hyphen_length : "-".length = 1 := rfl
theorem pass_length : "-pass".length = 5 := rfl
theorem slash_length : "/".length = 1 := rfl
theorem scheme_length : "s3://".length = 5 := rfl

theorem baseArtifactId_length (caseId t : String) :
    (baseArtifactId caseId t).length = caseId.length + (1 + t.length) := by
  simp only [baseArtifactId, String.length_append, hyphen_length]
  omega

theorem stageArtifactId_length (caseId node t : String) :
    (stageArtifactId caseId node t).length = caseId.length + (2 + node.length + t.length) := by
  simp only [stageArtifactId, String.length_append, hyphen_length]
  omega

theorem passStageId_length (node : String) (pass : Nat) :
    (passStageId node pass).length = node.length + 5 + digitCount pass := by
  simp only [passStageId, String.length_append, pass_length, digitCount]

theorem phaseStageId_length (node phase : String) (pass : Nat) :
    (phaseStageId node phase pass).length = node.length + phase.length + 6 + digitCount pass := by
  simp only [phaseStageId, String.length_append, hyphen_length, pass_length, digitCount]
  omega

theorem objectKey_length (tenantId : String) (digest : Digest) :
    (objectKey tenantId digest).length = tenantId.length + 65 := by
  simp only [objectKey, String.length_append, slash_length, digest.length_eq]

theorem objectUri_length (bucket : Bucket) (key : String) :
    (objectUri bucket key).length = bucket.name.length + key.length + 6 := by
  simp only [objectUri, String.length_append, slash_length, scheme_length]
  omega

section Iff
variable (command : StartWorkflowCommand) (course : Course)

/-- The identifiers of one subgraph fit when their fixed parts and their passes do. -/
theorem graphIds_fit_iff (g : Subgraph) :
    ((∀ id ∈ graphIds command course g, id.length ≤ 100) ∧
      ∀ t ∈ interrupts g, (baseArtifactId command.caseId t).length ≤ 100) ↔
    command.caseId.length + longest g ≤ 100 ∧
      ∀ pass ∈ course.passes g, ∀ n ∈ longestPass g,
        command.caseId.length + digitCount pass + n ≤ 100 := by
  have hpass : ∀ pass : Nat, ∀ t : String × String,
      (stageArtifactId command.caseId (passStageId t.1 pass) t.2).length =
        command.caseId.length + digitCount pass + (7 + t.1.length + t.2.length) := by
    intro pass t
    rw [stageArtifactId_length, passStageId_length]
    omega
  simp only [← forall_fixedLengths_iff, ← forall_passLengths_iff]
  simp only [graphIds, fixedLengths, passLengths, List.forall_mem_append, List.forall_mem_map,
    List.forall_mem_flatMap, hpass, baseArtifactId_length, stageArtifactId_length]
  constructor
  · intro h
    obtain ⟨⟨⟨hbase, hnode⟩, hpasses⟩, hinterrupts⟩ := h
    exact ⟨⟨⟨hbase, hnode⟩, hinterrupts⟩, hpasses⟩
  · intro h
    obtain ⟨⟨⟨hbase, hnode⟩, hinterrupts⟩, hpasses⟩ := h
    exact ⟨⟨⟨hbase, hnode⟩, hpasses⟩, hinterrupts⟩

theorem phaseIds_fit_iff (phase : String × Nat) :
    (∀ id ∈ phaseIds command phase, id.length ≤ 100) ↔
      command.caseId.length + phase.1.length + digitCount phase.2 ≤ 67 := by
  have hlength : ∀ t : String × String,
      (stageArtifactId command.caseId (phaseStageId t.1 phase.1 phase.2) t.2).length =
        command.caseId.length + phase.1.length + digitCount phase.2 +
          (8 + t.1.length + t.2.length) := by
    intro t
    rw [stageArtifactId_length, phaseStageId_length]
    omega
  have htable := forall_add_le_iff phaseLengths
    (command.caseId.length + phase.1.length + digitCount phase.2) 100
  have hmax : phaseLengths.foldr max 0 = 33 := by decide +kernel
  have hne : phaseLengths ≠ [] := by decide
  rw [hmax, or_iff_right hne, phaseLengths, List.forall_mem_map] at htable
  simp only [phaseIds, List.forall_mem_map, hlength]
  rw [htable]
  omega

theorem appliedIds_fit_iff (phase : String × Nat) :
    (∀ id ∈ appliedIds command phase, id.length ≤ 100) ↔
      command.caseId.length + phase.1.length + digitCount phase.2 ≤ 65 := by
  have hzero : digitCount 0 = 1 := rfl
  have happly : "RepositoryApplyResult".length = 21 := rfl
  have hreport : "OptimizationReport".length = 18 := rfl
  have happlyNode : "S06.90".length = 6 := rfl
  have hreportNode : "S07.80".length = 6 := rfl
  have hdigits : 0 < digitCount phase.2 := Nat.length_repr_pos
  simp only [appliedIds, List.forall_mem_cons, List.not_mem_nil, false_imp_iff, implies_true,
    and_true, stageArtifactId_length, phaseStageId_length, hzero, happly, hreport, happlyNode,
    hreportNode]
  omega

theorem one_le_base (t : String) : 1 ≤ (baseArtifactId command.caseId t).length := by
  have hcase := command.caseId_length.1
  rw [baseArtifactId_length]
  omega

theorem one_le_stage (node t : String) :
    1 ≤ (stageArtifactId command.caseId node t).length := by
  have hcase := command.caseId_length.1
  rw [stageArtifactId_length]
  omega

theorem one_le_envelopeIds : ∀ id ∈ envelopeIds command course, 1 ≤ id.length := by
  intro id hid
  rcases List.mem_append.mp hid with hid | hid
  · obtain ⟨g, -, hg⟩ := List.mem_flatMap.mp hid
    simp only [graphIds, List.mem_append, List.mem_map, List.mem_flatMap] at hg
    rcases hg with (⟨t, -, rfl⟩ | ⟨t, -, rfl⟩) | ⟨pass, -, t, -, rfl⟩
    · exact one_le_base command t
    · exact one_le_stage command _ _
    · exact one_le_stage command _ _
  · have hphase : id ∈ course.phasePasses.flatMap (phaseIds command) ++
        course.applied.flatMap (appliedIds command) := by
      cases hentry : command.entrypoint <;> rw [hentry] at hid
      · exact hid
      · cases hid
      · exact hid
    simp only [List.mem_append, List.mem_flatMap, phaseIds, appliedIds, List.mem_map,
      List.mem_cons, List.not_mem_nil, or_false] at hphase
    rcases hphase with ⟨phase, -, t, -, rfl⟩ | ⟨phase, -, rfl | rfl⟩
    · exact one_le_stage command _ _
    · exact one_le_stage command _ _
    · exact one_le_stage command _ _

/-- Only upper bounds matter, and only those of 100 characters. -/
theorem fields_admitted_iff : (∀ field ∈ derivedFields command course, field.Admitted) ↔
    (∀ id ∈ envelopeIds command course, id.length ≤ 100) ∧
      (∀ id ∈ interruptIds command, id.length ≤ 100) ∧ command.tenantId.length ≤ 35 := by
  have htenant := command.tenantId_length
  have hcase := command.caseId_length
  have hbounded : ∀ text : String, ∀ bound : Nat, 1 ≤ text.length →
      ((⟨text, some bound⟩ : Field).Admitted ↔ text.length ≤ bound) := by
    intro text bound htext
    simp [Field.Admitted, htext]
  have hkeys : (∀ digest ∈ course.digests,
      (⟨objectKey command.tenantId digest, some 100⟩ : Field).Admitted) ↔
      command.tenantId.length ≤ 35 := by
    have heach : ∀ digest : Digest,
        (⟨objectKey command.tenantId digest, some 100⟩ : Field).Admitted ↔
          command.tenantId.length ≤ 35 := by
      intro digest
      rw [hbounded _ _ (by rw [objectKey_length]; omega), objectKey_length]
      omega
    obtain ⟨digest, hdigest⟩ := List.exists_mem_of_ne_nil _ course.stored
    constructor
    · intro h
      exact (heach digest).mp (h digest hdigest)
    · intro h digest _
      exact (heach digest).mpr h
  have huris : ∀ digest ∈ course.digests,
      (⟨objectUri course.bucket (objectKey command.tenantId digest), some 2048⟩ :
        Field).Admitted := by
    intro digest _
    have hbucket := course.bucket.length_le
    rw [hbounded _ _ (by rw [objectUri_length, objectKey_length]; omega), objectUri_length,
      objectKey_length]
    omega
  have hjobs : ∀ id ∈ jobIds command course, (⟨id, none⟩ : Field).Admitted := by
    intro id hid
    refine ⟨?_, fun bound hbound => by cases hbound⟩
    simp only [jobIds, List.mem_append, List.mem_map] at hid
    rcases hid with (⟨x, -, rfl⟩ | ⟨x, -, rfl⟩) | ⟨x, -, rfl⟩
    all_goals
      simp only [String.length_append]
      omega
  have henvelopes : (∀ id ∈ envelopeIds command course,
      (⟨id, some 100⟩ : Field).Admitted) ↔
        ∀ id ∈ envelopeIds command course, id.length ≤ 100 :=
    forall₂_congr fun id hid => hbounded id 100 (one_le_envelopeIds command course id hid)
  have hinterrupts : (∀ id ∈ interruptIds command, (⟨id, some 100⟩ : Field).Admitted) ↔
        ∀ id ∈ interruptIds command, id.length ≤ 100 := by
    apply forall₂_congr
    intro id hid
    obtain ⟨t, -, rfl⟩ := List.mem_map.mp hid
    exact hbounded _ 100 (one_le_base command t)
  simp only [derivedFields, List.forall_mem_append, List.forall_mem_map, henvelopes, hinterrupts,
    hkeys]
  constructor
  · intro h
    exact ⟨h.1.1.1.1, h.1.1.1.2, h.1.1.2⟩
  · intro h
    exact ⟨⟨⟨⟨h.1, h.2.1⟩, h.2.2⟩, huris⟩, hjobs⟩

/-- The subgraphs of the entry point one by one, and then the phases. -/
theorem ids_fit_iff :
    ((∀ id ∈ envelopeIds command course, id.length ≤ 100) ∧
      ∀ id ∈ interruptIds command, id.length ≤ 100) ↔
    (∀ g ∈ subgraphs command.entrypoint, command.caseId.length + longest g ≤ 100 ∧
      ∀ pass ∈ course.passes g, ∀ n ∈ longestPass g,
        command.caseId.length + digitCount pass + n ≤ 100) ∧
    (command.entrypoint ≠ .discovery →
      (∀ phase ∈ course.phasePasses,
        command.caseId.length + phase.1.length + digitCount phase.2 ≤ 67) ∧
      ∀ phase ∈ course.applied,
        command.caseId.length + phase.1.length + digitCount phase.2 ≤ 65) := by
  have hphases : (∀ id ∈ (match command.entrypoint with
      | .discovery => []
      | _ => course.phasePasses.flatMap (phaseIds command) ++
          course.applied.flatMap (appliedIds command) : List String), id.length ≤ 100) ↔
      (command.entrypoint ≠ .discovery →
        (∀ phase ∈ course.phasePasses,
          command.caseId.length + phase.1.length + digitCount phase.2 ≤ 67) ∧
        ∀ phase ∈ course.applied,
          command.caseId.length + phase.1.length + digitCount phase.2 ≤ 65) := by
    simp only [← phaseIds_fit_iff, ← appliedIds_fit_iff]
    cases command.entrypoint with
    | discovery => simp
    | manual => simp only [List.forall_mem_append, List.forall_mem_flatMap, ne_eq, reduceCtorEq,
        not_false_eq_true, forall_const]
    | qualified => simp only [List.forall_mem_append, List.forall_mem_flatMap, ne_eq,
        reduceCtorEq, not_false_eq_true, forall_const]
  rw [← hphases]
  simp only [← graphIds_fit_iff, envelopeIds, interruptIds, List.forall_mem_append,
    List.forall_mem_flatMap, List.forall_mem_map]
  constructor
  · intro h
    exact ⟨fun g hg => ⟨h.1.1 g hg, h.2 g hg⟩, h.1.2⟩
  · intro h
    exact ⟨⟨fun g hg => (h.1 g hg).1, h.2⟩, fun g hg => (h.1 g hg).2⟩

/-- Every identifier of a case is admitted by its field just when case, tenant, phases and
passes leave room for the fixed parts. -/
theorem identifiers_admitted_iff :
    (∀ field ∈ derivedFields command course, field.Admitted) ↔ Fits command course := by
  rw [fields_admitted_iff, ← and_assoc, ids_fit_iff]
  constructor
  · intro h
    obtain ⟨⟨hgraphs, hphases⟩, htenant⟩ := h
    refine ⟨htenant, ?_, ?_, hphases⟩
    · cases hentry : command.entrypoint with
      | manual =>
        have hA3 := (hgraphs .A3 (by rw [hentry]; decide)).1
        simp only [longest] at hA3
        simp only [reduceCtorEq, if_false]
        omega
      | discovery =>
        have hB1 := (hgraphs .B1 (by rw [hentry]; decide)).1
        simp only [longest] at hB1
        simp only [if_true]
        omega
      | qualified =>
        have hA3 := (hgraphs .A3 (by rw [hentry]; decide)).1
        simp only [longest] at hA3
        simp only [reduceCtorEq, if_false]
        omega
    · intro hentry
      have hmem : ∀ g, g = .A3 ∨ g = .S01 ∨ g = .S02 → g ∈ subgraphs command.entrypoint := by
        intro g hg
        cases hcases : command.entrypoint with
        | discovery => exact absurd hcases hentry
        | manual => rcases hg with rfl | rfl | rfl <;> decide
        | qualified => rcases hg with rfl | rfl | rfl <;> decide
      refine ⟨?_, ?_, ?_⟩
      · intro pass hpass
        have hA3 := (hgraphs .A3 (hmem _ (Or.inl rfl))).2 pass hpass 31 rfl
        omega
      · intro pass hpass
        have hS01 := (hgraphs .S01 (hmem _ (Or.inr (Or.inl rfl)))).2 pass hpass 29 rfl
        omega
      · intro pass hpass
        have hS02 := (hgraphs .S02 (hmem _ (Or.inr (Or.inr rfl)))).2 pass hpass 30 rfl
        omega
  · intro h
    refine ⟨⟨?_, h.phases⟩, h.tenant⟩
    have hcase := h.case
    intro g hg
    constructor
    · cases hentry : command.entrypoint with
      | discovery =>
        rw [hentry] at hg hcase
        simp only [if_true] at hcase
        have hlongest : longest g ≤ 31 := by
          revert g
          decide
        omega
      | manual =>
        rw [hentry] at hcase
        simp only [reduceCtorEq, if_false] at hcase
        have hlongest : longest g ≤ 32 := by cases g <;> decide
        omega
      | qualified =>
        rw [hentry] at hcase
        simp only [reduceCtorEq, if_false] at hcase
        have hlongest : longest g ≤ 32 := by cases g <;> decide
        omega
    · intro pass hpass n hn
      have hentry : command.entrypoint ≠ .discovery := by
        intro hentry
        have hnone : ∀ g ∈ subgraphs .discovery, longestPass g = none := by decide
        rw [hentry] at hg
        rw [hnone g hg] at hn
        cases hn
      obtain ⟨hA3, hS01, hS02⟩ := h.revisions hentry
      cases g <;> cases hn
      · have := hA3 pass hpass
        omega
      · have := hS01 pass hpass
        omega
      · have := hS02 pass hpass
        omega

end Iff

def repeated (n : Nat) : String := String.ofList (List.replicate n 'c')

theorem repeated_length (n : Nat) : (repeated n).length = n := by
  simp [repeated]

/-- A manual case with names of the given lengths. -/
def commandOf (tenant case : Nat) (htenant : 1 ≤ tenant ∧ tenant ≤ 100)
    (hcase : 1 ≤ case ∧ case ≤ 100) : StartWorkflowCommand where
  entrypoint := .manual
  tenantId := repeated tenant
  caseId := repeated case
  tenantId_length := (repeated_length tenant).symm ▸ htenant
  caseId_length := (repeated_length case).symm ▸ hcase

/-- One pass over one phase, applied. -/
def shortCourse (phase : String) : Course where
  passes := fun _ => [0]
  phasePasses := [(phase, 0)]
  applied := [(phase, 0)]
  bucket := ⟨"artifacts", by decide⟩
  digests := [⟨repeated 64, repeated_length 64⟩]
  stored := List.cons_ne_nil _ _
  commandIds := []
  checkKinds := []
  criterionIds := []

/-- A case of 69 characters fails in A3, a tenant of 36 at the first object, and a case of 60
with a phase named in ten characters when the phase is applied. -/
theorem accepted_identifiers_overflow :
    (¬ ∀ field ∈ derivedFields (commandOf 6 69 (by decide) (by decide)) (shortCourse "p"),
      field.Admitted) ∧
    (¬ ∀ field ∈ derivedFields (commandOf 36 6 (by decide) (by decide)) (shortCourse "p"),
      field.Admitted) ∧
    ¬ ∀ field ∈ derivedFields (commandOf 6 60 (by decide) (by decide))
        (shortCourse "rate-limit"), field.Admitted := by
  refine ⟨?_, ?_, ?_⟩
  · intro h
    obtain ⟨henvelopes, hinterrupts, -⟩ := (fields_admitted_iff _ _).mp h
    have hgraphs := ((ids_fit_iff _ _).mp ⟨henvelopes, hinterrupts⟩).1
    have hA3 := (hgraphs .A3 (List.mem_cons_of_mem _ (List.mem_cons_of_mem _
      List.mem_cons_self))).1
    simp [commandOf, repeated_length, longest] at hA3
  · intro h
    have htenant := ((fields_admitted_iff _ _).mp h).2.2
    simp [commandOf, repeated_length] at htenant
  · intro h
    obtain ⟨henvelopes, hinterrupts, -⟩ := (fields_admitted_iff _ _).mp h
    have hphases := ((ids_fit_iff _ _).mp ⟨henvelopes, hinterrupts⟩).2 Entrypoint.noConfusion
    have happlied := hphases.2 ("rate-limit", 0) List.mem_cons_self
    have hphase : "rate-limit".length = 10 := rfl
    have hzero : digitCount 0 = 1 := rfl
    simp [commandOf, repeated_length, hphase, hzero] at happlied

end ProductionOptimizer.IdentifierLengths
