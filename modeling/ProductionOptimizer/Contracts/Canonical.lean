import ProductionOptimizer.Library.CanonicalJson

/-! Contract models as they are dumped, their canonical JSON and their content digest
(`contracts/canonical.py`), with the models of `contracts/a1.py` and `contracts/a2.py` that
have set-valued fields and the artifacts that carry them. -/

namespace ProductionOptimizer.Canonical
open CanonicalJson
set_option autoImplicit false

/-- A `set[str]`, in the order of one iteration. -/
structure StringSet where
  members : List String
  distinct : members.Nodup

/-- A `dict[str, Any]`. -/
structure Mapping where
  items : List (String × Tree)
  wellFormed : (Tree.dict items).WellFormed

/-- A model by its dump. `fields` leaves out the top-level `content_digest`, which only
artifacts have. -/
structure ContractModel where
  fields : List (String × Tree)
  contentDigest : Option String
  wellFormed : (Tree.dict fields).WellFormed
  undigested : "content_digest" ∉ fields.map Prod.fst

namespace ContractModel

/-- `model_dump(mode="json")`, with every set still in the order it is iterated in. -/
def modelDump (m : ContractModel) : Tree :=
  match m.contentDigest with
  | none => .dict m.fields
  | some digest => .dict (m.fields ++ [("content_digest", .string digest)])

def content (m : ContractModel) : Tree := .dict m.fields

/-- The same model as another process may iterate it. Validating stored JSON builds every set
anew, so what is read back is a reading of what was stored. -/
structure Reading (m m' : ContractModel) : Prop where
  contentDigest : m'.contentDigest = m.contentDigest
  content : CanonicalJson.Reading m.content m'.content

def SmallSets (m : ContractModel) : Prop := m.content.SmallSets

end ContractModel

section Digest

def canonicalJson (data : Tree) : ByteArray := (String.ofList (text data)).toUTF8

variable (hexdigest : ByteArray → String)

def sha256Digest (bytes : ByteArray) : String := "sha256:" ++ hexdigest bytes

def modelContentDigest (m : ContractModel) : String :=
  sha256Digest hexdigest (canonicalJson m.content)

def verifyModelDigest (m : ContractModel) : Bool :=
  match m.contentDigest with
  | none => false
  | some digest => digest == modelContentDigest hexdigest m

/-- `_seal`. -/
def sealModel (m : ContractModel) : ContractModel :=
  { m with contentDigest := some (modelContentDigest hexdigest m) }

theorem canonicalJson_inj {t u : Tree} : canonicalJson t = canonicalJson u ↔ text t = text u := by
  unfold canonicalJson
  exact String.toByteArray_inj.trans String.ofList_inj

end Digest

/-! ### Models with set-valued fields -/

def optional {α : Type} (dump : α → Tree) : Option α → Tree
  | none => .null
  | some a => dump a

def nat (n : Nat) : Tree := .int n

def strings (items : List String) : Tree := .list (items.map .string)

/-- A dict whose values are all of one kind. -/
def mapping {α : Type} (dump : α → Tree) (items : List (String × α)) : Tree :=
  .dict (items.map fun item => (item.1, dump item.2))

inductive Aggregation where
  | mean
  | p50
  | p95
  | p99
  | sum
  | rate
  | maximum
  | verdict
  deriving DecidableEq, Repr

def Aggregation.name : Aggregation → String
  | .mean => "mean"
  | .p50 => "p50"
  | .p95 => "p95"
  | .p99 => "p99"
  | .sum => "sum"
  | .rate => "rate"
  | .maximum => "maximum"
  | .verdict => "verdict"

inductive MinimumTrust where
  | unverified
  | verified
  | attested
  deriving DecidableEq, Repr

def MinimumTrust.name : MinimumTrust → String
  | .unverified => "unverified"
  | .verified => "verified"
  | .attested => "attested"

structure EvidenceRequirement where
  requirementId : String
  criterionId : String
  acceptedSourceTypes : StringSet
  minimumSamples : Nat
  mandatory : Bool := true
  metricId : Option String := none
  canonicalUnit : Option String := none
  aggregation : Aggregation := .mean
  requiredDimensions : StringSet := ⟨[], List.nodup_nil⟩
  freshnessSeconds : Option Nat := none
  minimumTrustLevel : MinimumTrust := .verified
  requirementId_ne : requirementId ≠ ""
  acceptedSourceTypes_ne : acceptedSourceTypes.members ≠ []
  minimumSamples_pos : 1 ≤ minimumSamples
  freshnessSeconds_pos : ∀ n ∈ freshnessSeconds, 0 < n

def EvidenceRequirement.fields (r : EvidenceRequirement) : List (String × Tree) :=
  [("requirement_id", .string r.requirementId),
    ("criterion_id", .string r.criterionId),
    ("accepted_source_types", .set r.acceptedSourceTypes.members),
    ("minimum_samples", nat r.minimumSamples),
    ("mandatory", .bool r.mandatory),
    ("metric_id", optional .string r.metricId),
    ("canonical_unit", optional .string r.canonicalUnit),
    ("aggregation", .string r.aggregation.name),
    ("required_dimensions", .set r.requiredDimensions.members),
    ("freshness_seconds", optional nat r.freshnessSeconds),
    ("minimum_trust_level", .string r.minimumTrustLevel.name)]

inductive Priority where
  | low
  | normal
  | high
  deriving DecidableEq, Repr

def Priority.name : Priority → String
  | .low => "low"
  | .normal => "normal"
  | .high => "high"

structure ExecutionBudget where
  deadlineSeconds : Nat
  maximumWorkerSeconds : Nat
  maximumModelTokens : Nat
  maximumStorageBytes : Nat
  allowedAnalyzers : StringSet := ⟨[], List.nodup_nil⟩
  maximumRetries : Nat := 1
  maximumConcurrency : Nat := 1
  priority : Priority := .normal
  deadlineSeconds_pos : 0 < deadlineSeconds
  maximumRetries_le : maximumRetries ≤ 10
  maximumConcurrency_mem : 1 ≤ maximumConcurrency ∧ maximumConcurrency ≤ 256

def ExecutionBudget.fields (b : ExecutionBudget) : List (String × Tree) :=
  [("deadline_seconds", nat b.deadlineSeconds),
    ("maximum_worker_seconds", nat b.maximumWorkerSeconds),
    ("maximum_model_tokens", nat b.maximumModelTokens),
    ("maximum_storage_bytes", nat b.maximumStorageBytes),
    ("allowed_analyzers", .set b.allowedAnalyzers.members),
    ("maximum_retries", nat b.maximumRetries),
    ("maximum_concurrency", nat b.maximumConcurrency),
    ("priority", .string b.priority.name)]

inductive ExecutionNode where
  | A260
  | A261
  | A262
  | A263
  | A264
  deriving DecidableEq, Repr

def ExecutionNode.name : ExecutionNode → String
  | .A260 => "A2.60"
  | .A261 => "A2.61"
  | .A262 => "A2.62"
  | .A263 => "A2.63"
  | .A264 => "A2.64"

structure CollectorBinding where
  requirementId : String
  collectorId : String
  sourceType : String
  windowSeconds : Nat
  aggregation : String
  minimumSamples : Nat
  metricId : Option String := none
  canonicalUnit : Option String := none
  recipeId : String := "builtin"
  recipeVersion : String := "1.0"
  executionNode : ExecutionNode := .A260
  executorCapability : Option String := none
  decoderId : String := "command-result/v1"
  outputSchema : String := "scalar/v1"
  valueSelector : Option String := none
  actionParameters : Mapping
  requiredDimensions : StringSet := ⟨[], List.nodup_nil⟩
  mandatory : Bool := true
  texts_ne : "" ∉ [requirementId, collectorId, sourceType, aggregation, recipeId, recipeVersion,
    decoderId, outputSchema]
  windowSeconds_pos : 0 < windowSeconds
  minimumSamples_pos : 1 ≤ minimumSamples

def CollectorBinding.fields (b : CollectorBinding) : List (String × Tree) :=
  [("requirement_id", .string b.requirementId),
    ("collector_id", .string b.collectorId),
    ("source_type", .string b.sourceType),
    ("window_seconds", nat b.windowSeconds),
    ("aggregation", .string b.aggregation),
    ("minimum_samples", nat b.minimumSamples),
    ("metric_id", optional .string b.metricId),
    ("canonical_unit", optional .string b.canonicalUnit),
    ("recipe_id", .string b.recipeId),
    ("recipe_version", .string b.recipeVersion),
    ("execution_node", .string b.executionNode.name),
    ("executor_capability", optional .string b.executorCapability),
    ("decoder_id", .string b.decoderId),
    ("output_schema", .string b.outputSchema),
    ("value_selector", optional .string b.valueSelector),
    ("action_parameters", .dict b.actionParameters.items),
    ("required_dimensions", .set b.requiredDimensions.members),
    ("mandatory", .bool b.mandatory)]

@[simp] theorem optional_string_distinct (value : Option String) :
    (optional .string value).All Tree.Distinct := by
  cases value <;> trivial

@[simp] theorem optional_string_smallSet (value : Option String) :
    (optional .string value).All Tree.SmallSet := by
  cases value <;> trivial

@[simp] theorem optional_nat_distinct (value : Option Nat) :
    (optional nat value).All Tree.Distinct := by
  cases value <;> trivial

@[simp] theorem optional_nat_smallSet (value : Option Nat) :
    (optional nat value).All Tree.SmallSet := by
  cases value <;> trivial

theorem all_strings {p : Tree → Prop} (items : List String) (hnode : p (strings items))
    (hstring : ∀ s, p (.string s)) : (strings items).All p := by
  apply (all_list _).mpr
  refine ⟨hnode, fun t ht => ?_⟩
  obtain ⟨s, _, rfl⟩ := List.mem_map.mp ht
  exact hstring s

theorem all_mapping {p : Tree → Prop} {α : Type} {dump : α → Tree} (items : List (String × α))
    (hnode : p (mapping dump items)) (hdump : ∀ a, (dump a).All p) :
    (mapping dump items).All p := by
  apply (all_dict _).mpr
  refine ⟨hnode, fun t ht => ?_⟩
  rw [List.map_map] at ht
  obtain ⟨item, _, rfl⟩ := List.mem_map.mp ht
  exact hdump item.2

theorem distinct_mapping {α : Type} (dump : α → Tree) {items : List (String × α)}
    (h : (items.map Prod.fst).Nodup) : (mapping dump items).Distinct := by
  rw [mapping, Tree.Distinct, List.map_map]
  exact h

namespace EvidenceRequirement

theorem wellFormed (r : EvidenceRequirement) : (Tree.dict r.fields).WellFormed := by
  have hsources := r.acceptedSourceTypes.distinct
  have hdimensions := r.requiredDimensions.distinct
  simp [Tree.WellFormed, fields, Tree.Distinct, nat, hsources, hdimensions]

theorem smallSets_iff (r : EvidenceRequirement) :
    (Tree.dict r.fields).SmallSets ↔
      r.acceptedSourceTypes.members.length ≤ 1 ∧ r.requiredDimensions.members.length ≤ 1 := by
  simp [Tree.SmallSets, fields, Tree.SmallSet, nat]

end EvidenceRequirement

namespace ExecutionBudget

theorem wellFormed (b : ExecutionBudget) : (Tree.dict b.fields).WellFormed := by
  have hanalyzers := b.allowedAnalyzers.distinct
  simp [Tree.WellFormed, fields, Tree.Distinct, nat, hanalyzers]

theorem smallSets_iff (b : ExecutionBudget) :
    (Tree.dict b.fields).SmallSets ↔ b.allowedAnalyzers.members.length ≤ 1 := by
  simp [Tree.SmallSets, fields, Tree.SmallSet, nat]

end ExecutionBudget

namespace CollectorBinding

theorem wellFormed (b : CollectorBinding) : (Tree.dict b.fields).WellFormed := by
  have hdimensions := b.requiredDimensions.distinct
  have hparameters : (Tree.dict b.actionParameters.items).All Tree.Distinct :=
    b.actionParameters.wellFormed
  rw [Tree.WellFormed, all_dict]
  simp [fields, Tree.Distinct, nat, hdimensions, -all_dict, hparameters]

theorem smallSets_iff (b : CollectorBinding) :
    (Tree.dict b.fields).SmallSets ↔
      (Tree.dict b.actionParameters.items).SmallSets ∧ b.requiredDimensions.members.length ≤ 1 := by
  simp [Tree.SmallSets, fields, Tree.SmallSet, nat]

end CollectorBinding

/-! ### Artifacts -/

structure ArtifactEnvelope where
  artifactId : String
  tenantId : String
  caseId : String
  createdAt : String
  producerName : String
  producerVersion : String
  policyVersions : List (String × String) := []
  parentDigests : List String := []
  extensions : Mapping
  texts_length : ∀ s ∈ [artifactId, tenantId, caseId, producerName, producerVersion],
    1 ≤ s.length ∧ s.length ≤ 100
  policies_distinct : (policyVersions.map Prod.fst).Nodup
  parents_distinct : parentDigests.Nodup
  parents_sha256 : ∀ d ∈ parentDigests, "sha256:".toList <+: d.toList ∧ d.length = 71

def envelopeKeys : List String :=
  ["artifact_type", "schema_version", "artifact_id", "tenant_id", "case_id", "created_at",
    "producer", "policy_versions", "parent_digests", "extensions"]

/-- The fields an artifact class adds to the envelope. -/
structure OwnFields where
  fields : List (String × Tree)
  distinct : (envelopeKeys ++ fields.map Prod.fst).Nodup
  undigested : "content_digest" ∉ fields.map Prod.fst
  wellFormed : ∀ t ∈ fields.map Prod.snd, t.WellFormed

namespace ArtifactEnvelope

/-- The dump of the envelope, without its `content_digest`. -/
def fields (e : ArtifactEnvelope) (artifactType : String) : List (String × Tree) :=
  [("artifact_type", .string artifactType),
    ("schema_version", .string "1.0"),
    ("artifact_id", .string e.artifactId),
    ("tenant_id", .string e.tenantId),
    ("case_id", .string e.caseId),
    ("created_at", .string e.createdAt),
    ("producer", .dict [("name", .string e.producerName), ("version", .string e.producerVersion)]),
    ("policy_versions", mapping .string e.policyVersions),
    ("parent_digests", strings e.parentDigests),
    ("extensions", .dict e.extensions.items)]

theorem map_fst_fields (e : ArtifactEnvelope) (artifactType : String) :
    (e.fields artifactType).map Prod.fst = envelopeKeys := rfl

theorem fields_wellFormed (e : ArtifactEnvelope) (artifactType : String) :
    ∀ t ∈ (e.fields artifactType).map Prod.snd, t.WellFormed := by
  have hproducer : (Tree.dict [("name", .string e.producerName),
      ("version", .string e.producerVersion)]).WellFormed := by
    simp [Tree.WellFormed, Tree.Distinct]
  have hpolicies : (mapping .string e.policyVersions).WellFormed :=
    all_mapping _ (distinct_mapping _ e.policies_distinct) fun s => trivial
  have hparents : (strings e.parentDigests).WellFormed := all_strings _ trivial fun s => trivial
  have hextensions := e.extensions.wellFormed
  have hstring : ∀ s, (Tree.string s).WellFormed := fun s => trivial
  simp [fields, hproducer, hpolicies, hparents, hextensions, hstring]

theorem fields_smallSets_iff (e : ArtifactEnvelope) (artifactType : String) :
    (∀ t ∈ (e.fields artifactType).map Prod.snd, t.SmallSets) ↔
      (Tree.dict e.extensions.items).SmallSets := by
  have hproducer : (Tree.dict [("name", .string e.producerName),
      ("version", .string e.producerVersion)]).SmallSets := by
    simp [Tree.SmallSets, Tree.SmallSet]
  have hpolicies : (mapping .string e.policyVersions).SmallSets :=
    all_mapping _ trivial fun s => trivial
  have hparents : (strings e.parentDigests).SmallSets := all_strings _ trivial fun s => trivial
  have hstring : ∀ s, (Tree.string s).SmallSets := fun s => trivial
  simp [fields, hproducer, hpolicies, hparents, hstring]

/-- An artifact as it is constructed, with the digest it is given there. -/
def model (e : ArtifactEnvelope) (artifactType : String) (own : OwnFields) (digest : String) :
    ContractModel where
  fields := e.fields artifactType ++ own.fields
  contentDigest := some digest
  wellFormed := by
    apply (all_dict _).mpr
    constructor
    · rw [Tree.Distinct, List.map_append, map_fst_fields]
      exact own.distinct
    · rw [List.map_append, List.forall_mem_append]
      exact ⟨e.fields_wellFormed artifactType, own.wellFormed⟩
  undigested := by
    rw [List.map_append, map_fst_fields, List.mem_append]
    rintro (henvelope | hown)
    · exact absurd henvelope (by decide)
    · exact own.undigested hown

theorem model_smallSets_iff (e : ArtifactEnvelope) (artifactType : String) (own : OwnFields)
    (digest : String) : (e.model artifactType own digest).SmallSets ↔
      (Tree.dict e.extensions.items).SmallSets ∧ ∀ t ∈ own.fields.map Prod.snd, t.SmallSets := by
  have hdict := all_dict (p := Tree.SmallSet) (e.fields artifactType ++ own.fields)
  rw [List.map_append, List.forall_mem_append] at hdict
  calc (e.model artifactType own digest).SmallSets
      ↔ (∀ t ∈ (e.fields artifactType).map Prod.snd, t.SmallSets) ∧
        ∀ t ∈ own.fields.map Prod.snd, t.SmallSets := hdict.trans (iff_of_eq (true_and _))
    _ ↔ _ := and_congr_left' (e.fields_smallSets_iff artifactType)

end ArtifactEnvelope

/-! The classes whose own fields hold the models above. -/

def executionBudgetArtifact (budget : ExecutionBudget) (policyVersion : String) : OwnFields where
  fields := [("budget", .dict budget.fields), ("policy_version", .string policyVersion)]
  distinct := by simp [envelopeKeys]
  undigested := by simp
  wellFormed := by
    simp only [List.map_cons, List.map_nil, List.forall_mem_cons]
    exact ⟨budget.wellFormed, trivial, List.forall_mem_nil _⟩

def evidenceRequirementSet (requirements : List EvidenceRequirement) (missing : List String) :
    OwnFields where
  fields := [("evidence_requirements", .list (requirements.map fun r => .dict r.fields)),
    ("missing_fields", strings missing)]
  distinct := by simp [envelopeKeys]
  undigested := by simp
  wellFormed := by
    have hrequirements : (Tree.list (requirements.map fun r => .dict r.fields)).WellFormed := by
      apply (all_list _).mpr
      exact ⟨trivial, List.forall_mem_map.mpr fun r _ => r.wellFormed⟩
    simp only [List.map_cons, List.map_nil, List.forall_mem_cons]
    exact ⟨hrequirements, all_strings _ trivial fun s => trivial, List.forall_mem_nil _⟩

def collectorPlan (bindings : List CollectorBinding) (unresolved : List String)
    (catalogVersion : String) (versions : List (String × Nat))
    (hversions : (versions.map Prod.fst).Nodup) : OwnFields where
  fields := [("bindings", .list (bindings.map fun b => .dict b.fields)),
    ("unresolved_requirements", strings unresolved),
    ("catalog_version", .string catalogVersion),
    ("registry_record_versions", mapping nat versions)]
  distinct := by simp [envelopeKeys]
  undigested := by simp
  wellFormed := by
    have hbindings : (Tree.list (bindings.map fun b => .dict b.fields)).WellFormed := by
      apply (all_list _).mpr
      exact ⟨trivial, List.forall_mem_map.mpr fun b _ => b.wellFormed⟩
    simp only [List.map_cons, List.map_nil, List.forall_mem_cons]
    exact ⟨hbindings, all_strings _ trivial fun s => trivial, trivial,
      all_mapping _ (distinct_mapping _ hversions) fun n => trivial, List.forall_mem_nil _⟩

end ProductionOptimizer.Canonical
