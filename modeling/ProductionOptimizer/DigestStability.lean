import ProductionOptimizer.Contracts.Canonical

/-! Whether a content digest survives another iteration order of the sets it was computed
over. The order of a mapping never matters, since its keys are sorted; that of a set shows in
the bytes as soon as the set has two members. -/

namespace ProductionOptimizer.Canonical
open CanonicalJson
set_option autoImplicit false

/-- Every order choice gives the same bytes and the same digest, and a sealed model verifies
however it is read back. -/
structure OrderFree (hexdigest : ByteArray → String) (m : ContractModel) : Prop where
  canonicalJson_eq : ∀ m₁ m₂, m.Reading m₁ → m.Reading m₂ →
    canonicalJson m₁.modelDump = canonicalJson m₂.modelDump
  digest_eq : ∀ m₁ m₂, m.Reading m₁ → m.Reading m₂ →
    modelContentDigest hexdigest m₁ = modelContentDigest hexdigest m₂
  verified : ∀ m', (sealModel hexdigest m).Reading m' → verifyModelDigest hexdigest m' = true

namespace ContractModel

theorem Reading.refl (m : ContractModel) : m.Reading m := ⟨rfl, .refl m.content⟩

end ContractModel

section Dump
variable (m : ContractModel)

/-- The item of the digest, where the class has one. -/
def digestItems (digest : Option String) : List (String × Tree) :=
  digest.toList.map fun d => ("content_digest", .string d)

theorem modelDump_eq : m.modelDump = .dict (m.fields ++ digestItems m.contentDigest) := by
  unfold ContractModel.modelDump digestItems
  cases m.contentDigest with
  | none => simp
  | some digest => simp

theorem all_digestItems {p : Tree → Prop} (hstring : ∀ s, p (.string s)) (digest : Option String) :
    ∀ t ∈ (digestItems digest).map Prod.snd, t.All p := by
  cases digest with
  | none => simp [digestItems]
  | some d => simp [digestItems, hstring]

theorem keys_digestItems (digest : Option String) :
    ((digestItems digest).map Prod.fst).Nodup ∧
      ∀ key ∈ (digestItems digest).map Prod.fst, key = "content_digest" := by
  cases digest with
  | none => simp [digestItems]
  | some d => simp [digestItems]

theorem modelDump_wellFormed : m.modelDump.WellFormed := by
  obtain ⟨hkeys, hvalues⟩ := (all_dict m.fields).mp m.wellFormed
  obtain ⟨hnodup, hdigest⟩ := keys_digestItems m.contentDigest
  rw [modelDump_eq]
  apply (all_dict _).mpr
  rw [List.map_append, List.forall_mem_append, Tree.Distinct, List.map_append]
  refine ⟨List.Nodup.append hkeys hnodup ?_, hvalues, all_digestItems (fun s => trivial) _⟩
  intro key hkey hkey'
  rw [hdigest key hkey'] at hkey
  exact m.undigested hkey

theorem modelDump_smallSets_iff : m.modelDump.SmallSets ↔ m.SmallSets := by
  have hdigest : ∀ t ∈ (digestItems m.contentDigest).map Prod.snd, t.All Tree.SmallSet :=
    all_digestItems (fun s => trivial) _
  rw [modelDump_eq, Tree.SmallSets, all_dict, List.map_append, List.forall_mem_append,
    ContractModel.SmallSets, ContractModel.content, Tree.SmallSets, all_dict]
  exact and_congr_right fun _ => and_iff_left hdigest

theorem modelDump_reading {m m' : ContractModel} (h : m.Reading m') :
    CanonicalJson.Reading m.modelDump m'.modelDump := by
  rw [modelDump_eq, modelDump_eq, h.contentDigest]
  exact reading_append _ h.content m.fields m'.fields rfl rfl

end Dump

section Stability
variable {m m' : ContractModel}

theorem canonicalJson_modelDump_eq (hsmall : m.SmallSets) (h : m.Reading m') :
    canonicalJson m'.modelDump = canonicalJson m.modelDump := by
  apply canonicalJson_inj.mpr
  exact text_reading (modelDump_wellFormed m) ((modelDump_smallSets_iff m).mpr hsmall)
    (modelDump_reading h)

theorem canonicalJson_content_eq (hsmall : m.SmallSets) (h : m.Reading m') :
    canonicalJson m'.content = canonicalJson m.content :=
  canonicalJson_inj.mpr (text_reading m.wellFormed hsmall h.content)

/-- One field of a model read in another way. -/
theorem exists_reading_value {before after : List (String × Tree)} {key : String} {t u : Tree}
    (hfields : m.fields = before ++ (key, t) :: after) (h : CanonicalJson.Reading t u) :
    ∃ m', m.Reading m' ∧ m'.fields = before ++ (key, u) :: after := by
  have hcontent : CanonicalJson.Reading m.content (.dict (before ++ (key, u) :: after)) := by
    rw [ContractModel.content, hfields]
    exact .value before after key h
  have hundigested : "content_digest" ∉ (before ++ (key, u) :: after).map Prod.fst := by
    have hm := m.undigested
    rw [hfields, List.map_append, List.map_cons] at hm
    rwa [List.map_append, List.map_cons]
  let m' : ContractModel :=
    { fields := before ++ (key, u) :: after
      contentDigest := m.contentDigest
      wellFormed := all_reading distinct_reading hcontent m.wellFormed
      undigested := hundigested }
  exact ⟨m', ⟨rfl, hcontent⟩, rfl⟩

/-- A model with a set of two members has a reading with other bytes, with the digest and
without it. -/
theorem exists_reading_ne (hlarge : ¬ m.SmallSets) :
    ∃ m', m.Reading m' ∧ canonicalJson m'.modelDump ≠ canonicalJson m.modelDump ∧
      canonicalJson m'.content ≠ canonicalJson m.content := by
  have hvalue : ∃ t ∈ m.fields.map Prod.snd, ¬ t.SmallSets := by
    by_contra hnone
    push Not at hnone
    exact hlarge ((all_dict m.fields).mpr ⟨trivial, hnone⟩)
  obtain ⟨t, ht, htlarge⟩ := hvalue
  have htwf : t.WellFormed := ((all_dict m.fields).mp m.wellFormed).2 t ht
  obtain ⟨⟨key, t⟩, hitem, rfl⟩ := List.mem_map.mp ht
  obtain ⟨before, after, hfields⟩ := List.append_of_mem hitem
  obtain ⟨u, hreading, hne⟩ := exists_reading_text_ne t htwf htlarge
  obtain ⟨m', hm', hfields'⟩ := exists_reading_value hfields hreading
  refine ⟨m', hm', ?_, ?_⟩
  · intro hjson
    have htext := canonicalJson_inj.mp hjson
    rw [modelDump_eq, modelDump_eq, hfields, hfields', hm'.contentDigest, List.append_assoc,
      List.append_assoc, List.cons_append, List.cons_append] at htext
    exact hne (text_dict_inj htext)
  · intro hjson
    have htext := canonicalJson_inj.mp hjson
    rw [ContractModel.content, ContractModel.content, hfields, hfields'] at htext
    exact hne (text_dict_inj htext)

variable (hexdigest : ByteArray → String)

theorem modelContentDigest_eq (hsmall : m.SmallSets) (h : m.Reading m') :
    modelContentDigest hexdigest m' = modelContentDigest hexdigest m := by
  rw [modelContentDigest, canonicalJson_content_eq hsmall h, modelContentDigest]

theorem sha256Digest_inj {hexdigest : ByteArray → String} {x y : ByteArray} :
    sha256Digest hexdigest x = sha256Digest hexdigest y ↔ hexdigest x = hexdigest y := by
  unfold sha256Digest
  exact String.append_right_inj _

theorem verify_reading_iff (h : (sealModel hexdigest m).Reading m') :
    verifyModelDigest hexdigest m' = true ↔
      modelContentDigest hexdigest m = modelContentDigest hexdigest m' := by
  have hdigest : m'.contentDigest = some (modelContentDigest hexdigest m) := h.contentDigest
  rw [verifyModelDigest, hdigest, beq_iff_eq]

/-- A reading of a sealed model is a reading of the model, with the digest sealed in. -/
theorem reading_of_sealed (h : (sealModel hexdigest m).Reading m') :
    m.Reading { m' with contentDigest := m.contentDigest } := ⟨rfl, h.content⟩

theorem verified_reading (hsmall : m.SmallSets) (h : (sealModel hexdigest m).Reading m') :
    verifyModelDigest hexdigest m' = true := by
  apply (verify_reading_iff hexdigest h).mpr
  exact (modelContentDigest_eq hexdigest hsmall (reading_of_sealed hexdigest h)).symm

/-- Where the hash tells the readings apart, the digest check alone fails on some reading of
every sealed model with a set of two members. -/
theorem exists_reading_unverified (hlarge : ¬ m.SmallSets)
    (hseparates : ∀ m', m.Reading m' → hexdigest (canonicalJson m.content) =
      hexdigest (canonicalJson m'.content) → canonicalJson m'.content = canonicalJson m.content) :
    ∃ m', (sealModel hexdigest m).Reading m' ∧ verifyModelDigest hexdigest m' = false := by
  obtain ⟨m', hreading, _, hne⟩ := exists_reading_ne hlarge
  have hdigest : modelContentDigest hexdigest m ≠ modelContentDigest hexdigest m' := by
    intro heq
    exact hne (hseparates m' hreading (sha256Digest_inj.mp heq))
  let reread := { m' with contentDigest := some (modelContentDigest hexdigest m) }
  have hsealed : (sealModel hexdigest m).Reading reread := ⟨rfl, hreading.content⟩
  refine ⟨reread, hsealed, ?_⟩
  rw [← Bool.not_eq_true, verify_reading_iff hexdigest hsealed]
  exact hdigest

end Stability

/-! Which sets these are, class by class. -/

theorem executionBudgetArtifact_smallSets_iff (e : ArtifactEnvelope) (budget : ExecutionBudget)
    (policyVersion digest : String) :
    (e.model "ExecutionBudgetArtifact" (executionBudgetArtifact budget policyVersion)
      digest).SmallSets ↔
      (Tree.dict e.extensions.items).SmallSets ∧ budget.allowedAnalyzers.members.length ≤ 1 := by
  rw [ArtifactEnvelope.model_smallSets_iff]
  apply and_congr_right'
  simp only [executionBudgetArtifact, List.map_cons, List.map_nil, List.forall_mem_cons,
    budget.smallSets_iff]
  exact and_iff_left ⟨trivial, List.forall_mem_nil _⟩

theorem evidenceRequirementSet_smallSets_iff (e : ArtifactEnvelope)
    (requirements : List EvidenceRequirement) (missing : List String) (digest : String) :
    (e.model "EvidenceRequirementSet" (evidenceRequirementSet requirements missing)
      digest).SmallSets ↔
      (Tree.dict e.extensions.items).SmallSets ∧ ∀ r ∈ requirements,
        r.acceptedSourceTypes.members.length ≤ 1 ∧ r.requiredDimensions.members.length ≤ 1 := by
  rw [ArtifactEnvelope.model_smallSets_iff]
  apply and_congr_right'
  have hmissing : (strings missing).SmallSets := all_strings _ trivial fun s => trivial
  have hlist : (Tree.list (requirements.map fun r => .dict r.fields)).SmallSets ↔
      ∀ r ∈ requirements, (Tree.dict r.fields).SmallSets := by
    rw [Tree.SmallSets, all_list, List.forall_mem_map]
    exact and_iff_right trivial
  simp only [evidenceRequirementSet, List.map_cons, List.map_nil, List.forall_mem_cons, hlist,
    EvidenceRequirement.smallSets_iff]
  exact and_iff_left ⟨hmissing, List.forall_mem_nil _⟩

theorem collectorPlan_smallSets_iff (e : ArtifactEnvelope) (bindings : List CollectorBinding)
    (unresolved : List String) (catalogVersion : String) (versions : List (String × Nat))
    (hversions : (versions.map Prod.fst).Nodup) (digest : String) :
    (e.model "CollectorPlan"
      (collectorPlan bindings unresolved catalogVersion versions hversions) digest).SmallSets ↔
      (Tree.dict e.extensions.items).SmallSets ∧ ∀ b ∈ bindings,
        (Tree.dict b.actionParameters.items).SmallSets ∧
          b.requiredDimensions.members.length ≤ 1 := by
  rw [ArtifactEnvelope.model_smallSets_iff]
  apply and_congr_right'
  have hunresolved : (strings unresolved).SmallSets := all_strings _ trivial fun s => trivial
  have hrecords : (mapping nat versions).SmallSets := all_mapping _ trivial fun n => trivial
  have hlist : (Tree.list (bindings.map fun b => .dict b.fields)).SmallSets ↔
      ∀ b ∈ bindings, (Tree.dict b.fields).SmallSets := by
    rw [Tree.SmallSets, all_list, List.forall_mem_map]
    exact and_iff_right trivial
  simp only [collectorPlan, List.map_cons, List.map_nil, List.forall_mem_cons, hlist,
    CollectorBinding.smallSets_iff]
  exact and_iff_left ⟨hunresolved, trivial, hrecords, List.forall_mem_nil _⟩

/-- Set order is invisible exactly where no set, at any depth of the model, has two members. -/
theorem orderFree_iff (hexdigest : ByteArray → String) (m : ContractModel) :
    OrderFree hexdigest m ↔ m.SmallSets := by
  constructor
  · intro hfree
    by_contra hlarge
    obtain ⟨m', hreading, hne, _⟩ := exists_reading_ne hlarge
    exact hne (hfree.canonicalJson_eq m' m hreading (.refl m))
  · intro hsmall
    refine ⟨fun m₁ m₂ h₁ h₂ => ?_, fun m₁ m₂ h₁ h₂ => ?_, fun m' h => ?_⟩
    · rw [canonicalJson_modelDump_eq hsmall h₁, canonicalJson_modelDump_eq hsmall h₂]
    · rw [modelContentDigest_eq hexdigest hsmall h₁, modelContentDigest_eq hexdigest hsmall h₂]
    · exact verified_reading hexdigest hsmall h

/-! The requirement A1.71 makes of a criterion: its two dimensions may be met in either order. -/

def sampleEnvelope : ArtifactEnvelope where
  artifactId := "OPT-1-EvidenceRequirementSet"
  tenantId := "TENANT-1"
  caseId := "OPT-1"
  createdAt := "2026-01-01T00:00:00Z"
  producerName := "a1-production-handler"
  producerVersion := "1.0.0"
  policyVersions := [("a1", "production-v1")]
  extensions := ⟨[], by simp [Tree.WellFormed, Tree.Distinct]⟩
  texts_length := by decide
  policies_distinct := by simp
  parents_distinct := List.nodup_nil
  parents_sha256 := by simp

def criterionRequirement (dimensions : StringSet) : EvidenceRequirement where
  requirementId := "evidence-latency"
  criterionId := "latency"
  acceptedSourceTypes := ⟨["benchmark", "telemetry", "evaluator"], by decide⟩
  minimumSamples := 3
  metricId := some "latency"
  canonicalUnit := some "ms"
  requiredDimensions := dimensions
  requirementId_ne := by decide
  acceptedSourceTypes_ne := by decide
  minimumSamples_pos := by decide
  freshnessSeconds_pos := by simp

/-- `_ZERO_DIGEST`, which an artifact is given before it is sealed. -/
def zeroDigest : String := "sha256:" ++ String.ofList (List.replicate 64 '0')

def requirementSet (dimensions : StringSet) : ContractModel :=
  sampleEnvelope.model "EvidenceRequirementSet"
    (evidenceRequirementSet [criterionRequirement dimensions] []) zeroDigest

def environmentFirst : StringSet := ⟨["environment_id", "workload_id"], by decide⟩

def workloadFirst : StringSet := ⟨["workload_id", "environment_id"], by decide⟩

theorem requirementSet_reading :
    (requirementSet environmentFirst).Reading (requirementSet workloadFirst) := by
  refine ⟨rfl, ?_⟩
  apply Reading.value (sampleEnvelope.fields "EvidenceRequirementSet")
    [("missing_fields", strings [])] "evidence_requirements"
  apply Reading.item [] []
  apply Reading.value ((criterionRequirement environmentFirst).fields.take 8)
    ((criterionRequirement environmentFirst).fields.drop 9) "required_dimensions"
  exact .set (List.Perm.swap _ _ _)

theorem requirementSet_text_ne (more : List (String × Tree)) :
    text (.dict ((requirementSet environmentFirst).fields ++ more)) ≠
      text (.dict ((requirementSet workloadFirst).fields ++ more)) := by
  intro h
  have hlist : text (.list [.dict (criterionRequirement environmentFirst).fields]) =
      text (.list [.dict (criterionRequirement workloadFirst).fields]) := by
    rw [requirementSet, requirementSet, ArtifactEnvelope.model, ArtifactEnvelope.model,
      List.append_assoc, List.append_assoc] at h
    exact text_dict_inj h
  have hdict : text (.dict (criterionRequirement environmentFirst).fields) =
      text (.dict (criterionRequirement workloadFirst).fields) := by
    change text (.list ([] ++ _ :: [])) = text (.list ([] ++ _ :: [])) at hlist
    exact text_list_inj hlist
  have hset : text (.set ["environment_id", "workload_id"]) =
      text (.set ["workload_id", "environment_id"]) := by
    change text (.dict ((criterionRequirement environmentFirst).fields.take 8 ++ _ :: _)) =
      text (.dict ((criterionRequirement environmentFirst).fields.take 8 ++ _ :: _)) at hdict
    exact text_dict_inj hdict
  exact text_swap_ne [] (by decide) hset

theorem requirementSet_canonicalJson_ne :
    canonicalJson (requirementSet environmentFirst).modelDump ≠
      canonicalJson (requirementSet workloadFirst).modelDump := by
  intro h
  have htext := canonicalJson_inj.mp h
  rw [modelDump_eq, modelDump_eq] at htext
  exact requirementSet_text_ne _ htext

/-- What was sealed with the environment first, read back with the workload first. -/
def rereadSwapped (hexdigest : ByteArray → String) : ContractModel :=
  { requirementSet workloadFirst with
    contentDigest := (sealModel hexdigest (requirementSet environmentFirst)).contentDigest }

/-- Sealed in one order and read back in the other, the artifact fails its own digest check
unless the two texts collide. -/
theorem dimensions_swapped_unverified :
    (∀ hexdigest, ¬ OrderFree hexdigest (requirementSet environmentFirst)) ∧
      ∀ hexdigest : ByteArray → String,
        hexdigest (canonicalJson (requirementSet environmentFirst).content) ≠
          hexdigest (canonicalJson (requirementSet workloadFirst).content) →
        verifyModelDigest hexdigest (rereadSwapped hexdigest) = false := by
  refine ⟨fun hexdigest hfree => ?_, fun hexdigest hne => ?_⟩
  · exact requirementSet_canonicalJson_ne
      (hfree.canonicalJson_eq _ _ (.refl _) requirementSet_reading)
  · have hsealed : (sealModel hexdigest (requirementSet environmentFirst)).Reading
        (rereadSwapped hexdigest) := ⟨rfl, requirementSet_reading.content⟩
    rw [← Bool.not_eq_true, verify_reading_iff hexdigest hsealed]
    exact fun heq => hne (sha256Digest_inj.mp heq)

end ProductionOptimizer.Canonical
