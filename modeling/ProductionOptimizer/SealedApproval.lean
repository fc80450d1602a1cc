import Mathlib
import ProductionOptimizer.DigestStability
import ProductionOptimizer.Handlers.Freeze

/-!
# Is what A1.95 seals what was approved?

The fingerprint is a hash of the content digests of eight artifacts, and the request copies
fields out of them. Where neither hash collides, the digest of the approval determines every
part of the request.
-/

namespace ProductionOptimizer.Freeze
open Canonical (ArtifactEnvelope ContractModel canonicalJson_inj modelContentDigest
  sha256Digest sha256Digest_inj)
open CanonicalJson
set_option autoImplicit false

/-! ### What a request is made of -/

/-- The parts of a request that its approval is about. -/
structure FrozenParts where
  source : SourceReference
  featureScope : Artifact FeatureScope
  objective : Option Objective
  criteria : List Criterion
  guardrails : List Guardrail
  workload : Option WorkloadContract
  execution : Option ComposeExecutionContract
  evidenceRequirements : List EvidenceRequirement
  budget : ExecutionBudget

def Inputs.parts (inputs : Inputs) : FrozenParts where
  source := sourceReference (inputs .source).body
  featureScope := inputs .scope
  objective := (inputs .objective).body.objective
  criteria := (inputs .criteria).body.criteria
  guardrails := (inputs .guardrails).body.guardrails
  workload := (inputs .workload).body.workload
  execution := (inputs .workload).body.execution
  evidenceRequirements := (inputs .evidence).body.evidenceRequirements
  budget := (inputs .budget).body.budget

def OptimizationRequest.parts (r : OptimizationRequest) : FrozenParts where
  source := r.source
  featureScope := r.featureScope
  objective := some r.objective
  criteria := r.criteria
  guardrails := r.guardrails
  workload := some r.workload
  execution := r.execution
  evidenceRequirements := r.evidenceRequirements
  budget := r.budget

/-! ### What is assumed of the store and the hash -/

section Assumptions
variable {σ : Type} (env : Environment σ) (scene : Scene σ)

/-- What is read for a part are the bytes that the digest of its ref was sealed over, and JSON is
read back with no keys but those it was written with. -/
def ReadsSealed : Prop :=
  ∀ (part : Part) (ref : ArtifactRef) (content : ByteArray),
    readContent env scene part.artifactType = .ok (ref, content) →
      ∃ m : ContractModel, content = Canonical.canonicalJson m.content ∧
        ref.contentDigest = modelContentDigest env.hexdigest m ∧
        ∀ raw, env.validateJson content = some raw →
          ∀ key ∈ raw.map Prod.fst, key ∈ m.fields.map Prod.fst

/-- The byte strings whose hashes go into a fingerprint, and the one it is the hash of. -/
def hashed : Set ByteArray :=
  {content | ∃ (part : Part) (ref : ArtifactRef),
      readContent env scene part.artifactType = .ok (ref, content)} ∪
    {bytes | ∃ caseId inputs, scene.state.caseId = some caseId ∧
      (∀ part, readPart env scene part = .ok (inputs part)) ∧
        bytes = fingerprintBytes caseId inputs}

end Assumptions

/-! ### Reading -/

section Reading
variable {σ : Type} {env : Environment σ} {scene scene' : Scene σ}

theorem require_ok {α : Type} {value : Option α} {failure : Failure} {a : α}
    (h : require value failure = .ok a) : value = some a := by
  cases value with
  | none => cases h
  | some b =>
    cases h
    rfl

theorem check_ok {holds : Bool} {failure : Failure} {u : Unit} (h : check holds failure = .ok u) :
    holds = true := by
  unfold check at h
  split at h
  · assumption
  · cases h

theorem bind_of_ok {ε α β : Type} {x : Except ε α} {f : α → Except ε β} {a : α}
    {y : Except ε β} (hx : x = .ok a) (h : f a = y) : (x >>= f) = y := by
  rw [hx]
  exact h

theorem readInputs_of_parts {inputs : Inputs}
    (h : ∀ part, readPart env scene part = .ok (inputs part)) :
    readInputs env scene = .ok inputs := by
  refine bind_of_ok (h .source) (bind_of_ok (h .objective) (bind_of_ok (h .scope) ?_))
  refine bind_of_ok (h .criteria) (bind_of_ok (h .guardrails) (bind_of_ok (h .budget) ?_))
  refine bind_of_ok (h .workload) (bind_of_ok (h .evidence) ?_)
  apply congrArg Except.ok
  funext part
  cases part <;> rfl

/-- One part after the other is every part, in whichever order they are read. -/
theorem readPart_all {inputs : Inputs}
    (hsource : readPart env scene .source = .ok (inputs .source))
    (hobjective : readPart env scene .objective = .ok (inputs .objective))
    (hscope : readPart env scene .scope = .ok (inputs .scope))
    (hcriteria : readPart env scene .criteria = .ok (inputs .criteria))
    (hguardrails : readPart env scene .guardrails = .ok (inputs .guardrails))
    (hbudget : readPart env scene .budget = .ok (inputs .budget))
    (hworkload : readPart env scene .workload = .ok (inputs .workload))
    (hevidence : readPart env scene .evidence = .ok (inputs .evidence)) (part : Part) :
    readPart env scene part = .ok (inputs part) := by
  cases part with
  | source => exact hsource
  | objective => exact hobjective
  | scope => exact hscope
  | criteria => exact hcriteria
  | guardrails => exact hguardrails
  | budget => exact hbudget
  | workload => exact hworkload
  | evidence => exact hevidence

theorem readInputs_part {inputs : Inputs} (h : readInputs env scene = .ok inputs) (part : Part) :
    readPart env scene part = .ok (inputs part) := by
  obtain ⟨source, hsource, h⟩ := except_bind_ok h
  obtain ⟨objective, hobjective, h⟩ := except_bind_ok h
  obtain ⟨scope, hscope, h⟩ := except_bind_ok h
  obtain ⟨criteria, hcriteria, h⟩ := except_bind_ok h
  obtain ⟨guardrails, hguardrails, h⟩ := except_bind_ok h
  obtain ⟨budget, hbudget, h⟩ := except_bind_ok h
  obtain ⟨workload, hworkload, h⟩ := except_bind_ok h
  obtain ⟨evidence, hevidence, h⟩ := except_bind_ok h
  cases h
  apply readPart_all <;> assumption

theorem readInputsForApproval_part {inputs : Inputs}
    (h : readInputsForApproval env scene = .ok inputs) (part : Part) :
    readPart env scene part = .ok (inputs part) := by
  obtain ⟨objective, hobjective, h⟩ := except_bind_ok h
  obtain ⟨criteria, hcriteria, h⟩ := except_bind_ok h
  obtain ⟨guardrails, hguardrails, h⟩ := except_bind_ok h
  obtain ⟨workload, hworkload, h⟩ := except_bind_ok h
  obtain ⟨evidence, hevidence, h⟩ := except_bind_ok h
  obtain ⟨budget, hbudget, h⟩ := except_bind_ok h
  obtain ⟨source, hsource, h⟩ := except_bind_ok h
  obtain ⟨scope, hscope, h⟩ := except_bind_ok h
  cases h
  apply readPart_all <;> assumption

theorem readModel_spec {α : Type} {artifactType : String}
    {validate : Items → Option (ArtifactEnvelope × α)} {artifact : Artifact α}
    (h : readModel env scene artifactType validate = .ok artifact) :
    ∃ ref content raw, readContent env scene artifactType = .ok (ref, content) ∧
      env.validateJson content = some raw ∧
      validateModel validate (setDefaultDigest raw ref.contentDigest) = some artifact := by
  obtain ⟨⟨ref, content⟩, hcontent, h⟩ := except_bind_ok h
  obtain ⟨raw, hraw, h⟩ := except_bind_ok h
  exact ⟨ref, content, raw, hcontent, require_ok hraw, require_ok h⟩

/-- A digest has nothing to strip. -/
theorem stripped_digest {text : String} (h : isDigest text = true) : stripped text = text := by
  unfold isDigest at h
  rw [Bool.and_eq_true, Bool.and_eq_true, List.isPrefixOf_iff_prefix, beq_iff_eq,
    List.all_eq_true] at h
  obtain ⟨⟨⟨digits, hprefix⟩, hlength⟩, hhex⟩ := h
  rw [← hprefix, List.drop_left] at hlength hhex
  let digest : S3.HexDigest :=
    ⟨digits, hlength, fun c hc => List.contains_iff_mem.mp (hhex c hc)⟩
  have htrim : S3.trim text.toList = text.toList := by
    rw [← hprefix]
    exact S3.trim_digestText digest
  unfold stripped
  rw [htrim, String.ofList_toList]

/-- Without a digest of its own an artifact has that of its ref. -/
theorem validateModel_setDefault {α : Type} {validate : Items → Option (ArtifactEnvelope × α)}
    {raw : Items} (ref : ArtifactRef) (hraw : digestKey ∉ raw.map Prod.fst) :
    validateModel validate (setDefaultDigest raw ref.contentDigest) =
      (validate raw).map fun fields => ⟨ref.contentDigest, fields.1, fields.2⟩ := by
  have hne : ∀ item ∈ raw, item.1 ≠ digestKey := by
    intro item hitem heq
    exact hraw (List.mem_map.mpr ⟨item, hitem, heq⟩)
  have hany : raw.any (·.1 == digestKey) = false := by
    rw [List.any_eq_false]
    intro item hitem
    simpa using hne item hitem
  have hlookup : (raw ++ [(digestKey, Tree.string ref.contentDigest)]).lookup digestKey =
      some (.string ref.contentDigest) := by
    rw [List.lookup_eq_some_iff]
    refine ⟨raw, [], rfl, ?_⟩
    intro item hitem
    rw [bne_iff_ne]
    exact (hne item hitem).symm
  have hrest : (raw ++ [(digestKey, Tree.string ref.contentDigest)]).filter (·.1 != digestKey) =
      raw := by
    have hkept : raw.filter (·.1 != digestKey) = raw := by
      apply List.filter_eq_self.mpr
      intro item hitem
      rw [bne_iff_ne]
      exact hne item hitem
    rw [List.filter_append, hkept]
    simp
  have hstripped : String.ofList (S3.trim ref.contentDigest.toList) = ref.contentDigest :=
    stripped_digest ref.digest
  unfold setDefaultDigest validateModel
  rw [hany, if_neg Bool.false_ne_true, hlookup]
  simp only [hstripped, ref.digest, if_true, hrest]

theorem readModel_of_content {α : Type} {artifactType : String}
    {validate : Items → Option (ArtifactEnvelope × α)} {ref : ArtifactRef} {content : ByteArray}
    {raw : Items} {envelope : ArtifactEnvelope} {body : α}
    (hcontent : readContent env scene artifactType = .ok (ref, content))
    (hraw : env.validateJson content = some raw) (hfree : digestKey ∉ raw.map Prod.fst)
    (hbody : validate raw = some (envelope, body)) :
    readModel env scene artifactType validate = .ok ⟨ref.contentDigest, envelope, body⟩ := by
  refine bind_of_ok hcontent (bind_of_ok (a := raw) ?_ ?_)
  · rw [hraw]
    rfl
  · rw [validateModel_setDefault ref hfree, hbody]
    rfl

/-- The digest of a part that is read is the hash of the bytes it is read from. -/
theorem readPart_spec (hsealed : ReadsSealed env scene) {part : Part}
    {artifact : Artifact part.Body} (h : readPart env scene part = .ok artifact) :
    ∃ ref content raw, readContent env scene part.artifactType = .ok (ref, content) ∧
      env.validateJson content = some raw ∧
      validateModel (env.validate part) (setDefaultDigest raw artifact.contentDigest) =
        some artifact ∧
      artifact.contentDigest = sha256Digest env.hexdigest content := by
  obtain ⟨ref, content, raw, hcontent, hraw, hmodel⟩ := readModel_spec h
  obtain ⟨m, rfl, hdigest, hkeys⟩ := hsealed part ref content hcontent
  have hfree : digestKey ∉ raw.map Prod.fst := by
    intro hkey
    exact m.undigested (hkeys raw hraw digestKey hkey)
  have hsame : artifact.contentDigest = ref.contentDigest := by
    rw [validateModel_setDefault ref hfree, Option.map_eq_some_iff] at hmodel
    obtain ⟨fields, -, rfl⟩ := hmodel
    rfl
  refine ⟨ref, _, raw, hcontent, hraw, ?_, hsame.trans hdigest⟩
  rw [hsame]
  exact hmodel

theorem readPart_eq (hsealed : ReadsSealed env scene) (hsealed' : ReadsSealed env scene')
    (hinj : Set.InjOn env.hexdigest (hashed env scene ∪ hashed env scene')) {part : Part}
    {artifact artifact' : Artifact part.Body} (h : readPart env scene part = .ok artifact)
    (h' : readPart env scene' part = .ok artifact')
    (hdigest : artifact.contentDigest = artifact'.contentDigest) : artifact = artifact' := by
  obtain ⟨ref, content, raw, hcontent, hraw, hmodel, hhash⟩ := readPart_spec hsealed h
  obtain ⟨ref', content', raw', hcontent', hraw', hmodel', hhash'⟩ := readPart_spec hsealed' h'
  have hbytes : content = content' := by
    apply hinj
    · exact .inl (.inl ⟨part, ref, hcontent⟩)
    · exact .inr (.inl ⟨part, ref', hcontent'⟩)
    · rw [hhash, hhash'] at hdigest
      exact sha256Digest_inj.mp hdigest
  subst hbytes
  rw [hraw] at hraw'
  cases hraw'
  rw [hdigest, hmodel'] at hmodel
  exact (Option.some.inj hmodel).symm

end Reading

/-! ### The fingerprint -/

section Fingerprint
variable {σ : Type} {env : Environment σ} {scene scene' : Scene σ}

theorem mem_fingerprintParts (part : Part) : part ∈ fingerprintParts := by
  cases part <;> decide

theorem keys_fingerprintItems (caseId : String) (inputs : Inputs) :
    (fingerprintItems caseId inputs).map Prod.fst = "case_id" :: fingerprintParts.map Part.key := by
  unfold fingerprintItems
  rw [List.map_cons, List.map_map]
  rfl

/-- The hashed text tells the case and every digest. -/
theorem fingerprintBytes_inj {caseId caseId' : String} {inputs inputs' : Inputs}
    (h : fingerprintBytes caseId inputs = fingerprintBytes caseId' inputs') :
    caseId = caseId' ∧ ∀ part, (inputs part).contentDigest = (inputs' part).contentDigest := by
  have hkeys : (fingerprintItems caseId inputs).map Prod.fst =
      (fingerprintItems caseId' inputs').map Prod.fst := by
    rw [keys_fingerprintItems, keys_fingerprintItems]
  have hnodup : ((fingerprintItems caseId inputs).map Prod.fst).Nodup := by
    rw [keys_fingerprintItems]
    decide
  have hitems := text_stringItems_inj hkeys hnodup (canonicalJson_inj.mp h)
  obtain ⟨hcase, hdigests⟩ := List.cons.inj hitems
  refine ⟨congrArg Prod.snd hcase, ?_⟩
  intro part
  have hpart := List.map_inj_left.mp hdigests part (mem_fingerprintParts part)
  exact congrArg Prod.snd hpart

theorem requiredStateStr_ok {value : Option String} {key text : String}
    (h : requiredStateStr value key = .ok text) : value = some text := by
  unfold requiredStateStr at h
  split at h
  · split at h
    · cases h
    · cases h
      rfl
  · cases h

theorem requestFingerprint_spec {inputs : Inputs} {fingerprint : String}
    (h : requestFingerprint env scene inputs = .ok fingerprint) :
    ∃ caseId, scene.state.caseId = some caseId ∧
      fingerprint = sha256Digest env.hexdigest (fingerprintBytes caseId inputs) := by
  obtain ⟨caseId, hcase, h⟩ := except_bind_ok h
  cases h
  exact ⟨caseId, requiredStateStr_ok hcase, rfl⟩

/-- One fingerprint, one set of inputs. -/
theorem inputs_eq (hsealed : ReadsSealed env scene) (hsealed' : ReadsSealed env scene')
    (hinj : Set.InjOn env.hexdigest (hashed env scene ∪ hashed env scene'))
    {inputs inputs' : Inputs} (h : ∀ part, readPart env scene part = .ok (inputs part))
    (h' : ∀ part, readPart env scene' part = .ok (inputs' part)) {fingerprint : String}
    (hprint : requestFingerprint env scene inputs = .ok fingerprint)
    (hprint' : requestFingerprint env scene' inputs' = .ok fingerprint) : inputs = inputs' := by
  obtain ⟨caseId, hcase, hhash⟩ := requestFingerprint_spec hprint
  obtain ⟨caseId', hcase', hhash'⟩ := requestFingerprint_spec hprint'
  have hbytes : fingerprintBytes caseId inputs = fingerprintBytes caseId' inputs' := by
    apply hinj
    · exact .inl (.inr ⟨caseId, inputs, hcase, h, rfl⟩)
    · exact .inr (.inr ⟨caseId', inputs', hcase', h', rfl⟩)
    · exact sha256Digest_inj.mp (hhash.symm.trans hhash')
  funext part
  exact readPart_eq hsealed hsealed' hinj (h part) (h' part) ((fingerprintBytes_inj hbytes).2 part)

end Fingerprint

/-! ### What the nodes do -/

section Nodes
variable {σ : Type} {env : Environment σ} {scene : Scene σ}

/-- A sealed request is made of inputs with the fingerprint that its approval is bound to. -/
theorem optimizationRequest_spec {now : String} {request : Artifact OptimizationRequest}
    (h : optimizationRequest env scene now = .ok request) :
    ∃ inputs approval, readInputs env scene = .ok inputs ∧
      readModel env scene "A1ApprovalDecision" env.validateApproval = .ok approval ∧
      approval.body.approval = some request.body.approval ∧
      requestFingerprint env scene inputs = .ok request.body.approval.artifactDigest ∧
      request.body.parts = inputs.parts := by
  obtain ⟨inputs, hinputs, h⟩ := except_bind_ok h
  obtain ⟨approval, happroval, h⟩ := except_bind_ok h
  obtain ⟨objective, hobjective, h⟩ := except_bind_ok h
  obtain ⟨workload, hworkload, h⟩ := except_bind_ok h
  obtain ⟨binding, hbinding, h⟩ := except_bind_ok h
  obtain ⟨-, -, h⟩ := except_bind_ok h
  obtain ⟨fingerprint, hfingerprint, h⟩ := except_bind_ok h
  obtain ⟨_, hdigest, h⟩ := except_bind_ok h
  obtain ⟨caseId, -, h⟩ := except_bind_ok h
  obtain ⟨tenantId, -, h⟩ := except_bind_ok h
  obtain ⟨envelope, -, h⟩ := except_bind_ok h
  obtain ⟨-, -, h⟩ := except_bind_ok h
  cases h
  refine ⟨inputs, approval, hinputs, happroval, require_ok hbinding, ?_, ?_⟩
  · have hbound : binding.artifactDigest = fingerprint := by simpa using check_ok hdigest
    show requestFingerprint env scene inputs = .ok binding.artifactDigest
    rw [hbound]
    exact hfingerprint
  · show (requestOf inputs objective workload binding fingerprint).parts = _
    unfold Inputs.parts
    rw [require_ok hobjective, require_ok hworkload]
    rfl

theorem policyDecision_approval {repr : String → String} {caseId fingerprint : String}
    {payload : ManualCasePayload} {d : PolicyDecision} {binding : ApprovalBinding}
    (h : (policyDecision repr caseId payload fingerprint d).approval = some binding) :
    binding.artifactDigest = fingerprint := by
  unfold policyDecision at h
  split at h
  · cases h
  · split at h
    · cases h
    · split at h
      · cases h
        rfl
      · cases h

/-- Whoever approves, the approval is bound to the fingerprint. -/
theorem approvalDecision_approval {caseId tenantId fingerprint : String}
    {payload : ManualCasePayload} {quality : A1QualityReport} {inputs : Inputs}
    {binding : ApprovalBinding} (h : (approvalDecision env scene caseId tenantId fingerprint payload
      quality inputs).approval = some binding) : binding.artifactDigest = fingerprint := by
  unfold approvalDecision at h
  split at h
  · split at h
    · cases h
      rfl
    · cases h
  · split at h
    · cases h
    · split at h
      · exact policyDecision_approval h
      · split at h
        · cases h
          rfl
        · cases h

theorem handleA190_spec {decision : A1ApprovalDecision} {binding : ApprovalBinding}
    (h : handleA190 env scene = .ok decision) (hbinding : decision.approval = some binding) :
    ∃ inputs, (∀ part, readPart env scene part = .ok (inputs part)) ∧
      requestFingerprint env scene inputs = .ok binding.artifactDigest := by
  obtain ⟨payload, -, h⟩ := except_bind_ok h
  obtain ⟨quality, -, h⟩ := except_bind_ok h
  obtain ⟨inputs, hinputs, h⟩ := except_bind_ok h
  obtain ⟨fingerprint, hfingerprint, h⟩ := except_bind_ok h
  obtain ⟨caseId, -, h⟩ := except_bind_ok h
  obtain ⟨tenantId, -, h⟩ := except_bind_ok h
  cases h
  refine ⟨inputs, readInputsForApproval_part hinputs, ?_⟩
  rw [approvalDecision_approval hbinding]
  exact hfingerprint

theorem handleA195_error {now : String}
    (h : ∀ request, optimizationRequest env scene now ≠ .ok request) :
    ∃ failure, handleA195 env scene now = (.error failure, scene.store) := by
  unfold handleA195
  cases hrequest : optimizationRequest env scene now with
  | error failure => exact ⟨failure, rfl⟩
  | ok request => exact absurd hrequest (h request)

end Nodes

def binary (n : Nat) : String :=
  String.ofList ((List.range 64).map fun i => if n.testBit i then '1' else '0')

def digestOf (n : Nat) : String := "sha256:" ++ binary n

theorem toList_digestOf (n : Nat) : (digestOf n).toList = S3.digestPrefix ++
    (List.range 64).map fun i => if n.testBit i then '1' else '0' := by
  have hbinary : (binary n).toList =
      (List.range 64).map fun i => if n.testBit i then '1' else '0' := String.toList_ofList
  rw [digestOf, String.toList_append, hbinary]
  rfl

theorem isDigest_digestOf (n : Nat) : isDigest (digestOf n) = true := by
  unfold isDigest
  rw [toList_digestOf, List.drop_left, List.length_map, List.length_range]
  simp only [Bool.and_eq_true, List.isPrefixOf_iff_prefix, List.prefix_append, List.all_eq_true,
    List.mem_map]
  refine ⟨⟨trivial, by decide⟩, ?_⟩
  rintro _ ⟨i, -, rfl⟩
  split <;> decide

theorem digestOf_inj {n m : Nat} (hn : n < 2 ^ 64) (hm : m < 2 ^ 64)
    (h : digestOf n = digestOf m) : n = m := by
  have hlist := congrArg String.toList h
  rw [toList_digestOf, toList_digestOf] at hlist
  have hbits := List.append_cancel_left hlist
  apply Nat.eq_of_testBit_eq
  intro i
  by_cases hi : i < 64
  · have hbit := List.map_inj_left.mp hbits i (List.mem_range.mpr hi)
    cases hni : n.testBit i <;> cases hmi : m.testBit i <;> simp [hni, hmi] at hbit ⊢
  · rw [Nat.testBit_lt_two_pow, Nat.testBit_lt_two_pow]
    · exact lt_of_lt_of_le hm (Nat.pow_le_pow_right (by decide) (by omega))
    · exact lt_of_lt_of_le hn (Nat.pow_le_pow_right (by decide) (by omega))

/-- The parts, and criteria with another weight. -/
inductive Stored where
  | sampled (part : Part)
  | changedCriteria
  deriving DecidableEq

namespace Stored

def all : List Stored := fingerprintParts.map .sampled ++ [.changedCriteria]

theorem mem_all (stored : Stored) : stored ∈ all := by
  cases stored with
  | sampled part => exact List.mem_append_left _ (List.mem_map_of_mem (mem_fingerprintParts part))
  | changedCriteria => decide

def part : Stored → Part
  | .sampled part => part
  | .changedCriteria => .criteria

def uri : Stored → String
  | .sampled part => "s3://artifacts/" ++ part.key
  | .changedCriteria => "s3://artifacts/changed-criteria"

end Stored

theorem sha256_noParents :
    ∀ d ∈ ([] : List String), "sha256:".toList <+: d.toList ∧ d.length = 71 := by
  simp

def sampleEnvelope (artifactType : String) (h : artifactType.length ≤ 89) : ArtifactEnvelope where
  artifactId := "checkout-1-" ++ artifactType
  tenantId := "acme"
  caseId := "checkout-1"
  createdAt := "2025-06-01T08:00:00Z"
  producerName := "a1-production-handler"
  producerVersion := "1.0.0"
  policyVersions := [("a1", "production-v1")]
  extensions := ⟨[], wellFormed_noExtensions⟩
  texts_length := by
    have hid : ("checkout-1-" ++ artifactType).length = 11 + artifactType.length :=
      String.length_append ..
    have hrest : ∀ s ∈ ["acme", "checkout-1", "a1-production-handler", "1.0.0"],
        1 ≤ s.length ∧ s.length ≤ 100 := by
      decide +kernel
    rw [List.forall_mem_cons]
    exact ⟨by omega, hrest⟩
  policies_distinct := distinct_a1Policies
  parents_distinct := List.nodup_nil
  parents_sha256 := sha256_noParents

def partEnvelope (part : Part) : ArtifactEnvelope :=
  sampleEnvelope part.artifactType (by cases part <;> decide +kernel)

def sampleCriteria (weight : ℚ) : CriterionSet :=
  ⟨[⟨"latency-p95", "latency_p95", .minimize, 200, "ms", weight, .p95, .lte, 0, "1.0"⟩], []⟩

/-- The weight that is written, of the two that occur. -/
def weightOf (raw : Items) : ℚ :=
  match raw.lookup "criteria" with
  | some (.list [.dict fields]) =>
    match fields.lookup "weight" with
    | some (.float "2.0") => 2
    | _ => 1
  | _ => 1

/-- What the parts stored here are read as. -/
def sampleBody (raw : Items) : (part : Part) → part.Body
  | .source => LocalSourceIdentity.mk "shop" "root" "/srv/shop" "shop" (some "4f2a") false 0 []
  | .objective => CanonicalObjective.mk (some ⟨"Reduce checkout latency", "checkout"⟩) none []
  | .scope => FeatureScope.mk "checkout" ["src/checkout/**"] [] 1 "named in the request" [] []
  | .criteria => sampleCriteria (weightOf raw)
  | .guardrails => GuardrailSet.mk [⟨"correctness", "unit_command_result", .eq, 0, "exit_code",
      .correctness, .blocking, true, "1.0"⟩] []
  | .budget => ExecutionBudgetArtifact.mk ⟨3600, 600, 100000, 1000000, ∅, 1, 1, .normal⟩
      "intake-policy-v1"
  | .workload => WorkloadIdentity.mk (some ⟨"checkout-load", none, "staging", none, 3, 1, 1, "warm",
      "1.0", none, [], none⟩) none []
  | .evidence => EvidenceRequirementSet.mk [⟨"evidence-latency-p95", "latency-p95", {"benchmark"},
      3, true, some "latency_p95", some "ms", .p95, ∅, none, .verified⟩] []

/-! And as they are written. -/

/-- The fields of the criterion before and after its weight. -/
def criterionHead : Items :=
  [("criterion_id", .string "latency-p95"), ("metric_id", .string "latency_p95"),
    ("direction", .string "minimize"), ("target", .float "200.0"), ("unit", .string "ms")]

def criterionTail : Items :=
  [("aggregation", .string "p95"), ("acceptance_operator", .string "lte"),
    ("tolerance", .float "0.0"), ("metric_schema_version", .string "1.0")]

def criteriaItems (weight : String) : Items :=
  [("criteria", .list [.dict (criterionHead ++ ("weight", .float weight) :: criterionTail)]),
    ("missing_fields", .list [])]

def partItems : Part → Items
  | .source => [("repository_id", .string "shop"), ("allowed_root_id", .string "root"),
      ("canonical_path", .string "/srv/shop"), ("relative_path", .string "shop"),
      ("git_revision", .string "4f2a"), ("dirty", .bool false), ("untracked_count", .int 0),
      ("submodule_revisions", .dict [])]
  | .objective => [("objective", .dict [("statement", .string "Reduce checkout latency"),
      ("feature_id", .string "checkout")]), ("requester_hypothesis", .null),
      ("missing_fields", .list [])]
  | .scope => [("feature_id", .string "checkout"),
      ("include_paths", .list [.string "src/checkout/**"]), ("exclude_paths", .list []),
      ("confidence", .float "1.0"), ("rationale", .string "named in the request"),
      ("supporting_paths", .list []), ("alternative_paths", .list [])]
  | .criteria => criteriaItems "1.0"
  | .guardrails => [("guardrails", .list [.dict [("guardrail_id", .string "correctness"),
      ("metric_id", .string "unit_command_result"), ("operator", .string "eq"),
      ("threshold", .float "0.0"), ("unit", .string "exit_code"),
      ("category", .string "correctness"), ("severity", .string "blocking"),
      ("mandatory", .bool true), ("metric_schema_version", .string "1.0")]]),
      ("missing_fields", .list [])]
  | .budget => [("budget", .dict [("deadline_seconds", .int 3600),
      ("maximum_worker_seconds", .int 600), ("maximum_model_tokens", .int 100000),
      ("maximum_storage_bytes", .int 1000000), ("allowed_analyzers", .set []),
      ("maximum_retries", .int 1), ("maximum_concurrency", .int 1),
      ("priority", .string "normal")]), ("policy_version", .string "intake-policy-v1")]
  | .workload => [("workload", .dict [("workload_id", .string "checkout-load"),
      ("dataset_id", .null), ("environment_id", .string "staging"), ("commands", .null),
      ("repetitions", .int 3), ("warmup_runs", .int 1), ("concurrency", .int 1),
      ("cache_state", .string "warm"), ("protocol_version", .string "1.0"),
      ("dataset_digest", .null), ("parameters", .dict []), ("seed", .null)]),
      ("execution", .null), ("missing_fields", .list [])]
  | .evidence => [("evidence_requirements", .list [.dict [
      ("requirement_id", .string "evidence-latency-p95"), ("criterion_id", .string "latency-p95"),
      ("accepted_source_types", .set ["benchmark"]), ("minimum_samples", .int 3),
      ("mandatory", .bool true), ("metric_id", .string "latency_p95"),
      ("canonical_unit", .string "ms"), ("aggregation", .string "p95"),
      ("required_dimensions", .set []), ("freshness_seconds", .null),
      ("minimum_trust_level", .string "verified")]]), ("missing_fields", .list [])]

def Stored.ownItems : Stored → Items
  | .sampled part => partItems part
  | .changedCriteria => criteriaItems "2.0"

def Stored.items (stored : Stored) : Items :=
  (partEnvelope stored.part).fields stored.part.artifactType ++ stored.ownItems

def Stored.content (stored : Stored) : ByteArray := Canonical.canonicalJson (.dict stored.items)

/-! The first entries of the texts tell the artifacts apart. -/

theorem Stored.keys_nodup (stored : Stored) : (stored.items.map Prod.fst).Nodup := by
  cases stored with
  | sampled part => cases part <;> decide +kernel
  | changedCriteria => decide +kernel

theorem Stored.items_undigested (stored : Stored) : digestKey ∉ stored.items.map Prod.fst := by
  cases stored with
  | sampled part => cases part <;> decide +kernel
  | changedCriteria => decide +kernel

theorem Stored.items_wellFormed (stored : Stored) : (Tree.dict stored.items).WellFormed := by
  have hown : ∀ t ∈ stored.ownItems.map Prod.snd, t.WellFormed := by
    cases stored with
    | sampled part =>
      cases part <;> simp [Tree.WellFormed, Tree.Distinct, ownItems, partItems, criteriaItems,
        criterionHead, criterionTail]
    | changedCriteria =>
      simp [Tree.WellFormed, Tree.Distinct, ownItems, criteriaItems, criterionHead, criterionTail]
  apply (all_dict _).mpr
  refine ⟨stored.keys_nodup, ?_⟩
  unfold items
  rw [List.map_append, List.forall_mem_append]
  exact ⟨(partEnvelope stored.part).fields_wellFormed _, hown⟩

def Stored.least : Stored → String × Tree
  | .sampled .source => ("allowed_root_id", .string "root")
  | .sampled .scope => ("alternative_paths", .list [])
  | stored => ("artifact_id", .string ("checkout-1-" ++ stored.part.artifactType))

theorem Stored.least_mem (stored : Stored) :
    (stored.least.1, stored.least.2) ∈ stored.items := by
  unfold items
  cases stored with
  | sampled part => cases part <;> simp [least, part, ownItems, partItems, partEnvelope,
      sampleEnvelope, ArtifactEnvelope.fields]
  | changedCriteria => simp [least, part, partEnvelope, sampleEnvelope, ArtifactEnvelope.fields]

theorem Stored.least_le (stored : Stored) : ∀ item ∈ stored.items, stored.least.1 ≤ item.1 := by
  have hkeys : ∀ key ∈ stored.items.map Prod.fst, stored.least.1 ≤ key := by
    cases stored with
    | sampled part => cases part <;> decide +kernel
    | changedCriteria => decide +kernel
  intro item hitem
  exact hkeys item.1 (List.mem_map_of_mem hitem)

theorem criteria_text_ne : text (.dict (Stored.sampled .criteria).items) ≠
    text (.dict Stored.changedCriteria.items) := by
  intro h
  have hlist : text (.list ([] ++ _ :: [])) = text (.list ([] ++ _ :: [])) := text_dict_inj h
  have hdict : text (.dict (criterionHead ++ ("weight", .float "1.0") :: criterionTail)) =
      text (.dict (criterionHead ++ ("weight", .float "2.0") :: criterionTail)) :=
    text_list_inj hlist
  have hweight := text_dict_inj hdict
  exact absurd hweight (by decide)

theorem Stored.content_inj {a b : Stored} (h : a.content = b.content) : a = b := by
  have htext := canonicalJson_inj.mp h
  obtain ⟨hkey, back, back', hvalue⟩ := text_dict_least_inj a.keys_nodup a.least_mem a.least_le
    b.keys_nodup b.least_mem b.least_le htext
  have hkeys : ∀ a ∈ all, ∀ b ∈ all, a.least.1 = b.least.1 → a.least.1 ≠ "artifact_id" →
      a = b := by
    decide
  by_cases hid : a.least.1 = "artifact_id"
  · have hvalues : ∀ c : Stored, c.least.1 = "artifact_id" →
        c.least.2 = .string ("checkout-1-" ++ c.part.artifactType) := by
      intro c hc
      cases c with
      | sampled part => cases part <;> first | rfl | exact absurd hc (by decide)
      | changedCriteria => rfl
    rw [hvalues a hid, hvalues b (hkey ▸ hid)] at hvalue
    have htype := (String.append_right_inj _).mp (quote_append_inj hvalue).1
    have hpart : a.part = b.part := by
      have htypes : ∀ p ∈ fingerprintParts, ∀ q ∈ fingerprintParts,
          p.artifactType = q.artifactType → p = q := by
        decide
      exact htypes _ (mem_fingerprintParts _) _ (mem_fingerprintParts _) htype
    cases a with
    | sampled p =>
      cases b with
      | sampled q => exact congrArg Stored.sampled hpart
      | changedCriteria =>
        obtain rfl : p = .criteria := hpart
        exact absurd htext criteria_text_ne
    | changedCriteria =>
      cases b with
      | sampled q =>
        obtain rfl : q = .criteria := hpart.symm
        exact absurd htext.symm criteria_text_ne
      | changedCriteria => rfl
  · exact hkeys a a.mem_all b b.mem_all hkey hid

/-! The hash numbers what is hashed here, and is the same for everything else. -/

section Place
variable {α : Type} [DecidableEq α]

/-- Where an entry stands in a table, and the length of the table if it has none. -/
def place (table : List α) (a : α) : Nat := table.idxOf a

theorem place_le (table : List α) (a : α) : place table a ≤ table.length := List.idxOf_le_length

theorem place_inj {table : List α} {a b : α} (ha : a ∈ table) (h : place table a = place table b) :
    a = b :=
  (List.idxOf_inj ha).mp h

theorem place_append {table : List α} {a : α} (ha : a ∈ table) (more : List α) :
    place (table ++ more) a = place table a :=
  List.idxOf_append_of_mem ha

end Place

def storedContents : List ByteArray := Stored.all.map Stored.content

def Stored.digest (stored : Stored) : String := digestOf (place storedContents stored.content)

/-- The parts of the approved state and of the one with other criteria. -/
def storedAs (changed : Bool) (part : Part) : Stored :=
  if changed && part == .criteria then .changedCriteria else .sampled part

def printBytes (changed : Bool) : ByteArray :=
  Canonical.canonicalJson (.dict (stringItems (("case_id", "checkout-1") ::
    fingerprintParts.map fun part => (part.key, (storedAs changed part).digest))))

def hashTable : List ByteArray := storedContents ++ [printBytes false, printBytes true]

def tableDigest (bytes : ByteArray) : String := binary (place hashTable bytes)

theorem tableDigest_inj {x y : ByteArray} (hx : x ∈ hashTable)
    (h : tableDigest x = tableDigest y) : x = y := by
  have hlength : hashTable.length < 2 ^ 64 := by
    show (storedContents ++ _).length < _
    rw [List.length_append, storedContents, List.length_map]
    decide
  have hplace : ∀ z, place hashTable z < 2 ^ 64 := by
    intro z
    exact lt_of_le_of_lt (place_le hashTable z) hlength
  have hsame : place hashTable x = place hashTable y :=
    digestOf_inj (hplace x) (hplace y) (congrArg ("sha256:" ++ ·) h)
  exact place_inj hx hsame

theorem Stored.content_mem (stored : Stored) : stored.content ∈ storedContents :=
  List.mem_map_of_mem stored.mem_all

theorem Stored.digest_eq (stored : Stored) :
    sha256Digest tableDigest stored.content = stored.digest := by
  have hplace : place hashTable stored.content = place storedContents stored.content :=
    place_append stored.content_mem _
  unfold sha256Digest tableDigest
  rw [hplace]
  rfl

/-! The approval. -/

def sampleBinding : ApprovalBinding :=
  bindingOf "checkout-1" "mara" "owner" (sha256Digest tableDigest (printBytes false))
    "intake-policy-v1"

def approvalEnvelope : ArtifactEnvelope :=
  sampleEnvelope "A1ApprovalDecision" (by decide +kernel)

def bindingItems : Items :=
  [("approval_id", .string sampleBinding.approvalId), ("actor_id", .string sampleBinding.actorId),
    ("actor_role", .string sampleBinding.actorRole), ("decision", .string "approve"),
    ("artifact_digest", .string sampleBinding.artifactDigest),
    ("policy_version", .string sampleBinding.policyVersion)]

def approvalItems : Items :=
  approvalEnvelope.fields "A1ApprovalDecision" ++
    [("approved", .bool true), ("approval", .dict bindingItems),
      ("decision_route", .string "continue"), ("reasons", .list []),
      ("policy_version", .string "intake-policy-v1")]

def approvalContent : ByteArray := Canonical.canonicalJson (.dict approvalItems)

theorem content_ne_approval (stored : Stored) : stored.content ≠ approvalContent := by
  intro h
  have hkeys : (approvalItems.map Prod.fst).Nodup := by decide +kernel
  have hleast : ∀ item ∈ approvalItems, "approval" ≤ item.1 := by
    have hall : ∀ key ∈ approvalItems.map Prod.fst, "approval" ≤ key := by decide +kernel
    intro item hitem
    exact hall item.1 (List.mem_map_of_mem hitem)
  have hmem : ("approval", Tree.dict bindingItems) ∈ approvalItems := by
    apply List.mem_append_right
    exact List.mem_cons_of_mem _ List.mem_cons_self
  obtain ⟨hkey, -⟩ := text_dict_least_inj stored.keys_nodup stored.least_mem stored.least_le hkeys
    hmem hleast (canonicalJson_inj.mp h)
  have hnone : ∀ stored ∈ Stored.all, stored.least.1 ≠ "approval" := by decide
  exact hnone stored stored.mem_all hkey

theorem Stored.isDigest_digest (stored : Stored) : isDigest stored.digest = true :=
  isDigest_digestOf _

theorem isDigest_tableDigest (bytes : ByteArray) :
    isDigest (sha256Digest tableDigest bytes) = true :=
  isDigest_digestOf _

attribute [irreducible] Stored.content Stored.digest printBytes approvalContent tableDigest place

/-! Environment and states. -/

def approvalUri : String := "s3://artifacts/approval"

/-- A field of one of the stored parts. -/
def fieldOf (part : Part) (key : String) : Tree := ((partItems part).lookup key).getD .null

def sampleDump (envelope : ArtifactEnvelope) (r : OptimizationRequest) : Items :=
  envelope.fields "OptimizationRequest" ++
    [("origin", .string "manual"), ("scope_profile", .string "local_sandbox"),
      ("source", .dict [("repository_id", .string r.source.repositoryId),
        ("allowed_root_id", .string r.source.allowedRootId),
        ("relative_path", .string r.source.relativePath), ("requested_revision", .string "4f2a"),
        ("source_kind", .string "local_directory"), ("locator", .null)]),
      ("feature_scope", .dict ((Stored.sampled .scope).items ++
        [(digestKey, .string r.featureScope.contentDigest)])),
      ("objective", fieldOf .objective "objective"), ("criteria", fieldOf .criteria "criteria"),
      ("guardrails", fieldOf .guardrails "guardrails"),
      ("workload", fieldOf .workload "workload"), ("execution", .null),
      ("evidence_requirements", fieldOf .evidence "evidence_requirements"),
      ("budget", fieldOf .budget "budget"), ("approval", .dict bindingItems),
      ("request_fingerprint", .string r.requestFingerprint)]

@[irreducible] def sampleRead (uri : String) : Option ByteArray :=
  if uri = approvalUri then some approvalContent
  else (Stored.all.find? (·.uri == uri)).map Stored.content

/-- The first of a list with a given image. -/
def firstWith {α β : Type} [DecidableEq β] (f : α → β) (list : List α) (b : β) : Option α :=
  list.find? fun a => decide (f a = b)

@[irreducible] def sampleValidateJson (content : ByteArray) : Option Items :=
  if content = approvalContent then some approvalItems
  else (firstWith Stored.content Stored.all content).map Stored.items

def sampleEnv : Environment Unit where
  hexdigest := tableDigest
  repr text := "'" ++ text ++ "'"
  read _ _ ref := sampleRead ref.uri
  putJson store _ _ digest _ := (some ("s3://artifacts/" ++ digest), store)
  policy := none
  validateJson := sampleValidateJson
  validate part raw := some (partEnvelope part, sampleBody raw part)
  validateApproval _ :=
    some (approvalEnvelope, ⟨true, some sampleBinding, .continue_, [], "intake-policy-v1"⟩)
  validateQuality _ := none
  validatePayload _ := none
  dump := sampleDump

def Stored.ref (stored : Stored) : ArtifactRef where
  artifactType := stored.part.artifactType
  schemaVersion := "1.0"
  artifactId := "checkout-1-" ++ stored.part.artifactType
  contentDigest := stored.digest
  uri := stored.uri
  digest := stored.isDigest_digest

def approvalRef : ArtifactRef where
  artifactType := "A1ApprovalDecision"
  schemaVersion := "1.0"
  artifactId := "checkout-1-A1ApprovalDecision"
  contentDigest := sha256Digest tableDigest approvalContent
  uri := approvalUri
  digest := isDigest_tableDigest _

/-- The state that was approved, and the one with other criteria under the same approval. -/
def sceneOf (changed : Bool) : Scene Unit where
  state :=
    { caseId := some "checkout-1"
      tenantId := some "acme"
      artifactRefs := (fingerprintParts.map (storedAs changed)).map Stored.ref ++ [approvalRef] }
  store := ()

def inputsOf (changed : Bool) : Inputs := fun part =>
  ⟨(storedAs changed part).digest, partEnvelope part,
    sampleBody (storedAs changed part).items part⟩

theorem requireRef_sceneOf (changed : Bool) (artifactType : String) :
    requireRef (sceneOf changed).state artifactType =
      require ((((fingerprintParts.map (storedAs changed)).find?
        (·.part.artifactType == artifactType)).map Stored.ref).or
          ([approvalRef].find? (·.artifactType == artifactType))) (.missingRef artifactType) := by
  unfold requireRef sceneOf
  rw [List.find?_append, List.find?_map]
  rfl

theorem readContent_sceneOf {changed : Bool} {artifactType : String} {ref : ArtifactRef}
    {content : ByteArray} (href : requireRef (sceneOf changed).state artifactType = .ok ref)
    (hread : sampleRead ref.uri = some content) :
    readContent sampleEnv (sceneOf changed) artifactType = .ok (ref, content) := by
  refine bind_of_ok href (bind_of_ok (a := "acme") rfl ?_)
  refine bind_of_ok (a := content) ?_ rfl
  exact congrArg (require · _) hread

theorem readContent_part (changed : Bool) (part : Part) :
    readContent sampleEnv (sceneOf changed) part.artifactType =
      .ok ((storedAs changed part).ref, (storedAs changed part).content) := by
  have hfind : (fingerprintParts.map (storedAs changed)).find?
      (·.part.artifactType == part.artifactType) = some (storedAs changed part) := by
    cases changed <;> cases part <;> decide
  have huri : ∀ stored ∈ Stored.all, stored.uri ≠ approvalUri ∧
      Stored.all.find? (·.uri == stored.uri) = some stored := by
    decide
  obtain ⟨hne, hat⟩ := huri _ (storedAs changed part).mem_all
  apply readContent_sceneOf
  · rw [requireRef_sceneOf, hfind]
    rfl
  · show sampleRead (storedAs changed part).uri = _
    unfold sampleRead
    rw [if_neg hne, hat]
    rfl

theorem firstWith_eq {α β : Type} [DecidableEq β] {f : α → β} {list : List α} {a : α}
    (hmem : a ∈ list) (hinj : ∀ b, f b = f a → b = a) : firstWith f list (f a) = some a := by
  unfold firstWith
  cases h : list.find? fun b => decide (f b = f a) with
  | none =>
    have hne := List.find?_eq_none.mp h a hmem
    exact absurd (decide_eq_true rfl) hne
  | some b =>
    have hsame := List.find?_some h
    rw [hinj b (of_decide_eq_true hsame)]

theorem validateJson_content (stored : Stored) :
    sampleValidateJson stored.content = some stored.items := by
  have hfirst := firstWith_eq stored.mem_all fun other => Stored.content_inj
  unfold sampleValidateJson
  rw [if_neg (content_ne_approval stored), hfirst]
  rfl

theorem readPart_sample (changed : Bool) (part : Part) :
    readPart sampleEnv (sceneOf changed) part = .ok (inputsOf changed part) :=
  readModel_of_content (readContent_part changed part) (validateJson_content _)
    (storedAs changed part).items_undigested rfl

theorem readsSealed_sample (changed : Bool) : ReadsSealed sampleEnv (sceneOf changed) := by
  intro part ref content h
  obtain ⟨rfl, rfl⟩ := Prod.mk.inj (Except.ok.inj ((readContent_part changed part).symm.trans h))
  refine ⟨⟨(storedAs changed part).items, none, (storedAs changed part).items_wellFormed,
    (storedAs changed part).items_undigested⟩, ?_, ?_, ?_⟩
  · unfold Stored.content
    rfl
  · show (storedAs changed part).digest = _
    rw [← Stored.digest_eq]
    unfold Stored.content
    rfl
  · intro raw hraw key hkey
    have hitems := Option.some.inj ((validateJson_content (storedAs changed part)).symm.trans hraw)
    rw [← hitems] at hkey
    exact hkey

theorem fingerprintBytes_inputsOf (changed : Bool) :
    fingerprintBytes "checkout-1" (inputsOf changed) = printBytes changed := by
  unfold printBytes
  rfl

theorem hashed_sample {changed : Bool} {bytes : ByteArray}
    (h : bytes ∈ hashed sampleEnv (sceneOf changed)) : bytes ∈ hashTable := by
  cases h with
  | inl h =>
    obtain ⟨part, ref, h⟩ := h
    have hcontent := Except.ok.inj ((readContent_part changed part).symm.trans h)
    rw [← (Prod.mk.inj hcontent).2]
    exact List.mem_append_left _ (storedAs changed part).content_mem
  | inr h =>
    obtain ⟨caseId, inputs, hcase, hinputs, hbytes⟩ := h
    have hid : "checkout-1" = caseId := Option.some.inj hcase
    have hsame : inputs = inputsOf changed := by
      funext part
      exact Except.ok.inj ((hinputs part).symm.trans (readPart_sample changed part))
    rw [hbytes, ← hid, hsame, fingerprintBytes_inputsOf]
    apply List.mem_append_right
    cases changed with
    | false => exact List.mem_cons_self
    | true => exact List.mem_cons_of_mem _ List.mem_cons_self

theorem injOn_sample (changed : Bool) : Set.InjOn sampleEnv.hexdigest
    (hashed sampleEnv (sceneOf false) ∪ hashed sampleEnv (sceneOf changed)) := by
  intro x hx y _ h
  have hmem : x ∈ hashTable := by
    cases hx with
    | inl hx => exact hashed_sample hx
    | inr hx => exact hashed_sample hx
  exact tableDigest_inj hmem h

theorem Stored.digest_ne {stored : Stored} {bytes : ByteArray} (h : stored.content ≠ bytes) :
    stored.digest ≠ sha256Digest tableDigest bytes := by
  intro hdigest
  rw [← stored.digest_eq, sha256Digest_inj] at hdigest
  exact h (tableDigest_inj (List.mem_append_left _ stored.content_mem) hdigest)

theorem Stored.digest_inj {a b : Stored} (h : a.digest = b.digest) : a = b := by
  by_contra hne
  have hcontent : a.content ≠ b.content := fun hsame => hne (Stored.content_inj hsame)
  exact Stored.digest_ne hcontent (h.trans b.digest_eq.symm)

/-- What the envelope demands of a parent holds of every digest. -/
theorem isDigest_parent {digest : String} (h : isDigest digest = true) :
    "sha256:".toList <+: digest.toList ∧ digest.length = 71 := by
  unfold isDigest at h
  rw [Bool.and_eq_true, Bool.and_eq_true, List.isPrefixOf_iff_prefix, beq_iff_eq] at h
  obtain ⟨⟨hstarts, hlength⟩, -⟩ := h
  refine ⟨hstarts, ?_⟩
  have hseven : S3.digestPrefix.length = 7 := by decide
  rw [List.length_drop, hseven, String.length_toList] at hlength
  omega

def sampleParents : List String :=
  (parentParts.map Stored.sampled).map Stored.digest ++ [approvalRef.contentDigest]

theorem sampleParents_nodup : sampleParents.Nodup := by
  apply List.Nodup.append
  · have hparts : (parentParts.map Stored.sampled).Nodup := by decide
    exact hparts.map fun a b h => Stored.digest_inj h
  · exact List.nodup_singleton _
  · intro digest hpart happroval
    obtain ⟨stored, -, rfl⟩ := List.mem_map.mp hpart
    exact Stored.digest_ne (content_ne_approval stored) (List.mem_singleton.mp happroval)

theorem exists_envelope (now : String) : ∃ envelope, baseEnvelope "checkout-1" "acme" now
    "OptimizationRequest" sampleParents = some envelope ∧ envelope.createdAt = now := by
  have htexts : ∀ s ∈ [stripped ("checkout-1" ++ "-" ++ "OptimizationRequest"), stripped "acme",
      stripped "checkout-1", "a1-production-handler", "1.0.0"],
        1 ≤ s.length ∧ s.length ≤ 100 := by
    decide +kernel
  have hdigests : ∀ d ∈ sampleParents, "sha256:".toList <+: d.toList ∧ d.length = 71 := by
    intro d hd
    apply isDigest_parent
    cases List.mem_append.mp hd with
    | inl hd =>
      obtain ⟨stored, -, rfl⟩ := List.mem_map.mp hd
      exact stored.isDigest_digest
    | inr hd =>
      rw [List.mem_singleton.mp hd]
      exact approvalRef.digest
  unfold baseEnvelope
  rw [dif_pos ⟨htexts, sampleParents_nodup, hdigests⟩]
  exact ⟨_, rfl, rfl⟩

def sampleApproval : Artifact A1ApprovalDecision :=
  ⟨approvalRef.contentDigest, approvalEnvelope, true, some sampleBinding, .continue_, [],
    "intake-policy-v1"⟩

theorem readModel_approval (changed : Bool) :
    readModel sampleEnv (sceneOf changed) "A1ApprovalDecision" sampleEnv.validateApproval =
      .ok sampleApproval := by
  have hnone : (fingerprintParts.map (storedAs changed)).find?
      (·.part.artifactType == "A1ApprovalDecision") = none := by
    cases changed <;> decide
  have hcontent : readContent sampleEnv (sceneOf changed) "A1ApprovalDecision" =
      .ok (approvalRef, approvalContent) := by
    apply readContent_sceneOf
    · rw [requireRef_sceneOf, hnone]
      rfl
    · unfold sampleRead
      exact if_pos rfl
  have hjson : sampleValidateJson approvalContent = some approvalItems := by
    unfold sampleValidateJson
    exact if_pos rfl
  have hundigested : digestKey ∉ approvalItems.map Prod.fst := by decide +kernel
  exact readModel_of_content hcontent hjson hundigested rfl

theorem requestFingerprint_sample (changed : Bool) :
    requestFingerprint sampleEnv (sceneOf changed) (inputsOf changed) =
      .ok (sha256Digest tableDigest (printBytes changed)) := by
  refine bind_of_ok (a := "checkout-1") rfl ?_
  rw [fingerprintBytes_inputsOf]
  rfl

theorem exists_request (now : String) : ∃ request, optimizationRequest sampleEnv (sceneOf false)
    now = .ok request ∧ request.envelope.createdAt = now ∧
      request.body.approval = sampleBinding := by
  obtain ⟨envelope, henvelope, hcreated⟩ := exists_envelope now
  let request := requestOf (inputsOf false) ⟨"Reduce checkout latency", "checkout"⟩
    ⟨"checkout-load", none, "staging", none, 3, 1, 1, "warm", "1.0", none, [], none⟩
    sampleBinding (sha256Digest tableDigest (printBytes false))
  have hvalid : validRequest request = true := by
    unfold validRequest
    rw [Bool.and_eq_true]
    exact ⟨rfl, isDigest_tableDigest _⟩
  refine ⟨sealRequest sampleEnv envelope request, ?_, hcreated, rfl⟩
  refine bind_of_ok (readInputs_of_parts (readPart_sample false)) ?_
  refine bind_of_ok (readModel_approval false) ?_
  refine bind_of_ok rfl (bind_of_ok rfl (bind_of_ok rfl (bind_of_ok rfl ?_)))
  refine bind_of_ok (requestFingerprint_sample false) ?_
  refine bind_of_ok (if_pos (beq_self_eq_true _)) (bind_of_ok rfl (bind_of_ok rfl ?_))
  refine bind_of_ok (congrArg (require · _) henvelope) ?_
  exact bind_of_ok (if_pos hvalid) rfl

theorem parts_changed : (inputsOf false).parts ≠ (inputsOf true).parts := by
  intro h
  have hweight : weightOf (Stored.sampled .criteria).items = 1 := by rfl
  have hchanged : weightOf Stored.changedCriteria.items = 2 := by rfl
  have hcriteria : (sampleCriteria (weightOf (Stored.sampled .criteria).items)).criteria =
      (sampleCriteria (weightOf Stored.changedCriteria.items)).criteria :=
    congrArg FrozenParts.criteria h
  rw [hweight, hchanged] at hcriteria
  have hweights := congrArg (List.map Criterion.weight) hcriteria
  exact absurd hweights (by decide)

end ProductionOptimizer.Freeze
