import ProductionOptimizer.Handlers.Convergence
import ProductionOptimizer.Handlers.Answers

/-!
# Is tampering detectable?

`C0.30` and `S07.10` compare digest fields of the artifacts they read with digests of
refs. Neither hashes what it reads, so a change shows up only if it changes one of the
compared fields.
-/

namespace ProductionOptimizer
set_option autoImplicit false

/-- The refs `S07.10` resolves; all but the first and the last are read. -/
structure ChainRefs (D : Type) where
  selected : SealedRef D
  plan : SealedRef D
  taskList : SealedRef D
  patch : SealedRef D
  provenance : SealedRef D
  verification : SealedRef D
  measurement : SealedRef D
  decision : SealedRef D
  baseline : SealedRef D

/-- `_stage`: the scope of a phase in a pass of S03 to S06. -/
def phaseStageId (nodeId phaseId : String) (pass : Nat) : String :=
  nodeId ++ "-" ++ phaseId ++ "-pass" ++ pass.repr

section Node
variable {D B : Type} [DecidableEq D] (codec : Codec D B) (store : ObjectStore D B)
  (s : CaseState D)

def chainRefs : Except CaseFailure (ChainRefs D) := do
  let phaseId ← match s.s03ActivePhaseId with
    | some phaseId => if phaseId = "" then .error .missingPhase else .ok phaseId
    | none => .error .missingPhase
  let pass := s.s03RevisionAttempts
  let selected ← s.requireStageRef (passStageId "S01.90" s.s01ExcludedStrategyIds.length)
    .selectedSolution
  let plan ← s.requireRef .executionPlan
  let taskList ← s.requireRef .taskList
  let patch ← s.requireStageRef (phaseStageId "S03.80" phaseId pass) .patchArtifact
  let provenance ← s.requireStageRef (phaseStageId "S03.80" phaseId pass) .executionProvenance
  let verification ← s.requireStageRef (phaseStageId "S04.90" phaseId pass) .verificationReport
  let measurement ← s.requireStageRef (phaseStageId "S05.90" phaseId pass) .measurement
  let decision ← s.requireStageRef (phaseStageId "S06.80" phaseId pass) .decision
  let baseline ← s.requireRef .baselineSnapshot
  .ok ⟨selected, plan, taskList, patch, provenance, verification, measurement, decision, baseline⟩

/-- `S07.10`: whether the chain is intact, and the route. -/
def handleS0710 : Except CaseFailure (Bool × NodeRoute) := do
  let refs ← chainRefs s
  let plan ← readModel codec store refs.plan
  let taskList ← readModel codec store refs.taskList
  let patch ← readModel codec store refs.patch
  let provenance ← readModel codec store refs.provenance
  let verification ← readModel codec store refs.verification
  let measurement ← readModel codec store refs.measurement
  let decision ← readModel codec store refs.decision
  let intact := decide (
    plan.digest .selectedSolutionDigest = some refs.selected.contentDigest ∧
    taskList.digest .executionPlanDigest = some refs.plan.contentDigest ∧
    patch.digest .executionPlanDigest = some refs.plan.contentDigest ∧
    patch.digest .executionProvenanceDigest = some refs.provenance.contentDigest ∧
    provenance.digest .executionPlanDigest = some refs.plan.contentDigest ∧
    verification.digest .patchDigest = some refs.patch.contentDigest ∧
    verification.digest .executionProvenanceDigest = some refs.provenance.contentDigest ∧
    measurement.digest .patchDigest = some refs.patch.contentDigest ∧
    measurement.digest .baselineDigest = some refs.baseline.contentDigest ∧
    decision.digest .measurementDigest = some refs.measurement.contentDigest ∧
    decision.digest .verificationDigest = some refs.verification.contentDigest)
  .ok (intact, if intact then .continue_ else .rejected)

end Node

/-- A link between two refs of a case. -/
structure RefLink (D : Type) where
  child : SealedRef D
  field : DigestField
  parent : SealedRef D

/-- The links that a node compares. It reads exactly the children. -/
abbrev Chain (D : Type) := List (RefLink D)

section Chains
variable {D B : Type} (codec : Codec D B)

/-- The digest a stored object holds in a field, if the object parses. -/
def storedDigest (store : ObjectStore D B) (ref : SealedRef D) (field : DigestField) : Option D :=
  (readModel codec store ref).toOption.bind (·.digest field)

def Linked (store : ObjectStore D B) (link : RefLink D) : Prop :=
  storedDigest codec store link.child link.field = some link.parent.contentDigest

/-- The bytes the store returns do not hash to the digest of the ref. -/
def Tampered (store : ObjectStore D B) (ref : SealedRef D) : Prop :=
  ∃ bytes, store ref.contentDigest = some bytes ∧ codec.sha256 bytes ≠ ref.contentDigest

def TampersWith (store : ObjectStore D B) (chain : Chain D) : Prop :=
  ∃ link ∈ chain, Tampered codec store link.child

/-- No object that is read was changed, or one of the compared fields was. -/
def KeepsOrBreaks (sealedStore store : ObjectStore D B) (chain : Chain D) : Prop :=
  (∀ link ∈ chain, store link.child.contentDigest = sealedStore link.child.contentDigest) ∨
    ∃ link ∈ chain, storedDigest codec store link.child link.field ≠
      storedDigest codec sealedStore link.child link.field

/-- The case as it was sealed: every object that is read hashes to its ref's digest, and
the links hold. -/
structure SealedChain (sealedStore : ObjectStore D B) (chain : Chain D) : Prop where
  hashed : ∀ link ∈ chain, ∃ bytes, sealedStore link.child.contentDigest = some bytes ∧
    codec.sha256 bytes = link.child.contentDigest
  linked : ∀ link ∈ chain, Linked codec sealedStore link

/-- No two of the byte strings that either store holds for the chain collide. -/
def NoCollisions (sealedStore store : ObjectStore D B) (chain : Chain D) : Prop :=
  ∀ link ∈ chain, ∀ old new, sealedStore link.child.contentDigest = some old →
    store link.child.contentDigest = some new → codec.sha256 old = codec.sha256 new → old = new

/-- Links break exactly where a compared field was changed. -/
theorem exists_unlinked_iff {sealedStore store : ObjectStore D B} {chain : Chain D}
    (hsealed : SealedChain codec sealedStore chain) :
    (∃ link ∈ chain, ¬ Linked codec store link) ↔
      ∃ link ∈ chain, storedDigest codec store link.child link.field ≠
        storedDigest codec sealedStore link.child link.field := by
  refine exists_congr fun link => and_congr_right fun hmem => ?_
  have hlinked : storedDigest codec sealedStore link.child link.field =
      some link.parent.contentDigest := hsealed.linked link hmem
  rw [Linked, hlinked]

/-- Where nothing that is read was changed, nothing is tampered with, and conversely. -/
theorem not_tampersWith_iff {sealedStore store : ObjectStore D B} {chain : Chain D}
    (hsealed : SealedChain codec sealedStore chain)
    (hcollisions : NoCollisions codec sealedStore store chain)
    (hread : ∀ link ∈ chain, ∃ bytes, store link.child.contentDigest = some bytes) :
    ¬ TampersWith codec store chain ↔
      ∀ link ∈ chain, store link.child.contentDigest = sealedStore link.child.contentDigest := by
  constructor
  · intro huntouched link hmem
    obtain ⟨old, hold, hhash⟩ := hsealed.hashed link hmem
    obtain ⟨new, hnew⟩ := hread link hmem
    have hsame : codec.sha256 new = link.child.contentDigest := by
      by_contra hne
      exact huntouched ⟨link, hmem, new, hnew, hne⟩
    rw [hold, hnew, hcollisions link hmem old new hold hnew (hhash.trans hsame.symm)]
  · rintro hkept ⟨link, hmem, new, hnew, hne⟩
    obtain ⟨old, hold, hhash⟩ := hsealed.hashed link hmem
    rw [hkept link hmem, hold] at hnew
    cases hnew
    exact hne hhash

/-- A change of what a chain check reads is noticed exactly when a compared field was
changed. -/
theorem detects_iff {sealedStore store : ObjectStore D B} {chain : Chain D}
    (hsealed : SealedChain codec sealedStore chain)
    (hcollisions : NoCollisions codec sealedStore store chain)
    (hread : ∀ link ∈ chain, ∃ bytes, store link.child.contentDigest = some bytes) :
    (TampersWith codec store chain → ∃ link ∈ chain, ¬ Linked codec store link) ↔
      KeepsOrBreaks codec sealedStore store chain := by
  rw [KeepsOrBreaks, ← not_tampersWith_iff codec hsealed hcollisions hread,
    ← exists_unlinked_iff codec hsealed]
  exact imp_iff_not_or

theorem readModel_ok {store : ObjectStore D B} {ref : SealedRef D} {m : SealedModel D}
    (h : readModel codec store ref = .ok m) :
    (∃ bytes, store ref.contentDigest = some bytes) ∧
      ∀ field, storedDigest codec store ref field = m.digest field := by
  constructor
  · unfold readModel at h
    split at h
    · cases h
    · rename_i bytes hbytes
      exact ⟨bytes, hbytes⟩
  · intro field
    rw [storedDigest, h]
    rfl

end Chains

section Nodes
variable {D B : Type} [DecidableEq D] {codec : Codec D B} {store : ObjectStore D B}
  {s : CaseState D}

/-- The refs behind an entry of the link table. -/
def resolveLink (s : CaseState D) (link : DigestLink) : Except CaseFailure (RefLink D) := do
  let childRef ← s.requireRef link.child
  let parentRef ← s.requireRef link.parent
  .ok ⟨childRef, link.field, parentRef⟩

def convergenceChain (s : CaseState D) : Except CaseFailure (Chain D) :=
  digestLinks.mapM (resolveLink s)

def ChainRefs.links (refs : ChainRefs D) : Chain D :=
  [⟨refs.plan, .selectedSolutionDigest, refs.selected⟩,
   ⟨refs.taskList, .executionPlanDigest, refs.plan⟩,
   ⟨refs.patch, .executionPlanDigest, refs.plan⟩,
   ⟨refs.patch, .executionProvenanceDigest, refs.provenance⟩,
   ⟨refs.provenance, .executionPlanDigest, refs.plan⟩,
   ⟨refs.verification, .patchDigest, refs.patch⟩,
   ⟨refs.verification, .executionProvenanceDigest, refs.provenance⟩,
   ⟨refs.measurement, .patchDigest, refs.patch⟩,
   ⟨refs.measurement, .baselineDigest, refs.baseline⟩,
   ⟨refs.decision, .measurementDigest, refs.measurement⟩,
   ⟨refs.decision, .verificationDigest, refs.verification⟩]

theorem confirmLink_ok {link : DigestLink} {entry : DigestChainLink D}
    (h : confirmLink codec store s link = .ok entry) :
    ∃ refLink, resolveLink s link = .ok refLink ∧
      (∃ bytes, store refLink.child.contentDigest = some bytes) ∧
      (entry.linked = true ↔ Linked codec store refLink) := by
  obtain ⟨childRef, hchild, h⟩ := except_bind_ok h
  obtain ⟨parentRef, hparent, h⟩ := except_bind_ok h
  obtain ⟨m, hread, h⟩ := except_bind_ok h
  cases h
  obtain ⟨hbytes, hdigest⟩ := readModel_ok codec hread
  refine ⟨⟨childRef, link.field, parentRef⟩, ?_, hbytes, ?_⟩
  · rw [resolveLink, hchild, hparent]
    rfl
  · rw [Linked, hdigest, decide_eq_true_eq]

theorem confirmLinks_ok {links : List DigestLink} {entries : List (DigestChainLink D)}
    (h : links.mapM (confirmLink codec store s) = .ok entries) :
    ∃ chain, links.mapM (resolveLink s) = .ok chain ∧
      (∀ link ∈ chain, ∃ bytes, store link.child.contentDigest = some bytes) ∧
      ((∃ entry ∈ entries, entry.linked = false) ↔ ∃ link ∈ chain, ¬ Linked codec store link) := by
  induction links generalizing entries with
  | nil =>
    cases h
    exact ⟨[], rfl, by simp, by simp⟩
  | cons link links ih =>
    obtain ⟨entry, rest, hentry, hrest, rfl⟩ := mapM_cons_ok.mp h
    obtain ⟨refLink, hresolve, hbytes, hlinked⟩ := confirmLink_ok hentry
    obtain ⟨chain, hchain, hread, hrestLinked⟩ := ih hrest
    refine ⟨refLink :: chain, mapM_cons_ok.mpr ⟨refLink, chain, hresolve, hchain, rfl⟩,
      List.forall_mem_cons.mpr ⟨hbytes, hread⟩, ?_⟩
    · rw [List.exists_mem_cons_iff, List.exists_mem_cons_iff, hrestLinked, ← hlinked,
        Bool.not_eq_true]

theorem handleC030_ok {execution : CaseExecution D} {chain : Chain D}
    (h : handleC030 codec store s = .ok execution) (hchain : convergenceChain s = .ok chain) :
    (∀ link ∈ chain, ∃ bytes, store link.child.contentDigest = some bytes) ∧
      ((∃ entry ∈ execution.state.c0DigestChain, entry.linked = false) ↔
        ∃ link ∈ chain, ¬ Linked codec store link) := by
  obtain ⟨_, _, h⟩ := except_bind_ok h
  obtain ⟨entries, hentries, h⟩ := except_bind_ok h
  cases h
  obtain ⟨found, hfound, hread, hlinked⟩ := confirmLinks_ok hentries
  cases hchain.symm.trans hfound
  exact ⟨hread, hlinked⟩

theorem rejects_iff {P : Prop} [Decidable P] :
    (decide P = false ∧ (if decide P then NodeRoute.continue_ else .rejected) ≠ .continue_) ↔
      ¬ P := by
  by_cases h : P <;> simp [h]

theorem handleS0710_ok {verdict : Bool × NodeRoute} {refs : ChainRefs D}
    (h : handleS0710 codec store s = .ok verdict) (hrefs : chainRefs s = .ok refs) :
    (∀ link ∈ refs.links, ∃ bytes, store link.child.contentDigest = some bytes) ∧
      ((verdict.1 = false ∧ verdict.2 ≠ .continue_) ↔
        ∃ link ∈ refs.links, ¬ Linked codec store link) := by
  obtain ⟨found, hfound, h⟩ := except_bind_ok h
  cases hrefs.symm.trans hfound
  obtain ⟨plan, hplan, h⟩ := except_bind_ok h
  obtain ⟨taskList, htaskList, h⟩ := except_bind_ok h
  obtain ⟨patch, hpatch, h⟩ := except_bind_ok h
  obtain ⟨provenance, hprovenance, h⟩ := except_bind_ok h
  obtain ⟨verification, hverification, h⟩ := except_bind_ok h
  obtain ⟨measurement, hmeasurement, h⟩ := except_bind_ok h
  obtain ⟨decision, hdecision, h⟩ := except_bind_ok h
  cases h
  obtain ⟨hplanBytes, hplanDigest⟩ := readModel_ok codec hplan
  obtain ⟨htaskListBytes, htaskListDigest⟩ := readModel_ok codec htaskList
  obtain ⟨hpatchBytes, hpatchDigest⟩ := readModel_ok codec hpatch
  obtain ⟨hprovenanceBytes, hprovenanceDigest⟩ := readModel_ok codec hprovenance
  obtain ⟨hverificationBytes, hverificationDigest⟩ := readModel_ok codec hverification
  obtain ⟨hmeasurementBytes, hmeasurementDigest⟩ := readModel_ok codec hmeasurement
  obtain ⟨hdecisionBytes, hdecisionDigest⟩ := readModel_ok codec hdecision
  constructor
  · simp only [ChainRefs.links, List.forall_mem_cons]
    exact ⟨hplanBytes, htaskListBytes, hpatchBytes, hpatchBytes, hprovenanceBytes,
      hverificationBytes, hverificationBytes, hmeasurementBytes, hmeasurementBytes,
      hdecisionBytes, hdecisionBytes, by simp⟩
  · have hall : (∃ link ∈ refs.links, ¬ Linked codec store link) ↔
        ¬ ∀ link ∈ refs.links, Linked codec store link := by simp
    rw [rejects_iff, hall, not_iff_not]
    simp only [ChainRefs.links, List.forall_mem_cons, Linked, hplanDigest, htaskListDigest,
      hpatchDigest, hprovenanceDigest, hverificationDigest, hmeasurementDigest, hdecisionDigest,
      List.not_mem_nil, false_implies, implies_true, and_true]

end Nodes

section Claim
variable {D B : Type} [DecidableEq D]

/-- Tampering is noticed, by either node, exactly when it spares everything the node reads
or touches a digest field that the node compares. -/
theorem tampering_detected_iff (codec : Codec D B) (sealedStore store : ObjectStore D B)
    (s : CaseState D) :
    (∀ execution chain, handleC030 codec store s = .ok execution →
      convergenceChain s = .ok chain → SealedChain codec sealedStore chain →
      NoCollisions codec sealedStore store chain →
      ((TampersWith codec store chain →
          ∃ entry ∈ execution.state.c0DigestChain, entry.linked = false) ↔
        KeepsOrBreaks codec sealedStore store chain)) ∧
    (∀ verdict refs, handleS0710 codec store s = .ok verdict → chainRefs s = .ok refs →
      SealedChain codec sealedStore refs.links →
      NoCollisions codec sealedStore store refs.links →
      ((TampersWith codec store refs.links → verdict.1 = false ∧ verdict.2 ≠ .continue_) ↔
        KeepsOrBreaks codec sealedStore store refs.links)) := by
  constructor
  · intro execution chain h hchain hsealed hcollisions
    obtain ⟨hread, hlinked⟩ := handleC030_ok h hchain
    rw [hlinked]
    exact detects_iff codec hsealed hcollisions hread
  · intro verdict refs h hrefs hsealed hcollisions
    obtain ⟨hread, hlinked⟩ := handleS0710_ok h hrefs
    rw [hlinked]
    exact detects_iff codec hsealed hcollisions hread

end Claim

/-! ### A small chain

The bytes are the models themselves; the digest is the id together with the time of
sealing, which tells apart all objects below. -/

def sampleCodec : Codec String (SealedModel String) where
  canonicalJson m := m
  validate t m := if m.artifactType = t then some m else none
  sha256 m := m.artifactId ++ "@" ++ m.createdAt.repr

/-- The digest an artifact has that was sealed at time 0. -/
def digestOf (artifactId : String) : String := artifactId ++ "@0"

def sampleModel (t : SealedType) (artifactId : String)
    (digests : List (DigestField × String)) : SealedModel String :=
  ⟨t, artifactId, 0, digests.map fun e => (e.1, digestOf e.2), .text "as sealed"⟩

/-- The artifacts of a case at `S07.10`, and those `C0.30` reads. -/
def chainModels : List (SealedModel String) :=
  [sampleModel .optimizationRequest "case-OptimizationRequest" [],
   sampleModel .sourceSnapshot "case-SourceSnapshot" [],
   sampleModel .baselineSnapshot "case-BaselineSnapshot"
     [(.requestDigest, "case-OptimizationRequest"), (.sourceSnapshotDigest, "case-SourceSnapshot")],
   sampleModel .evidenceBundle "case-EvidenceBundle" [(.baselineDigest, "case-SourceSnapshot")],
   sampleModel .findingSet "case-FindingSet" [(.evidenceBundleDigest, "case-EvidenceBundle")],
   sampleModel .a3QualityReport "case-A3.81-pass0-A3QualityReport"
     [(.findingSetDigest, "case-FindingSet")],
   sampleModel .solutionPortfolio "case-SolutionPortfolio"
     [(.findingSetDigest, "case-FindingSet"),
      (.qualityReportDigest, "case-A3.81-pass0-A3QualityReport")],
   sampleModel .selectedSolution "case-S01.90-pass0-SelectedSolution" [],
   sampleModel .executionPlan "case-ExecutionPlan"
     [(.selectedSolutionDigest, "case-S01.90-pass0-SelectedSolution")],
   sampleModel .taskList "case-TaskList" [(.executionPlanDigest, "case-ExecutionPlan")],
   sampleModel .patchArtifact "case-S03.80-p1-pass0-PatchArtifact"
     [(.executionPlanDigest, "case-ExecutionPlan"),
      (.executionProvenanceDigest, "case-S03.80-p1-pass0-ExecutionProvenance")],
   sampleModel .executionProvenance "case-S03.80-p1-pass0-ExecutionProvenance"
     [(.executionPlanDigest, "case-ExecutionPlan")],
   sampleModel .verificationReport "case-S04.90-p1-pass0-VerificationReport"
     [(.patchDigest, "case-S03.80-p1-pass0-PatchArtifact"),
      (.executionProvenanceDigest, "case-S03.80-p1-pass0-ExecutionProvenance")],
   sampleModel .measurement "case-S05.90-p1-pass0-Measurement"
     [(.patchDigest, "case-S03.80-p1-pass0-PatchArtifact"),
      (.baselineDigest, "case-BaselineSnapshot")],
   sampleModel .decision "case-S06.80-p1-pass0-Decision"
     [(.measurementDigest, "case-S05.90-p1-pass0-Measurement"),
      (.verificationDigest, "case-S04.90-p1-pass0-VerificationReport")]]

def chainCase : CaseState String where
  caseId := "case"
  artifactRefs := chainModels.map (sealedRef sampleCodec)
  s03ActivePhaseId := some "p1"

def chainStore : ObjectStore String (SealedModel String) :=
  fun key => chainModels.find? (sampleCodec.sha256 · == key)

/-- A later edit of what an object says, its digest fields apart. -/
def edited (m : SealedModel String) : SealedModel String :=
  { m with createdAt := 1, body := .text "as edited" }

/-- Every object the two nodes read was edited. -/
def editedStore : ObjectStore String (SealedModel String) := fun key => (chainStore key).map edited

/-- Every object lost its digest fields. -/
def strippedStore : ObjectStore String (SealedModel String) :=
  fun key => (chainStore key).map fun m => { m with createdAt := 1, digests := [] }

instance (store : ObjectStore String (SealedModel String)) (link : RefLink String) :
    Decidable (Linked sampleCodec store link) := inferInstanceAs (Decidable (_ = _))

/-- Whether a link is as it was sealed, and the object it reads does not collide with what
the given store holds in its place. -/
def soundLink (store : ObjectStore String (SealedModel String)) (link : RefLink String) : Bool :=
  let key := link.child.contentDigest
  (chainStore key).any (fun old => sampleCodec.sha256 old == key &&
    (store key).all fun new => new == old || sampleCodec.sha256 new != sampleCodec.sha256 old) &&
  decide (Linked sampleCodec chainStore link)

theorem soundLink_spec {store : ObjectStore String (SealedModel String)} {chain : Chain String}
    (h : chain.all (soundLink store) = true) :
    SealedChain sampleCodec chainStore chain ∧
      NoCollisions sampleCodec chainStore store chain := by
  have hlink : ∀ link ∈ chain, ∃ old, chainStore link.child.contentDigest = some old ∧
      sampleCodec.sha256 old = link.child.contentDigest ∧
      (∀ new, store link.child.contentDigest = some new →
        new = old ∨ sampleCodec.sha256 new ≠ sampleCodec.sha256 old) ∧
      Linked sampleCodec chainStore link := by
    intro link hmem
    have hsound := List.all_eq_true.mp h link hmem
    simp only [soundLink, Bool.and_eq_true, Option.any_eq_true, decide_eq_true_eq] at hsound
    obtain ⟨⟨old, hold, hhash, hnew⟩, hlinked⟩ := hsound
    refine ⟨old, hold, by simpa using hhash, fun new hstored => ?_, hlinked⟩
    rw [hstored] at hnew
    simpa using hnew
  constructor
  · constructor
    · intro link hmem
      obtain ⟨old, hold, hhash, _, _⟩ := hlink link hmem
      exact ⟨old, hold, hhash⟩
    · intro link hmem
      obtain ⟨_, _, _, _, hlinked⟩ := hlink link hmem
      exact hlinked
  · intro link hmem old new hold hnew hhash
    obtain ⟨old', hold', _, hdistinct, _⟩ := hlink link hmem
    cases hold.symm.trans hold'
    exact ((hdistinct new hnew).resolve_right fun hne => hne hhash.symm).symm

/-- An edit that strips the digest fields is noticed. -/
theorem stripped_store_detected :
    ∃ verdict refs, handleS0710 sampleCodec strippedStore chainCase = .ok verdict ∧
      chainRefs chainCase = .ok refs ∧
      (TampersWith sampleCodec strippedStore refs.links →
        verdict.1 = false ∧ verdict.2 ≠ .continue_) := by
  have hcheck : ((chainRefs chainCase).toOption.any fun refs =>
      refs.links.all (soundLink strippedStore) && refs.links.any fun link =>
        storedDigest sampleCodec strippedStore link.child link.field !=
          storedDigest sampleCodec chainStore link.child link.field) = true := by decide +kernel
  have hverdict : (handleS0710 sampleCodec strippedStore chainCase).toOption =
      some (false, .rejected) := by decide +kernel
  obtain ⟨refs, hrefs, hsound⟩ := (Option.any_eq_true _ _).mp hcheck
  obtain ⟨hall, hbroken⟩ := Bool.and_eq_true_iff.mp hsound
  obtain ⟨hsealed, hcollisions⟩ := soundLink_spec hall
  obtain ⟨link, hmem, hne⟩ := List.any_eq_true.mp hbroken
  refine ⟨(false, .rejected), refs, eq_ok_of_toOption hverdict, eq_ok_of_toOption hrefs, ?_⟩
  exact ((tampering_detected_iff sampleCodec chainStore strippedStore chainCase).2 _ refs
    (eq_ok_of_toOption hverdict) (eq_ok_of_toOption hrefs) hsealed hcollisions).mpr
      (Or.inr ⟨link, hmem, by simpa using hne⟩)

def isEdited (link : RefLink String) : Bool :=
  (editedStore link.child.contentDigest).any (sampleCodec.sha256 · != link.child.contentDigest)

theorem tampered_of_isEdited {chain : Chain String} (h : chain.all isEdited = true) :
    ∀ link ∈ chain, Tampered sampleCodec editedStore link.child := by
  intro link hmem
  obtain ⟨bytes, hbytes, hne⟩ := (Option.any_eq_true _ _).mp (List.all_eq_true.mp h link hmem)
  exact ⟨bytes, hbytes, by simpa using hne⟩

/-- Every object of both chains can be edited and neither node notices. -/
theorem edited_store_undetected :
    (∃ execution chain, handleC030 sampleCodec editedStore chainCase = .ok execution ∧
      convergenceChain chainCase = .ok chain ∧ SealedChain sampleCodec chainStore chain ∧
      NoCollisions sampleCodec chainStore editedStore chain ∧
      (∀ link ∈ chain, Tampered sampleCodec editedStore link.child) ∧
      ∀ entry ∈ execution.state.c0DigestChain, entry.linked = true) ∧
    (∃ refs, handleS0710 sampleCodec editedStore chainCase = .ok (true, .continue_) ∧
      chainRefs chainCase = .ok refs ∧ SealedChain sampleCodec chainStore refs.links ∧
      NoCollisions sampleCodec chainStore editedStore refs.links ∧
      ∀ link ∈ refs.links, Tampered sampleCodec editedStore link.child) := by
  constructor
  · have hexecution : ((handleC030 sampleCodec editedStore chainCase).toOption.any fun execution =>
        execution.state.c0DigestChain.all (·.linked)) = true := by decide +kernel
    have hcheck : ((convergenceChain chainCase).toOption.any fun chain =>
        chain.all (soundLink editedStore) && chain.all isEdited) = true := by decide +kernel
    obtain ⟨execution, hhandler, hlinked⟩ := (Option.any_eq_true _ _).mp hexecution
    obtain ⟨chain, hchain, hsound⟩ := (Option.any_eq_true _ _).mp hcheck
    obtain ⟨hall, hedited⟩ := Bool.and_eq_true_iff.mp hsound
    obtain ⟨hsealed, hcollisions⟩ := soundLink_spec hall
    exact ⟨execution, chain, eq_ok_of_toOption hhandler, eq_ok_of_toOption hchain, hsealed,
      hcollisions, tampered_of_isEdited hedited, List.all_eq_true.mp hlinked⟩
  · have hverdict : (handleS0710 sampleCodec editedStore chainCase).toOption =
        some (true, .continue_) := by decide +kernel
    have hcheck : ((chainRefs chainCase).toOption.any fun refs =>
        refs.links.all (soundLink editedStore) && refs.links.all isEdited) = true := by
      decide +kernel
    obtain ⟨refs, hrefs, hsound⟩ := (Option.any_eq_true _ _).mp hcheck
    obtain ⟨hall, hedited⟩ := Bool.and_eq_true_iff.mp hsound
    obtain ⟨hsealed, hcollisions⟩ := soundLink_spec hall
    exact ⟨refs, eq_ok_of_toOption hverdict, eq_ok_of_toOption hrefs, hsealed, hcollisions,
      tampered_of_isEdited hedited⟩

end ProductionOptimizer
