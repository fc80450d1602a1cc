import ProductionOptimizer.Library.Runs
import ProductionOptimizer.QualityLoop

/-!
# Does a revised portfolio converge?

`A3.81` seals a report per pass and `A3.90` names the one that passed. `B2.60` and C0 take
the first report in the order of ids, which is that of pass 0.
-/

namespace ProductionOptimizer
open Runs
set_option autoImplicit false

/-! ### What C0 makes of the case -/

section Gate
variable {D B : Type} [DecidableEq D] {codec : Codec D B} {store : ObjectStore D B}

structure Resolves (codec : Codec D B) (store : ObjectStore D B) (s : CaseState D) (t : SealedType)
    (m : SealedModel D) : Prop where
  ref : s.requireRef t = .ok (sealedRef codec m)
  read : readModel codec store (sealedRef codec m) = .ok m

omit [DecidableEq D] in
theorem Resolves.congr {s s' : CaseState D} {t : SealedType} {m : SealedModel D}
    (h : Resolves codec store s t m) (hrefs : s'.artifactRefs = s.artifactRefs) :
    Resolves codec store s' t m := by
  refine ⟨?_, h.read⟩
  have hsame : s'.requireRef t = s.requireRef t := by
    unfold CaseState.requireRef CaseState.tryRef
    rw [hrefs]
  rw [hsame, h.ref]

/-- The seven artifacts of the gate, linked to each other. -/
structure GateInputs (codec : Codec D B) (store : ObjectStore D B) (inputs : CaseInputs D)
    (report portfolio : SealedModel D) (s : CaseState D) : Prop where
  sound : inputs.Sound codec s.lane
  request : Resolves codec store s .optimizationRequest inputs.request
  source : Resolves codec store s .sourceSnapshot inputs.source
  baseline : Resolves codec store s .baselineSnapshot inputs.baseline
  evidence : Resolves codec store s .evidenceBundle inputs.evidence
  finding : Resolves codec store s .findingSet inputs.finding
  solutions : Resolves codec store s .solutionPortfolio portfolio
  quality : Resolves codec store s .a3QualityReport report
  portfolio_finding : portfolio.digest .findingSetDigest =
    some (sealedRef codec inputs.finding).contentDigest
  portfolio_report : portfolio.digest .qualityReportDigest =
    some (sealedRef codec report).contentDigest
  report_finding : report.digest .findingSetDigest =
    some (sealedRef codec inputs.finding).contentDigest
  passed : report.reportPassed = true
  eligible : portfolio.strategies.any (·.eligible) = true

theorem exists_mapM_ok {ε α β : Type} {f : α → Except ε β} {P : β → Prop} {l : List α}
    (h : ∀ x ∈ l, ∃ y, f x = .ok y ∧ P y) : ∃ ys, l.mapM f = .ok ys ∧ ∀ y ∈ ys, P y := by
  induction l with
  | nil => exact ⟨[], rfl, by simp⟩
  | cons x l ih =>
    obtain ⟨y, hy, hP⟩ := h x List.mem_cons_self
    obtain ⟨ys, hys, hPs⟩ := ih fun z hz => h z (List.mem_cons_of_mem _ hz)
    exact ⟨y :: ys, mapM_cons_ok.mpr ⟨y, ys, hy, hys, rfl⟩, List.forall_mem_cons.mpr ⟨hP, hPs⟩⟩

namespace GateInputs
variable {inputs : CaseInputs D} {report portfolio : SealedModel D} {s s' : CaseState D}

omit [DecidableEq D] in
theorem congr (h : GateInputs codec store inputs report portfolio s)
    (hrefs : s'.artifactRefs = s.artifactRefs) (hlane : s'.lane = s.lane) :
    GateInputs codec store inputs report portfolio s' :=
  { h with
    sound := hlane ▸ h.sound
    request := h.request.congr hrefs
    source := h.source.congr hrefs
    baseline := h.baseline.congr hrefs
    evidence := h.evidence.congr hrefs
    finding := h.finding.congr hrefs
    solutions := h.solutions.congr hrefs
    quality := h.quality.congr hrefs }

omit [DecidableEq D] in
theorem resolves (h : GateInputs codec store inputs report portfolio s) :
    ∀ t ∈ requiredArtifacts, ∃ m, Resolves codec store s t m := by
  simp only [requiredArtifacts, List.forall_mem_cons]
  exact ⟨⟨_, h.request⟩, ⟨_, h.source⟩, ⟨_, h.baseline⟩, ⟨_, h.evidence⟩, ⟨_, h.finding⟩,
    ⟨_, h.solutions⟩, ⟨_, h.quality⟩, by simp⟩

omit [DecidableEq D] in
theorem links (h : GateInputs codec store inputs report portfolio s) :
    ∀ link ∈ digestLinks, ∃ child parent, Resolves codec store s link.child child ∧
      Resolves codec store s link.parent parent ∧
      child.digest link.field = some (sealedRef codec parent).contentDigest := by
  simp only [digestLinks, List.forall_mem_cons]
  exact ⟨⟨_, _, h.baseline, h.request, h.sound.baseline_request⟩,
    ⟨_, _, h.baseline, h.source, h.sound.baseline_source⟩,
    ⟨_, _, h.evidence, h.source, h.sound.evidence_source⟩,
    ⟨_, _, h.finding, h.evidence, h.sound.finding_evidence⟩,
    ⟨_, _, h.solutions, h.finding, h.portfolio_finding⟩,
    ⟨_, _, h.solutions, h.quality, h.portfolio_report⟩,
    ⟨_, _, h.quality, h.finding, h.report_finding⟩, by simp⟩

omit [DecidableEq D] in
theorem accept (h : GateInputs codec store inputs report portfolio s) :
    handleC010 codec store s = .ok { state := s } := by
  obtain ⟨_, _, _, hbody⟩ := h.sound.origin
  simp only [handleC010, readRequired, h.request.ref, h.request.read, hbody, bind, Except.bind,
    if_true]

omit [DecidableEq D] in
theorem validate (h : GateInputs codec store inputs report portfolio s) :
    ∃ results, handleC020 codec store s = .ok { state := { s with c0SchemaResults := results } } ∧
      ∀ result ∈ results, result.valid = true := by
  obtain ⟨results, hresults, hvalid⟩ := exists_mapM_ok (f := validateSchema codec store s)
    (P := fun result => result.valid = true) (l := requiredArtifacts) fun t ht => by
      obtain ⟨m, hm⟩ := h.resolves t ht
      refine ⟨⟨t, true⟩, ?_, rfl⟩
      simp only [validateSchema, hm.ref, hm.read, bind, Except.bind]
  refine ⟨results, ?_, hvalid⟩
  rw [handleC020, hresults]
  rfl

theorem confirm (h : GateInputs codec store inputs report portfolio s) :
    ∃ entries, handleC030 codec store s = .ok { state := { s with c0DigestChain := entries } } ∧
      ∀ entry ∈ entries, entry.linked = true := by
  obtain ⟨refs, hrefs, _⟩ := exists_mapM_ok (f := s.requireRef) (P := fun _ => True)
    (l := requiredArtifacts) fun t ht => by
      obtain ⟨m, hm⟩ := h.resolves t ht
      exact ⟨_, hm.ref, trivial⟩
  obtain ⟨entries, hentries, hlinked⟩ := exists_mapM_ok (f := confirmLink codec store s)
    (P := fun entry => entry.linked = true) (l := digestLinks) fun link hlink => by
      obtain ⟨child, parent, hchild, hparent, hdigest⟩ := h.links link hlink
      refine ⟨⟨link.child, (sealedRef codec child).contentDigest,
        (sealedRef codec parent).contentDigest, true⟩, ?_, rfl⟩
      simp only [confirmLink, hchild.ref, hchild.read, hparent.ref, hdigest, bind, Except.bind,
        decide_true]
  refine ⟨entries, ?_, hlinked⟩
  rw [handleC030, hrefs]
  simp only [bind, Except.bind, hentries]

omit [DecidableEq D] in
theorem compare (h : GateInputs codec store inputs report portfolio s) :
    handleC040 codec store s = .ok { state := { s with
      c0EquivalenceVerdicts :=
        [⟨"request_baseline_contract", true⟩, ⟨"solution_quality_policy", true⟩] } } := by
  simp only [handleC040, readRequired, h.request.ref, h.request.read, h.baseline.ref,
    h.baseline.read, h.quality.ref, h.quality.read, h.sound.workload, h.passed, bind, Except.bind,
    decide_true]

omit [DecidableEq D] in
theorem refresh (h : GateInputs codec store inputs report portfolio s) {a : CaseAnswers}
    (hsource : inputs.source.isFresh a = true) (hevidence : inputs.evidence.isFresh a = true) :
    handleC050 codec a store s = .ok { state := { s with
      c0FreshnessChecks := [⟨"source", true⟩, ⟨"evidence", true⟩] } } := by
  simp only [handleC050, readRequired, h.source.ref, h.source.read, h.evidence.ref,
    h.evidence.read, hsource, hevidence, bind, Except.bind]

omit [DecidableEq D] in
theorem decide_route (h : GateInputs codec store inputs report portfolio s) (a : CaseAnswers)
    (hvalid : ∀ result ∈ s.c0SchemaResults, result.valid = true)
    (hlinked : ∀ entry ∈ s.c0DigestChain, entry.linked = true)
    (hequivalent : ∀ verdict ∈ s.c0EquivalenceVerdicts, verdict.equivalent = true)
    (hfresh : ∀ check ∈ s.c0FreshnessChecks, check.fresh = true) :
    ∃ out, handleC060 codec a store s = .ok out ∧ out.route = .continue_ := by
  have hgates : (convergenceGates s portfolio).all (·.1) = true := by
    simp only [convergenceGates, List.all_cons, List.all_nil, List.all_eq_true.mpr hvalid,
      List.all_eq_true.mpr hlinked, List.all_eq_true.mpr hequivalent, List.all_eq_true.mpr hfresh,
      h.eligible, Bool.and_true]
  unfold handleC060 readRequired
  simp only [h.solutions.ref, h.solutions.read, bind, Except.bind, hgates, if_true]
  exact ⟨_, rfl, rfl⟩

theorem converges (h : GateInputs codec store inputs report portfolio s) {a : CaseAnswers}
    (hsource : inputs.source.isFresh a = true) (hevidence : inputs.evidence.isFresh a = true) :
    ∃ out, convergeCase codec a store s = .ok out ∧ out.route = .continue_ := by
  obtain ⟨results, hvalidate, hvalid⟩ := h.validate
  have hvalidated : GateInputs codec store inputs report portfolio
      { s with c0SchemaResults := results } := h.congr rfl rfl
  obtain ⟨entries, hconfirm, hlinked⟩ := hvalidated.confirm
  have hconfirmed : GateInputs codec store inputs report portfolio
      { s with c0SchemaResults := results, c0DigestChain := entries } := h.congr rfl rfl
  have hcompared : GateInputs codec store inputs report portfolio
      { s with
        c0SchemaResults := results
        c0DigestChain := entries
        c0EquivalenceVerdicts :=
          [⟨"request_baseline_contract", true⟩, ⟨"solution_quality_policy", true⟩] } :=
    h.congr rfl rfl
  have hrefreshed : GateInputs codec store inputs report portfolio
      { s with
        c0SchemaResults := results
        c0DigestChain := entries
        c0EquivalenceVerdicts :=
          [⟨"request_baseline_contract", true⟩, ⟨"solution_quality_policy", true⟩]
        c0FreshnessChecks := [⟨"source", true⟩, ⟨"evidence", true⟩] } :=
    h.congr rfl rfl
  obtain ⟨out, hout, hroute⟩ := hrefreshed.decide_route a hvalid hlinked (by simp) (by simp)
  refine ⟨out, ?_, hroute⟩
  simp only [convergeCase, h.accept, hvalidate, hconfirm, hconfirmed.compare,
    hcompared.refresh hsource hevidence, bind, Except.bind]
  exact hout

end GateInputs

end Gate

section Claim
variable {D B : Type} [DecidableEq D]

/-- The report that B2 and C0 resolve is the one the portfolio names, it passed, the chain
is linked, and with fresh sources C0 converges. -/
structure RevisedConverges (codec : Codec D B) (inputs : CaseInputs D) (c : CaseConfig D B) :
    Prop where
  named : ∀ report portfolio, c.state.requireRef .a3QualityReport = .ok report →
    readRequired codec c.store c.state .solutionPortfolio = .ok portfolio →
      portfolio.digest .qualityReportDigest = some report.contentDigest
  passed : ∀ report, readRequired codec c.store c.state .a3QualityReport = .ok report →
    report.reportPassed = true
  linked : ∀ execution, handleC030 codec c.store c.state = .ok execution →
    ∀ entry ∈ execution.state.c0DigestChain, entry.linked = true
  lineage : ∀ a execution, handleB260 a c.state = .ok execution →
    ∀ proposal ∈ execution.sealedModels, ∀ portfolio,
      readRequired codec c.store c.state .solutionPortfolio = .ok portfolio →
        proposal.digest .qualityReportDigest = portfolio.digest .qualityReportDigest
  converges : ∀ a, inputs.source.isFresh a = true → inputs.evidence.isFresh a = true →
    ∃ out, convergeCase codec a c.store c.state = .ok out ∧ out.route = .continue_

/-- A case that enters A3's last stretch for the first time. -/
structure FirstDraft (codec : Codec D B) (inputs : CaseInputs D) (c : CaseConfig D B) : Prop where
  prepared : Prepared codec inputs c
  position : c.position = some ⟨.A3, 80⟩
  a3RevisionAttempts : c.state.a3RevisionAttempts = 0
  reports : ∀ ref ∈ c.state.artifactRefs, ref.artifactType ≠ .a3QualityReport
  portfolio : NoPortfolio c

variable {codec : Codec D B} {inputs : CaseInputs D} {c₀ c : CaseConfig D B}
  {tr : List (Transition (CaseConfig D B) (CaseVisit D))}

omit [DecidableEq D] in
theorem FirstDraft.draftInv (h : FirstDraft codec inputs c) : DraftInv codec inputs c :=
  .drafting [] (Or.inl h.position)
    { only := fun ref href htype => absurd htype (h.reports ref href)
      stored := by simp
      artifactType := by simp
      artifactId := by simp
      findingSetDigest := by simp }
    h.a3RevisionAttempts.symm (by rw [h.a3RevisionAttempts]; decide) (by simp) h.portfolio

theorem draftInv_of_run (hsound : codec.Sound) (hstart : FirstDraft codec inputs c₀)
    (hrun : Run (CaseStep codec) c₀ tr c) :
    Prepared codec inputs c ∧ DraftInv codec inputs c :=
  hrun.invariant (I := fun c => Prepared codec inputs c ∧ DraftInv codec inputs c)
    ⟨hstart.prepared, hstart.draftInv⟩ fun _ _ _ hinv hstep =>
      ⟨hinv.1.step hstep.spec, hinv.2.step hsound hinv.1 hstep.spec⟩

omit [DecidableEq D] in
/-- Whatever the later passes sealed, the report of pass 0 is found. -/
theorem Reports.requireRef_eq {first : SealedModel D} {rest : List (SealedModel D)}
    (hc : Reports codec inputs (first :: rest) c)
    (hsorted : c.state.artifactRefs.Pairwise SealedRef.le)
    (hlength : (first :: rest).length ≤ maxRevisionAttempts) :
    c.state.requireRef .a3QualityReport = .ok (sealedRef codec first) := by
  have hfirst := hc.stored first List.mem_cons_self
  have htype := hc.artifactType first List.mem_cons_self
  cases hfind : c.state.tryRef .a3QualityReport with
  | none =>
    have hnone := List.find?_eq_none.mp hfind _ hfirst.ref
    simp [sealedRef, htype] at hnone
  | some ref =>
    have href := CaseState.requireRef_of_tryRef hfind
    obtain ⟨hmem, hreftype⟩ := CaseState.requireRef_ok href
    obtain ⟨m, hm, rfl⟩ := hc.only ref hmem hreftype
    obtain ⟨j, hj⟩ := List.mem_iff_getElem?.mp hm
    obtain ⟨hjlt, _⟩ := List.getElem?_eq_some_iff.mp hj
    have hle : c.state.reportId j ≤ c.state.reportId 0 := by
      have hleast := find_least hsorted hfind hfirst.ref htype
      rwa [sealedRef, sealedRef, hc.artifactId j m hj, hc.artifactId 0 first rfl] at hleast
    have hzero : j = 0 := by
      by_contra hne
      have hlt := reportId_lt c.state (Nat.pos_of_ne_zero hne) (Nat.lt_of_lt_of_le hjlt hlength)
      exact absurd hle (not_le_of_gt hlt)
    rw [hzero] at hj
    cases hj
    exact href

omit [DecidableEq D] in
theorem Codec.Sound.eq_of_contentDigest (hsound : codec.Sound) {m m' : SealedModel D}
    (htype : m.artifactType = m'.artifactType)
    (h : (sealedRef codec m).contentDigest = (sealedRef codec m').contentDigest) : m = m' := by
  have hbytes : codec.canonicalJson m = codec.canonicalJson m' := hsound.noCollisions h
  have hround := hsound.roundTrip m
  rw [hbytes, htype, hsound.roundTrip m'] at hround
  exact (Option.some.inj hround).symm

omit [DecidableEq D] in
theorem Prepared.resolves {m : SealedModel D} {t : SealedType} (hsound : codec.Sound)
    (h : OnlyOne codec m c) (ht : m.artifactType = t) : Resolves codec c.store c.state t m :=
  ⟨ht ▸ h.requireRef_eq, h.toStored.readModel_eq hsound⟩

omit [DecidableEq D] in
/-- After a single pass everything C0 looks up fits together. -/
theorem gateInputs_of_first {last portfolio : SealedModel D} (hsound : codec.Sound)
    (hprep : Prepared codec inputs c) (hsorted : c.state.artifactRefs.Pairwise SealedRef.le)
    (hreports : Reports codec inputs [last] c) (hpassed : last.reportPassed = true)
    (hportfolio : PortfolioOf codec inputs last portfolio c) :
    GateInputs codec c.store inputs last portfolio c.state where
  sound := hprep.sound
  request := Prepared.resolves hsound hprep.request hprep.sound.request_type
  source := Prepared.resolves hsound hprep.source hprep.sound.source_type
  baseline := Prepared.resolves hsound hprep.baseline hprep.sound.baseline_type
  evidence := Prepared.resolves hsound hprep.evidence hprep.sound.evidence_type
  finding := Prepared.resolves hsound hprep.finding hprep.sound.finding_type
  solutions := Prepared.resolves hsound hportfolio.onlyOne hportfolio.artifactType
  quality := ⟨hreports.requireRef_eq hsorted (by rw [List.length_singleton]; decide),
    (hreports.stored last List.mem_cons_self).readModel_eq hsound⟩
  portfolio_finding := hportfolio.findingSetDigest
  portfolio_report := hportfolio.qualityReportDigest
  report_finding := hreports.findingSetDigest last List.mem_cons_self
  passed := hpassed
  eligible := hportfolio.eligible

theorem GateInputs.revisedConverges {report portfolio : SealedModel D}
    (h : GateInputs codec c.store inputs report portfolio c.state) :
    RevisedConverges codec inputs c := by
  have hread : ∀ found, readRequired codec c.store c.state .solutionPortfolio = .ok found →
      found = portfolio := by
    intro found hfound
    rw [readRequired, h.solutions.ref] at hfound
    exact Except.ok.inj (hfound.symm.trans h.solutions.read)
  constructor
  · intro ref found href hfound
    cases h.quality.ref.symm.trans href
    rw [hread found hfound, h.portfolio_report]
  · intro found hfound
    rw [readRequired, h.quality.ref] at hfound
    cases hfound.symm.trans h.quality.read
    exact h.passed
  · intro execution hexecution
    obtain ⟨entries, hconfirm, hlinked⟩ := h.confirm
    cases hconfirm.symm.trans hexecution
    exact hlinked
  · intro a execution hexecution proposal hproposal found hfound
    rw [hread found hfound, h.portfolio_report]
    unfold handleB260 at hexecution
    obtain ⟨_, _, hexecution⟩ := except_bind_ok hexecution
    obtain ⟨_, _, hexecution⟩ := except_bind_ok hexecution
    obtain ⟨_, _, hexecution⟩ := except_bind_ok hexecution
    obtain ⟨ref, href, hexecution⟩ := except_bind_ok hexecution
    cases hexecution
    cases h.quality.ref.symm.trans href
    rw [List.mem_singleton.mp hproposal]
    rfl
  · intro a hsource hevidence
    exact h.converges hsource hevidence

/-- A portfolio converges exactly when A3 needed no revision. -/
theorem revisedConverges_iff (hsound : codec.Sound) (hstart : FirstDraft codec inputs c₀)
    (hrun : Run (CaseStep codec) c₀ tr c) (hpos : c.position = some ⟨.C0, 10⟩) :
    RevisedConverges codec inputs c ↔ c.state.a3RevisionAttempts = 0 := by
  obtain ⟨hprep, hpass⟩ := draftInv_of_run hsound hstart hrun
  cases hpass with
  | handedOver earlier last portfolio _ hsorted hreports hlength hbound hfailed hpassed
      hportfolio =>
    cases earlier with
    | nil =>
      refine iff_of_true ?_ hlength.symm
      have hgate := gateInputs_of_first hsound hprep hsorted hreports hpassed hportfolio
      exact hgate.revisedConverges
    | cons first rest =>
      refine iff_of_false (fun hconverges => ?_) ?_
      · have hbounded : (first :: rest ++ [last]).length ≤ maxRevisionAttempts := by
          rw [List.length_append, List.length_singleton, hlength]
          omega
        have hresolved := hreports.requireRef_eq hsorted hbounded
        have hread := hportfolio.onlyOne.readRequired_eq hsound
        rw [hportfolio.artifactType] at hread
        have hnamed := hconverges.named _ _ hresolved hread
        rw [hportfolio.qualityReportDigest] at hnamed
        have hsame : last = first := by
          refine hsound.eq_of_contentDigest ?_ (Option.some.inj hnamed)
          rw [hreports.artifactType last (by simp), hreports.artifactType first (by simp)]
        rw [hsame, hfailed first List.mem_cons_self] at hpassed
        cases hpassed
      · rw [← hlength]
        exact Nat.succ_ne_zero _
  | drafting _ hpos' => rcases hpos' with h | h <;> cases hpos.symm.trans h
  | revising _ hpos' => cases hpos.symm.trans hpos'
  | accepted _ _ hpos' => cases hpos.symm.trans hpos'
  | ended hpos' => cases hpos.symm.trans hpos'

end Claim

/-! ### A small case

The bytes are the models themselves, and a digest is the tree of all an artifact says, so
that no two artifacts collide. -/

inductive DigestTree where
  | empty
  | entry (field : DigestField) (digest rest : DigestTree)
  | node (artifactType : SealedType) (artifactId : String) (createdAt : Nat) (body : Body)
      (digests : DigestTree)
  deriving DecidableEq

def DigestTree.ofDigests : List (DigestField × DigestTree) → DigestTree
  | [] => .empty
  | (field, digest) :: rest => .entry field digest (ofDigests rest)

theorem DigestTree.ofDigests_injective : Function.Injective DigestTree.ofDigests := by
  intro l l' h
  induction l generalizing l' with
  | nil =>
    cases l' with
    | nil => rfl
    | cons e l' => cases h
  | cons e l ih =>
    cases l' with
    | nil => cases h
    | cons e' l' =>
      simp only [ofDigests, DigestTree.entry.injEq] at h
      rw [ih h.2.2, Prod.ext h.1 h.2.1]

def treeCodec : Codec DigestTree (SealedModel DigestTree) where
  canonicalJson m := m
  validate t m := if m.artifactType = t then some m else none
  sha256 m := .node m.artifactType m.artifactId m.createdAt m.body (.ofDigests m.digests)

theorem treeCodec_sound : treeCodec.Sound where
  roundTrip _ := if_pos rfl
  noCollisions m m' h := by
    cases m
    cases m'
    simp only [treeCodec, DigestTree.node.injEq] at h
    obtain ⟨rfl, rfl, rfl, rfl, hdigests⟩ := h
    rw [DigestTree.ofDigests_injective hdigests]

def treeDigest (m : SealedModel DigestTree) : DigestTree := (sealedRef treeCodec m).contentDigest

def sampleRequest : SealedModel DigestTree :=
  ⟨.optimizationRequest, "case-OptimizationRequest", 0, [],
    .optimizationRequest .manual "workload" "host" 1000⟩

def sampleSource : SealedModel DigestTree :=
  ⟨.sourceSnapshot, "case-SourceSnapshot", 0, [], .sourceSnapshot "repo" (some "head")⟩

def sampleBaseline : SealedModel DigestTree :=
  ⟨.baselineSnapshot, "case-BaselineSnapshot", 0,
    [(.requestDigest, treeDigest sampleRequest), (.sourceSnapshotDigest, treeDigest sampleSource)],
    .baselineSnapshot "workload" "host"⟩

def sampleEvidence : SealedModel DigestTree :=
  ⟨.evidenceBundle, "case-EvidenceBundle", 0, [(.baselineDigest, treeDigest sampleSource)],
    .evidenceBundle [0]⟩

def sampleFinding : SealedModel DigestTree :=
  ⟨.findingSet, "case-FindingSet", 0, [(.evidenceBundleDigest, treeDigest sampleEvidence)],
    .findingSet [⟨"f1", ["e1"], false, false⟩]⟩

def sampleInputs : CaseInputs DigestTree :=
  ⟨sampleRequest, sampleSource, sampleBaseline, sampleEvidence, sampleFinding⟩

def sampleModels : List (SealedModel DigestTree) :=
  [sampleRequest, sampleSource, sampleBaseline, sampleEvidence, sampleFinding]

def draftedCase : CaseConfig DigestTree (SealedModel DigestTree) where
  position := some ⟨.A3, 80⟩
  state := { caseId := "case", artifactRefs := sampleModels.map (sealedRef treeCodec) }
  store key := sampleModels.find? (treeCodec.sha256 · == key)

theorem onlyOne_sampleModel : ∀ m ∈ sampleModels, OnlyOne treeCodec m draftedCase := by
  have hcheck : ∀ m ∈ sampleModels,
      sealedRef treeCodec m ∈ draftedCase.state.artifactRefs ∧
      draftedCase.store (sealedRef treeCodec m).contentDigest = some (treeCodec.canonicalJson m) ∧
      ∀ ref ∈ draftedCase.state.artifactRefs, ref.artifactType = m.artifactType →
        ref = sealedRef treeCodec m := by decide +kernel
  intro m hm
  obtain ⟨href, hbytes, hunique⟩ := hcheck m hm
  exact ⟨⟨href, hbytes⟩, hunique⟩

theorem firstDraft_draftedCase : FirstDraft treeCodec sampleInputs draftedCase where
  prepared :=
    { intact := fun key bytes h => by simpa using List.find?_some h
      sound :=
        { request_type := rfl
          source_type := rfl
          baseline_type := rfl
          evidence_type := rfl
          finding_type := rfl
          origin := ⟨_, _, _, rfl⟩
          workload := rfl
          baseline_request := rfl
          baseline_source := rfl
          evidence_source := rfl
          finding_evidence := rfl }
      request := onlyOne_sampleModel _ (by simp [sampleModels, sampleInputs])
      source := onlyOne_sampleModel _ (by simp [sampleModels, sampleInputs])
      baseline := onlyOne_sampleModel _ (by simp [sampleModels, sampleInputs])
      evidence := onlyOne_sampleModel _ (by simp [sampleModels, sampleInputs])
      finding := onlyOne_sampleModel _ (by simp [sampleModels, sampleInputs]) }
  position := rfl
  a3RevisionAttempts := rfl
  reports := by decide +kernel
  portfolio := by
    intro ref href
    exact (by decide +kernel : ∀ ref ∈ draftedCase.state.artifactRefs,
      ref.artifactType ≠ .solutionPortfolio) ref href

theorem exists_caseRun (answers : List CaseAnswers)
    (check : List (Transition (CaseConfig DigestTree (SealedModel DigestTree))
      (CaseVisit DigestTree)) × CaseConfig DigestTree (SealedModel DigestTree) → Bool)
    (h : (replay (caseAdvance treeCodec) answers [] draftedCase).any check = true) :
    ∃ tr c, Run (CaseStep treeCodec) draftedCase tr c ∧ check (tr, c) = true :=
  exists_run_of_replay (caseAdvance treeCodec) (fun _ a _ _ hstep => ⟨a, hstep⟩) draftedCase
    answers check h

def eligibleDraft : CaseAnswers := { strategies := [⟨"s1", ["f1"], "fast", true, []⟩] }

def partlyIneligibleDraft : CaseAnswers :=
  { strategies := [⟨"s1", ["f1"], "fast", true, []⟩,
      ⟨"s2", ["f1"], "thorough", false, ["scope_resolution is not fully resolved"]⟩] }

/-- Without a revision the case converges. -/
theorem first_pass_converges :
    ∃ tr c, Run (CaseStep treeCodec) draftedCase tr c ∧ c.position = some ⟨.C0, 10⟩ ∧
      RevisedConverges treeCodec sampleInputs c := by
  obtain ⟨tr, c, hrun, hcheck⟩ := exists_caseRun (List.replicate 3 eligibleDraft)
    (fun out => decide (out.2.position = some ⟨.C0, 10⟩ ∧ out.2.state.a3RevisionAttempts = 0))
    (by decide +kernel)
  obtain ⟨hpos, hfirst⟩ := of_decide_eq_true hcheck
  exact ⟨tr, c, hrun, hpos,
    (revisedConverges_iff treeCodec_sound firstDraft_draftedCase hrun hpos).mpr hfirst⟩

def headUnmoved : CaseAnswers := { revParseHead := fun _ => some "head" }

/-- The second pass passes, the portfolio is sealed, and C0 turns the case away. -/
theorem revised_portfolio_rejected :
    ∃ tr c, Run (CaseStep treeCodec) draftedCase tr c ∧ c.position = some ⟨.C0, 10⟩ ∧
      c.state.a3RevisionAttempts = 1 ∧ sampleSource.isFresh headUnmoved = true ∧
      sampleEvidence.isFresh headUnmoved = true ∧
      (∃ out, convergeCase treeCodec headUnmoved c.store c.state = .ok out ∧
        out.route = .rejected) ∧
      ¬ RevisedConverges treeCodec sampleInputs c := by
  obtain ⟨tr, c, hrun, hcheck⟩ := exists_caseRun
    (List.replicate 3 partlyIneligibleDraft ++ List.replicate 3 eligibleDraft)
    (fun out => decide (out.2.position = some ⟨.C0, 10⟩ ∧ out.2.state.a3RevisionAttempts = 1) &&
      (convergeCase treeCodec headUnmoved out.2.store out.2.state).toOption.any
        (·.route == .rejected)) (by decide +kernel)
  obtain ⟨hstate, hgate⟩ := Bool.and_eq_true_iff.mp hcheck
  obtain ⟨hpos, hpass⟩ := of_decide_eq_true hstate
  obtain ⟨out, hout, hroute⟩ := (Option.any_eq_true _ _).mp hgate
  have hrejected : out.route = .rejected := by simpa using hroute
  have hrun' : convergeCase treeCodec headUnmoved c.store c.state = .ok out :=
    eq_ok_of_toOption hout
  refine ⟨tr, c, hrun, hpos, hpass, by decide +kernel, by decide +kernel,
    ⟨out, hrun', hrejected⟩, fun hconverges => ?_⟩
  obtain ⟨out', hout', hroute'⟩ := hconverges.converges headUnmoved (by decide +kernel)
    (by decide +kernel)
  cases hrun'.symm.trans hout'
  rw [hrejected] at hroute'
  cases hroute'

end ProductionOptimizer
