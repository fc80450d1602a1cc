import Mathlib.Tactic.IntervalCases
import ProductionOptimizer.LaneSteps

/-!
# The revision loop of A3

Each pass seals a report under an id of its own. As long as the loop runs, every report
so far has failed; the one that passes is the last.
-/

namespace ProductionOptimizer
set_option autoImplicit false

structure CaseInputs (D : Type) where
  request : SealedModel D
  source : SealedModel D
  baseline : SealedModel D
  evidence : SealedModel D
  finding : SealedModel D

section Prepared
variable {D B : Type} [DecidableEq D] (codec : Codec D B)

/-- The inputs reference each other as they should, and the baseline was collected for
what the request asks for. -/
structure CaseInputs.Sound (inputs : CaseInputs D) (lane : Origin) : Prop where
  request_type : inputs.request.artifactType = .optimizationRequest
  source_type : inputs.source.artifactType = .sourceSnapshot
  baseline_type : inputs.baseline.artifactType = .baselineSnapshot
  evidence_type : inputs.evidence.artifactType = .evidenceBundle
  finding_type : inputs.finding.artifactType = .findingSet
  origin : ∃ workloadId environmentId tokens,
    inputs.request.body = .optimizationRequest lane workloadId environmentId tokens
  workload : inputs.baseline.workload = inputs.request.workload
  baseline_request : inputs.baseline.digest .requestDigest =
    some (sealedRef codec inputs.request).contentDigest
  baseline_source : inputs.baseline.digest .sourceSnapshotDigest =
    some (sealedRef codec inputs.source).contentDigest
  evidence_source : inputs.evidence.digest .baselineDigest =
    some (sealedRef codec inputs.source).contentDigest
  finding_evidence : inputs.finding.digest .evidenceBundleDigest =
    some (sealedRef codec inputs.evidence).contentDigest

/-- The inputs are sealed, once each, in a store nobody has tampered with. -/
structure Prepared (inputs : CaseInputs D) (c : CaseConfig D B) : Prop where
  intact : StoreIntact codec c.store
  sound : inputs.Sound codec c.state.lane
  request : OnlyOne codec inputs.request c
  source : OnlyOne codec inputs.source c
  baseline : OnlyOne codec inputs.baseline c
  evidence : OnlyOne codec inputs.evidence c
  finding : OnlyOne codec inputs.finding c

variable {codec} {inputs : CaseInputs D} {c c' : CaseConfig D B} {visit : CaseVisit D}

theorem Prepared.step (hc : Prepared codec inputs c) (h : CaseSpec codec c visit c') :
    Prepared codec inputs c' := by
  have hother : ∀ t, t ∉ laneTypes → ∀ m : SealedModel D, m.artifactType = t →
      ∀ new ∈ visit.execution.sealedModels, new.artifactType ≠ m.artifactType := by
    intro t ht m hm new hnew heq
    exact ht (hm ▸ heq ▸ h.type_mem new hnew)
  exact {
    intact := h.intact hc.intact
    sound := h.lane ▸ hc.sound
    request := hc.request.step h (hother _ (by decide) _ hc.sound.request_type)
    source := hc.source.step h (hother _ (by decide) _ hc.sound.source_type)
    baseline := hc.baseline.step h (hother _ (by decide) _ hc.sound.baseline_type)
    evidence := hc.evidence.step h (hother _ (by decide) _ hc.sound.evidence_type)
    finding := hc.finding.step h (hother _ (by decide) _ hc.sound.finding_type) }

end Prepared

/-! ### The reports of the passes -/

section Reports
variable {D B : Type} [DecidableEq D]

def CaseState.reportId (s : CaseState D) (pass : Nat) : String :=
  s.stageArtifactId (passStageId "A3.81" pass) .a3QualityReport

theorem append_lt_append_left {p a b : String} (h : a < b) : p ++ a < p ++ b := by
  rw [String.lt_iff_toList_lt, String.toList_append, String.toList_append]
  exact List.Lex.append_left _ (String.lt_iff_toList_lt.mp h) p.toList

omit [DecidableEq D] in
/-- With one digit, earlier passes have smaller ids. -/
theorem reportId_lt (s : CaseState D) {j k : Nat} (hjk : j < k) (hk : k < maxRevisionAttempts) :
    s.reportId j < s.reportId k := by
  unfold maxRevisionAttempts at hk
  simp only [CaseState.reportId, CaseState.stageArtifactId, String.append_assoc]
  apply append_lt_append_left
  interval_cases k <;> interval_cases j <;> decide +kernel

omit [DecidableEq D] in
theorem reportId_injective (s : CaseState D) {j k : Nat} (hj : j < maxRevisionAttempts)
    (hk : k < maxRevisionAttempts) (h : s.reportId j = s.reportId k) : j = k := by
  rcases Nat.lt_trichotomy j k with hlt | heq | hlt
  · exact absurd h (reportId_lt s hlt hk).ne
  · exact heq
  · exact absurd h (reportId_lt s hlt hj).ne'

/-- The reports of the case: one for each pass so far, each about the same findings. -/
structure Reports (codec : Codec D B) (inputs : CaseInputs D) (reports : List (SealedModel D))
    (c : CaseConfig D B) : Prop where
  only : ∀ ref ∈ c.state.artifactRefs, ref.artifactType = .a3QualityReport →
    ∃ m ∈ reports, ref = sealedRef codec m
  stored : ∀ m ∈ reports, Stored codec m c
  artifactType : ∀ m ∈ reports, m.artifactType = .a3QualityReport
  artifactId : ∀ k m, reports[k]? = some m → m.artifactId = c.state.reportId k
  findingSetDigest : ∀ m ∈ reports, m.digest .findingSetDigest =
    some (sealedRef codec inputs.finding).contentDigest

def NoPortfolio (c : CaseConfig D B) : Prop :=
  ∀ ref ∈ c.state.artifactRefs, ref.artifactType ≠ .solutionPortfolio

structure PortfolioOf (codec : Codec D B) (inputs : CaseInputs D) (m portfolio : SealedModel D)
    (c : CaseConfig D B) : Prop where
  onlyOne : OnlyOne codec portfolio c
  artifactType : portfolio.artifactType = .solutionPortfolio
  findingSetDigest : portfolio.digest .findingSetDigest =
    some (sealedRef codec inputs.finding).contentDigest
  qualityReportDigest : portfolio.digest .qualityReportDigest =
    some (sealedRef codec m).contentDigest
  eligible : portfolio.strategies.any (·.eligible) = true

/-- Where a case is in A3's loop. Every pass before the present one has failed. -/
inductive DraftInv (codec : Codec D B) (inputs : CaseInputs D) (c : CaseConfig D B) : Prop where
  | drafting (reports : List (SealedModel D))
      (hpos : c.position = some ⟨.A3, 80⟩ ∨ c.position = some ⟨.A3, 81⟩)
      (hreports : Reports codec inputs reports c)
      (hlength : reports.length = c.state.a3RevisionAttempts)
      (hbound : c.state.a3RevisionAttempts < maxRevisionAttempts)
      (hfailed : ∀ m ∈ reports, m.reportPassed = false) (hnone : NoPortfolio c)
  | revising (reports : List (SealedModel D)) (hpos : c.position = some ⟨.A3, 82⟩)
      (hreports : Reports codec inputs reports c)
      (hlength : reports.length = c.state.a3RevisionAttempts + 1)
      (hfailed : ∀ m ∈ reports, m.reportPassed = false) (hnone : NoPortfolio c)
  | accepted (earlier : List (SealedModel D)) (last : SealedModel D)
      (hpos : c.position = some ⟨.A3, 90⟩)
      (hreports : Reports codec inputs (earlier ++ [last]) c)
      (hlength : earlier.length = c.state.a3RevisionAttempts)
      (hbound : c.state.a3RevisionAttempts < maxRevisionAttempts)
      (hfailed : ∀ m ∈ earlier, m.reportPassed = false) (hpassed : last.reportPassed = true)
      (hnone : NoPortfolio c)
  | handedOver (earlier : List (SealedModel D)) (last portfolio : SealedModel D)
      (hpos : c.position = some ⟨.B2, 60⟩ ∨ c.position = some ⟨.C0, 10⟩)
      (hsorted : c.state.artifactRefs.Pairwise SealedRef.le)
      (hreports : Reports codec inputs (earlier ++ [last]) c)
      (hlength : earlier.length = c.state.a3RevisionAttempts)
      (hbound : c.state.a3RevisionAttempts < maxRevisionAttempts)
      (hfailed : ∀ m ∈ earlier, m.reportPassed = false) (hpassed : last.reportPassed = true)
      (hportfolio : PortfolioOf codec inputs last portfolio c)
  | ended (hpos : c.position = none)

variable {codec : Codec D B} {inputs : CaseInputs D} {reports : List (SealedModel D)}
  {c c' : CaseConfig D B} {visit : CaseVisit D}

theorem Reports.step (hc : Reports codec inputs reports c) (h : CaseSpec codec c visit c')
    (htype : ∀ new ∈ visit.execution.sealedModels, new.artifactType ≠ .a3QualityReport) :
    Reports codec inputs reports c' where
  only ref href hreftype := by
    rcases (h.mem_iff ref).mp href with hold | ⟨new, hnew, rfl⟩
    · exact hc.only ref hold hreftype
    · exact absurd hreftype (htype new hnew)
  stored m hm := (hc.stored m hm).step h
  artifactType := hc.artifactType
  artifactId k m hm := by
    rw [hc.artifactId k m hm, CaseState.reportId, CaseState.reportId, CaseState.stageArtifactId,
      CaseState.stageArtifactId, h.caseId]
  findingSetDigest := hc.findingSetDigest

theorem Reports.add (hc : Reports codec inputs reports c) (h : CaseSpec codec c visit c')
    (hsound : codec.Sound) (hintact : StoreIntact codec c.store) {new : SealedModel D}
    (hmodels : visit.execution.sealedModels = [new]) (htype : new.artifactType = .a3QualityReport)
    (hid : new.artifactId = c.state.reportId reports.length)
    (hfinding : new.digest .findingSetDigest =
      some (sealedRef codec inputs.finding).contentDigest) :
    Reports codec inputs (reports ++ [new]) c' where
  only ref href hreftype := by
    rcases (h.mem_iff ref).mp href with hold | ⟨m, hm, rfl⟩
    · obtain ⟨m, hm, heq⟩ := hc.only ref hold hreftype
      exact ⟨m, List.mem_append_left _ hm, heq⟩
    · rw [hmodels, List.mem_singleton] at hm
      exact ⟨new, List.mem_append_right _ (List.mem_singleton_self new), hm ▸ rfl⟩
  stored m hm := by
    rcases List.mem_append.mp hm with hm | hm
    · exact (hc.stored m hm).step h
    · rw [List.mem_singleton.mp hm]
      exact h.stored_new hsound hintact (by rw [hmodels]; exact List.mem_singleton_self new)
  artifactType m hm := by
    rcases List.mem_append.mp hm with hm | hm
    · exact hc.artifactType m hm
    · rw [List.mem_singleton.mp hm, htype]
  artifactId k m hm := by
    have hsame : c'.state.reportId k = c.state.reportId k := by
      rw [CaseState.reportId, CaseState.reportId, CaseState.stageArtifactId,
        CaseState.stageArtifactId, h.caseId]
    rw [hsame]
    rcases Nat.lt_or_ge k reports.length with hk | hk
    · rw [List.getElem?_append_left hk] at hm
      exact hc.artifactId k m hm
    · obtain ⟨hlt, _⟩ := List.getElem?_eq_some_iff.mp hm
      rw [List.length_append, List.length_singleton] at hlt
      have hlast : k = reports.length := by omega
      rw [hlast, List.getElem?_concat_length] at hm
      cases hm
      rw [hid, hlast]
  findingSetDigest m hm := by
    rcases List.mem_append.mp hm with hm | hm
    · exact hc.findingSetDigest m hm
    · rw [List.mem_singleton.mp hm, hfinding]

theorem NoPortfolio.step (hc : NoPortfolio c) (h : CaseSpec codec c visit c')
    (htype : ∀ new ∈ visit.execution.sealedModels, new.artifactType ≠ .solutionPortfolio) :
    NoPortfolio c' := by
  intro ref href
  rcases (h.mem_iff ref).mp href with hold | ⟨new, hnew, rfl⟩
  · exact hc ref hold
  · exact htype new hnew

omit [DecidableEq D] in
theorem Reports.requireStageRef_eq (hc : Reports codec inputs reports c) {k : Nat}
    {last : SealedModel D} (hlength : reports.length ≤ maxRevisionAttempts)
    (hk : reports[k]? = some last) {ref : SealedRef D}
    (h : c.state.requireStageRef (passStageId "A3.81" k) .a3QualityReport = .ok ref) :
    ref = sealedRef codec last := by
  obtain ⟨hmem, htype, hid⟩ := CaseState.requireStageRef_ok h
  obtain ⟨m, hm, rfl⟩ := hc.only ref hmem htype
  obtain ⟨j, hj⟩ := List.mem_iff_getElem?.mp hm
  obtain ⟨hjlt, _⟩ := List.getElem?_eq_some_iff.mp hj
  obtain ⟨hklt, _⟩ := List.getElem?_eq_some_iff.mp hk
  have hsame : c.state.reportId j = c.state.reportId k := (hc.artifactId j m hj).symm.trans hid
  have hjk := reportId_injective c.state (by omega) (by omega) hsame
  rw [hjk, hk] at hj
  cases hj
  rfl

theorem caseNext_sealed (route : NodeRoute) (lane : Origin) :
    caseNext ⟨.A3, 90⟩ route lane =
      if lane = .automatic then some ⟨.B2, 60⟩ else some ⟨.C0, 10⟩ := by
  cases route <;> rfl

section Nodes
variable {a : CaseAnswers} {execution : CaseExecution D}

theorem DraftInv.draft (hreports : Reports codec inputs reports c)
    (hlength : reports.length = c.state.a3RevisionAttempts)
    (hbound : c.state.a3RevisionAttempts < maxRevisionAttempts)
    (hfailed : ∀ m ∈ reports, m.reportPassed = false) (hnone : NoPortfolio c)
    (h : CaseSpec codec c ⟨⟨.A3, 80⟩, execution⟩ c')
    (hseals : Seals codec a c ⟨.A3, 80⟩ execution) : DraftInv codec inputs c' := by
  cases hseals with
  | strategySet _ m htype hmodels hpass =>
    have hnew : ∀ new ∈ execution.sealedModels, new.artifactType = .solutionStrategySet := by
      intro new hmem
      rw [hmodels, List.mem_singleton] at hmem
      rw [hmem, htype]
    have hattempts := h.a3RevisionAttempts.trans hpass
    refine .drafting reports (Or.inr h.next) (hreports.step h fun new hmem heq => ?_)
      (hlength.trans hattempts.symm) (hattempts ▸ hbound) hfailed
      (hnone.step h fun new hmem heq => ?_)
    · cases (hnew new hmem).symm.trans heq
    · cases (hnew new hmem).symm.trans heq

/-- The gate: the report of the present pass is added, and the route says what it is. -/
theorem DraftInv.gate (hsound : codec.Sound) (hprep : Prepared codec inputs c)
    (hreports : Reports codec inputs reports c)
    (hlength : reports.length = c.state.a3RevisionAttempts)
    (hbound : c.state.a3RevisionAttempts < maxRevisionAttempts)
    (hfailed : ∀ m ∈ reports, m.reportPassed = false) (hnone : NoPortfolio c)
    (h : CaseSpec codec c ⟨⟨.A3, 81⟩, execution⟩ c')
    (hseals : Seals codec a c ⟨.A3, 81⟩ execution) : DraftInv codec inputs c' := by
  cases hseals with
  | report _ finding strategies results passed hfinding hmodels hroute hpass =>
    have hfindingRef : finding = sealedRef codec inputs.finding := by
      have hrequire := hprep.finding.requireRef_eq
      rw [hprep.sound.finding_type, hfinding] at hrequire
      exact Except.ok.inj hrequire
    have hall := hreports.add h hsound hprep.intact hmodels rfl (by rw [hlength]; rfl)
      (by rw [hfindingRef]; rfl)
    have hattempts := h.a3RevisionAttempts.trans hpass
    have hnone' : NoPortfolio c' := by
      refine hnone.step h fun new hmem => ?_
      rw [hmodels, List.mem_singleton] at hmem
      rw [hmem]
      exact SealedType.noConfusion
    cases hpassed : passed with
    | true =>
      have hnext : c'.position = some ⟨.A3, 90⟩ := by
        rw [h.next, hroute.mpr hpassed]
        rfl
      refine .accepted reports _ hnext hall (hlength.trans hattempts.symm) (hattempts ▸ hbound)
        hfailed hpassed hnone'
    | false =>
      have hnot : execution.route ≠ .continue_ := fun heq => by
        rw [hroute.mp heq] at hpassed
        cases hpassed
      by_cases hrevision : execution.route = .revision
      · have hnext : c'.position = some ⟨.A3, 82⟩ := by
          rw [h.next, hrevision]
          rfl
        refine .revising _ hnext hall ?_ ?_ hnone'
        · rw [List.length_append, List.length_singleton, hlength, hattempts]
        · intro m hm
          rcases List.mem_append.mp hm with hm | hm
          · exact hfailed m hm
          · rw [List.mem_singleton.mp hm]
            exact hpassed
      · refine .ended ?_
        rw [h.next]
        unfold caseNext
        split <;> simp_all

theorem DraftInv.revise (hreports : Reports codec inputs reports c)
    (hlength : reports.length = c.state.a3RevisionAttempts + 1)
    (hfailed : ∀ m ∈ reports, m.reportPassed = false) (hnone : NoPortfolio c)
    (h : CaseSpec codec c ⟨⟨.A3, 82⟩, execution⟩ c')
    (hseals : Seals codec a c ⟨.A3, 82⟩ execution) : DraftInv codec inputs c' := by
  cases hseals with
  | directive _ m htype hmodels hroute hpass =>
    have hnew : ∀ new ∈ execution.sealedModels, new.artifactType = .revisionDirective := by
      intro new hmem
      rw [hmodels, List.mem_singleton] at hmem
      rw [hmem, htype]
    have hattempts := h.a3RevisionAttempts.trans hpass
    by_cases hcontinue : execution.route = .continue_
    · have hnext : c'.position = some ⟨.A3, 80⟩ := by
        rw [h.next, hcontinue]
        rfl
      refine .drafting reports (Or.inl hnext) (hreports.step h fun new hmem heq => ?_)
        (hlength.trans hattempts.symm) (hattempts ▸ hroute hcontinue) hfailed
        (hnone.step h fun new hmem heq => ?_)
      · cases (hnew new hmem).symm.trans heq
      · cases (hnew new hmem).symm.trans heq
    · refine .ended ?_
      rw [h.next]
      unfold caseNext
      split <;> simp_all

/-- The portfolio names the report of the pass that passed. -/
theorem DraftInv.seal (hsound : codec.Sound) (hprep : Prepared codec inputs c)
    {earlier : List (SealedModel D)} {last : SealedModel D}
    (hreports : Reports codec inputs (earlier ++ [last]) c)
    (hlength : earlier.length = c.state.a3RevisionAttempts)
    (hbound : c.state.a3RevisionAttempts < maxRevisionAttempts)
    (hfailed : ∀ m ∈ earlier, m.reportPassed = false) (hpassed : last.reportPassed = true)
    (hnone : NoPortfolio c) (h : CaseSpec codec c ⟨⟨.A3, 90⟩, execution⟩ c')
    (hseals : Seals codec a c ⟨.A3, 90⟩ execution) : DraftInv codec inputs c' := by
  cases hseals with
  | portfolio _ finding quality strategies hfinding hquality heligible hmodels hpass =>
    have hfindingRef : finding = sealedRef codec inputs.finding := by
      have hrequire := hprep.finding.requireRef_eq
      rw [hprep.sound.finding_type, hfinding] at hrequire
      exact Except.ok.inj hrequire
    have hqualityRef : quality = sealedRef codec last := by
      refine hreports.requireStageRef_eq ?_ ?_ hquality
      · rw [List.length_append, List.length_singleton]
        omega
      · rw [← hlength, List.getElem?_concat_length]
    have hattempts := h.a3RevisionAttempts.trans hpass
    have hnext : c'.position = some ⟨.B2, 60⟩ ∨ c'.position = some ⟨.C0, 10⟩ := by
      rw [h.next, caseNext_sealed]
      split
      · exact Or.inl rfl
      · exact Or.inr rfl
    have hreports' : Reports codec inputs (earlier ++ [last]) c' := by
      refine hreports.step h fun new hmem => ?_
      rw [hmodels, List.mem_singleton] at hmem
      rw [hmem]
      exact SealedType.noConfusion
    have hportfolio : PortfolioOf codec inputs last (baseEnvelope a c.state .solutionPortfolio
        [(.findingSetDigest, finding.contentDigest),
         (.qualityReportDigest, quality.contentDigest)] (.strategies strategies)) c' := by
      rw [hfindingRef, hqualityRef] at hmodels ⊢
      refine ⟨⟨h.stored_new hsound hprep.intact (hmodels ▸ List.mem_singleton_self _),
        fun ref href htype => ?_⟩, rfl, rfl, rfl, heligible⟩
      rcases (h.mem_iff ref).mp href with hold | ⟨new, hnew, rfl⟩
      · exact absurd htype (hnone ref hold)
      · rw [hmodels, List.mem_singleton] at hnew
        rw [hnew]
    exact .handedOver earlier last _ hnext h.sorted hreports' (hlength.trans hattempts.symm)
      (hattempts ▸ hbound) hfailed hpassed hportfolio

theorem DraftInv.propose {earlier : List (SealedModel D)} {last portfolio : SealedModel D}
    (hreports : Reports codec inputs (earlier ++ [last]) c)
    (hlength : earlier.length = c.state.a3RevisionAttempts)
    (hbound : c.state.a3RevisionAttempts < maxRevisionAttempts)
    (hfailed : ∀ m ∈ earlier, m.reportPassed = false) (hpassed : last.reportPassed = true)
    (hportfolio : PortfolioOf codec inputs last portfolio c)
    (h : CaseSpec codec c ⟨⟨.B2, 60⟩, execution⟩ c')
    (hseals : Seals codec a c ⟨.B2, 60⟩ execution) : DraftInv codec inputs c' := by
  cases hseals with
  | proposal _ m htype hmodels hpass =>
    have hnew : ∀ new ∈ execution.sealedModels, new.artifactType = .proposalEnvelope := by
      intro new hmem
      rw [hmodels, List.mem_singleton] at hmem
      rw [hmem, htype]
    have hattempts := h.a3RevisionAttempts.trans hpass
    refine .handedOver earlier last portfolio (Or.inr h.next) h.sorted
      (hreports.step h fun new hmem heq => ?_) (hlength.trans hattempts.symm) (hattempts ▸ hbound)
      hfailed hpassed { hportfolio with
        onlyOne := hportfolio.onlyOne.step h fun new hmem heq => ?_ }
    · cases (hnew new hmem).symm.trans heq
    · rw [hportfolio.artifactType] at heq
      cases (hnew new hmem).symm.trans heq

end Nodes

theorem DraftInv.step (hsound : codec.Sound) (hprep : Prepared codec inputs c)
    (hc : DraftInv codec inputs c) (h : CaseSpec codec c visit c') : DraftInv codec inputs c' := by
  obtain ⟨a, hseals⟩ := h.seals
  obtain ⟨node, execution⟩ := visit
  have hnode : ∀ n, c.position = some n → node = n := fun n hn =>
    Option.some.inj (h.position.symm.trans hn)
  cases hc with
  | drafting reports hpos hreports hlength hbound hfailed hnone =>
    rcases hpos with hpos | hpos
    · cases hnode _ hpos
      exact DraftInv.draft hreports hlength hbound hfailed hnone h hseals
    · cases hnode _ hpos
      exact DraftInv.gate hsound hprep hreports hlength hbound hfailed hnone h hseals
  | revising reports hpos hreports hlength hfailed hnone =>
    cases hnode _ hpos
    exact DraftInv.revise hreports hlength hfailed hnone h hseals
  | accepted earlier last hpos hreports hlength hbound hfailed hpassed hnone =>
    cases hnode _ hpos
    exact DraftInv.seal hsound hprep hreports hlength hbound hfailed hpassed hnone h hseals
  | handedOver earlier last portfolio hpos hsorted hreports hlength hbound hfailed hpassed
      hportfolio =>
    rcases hpos with hpos | hpos
    · cases hnode _ hpos
      exact DraftInv.propose hreports hlength hbound hfailed hpassed hportfolio h hseals
    · cases hnode _ hpos
      cases hseals
  | ended hpos =>
    rw [h.position] at hpos
    cases hpos

end Reports

end ProductionOptimizer
