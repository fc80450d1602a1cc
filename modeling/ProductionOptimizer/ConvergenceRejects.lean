import ProductionOptimizer.RevisedPortfolio
import ProductionOptimizer.TamperEvidence

/-!
# Rejection at the convergence gate

`C0.20` writes down which artifacts do not validate and goes on, so that `C0.60` can decide
against the case. The nodes around it read the same artifacts and raise.
-/

namespace ProductionOptimizer
set_option autoImplicit false

/-! ### The whole graph -/

/-- What `C0.60` seals. The four lists are those of the state. -/
structure ConvergenceDecision (D : Type) where
  schemaResults : List SchemaValidationResult
  digestChain : List (DigestChainLink D)
  equivalenceVerdicts : List DimensionEquivalenceVerdict
  freshnessChecks : List FreshnessCheck
  converged : Bool
  reasons : List String
  deriving DecidableEq, Repr

structure ConvergedCase (D : Type) where
  artifactId : String
  createdAt : Nat
  origin : Origin
  requestDigest : D
  sourceSnapshotDigest : D
  baselineDigest : D
  evidenceBundleDigest : D
  solutionPortfolioDigest : D
  convergenceDecisionDigest : D
  deriving DecidableEq, Repr

def SealedModel.verdict {D : Type} (m : SealedModel D) : Bool × List String :=
  match m.body with
  | .convergenceDecision converged reasons => (converged, reasons)
  | _ => (false, [])

section Graph
variable {D B : Type} [DecidableEq D] (codec : Codec D B)

/-- `C0.60` puts the lists of the state it is given into the decision. -/
def decisionOf (s : CaseState D) (m : SealedModel D) : ConvergenceDecision D where
  schemaResults := s.c0SchemaResults
  digestChain := s.c0DigestChain
  equivalenceVerdicts := s.c0EquivalenceVerdicts
  freshnessChecks := s.c0FreshnessChecks
  converged := m.verdict.1
  reasons := m.verdict.2

def handleC070 (a : CaseAnswers) (s : CaseState D) : Except CaseFailure (ConvergedCase D) := do
  let requestRef ← s.requireRef .optimizationRequest
  let sourceRef ← s.requireRef .sourceSnapshot
  let baselineRef ← s.requireRef .baselineSnapshot
  let evidenceRef ← s.requireRef .evidenceBundle
  let portfolioRef ← s.requireRef .solutionPortfolio
  let decisionRef ← s.requireRef .convergenceDecision
  .ok { artifactId := s.caseId ++ "-ConvergedCase"
        createdAt := a.now
        origin := s.lane
        requestDigest := requestRef.contentDigest
        sourceSnapshotDigest := sourceRef.contentDigest
        baselineDigest := baselineRef.contentDigest
        evidenceBundleDigest := evidenceRef.contentDigest
        solutionPortfolioDigest := portfolioRef.contentDigest
        convergenceDecisionDigest := decisionRef.contentDigest }

/-- What a run of C0 leaves behind: the decisions sealed, and the case handed over if
`C0.70` ran. -/
structure ConvergenceRun (D : Type) where
  decisions : List (ConvergenceDecision D)
  convergedCase : Option (ConvergedCase D)
  deriving DecidableEq, Repr

/-- The graph of C0: six nodes in a row, and `C0.70` behind the route `continue` of the
gate. The two nodes that seal may be served at different times. -/
def runC0 (a handoff : CaseAnswers) (store : ObjectStore D B) (s : CaseState D) :
    Except CaseFailure (ConvergenceRun D) := do
  let gate ← convergeCase codec a store s
  let refs ← mergeSealedRefs gate.state.artifactRefs (gate.sealedModels.map (sealedRef codec))
  let decisions := gate.sealedModels.map (decisionOf gate.state)
  match gate.route with
  | .continue_ =>
    let converged ← handleC070 handoff { gate.state with artifactRefs := refs }
    .ok ⟨decisions, some converged⟩
  | _ => .ok ⟨decisions, none⟩

end Graph

/-! ### What each node needs -/

section Nodes
variable {D B : Type} [DecidableEq D] {codec : Codec D B} {store : ObjectStore D B}
  {s s' : CaseState D} {t : SealedType}

/-- The content stored for an artifact of the case validates against its schema. -/
def Validates (codec : Codec D B) (store : ObjectStore D B) (s : CaseState D) (t : SealedType) :
    Prop :=
  ∃ m, readRequired codec store s t = .ok m

def requestOrigin (codec : Codec D B) (store : ObjectStore D B) (s : CaseState D) :
    Option Origin :=
  match readRequired codec store s .optimizationRequest with
  | .ok m =>
    match m.body with
    | .optimizationRequest origin _ _ _ => some origin
    | _ => none
  | .error _ => none

/-- A case before C0: the seven references are there and lead to some content, and no
decision was sealed yet. -/
structure BeforeConvergence (store : ObjectStore D B) (s : CaseState D) : Prop where
  refs : ∀ t ∈ requiredArtifacts, ∃ ref bytes, s.requireRef t = .ok ref ∧
    store ref.contentDigest = some bytes
  undecided : ∀ ref ∈ s.artifactRefs, ref.artifactType ≠ .convergenceDecision

theorem mapM_ok_iff {ε α β : Type} {f : α → Except ε β} {l : List α} :
    (∃ ys, l.mapM f = .ok ys) ↔ ∀ x ∈ l, ∃ y, f x = .ok y := by
  constructor
  · rintro ⟨ys, h⟩
    induction l generalizing ys with
    | nil => simp
    | cons x l ih =>
      obtain ⟨y, rest, hy, hrest, rfl⟩ := mapM_cons_ok.mp h
      exact List.forall_mem_cons.mpr ⟨⟨y, hy⟩, ih rest hrest⟩
  · intro h
    obtain ⟨ys, hys, _⟩ := exists_mapM_ok (P := fun _ => True) fun x hx => by
      obtain ⟨y, hy⟩ := h x hx
      exact ⟨y, hy, trivial⟩
    exact ⟨ys, hys⟩

omit [DecidableEq D] in
theorem requireRef_congr (h : s'.artifactRefs = s.artifactRefs) :
    s'.requireRef t = s.requireRef t := by
  unfold CaseState.requireRef CaseState.tryRef
  rw [h]

omit [DecidableEq D] in
theorem readRequired_congr (h : s'.artifactRefs = s.artifactRefs) :
    readRequired codec store s' t = readRequired codec store s t := by
  unfold readRequired
  rw [requireRef_congr h]

omit [DecidableEq D] in
theorem exists_ref_of_validates (h : Validates codec store s t) :
    ∃ ref m, s.requireRef t = .ok ref ∧ readModel codec store ref = .ok m := by
  obtain ⟨m, hm⟩ := h
  obtain ⟨ref, href, hread⟩ := except_bind_ok hm
  exact ⟨ref, m, href, hread⟩

omit [DecidableEq D] in
theorem validates_of_ref {ref : SealedRef D} {m : SealedModel D} (href : s.requireRef t = .ok ref)
    (hread : readModel codec store ref = .ok m) : Validates codec store s t := by
  refine ⟨m, ?_⟩
  rw [readRequired, href]
  exact hread

omit [DecidableEq D] in
theorem validates_congr (h : s'.artifactRefs = s.artifactRefs) :
    Validates codec store s' t ↔ Validates codec store s t := by
  unfold Validates
  rw [readRequired_congr h]

omit [DecidableEq D] in
theorem handleC010_ok {out : CaseExecution D} (h : handleC010 codec store s = .ok out) :
    out = { state := s } ∧ requestOrigin codec store s = some s.lane := by
  obtain ⟨request, hread, h⟩ := except_bind_ok h
  split at h
  · rename_i origin workloadId environmentId tokens hbody
    split at h
    · rename_i horigin
      cases h
      exact ⟨rfl, by rw [requestOrigin, hread, ← horigin]; simp only [hbody]⟩
    · cases h
  · cases h

omit [DecidableEq D] in
theorem handleC010_of_origin (h : requestOrigin codec store s = some s.lane) :
    handleC010 codec store s = .ok { state := s } := by
  unfold requestOrigin at h
  split at h
  · rename_i request hread
    split at h
    · rename_i hbody
      cases h
      simp only [handleC010, hread, hbody, bind, Except.bind, if_true]
    · cases h
  · cases h

omit [DecidableEq D] in
/-- `C0.20` goes on whatever the contents are. -/
theorem handleC020_ok (codec : Codec D B) (hstart : BeforeConvergence store s) :
    ∃ results, handleC020 codec store s =
      .ok { state := { s with c0SchemaResults := results } } := by
  have hresults : ∃ results, requiredArtifacts.mapM (validateSchema codec store s) =
      .ok results := by
    refine mapM_ok_iff.mpr fun t ht => ?_
    obtain ⟨ref, bytes, href, hbytes⟩ := hstart.refs t ht
    cases hvalidate : codec.validate ref.artifactType bytes with
    | none =>
      refine ⟨⟨t, false⟩, ?_⟩
      simp only [validateSchema, href, readModel, hbytes, hvalidate, bind, Except.bind]
    | some m =>
      refine ⟨⟨t, true⟩, ?_⟩
      simp only [validateSchema, href, readModel, hbytes, hvalidate, bind, Except.bind]
  obtain ⟨results, hresults⟩ := hresults
  refine ⟨results, ?_⟩
  rw [handleC020, hresults]
  rfl

/-- The artifacts that `C0.30` reads. The source and the request are parents only. -/
theorem handleC030_validates {out : CaseExecution D} (h : handleC030 codec store s = .ok out) :
    (∃ entries, out = { state := { s with c0DigestChain := entries } }) ∧
      ∀ link ∈ digestLinks, Validates codec store s link.child := by
  obtain ⟨refs, _, h⟩ := except_bind_ok h
  obtain ⟨entries, hentries, h⟩ := except_bind_ok h
  cases h
  refine ⟨⟨entries, rfl⟩, fun link hlink => ?_⟩
  obtain ⟨entry, hentry⟩ := mapM_ok_iff.mp ⟨entries, hentries⟩ link hlink
  obtain ⟨childRef, hchild, hentry⟩ := except_bind_ok hentry
  obtain ⟨parentRef, _, hentry⟩ := except_bind_ok hentry
  obtain ⟨m, hread, _⟩ := except_bind_ok hentry
  exact validates_of_ref hchild hread

theorem handleC030_of_validates (h : ∀ t ∈ requiredArtifacts, Validates codec store s t) :
    ∃ entries, handleC030 codec store s = .ok { state := { s with c0DigestChain := entries } } := by
  obtain ⟨refs, hrefs⟩ := mapM_ok_iff.mpr fun t ht => by
    obtain ⟨ref, _, href, _⟩ := exists_ref_of_validates (h t ht)
    exact (⟨ref, href⟩ : ∃ ref, s.requireRef t = .ok ref)
  have hsides : ∀ link ∈ digestLinks, link.child ∈ requiredArtifacts ∧
      link.parent ∈ requiredArtifacts := by decide
  have hentries : ∃ entries, digestLinks.mapM (confirmLink codec store s) = .ok entries := by
    refine mapM_ok_iff.mpr fun link hlink => ?_
    obtain ⟨childRef, m, hchild, hread⟩ := exists_ref_of_validates (h _ (hsides link hlink).1)
    obtain ⟨parentRef, _, hparent, _⟩ := exists_ref_of_validates (h _ (hsides link hlink).2)
    simp only [confirmLink, hchild, hparent, hread, bind, Except.bind]
    exact ⟨_, rfl⟩
  obtain ⟨entries, hentries⟩ := hentries
  refine ⟨entries, ?_⟩
  simp only [handleC030, hrefs, hentries, bind, Except.bind]

omit [DecidableEq D] in
theorem handleC040_of_validates (h : ∀ t ∈ requiredArtifacts, Validates codec store s t) :
    ∃ verdicts, handleC040 codec store s =
      .ok { state := { s with c0EquivalenceVerdicts := verdicts } } := by
  obtain ⟨request, hrequest⟩ := h .optimizationRequest (by decide)
  obtain ⟨baseline, hbaseline⟩ := h .baselineSnapshot (by decide)
  obtain ⟨quality, hquality⟩ := h .a3QualityReport (by decide)
  simp only [handleC040, hrequest, hbaseline, hquality, bind, Except.bind]
  exact ⟨_, rfl⟩

omit [DecidableEq D] in
theorem handleC050_of_validates (h : ∀ t ∈ requiredArtifacts, Validates codec store s t)
    (a : CaseAnswers) : ∃ checks, handleC050 codec a store s =
      .ok { state := { s with c0FreshnessChecks := checks } } := by
  obtain ⟨source, hsource⟩ := h .sourceSnapshot (by decide)
  obtain ⟨bundle, hbundle⟩ := h .evidenceBundle (by decide)
  simp only [handleC050, hsource, hbundle, bind, Except.bind]
  exact ⟨_, rfl⟩

end Nodes

section Claim
variable {D B : Type} [DecidableEq D] {codec : Codec D B} {store : ObjectStore D B}
  {s : CaseState D} {a handoff : CaseAnswers}

/-- Every check that the decision reports passed. -/
structure ConvergenceDecision.ChecksPassed (decision : ConvergenceDecision D) : Prop where
  schemas : ∀ result ∈ decision.schemaResults, result.valid = true
  links : ∀ link ∈ decision.digestChain, link.linked = true
  equivalence : ∀ verdict ∈ decision.equivalenceVerdicts, verdict.equivalent = true
  freshness : ∀ check ∈ decision.freshnessChecks, check.fresh = true

def StrategyEligible (codec : Codec D B) (store : ObjectStore D B) (s : CaseState D) : Prop :=
  ∃ portfolio, readRequired codec store s .solutionPortfolio = .ok portfolio ∧
    ∃ strategy ∈ portfolio.strategies, strategy.eligible = true

/-- C0 ends with a decision; an artifact that does not validate is named by it and stops
the case; and `C0.70` runs exactly when nothing speaks against it. -/
def RejectsInsteadOfCrashing (codec : Codec D B) (a handoff : CaseAnswers)
    (store : ObjectStore D B) (s : CaseState D) : Prop :=
  ∃ run decision, runC0 codec a handoff store s = .ok run ∧ run.decisions = [decision] ∧
    (∀ t ∈ requiredArtifacts, ¬ Validates codec store s t →
      decision.converged = false ∧ ⟨t, false⟩ ∈ decision.schemaResults ∧
        run.convergedCase = none) ∧
    (run.convergedCase.isSome = true ↔
      decision.ChecksPassed ∧ StrategyEligible codec store s)

/-- Every required artifact is read by some node that raises. -/
theorem validates_of_convergeCase {gate : CaseExecution D}
    (h : convergeCase codec a store s = .ok gate) :
    requestOrigin codec store s = some s.lane ∧
      ∀ t ∈ requiredArtifacts, Validates codec store s t := by
  obtain ⟨accepted, haccept, h⟩ := except_bind_ok h
  obtain ⟨validated, hvalidate, h⟩ := except_bind_ok h
  obtain ⟨confirmed, hconfirm, h⟩ := except_bind_ok h
  obtain ⟨compared, hcompare, h⟩ := except_bind_ok h
  obtain ⟨refreshed, hrefresh, h⟩ := except_bind_ok h
  obtain ⟨rfl, horigin⟩ := handleC010_ok haccept
  obtain ⟨results, _, hvalidate⟩ := except_bind_ok hvalidate
  cases hvalidate
  obtain ⟨⟨entries, rfl⟩, hchildren⟩ := handleC030_validates hconfirm
  obtain ⟨request, hrequest, hcompare⟩ := except_bind_ok hcompare
  obtain ⟨baseline, _, hcompare⟩ := except_bind_ok hcompare
  obtain ⟨quality, _, hcompare⟩ := except_bind_ok hcompare
  cases hcompare
  obtain ⟨source, hsource, _⟩ := except_bind_ok hrefresh
  have hchild : ∀ link ∈ digestLinks, Validates codec store s link.child := fun link hlink =>
    (validates_congr rfl).mp (hchildren link hlink)
  refine ⟨horigin, ?_⟩
  simp only [requiredArtifacts, List.forall_mem_cons]
  exact ⟨⟨request, (readRequired_congr rfl).symm.trans hrequest⟩,
    ⟨source, (readRequired_congr rfl).symm.trans hsource⟩,
    hchild ⟨.baselineSnapshot, .requestDigest, .optimizationRequest⟩ (by decide),
    hchild ⟨.evidenceBundle, .baselineDigest, .sourceSnapshot⟩ (by decide),
    hchild ⟨.findingSet, .evidenceBundleDigest, .evidenceBundle⟩ (by decide),
    hchild ⟨.solutionPortfolio, .findingSetDigest, .findingSet⟩ (by decide),
    hchild ⟨.a3QualityReport, .findingSetDigest, .findingSet⟩ (by decide), by simp⟩

/-- With seven valid artifacts the six nodes run through, and `C0.60` decides on what they
wrote. -/
theorem convergeCase_of_validates (hstart : BeforeConvergence store s)
    (horigin : requestOrigin codec store s = some s.lane)
    (hvalid : ∀ t ∈ requiredArtifacts, Validates codec store s t) :
    ∃ gate, convergeCase codec a store s = .ok gate ∧
      gate.state.artifactRefs = s.artifactRefs ∧
      handleC060 codec a store gate.state = .ok gate := by
  have hkept : ∀ s' : CaseState D, s'.artifactRefs = s.artifactRefs →
      ∀ t ∈ requiredArtifacts, Validates codec store s' t := fun s' hrefs t ht =>
    (validates_congr hrefs).mpr (hvalid t ht)
  obtain ⟨results, hvalidate⟩ := handleC020_ok codec hstart
  obtain ⟨entries, hconfirm⟩ := handleC030_of_validates (hkept { s with
    c0SchemaResults := results } rfl)
  obtain ⟨verdicts, hcompare⟩ := handleC040_of_validates (hkept { s with
    c0SchemaResults := results, c0DigestChain := entries } rfl)
  obtain ⟨checks, hrefresh⟩ := handleC050_of_validates (hkept { s with
    c0SchemaResults := results, c0DigestChain := entries
    c0EquivalenceVerdicts := verdicts } rfl) a
  obtain ⟨portfolio, hportfolio⟩ := hkept { s with
    c0SchemaResults := results, c0DigestChain := entries
    c0EquivalenceVerdicts := verdicts, c0FreshnessChecks := checks } rfl .solutionPortfolio
    (by decide)
  simp only [convergeCase, handleC010_of_origin horigin, hvalidate, hconfirm, hcompare, hrefresh,
    bind, Except.bind]
  simp only [handleC060, hportfolio, bind, Except.bind]
  exact ⟨_, rfl, rfl, by simp only [hportfolio]⟩

omit [DecidableEq D] in
theorem handleC060_ok {gate : CaseExecution D}
    (h : handleC060 codec a store gate.state = .ok gate) :
    ∃ m, gate.sealedModels = [m] ∧ m.artifactType = .convergenceDecision ∧
      (gate.route = .continue_ ↔
        (decisionOf gate.state m).ChecksPassed ∧ StrategyEligible codec store gate.state) := by
  obtain ⟨portfolio, hportfolio, h⟩ := except_bind_ok h
  have hgate := Except.ok.inj h
  refine ⟨_, (congrArg CaseExecution.sealedModels hgate).symm, rfl, ?_⟩
  have hroute : gate.route = .continue_ ↔
      (convergenceGates gate.state portfolio).all (·.1) = true := by
    rw [← congrArg CaseExecution.route hgate]
    split <;> simp_all
  have heligible : StrategyEligible codec store gate.state ↔
      ∃ strategy ∈ portfolio.strategies, strategy.eligible = true := by
    constructor
    · rintro ⟨read, hread, hstrategy⟩
      cases hportfolio.symm.trans hread
      exact hstrategy
    · intro hstrategy
      exact ⟨portfolio, hportfolio, hstrategy⟩
  rw [hroute, heligible]
  simp only [convergenceGates, List.all_cons, List.all_nil, Bool.and_true, Bool.and_eq_true,
    List.all_eq_true, List.any_eq_true]
  constructor
  · rintro ⟨hschemas, hlinks, hequivalence, hfreshness, hstrategy⟩
    exact ⟨⟨hschemas, hlinks, hequivalence, hfreshness⟩, hstrategy⟩
  · rintro ⟨hpassed, hstrategy⟩
    exact ⟨hpassed.schemas, hpassed.links, hpassed.equivalence, hpassed.freshness, hstrategy⟩

omit [DecidableEq D] in
theorem requireRef_ok_iff {s : CaseState D} {t : SealedType} :
    (∃ ref, s.requireRef t = .ok ref) ↔ ∃ ref ∈ s.artifactRefs, ref.artifactType = t := by
  unfold CaseState.requireRef CaseState.tryRef
  cases hfind : s.artifactRefs.find? (·.artifactType == t) with
  | none =>
    rw [List.find?_eq_none] at hfind
    constructor
    · rintro ⟨ref, href⟩
      cases href
    · rintro ⟨ref, hmem, htype⟩
      exact absurd (beq_iff_eq.mpr htype) (hfind ref hmem)
  | some ref =>
    exact ⟨fun _ => ⟨ref, List.mem_of_find?_eq_some hfind, by simpa using List.find?_some hfind⟩,
      fun _ => ⟨ref, rfl⟩⟩

/-- A first decision merges, and every type that was there before is there after. -/
theorem mergeSealedRefs_first {refs : List (SealedRef D)} {ref : SealedRef D}
    (h : ∀ r ∈ refs, r.artifactType ≠ ref.artifactType) :
    ∃ merged, mergeSealedRefs refs [ref] = .ok merged ∧ ref ∈ merged ∧ ∀ r ∈ refs, r ∈ merged := by
  have hfind : refs.find? (fun r => r.artifactType == ref.artifactType &&
      r.artifactId == ref.artifactId) = none := by
    rw [List.find?_eq_none]
    intro r hr
    simp [h r hr]
  have hmerge : mergeSealedRefs refs [ref] =
      .ok ((refs ++ [ref]).insertionSort SealedRef.le) := by
    simp only [mergeSealedRefs, List.foldlM_cons, List.foldlM_nil, mergeSealedRef, hfind, bind,
      Except.bind, pure, Except.pure]
  refine ⟨_, hmerge, ?_, fun r hr => ?_⟩
  · rw [List.mem_insertionSort]
    exact List.mem_append_right _ (List.mem_singleton.mpr rfl)
  · rw [List.mem_insertionSort]
    exact List.mem_append_left _ hr

omit [DecidableEq D] in
theorem handleC070_ok (handoff : CaseAnswers) {s : CaseState D}
    (hrefs : ∀ t ∈ requiredArtifacts, ∃ ref ∈ s.artifactRefs, ref.artifactType = t)
    (hdecision : ∃ ref ∈ s.artifactRefs, ref.artifactType = .convergenceDecision) :
    ∃ converged, handleC070 handoff s = .ok converged := by
  obtain ⟨request, hrequest⟩ := requireRef_ok_iff.mpr (hrefs .optimizationRequest (by decide))
  obtain ⟨source, hsource⟩ := requireRef_ok_iff.mpr (hrefs .sourceSnapshot (by decide))
  obtain ⟨baseline, hbaseline⟩ := requireRef_ok_iff.mpr (hrefs .baselineSnapshot (by decide))
  obtain ⟨evidence, hevidence⟩ := requireRef_ok_iff.mpr (hrefs .evidenceBundle (by decide))
  obtain ⟨portfolio, hportfolio⟩ := requireRef_ok_iff.mpr (hrefs .solutionPortfolio (by decide))
  obtain ⟨decision, hdecision⟩ := requireRef_ok_iff.mpr hdecision
  simp only [handleC070, hrequest, hsource, hbaseline, hevidence, hportfolio, hdecision, bind,
    Except.bind]
  exact ⟨_, rfl⟩

theorem rejects_of_validates (hstart : BeforeConvergence store s)
    (horigin : requestOrigin codec store s = some s.lane)
    (hvalid : ∀ t ∈ requiredArtifacts, Validates codec store s t) :
    RejectsInsteadOfCrashing codec a handoff store s := by
  obtain ⟨gate, hgate, hrefs, hdecide⟩ :=
    convergeCase_of_validates (a := a) hstart horigin hvalid
  obtain ⟨m, hsealed, htype, hroute⟩ := handleC060_ok hdecide
  have heligible : StrategyEligible codec store gate.state ↔ StrategyEligible codec store s := by
    unfold StrategyEligible
    rw [readRequired_congr hrefs]
  rw [heligible] at hroute
  have hfirst : ∀ r ∈ gate.state.artifactRefs,
      r.artifactType ≠ (sealedRef codec m).artifactType := by
    rw [hrefs, sealedRef, htype]
    exact hstart.undecided
  obtain ⟨merged, hmerged, hnew, hold⟩ := mergeSealedRefs_first hfirst
  by_cases hcontinue : gate.route = .continue_
  · -- the refs that `C0.70` asks for were there before, or are the decision's
    have hkept : ∀ t ∈ requiredArtifacts, ∃ ref ∈ merged, ref.artifactType = t := by
      intro t ht
      obtain ⟨ref, _, href, _⟩ := hstart.refs t ht
      obtain ⟨r, hr, hrtype⟩ := requireRef_ok_iff.mp ⟨ref, href⟩
      exact ⟨r, hold r (hrefs ▸ hr), hrtype⟩
    obtain ⟨converged, hconverged⟩ := handleC070_ok handoff
      (s := { gate.state with artifactRefs := merged }) hkept ⟨_, hnew, htype⟩
    refine ⟨⟨[decisionOf gate.state m], some converged⟩, decisionOf gate.state m, ?_, rfl,
      fun t ht hinvalid => absurd (hvalid t ht) hinvalid, ?_⟩
    · simp only [runC0, hgate, hsealed, hmerged, hcontinue, hconverged, List.map_cons,
        List.map_nil, bind, Except.bind]
    · exact ⟨fun _ => hroute.mp hcontinue, fun _ => rfl⟩
  · refine ⟨⟨[decisionOf gate.state m], none⟩, decisionOf gate.state m, ?_, rfl,
      fun t ht hinvalid => absurd (hvalid t ht) hinvalid, ?_⟩
    · simp only [runC0, hgate, hsealed, hmerged, List.map_cons, List.map_nil, bind, Except.bind]
    · constructor
      · intro hsome
        cases hsome
      · intro hpassed
        exact absurd (hroute.mpr hpassed) hcontinue

/-- C0 rejects instead of crashing exactly if there is nothing to reject for its schema,
and the request has the origin of the lane. -/
theorem rejects_instead_of_crashing_iff (hstart : BeforeConvergence store s) :
    RejectsInsteadOfCrashing codec a handoff store s ↔
      (∀ t ∈ requiredArtifacts, Validates codec store s t) ∧
        requestOrigin codec store s = some s.lane := by
  constructor
  · rintro ⟨run, decision, hrun, _⟩
    obtain ⟨gate, hgate, _⟩ := except_bind_ok hrun
    exact (validates_of_convergeCase hgate).symm
  · rintro ⟨hvalid, horigin⟩
    exact rejects_of_validates hstart horigin hvalid

end Claim

/-! ### A case that converges, and one with a damaged finding set -/

def convergingModels : List (SealedModel String) :=
  [⟨.optimizationRequest, "case-OptimizationRequest", 0, [],
     .optimizationRequest .manual "checkout" "ci" 1000⟩,
   ⟨.sourceSnapshot, "case-SourceSnapshot", 0, [], .sourceSnapshot "/repo" none⟩,
   ⟨.baselineSnapshot, "case-BaselineSnapshot", 0,
     [(.requestDigest, digestOf "case-OptimizationRequest"),
      (.sourceSnapshotDigest, digestOf "case-SourceSnapshot")], .baselineSnapshot "checkout" "ci"⟩,
   ⟨.evidenceBundle, "case-EvidenceBundle", 0, [(.baselineDigest, digestOf "case-SourceSnapshot")],
     .evidenceBundle [0]⟩,
   ⟨.findingSet, "case-FindingSet", 0, [(.evidenceBundleDigest, digestOf "case-EvidenceBundle")],
     .findingSet [⟨"f1", ["e1"], false, false⟩]⟩,
   ⟨.a3QualityReport, "case-A3.81-pass0-A3QualityReport", 0,
     [(.findingSetDigest, digestOf "case-FindingSet")], .a3QualityReport true []⟩,
   ⟨.solutionPortfolio, "case-SolutionPortfolio", 0,
     [(.findingSetDigest, digestOf "case-FindingSet"),
      (.qualityReportDigest, digestOf "case-A3.81-pass0-A3QualityReport")],
     .strategies [⟨"s1", ["f1"], "less memory", true, []⟩]⟩]

def convergingCase : CaseState String where
  caseId := "case"
  artifactRefs := convergingModels.map (sealedRef sampleCodec)

def convergingStore : ObjectStore String (SealedModel String) :=
  fun key => convergingModels.find? (sampleCodec.sha256 · == key)

/-- Under the digest of the finding set there is something that is no finding set. -/
def damagedStore : ObjectStore String (SealedModel String) :=
  Function.update convergingStore (digestOf "case-FindingSet")
    (convergingStore (digestOf "case-SourceSnapshot"))

def holdsRefs (store : ObjectStore String (SealedModel String)) (s : CaseState String) : Bool :=
  requiredArtifacts.all (fun t => (s.requireRef t).toOption.any fun ref =>
    (store ref.contentDigest).isSome) &&
  s.artifactRefs.all (·.artifactType != .convergenceDecision)

theorem beforeConvergence_of_holdsRefs {store : ObjectStore String (SealedModel String)}
    {s : CaseState String} (h : holdsRefs store s = true) : BeforeConvergence store s := by
  simp only [holdsRefs, Bool.and_eq_true, List.all_eq_true] at h
  constructor
  · intro t ht
    obtain ⟨ref, href, hstored⟩ := (Option.any_eq_true _ _).mp (h.1 t ht)
    obtain ⟨bytes, hbytes⟩ := Option.isSome_iff_exists.mp hstored
    exact ⟨ref, bytes, eq_ok_of_toOption href, hbytes⟩
  · intro ref href
    simpa using h.2 ref href

/-- The finding set was recorded as invalid by `C0.20`, and `C0.30` raises on it. -/
theorem damaged_finding_set_raises :
    BeforeConvergence damagedStore convergingCase ∧
      ¬ RejectsInsteadOfCrashing sampleCodec {} {} damagedStore convergingCase := by
  refine ⟨beforeConvergence_of_holdsRefs (by decide +kernel), ?_⟩
  rintro ⟨run, decision, hrun, _⟩
  have hraises : (runC0 sampleCodec {} {} damagedStore convergingCase).toOption = none := by
    decide +kernel
  rw [hrun] at hraises
  cases hraises

theorem converging_case_rejects_instead_of_crashing :
    BeforeConvergence convergingStore convergingCase ∧
      RejectsInsteadOfCrashing sampleCodec {} {} convergingStore convergingCase := by
  have hstart : BeforeConvergence convergingStore convergingCase :=
    beforeConvergence_of_holdsRefs (by decide +kernel)
  have hread : ∀ t ∈ requiredArtifacts,
      (readRequired sampleCodec convergingStore convergingCase t).toOption.isSome = true := by
    decide +kernel
  refine ⟨hstart, (rejects_instead_of_crashing_iff hstart).mpr ⟨fun t ht => ?_, by decide +kernel⟩⟩
  obtain ⟨m, hm⟩ := Option.isSome_iff_exists.mp (hread t ht)
  exact ⟨m, eq_ok_of_toOption hm⟩

end ProductionOptimizer
