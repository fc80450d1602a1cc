import ProductionOptimizer.JudgedFindings

/-!
# Which evidence supports a claim

A3.40 tells the generator that an item supports a claim when its value is a number, and reports
the citations of other items as failures. A3.41 asks the same of the last value under the cited
id, but takes `value != 0` for it: zero no longer supports, and `True`, which Python counts as an
`int`, does.
-/

namespace ProductionOptimizer.A3.CitationSupport
set_option autoImplicit false

/-- The values of the contract `float | str | bool | None`. -/
inductive EvidenceValue where
  | number (value : ℚ)
  | nonFinite
  | text (value : String)
  | flag (value : Bool)
  | missing
  deriving DecidableEq

structure EvidenceItem where
  evidenceId : String
  value : EvidenceValue
  deriving DecidableEq

/-! ### A3.40 -/

/-- `isinstance(value, int | float) and not isinstance(value, bool)`. -/
def EvidenceValue.isNumber : EvidenceValue → Bool
  | .number _ | .nonFinite => true
  | .text _ | .flag _ | .missing => false

def evidenceSupportsClaim (item : EvidenceItem) : Bool := item.value.isNumber

def supportEvidenceIds (bundle : List EvidenceItem) : List String :=
  (bundle.filter evidenceSupportsClaim).map (·.evidenceId)

def sorted (ids : List String) : List String := ids.mergeSort fun x y => decide (x ≤ y)

/-- The entries of one draft in the failures of `_invalid_finding_citations`. -/
def citationFailures (text : PythonText) (known : List String) (support : Option (List String))
    (draft : FindingDraft) : List String :=
  let unknown := draft.supportingEvidenceIds.filter (!known.contains ·)
  (if unknown.isEmpty then [] else
    [draft.findingId ++ ": unknown supporting_evidence_ids=" ++ text.list (sorted unknown)]) ++
  match support with
  | none => []
  | some support =>
    let unsupported := draft.supportingEvidenceIds.filter fun evidenceId =>
      known.contains evidenceId && !support.contains evidenceId
    if unsupported.isEmpty then [] else
      [draft.findingId ++ ": unsupported supporting_evidence_ids=" ++
        text.list (sorted unsupported)]

def invalidFindingCitations (text : PythonText) (drafts : List FindingDraft)
    (knownEvidenceIds supportEvidenceIds : Option (List String)) : List String :=
  match knownEvidenceIds with
  | none => []
  | some known => drafts.flatMap (citationFailures text known supportEvidenceIds)

/-- The citation failures A3.40 seals with the drafts. -/
def handleA340 (text : PythonText) (bundle : List EvidenceItem) (catalog : List String)
    (drafts : List FindingDraft) : List String :=
  invalidFindingCitations text drafts (some catalog) (some (supportEvidenceIds bundle))

/-! ### A3.41 -/

/-- `isinstance(value, int | float) and value != 0`. -/
def EvidenceValue.isNonzero : EvidenceValue → Bool
  | .number value => value != 0
  | .nonFinite => true
  | .flag value => value
  | .text _ | .missing => false

/-- `values_by_id.get(evidence_id)`. -/
def valueOf (bundle : List EvidenceItem) (evidenceId : String) : EvidenceValue :=
  match lastWhere bundle (·.evidenceId == evidenceId) with
  | some item => item.value
  | none => .missing

def resolveCitation (bundle : List EvidenceItem) (catalog : List String) (evidenceId : String) :
    CitationResolutionEntry :=
  let resolved := catalog.contains evidenceId
  let supports := resolved && (valueOf bundle evidenceId).isNonzero
  { evidenceId := evidenceId
    resolved := resolved
    inScope := resolved
    supportsStatement := supports
    reason :=
      if resolved && supports then none
      else if !resolved then some "evidence id not found in catalog"
      else some "evidence value does not support the claim (zero/neutral outcome)" }

def citationReport (bundle : List EvidenceItem) (catalog : List String) (draft : FindingDraft) :
    CitationResolutionReport :=
  ⟨"citation-" ++ draft.findingId, draft.findingId,
    draft.supportingEvidenceIds.map (resolveCitation bundle catalog)⟩

def handleA341 (bundle : List EvidenceItem) (catalog : List String) (drafts : List FindingDraft) :
    List CitationResolutionReport :=
  drafts.map (citationReport bundle catalog)

section Verdicts
variable {text : PythonText} {bundle : List EvidenceItem} {catalog : List String}
  {draft : FindingDraft} {drafts : List FindingDraft}

/-- A draft without failures cites only known ids of the support set. -/
theorem citationFailures_eq_nil {support : List String} :
    citationFailures text catalog (some support) draft = [] ↔
      ∀ evidenceId ∈ draft.supportingEvidenceIds, evidenceId ∈ catalog ∧ evidenceId ∈ support := by
  have hif : ∀ {ids : List String} {entry : String},
      (if ids.isEmpty then [] else [entry]) = [] ↔ ids = [] := by
    intro ids entry
    cases ids <;> simp
  unfold citationFailures
  dsimp only
  rw [List.append_eq_nil_iff, hif, hif, List.filter_eq_nil_iff, List.filter_eq_nil_iff]
  constructor
  · rintro ⟨hknown, hsupport⟩ evidenceId hmem
    have hin : evidenceId ∈ catalog := by simpa using hknown evidenceId hmem
    refine ⟨hin, ?_⟩
    simpa [hin] using hsupport evidenceId hmem
  · intro hall
    constructor
    · intro evidenceId hmem
      simpa using (hall evidenceId hmem).1
    · intro evidenceId hmem
      simp [(hall evidenceId hmem).2]

theorem resolveCitation_supports (evidenceId : String) :
    (resolveCitation bundle catalog evidenceId).supportsStatement = true ↔
      evidenceId ∈ catalog ∧ (valueOf bundle evidenceId).isNonzero = true := by
  unfold resolveCitation
  simp only [Bool.and_eq_true, List.contains_eq_mem, decide_eq_true_eq]

theorem allResolved_citationReport :
    (citationReport bundle catalog draft).allResolved = true ↔
      ∀ evidenceId ∈ draft.supportingEvidenceIds,
        (resolveCitation bundle catalog evidenceId).supportsStatement = true := by
  unfold CitationResolutionReport.allResolved citationReport
  rw [List.all_map, List.all_eq_true]
  apply forall₂_congr
  intro evidenceId _
  rw [resolveCitation_supports]
  simp only [Function.comp_apply, resolveCitation, Bool.and_eq_true, List.contains_eq_mem,
    decide_eq_true_eq]
  tauto

theorem mem_supportEvidenceIds {evidenceId : String} :
    evidenceId ∈ supportEvidenceIds bundle ↔
      ∃ item ∈ bundle, item.evidenceId = evidenceId ∧ item.value.isNumber = true := by
  unfold supportEvidenceIds evidenceSupportsClaim
  simp only [List.mem_map, List.mem_filter]
  constructor
  · rintro ⟨item, ⟨hmem, hnumber⟩, hid⟩
    exact ⟨item, hmem, hid, hnumber⟩
  · rintro ⟨item, hmem, hid, hnumber⟩
    exact ⟨item, ⟨hmem, hnumber⟩, hid⟩

end Verdicts

/-! ### Where the two verdicts agree -/

def valuesOf (bundle : List EvidenceItem) (evidenceId : String) : List EvidenceValue :=
  (bundle.filter (·.evidenceId == evidenceId)).map (·.value)

/-- What the values under one id have to be: the last is a number other than zero, or it is
`True` after a number, or it is neither and none of them is a number. -/
def Settled (values : List EvidenceValue) : Prop :=
  match values.getLast? with
  | some (.number value) => value ≠ 0
  | some .nonFinite => True
  | some (.flag true) => ∃ value ∈ values, value.isNumber = true
  | _ => ∀ value ∈ values, value.isNumber = false

/-- Under an id of one item: neither zero nor `True`. -/
theorem settled_singleton (value : EvidenceValue) :
    Settled [value] ↔ value ≠ .number 0 ∧ value ≠ .flag true := by
  unfold Settled
  rw [List.getLast?_singleton]
  cases value with
  | number value => simp
  | nonFinite => simp
  | text value => simp [EvidenceValue.isNumber]
  | flag value => cases value <;> simp [EvidenceValue.isNumber]
  | missing => simp [EvidenceValue.isNumber]

theorem valueOf_eq_getLast (bundle : List EvidenceItem) (evidenceId : String) :
    valueOf bundle evidenceId = ((valuesOf bundle evidenceId).getLast?).getD .missing := by
  unfold valueOf valuesOf lastWhere
  rw [List.getLast?_map, ← List.head?_reverse, ← List.filter_reverse, List.head?_filter]
  cases bundle.reverse.find? (·.evidenceId == evidenceId) <;> rfl

theorem exists_number_iff {bundle : List EvidenceItem} {evidenceId : String} :
    (∃ value ∈ valuesOf bundle evidenceId, value.isNumber = true) ↔
      evidenceId ∈ supportEvidenceIds bundle := by
  rw [mem_supportEvidenceIds]
  unfold valuesOf
  constructor
  · rintro ⟨value, hmem, hnumber⟩
    obtain ⟨item, hitem, rfl⟩ := List.mem_map.mp hmem
    obtain ⟨hbundle, hid⟩ := List.mem_filter.mp hitem
    exact ⟨item, hbundle, by simpa using hid, hnumber⟩
  · rintro ⟨item, hbundle, hid, hnumber⟩
    refine ⟨item.value, List.mem_map_of_mem (List.mem_filter.mpr ⟨hbundle, ?_⟩), hnumber⟩
    simpa using hid

/-- Settled values are those on which the two tests agree. -/
theorem settled_iff (values : List EvidenceValue) :
    Settled values ↔ ((∃ value ∈ values, value.isNumber = true) ↔
      (values.getLast?.getD .missing).isNonzero = true) := by
  have hnone : (∀ value ∈ values, value.isNumber = false) ↔
      ¬ ∃ value ∈ values, value.isNumber = true := by
    simp
  unfold Settled
  cases hlast : values.getLast? with
  | none =>
    simp only [Option.getD_none, EvidenceValue.isNonzero, Bool.false_eq_true, iff_false]
    exact hnone
  | some last =>
    have hmem : last ∈ values := List.mem_of_getLast? hlast
    rw [Option.getD_some]
    cases last with
    | number value =>
      have hsome : ∃ value ∈ values, value.isNumber = true := ⟨_, hmem, rfl⟩
      simp only [hsome, EvidenceValue.isNonzero, bne_iff_ne, ne_eq, true_iff]
    | nonFinite =>
      have hsome : ∃ value ∈ values, value.isNumber = true := ⟨_, hmem, rfl⟩
      simp only [hsome, EvidenceValue.isNonzero]
    | text value =>
      simp only [EvidenceValue.isNonzero, Bool.false_eq_true, iff_false]
      exact hnone
    | flag value =>
      cases value with
      | true => simp only [EvidenceValue.isNonzero, iff_true]
      | false =>
        simp only [EvidenceValue.isNonzero, Bool.false_eq_true, iff_false]
        exact hnone
    | missing =>
      simp only [EvidenceValue.isNonzero, Bool.false_eq_true, iff_false]
      exact hnone

/-- The catalog of A3.11 lists the ids of the bundle. -/
def SameIds (bundle : List EvidenceItem) (catalog : List String) : Prop :=
  ∀ evidenceId, evidenceId ∈ catalog ↔ evidenceId ∈ bundle.map (·.evidenceId)

section Agreement
variable {text : PythonText} {bundle : List EvidenceItem} {catalog : List String}
  {draft : FindingDraft} {drafts : List FindingDraft}

/-- For a cited id the support set and the entry of A3.41 agree exactly when it is settled. -/
theorem settled_valuesOf_iff (hids : SameIds bundle catalog) (evidenceId : String) :
    Settled (valuesOf bundle evidenceId) ↔ (evidenceId ∈ supportEvidenceIds bundle ↔
      (resolveCitation bundle catalog evidenceId).supportsStatement = true) := by
  rw [settled_iff, ← valueOf_eq_getLast, exists_number_iff, resolveCitation_supports]
  by_cases hknown : evidenceId ∈ catalog
  · simp only [hknown, true_and]
  · -- An id that no item has is in neither.
    have hnone : valuesOf bundle evidenceId = [] := by
      unfold valuesOf
      rw [List.map_eq_nil_iff, List.filter_eq_nil_iff]
      intro item hmem hid
      apply hknown
      apply (hids evidenceId).mpr
      have heq : item.evidenceId = evidenceId := by simpa using hid
      rw [← heq]
      exact List.mem_map_of_mem hmem
    rw [valueOf_eq_getLast, hnone]
    simp [hknown, EvidenceValue.isNonzero]

theorem supportEvidenceIds_subset (hids : SameIds bundle catalog) {evidenceId : String}
    (h : evidenceId ∈ supportEvidenceIds bundle) : evidenceId ∈ catalog := by
  obtain ⟨item, hmem, hid, -⟩ := mem_supportEvidenceIds.mp h
  apply (hids evidenceId).mpr
  rw [← hid]
  exact List.mem_map_of_mem hmem

/-- Among drafts with distinct ids A3.51 finds each draft's own report. -/
theorem report_of_draft (hmem : draft ∈ drafts) (hnodup : (drafts.map (·.findingId)).Nodup) :
    lastWhere (handleA341 bundle catalog drafts) (·.findingId == draft.findingId) =
      some (citationReport bundle catalog draft) := by
  cases hfind : lastWhere (handleA341 bundle catalog drafts) (·.findingId == draft.findingId) with
  | none =>
    have hin : citationReport bundle catalog draft ∈ handleA341 bundle catalog drafts :=
      List.mem_map_of_mem hmem
    have hnot := List.find?_eq_none.mp hfind _ (List.mem_reverse.mpr hin)
    simp [citationReport] at hnot
  | some report =>
    have hid : report.findingId = draft.findingId := by simpa using List.find?_some hfind
    have hreport := List.mem_reverse.mp (List.mem_of_find?_eq_some hfind)
    obtain ⟨other, hother, rfl⟩ := List.mem_map.mp hreport
    rw [List.inj_on_of_nodup_map hnodup hother hmem hid]

/-- The two nodes and A3.51 judge the citations of the drafts alike. -/
structure JudgedOnce (text : PythonText) (bundle : List EvidenceItem) (catalog : List String)
    (drafts : List FindingDraft) : Prop where
  agree : ∀ draft ∈ drafts,
    citationFailures text catalog (some (supportEvidenceIds bundle)) draft = [] ↔
      (citationReport bundle catalog draft).allResolved = true
  /-- What the generator was told of a cited id is what A3.41 finds. -/
  told : ∀ draft ∈ drafts, ∀ evidenceId ∈ draft.supportingEvidenceIds,
    (evidenceId ∈ supportEvidenceIds bundle ↔
      (resolveCitation bundle catalog evidenceId).supportsStatement = true)
  /-- A judged draft that A3.51 drops had a failure at A3.40. -/
  dropped : ∀ (inputs : Inputs) (judgements : List FindingJudgement), ∀ draft ∈ drafts,
    inputs.citationReports = handleA341 bundle catalog drafts →
    (drafts.map (·.findingId)).Nodup →
    (lastWhere judgements (·.findingId == draft.findingId)).isSome = true →
    admitFinding inputs judgements draft = none →
      citationFailures text catalog (some (supportEvidenceIds bundle)) draft ≠ []

/-- Citation support is judged once exactly when every cited id is settled. -/
theorem judged_once_iff (text : PythonText) (hids : SameIds bundle catalog) :
    JudgedOnce text bundle catalog drafts ↔
      ∀ draft ∈ drafts, ∀ evidenceId ∈ draft.supportingEvidenceIds,
        Settled (valuesOf bundle evidenceId) := by
  constructor
  · intro h draft hdraft evidenceId hcited
    rw [settled_valuesOf_iff hids]
    exact h.told draft hdraft evidenceId hcited
  · intro h
    have htold : ∀ draft ∈ drafts, ∀ evidenceId ∈ draft.supportingEvidenceIds,
        (evidenceId ∈ supportEvidenceIds bundle ↔
          (resolveCitation bundle catalog evidenceId).supportsStatement = true) := by
      intro draft hdraft evidenceId hcited
      exact (settled_valuesOf_iff hids evidenceId).mp (h draft hdraft evidenceId hcited)
    have hagree : ∀ draft ∈ drafts,
        (citationFailures text catalog (some (supportEvidenceIds bundle)) draft = [] ↔
          (citationReport bundle catalog draft).allResolved = true) := by
      intro draft hdraft
      rw [citationFailures_eq_nil, allResolved_citationReport]
      apply forall₂_congr
      intro evidenceId hcited
      rw [← htold draft hdraft evidenceId hcited]
      constructor
      · exact And.right
      · intro hsupport
        exact ⟨supportEvidenceIds_subset hids hsupport, hsupport⟩
    refine ⟨hagree, htold, ?_⟩
    intro inputs judgements draft hdraft hreports hnodup hjudged hnone hfailures
    obtain ⟨judgement, hjudgement⟩ := Option.isSome_iff_exists.mp hjudged
    have hresolved : ¬ Unresolved inputs draft.findingId := by
      unfold Unresolved
      rw [hreports, report_of_draft hdraft hnodup, Option.all_some,
        (hagree draft hdraft).mp hfailures]
      simp
    obtain ⟨finding, hfinding, -⟩ := admitFinding_of_judged hjudgement hresolved
    rw [hnone] at hfinding
    cases hfinding

end Agreement

/-! ### A breach at zero and a flag -/

def citingDraft (evidenceId : String) : FindingDraft where
  findingId := "f1"
  problemSignalIds := ["signal-budget"]
  claimType := .hypothesis
  symptom := "no error budget is left"
  causalClaim := "every retry counts twice"
  supportingEvidenceIds := [evidenceId]
  confidence := 1 / 2

def budgetBundle : List EvidenceItem :=
  [⟨"budget", .number 0⟩, ⟨"breached", .flag true⟩, ⟨"latency", .number 120⟩]

def budgetCatalog : List String := budgetBundle.map (·.evidenceId)

/-- The draft that cites the zero has no failure and is dropped, the one that cites the flag has a
failure and resolves. -/
theorem zero_and_flag_judged_twice :
    ¬ JudgedOnce plainText budgetBundle budgetCatalog [citingDraft "budget"] ∧
      ¬ JudgedOnce plainText budgetBundle budgetCatalog [citingDraft "breached"] := by
  constructor
  · intro h
    have hresolved := (h.agree _ List.mem_cons_self).mp (by decide)
    revert hresolved
    decide
  · intro h
    have hfailures := (h.agree _ List.mem_cons_self).mpr (by decide)
    revert hfailures
    decide

theorem latency_judged_once :
    JudgedOnce plainText budgetBundle budgetCatalog [citingDraft "latency"] := by
  have hids : SameIds budgetBundle budgetCatalog := fun _ => Iff.rfl
  apply (judged_once_iff plainText hids).mpr
  intro draft hdraft evidenceId hcited
  obtain rfl := List.mem_singleton.mp hdraft
  obtain rfl := List.mem_singleton.mp hcited
  show Settled [.number 120]
  apply (settled_singleton _).mpr
  simp

end ProductionOptimizer.A3.CitationSupport
