import ProductionOptimizer.AttributedEvidence
import ProductionOptimizer.Library.Tally

/-!
# From the branches to the bundle

`A2.70` fans the evidence of the five branches in, `A2.71` converts it to the units of the
collector plan and `A2.80` binds it into the bundle that `A2.90` judges and `A2.95` aggregates.
-/

namespace ProductionOptimizer.EvidenceGate
open Samples Tally
set_option autoImplicit false

/-! ### Contracts -/

/-- An item with what the three nodes read of it beside the gate. -/
structure CollectedItem extends EvidenceItem where
  transformationId : String
  collector : String
  collectorVersion : String
  deriving DecidableEq

structure CollectedBranch extends BranchEvidenceRefs where
  evidence : List CollectedItem

structure RawEvidenceFanIn where
  branchStatus : List (String × String)
  evidenceIds : List String
  rawRefs : List String

structure NormalizedEvidenceSet where
  evidence : List CollectedItem := []
  conversionFailures : List String := []
  transformationVersions : List (String × String) := []

structure BoundBundle where
  evidence : List CollectedItem
  collectorVersions : List (String × String)
  coverage : List (String × Nat)

def BoundBundle.toEvidenceBundle (bundle : BoundBundle) : EvidenceBundle :=
  ⟨bundle.evidence.map (·.toEvidenceItem)⟩

/-- `lower` is `str.lower`, `repr` the text of a unit in a message, `putBlob` stores the
normalized form of an item and answers its ref. -/
structure NormalizationPorts where
  lower : String → String
  repr : String → String
  putBlob : CollectedItem → Option EvidenceValue → Option String → String → String

/-! ### `A2.70`: the fan-in -/

def collected (branches : List CollectedBranch) : List CollectedItem :=
  branches.flatMap (·.evidence)

def handleA270 (branches : List CollectedBranch) : RawEvidenceFanIn where
  branchStatus := ofEntries <| branches.map fun branch =>
    (branch.branchId, if branch.unavailableReason.any (· != "") then "unavailable" else "collected")
  evidenceIds := ((collected branches).map (·.evidenceId)).insertionSort (· ≤ ·)
  rawRefs := ((collected branches).map (·.rawRef)).dedup.insertionSort (· ≤ ·)

/-! ### `A2.71`: the units -/

def unitFactors : List ((String × String) × ℚ) :=
  [(("seconds", "ms"), 1000), (("s", "ms"), 1000), (("milliseconds", "ms"), 1),
    (("bytes", "kb"), 1 / 1000), (("bytes", "mb"), 1 / 1000000), (("fraction", "percent"), 100)]

section Normalization
variable (ports : NormalizationPorts) (plan : List CollectorBinding)
  (branches : List CollectedBranch)

def identityOf (item : CollectedItem) : Option EvidenceValue × Option String × String :=
  (item.value, item.unit, item.transformationId ++ ":identity")

/-- `_normalize_observation`. A `bool` is a number here. -/
def normalizeObservation (item : CollectedItem) (binding : Option CollectorBinding) :
    Except String (Option EvidenceValue × Option String × String) :=
  match binding.bind (·.canonicalUnit) with
  | none => .ok (identityOf item)
  | some canonical =>
    if item.unit = some canonical then .ok (identityOf item)
    else
      match item.number, item.unit with
      | some value, some unit =>
        match unitFactors.lookup (ports.lower unit, ports.lower canonical) with
        | some factor => .ok (some (.number (value * factor)), some canonical,
            item.transformationId ++ ":unit-conversion-v1")
        | none => .error ("no registered conversion from " ++ ports.repr unit ++ " to " ++
            ports.repr canonical)
      | _, _ => .error "non-numeric observation cannot be converted to the canonical unit"

def byId : List (String × CollectedItem) :=
  ofEntries ((collected branches).map fun item => (item.evidenceId, item))

def bindingByRequirement : List (String × CollectorBinding) :=
  ofEntries (plan.map fun binding => (binding.requirementId, binding))

/-- The binding of the item's requirement. -/
def bindingOf (item : CollectedItem) : Option CollectorBinding :=
  item.requirementId.bind fun requirementId => (bindingByRequirement plan).lookup requirementId

/-- What the loop makes of one id: the normalized item, or the entry among the failures. -/
def normalizeId (evidenceId : String) : Except String CollectedItem :=
  match (byId branches).lookup evidenceId with
  | none => .error (evidenceId ++ ": missing from branch evidence (fan-in integrity gap)")
  | some item =>
    match normalizeObservation ports item (bindingOf plan item) with
    | .error message => .error (evidenceId ++ ": " ++ message)
    | .ok (value, unit, transformation) => .ok { item with
        normalizedRef := some (ports.putBlob item value unit transformation)
        value
        unit
        transformationId := transformation }

def normalizeStep (set : NormalizedEvidenceSet) (evidenceId : String) : NormalizedEvidenceSet :=
  match normalizeId ports plan branches evidenceId with
  | .error failure => { set with conversionFailures := set.conversionFailures ++ [failure] }
  | .ok item => { set with
      evidence := set.evidence ++ [item]
      transformationVersions :=
        put set.transformationVersions item.evidenceId item.transformationId }

def handleA271 (fanIn : RawEvidenceFanIn) : NormalizedEvidenceSet :=
  fanIn.evidenceIds.foldl (normalizeStep ports plan branches) {}

/-! ### `A2.80`: the bundle -/

def coverageKeys (item : CollectedItem) : List String :=
  (evidenceTypeSourceType item.evidenceType).getD item.evidenceType ::
    (item.requirementId.filter (· != "")).toList.map ("requirement:" ++ ·)

def handleA280 (set : NormalizedEvidenceSet) : BoundBundle where
  evidence := set.evidence
  collectorVersions := ofEntries (set.evidence.map fun item =>
    (item.collector, item.collectorVersion))
  coverage := tally (set.evidence.flatMap coverageKeys)

/-- The bundle of the three nodes in a row. -/
def boundBundle : BoundBundle :=
  handleA280 (handleA271 ports plan branches (handleA270 branches))

/-! ### What becomes of the evidence -/

variable {ports plan branches}

theorem foldl_normalizeStep (ids : List String) (set : NormalizedEvidenceSet) :
    (ids.foldl (normalizeStep ports plan branches) set).evidence =
        set.evidence ++ ids.filterMap (fun id => (normalizeId ports plan branches id).toOption) ∧
      (ids.foldl (normalizeStep ports plan branches) set).conversionFailures.length +
          (ids.foldl (normalizeStep ports plan branches) set).evidence.length =
        set.conversionFailures.length + set.evidence.length + ids.length ∧
      ∀ failure, failure ∈ (ids.foldl (normalizeStep ports plan branches) set).conversionFailures ↔
        failure ∈ set.conversionFailures ∨
          ∃ id ∈ ids, normalizeId ports plan branches id = .error failure := by
  induction ids generalizing set with
  | nil => simp
  | cons id ids ih =>
    obtain ⟨hevidence, hlength, hfailures⟩ := ih (normalizeStep ports plan branches set id)
    rw [List.foldl_cons]
    cases hid : normalizeId ports plan branches id with
    | error failure =>
      simp only [normalizeStep, hid] at hevidence hlength hfailures ⊢
      refine ⟨?_, ?_, fun failure' => ?_⟩
      · rw [hevidence, List.filterMap_cons_none (by rw [hid]; rfl)]
      · rw [hlength, List.length_append, List.length_singleton, List.length_cons]
        omega
      · rw [hfailures, List.mem_append, List.mem_singleton]
        simp only [List.mem_cons, exists_eq_or_imp, hid, Except.error.injEq]
        tauto
    | ok item =>
      simp only [normalizeStep, hid] at hevidence hlength hfailures ⊢
      refine ⟨?_, ?_, fun failure => ?_⟩
      · rw [hevidence, List.filterMap_cons_some (by rw [hid]; rfl), List.append_assoc,
          List.singleton_append]
      · rw [hlength, List.length_append, List.length_singleton, List.length_cons]
        omega
      · rw [hfailures]
        simp only [List.mem_cons, exists_eq_or_imp, hid, reduceCtorEq, false_or]

theorem lookup_byId {evidenceId : String} {item : CollectedItem}
    (h : (byId branches).lookup evidenceId = some item) :
    item ∈ collected branches ∧ item.evidenceId = evidenceId := by
  have hentry := (lookup_eq_some_iff_mem (keys_ofEntries _)).mp h
  obtain ⟨found, hfound, heq⟩ := List.mem_map.mp (mem_of_mem_ofEntries hentry)
  cases heq
  exact ⟨hfound, rfl⟩

/-- Every id that is fanned in resolves to an item. -/
theorem exists_byId {raw : CollectedItem} (h : raw ∈ collected branches) :
    ∃ item, (byId branches).lookup raw.evidenceId = some item := by
  have hentry : (raw.evidenceId, raw) ∈
      (collected branches).map fun item => (item.evidenceId, item) :=
    List.mem_map_of_mem (f := fun item : CollectedItem => (item.evidenceId, item)) h
  obtain ⟨item, hitem⟩ := exists_mem_ofEntries hentry
  exact ⟨item, (lookup_eq_some_iff_mem (keys_ofEntries _)).mpr hitem⟩

theorem byId_of_nodup (hids : ((collected branches).map (·.evidenceId)).Nodup)
    {raw : CollectedItem} (h : raw ∈ collected branches) :
    (byId branches).lookup raw.evidenceId = some raw := by
  obtain ⟨item, hitem⟩ := exists_byId h
  obtain ⟨hmem, hid⟩ := lookup_byId hitem
  rw [hitem, List.inj_on_of_nodup_map hids hmem h hid]

/-- The normalized form of an item: the value as it was, or times a registered factor in the
canonical unit of the item's binding; nothing else of the observation is changed. -/
structure ConvertedFrom (ports : NormalizationPorts) (plan : List CollectorBinding)
    (raw item : CollectedItem) : Prop where
  rest : item = { raw with
    normalizedRef := item.normalizedRef, value := item.value, unit := item.unit
    transformationId := item.transformationId }
  stored : item.normalizedRef.isSome
  measured : item.value = raw.value ∧ item.unit = raw.unit ∨
    ∃ value unit canonical factor, raw.number = some value ∧ raw.unit = some unit ∧
      (bindingOf plan raw).bind (·.canonicalUnit) = some canonical ∧
      unitFactors.lookup (ports.lower unit, ports.lower canonical) = some factor ∧
      item.value = some (.number (value * factor)) ∧ item.unit = some canonical
  canonical : ∀ canonical, (bindingOf plan raw).bind (·.canonicalUnit) = some canonical →
    item.unit = some canonical

theorem normalizeObservation_ok {raw : CollectedItem} {binding : Option CollectorBinding}
    {value : Option EvidenceValue} {unit : Option String} {transformation : String}
    (h : normalizeObservation ports raw binding = .ok (value, unit, transformation)) :
    (value = raw.value ∧ unit = raw.unit ∨
      ∃ number rawUnit canonical factor, raw.number = some number ∧ raw.unit = some rawUnit ∧
        binding.bind (·.canonicalUnit) = some canonical ∧
        unitFactors.lookup (ports.lower rawUnit, ports.lower canonical) = some factor ∧
        value = some (.number (number * factor)) ∧ unit = some canonical) ∧
      ∀ canonical, binding.bind (·.canonicalUnit) = some canonical → unit = some canonical := by
  unfold normalizeObservation at h
  split at h
  · rename_i hnone
    cases h
    refine ⟨Or.inl ⟨rfl, rfl⟩, fun canonical hcanonical => ?_⟩
    rw [hnone] at hcanonical
    cases hcanonical
  · rename_i canonical hcanonical
    have hunique : ∀ canonical', binding.bind (·.canonicalUnit) = some canonical' →
        canonical = canonical' := fun _ h' => Option.some.inj (hcanonical.symm.trans h')
    split at h
    · rename_i hunit
      cases h
      exact ⟨Or.inl ⟨rfl, rfl⟩, fun canonical' h' => hunique canonical' h' ▸ hunit⟩
    · split at h
      · rename_i number rawUnit hnumber hrawUnit
        split at h
        · rename_i factor hfactor
          cases h
          exact ⟨Or.inr ⟨number, rawUnit, canonical, factor, hnumber, hrawUnit, hcanonical, hfactor,
            rfl, rfl⟩, fun canonical' h' => congrArg some (hunique canonical' h')⟩
        · cases h
      · cases h

theorem normalizeId_ok {evidenceId : String} {item : CollectedItem}
    (h : normalizeId ports plan branches evidenceId = .ok item) :
    ∃ raw, (byId branches).lookup evidenceId = some raw ∧ ConvertedFrom ports plan raw item := by
  unfold normalizeId at h
  split at h
  · cases h
  · rename_i raw hraw
    split at h
    · cases h
    · rename_i value unit transformation hok
      cases h
      obtain ⟨hmeasured, hcanonical⟩ := normalizeObservation_ok hok
      exact ⟨raw, hraw, rfl, rfl, hmeasured, hcanonical⟩

/-- The set that `A2.71` makes of what `A2.70` fanned in. -/
def normalizedSet (ports : NormalizationPorts) (plan : List CollectorBinding)
    (branches : List CollectedBranch) : NormalizedEvidenceSet :=
  handleA271 ports plan branches (handleA270 branches)

theorem normalizedSet_evidence : (normalizedSet ports plan branches).evidence =
    (handleA270 branches).evidenceIds.filterMap fun id =>
      (normalizeId ports plan branches id).toOption :=
  (foldl_normalizeStep _ {}).1.trans (List.nil_append _)

theorem mem_evidenceIds {id : String} :
    id ∈ (handleA270 branches).evidenceIds ↔ ∃ raw ∈ collected branches, raw.evidenceId = id := by
  rw [handleA270, List.mem_insertionSort, List.mem_map]

theorem mem_normalizedSet {item : CollectedItem} :
    item ∈ (normalizedSet ports plan branches).evidence ↔
      ∃ raw ∈ collected branches, normalizeId ports plan branches raw.evidenceId = .ok item := by
  rw [normalizedSet_evidence, List.mem_filterMap]
  constructor
  · rintro ⟨id, hid, hitem⟩
    obtain ⟨raw, hraw, rfl⟩ := mem_evidenceIds.mp hid
    refine ⟨raw, hraw, ?_⟩
    cases hok : normalizeId ports plan branches raw.evidenceId with
    | error failure =>
      rw [hok] at hitem
      cases hitem
    | ok found =>
      rw [hok] at hitem
      cases hitem
      rfl
  · rintro ⟨raw, hraw, hok⟩
    exact ⟨raw.evidenceId, mem_evidenceIds.mpr ⟨raw, hraw, rfl⟩, by rw [hok]; rfl⟩

/-- Between the branches and the bundle no evidence is made up or dropped in silence: what is
normalized and what failed add up to what was collected, a normalized item is a collected one
in the canonical unit of its requirement, and where no two items share an id each of them is
normalized or named among the failures. -/
theorem evidence_accounted (ports : NormalizationPorts) (plan : List CollectorBinding)
    (branches : List CollectedBranch) :
    ((boundBundle ports plan branches).evidence.length +
        (normalizedSet ports plan branches).conversionFailures.length =
      (collected branches).length) ∧
    (∀ item ∈ (boundBundle ports plan branches).evidence, ∃ raw ∈ collected branches,
      ConvertedFrom ports plan raw item) ∧
    (((collected branches).map (·.evidenceId)).Nodup → ∀ raw ∈ collected branches,
      (∃ item ∈ (boundBundle ports plan branches).evidence, ConvertedFrom ports plan raw item) ∨
      ∃ message, normalizeObservation ports raw (bindingOf plan raw) = .error message ∧
        raw.evidenceId ++ ": " ++ message ∈
          (normalizedSet ports plan branches).conversionFailures) := by
  have hbundle : (boundBundle ports plan branches).evidence =
      (normalizedSet ports plan branches).evidence := rfl
  rw [hbundle]
  have hfold := @foldl_normalizeStep ports plan branches
    (handleA270 branches).evidenceIds {}
  refine ⟨?_, fun item hitem => ?_, fun hids raw hraw => ?_⟩
  · have hlength : (handleA270 branches).evidenceIds.length = (collected branches).length :=
      (List.length_insertionSort _ _).trans (List.length_map _)
    have hsum := hfold.2.1
    rw [hlength] at hsum
    rw [Nat.add_comm]
    exact hsum.trans (Nat.zero_add _)
  · obtain ⟨raw, _, hok⟩ := mem_normalizedSet.mp hitem
    obtain ⟨found, hfound, hconverted⟩ := normalizeId_ok hok
    exact ⟨found, (lookup_byId hfound).1, hconverted⟩
  · have hlookup := byId_of_nodup hids hraw
    cases hok : normalizeObservation ports raw (bindingOf plan raw) with
    | error message =>
      refine Or.inr ⟨message, rfl, (hfold.2.2 _).mpr (Or.inr ⟨raw.evidenceId,
        mem_evidenceIds.mpr ⟨raw, hraw, rfl⟩, ?_⟩)⟩
      simp only [normalizeId, hlookup, hok]
    | ok normalized =>
      obtain ⟨value, unit, transformation⟩ := normalized
      have hitem : ∃ item, normalizeId ports plan branches raw.evidenceId = .ok item := by
        simp only [normalizeId, hlookup, hok]
        exact ⟨_, rfl⟩
      obtain ⟨item, hitem⟩ := hitem
      obtain ⟨found, hfound, hconverted⟩ := normalizeId_ok hitem
      rw [hlookup] at hfound
      cases hfound
      exact Or.inl ⟨item, mem_normalizedSet.mpr ⟨raw, hraw, hitem⟩, hconverted⟩

/-! ### The baseline of a converted metric -/

/-- An item of a metric that is bound to a requirement: what `A2.95` aggregates if it holds a
number. -/
def isBound (metricId : String) (item : CollectedItem) : Bool :=
  item.requirementId.isSome && item.metricId == some metricId

/-- The collected observations of a metric, in the order of their ids. -/
def rawSamples (branches : List CollectedBranch) (metricId : String) : List CollectedItem :=
  ((handleA270 branches).evidenceIds.filterMap fun id => (byId branches).lookup id).filter
    (isBound metricId)

/-- Every bound observation of the metric is a number in one unit, and the plan asks for another
one that it is converted to by `factor`. -/
structure ConvertsBy (ports : NormalizationPorts) (plan : List CollectorBinding)
    (branches : List CollectedBranch) (metricId unit canonical : String) (factor : ℚ) : Prop where
  unit_ne : unit ≠ canonical
  registered : unitFactors.lookup (ports.lower unit, ports.lower canonical) = some factor
  observed : ∀ raw ∈ collected branches, isBound metricId raw = true →
    raw.unit = some unit ∧ raw.number.isSome ∧
      (bindingOf plan raw).bind (·.canonicalUnit) = some canonical

/-- What becomes of such an observation. -/
def convertBy (ports : NormalizationPorts) (canonical : String) (factor : ℚ)
    (raw : CollectedItem) : CollectedItem :=
  let value := raw.number.map fun number => EvidenceValue.number (number * factor)
  let transformation := raw.transformationId ++ ":unit-conversion-v1"
  { raw with
    normalizedRef := some (ports.putBlob raw value (some canonical) transformation)
    value
    unit := some canonical
    transformationId := transformation }

def MetricAggregate.scale (factor : ℚ) (unit : String) (aggregate : MetricAggregate) :
    MetricAggregate :=
  { aggregate with
    unit
    minimum := aggregate.minimum * factor
    maximum := aggregate.maximum * factor
    mean := aggregate.mean * factor
    percentile50 := aggregate.percentile50 * factor
    percentile95 := aggregate.percentile95 * factor }

theorem unitFactors_pos {units : String × String} {factor : ℚ}
    (h : unitFactors.lookup units = some factor) : 0 < factor := by
  have hall : ∀ entry ∈ unitFactors, 0 < entry.2 := by
    simp only [unitFactors, List.forall_mem_cons, List.not_mem_nil, false_implies, implies_true,
      and_true]
    norm_num
  obtain ⟨before, after, heq, _⟩ := List.lookup_eq_some_iff.mp h
  exact hall (units, factor) (heq ▸ List.mem_append_right _ List.mem_cons_self)

/-- The aggregation commutes with a change of the unit. -/
theorem metricAggregate_scale {factor : ℚ} (hfactor : 0 < factor) {metricId unit canonical : String}
    {items converted : List EvidenceItem}
    (hnumbers : numbers converted = (numbers items).map (· * factor))
    (hsamples : converted.map (·.sampleId) = items.map (·.sampleId)) :
    metricAggregate metricId canonical converted =
      (metricAggregate metricId unit items).map (MetricAggregate.scale factor canonical) := by
  unfold metricAggregate
  rw [← numbers, ← numbers, hnumbers, hsamples, insertionSort_map_mul hfactor]
  simp only [List.length_map, List.getElem?_map, mean_map_mul]
  generalize (numbers items).insertionSort (· ≤ ·) = values
  cases values[0]? <;> cases values[values.length - 1]? <;>
    cases values[nearestRank 50 values.length]? <;>
    cases values[nearestRank 95 values.length]? <;> rfl

theorem number_convertBy (canonical : String) (factor : ℚ) (raw : CollectedItem) :
    (convertBy ports canonical factor raw).number = raw.number.map (· * factor) := by
  change (raw.number.map fun number => EvidenceValue.number (number * factor)).bind
    EvidenceValue.toFloat = _
  cases raw.number with
  | none => rfl
  | some number => rfl

theorem numbers_convertBy (canonical : String) (factor : ℚ) (raws : List CollectedItem) :
    numbers ((raws.map (convertBy ports canonical factor)).map (·.toEvidenceItem)) =
      (numbers (raws.map (·.toEvidenceItem))).map (· * factor) := by
  simp only [numbers, List.filterMap_map, List.map_filterMap]
  exact List.filterMap_congr fun raw _ => number_convertBy canonical factor raw

theorem boundSamples_toEvidenceBundle (bundle : BoundBundle) (metricId unit : String) :
    bundle.toEvidenceBundle.boundSamples metricId unit =
      ((bundle.evidence.filter (isBound metricId)).filter fun item =>
        item.unit == some unit && item.number.isSome).map (·.toEvidenceItem) := by
  unfold EvidenceBundle.boundSamples EvidenceBundle.samples BoundBundle.toEvidenceBundle
  rw [List.filter_filter, List.filter_filter, List.filter_map]
  congr 1
  apply List.filter_congr
  intro item _
  rw [Bool.eq_iff_iff]
  simp only [isBound, Function.comp_apply, Bool.and_eq_true]
  tauto

namespace ConvertsBy
variable {metricId unit canonical : String} {factor : ℚ}
  (h : ConvertsBy ports plan branches metricId unit canonical factor)
include h

theorem normalizeId_eq {id : String} {raw : CollectedItem}
    (hraw : (byId branches).lookup id = some raw) (hbound : isBound metricId raw = true) :
    normalizeId ports plan branches id = .ok (convertBy ports canonical factor raw) := by
  obtain ⟨hunit, hnumber, hcanonical⟩ := h.observed raw (lookup_byId hraw).1 hbound
  obtain ⟨number, hnumber⟩ := Option.isSome_iff_exists.mp hnumber
  have hother : ¬some unit = some canonical := fun heq => h.unit_ne (Option.some.inj heq)
  have hnormalized : normalizeObservation ports raw (bindingOf plan raw) =
      .ok (some (.number (number * factor)), some canonical,
        raw.transformationId ++ ":unit-conversion-v1") := by
    unfold normalizeObservation
    rw [hcanonical]
    simp only [hunit, if_neg hother, hnumber, h.registered]
  simp only [normalizeId, hraw, hnormalized, convertBy, hnumber, Option.map_some]

/-- The bound items of the metric are its observations, converted one by one. -/
theorem filter_isBound (ids : List String) :
    (ids.filterMap fun id => (normalizeId ports plan branches id).toOption).filter
        (isBound metricId) =
      ((ids.filterMap fun id => (byId branches).lookup id).filter (isBound metricId)).map
        (convertBy ports canonical factor) := by
  induction ids with
  | nil => rfl
  | cons id ids ih =>
    cases hraw : (byId branches).lookup id with
    | none =>
      have hmissing : (normalizeId ports plan branches id).toOption = none := by
        simp only [normalizeId, hraw]
        rfl
      simp only [List.filterMap_cons, hmissing, hraw]
      exact ih
    | some raw =>
      by_cases hbound : isBound metricId raw = true
      · have hitem : (normalizeId ports plan branches id).toOption =
            some (convertBy ports canonical factor raw) := by
          rw [h.normalizeId_eq hraw hbound]
          rfl
        have hkept : isBound metricId (convertBy ports canonical factor raw) = true := hbound
        simp only [List.filterMap_cons, hitem, hraw]
        rw [List.filter_cons_of_pos hkept, List.filter_cons_of_pos hbound, List.map_cons, ih]
      · cases hok : normalizeId ports plan branches id with
        | error failure =>
          simp only [List.filterMap_cons, hok, hraw, Except.toOption]
          rw [List.filter_cons_of_neg hbound]
          exact ih
        | ok item =>
          obtain ⟨found, hfound, hconverted⟩ := normalizeId_ok hok
          obtain rfl := Option.some.inj (hraw.symm.trans hfound)
          have hdropped : ¬isBound metricId item = true := by
            rw [hconverted.rest]
            exact hbound
          simp only [List.filterMap_cons, hok, hraw, Except.toOption]
          rw [List.filter_cons_of_neg hdropped, List.filter_cons_of_neg hbound]
          exact ih

theorem boundSamples_canonical :
    (boundBundle ports plan branches).toEvidenceBundle.boundSamples metricId canonical =
      ((rawSamples branches metricId).map (convertBy ports canonical factor)).map
        (·.toEvidenceItem) := by
  have hevidence : (boundBundle ports plan branches).evidence =
      (normalizedSet ports plan branches).evidence := rfl
  rw [boundSamples_toEvidenceBundle, hevidence, normalizedSet_evidence, h.filter_isBound,
    ← rawSamples]
  congr 1
  rw [List.filter_eq_self]
  intro item hitem
  obtain ⟨raw, hraw, rfl⟩ := List.mem_map.mp hitem
  obtain ⟨hraw, hbound⟩ := List.mem_filter.mp hraw
  obtain ⟨id, _, hlookup⟩ := List.mem_filterMap.mp hraw
  have hnumber := (h.observed raw (lookup_byId hlookup).1 hbound).2.1
  rw [number_convertBy, Option.isSome_map, hnumber, Bool.and_true]
  exact beq_self_eq_true _

theorem boundSamples_other {other : String} (hother : other ≠ canonical) :
    (boundBundle ports plan branches).toEvidenceBundle.boundSamples metricId other = [] := by
  have hevidence : (boundBundle ports plan branches).evidence =
      (normalizedSet ports plan branches).evidence := rfl
  rw [boundSamples_toEvidenceBundle, hevidence, normalizedSet_evidence, h.filter_isBound,
    List.map_eq_nil_iff, List.filter_eq_nil_iff]
  intro item hitem
  obtain ⟨raw, _, rfl⟩ := List.mem_map.mp hitem
  have hunit : ((some canonical : Option String) == some other) = false :=
    beq_eq_false_iff_ne.mpr fun heq => hother (Option.some.inj heq).symm
  intro hkept
  rw [Bool.and_eq_true] at hkept
  exact Bool.false_ne_true (hunit.symm.trans hkept.1)

/-- What the aggregation makes of the converted samples is what it makes of the observations,
converted. -/
theorem metricAggregate_eq : metricAggregate metricId canonical
      ((boundBundle ports plan branches).toEvidenceBundle.boundSamples metricId canonical) =
    (metricAggregate metricId unit ((rawSamples branches metricId).map (·.toEvidenceItem))).map
      (MetricAggregate.scale factor canonical) := by
  rw [h.boundSamples_canonical]
  refine metricAggregate_scale (unitFactors_pos h.registered) (numbers_convertBy _ _ _) ?_
  rw [List.map_map, List.map_map, List.map_map]
  rfl

end ConvertsBy

theorem metricAggregate_names {metricId unit : String} {items : List EvidenceItem}
    {aggregate : MetricAggregate} (h : metricAggregate metricId unit items = .ok aggregate) :
    aggregate.metricId = metricId ∧ aggregate.unit = unit := by
  unfold metricAggregate at h
  dsimp only at h
  split at h
  · cases h
    exact ⟨rfl, rfl⟩
  · cases h

theorem mem_aggregates {request : OptimizationRequest} {snapshotDigest : String}
    {bundle : EvidenceBundle} {quality : EvidenceQualityReport}
    {comparability : ComparabilityReport} {baseline : BaselineSnapshot}
    (h : aggregateEvidence request snapshotDigest bundle quality comparability = .ok baseline)
    {aggregate : MetricAggregate} : aggregate ∈ baseline.aggregates ↔ ∃ metricId unit,
      bundle.boundSamples metricId unit ≠ [] ∧
        metricAggregate metricId unit (bundle.boundSamples metricId unit) = .ok aggregate := by
  have hgroup : ∀ group ∈ sortedGroups bundle,
      ∃ aggregate, metricAggregate group.1.1 group.1.2 group.2 = .ok aggregate := by
    rintro ⟨⟨metricId, unit⟩, group⟩ hmem
    obtain ⟨rfl, hne⟩ := EvidenceBundle.mem_sortedGroups.mp hmem
    exact (metricAggregate_spec metricId unit hne fun _ =>
      EvidenceBundle.number_isSome_of_mem_boundSamples).imp fun _ h => h.1
  obtain ⟨aggregates, hok, hmem⟩ := mapM_ok_of_forall hgroup
  have haggregates : baseline.aggregates = aggregates := by
    unfold aggregateEvidence at h
    rw [hok] at h
    cases hpassed : quality.passed <;> cases hcomparable : comparability.comparable <;>
      cases hwindow : observationWindow bundle <;> rw [hpassed, hcomparable, hwindow] at h <;>
      cases h
    rfl
  rw [haggregates, hmem]
  constructor
  · rintro ⟨⟨⟨metricId, unit⟩, group⟩, hin, hagg⟩
    obtain ⟨rfl, hne⟩ := EvidenceBundle.mem_sortedGroups.mp hin
    exact ⟨metricId, unit, hne, hagg⟩
  · rintro ⟨metricId, unit, hne, hagg⟩
    exact ⟨_, EvidenceBundle.mem_sortedGroups.mpr ⟨rfl, hne⟩, hagg⟩

end Normalization

def secondsPorts : NormalizationPorts where
  lower unit := unit
  repr unit := "'" ++ unit ++ "'"
  putBlob item _ _ _ := "normalized/" ++ item.evidenceId

def secondsItem (evidenceId : String) (value : ℚ) : CollectedItem where
  evidenceId
  evidenceType := "benchmark_command_result"
  trustLevel := .T2
  sampleId := evidenceId ++ "-sample"
  observedAt := 0
  rawRef := "raw/" ++ evidenceId
  normalizedRef := none
  value := some (.number value)
  unit := some "s"
  requirementId := some "evidence-latency"
  metricId := some "latency"
  dimensions := []
  transformationId := "pytest-benchmark/v1"
  collector := "a2.benchmark"
  collectorVersion := "1.0"

def secondsBranches : List CollectedBranch :=
  [{ branchId := "A2.62", unavailableReason := none
     evidence := [secondsItem "round-2" (3 / 2), secondsItem "round-1" (1 / 2)] }]

def millisecondsBinding : CollectorBinding where
  requirementId := "evidence-latency"
  sourceType := "benchmark"
  metricId := some "latency"
  canonicalUnit := some "ms"
  executionNode := ⟨.A2, 62⟩

theorem seconds_converts :
    ConvertsBy secondsPorts [millisecondsBinding] secondsBranches "latency" "s" "ms" 1000 where
  unit_ne := by decide
  registered := by decide +kernel
  observed raw hraw _ := by
    rcases List.mem_pair.mp hraw with rfl | rfl
    · exact ⟨rfl, rfl, by decide +kernel⟩
    · exact ⟨rfl, rfl, by decide +kernel⟩

end ProductionOptimizer.EvidenceGate
