import ProductionOptimizer.Handlers.Intake

/-!
# Structured intent against extracted intent

`_draft_from_payload` fills the draft from three sources. The loop over the scalar fields lets a
structured value replace an extracted one and notes the conflict; but what the first criterion
gives is written before that loop, and an extracted value replaces it without a note.
-/

namespace ProductionOptimizer.Intake
set_option autoImplicit false

/-! ### The scalar fields of a draft -/

inductive DraftField where
  | featureId
  | metricId
  | direction
  | target
  | unit
  | guardrailMetricId
  | workloadId
  | datasetId
  | environmentId
  | requesterHypothesis
  deriving DecidableEq, Repr

def DraftField.name : DraftField → String
  | .featureId => "feature_id"
  | .metricId => "metric_id"
  | .direction => "direction"
  | .target => "target"
  | .unit => "unit"
  | .guardrailMetricId => "guardrail_metric_id"
  | .workloadId => "workload_id"
  | .datasetId => "dataset_id"
  | .environmentId => "environment_id"
  | .requesterHypothesis => "requester_hypothesis"

inductive FieldValue where
  | text (value : String)
  | direction (value : Direction)
  | number (value : ℚ)
  deriving DecidableEq

def ManualCasePayload.get (payload : ManualCasePayload) : DraftField → Option FieldValue
  | .featureId => payload.featureId.map .text
  | .metricId => payload.metricId.map .text
  | .direction => payload.direction.map .direction
  | .target => payload.target.map .number
  | .unit => payload.unit.map .text
  | .guardrailMetricId => payload.guardrailMetricId.map .text
  | .workloadId => payload.workloadId.map .text
  | .datasetId => payload.datasetId.map .text
  | .environmentId => payload.environmentId.map .text
  | .requesterHypothesis => payload.requesterHypothesis.map .text

def ExtractedIntent.get (extracted : ExtractedIntent) : DraftField → Option FieldValue
  | .featureId => extracted.featureId.map .text
  | .metricId => extracted.metricId.map .text
  | .direction => extracted.direction.map .direction
  | .target => extracted.target.map .number
  | .unit => extracted.unit.map .text
  | .guardrailMetricId => extracted.guardrailMetricId.map .text
  | .workloadId => extracted.workloadId.map .text
  | .datasetId => extracted.datasetId.map .text
  | .environmentId => extracted.environmentId.map .text
  | .requesterHypothesis => extracted.requesterHypothesis.map .text

def RawRequestDraft.get (draft : RawRequestDraft) : DraftField → Option FieldValue
  | .featureId => draft.featureId.map .text
  | .metricId => draft.metricId.map .text
  | .direction => draft.direction.map .direction
  | .target => draft.target.map .number
  | .unit => draft.unit.map .text
  | .guardrailMetricId => draft.guardrailMetricId.map .text
  | .workloadId => draft.workloadId.map .text
  | .datasetId => draft.datasetId.map .text
  | .environmentId => draft.environmentId.map .text
  | .requesterHypothesis => draft.requesterHypothesis.map .text

/-- What the criterion of the highest weight gives. -/
def suggested (payload : ManualCasePayload) : DraftField → Option FieldValue
  | .metricId => (primaryCriterion payload.criteria).map fun c => .text c.metricId
  | .direction => (primaryCriterion payload.criteria).map fun c => .direction c.direction
  | .target => (primaryCriterion payload.criteria).map fun c => .number c.target
  | .unit => (primaryCriterion payload.criteria).map fun c => .text c.unit
  | _ => none

def extractedValue (extracted : Option ExtractedIntent) (field : DraftField) : Option FieldValue :=
  (extracted.getD {}).get field

/-! ### Provenance -/

inductive Provenance where
  | structuredPayload
  | structuredPayloadCriteria
  | rawTextModel
  | policyDefault
  deriving DecidableEq, Repr

def Provenance.text : Provenance → String
  | .structuredPayload => "structured_payload"
  | .structuredPayloadCriteria => "structured_payload:criteria"
  | .rawTextModel => "raw_text:model"
  | .policyDefault => "policy_default"

def Provenance.structured : Provenance → Bool
  | .structuredPayload | .structuredPayloadCriteria => true
  | .rawTextModel | .policyDefault => false

/-- The provenance after the loop over the fields. -/
def mergeProvenance {V : Type} (suggested raw structured : Option V) : Option Provenance :=
  if structured.isSome then some .structuredPayload
  else if raw.isSome then some .rawTextModel
  else if suggested.isSome then some .structuredPayloadCriteria
  else none

/-- The entry of `field_provenance`; an absent or empty guardrail is the policy's. -/
def fieldProvenance (extracted : Option ExtractedIntent) (payload : ManualCasePayload)
    (field : DraftField) : Option Provenance :=
  if field = .guardrailMetricId ∧ truthy (mergeField none
      (extracted.getD {}).guardrailMetricId payload.guardrailMetricId) = none then
    some .policyDefault
  else
    mergeProvenance (suggested payload field) (extractedValue extracted field) (payload.get field)

def commandsProvenance (payload : ManualCasePayload) : Option Provenance :=
  (payload.commands.filter (!·.isEmpty)).map fun _ => .structuredPayload

def conflictText (field : DraftField) : String :=
  field.name ++ ": raw and structured values disagree"

/-! ### What the payload determines -/

/-- The value the structured payload gives a field: its own, else that of the first criterion. An
empty guardrail names no metric. -/
def structuredValue (payload : ManualCasePayload) : DraftField → Option FieldValue
  | .guardrailMetricId => (truthy payload.guardrailMetricId).map .text
  | field => (payload.get field).or (suggested payload field)

section Draft
variable {extracted : Option ExtractedIntent} {payload : ManualCasePayload}

theorem mergeField_map {V W : Type} (f : V → W) (suggested raw structured : Option V) :
    (mergeField suggested raw structured).map f =
      mergeField (suggested.map f) (raw.map f) (structured.map f) := by
  cases structured <;> cases raw <;> rfl

/-- Every field but the guardrail holds the merged value. -/
theorem draft_get {field : DraftField} (h : field ≠ .guardrailMetricId) :
    (draftFromPayload extracted payload).get field =
      mergeField (suggested payload field) (extractedValue extracted field)
        (payload.get field) := by
  cases field with
  | guardrailMetricId => exact absurd rfl h
  | metricId | direction | target | unit =>
    show Option.map _ (mergeField _ _ _) = _
    rw [mergeField_map, Option.map_map]
    rfl
  | _ =>
    show Option.map _ (mergeField _ _ _) = _
    rw [mergeField_map]
    rfl

theorem draft_guardrail : (draftFromPayload extracted payload).guardrailMetricId =
    (truthy (mergeField none (extracted.getD {}).guardrailMetricId
      payload.guardrailMetricId)).or (some "unit_command_result") := rfl

theorem mem_fieldConflict {V W : Type} [DecidableEq V] {f : V → W} {name : String}
    {raw structured : Option V} {r s : W} (hraw : raw.map f = some r)
    (hstructured : structured.map f = some s) (hne : r ≠ s) :
    name ++ ": raw and structured values disagree" ∈ fieldConflict name raw structured := by
  obtain ⟨r', rfl, rfl⟩ := Option.map_eq_some_iff.mp hraw
  obtain ⟨s', rfl, rfl⟩ := Option.map_eq_some_iff.mp hstructured
  have hne' : r' ≠ s' := fun heq => hne (congrArg f heq)
  show _ ∈ (if r' = s' then [] else [_])
  rw [if_neg hne']
  exact List.mem_singleton_self _

/-- What one round of the loop adds to the conflicts. -/
def conflictOf (extracted : Option ExtractedIntent) (payload : ManualCasePayload)
    (field : DraftField) : List String :=
  let raw := extracted.getD {}
  match field with
  | .featureId => fieldConflict field.name raw.featureId payload.featureId
  | .metricId => fieldConflict field.name raw.metricId payload.metricId
  | .direction => fieldConflict field.name raw.direction payload.direction
  | .target => fieldConflict field.name raw.target payload.target
  | .unit => fieldConflict field.name raw.unit payload.unit
  | .guardrailMetricId => fieldConflict field.name raw.guardrailMetricId payload.guardrailMetricId
  | .workloadId => fieldConflict field.name raw.workloadId payload.workloadId
  | .datasetId => fieldConflict field.name raw.datasetId payload.datasetId
  | .environmentId => fieldConflict field.name raw.environmentId payload.environmentId
  | .requesterHypothesis =>
    fieldConflict field.name raw.requesterHypothesis payload.requesterHypothesis

theorem mem_conflicts {field : DraftField} {message : String}
    (h : message ∈ conflictOf extracted payload field) :
    message ∈ (draftFromPayload extracted payload).conflicts := by
  unfold draftFromPayload
  simp only [List.mem_append]
  cases field <;> simp only [conflictOf, DraftField.name] at h <;> tauto

/-- A value that contradicts the payload's own is noted. -/
theorem conflict_noted {field : DraftField} {raw value : FieldValue}
    (hraw : extractedValue extracted field = some raw) (hvalue : payload.get field = some value)
    (hne : raw ≠ value) : conflictText field ∈ (draftFromPayload extracted payload).conflicts := by
  have hmem : conflictText field ∈ conflictOf extracted payload field := by
    cases field <;> exact mem_fieldConflict hraw hvalue hne
  exact mem_conflicts hmem

end Draft

/-! ### When the structured intent wins -/

/-- An extraction that contradicts nothing the payload determines. -/
def Agrees (extracted : Option ExtractedIntent) (payload : ManualCasePayload) : Prop :=
  ∀ field value raw, structuredValue payload field = some value →
    extractedValue extracted field = some raw → raw = value

structure StructuredWins (extracted : Option ExtractedIntent) (payload : ManualCasePayload) :
    Prop where
  held : ∀ field value, structuredValue payload field = some value →
    (draftFromPayload extracted payload).get field = some value
  provenance : ∀ field value, structuredValue payload field = some value →
    ∃ source, fieldProvenance extracted payload field = some source ∧ source.structured = true
  conflict : ∀ field value raw, structuredValue payload field = some value →
    extractedValue extracted field = some raw → raw ≠ value →
      conflictText field ∈ (draftFromPayload extracted payload).conflicts
  /-- Declared commands are held whatever was extracted. -/
  commands : ∀ extracted', (draftFromPayload extracted' payload).commands =
    (draftFromPayload extracted payload).commands
  declared : ∀ entry entries, payload.commands = some (entry :: entries) →
    (draftFromPayload extracted payload).commands = payload.commands ∧
      commandsProvenance payload = some .structuredPayload
  /-- Two extractions that agree with the payload give the same determined fields. -/
  agreeing : ∀ extracted', Agrees extracted payload → Agrees extracted' payload →
    ∀ field value, structuredValue payload field = some value →
      (draftFromPayload extracted payload).get field =
        (draftFromPayload extracted' payload).get field

/-- The fields a criterion gives. -/
def criterionFields : List DraftField := [.metricId, .direction, .target, .unit]

section Wins
variable {extracted : Option ExtractedIntent} {payload : ManualCasePayload} {field : DraftField}
  {value : FieldValue}

theorem suggested_some (h : suggested payload field = some value) :
    field ∈ criterionFields ∧ payload.criteria ≠ [] := by
  have hcriteria : payload.criteria ≠ [] := by
    intro hnil
    unfold suggested at h
    rw [hnil] at h
    cases field <;> cases h
  refine ⟨?_, hcriteria⟩
  cases field with
  | metricId | direction | target | unit => simp [criterionFields]
  | _ => cases h

theorem exists_suggested (hfield : field ∈ criterionFields) (hcriteria : payload.criteria ≠ []) :
    ∃ value, suggested payload field = some value := by
  obtain ⟨first, rest, hsplit⟩ := List.exists_cons_of_ne_nil hcriteria
  unfold suggested
  rw [hsplit]
  simp only [criterionFields, List.mem_cons, List.not_mem_nil, or_false] at hfield
  rcases hfield with rfl | rfl | rfl | rfl <;> exact ⟨_, rfl⟩

/-- A determined field is the payload's own, or comes from the first criterion. -/
theorem structuredValue_cases (h : structuredValue payload field = some value) :
    payload.get field = some value ∨
      payload.get field = none ∧ suggested payload field = some value := by
  cases field with
  | guardrailMetricId =>
    left
    obtain ⟨guardrail, hguardrail, rfl⟩ := Option.map_eq_some_iff.mp h
    show payload.guardrailMetricId.map _ = _
    rw [(Option.filter_eq_some_iff.mp hguardrail).1]
    rfl
  | _ => exact Option.or_eq_some_iff.mp h

theorem guardrail_of_structured (extracted : Option ExtractedIntent)
    (h : structuredValue payload .guardrailMetricId = some value) :
    ∃ guardrail, value = .text guardrail ∧ truthy (mergeField none
      (extracted.getD {}).guardrailMetricId payload.guardrailMetricId) = some guardrail := by
  obtain ⟨guardrail, hguardrail, rfl⟩ := Option.map_eq_some_iff.mp h
  refine ⟨guardrail, rfl, ?_⟩
  have hsome := (Option.filter_eq_some_iff.mp hguardrail).1
  rw [hsome] at hguardrail ⊢
  exact hguardrail

/-- A field of the payload's own beats the extraction. -/
theorem own_value_wins (h : structuredValue payload field = some value)
    (hown : payload.get field = some value) :
    (draftFromPayload extracted payload).get field = some value ∧
      fieldProvenance extracted payload field = some .structuredPayload := by
  have hmerge : mergeProvenance (suggested payload field) (extractedValue extracted field)
      (payload.get field) = some .structuredPayload := by
    unfold mergeProvenance
    rw [hown]
    rfl
  by_cases hguardrail : field = .guardrailMetricId
  · subst hguardrail
    obtain ⟨guardrail, rfl, htruthy⟩ := guardrail_of_structured extracted h
    constructor
    · show (draftFromPayload extracted payload).guardrailMetricId.map _ = _
      rw [draft_guardrail, htruthy]
      rfl
    · unfold fieldProvenance
      rw [htruthy, if_neg (by simp), hmerge]
  · constructor
    · rw [draft_get hguardrail, hown]
      rfl
    · unfold fieldProvenance
      rw [if_neg (fun hand => hguardrail hand.1), hmerge]

/-- A field that only the criteria give is the extraction's as soon as there is one. -/
theorem suggested_merge (hown : payload.get field = none)
    (hsuggested : suggested payload field = some value) :
    (draftFromPayload extracted payload).get field =
        (extractedValue extracted field).or (some value) ∧
      fieldProvenance extracted payload field =
        if (extractedValue extracted field).isSome then some .rawTextModel
        else some .structuredPayloadCriteria := by
  have hguardrail : field ≠ .guardrailMetricId := by
    rintro rfl
    cases hsuggested
  constructor
  · rw [draft_get hguardrail, hown, hsuggested]
    rfl
  · unfold fieldProvenance mergeProvenance
    rw [if_neg (fun hand => hguardrail hand.1), hown, hsuggested]
    rfl

theorem agreeing_value (hagrees : Agrees extracted payload)
    (h : structuredValue payload field = some value) :
    (draftFromPayload extracted payload).get field = some value := by
  rcases structuredValue_cases h with hown | ⟨hnone, hsuggested⟩
  · exact (own_value_wins h hown).1
  · rw [(suggested_merge hnone hsuggested).1]
    cases hraw : extractedValue extracted field with
    | none => rfl
    | some raw =>
      rw [hagrees field value raw h hraw]
      rfl

end Wins

/-- The structured payload wins exactly when no extracted value stands where only the criteria
speak. -/
theorem structured_wins_iff (extracted : Option ExtractedIntent) (payload : ManualCasePayload) :
    StructuredWins extracted payload ↔
      payload.criteria = [] ∨ ∀ field ∈ criterionFields,
        payload.get field = none → extractedValue extracted field = none := by
  constructor
  · intro h
    by_cases hcriteria : payload.criteria = []
    · exact .inl hcriteria
    · right
      intro field hfield hnone
      obtain ⟨value, hsuggested⟩ := exists_suggested hfield hcriteria
      have hvalue : structuredValue payload field = some value := by
        cases field with
        | guardrailMetricId => cases hsuggested
        | _ =>
          show (payload.get _).or _ = _
          rw [hnone, hsuggested]
          rfl
      obtain ⟨source, hsource, hstructured⟩ := h.provenance field value hvalue
      rw [(suggested_merge hnone hsuggested).2] at hsource
      cases hraw : extractedValue extracted field with
      | none => rfl
      | some raw =>
        rw [hraw] at hsource
        cases hsource
        cases hstructured
  · intro h
    have hquiet : ∀ field value, payload.get field = none → suggested payload field = some value →
        extractedValue extracted field = none := by
      intro field value hnone hsuggested
      obtain ⟨hfield, hcriteria⟩ := suggested_some hsuggested
      rcases h with hnil | hall
      · exact absurd hnil hcriteria
      · exact hall field hfield hnone
    refine ⟨?_, ?_, ?_, fun _ => rfl, ?_, ?_⟩
    · intro field value hvalue
      rcases structuredValue_cases hvalue with hown | ⟨hnone, hsuggested⟩
      · exact (own_value_wins hvalue hown).1
      · rw [(suggested_merge hnone hsuggested).1, hquiet field value hnone hsuggested]
        rfl
    · intro field value hvalue
      rcases structuredValue_cases hvalue with hown | ⟨hnone, hsuggested⟩
      · exact ⟨_, (own_value_wins hvalue hown).2, rfl⟩
      · refine ⟨.structuredPayloadCriteria, ?_, rfl⟩
        rw [(suggested_merge hnone hsuggested).2, hquiet field value hnone hsuggested]
        rfl
    · intro field value raw hvalue hraw hne
      rcases structuredValue_cases hvalue with hown | ⟨hnone, hsuggested⟩
      · exact conflict_noted hraw hown hne
      · rw [hquiet field value hnone hsuggested] at hraw
        cases hraw
    · intro entry entries hcommands
      constructor
      · show payload.commands.filter _ = _
        rw [hcommands]
        rfl
      · unfold commandsProvenance
        rw [hcommands]
        rfl
    · intro extracted' hagrees hagrees' field value hvalue
      rw [agreeing_value hagrees hvalue, agreeing_value hagrees' hvalue]

/-! ### An extraction that replaces a criterion -/

/-- Two criteria, and a text from which the model reads another target. -/
def twoCriteria : ManualCasePayload where
  rawText := some "make checkout faster, aim for 250 ms"
  featureId := some "checkout"
  criteria := [⟨"p95_latency_ms", .minimize, 200, "ms", 3⟩, ⟨"cost_usd", .minimize, 5, "usd", 1⟩]

def readTarget : ExtractedIntent where
  objectiveStatement := some "make checkout faster"
  target := some 250

/-- The draft takes the model's target, and nothing says so. -/
theorem extraction_replaces_criterion :
    twoCriteria.requireBusinessIntent = .ok () ∧
      (draftFromPayload (some readTarget) twoCriteria).target = some 250 ∧
      (draftFromPayload (some readTarget) twoCriteria).conflicts = [] ∧
      ¬ StructuredWins (some readTarget) twoCriteria := by
  refine ⟨by decide +kernel, rfl, rfl, ?_⟩
  intro h
  have hheld := h.held .target (.number 200) rfl
  have hread : (draftFromPayload (some readTarget) twoCriteria).get .target = some (.number 250) :=
    rfl
  rw [hread] at hheld
  simp at hheld

end ProductionOptimizer.Intake
