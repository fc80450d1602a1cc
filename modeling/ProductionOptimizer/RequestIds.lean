import ProductionOptimizer.Handlers.Intake

/-!
# Are the criteria of a frozen request told apart?

A criterion's id is a slug of its metric, and the payload is only checked for repeated
metrics. Everything after A1 keys its maps by the slug, and the guardrail's requirement
is stored under the guardrail's id in the same column.
-/

namespace ProductionOptimizer.Intake
set_option autoImplicit false

/-- No id is used twice, and no dictionary by criterion id loses an entry. -/
structure Identifiable (request : OptimizationRequest) : Prop where
  criteria : (request.criteria.map (·.criterionId)).Nodup
  apart : ∀ c ∈ request.criteria, ∀ g ∈ request.guardrails, c.criterionId ≠ g.guardrailId
  perCriterion : ∀ c ∈ request.criteria,
    request.evidenceRequirements.countP (·.criterionId == c.criterionId) = 1
  perGuardrail : ∀ g ∈ request.guardrails,
    request.evidenceRequirements.countP (·.criterionId == g.guardrailId) = 1
  requirements : (request.evidenceRequirements.map (·.requirementId)).Nodup
  keyed : ∀ (V : Type) (value : Criterion → V),
    (dictOf (request.criteria.map fun c => (c.criterionId, value c))).length =
      request.criteria.length

/-! ### Ids of a frozen request -/

section Frozen
variable {unicode : UnicodeData} {a : IntakeAnswers} {payload : ManualCasePayload}
  {request : OptimizationRequest}

/-- The ids that `A1.61` derives from the metrics of a payload. -/
def payloadIds (unicode : UnicodeData) (payload : ManualCasePayload) : List String :=
  payload.criteria.map fun declared => criterionId unicode declared.metricId

theorem ids_distinct_iff (h : freezeRequest unicode a payload = some request) :
    (request.criteria.map (·.criterionId)).Nodup ∧
        "correctness" ∉ request.criteria.map (·.criterionId) ↔
      (payloadIds unicode payload).Nodup ∧ "correctness" ∉ payloadIds unicode payload := by
  rw [(frozen_spec h).1, criteriaOf]
  split
  · rename_i hempty
    have hnil : payload.criteria = [] := List.isEmpty_iff.mp hempty
    have hprimary : "correctness" ≠ "primary" := by decide
    simp [payloadIds, hnil, shorthandCriterion, hprimary]
  · rw [List.map_map]
    rfl

theorem requirement_criterionIds (h : freezeRequest unicode a payload = some request) :
    request.evidenceRequirements.map (·.criterionId) =
      request.criteria.map (·.criterionId) ++ request.guardrails.map (·.guardrailId) := by
  rw [(frozen_spec h).2.2, List.map_append, List.map_map, List.map_map]
  rfl

theorem requirement_ids (h : freezeRequest unicode a payload = some request) :
    request.evidenceRequirements.map (·.requirementId) =
      (request.criteria.map (·.criterionId)).map ("evidence-" ++ ·) ++
        ["guardrail-correctness"] := by
  have hguardrails : request.guardrails.map (fun g => "guardrail-" ++ g.guardrailId) =
      ["guardrail-correctness"] := by
    have hid := congrArg (List.map ("guardrail-" ++ ·)) (frozen_spec h).2.1
    rw [List.map_map] at hid
    exact hid
  rw [(frozen_spec h).2.2, List.map_append, List.map_map, List.map_map, List.map_map]
  exact congrArg _ hguardrails

theorem countP_eq_one {ids : List String} (hnodup : ids.Nodup)
    (hids : request.evidenceRequirements.map (·.criterionId) = ids) {id : String} (hid : id ∈ ids) :
    request.evidenceRequirements.countP (·.criterionId == id) = 1 := by
  have hcount : request.evidenceRequirements.countP (·.criterionId == id) = ids.count id := by
    rw [← hids, List.count, List.countP_map]
    rfl
  rw [hcount, List.count_eq_one_of_mem hnodup hid]

theorem evidence_ne_guardrail (id : String) : "evidence-" ++ id ≠ "guardrail-correctness" := by
  intro heq
  have hchars := congrArg String.toList heq
  rw [String.toList_append] at hchars
  have hhead : some 'e' = some 'g' := congrArg List.head? hchars
  exact absurd hhead (by decide)

theorem identifiable_of_distinct (h : freezeRequest unicode a payload = some request)
    (hnodup : (request.criteria.map (·.criterionId)).Nodup)
    (hcorrectness : "correctness" ∉ request.criteria.map (·.criterionId)) :
    Identifiable request := by
  have hguardrails := (frozen_spec h).2.1
  have hids := requirement_criterionIds h
  rw [hguardrails] at hids
  have hall : (request.criteria.map (·.criterionId) ++ ["correctness"]).Nodup :=
    hnodup.append (List.nodup_singleton _) (List.disjoint_singleton.mpr hcorrectness)
  have hguardrail : ∀ g ∈ request.guardrails, g.guardrailId = "correctness" := by
    intro g hg
    have hmem : g.guardrailId ∈ request.guardrails.map (·.guardrailId) := List.mem_map_of_mem hg
    rw [hguardrails] at hmem
    exact List.mem_singleton.mp hmem
  constructor
  · exact hnodup
  · intro c hc g hg heq
    rw [hguardrail g hg] at heq
    exact hcorrectness (heq ▸ List.mem_map_of_mem hc)
  · intro c hc
    exact countP_eq_one hall hids (List.mem_append_left _ (List.mem_map_of_mem hc))
  · intro g hg
    rw [hguardrail g hg]
    exact countP_eq_one hall hids (List.mem_append_right _ (List.mem_singleton.mpr rfl))
  · rw [requirement_ids h]
    apply List.Nodup.append
    · apply hnodup.map
      intro x y hxy
      exact (String.append_right_inj "evidence-").mp hxy
    · exact List.nodup_singleton _
    · rw [List.disjoint_singleton, List.mem_map]
      rintro ⟨id, -, heq⟩
      exact evidence_ne_guardrail id heq
  · intro V value
    rw [dictOf_eq_self, List.length_map]
    rw [List.map_map]
    exact hnodup

/-- Criteria and guardrail are told apart exactly if no two metrics of the payload have one
slug and none has the guardrail's. -/
theorem identifiable_iff (h : freezeRequest unicode a payload = some request) :
    Identifiable request ↔
      (payloadIds unicode payload).Nodup ∧ "correctness" ∉ payloadIds unicode payload := by
  rw [← ids_distinct_iff h]
  constructor
  · intro hidentifiable
    refine ⟨hidentifiable.criteria, fun hmem => ?_⟩
    obtain ⟨c, hc, hid⟩ := List.mem_map.mp hmem
    have hguardrail : "correctness" ∈ request.guardrails.map (·.guardrailId) := by
      rw [(frozen_spec h).2.1]
      exact List.mem_singleton.mpr rfl
    obtain ⟨g, hg, hgid⟩ := List.mem_map.mp hguardrail
    exact hidentifiable.apart c hc g hg (hid.trans hgid.symm)
  · rintro ⟨hnodup, hcorrectness⟩
    exact identifiable_of_distinct h hnodup hcorrectness

end Frozen

/-! ### Two payloads -/

def asciiData : UnicodeData where
  lower text := text.map Char.toLower
  isAlnum := Char.isAlphanum
  lower_ascii _ _ := rfl
  isAlnum_ascii _ _ := rfl

def readyAnswers : IntakeAnswers where
  scope := ⟨"checkout", 1⟩
  profile := ⟨[("python", 1)], 12, false⟩
  budget := ⟨3600, 600, 1⟩
  approved := true

def checkoutPayload (criteria : List CriterionInput) : ManualCasePayload where
  featureId := some "checkout"
  criteria := criteria
  workloadId := some "checkout"
  environmentId := some "ci"

/-- Two different metrics with one slug. -/
def collidingPayload : ManualCasePayload :=
  checkoutPayload [⟨"p95-checkout", .minimize, 200, "ms", 1⟩,
    ⟨"p95_checkout", .minimize, 300, "ms", 2⟩]

def latencyPayload : ManualCasePayload :=
  checkoutPayload [⟨"p95_latency_ms", .minimize, 200, "ms", 1⟩,
    ⟨"throughput_rps", .maximize, 50, "requests_per_second", 1⟩]

theorem colliding_metrics_are_frozen :
    collidingPayload.requireBusinessIntent = .ok () ∧
      ∃ request, freezeRequest asciiData readyAnswers collidingPayload = some request ∧
        ¬ Identifiable request := by
  have hfrozen : (freezeRequest asciiData readyAnswers collidingPayload).isSome = true := by
    decide +kernel
  obtain ⟨request, hrequest⟩ := Option.isSome_iff_exists.mp hfrozen
  refine ⟨(freezeRequest_eq hrequest).1, request, hrequest, fun hidentifiable => ?_⟩
  have hrepeated : ¬ ((criteriaOf asciiData readyAnswers collidingPayload).map
      (·.criterionId)).Nodup := by decide +kernel
  apply hrepeated
  rw [← (frozen_spec hrequest).1]
  exact hidentifiable.criteria

theorem latency_and_throughput_identifiable :
    ∃ request, freezeRequest asciiData readyAnswers latencyPayload = some request ∧
      Identifiable request := by
  have hfrozen : (freezeRequest asciiData readyAnswers latencyPayload).isSome = true := by
    decide +kernel
  obtain ⟨request, hrequest⟩ := Option.isSome_iff_exists.mp hfrozen
  exact ⟨request, hrequest, (identifiable_iff hrequest).mpr (by decide +kernel)⟩

end ProductionOptimizer.Intake
