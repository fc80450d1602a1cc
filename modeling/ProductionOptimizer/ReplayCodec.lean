import ProductionOptimizer.Contracts.Nodes
import ProductionOptimizer.Library.TypedJson

/-!
# Replay of a recorded execution

`NodeRuntime` records an execution as canonical JSON and reads it back through the
annotations of `OptimizationState`. Most of these say `Any`, so a contract model in such a
field comes back as a plain dict.
-/

namespace ProductionOptimizer
open TypedJson
set_option autoImplicit false

/-- The contract classes that the annotations of the state name. -/
inductive ModelClass where
  | artifactRef
  | eventRef
  | interruptEnvelope
  | other (name : String)
  deriving DecidableEq, Repr

def untypedFields : List String :=
  ["resume_command", "pending_command_proposal", "b2_analysis_strategy", "b2_model_context_package",
   "b2_discovery_assumption_report", "b2_staleness_decision", "b2_routing_decision", "b2_approval",
   "c0_schema_results", "c0_digest_chain", "c0_equivalence_verdicts", "c0_freshness_checks",
   "s01_decision_context", "s01_eligible_strategy_ids", "s01_normalized_factors", "s01_scores",
   "s01_ranked_strategy_ids", "s01_sensitivity_flags", "s01_routing_decision", "s01_approval",
   "s01_excluded_strategy_ids", "s02_resolution_ok", "s02_dependency_map", "s02_plan_draft",
   "s02_critique", "s02_approval", "s03_active_phase_id", "s03_authorization", "s03_workspace",
   "s03_executor", "s03_context", "s03_tool_calls", "s03_scope_report", "s03_sanitation_report",
   "s03_implemented_task_ids", "s03_completed_task_ids", "s04_manifest", "s04_check_results",
   "s04_failure_attributions", "s05_protocol", "s05_isolation", "s05_treatment_aggregates",
   "s05_quality", "s06_target_evaluations", "s06_intake", "s06_guardrail_evaluations",
   "s06_attribution", "s06_decision", "s06_rollback", "s06_apply", "s07_digest_chain",
   "s07_chronology", "s07_outcomes", "s07_evidence", "s07_source_change", "s07_cost",
   "s07_narrative"]

def untypedLists : List String :=
  ["b1_run_groups", "b1_signals", "b1_feature_bindings", "b1_source_bindings",
   "b1_ownership_bindings", "b1_scores", "b1_qualification_decisions", "b1_cooldown_decisions"]

def typedFields : List (String × Hint ModelClass) :=
  [("case_id", .str),
   ("thread_id", .str),
   ("tenant_id", .str),
   ("lane", .literal ["manual", "automatic"]),
   ("entrypoint", .literal ["manual", "discovery", "qualified"]),
   ("baseline_mode", .literal ["active_collection", "historical_recovery"]),
   ("actor_context", .any),
   ("status", .str),
   ("current_node", .str),
   ("request_ref", .model .artifactRef),
   ("baseline_ref", .model .artifactRef),
   ("solution_portfolio_ref", .model .artifactRef),
   ("convergence_ref", .model .artifactRef),
   ("pending_interrupt", .optional (.model .interruptEnvelope)),
   ("completed_nodes", .list .str),
   ("node_routes", .dict .str),
   ("artifact_refs", .list (.model .artifactRef)),
   ("error_refs", .list (.model .artifactRef)),
   ("event_refs", .list (.model .eventRef)),
   ("a3_revision_attempts", .int),
   ("a3_model_tokens_spent", .int),
   ("resume_attempts", .int),
   ("resume_target_node", .optional .str),
   ("b2_narrative", .optional .str),
   ("s02_revision_attempts", .int),
   ("s03_revision_attempts", .int)]

/-- `_STATE_FIELD_TYPES`: the annotations of `OptimizationState`. -/
def stateFieldTypes : List (String × Hint ModelClass) :=
  typedFields ++ untypedFields.map (·, .optional .any) ++ untypedLists.map (·, .list .any)

def identityFields : List String := ["case_id", "thread_id", "tenant_id", "entrypoint", "lane"]

def NodeRoute.value : NodeRoute → String
  | .continue_ => "continue"
  | .clarification => "clarification"
  | .approval => "approval"
  | .rejected => "rejected"
  | .missing => "missing"
  | .incomparable => "incomparable"
  | .revision => "revision"
  | .quarantine => "quarantine"
  | .merged => "merged"
  | .suppressed => "suppressed"
  | .refresh => "refresh"
  | .closed => "closed"

def allRoutes : List NodeRoute :=
  [.continue_, .clarification, .approval, .rejected, .missing, .incomparable, .revision,
   .quarantine, .merged, .suppressed, .refresh, .closed]

/-- `NodeRoute(value)`. -/
def NodeRoute.ofValue (value : String) : Option NodeRoute := allRoutes.find? (·.value == value)

theorem NodeRoute.ofValue_value (route : NodeRoute) : ofValue route.value = some route := by
  cases route <;> rfl

/-- A `NodeExecution` with the items of its `updates`. -/
structure Execution (M : Type) where
  route : NodeRoute
  updates : List (String × Value M)

/-- `_validate_execution`: a declared route, known fields, no identity field. -/
def validateExecution {M : Type} (allowedRoutes : List NodeRoute) (e : Execution M) : Bool :=
  allowedRoutes.contains e.route &&
    e.updates.all fun entry =>
      stateFieldTypes.any (·.1 == entry.1) && !identityFields.contains entry.1

section Codec
variable {M : Type} (lib : Models M ModelClass)

/-- `canonical_json`, as the value that its text denotes. -/
def canonicalJson (e : Execution M) : Value M :=
  .dict [("route", .string e.route.value), ("updates", .dict (imageItems lib e.updates))]

def coerceField (entry : String × Value M) : Option (String × Value M) :=
  match stateFieldTypes.lookup entry.1 with
  | some hint => (coerce lib hint entry.2).map fun v => (entry.1, v)
  | none => some entry

def loadExecution : Value M → Option (Execution M)
  | .dict items =>
    match items.lookup "route", items.lookup "updates" with
    | some (.string route), some (.dict updates) => do
      let route ← NodeRoute.ofValue route
      let updates ← updates.mapM (coerceField lib)
      some ⟨route, updates⟩
    | _, _ => none
  | _ => none

/-- The field's value has the annotated type; where the annotation says nothing it holds no
contract model. -/
def FitsField (entry : String × Value M) : Prop :=
  match stateFieldTypes.lookup entry.1 with
  | some hint => Fits lib hint entry.2
  | none => entry.2.plain = true

/-- A replay hands on what was recorded. -/
def Transparent (e : Execution M) : Prop := loadExecution lib (canonicalJson lib e) = some e

end Codec

section Facts
variable {M : Type} {lib : Models M ModelClass}

theorem coerceField_image_iff (h : lib.Lawful) (entry : String × Value M) :
    coerceField lib (entry.1, image lib entry.2) = some entry ↔ FitsField lib entry := by
  obtain ⟨key, v⟩ := entry
  unfold coerceField FitsField
  dsimp only
  split
  · rename_i hint _
    rw [← coerce_image_iff h hint v, Option.map_eq_some_iff]
    constructor
    · rintro ⟨w, hw, heq⟩
      cases heq
      exact hw
    · intro hv
      exact ⟨v, hv, rfl⟩
  · rw [← image_eq_self_iff h v, Option.some.injEq, Prod.mk.injEq]
    exact and_iff_right rfl

theorem loadExecution_canonicalJson (e : Execution M) :
    loadExecution lib (canonicalJson lib e) =
      ((imageItems lib e.updates).mapM (coerceField lib)).map (⟨e.route, ·⟩) := by
  have hroute : NodeRoute.ofValue e.route.value = some e.route := e.route.ofValue_value
  simp only [loadExecution, canonicalJson]
  rw [show List.lookup "route" [("route", Value.string e.route.value),
      ("updates", Value.dict (imageItems lib e.updates))] = some (.string e.route.value) from rfl,
    show List.lookup "updates" [("route", Value.string e.route.value),
      ("updates", Value.dict (imageItems lib e.updates))] =
        some (.dict (imageItems lib e.updates)) from rfl]
  simp only [hroute, Option.bind_eq_bind, Option.bind_some]
  cases (imageItems lib e.updates).mapM (coerceField lib) with
  | none => rfl
  | some updates => rfl

end Facts

/-! ### References and scores -/

/-- Two of the contract models, with their fields as pydantic dumps them. -/
inductive SampleModel where
  | artifactRef (artifactType schemaVersion artifactId contentDigest uri : String)
  | strategyScore (strategyId riskTier criterionId criterionScore effortScore
      reversibilityScore riskPenalty totalScore : String)

def dumpSample : SampleModel → List (String × Value SampleModel)
  | .artifactRef artifactType schemaVersion artifactId contentDigest uri =>
    [("artifact_id", .string artifactId), ("artifact_type", .string artifactType),
     ("content_digest", .string contentDigest), ("schema_version", .string schemaVersion),
     ("uri", .string uri)]
  | .strategyScore strategyId riskTier criterionId criterionScore effortScore
      reversibilityScore riskPenalty totalScore =>
    [("criterion_scores", .dict [(criterionId, .float criterionScore)]),
     ("effort_score", .float effortScore), ("reversibility_score", .float reversibilityScore),
     ("risk_penalty", .float riskPenalty), ("risk_tier", .string riskTier),
     ("strategy_id", .string strategyId), ("total_score", .float totalScore)]

def validateSample : Hint ModelClass → Value SampleModel → Option (Value SampleModel)
  | .str, .string s => some (.string s)
  | .int, .int n => some (.int n)
  | .int, .bool b => some (.int (if b then 1 else 0))
  | .literal allowed, .string s => if s ∈ allowed then some (.string s) else none
  | .model .artifactRef, .dict [("artifact_id", .string artifactId),
      ("artifact_type", .string artifactType), ("content_digest", .string contentDigest),
      ("schema_version", .string schemaVersion), ("uri", .string uri)] =>
    some (.model (.artifactRef artifactType schemaVersion artifactId contentDigest uri))
  | .model (.other "StrategyScore"), .dict [("criterion_scores",
      .dict [(criterionId, .float criterionScore)]), ("effort_score", .float effortScore),
      ("reversibility_score", .float reversibilityScore), ("risk_penalty", .float riskPenalty),
      ("risk_tier", .string riskTier), ("strategy_id", .string strategyId),
      ("total_score", .float totalScore)] =>
    some (.model (.strategyScore strategyId riskTier criterionId criterionScore effortScore
      reversibilityScore riskPenalty totalScore))
  | _, _ => none

def contractModels : Models SampleModel ModelClass where
  classOf
    | .artifactRef .. => .artifactRef
    | .strategyScore .. => .other "StrategyScore"
  dump := dumpSample
  leaf := validateSample

theorem lawful_contractModels : contractModels.Lawful where
  dump_plain m := by cases m <;> rfl
  leaf_sound hint v w h := by
    simp only [contractModels] at h
    unfold validateSample at h
    split at h
    · cases h
      exact ⟨_, rfl⟩
    · cases h
      exact ⟨_, rfl⟩
    · cases h
      exact ⟨_, rfl⟩
    · split at h
      · rename_i hmem
        cases h
        exact ⟨_, hmem, rfl⟩
      · cases h
    · cases h
      exact ⟨_, rfl, rfl⟩
    · cases h
      exact ⟨_, rfl, rfl⟩
    · cases h
  leaf_image hint v h := by
    cases hint with
    | str =>
      obtain ⟨s, rfl⟩ := h
      rfl
    | int =>
      obtain ⟨n, rfl⟩ := h
      rfl
    | literal allowed =>
      obtain ⟨s, hmem, rfl⟩ := h
      exact if_pos hmem
    | model c =>
      obtain ⟨m, rfl, rfl⟩ := h
      cases m with
      | artifactRef => rfl
      | strategyScore => rfl
    | any | list | dict | optional => exact h.elim

/-- What a sealing node returns: only a reference. -/
def sealedUpdate : Execution SampleModel :=
  ⟨.continue_, [("artifact_refs", .list [.model (.artifactRef "RankingResult" "1.0" "ranking"
    "sha256:0" "memory://ranking")])]⟩

def scoredUpdate : Execution SampleModel :=
  ⟨.continue_, [("s01_scores", .list [.model (.strategyScore "s1" "prompt" "unit-ok" "0.9" "1.0"
    "1.0" "0.25" "0.8")])]⟩

end ProductionOptimizer
