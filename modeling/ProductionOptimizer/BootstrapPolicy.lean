import ProductionOptimizer.Contracts.Artifacts
import ProductionOptimizer.Library.Tally
import ProductionOptimizer.S3ArtifactStore

/-!
# The deterministic policy

`DeterministicPythonPolicy` is a registry of pure decision functions under one policy version. What
is not registered is denied, and a decision under another version is an error. The bootstrap policy
registers seven decisions; none of them allows a write to the real repository on its own.
-/

namespace ProductionOptimizer.Policy
open Tally
set_option autoImplicit false

/-- The values that the nodes put into the facts of a request. -/
inductive Fact where
  | text (value : String)
  | texts (items : List String)
  | number (value : Int)
  | flag (value : Bool)
  | null
  deriving DecidableEq, Repr

structure PolicyRequest where
  decisionType : String
  policyVersion : String
  tenantId : String
  facts : List (String × Fact)

def PolicyRequest.fact (request : PolicyRequest) (key : String) : Fact :=
  (request.facts.lookup key).getD .null

inductive PolicyFailure where
  | blankVersion
  | blankDecisionType
  | versionMismatch (decisionType found expected : String)
  deriving DecidableEq, Repr

abbrev DecisionFn := PolicyRequest → PolicyDecision

/-! ### The registry -/

structure DeterministicPythonPolicy where
  policyVersion : String
  registry : List (String × DecisionFn) := []

namespace DeterministicPythonPolicy

def init (policyVersion : String) : Except PolicyFailure DeterministicPythonPolicy :=
  if S3.isBlank policyVersion.toList then .error .blankVersion else .ok { policyVersion }

def register (policy : DeterministicPythonPolicy) (decisionType : String) (fn : DecisionFn) :
    Except PolicyFailure DeterministicPythonPolicy :=
  if S3.isBlank decisionType.toList then .error .blankDecisionType
  else .ok { policy with registry := put policy.registry decisionType fn }

def bootstrapDecision (policy : DeterministicPythonPolicy) : PolicyDecision where
  allowed := false
  decision := "deny"
  policyVersion := policy.policyVersion
  reasons := ["business policies are not implemented"]

def evaluate (policy : DeterministicPythonPolicy) (request : PolicyRequest) :
    Except PolicyFailure PolicyDecision :=
  match policy.registry.lookup request.decisionType with
  | none => .ok policy.bootstrapDecision
  | some fn =>
    let decision := fn request
    if decision.policyVersion ≠ policy.policyVersion then
      .error (.versionMismatch request.decisionType decision.policyVersion policy.policyVersion)
    else .ok decision

end DeterministicPythonPolicy

/-! ### The bootstrap decisions -/

def deny (policyVersion : String) (reasons : List String) : PolicyDecision :=
  ⟨false, "deny", policyVersion, reasons⟩

def allow (policyVersion : String) (reasons : List String) : PolicyDecision :=
  ⟨true, "allow", policyVersion, reasons⟩

def requireApproval (policyVersion : String) (reasons : List String) : PolicyDecision :=
  ⟨true, "require_approval", policyVersion, reasons⟩

/-- `isinstance(value, str) and value.strip()`. -/
def Fact.isText : Fact → Bool
  | .text value => !S3.isBlank value.toList
  | .texts _ | .number _ | .flag _ | .null => false

def Fact.isOneOf (vocabulary : List String) : Fact → Bool
  | .text value => vocabulary.contains value
  | .texts _ | .number _ | .flag _ | .null => false

/-- The value as a number; `True` is one. -/
def Fact.toNumber : Fact → Option Int
  | .number value => some value
  | .flag value => some (if value then 1 else 0)
  | .text _ | .texts _ | .null => none

def Fact.toList : Fact → Option (List String)
  | .texts items => some items
  | .text _ | .number _ | .flag _ | .null => none

def allowedCommandKinds : List String :=
  ["build", "unit", "lint", "type", "benchmark", "ci", "compose_evaluation"]

def allowedSourceTypes : List String := ["test", "static", "benchmark", "telemetry", "source_map"]

def shellMetacharacters : List String := [";", "&&", "||", "|", ">", "<", "`", "$("]

def maxCommandTimeoutSeconds : Int := 3600

def hasMetacharacter (argv : List String) : Bool :=
  argv.any fun item => shellMetacharacters.any fun metacharacter =>
    decide (metacharacter.toList <:+: item.toList)

/-- `repr` is Python's, for a value of the facts. -/
structure Texts where
  repr : Fact → String

section Decisions
variable (texts : Texts) (policyVersion : String) (request : PolicyRequest)

/-- What is wrong with a list of arguments. -/
def argvReasons (argv : Option (List String)) : List String :=
  match argv with
  | none | some [] => ["argv must be a non-empty list"]
  | some items => if hasMetacharacter items then
      ["argv contains shell metacharacters; it is executed without a shell"] else []

def timeoutOk (timeout : Fact) : Bool :=
  timeout.toNumber.any fun seconds => 0 < seconds && seconds ≤ maxCommandTimeoutSeconds

def executionReasons : List String :=
  (if (request.fact "kind").isOneOf allowedCommandKinds then []
    else ["command kind " ++ texts.repr (request.fact "kind") ++ " is not an authorized kind"]) ++
  argvReasons (request.fact "argv").toList ++
  (if (request.fact "working_directory").isText then []
    else ["working_directory must be a non-empty path"]) ++
  (if timeoutOk (request.fact "timeout_seconds") then []
    else ["timeout_seconds must be within (0, 3600]"])

/-- The answer to a list of objections. -/
def decideOn (reasons granted : List String) : PolicyDecision :=
  if reasons.isEmpty then allow policyVersion granted else deny policyVersion reasons

def Fact.str : Fact → String
  | .text value => value
  | value => texts.repr value

def executionAuthorization : PolicyDecision :=
  decideOn policyVersion (executionReasons texts request)
    [Fact.str texts (request.fact "kind") ++ " command authorized for local execution"]

def a1RequestApproval : PolicyDecision :=
  let actorRole := request.fact "actor_role"
  if actorRole.isOneOf ["owner", "approver", "platform_owner"] then
    allow policyVersion ["role " ++ texts.repr actorRole ++ " may approve this request"]
  else if actorRole = .text "requester" then
    requireApproval policyVersion ["requester role requires an owner approval"]
  else deny policyVersion ["role " ++ texts.repr actorRole ++ " cannot submit an A1 request"]

/-- A registry version that is a number, and not a `bool`. -/
def Fact.isVersion : Fact → Bool
  | .number value => 1 ≤ value
  | .text _ | .texts _ | .flag _ | .null => false

def collectorReasons : List String :=
  (if (request.fact "source_type").isOneOf allowedSourceTypes ||
      ((request.fact "recipe_id").isText && (request.fact "registry_version").isVersion) then []
    else ["source_type " ++ texts.repr (request.fact "source_type") ++
      " is outside the evidence vocabulary"]) ++
  (if (request.fact "collector_id").isText then []
    else ["collector_id must be a non-empty identifier"])

def collectorAuthorization : PolicyDecision :=
  decideOn policyVersion (collectorReasons texts request)
    ["collector " ++ texts.repr (request.fact "collector_id") ++ " authorized"]

/-- The objections to facts that have to be texts, with the message for each. -/
def textReasons (required : List (String × String)) : List String :=
  required.filterMap fun field => if (request.fact field.1).isText then none else some field.2

def phaseAuthorization : PolicyDecision :=
  decideOn policyVersion
    (textReasons request [("phase_id", "phase_id must identify the phase being authorized"),
      ("case_id", "case_id must identify the owning case")])
    ["phase " ++ texts.repr (request.fact "phase_id") ++
      " authorized; writes remain bound to its resolved scope"]

def applyToRealRepo : PolicyDecision :=
  let reasons := textReasons request
    [("phase_id", "phase_id must identify the phase being applied"),
      ("case_id", "case_id must identify the owning case"),
      ("base_revision", "base_revision must identify the commit the patch was built against")]
  if reasons.isEmpty then
    requireApproval policyVersion ["phase " ++ texts.repr (request.fact "phase_id") ++
      " requires an owner approval before a real repository write"]
  else deny policyVersion reasons

/-- `_present`. -/
def Fact.isPresent : Fact → Bool
  | .null => false
  | .text value => !S3.isBlank value.toList
  | .texts _ | .number _ | .flag _ => true

def requireNonEmptyFacts (required : List String) (subject : String) : PolicyDecision :=
  let missing := required.filter fun key => !(request.fact key).isPresent
  if missing.isEmpty then allow policyVersion [subject ++ " authorized"]
  else deny policyVersion
    [subject ++ " is missing required facts: " ++ texts.repr (.texts missing)]

def automaticIntake : PolicyDecision :=
  requireNonEmptyFacts texts policyVersion request ["opportunity_id"] "automatic intake"

def discoveryRead : PolicyDecision :=
  requireNonEmptyFacts texts policyVersion request ["query_kind"] "historical discovery read"

end Decisions

/-- What `build_bootstrap_policy` registers, in its order. -/
def bootstrapDecisions (texts : Texts) (policyVersion : String) : List (String × DecisionFn) :=
  [("a1.request_approval", a1RequestApproval texts policyVersion),
    ("a2.execution_authorization", executionAuthorization texts policyVersion),
    ("a2.collector_authorization", collectorAuthorization texts policyVersion),
    ("s03_phase_authorization", phaseAuthorization texts policyVersion),
    ("apply_to_real_repo", applyToRealRepo texts policyVersion),
    ("automatic_intake", automaticIntake texts policyVersion),
    ("automatic_discovery_read", discoveryRead texts policyVersion)]

def buildBootstrapPolicy (texts : Texts) (policyVersion : String) :
    Except PolicyFailure DeterministicPythonPolicy := do
  let policy ← DeterministicPythonPolicy.init policyVersion
  (bootstrapDecisions texts policyVersion).foldlM (fun policy entry =>
    policy.register entry.1 entry.2) policy

/-! ### What the bootstrap policy answers -/

section Bootstrap
variable {texts : Texts} {policyVersion : String} {policy : DeterministicPythonPolicy}
  {request : PolicyRequest}

/-- Registering names that are neither blank nor taken. -/
theorem register_all {entries : List (String × DecisionFn)} {policy : DeterministicPythonPolicy}
    (hblank : ∀ name ∈ entries.map Prod.fst, S3.isBlank name.toList = false)
    (hnodup : (policy.registry.map Prod.fst ++ entries.map Prod.fst).Nodup) :
    entries.foldlM (fun policy entry => policy.register entry.1 entry.2) policy =
      .ok { policy with registry := policy.registry ++ entries } := by
  induction entries generalizing policy with
  | nil =>
    rw [List.append_nil]
    rfl
  | cons entry entries ih =>
    obtain ⟨hentry, hentries⟩ := List.forall_mem_cons.mp hblank
    have hnew : policy.registry.any (·.1 == entry.1) = false := by
      rw [List.any_eq_false]
      intro e he heq
      have hdisjoint := (List.nodup_append.mp hnodup).2.2 _ (List.mem_map_of_mem he) entry.1
        List.mem_cons_self
      exact hdisjoint (by simpa using heq)
    have hregister : policy.register entry.1 entry.2 =
        .ok { policy with registry := policy.registry ++ [entry] } := by
      unfold DeterministicPythonPolicy.register put
      rw [if_neg (by simp [hentry]), if_neg (by simp [hnew])]
    rw [List.foldlM_cons, hregister]
    have hrest := @ih { policy with registry := policy.registry ++ [entry] } hentries
      (by simpa using hnodup)
    rw [show ∀ q : DeterministicPythonPolicy, (Except.ok q >>= fun policy =>
      entries.foldlM (fun policy entry => policy.register entry.1 entry.2) policy) =
        entries.foldlM (fun policy entry => policy.register entry.1 entry.2) q from fun _ => rfl,
      hrest, List.append_assoc]
    rfl

def decisionTypes : List String :=
  ["a1.request_approval", "a2.execution_authorization", "a2.collector_authorization",
    "s03_phase_authorization", "apply_to_real_repo", "automatic_intake",
    "automatic_discovery_read"]

theorem decisionTypes_named :
    (∀ name ∈ decisionTypes, S3.isBlank name.toList = false) ∧ decisionTypes.Nodup := by
  decide +kernel

theorem buildBootstrapPolicy_eq (h : S3.isBlank policyVersion.toList = false) :
    buildBootstrapPolicy texts policyVersion =
      .ok ⟨policyVersion, bootstrapDecisions texts policyVersion⟩ := by
  unfold buildBootstrapPolicy DeterministicPythonPolicy.init
  rw [if_neg (by simp [h])]
  exact register_all decisionTypes_named.1 decisionTypes_named.2

theorem buildBootstrapPolicy_ok (h : buildBootstrapPolicy texts policyVersion = .ok policy) :
    policy = ⟨policyVersion, bootstrapDecisions texts policyVersion⟩ := by
  cases hblank : S3.isBlank policyVersion.toList with
  | true =>
    unfold buildBootstrapPolicy DeterministicPythonPolicy.init at h
    rw [if_pos hblank] at h
    cases h
  | false => exact (Except.ok.inj ((buildBootstrapPolicy_eq hblank).symm.trans h)).symm

theorem decideOn_version (reasons granted : List String) :
    (decideOn policyVersion reasons granted).policyVersion = policyVersion := by
  unfold decideOn
  split <;> rfl

theorem decideOn_allowed {reasons granted : List String} :
    (decideOn policyVersion reasons granted).allowed = true ↔ reasons = [] := by
  unfold decideOn
  split
  · rename_i hnil
    exact ⟨fun _ => List.isEmpty_iff.mp hnil, fun _ => rfl⟩
  · rename_i hne
    exact ⟨fun h => absurd h (by simp [deny]), fun h => absurd (List.isEmpty_iff.mpr h) hne⟩

theorem requireNonEmptyFacts_version (required : List String) (subject : String) :
    (requireNonEmptyFacts texts policyVersion request required subject).policyVersion =
      policyVersion := by
  unfold requireNonEmptyFacts
  dsimp only
  split <;> rfl

/-- Every registered decision is under the version of the policy. -/
theorem bootstrapDecisions_version {decisionType : String} {fn : DecisionFn}
    (h : (bootstrapDecisions texts policyVersion).lookup decisionType = some fn) :
    (fn request).policyVersion = policyVersion := by
  have hmem : fn ∈ (bootstrapDecisions texts policyVersion).map Prod.snd := by
    obtain ⟨before, after, heq, _⟩ := List.lookup_eq_some_iff.mp h
    rw [heq]
    simp
  simp only [bootstrapDecisions, List.map_cons, List.map_nil, List.mem_cons, List.not_mem_nil,
    or_false] at hmem
  rcases hmem with rfl | rfl | rfl | rfl | rfl | rfl | rfl
  · unfold a1RequestApproval
    dsimp only
    split
    · rfl
    · split <;> rfl
  · exact decideOn_version _ _
  · exact decideOn_version _ _
  · exact decideOn_version _ _
  · unfold applyToRealRepo
    dsimp only
    split <;> rfl
  · exact requireNonEmptyFacts_version _ _
  · exact requireNonEmptyFacts_version _ _

/-- The bootstrap policy never raises; what it answers is the registered decision or a denial. -/
theorem evaluate_bootstrap (h : buildBootstrapPolicy texts policyVersion = .ok policy) :
    policy.evaluate request = .ok
      (((bootstrapDecisions texts policyVersion).lookup request.decisionType).elim
        policy.bootstrapDecision fun fn => fn request) := by
  obtain rfl := buildBootstrapPolicy_ok h
  unfold DeterministicPythonPolicy.evaluate
  cases hlookup : (bootstrapDecisions texts policyVersion).lookup request.decisionType with
  | none => rfl
  | some fn =>
    dsimp only
    rw [if_neg (not_not.mpr (bootstrapDecisions_version hlookup))]
    rfl

theorem evaluate_execution (h : buildBootstrapPolicy texts policyVersion = .ok policy)
    (htype : request.decisionType = "a2.execution_authorization") :
    policy.evaluate request = .ok (executionAuthorization texts policyVersion request) := by
  rw [evaluate_bootstrap h, htype]
  rfl

theorem evaluate_collector (h : buildBootstrapPolicy texts policyVersion = .ok policy)
    (htype : request.decisionType = "a2.collector_authorization") :
    policy.evaluate request = .ok (collectorAuthorization texts policyVersion request) := by
  rw [evaluate_bootstrap h, htype]
  rfl

theorem evaluate_apply (h : buildBootstrapPolicy texts policyVersion = .ok policy)
    (htype : request.decisionType = "apply_to_real_repo") :
    policy.evaluate request = .ok (applyToRealRepo texts policyVersion request) := by
  rw [evaluate_bootstrap h, htype]
  rfl

theorem applyToRealRepo_decision :
    (applyToRealRepo texts policyVersion request).decision ≠ "allow" := by
  unfold applyToRealRepo
  dsimp only
  split
  · simp [requireApproval]
  · simp [deny]

end Bootstrap

end ProductionOptimizer.Policy
