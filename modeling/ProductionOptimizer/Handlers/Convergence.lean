import ProductionOptimizer.Contracts.SealedStore

/-!
# A3's quality loop and the convergence gate

The nodes `A3.80` to `A3.90` seal per pass, `B2.60` and C0 read by type. Every handler
reads through the store, so what it sees is what the stored bytes say now.
-/

namespace ProductionOptimizer
set_option autoImplicit false

structure SchemaValidationResult where
  artifactType : SealedType
  valid : Bool
  deriving DecidableEq, Repr

structure DigestChainLink (D : Type) where
  artifactType : SealedType
  artifactDigest : D
  expectedParentDigest : D
  linked : Bool
  deriving DecidableEq, Repr

structure DimensionEquivalenceVerdict where
  dimension : String
  equivalent : Bool
  deriving DecidableEq, Repr

structure FreshnessCheck where
  dimension : String
  fresh : Bool
  deriving DecidableEq, Repr

structure CaseState (D : Type) where
  caseId : String
  lane : Origin := .manual
  artifactRefs : List (SealedRef D) := []
  a3RevisionAttempts : Nat := 0
  a3ModelTokensSpent : Nat := 0
  s01ExcludedStrategyIds : List String := []
  s03ActivePhaseId : Option String := none
  s03RevisionAttempts : Nat := 0
  c0SchemaResults : List SchemaValidationResult := []
  c0DigestChain : List (DigestChainLink D) := []
  c0EquivalenceVerdicts : List DimensionEquivalenceVerdict := []
  c0FreshnessChecks : List FreshnessCheck := []

namespace CaseState
variable {D : Type}

def tryRef (s : CaseState D) (t : SealedType) : Option (SealedRef D) :=
  s.artifactRefs.find? (·.artifactType == t)

def requireRef (s : CaseState D) (t : SealedType) : Except CaseFailure (SealedRef D) :=
  match s.tryRef t with
  | some ref => .ok ref
  | none => .error (.missingRef t)

def stageArtifactId (s : CaseState D) (stageId : String) (t : SealedType) : String :=
  s.caseId ++ "-" ++ stageId ++ "-" ++ t.name

/-- The id `_base_envelope` gives an artifact of which a case has one. -/
def baseArtifactId (s : CaseState D) (t : SealedType) : String := s.caseId ++ "-" ++ t.name

def requireStageRef (s : CaseState D) (stageId : String) (t : SealedType) :
    Except CaseFailure (SealedRef D) :=
  match s.artifactRefs.find? fun ref =>
      ref.artifactType == t && ref.artifactId == s.stageArtifactId stageId t with
  | some ref => .ok ref
  | none => .error (.missingStageRef (s.stageArtifactId stageId t))

end CaseState

def passStageId (nodeId : String) (pass : Nat) : String := nodeId ++ "-pass" ++ pass.repr

/-- What a handler returns: a route, the artifacts it sealed, and the state with the plain
fields it wrote. -/
structure CaseExecution (D : Type) where
  route : NodeRoute := .continue_
  sealedModels : List (SealedModel D) := []
  state : CaseState D

section Store
variable {D B : Type} [DecidableEq D] (codec : Codec D B)

/-- `_read_model`. The digest of the ref is filled in, the bytes are not hashed. -/
def readModel (store : ObjectStore D B) (ref : SealedRef D) :
    Except CaseFailure (SealedModel D) :=
  match store ref.contentDigest with
  | none => .error (.objectNotFound ref.artifactType)
  | some bytes =>
    match codec.validate ref.artifactType bytes with
    | none => .error (.validationError ref.artifactType)
    | some m => .ok m

def readRequired (store : ObjectStore D B) (s : CaseState D) (t : SealedType) :
    Except CaseFailure (SealedModel D) := do
  let ref ← s.requireRef t
  readModel codec store ref

/-- `_seal` and the ref that `_put_envelope` returns. -/
def sealedRef (m : SealedModel D) : SealedRef D :=
  ⟨m.artifactType, m.artifactId, codec.sha256 (codec.canonicalJson m)⟩

/-- `put_json` does not overwrite an object that exists. -/
def putEnvelope (store : ObjectStore D B) (m : SealedModel D) : ObjectStore D B :=
  let key := (sealedRef codec m).contentDigest
  match store key with
  | some _ => store
  | none => Function.update store key (some (codec.canonicalJson m))

end Store

/-- What one node asks of the world outside the case. -/
structure CaseAnswers where
  now : Nat := 0
  strategies : List A3Strategy := []
  modelTokens : Nat := 0
  pathExists : String → Bool := fun _ => true
  revParseHead : String → Option String := fun _ => none

def maxRevisionAttempts : Nat := 3

section Handlers
variable {D B : Type} [DecidableEq D] (codec : Codec D B) (a : CaseAnswers)
  (store : ObjectStore D B) (s : CaseState D)

def stageEnvelope (stageId : String) (t : SealedType) (digests : List (DigestField × D))
    (body : Body) : SealedModel D :=
  ⟨t, s.stageArtifactId stageId t, a.now, digests, body⟩

def baseEnvelope (t : SealedType) (digests : List (DigestField × D)) (body : Body) :
    SealedModel D :=
  ⟨t, s.baseArtifactId t, a.now, digests, body⟩

/-- The end of a drafting pass: `A3.60` spends tokens and `A3.80` seals the strategies. -/
def handleA380 : Except CaseFailure (CaseExecution D) :=
  let strategySet := stageEnvelope a s (passStageId "A3.80" s.a3RevisionAttempts)
    .solutionStrategySet [] (.strategies a.strategies)
  .ok { sealedModels := [strategySet]
        state := { s with a3ModelTokensSpent := s.a3ModelTokensSpent + a.modelTokens } }

def SealedModel.strategies (m : SealedModel D) : List A3Strategy :=
  match m.body with
  | .strategies strategies => strategies
  | _ => []

def SealedModel.findings (m : SealedModel D) : List A3Finding :=
  match m.body with
  | .findingSet findings => findings
  | _ => []

def SealedModel.maximumModelTokens (m : SealedModel D) : Nat :=
  match m.body with
  | .optimizationRequest _ _ _ tokens => tokens
  | _ => 0

def SealedModel.reportPassed (m : SealedModel D) : Bool :=
  match m.body with
  | .a3QualityReport passed _ => passed
  | _ => false

def qualityGateResults (findings : List A3Finding) (strategies : List A3Strategy) :
    List QualityGateResult :=
  let eligible := strategies.filter (·.eligible)
  let distinctTradeoffs := (eligible.map (·.strategyTradeoffs)).dedup.length
  findings.map (fun f => ⟨"finding_has_evidence", !f.supportingEvidenceIds.isEmpty, f.findingId⟩) ++
  strategies.map (fun x => ⟨"strategy_eligible", x.eligible, x.strategyId ++ ": " ++
    (if x.gateReasons.isEmpty then "ok" else "; ".intercalate x.gateReasons)⟩) ++
  findings.map (fun f => ⟨"cause_maturity", !f.verifiedCause || f.trustedT4, f.findingId⟩) ++
  [⟨"at_least_one_eligible_strategy", decide (1 ≤ eligible.length),
     eligible.length.repr ++ " eligible of " ++ strategies.length.repr⟩,
   ⟨"strategies_materially_different", decide (distinctTradeoffs = eligible.length),
     if distinctTradeoffs = eligible.length then "ok" else "duplicate strategy_tradeoffs text"⟩]

/-- The report of the present pass goes under a pass-scoped id. -/
def handleA381 : Except CaseFailure (CaseExecution D) := do
  let findingRef ← s.requireRef .findingSet
  let findingSet ← readModel codec store findingRef
  let strategyRef ← s.requireStageRef (passStageId "A3.80" s.a3RevisionAttempts)
    .solutionStrategySet
  let strategySet ← readModel codec store strategyRef
  let request ← readRequired codec store s .optimizationRequest
  let results := qualityGateResults findingSet.findings strategySet.strategies
  let passed := results.all (·.passed)
  let report := stageEnvelope a s (passStageId "A3.81" s.a3RevisionAttempts) .a3QualityReport
    [(.findingSetDigest, findingRef.contentDigest),
     (.solutionPortfolioDigest, strategyRef.contentDigest)] (.a3QualityReport passed results)
  let exhausted := decide (maxRevisionAttempts ≤ s.a3RevisionAttempts ∨
    request.maximumModelTokens ≤ s.a3ModelTokensSpent)
  .ok { route := if passed then .continue_ else if exhausted then .rejected else .revision
        sealedModels := [report]
        state := s }

/-- `A3.82` bumps the pass whether or not another one is allowed. -/
def handleA382 : Except CaseFailure (CaseExecution D) := do
  let strategyRef ← s.requireStageRef (passStageId "A3.80" s.a3RevisionAttempts)
    .solutionStrategySet
  let strategySet ← readModel codec store strategyRef
  let qualityRef ← s.requireStageRef (passStageId "A3.81" s.a3RevisionAttempts) .a3QualityReport
  let _ ← readModel codec store qualityRef
  let request ← readRequired codec store s .optimizationRequest
  let nextAttempt := s.a3RevisionAttempts + 1
  let exhausted := decide (maxRevisionAttempts ≤ nextAttempt ∨
    request.maximumModelTokens ≤ s.a3ModelTokensSpent)
  let ineligible := strategySet.strategies.filter (!·.eligible)
  let stops := exhausted || ineligible.isEmpty
  let directive := stageEnvelope a s (passStageId "A3.82" s.a3RevisionAttempts)
    .revisionDirective [] (if stops then
      .revisionDirective nextAttempt [] [] (if exhausted then "revision/token budget exhausted"
        else "quality gate failed with no targetable ineligible strategy")
    else
      .revisionDirective nextAttempt
        ((ineligible.flatMap (·.findingIds)).dedup.insertionSort (· ≤ ·))
        (ineligible.map (·.strategyId)) "targeted revision of ineligible strategies")
  .ok { route := if stops then .rejected else .continue_
        sealedModels := [directive]
        state := { s with a3RevisionAttempts := nextAttempt } }

/-- The portfolio names the report of the pass that passed. -/
def handleA390 : Except CaseFailure (CaseExecution D) := do
  let findingRef ← s.requireRef .findingSet
  let _ ← readModel codec store findingRef
  let strategyRef ← s.requireStageRef (passStageId "A3.80" s.a3RevisionAttempts)
    .solutionStrategySet
  let strategySet ← readModel codec store strategyRef
  let qualityRef ← s.requireStageRef (passStageId "A3.81" s.a3RevisionAttempts) .a3QualityReport
  let _ ← readModel codec store qualityRef
  if strategySet.strategies.any (·.eligible) then
    .ok { sealedModels := [baseEnvelope a s .solutionPortfolio
            [(.findingSetDigest, findingRef.contentDigest),
             (.qualityReportDigest, qualityRef.contentDigest)]
            (.strategies strategySet.strategies)]
          state := s }
  else .error (.validationError .solutionPortfolio)

/-- `B2.60`, as far as the lineage goes. -/
def handleB260 : Except CaseFailure (CaseExecution D) := do
  let opportunityRef ← s.requireRef .qualifiedOpportunity
  let findingRef ← s.requireRef .findingSet
  let portfolioRef ← s.requireRef .solutionPortfolio
  let qualityRef ← s.requireRef .a3QualityReport
  .ok { sealedModels := [baseEnvelope a s .proposalEnvelope
          [(.qualifiedOpportunityDigest, opportunityRef.contentDigest),
           (.findingSetDigest, findingRef.contentDigest),
           (.solutionPortfolioDigest, portfolioRef.contentDigest),
           (.qualityReportDigest, qualityRef.contentDigest)] (.text "proposal")]
        state := s }

def handleC010 : Except CaseFailure (CaseExecution D) := do
  let request ← readRequired codec store s .optimizationRequest
  match request.body with
  | .optimizationRequest origin _ _ _ =>
    if origin = s.lane then .ok { state := s } else .error .originMismatch
  | _ => .error (.validationError .optimizationRequest)

def requiredArtifacts : List SealedType :=
  [.optimizationRequest, .sourceSnapshot, .baselineSnapshot, .evidenceBundle, .findingSet,
   .solutionPortfolio, .a3QualityReport]

def validateSchema (t : SealedType) : Except CaseFailure SchemaValidationResult := do
  let ref ← s.requireRef t
  match readModel codec store ref with
  | .ok _ => .ok ⟨t, true⟩
  | .error (.validationError _) => .ok ⟨t, false⟩
  | .error e => .error e

def handleC020 : Except CaseFailure (CaseExecution D) := do
  let results ← requiredArtifacts.mapM (validateSchema codec store s)
  .ok { state := { s with c0SchemaResults := results } }

/-- A child artifact, the digest field on it, and the parent the field names. -/
structure DigestLink where
  child : SealedType
  field : DigestField
  parent : SealedType
  deriving DecidableEq, Repr

def digestLinks : List DigestLink :=
  [⟨.baselineSnapshot, .requestDigest, .optimizationRequest⟩,
   ⟨.baselineSnapshot, .sourceSnapshotDigest, .sourceSnapshot⟩,
   ⟨.evidenceBundle, .baselineDigest, .sourceSnapshot⟩,
   ⟨.findingSet, .evidenceBundleDigest, .evidenceBundle⟩,
   ⟨.solutionPortfolio, .findingSetDigest, .findingSet⟩,
   ⟨.solutionPortfolio, .qualityReportDigest, .a3QualityReport⟩,
   ⟨.a3QualityReport, .findingSetDigest, .findingSet⟩]

/-- One round of the loop of `C0.30`: the parent is never read. -/
def confirmLink (link : DigestLink) : Except CaseFailure (DigestChainLink D) := do
  let childRef ← s.requireRef link.child
  let parentRef ← s.requireRef link.parent
  let childModel ← readModel codec store childRef
  .ok { artifactType := link.child
        artifactDigest := childRef.contentDigest
        expectedParentDigest := parentRef.contentDigest
        linked := decide (childModel.digest link.field = some parentRef.contentDigest) }

def handleC030 : Except CaseFailure (CaseExecution D) := do
  let _ ← requiredArtifacts.mapM s.requireRef
  let links ← digestLinks.mapM (confirmLink codec store s)
  .ok { state := { s with c0DigestChain := links } }

/-- Workload and environment, of the request and of the baseline. -/
def SealedModel.workload (m : SealedModel D) : Option (String × String) :=
  match m.body with
  | .optimizationRequest _ workloadId environmentId _ => some (workloadId, environmentId)
  | .baselineSnapshot workloadId environmentId => some (workloadId, environmentId)
  | _ => none

def handleC040 : Except CaseFailure (CaseExecution D) := do
  let request ← readRequired codec store s .optimizationRequest
  let baseline ← readRequired codec store s .baselineSnapshot
  let quality ← readRequired codec store s .a3QualityReport
  .ok { state := { s with
          c0EquivalenceVerdicts :=
            [⟨"request_baseline_contract", decide (baseline.workload = request.workload)⟩,
             ⟨"solution_quality_policy", quality.reportPassed⟩] } }

/-- Seven days, in seconds. -/
def freshnessWindow : Nat := 7 * 86400

/-- A path or a revision that cannot be looked up contradicts nothing. -/
def sourceFresh (a : CaseAnswers) (canonicalPathRef : String) (gitRevision : Option String) :
    Bool :=
  match gitRevision with
  | none => true
  | some revision =>
    if a.pathExists canonicalPathRef && revision != "" then
      match a.revParseHead canonicalPathRef with
      | none => true
      | some current => current == revision
    else true

def evidenceFresh (a : CaseAnswers) (observedAts : List Nat) : Bool :=
  match observedAts.max? with
  | none => true
  | some mostRecent => decide (a.now ≤ mostRecent + freshnessWindow)

def SealedModel.isFresh (a : CaseAnswers) (m : SealedModel D) : Bool :=
  match m.body with
  | .sourceSnapshot path revision => sourceFresh a path revision
  | .evidenceBundle observedAts => evidenceFresh a observedAts
  | _ => true

def handleC050 : Except CaseFailure (CaseExecution D) := do
  let source ← readRequired codec store s .sourceSnapshot
  let bundle ← readRequired codec store s .evidenceBundle
  .ok { state := { s with
          c0FreshnessChecks := [⟨"source", source.isFresh a⟩, ⟨"evidence", bundle.isFresh a⟩] } }

/-- The gates of `C0.60`, each with the reason it gives when it fails. -/
def convergenceGates (portfolio : SealedModel D) : List (Bool × String) :=
  [(s.c0SchemaResults.all (·.valid), "one or more artifacts failed schema validation"),
   (s.c0DigestChain.all (·.linked), "digest chain is broken between one or more artifacts"),
   (s.c0EquivalenceVerdicts.all (·.equivalent), "a semantic equivalence check failed"),
   (s.c0FreshnessChecks.all (·.fresh), "a freshness check failed"),
   (portfolio.strategies.any (·.eligible), "no eligible solution strategy is available")]

def handleC060 : Except CaseFailure (CaseExecution D) := do
  let portfolio ← readRequired codec store s .solutionPortfolio
  let gates := convergenceGates s portfolio
  let converged := gates.all (·.1)
  .ok { route := if converged then .continue_ else .rejected
        sealedModels := [baseEnvelope a s .convergenceDecision []
          (.convergenceDecision converged ((gates.filter (!·.1)).map (·.2)))]
        state := s }

/-- C0 up to its gate. No node before `C0.60` seals anything. -/
def convergeCase : Except CaseFailure (CaseExecution D) := do
  let accepted ← handleC010 codec store s
  let validated ← handleC020 codec store accepted.state
  let confirmed ← handleC030 codec store validated.state
  let compared ← handleC040 codec store confirmed.state
  let refreshed ← handleC050 codec a store compared.state
  handleC060 codec a store refreshed.state

end Handlers

structure CaseConfig (D B : Type) where
  position : Option NodeId
  state : CaseState D
  store : ObjectStore D B

structure CaseVisit (D : Type) where
  node : NodeId
  execution : CaseExecution D

section Steps
variable {D B : Type} [DecidableEq D] (codec : Codec D B)

def caseHandler (n : NodeId) (a : CaseAnswers) (store : ObjectStore D B) (s : CaseState D) :
    Except CaseFailure (CaseExecution D) :=
  match n with
  | ⟨.A3, 80⟩ => handleA380 a s
  | ⟨.A3, 81⟩ => handleA381 codec a store s
  | ⟨.A3, 82⟩ => handleA382 codec a store s
  | ⟨.A3, 90⟩ => handleA390 codec a store s
  | ⟨.B2, 60⟩ => handleB260 a s
  | _ => .error .missingPhase

/-- The edges around A3's quality gate, up to the first node of C0. A revision drafts
anew, and `A3.80` is where the draft is sealed. -/
def caseNext (n : NodeId) (route : NodeRoute) (lane : Origin) : Option NodeId :=
  match n, route with
  | ⟨.A3, 80⟩, _ => some ⟨.A3, 81⟩
  | ⟨.A3, 81⟩, .continue_ => some ⟨.A3, 90⟩
  | ⟨.A3, 81⟩, .revision => some ⟨.A3, 82⟩
  | ⟨.A3, 82⟩, .continue_ => some ⟨.A3, 80⟩
  | ⟨.A3, 90⟩, _ => if lane = .automatic then some ⟨.B2, 60⟩ else some ⟨.C0, 10⟩
  | ⟨.B2, 60⟩, _ => some ⟨.C0, 10⟩
  | _, _ => none

/-- One node of the lane: run the handler, put what it sealed, merge the refs. -/
def caseAdvance (c : CaseConfig D B) (a : CaseAnswers) :
    Option (CaseVisit D × CaseConfig D B) :=
  match c.position with
  | none => none
  | some n =>
    match caseHandler codec n a c.store c.state with
    | .error _ => none
    | .ok execution =>
      match mergeSealedRefs execution.state.artifactRefs
          (execution.sealedModels.map (sealedRef codec)) with
      | .error _ => none
      | .ok refs =>
        some (⟨n, execution⟩,
          { position := caseNext n execution.route c.state.lane
            state := { execution.state with artifactRefs := refs }
            store := execution.sealedModels.foldl (putEnvelope codec) c.store })

def CaseStep (c : CaseConfig D B) (visit : CaseVisit D) (c' : CaseConfig D B) : Prop :=
  ∃ a, caseAdvance codec c a = some (visit, c')

end Steps

end ProductionOptimizer
