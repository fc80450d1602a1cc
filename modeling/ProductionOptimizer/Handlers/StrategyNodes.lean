import Mathlib.Algebra.Order.Group.Nat
import Mathlib.Data.Multiset.OrderedMonoid
import Mathlib.Algebra.GroupWithZero.Nat
import ProductionOptimizer.Handlers.StrategyPipeline
import ProductionOptimizer.Handlers.Convergence
import ProductionOptimizer.Handlers.Proposal

/-!
# A3.50 to A3.90: the nodes and their graph

Every node from the judge to the sealed portfolio, as functions on what A3 has sealed so far.
A pass-scoped artifact is found under the node and the pass that sealed it; a second sealing
under one id has another `created_at`, so it conflicts with the first.
-/

namespace ProductionOptimizer.A3
open Runs
set_option autoImplicit false

inductive Stage where
  | n50
  | n51
  | n60
  | n61
  | n62
  | n63
  | n64
  | n70
  | n80
  | n81
  | n82
  | n90
  deriving DecidableEq, Repr

def Stage.number : Stage → Nat
  | .n50 => 50
  | .n51 => 51
  | .n60 => 60
  | .n61 => 61
  | .n62 => 62
  | .n63 => 63
  | .n64 => 64
  | .n70 => 70
  | .n80 => 80
  | .n81 => 81
  | .n82 => 82
  | .n90 => 90

structure A3State where
  judgements : Option (List FindingJudgement) := none
  findings : Option (List Finding) := none
  a3RevisionAttempts : Nat := 0
  a3ModelTokensSpent : Nat := 0
  draftSets : List ((Stage × Nat) × List StrategyDraft) := []
  strategySets : List (Nat × List SolutionStrategy) := []
  qualityReports : List (Nat × A3QualityReport) := []
  directives : List (Nat × RevisionDirective) := []
  portfolio : Option (List SolutionStrategy) := none

/-- Put an artifact under an id that has none yet. -/
def sealUnder {K V : Type} [BEq K] (entries : List (K × V)) (key : K) (value : V)
    (failure : A3Failure) : Except A3Failure (List (K × V)) :=
  match entries.lookup key with
  | some _ => .error failure
  | none => .ok (entries ++ [(key, value)])

def requireSealed {K V : Type} [BEq K] (entries : List (K × V)) (key : K) (failure : A3Failure) :
    Except A3Failure V :=
  match entries.lookup key with
  | some value => .ok value
  | none => .error failure

/-- The judge's reply for one draft: no verdict, something that is no verdict, or one. -/
inductive JudgeAnswer where
  | noVerdict (tokens : Nat)
  | malformed
  | verdict (verdict : Verdict) (reasons : List String) (tokens : Nat)
  deriving DecidableEq

/-- What the models reply during one node; the judge is asked about one draft at a time. -/
structure A3Answers where
  judge : Nat → JudgeAnswer := fun _ => .noVerdict 0
  first : Completion := {}
  repair : Completion := {}

structure A3Execution where
  route : NodeRoute := .continue_
  state : A3State

section Nodes
variable (inputs : Inputs) (a : A3Answers) (s : A3State)

/-! ### Findings -/

def judgeFinding (findingId : String) (answer : JudgeAnswer) :
    Except A3Failure (Option FindingJudgement × Nat) :=
  match answer with
  | .noVerdict tokens => .ok (none, tokens)
  | .malformed => .error .invalidJudgement
  | .verdict verdict reasons tokens =>
    .ok (some ⟨"judge-" ++ findingId, findingId, verdict,
      if reasons = [] then ["no reason provided"] else reasons⟩, tokens)

def handleA350 : Except A3Failure A3Execution := do
  let judged ← inputs.drafts.zipIdx.mapM fun draft =>
    judgeFinding draft.1.findingId (a.judge draft.2)
  .ok { state := { s with
          judgements := some (judged.filterMap (·.1))
          a3ModelTokensSpent := s.a3ModelTokensSpent + (judged.map (·.2)).sum } }

/-- Whether every supporting evidence that the bundle holds names its collector and sample. -/
def identitiesComplete (draft : FindingDraft) : Bool :=
  draft.supportingEvidenceIds.all fun evidenceId =>
    (lastWhere inputs.evidence (·.evidenceId == evidenceId)).all fun item =>
      item.collector != "" && item.sampleId != ""

def computeTrustLevel (draft : FindingDraft) (citation : CitationResolutionReport)
    (judgement : FindingJudgement) : TrustLevel :=
  if judgement.verdict ≠ .accept ∨ citation.allResolved = false then .T1
  else if identitiesComplete inputs draft = false then .T2
  else if draft.supportingEvidenceIds.length > 1 then .T3
  else .T2

/-- A cause counts as verified only with an accepting judge and the highest trust. -/
def maturity (claimType : ClaimType) (verdict : Verdict) (trustLevel : TrustLevel) : ClaimType :=
  if claimType = .verifiedCause ∧ (verdict ≠ .accept ∨ trustLevel ≠ .T4) then .hypothesis
  else claimType

theorem maturity_verified {claimType : ClaimType} {verdict : Verdict} {trustLevel : TrustLevel}
    (h : maturity claimType verdict trustLevel = .verifiedCause) :
    verdict = .accept ∧ trustLevel = .T4 := by
  unfold maturity at h
  split at h
  · cases h
  · rename_i hmature
    simp only [h, true_and, not_or, not_not] at hmature
    exact hmature

/-- The finding of a draft that has a judgement and whose citations resolve. -/
def admitFinding (judgements : List FindingJudgement) (draft : FindingDraft) : Option Finding :=
  match lastWhere judgements (·.findingId == draft.findingId),
      lastWhere inputs.citationReports (·.findingId == draft.findingId) with
  | some judgement, some citation =>
    if citation.allResolved then
      let trustLevel := computeTrustLevel inputs draft citation judgement
      some { draft with
        claimType := maturity draft.claimType judgement.verdict trustLevel
        trustLevel := trustLevel
        judgement := judgement
        mature := maturity_verified }
    else none
  | _, _ => none

def handleA351 : Except A3Failure A3Execution :=
  match s.judgements with
  | none => .error .missingJudgements
  | some judgements =>
    let findings := inputs.drafts.filterMap (admitFinding inputs judgements)
    if findings = [] then .ok { route := .rejected, state := s }
    else .ok { state := { s with findings := some findings } }

/-! ### Strategies -/

/-- The directive with the highest attempt number, the first of them. -/
def latestRevisionDirective (directives : List (Nat × RevisionDirective)) :
    Option RevisionDirective :=
  directives.foldl (fun latest entry =>
    match latest with
    | none => some entry.2
    | some directive =>
      if directive.attemptNumber < entry.2.attemptNumber then some entry.2 else some directive) none

def keptStrategies (previous : List SolutionStrategy) (targetedIds : List String) :
    List SolutionStrategy :=
  previous.filter fun strategy => !targetedIds.contains strategy.strategyId

/-- The strategies of the pass before that the directive does not target, as drafts. -/
def carriedForward : Except A3Failure (List StrategyDraft) :=
  match latestRevisionDirective s.directives with
  | none => .ok []
  | some directive =>
    if 0 < s.a3RevisionAttempts ∧ directive.targetedStrategyIds ≠ [] then do
      let previous ← requireSealed s.strategySets (s.a3RevisionAttempts - 1)
        (.missingStrategySet (s.a3RevisionAttempts - 1))
      .ok ((keptStrategies previous directive.targetedStrategyIds).map solutionStrategyToDraft)
    else .ok []

def generatedDrafts : List StrategyDraft := (generateStrategyDrafts a.first a.repair).1

def handleA360 : Except A3Failure A3Execution :=
  match s.findings with
  | none => .error .missingFindingSet
  | some _ => do
    let carried ← carriedForward s
    let draftSets ← sealUnder s.draftSets (.n60, s.a3RevisionAttempts)
      (carried ++ generatedDrafts a) (.conflict 60 s.a3RevisionAttempts)
    .ok { state := { s with
            draftSets := draftSets
            a3ModelTokensSpent :=
              s.a3ModelTokensSpent + (generateStrategyDrafts a.first a.repair).2 } }

/-- The nodes that turn one draft set into the next: the node whose set they read, and what
they make of it. -/
def draftWork (node : Stage) :
    Option (Stage × (List StrategyDraft → Except A3Failure (List StrategyDraft))) :=
  match node with
  | .n61 => some (.n60, fun drafts => .ok (drafts.map definePhases))
  | .n62 => some (.n61, fun drafts => .ok (drafts.map (assessImpact inputs)))
  | .n63 => some (.n62, fun drafts => .ok (captureTradeoffs inputs [] drafts))
  | .n64 => some (.n63, fun drafts => .ok (drafts.map (bindValidation inputs)))
  | .n70 => some (.n64, fun drafts => drafts.mapM (resolveScope inputs))
  | _ => none

def handleDrafts (node : Stage) : Except A3Failure A3Execution :=
  match draftWork inputs node with
  | none => .error (.nodeNotEnabled node.number)
  | some (source, work) => do
    let drafts ← requireSealed s.draftSets (source, s.a3RevisionAttempts)
      (.missingDraftSet source.number s.a3RevisionAttempts)
    let updated ← work drafts
    let draftSets ← sealUnder s.draftSets (node, s.a3RevisionAttempts) updated
      (.conflict node.number s.a3RevisionAttempts)
    .ok { state := { s with draftSets := draftSets } }

def handleA361 : Except A3Failure A3Execution := handleDrafts inputs s .n61
def handleA362 : Except A3Failure A3Execution := handleDrafts inputs s .n62
def handleA363 : Except A3Failure A3Execution := handleDrafts inputs s .n63
def handleA364 : Except A3Failure A3Execution := handleDrafts inputs s .n64
def handleA370 : Except A3Failure A3Execution := handleDrafts inputs s .n70

def handleA380 : Except A3Failure A3Execution := do
  let drafts ← requireSealed s.draftSets (.n70, s.a3RevisionAttempts)
    (.missingDraftSet 70 s.a3RevisionAttempts)
  let strategies ← assembleStrategies inputs drafts
  let strategySets ← sealUnder s.strategySets s.a3RevisionAttempts strategies
    (.conflict 80 s.a3RevisionAttempts)
  .ok { state := { s with strategySets := strategySets } }

/-! ### Quality and revision -/

def tokensExhausted : Bool := decide (inputs.maximumModelTokens ≤ s.a3ModelTokensSpent)

def handleA381 : Except A3Failure A3Execution :=
  match s.findings with
  | none => .error .missingFindingSet
  | some findings => do
    let strategies ← requireSealed s.strategySets s.a3RevisionAttempts
      (.missingStrategySet s.a3RevisionAttempts)
    let results := qualityGateResults (findings.map (·.toA3Finding))
      (strategies.map (·.toA3Strategy))
    let passed := results.all (·.passed)
    let qualityReports ← sealUnder s.qualityReports s.a3RevisionAttempts ⟨passed, results⟩
      (.conflict 81 s.a3RevisionAttempts)
    let exhausted := decide (maxRevisionAttempts ≤ s.a3RevisionAttempts) || tokensExhausted inputs s
    .ok { route := if passed then .continue_ else if exhausted then .rejected else .revision
          state := { s with qualityReports := qualityReports } }

def targetedStrategyIds (strategies : List SolutionStrategy) : List String :=
  (strategies.filter (!·.eligible)).map (·.strategyId)

def targetedFindingIds (strategies : List SolutionStrategy) : List String :=
  ((strategies.filter (!·.eligible)).flatMap (·.findingIds)).dedup.insertionSort (· ≤ ·)

/-- The attempt is counted whether or not another one is allowed. -/
def handleA382 : Except A3Failure A3Execution := do
  let strategies ← requireSealed s.strategySets s.a3RevisionAttempts
    (.missingStrategySet s.a3RevisionAttempts)
  let _ ← requireSealed s.qualityReports s.a3RevisionAttempts
    (.missingQualityReport s.a3RevisionAttempts)
  let nextAttempt := s.a3RevisionAttempts + 1
  let exhausted := decide (maxRevisionAttempts ≤ nextAttempt) || tokensExhausted inputs s
  let stops := exhausted || (targetedStrategyIds strategies).isEmpty
  let directive : RevisionDirective :=
    if stops then ⟨nextAttempt, [], [], if exhausted then "revision/token budget exhausted"
      else "quality gate failed with no targetable ineligible strategy"⟩
    else ⟨nextAttempt, targetedFindingIds strategies, targetedStrategyIds strategies,
      "targeted revision of ineligible strategies"⟩
  let directives ← sealUnder s.directives s.a3RevisionAttempts directive
    (.conflict 82 s.a3RevisionAttempts)
  .ok { route := if stops then .rejected else .continue_
        state := { s with directives := directives, a3RevisionAttempts := nextAttempt } }

def handleA390 : Except A3Failure A3Execution :=
  match s.findings with
  | none => .error .missingFindingSet
  | some _ => do
    let strategies ← requireSealed s.strategySets s.a3RevisionAttempts
      (.missingStrategySet s.a3RevisionAttempts)
    let _ ← requireSealed s.qualityReports s.a3RevisionAttempts
      (.missingQualityReport s.a3RevisionAttempts)
    if strategies.any (·.eligible) then
      .ok { state := { s with portfolio := some strategies } }
    else .error .invalidPortfolio

def handleA3 (node : Stage) : Except A3Failure A3Execution :=
  match node with
  | .n50 => handleA350 inputs a s
  | .n51 => handleA351 inputs s
  | .n60 => handleA360 a s
  | .n61 => handleA361 inputs s
  | .n62 => handleA362 inputs s
  | .n63 => handleA363 inputs s
  | .n64 => handleA364 inputs s
  | .n70 => handleA370 inputs s
  | .n80 => handleA380 inputs s
  | .n81 => handleA381 inputs s
  | .n82 => handleA382 inputs s
  | .n90 => handleA390 s

end Nodes

/-! ### The graph -/

def Stage.next (node : Stage) (route : NodeRoute) : Option Stage :=
  match node, route with
  | .n50, _ => some .n51
  | .n51, .continue_ => some .n60
  | .n60, _ => some .n61
  | .n61, _ => some .n62
  | .n62, _ => some .n63
  | .n63, _ => some .n64
  | .n64, _ => some .n70
  | .n70, _ => some .n80
  | .n80, _ => some .n81
  | .n81, .continue_ => some .n90
  | .n81, .revision => some .n82
  | .n82, .continue_ => some .n60
  | _, _ => none

/-- The edges are those that the compiled graph has between these nodes. -/
theorem next_eq_proposalEdge (node : Stage) (route : NodeRoute) :
    proposalEdge ⟨.A3, node.number⟩ route =
      match node.next route with
      | some next => .goto ⟨.A3, next.number⟩
      | none => .endA3 := by
  cases node <;> cases route <;> decide

structure A3Config where
  position : Option Stage
  state : A3State

structure A3Visit where
  node : Stage
  answers : A3Answers

def advance (inputs : Inputs) (c : A3Config) (a : A3Answers) : Option (A3Visit × A3Config) :=
  match c.position with
  | none => none
  | some node =>
    match handleA3 inputs a c.state node with
    | .error _ => none
    | .ok execution => some (⟨node, a⟩, ⟨node.next execution.route, execution.state⟩)

def A3Step (inputs : Inputs) (c : A3Config) (visit : A3Visit) (c' : A3Config) : Prop :=
  advance inputs c visit.answers = some (visit, c')

abbrev A3Trace := List (Transition A3Config A3Visit)

/-- Where a run of these nodes starts: nothing of them is sealed, and the generator of the
findings has spent tokens. -/
def startConfig (tokens : Nat) : A3Config := ⟨some .n50, { a3ModelTokensSpent := tokens }⟩

end ProductionOptimizer.A3
