import Mathlib.Algebra.BigOperators.Ring.List
import Mathlib.Algebra.Order.BigOperators.Group.List
import Mathlib.Tactic.Linarith
import ProductionOptimizer.Ranking

/-!
# Only the ratio of criterion weights matters

S01.40 divides every weight by their sum, and no later node of the selection reads a weight. Two
requests whose criteria differ by a common factor and their order are therefore scored, ranked,
swept and routed alike.
-/

namespace ProductionOptimizer.WeightRatios
set_option autoImplicit false

/-! ### The four nodes as one computation -/

/-- A node of S01 whose updates are written to the state. -/
def runNode (a : Answers) (s : OptimizationState) (number : Nat) :
    Except Failure OptimizationState := do
  let execution ← handleS01 number a s
  .ok (s.setAll execution.updates)

/-- S01.40, S01.50, S01.60 and S01.70 in their order. -/
def scoreToDecision (a : Answers) (s : OptimizationState) : Except Failure OptimizationState := do
  let scored ← runNode a s 40
  let ranked ← runNode a scored 50
  let swept ← runNode a ranked 60
  runNode a swept 70

/-- What the four nodes leave in the state. -/
structure Selection where
  scores : List StrategyScore
  ranked : List String
  flags : List String
  decision : RoutingDecision

def Selection.updates (selection : Selection) : List FieldUpdate :=
  [.s01Scores selection.scores, .s01RankedStrategyIds selection.ranked,
    .s01SensitivityFlags selection.flags, .s01RoutingDecision selection.decision]

def decisionOf (portfolio : SolutionPortfolio) (ranked flags : List String) :
    Except Failure RoutingDecision :=
  match ranked with
  | [] => .error .emptyRanking
  | winnerId :: _ => do
    let winner ← strategyById portfolio winnerId
    .ok ⟨needsApproval winner flags, approvalReasons winner flags, winnerId⟩

def selectionOf (request : OptimizationRequest) (portfolio : SolutionPortfolio)
    (factors : List (String × NormalizedFactor)) : Except Failure Selection := do
  let scores ← scoreAll request portfolio factors
  let flags := sensitivityFlags request scores (rank scores)
  let decision ← decisionOf portfolio (rank scores) flags
  .ok ⟨scores, rank scores, flags, decision⟩

section Nodes
variable {a : Answers} {s : OptimizationState} {request : OptimizationRequest}
  {portfolio : SolutionPortfolio}

theorem handleS0140_eq (hrequest : s.readRequest = .ok request)
    (hportfolio : s.readPortfolio = .ok portfolio) :
    handleS0140 a s = (scoreAll request portfolio s.s01NormalizedFactors).map
      fun scores => { updates := [.s01Scores scores] } := by
  unfold handleS0140
  rw [hrequest, hportfolio]
  show (scoreAll request portfolio s.s01NormalizedFactors >>= _) = _
  cases scoreAll request portfolio s.s01NormalizedFactors <;> rfl

theorem handleS0160_eq (hrequest : s.readRequest = .ok request) :
    handleS0160 a s = .ok { updates := [.s01SensitivityFlags
      (sensitivityFlags request s.s01Scores s.s01RankedStrategyIds)] } := by
  unfold handleS0160
  rw [hrequest]
  rfl

theorem handleS0170_eq (hportfolio : s.readPortfolio = .ok portfolio) :
    handleS0170 a s = (decisionOf portfolio s.s01RankedStrategyIds s.s01SensitivityFlags).map
      fun decision => { updates := [.s01RoutingDecision decision] } := by
  unfold handleS0170 decisionOf
  rw [hportfolio]
  cases s.s01RankedStrategyIds with
  | nil => rfl
  | cons winnerId rest =>
    show (strategyById portfolio winnerId >>= _) = (strategyById portfolio winnerId >>= _).map _
    cases strategyById portfolio winnerId <;> rfl

/-- No update of these nodes touches the artifacts, so every node reads the same request and the
same portfolio. -/
theorem scoreToDecision_eq (hrequest : s.readRequest = .ok request)
    (hportfolio : s.readPortfolio = .ok portfolio) :
    scoreToDecision a s = (selectionOf request portfolio s.s01NormalizedFactors).map
      fun selection => s.setAll selection.updates := by
  unfold scoreToDecision selectionOf
  show ((handleS0140 a s >>= _) >>= _) = _
  rw [handleS0140_eq hrequest hportfolio]
  cases scoreAll request portfolio s.s01NormalizedFactors with
  | error failure => rfl
  | ok scores =>
    let ranked := (s.setAll [.s01Scores scores]).setAll [.s01RankedStrategyIds (rank scores)]
    show ((handleS0160 a ranked >>= _) >>= _) = _
    have hranked : ranked.readRequest = .ok request := hrequest
    rw [handleS0160_eq hranked]
    let flags := sensitivityFlags request scores (rank scores)
    let swept := ranked.setAll [.s01SensitivityFlags flags]
    show (handleS0170 a swept >>= _) = (decisionOf portfolio (rank scores) flags >>= _).map _
    have hswept : swept.readPortfolio = .ok portfolio := hportfolio
    rw [handleS0170_eq hswept]
    show ((decisionOf portfolio (rank scores) flags).map _ >>= _) = _
    cases decisionOf portfolio (rank scores) flags <;> rfl

end Nodes

/-! ### Requests with the same ratios -/

def scaled (c : ℚ) (criterion : Criterion) : Criterion :=
  { criterion with weight := c * criterion.weight }

/-- The criteria of `request'` are those of `request` with every weight multiplied by `c`, in any
order. -/
def SameRatios (c : ℚ) (request request' : OptimizationRequest) : Prop :=
  request'.criteria.Perm (request.criteria.map (scaled c))

/-- The contract of a criterion's weight, `gt=0`. -/
def PositiveWeights (request : OptimizationRequest) : Prop :=
  ∀ criterion ∈ request.criteria, 0 < criterion.weight

def DistinctIds (request : OptimizationRequest) : Prop :=
  (request.criteria.map (·.criterionId)).Nodup

theorem lastWhere_eq_some {criteria : List Criterion} {criterion : Criterion}
    (hnodup : (criteria.map (·.criterionId)).Nodup) (hmem : criterion ∈ criteria) :
    lastWhere criteria (·.criterionId == criterion.criterionId) = some criterion := by
  cases hfind : lastWhere criteria (·.criterionId == criterion.criterionId) with
  | none =>
    have hnone := List.find?_eq_none.mp hfind criterion (List.mem_reverse.mpr hmem)
    simp at hnone
  | some found =>
    have hid : found.criterionId = criterion.criterionId := by
      simpa using List.find?_some hfind
    have hfound : found ∈ criteria := List.mem_reverse.mp (List.mem_of_find?_eq_some hfind)
    rw [List.inj_on_of_nodup_map hnodup hfound hmem hid]

theorem lastWhere_eq_none {criteria : List Criterion} {criterionId : String}
    (h : criterionId ∉ criteria.map (·.criterionId)) :
    lastWhere criteria (·.criterionId == criterionId) = none := by
  apply List.find?_eq_none.mpr
  intro criterion hmem heq
  apply h
  have hid : criterion.criterionId = criterionId := by simpa using heq
  rw [← hid]
  exact List.mem_map_of_mem (List.mem_reverse.mp hmem)

section TwoRequests
variable {request request' : OptimizationRequest} {c : ℚ}

theorem SameRatios.ids_perm (h : SameRatios c request request') :
    (request'.criteria.map (·.criterionId)).Perm (request.criteria.map (·.criterionId)) := by
  have hids := h.map (·.criterionId)
  rw [List.map_map] at hids
  exact hids

theorem SameRatios.sum_weights (h : SameRatios c request request') :
    (request'.criteria.map (·.weight)).sum = c * (request.criteria.map (·.weight)).sum := by
  rw [(h.map (·.weight)).sum_eq, List.map_map]
  exact List.sum_map_mul_left request.criteria (·.weight) c

theorem sum_weights_eq_zero (hpos : PositiveWeights request)
    (h : (request.criteria.map (·.weight)).sum = 0) : request.criteria = [] := by
  cases hcriteria : request.criteria with
  | nil => rfl
  | cons criterion criteria =>
    rw [hcriteria, List.map_cons, List.sum_cons] at h
    have hfirst : 0 < criterion.weight :=
      hpos criterion (by rw [hcriteria]; exact List.mem_cons_self)
    have hrest : 0 ≤ (criteria.map (·.weight)).sum := by
      apply List.sum_nonneg
      intro weight hweight
      obtain ⟨other, hother, rfl⟩ := List.mem_map.mp hweight
      exact le_of_lt (hpos other (by rw [hcriteria]; exact List.mem_cons_of_mem _ hother))
    linarith

/-- The share of a criterion is a ratio of weights. -/
theorem SameRatios.weightOf_eq (h : SameRatios c request request') (hc : 0 < c)
    (hids : DistinctIds request) (hpos : PositiveWeights request) (criterionId : String) :
    weightOf request' criterionId = weightOf request criterionId := by
  have hids' : DistinctIds request' := h.ids_perm.nodup_iff.mpr hids
  unfold weightOf
  by_cases hmem : criterionId ∈ request.criteria.map (·.criterionId)
  · obtain ⟨criterion, hcriterion, rfl⟩ := List.mem_map.mp hmem
    have hscaled : scaled c criterion ∈ request'.criteria :=
      h.mem_iff.mpr (List.mem_map_of_mem hcriterion)
    rw [lastWhere_eq_some hids hcriterion]
    have hlast := lastWhere_eq_some hids' hscaled
    have hsame : (scaled c criterion).criterionId = criterion.criterionId := rfl
    rw [hsame] at hlast
    rw [hlast]
    have hsum : (request.criteria.map (·.weight)).sum ≠ 0 := by
      intro hzero
      rw [sum_weights_eq_zero hpos hzero] at hcriterion
      cases hcriterion
    have hsum' : (request'.criteria.map (·.weight)).sum ≠ 0 := by
      rw [h.sum_weights]
      exact mul_ne_zero hc.ne' hsum
    have htotal : totalWeight request = (request.criteria.map (·.weight)).sum := if_neg hsum
    have htotal' : totalWeight request' = (request'.criteria.map (·.weight)).sum := if_neg hsum'
    show c * criterion.weight / totalWeight request' = criterion.weight / totalWeight request
    rw [htotal, htotal', h.sum_weights]
    exact mul_div_mul_left _ _ hc.ne'
  · have hmem' : criterionId ∉ request'.criteria.map (·.criterionId) := by
      intro hin
      exact hmem (h.ids_perm.mem_iff.mp hin)
    rw [lastWhere_eq_none hmem, lastWhere_eq_none hmem']

theorem scoreAll_eq_of_weights (hweight : ∀ id, weightOf request' id = weightOf request id)
    (portfolio : SolutionPortfolio) (factors : List (String × NormalizedFactor)) :
    scoreAll request' portfolio factors = scoreAll request portfolio factors := by
  have hscore : scoreOf request' = scoreOf request := by
    funext strategyId riskTier factor
    unfold scoreOf
    simp only [hweight]
  induction factors with
  | nil => rfl
  | cons entry factors ih =>
    obtain ⟨strategyId, factor⟩ := entry
    unfold scoreAll
    rw [ih, hscore]

/-- The criterion ids the sweep flags. -/
def flagText (criterionId : String) : String :=
  "top choice changes if '" ++ criterionId ++ "' weight increases 50%"

/-- Whether raising one criterion's weight changes the first place. -/
def flips (scores : List StrategyScore) (currentWinner criterionId : String) : Bool :=
  match rank (scores.map (perturbScore criterionId sensitivityPerturbation)) with
  | [] => false
  | winner :: _ => winner != currentWinner

/-- The sweep reads nothing of a request but the ids of its criteria. -/
theorem sensitivityFlags_eq (scores : List StrategyScore) (currentWinner : String)
    (others : List String) :
    sensitivityFlags request scores (currentWinner :: others) =
      ((request.criteria.map (·.criterionId)).filter
        (flips scores currentWinner)).map flagText := by
  rw [List.filter_map, List.map_map]
  rfl

theorem sensitivityFlags_perm
    (h : (request'.criteria.map (·.criterionId)).Perm (request.criteria.map (·.criterionId)))
    (scores : List StrategyScore) (ranked : List String) :
    (sensitivityFlags request' scores ranked).Perm (sensitivityFlags request scores ranked) := by
  cases ranked with
  | nil => exact List.Perm.refl _
  | cons currentWinner others =>
    rw [sensitivityFlags_eq, sensitivityFlags_eq]
    exact (h.filter _).map _

/-- S01.70 only asks whether there is a flag. -/
theorem decisionOf_congr {flags flags' : List String} (h : flags'.Perm flags)
    (portfolio : SolutionPortfolio) (ranked : List String) :
    decisionOf portfolio ranked flags' = decisionOf portfolio ranked flags := by
  have hempty : flags'.isEmpty = flags.isEmpty := h.isEmpty_eq
  have hreasons : ∀ winner, approvalReasons winner flags' = approvalReasons winner flags := by
    intro winner
    unfold approvalReasons
    rw [hempty]
  unfold decisionOf needsApproval
  simp only [hreasons]

end TwoRequests

/-! ### The two runs -/

/-- What a reader of S01's outputs sees of a state after S01.70. -/
structure SameSelection (s s' : OptimizationState) : Prop where
  scores : s'.s01Scores = s.s01Scores
  ranked : s'.s01RankedStrategyIds = s.s01RankedStrategyIds
  flags : s'.s01SensitivityFlags.Perm s.s01SensitivityFlags
  decision : s'.s01RoutingDecision = s.s01RoutingDecision

/-- Two runs that fail alike or select alike. -/
inductive SameOutcome : Except Failure OptimizationState → Except Failure OptimizationState → Prop
  | failed (failure : Failure) : SameOutcome (.error failure) (.error failure)
  | selected {s s' : OptimizationState} : SameSelection s s' → SameOutcome (.ok s) (.ok s')

theorem selected_setAll {s s' : OptimizationState} {selection selection' : Selection}
    (hscores : selection'.scores = selection.scores)
    (hranked : selection'.ranked = selection.ranked)
    (hflags : selection'.flags.Perm selection.flags)
    (hdecision : selection'.decision = selection.decision) :
    SameSelection (s.setAll selection.updates) (s'.setAll selection'.updates) where
  scores := hscores
  ranked := hranked
  flags := hflags
  decision := congrArg some hdecision

/-- Multiplying every weight by a positive factor and permuting the criteria leaves the scores,
the ranking, the flagged criteria and the routing decision as they are. -/
theorem selection_reads_ratios {a a' : Answers} {s s' : OptimizationState}
    {request request' : OptimizationRequest} {portfolio : SolutionPortfolio} {c : ℚ}
    (hrequest : s.readRequest = .ok request) (hrequest' : s'.readRequest = .ok request')
    (hportfolio : s.readPortfolio = .ok portfolio) (hportfolio' : s'.readPortfolio = .ok portfolio)
    (hfactors : s'.s01NormalizedFactors = s.s01NormalizedFactors) (hids : DistinctIds request)
    (hpos : PositiveWeights request) (hc : 0 < c) (hratios : SameRatios c request request') :
    SameOutcome (scoreToDecision a s) (scoreToDecision a' s') := by
  rw [scoreToDecision_eq hrequest hportfolio, scoreToDecision_eq hrequest' hportfolio', hfactors]
  unfold selectionOf
  rw [scoreAll_eq_of_weights (hratios.weightOf_eq hc hids hpos)]
  cases scoreAll request portfolio s.s01NormalizedFactors with
  | error failure => exact .failed failure
  | ok scores =>
    have hflags := sensitivityFlags_perm hratios.ids_perm scores (rank scores)
    have hdecision := decisionOf_congr hflags portfolio (rank scores)
    let flags := sensitivityFlags request scores (rank scores)
    let flags' := sensitivityFlags request' scores (rank scores)
    show SameOutcome ((decisionOf portfolio (rank scores) flags >>= _).map _)
      ((decisionOf portfolio (rank scores) flags' >>= _).map _)
    rw [hdecision]
    cases decisionOf portfolio (rank scores) flags with
    | error failure => exact .failed failure
    | ok decision => exact .selected (selected_setAll rfl rfl hflags rfl)

def weighedStrategy (strategyId : String) (criterionId : String) : SolutionStrategy where
  strategyId := strategyId
  riskCeiling := .prompt
  criterionImpacts := [⟨criterionId, .improves, 4 / 5⟩]
  effort := .low
  reversibility := .instant
  uncertainty := 1 / 10
  rollbackReversible := true
  scopeEntries := []
  fullyResolved := true
  eligible := true

def weighedPortfolio : SolutionPortfolio :=
  ⟨[weighedStrategy "cache" "latency", weighedStrategy "batch" "cost"]⟩

def weighedRequest (criteria : List Criterion) : OptimizationRequest := ⟨criteria, [], [], "w", 60⟩

def weighedState (request : OptimizationRequest) : OptimizationState where
  caseId := "case"
  threadId := "thread"
  tenantId := "tenant"
  artifactRefs := [⟨.base, .optimizationRequest request⟩,
    ⟨.base, .solutionPortfolio weighedPortfolio⟩]
  s01NormalizedFactors := normalizedFactors weighedPortfolio ["cache", "batch"]

def latencyAndCost : OptimizationRequest :=
  weighedRequest [⟨"latency", "p95", .minimize, 100, 3⟩, ⟨"cost", "usd", .minimize, 5, 1⟩]

/-- The same criteria in the other order, with weights a tenth of those. -/
def costAndLatency : OptimizationRequest :=
  weighedRequest [⟨"cost", "usd", .minimize, 5, 1 / 10⟩, ⟨"latency", "p95", .minimize, 100, 3 / 10⟩]

theorem positive_latencyAndCost : PositiveWeights latencyAndCost := by
  intro criterion hmem
  simp only [latencyAndCost, weighedRequest, List.mem_cons, List.not_mem_nil, or_false] at hmem
  rcases hmem with rfl | rfl
  · norm_num
  · norm_num

theorem sameRatios_costAndLatency : SameRatios (1 / 10) latencyAndCost costAndLatency := by
  have hlatency : scaled (1 / 10) ⟨"latency", "p95", .minimize, 100, 3⟩ =
      ⟨"latency", "p95", .minimize, 100, 3 / 10⟩ := by
    norm_num [scaled]
  have hcost : scaled (1 / 10) ⟨"cost", "usd", .minimize, 5, 1⟩ =
      ⟨"cost", "usd", .minimize, 5, 1 / 10⟩ := by
    norm_num [scaled]
  unfold SameRatios latencyAndCost costAndLatency weighedRequest
  rw [List.map_cons, List.map_cons, List.map_nil, hlatency, hcost]
  exact List.Perm.swap _ _ _

theorem weighed_states_select_alike :
    (scoreToDecision {} (weighedState latencyAndCost)).toOption.map
        (·.s01RankedStrategyIds) = some ["cache", "batch"] ∧
      SameOutcome (scoreToDecision {} (weighedState latencyAndCost))
        (scoreToDecision {} (weighedState costAndLatency)) := by
  constructor
  · decide +kernel
  · have hids : DistinctIds latencyAndCost := by
      simp [DistinctIds, latencyAndCost, weighedRequest]
    exact selection_reads_ratios (c := 1 / 10) rfl rfl rfl rfl rfl hids positive_latencyAndCost
      (by norm_num) sameRatios_costAndLatency

end ProductionOptimizer.WeightRatios
