import ProductionOptimizer.Handlers.LaneGates

/-!
# S01: rank the eligible strategies and select one

`S01.20` filters, `S01.30` to `S01.60` score and rank, `S01.70` decides whether a human has
to approve the winner, `S01.80` seals the ranking and `S01.90` the selection.
-/

namespace ProductionOptimizer
set_option autoImplicit false

def s01PolicyVersion : String := "s01-ranking-v1"
def benefitWeight : ℚ := 11 / 20
def effortWeight : ℚ := 1 / 5
def reversibilityWeight : ℚ := 3 / 20
def riskWeight : ℚ := 1 / 10
def materialTieMargin : ℚ := 1 / 20
def sensitivityPerturbation : ℚ := 3 / 2
def lowConfidenceThreshold : ℚ := 1 / 2

def riskTierOrder : RiskTier → Nat
  | .experimentConfig => 0
  | .prompt => 1
  | .code => 2
  | .architecture => 3

def effortScale : Effort → ℚ
  | .low => 1
  | .medium => 3 / 5
  | .high => 3 / 10

def reversibilityScale : Reversibility → ℚ
  | .instant => 1
  | .fast => 3 / 4
  | .slow => 2 / 5
  | .irreversible => 0

/-- `_APPROVAL_RISK_TIERS` of S01 and S02. -/
def needsOwner : RiskTier → Bool
  | .code | .architecture => true
  | _ => false

/-- Zero on the first pass of S01; one more after each REVERT. -/
def s01PassNumber (s : OptimizationState) : Nat := s.s01ExcludedStrategyIds.length

/-- `sorted(scores, key=total_score, reverse=True)`, which keeps ties in order. -/
def sortByScore (scores : List StrategyScore) : List StrategyScore :=
  scores.insertionSort fun x y => y.totalScore ≤ x.totalScore

def lowerRisk (best score : StrategyScore) : StrategyScore :=
  if riskTierOrder score.riskTier < riskTierOrder best.riskTier then score else best

/-- The loop of `_rank`; every round removes at least the winner. -/
def rankFrom : Nat → List StrategyScore → List String
  | 0, _ => []
  | _ + 1, [] => []
  | fuel + 1, top :: rest =>
    let remaining := top :: rest
    let tied := remaining.filter fun s => top.totalScore - s.totalScore ≤ materialTieMargin
    let winner := tied.foldl lowerRisk top
    winner.strategyId :: rankFrom fuel (remaining.filter (·.strategyId != winner.strategyId))

def rank (scores : List StrategyScore) : List String :=
  rankFrom scores.length (sortByScore scores)

def perturbScore (criterionId : String) (multiplier : ℚ) (score : StrategyScore) :
    StrategyScore :=
  match score.criterionScores.lookup criterionId with
  | none => score
  | some contribution =>
    { score with totalScore := score.totalScore + contribution * (multiplier - 1) }

def handleS0110 (_ : Answers) (s : OptimizationState) : Except Failure NodeExecution := do
  let portfolioRef ← s.requireRef .solutionPortfolio
  let requestRef ← s.requireRef .optimizationRequest
  let _ ← s.requireRef .convergedCase
  .ok { updates := [.s01DecisionContext
          { solutionPortfolioDigest := portfolioRef.contentDigest
            requestDigest := requestRef.contentDigest
            excludedStrategyIds := s.s01ExcludedStrategyIds
            policyVersion := s01PolicyVersion }] }

def eligibleIds (portfolio : SolutionPortfolio) (excluded : List String) : List String :=
  (portfolio.strategies.filter fun strategy =>
    strategy.eligible && strategy.rollbackReversible && strategy.fullyResolved &&
      !excluded.contains strategy.strategyId).map (·.strategyId)

def handleS0120 (_ : Answers) (s : OptimizationState) : Except Failure NodeExecution := do
  let portfolio ← s.readPortfolio
  let eligible := eligibleIds portfolio s.s01ExcludedStrategyIds
  .ok { route := if eligible.isEmpty then .rejected else .continue_
        updates := [.s01EligibleStrategyIds eligible] }

def normalizeFactor (strategy : SolutionStrategy) : NormalizedFactor where
  benefitByCriterion := dictOf
    ((strategy.criterionImpacts.filter (·.direction == .improves)).map fun impact =>
      (impact.criterionId, impact.confidence))
  effortScore := effortScale strategy.effort
  reversibilityScore := reversibilityScale strategy.reversibility
  riskPenalty := strategy.uncertainty

def normalizedFactors (portfolio : SolutionPortfolio) (eligible : List String) :
    List (String × NormalizedFactor) :=
  dictOf ((portfolio.strategies.filter (eligible.contains ·.strategyId)).map fun strategy =>
    (strategy.strategyId, normalizeFactor strategy))

def handleS0130 (_ : Answers) (s : OptimizationState) : Except Failure NodeExecution := do
  let portfolio ← s.readPortfolio
  .ok { updates := [.s01NormalizedFactors (normalizedFactors portfolio s.s01EligibleStrategyIds)] }

/-- `sum(weights) or 1.0`. -/
def totalWeight (request : OptimizationRequest) : ℚ :=
  let sum := (request.criteria.map (·.weight)).sum
  if sum = 0 then 1 else sum

def weightOf (request : OptimizationRequest) (criterionId : String) : ℚ :=
  match lastWhere request.criteria (·.criterionId == criterionId) with
  | some criterion => criterion.weight / totalWeight request
  | none => 0

def scoreOf (request : OptimizationRequest) (strategyId : String) (riskTier : RiskTier)
    (factor : NormalizedFactor) : StrategyScore :=
  let criterionScores := factor.benefitByCriterion.map fun e => (e.1, e.2 * weightOf request e.1)
  { strategyId := strategyId
    riskTier := riskTier
    criterionScores := criterionScores
    effortScore := factor.effortScore
    reversibilityScore := factor.reversibilityScore
    riskPenalty := factor.riskPenalty
    totalScore := benefitWeight * (criterionScores.map (·.2)).sum +
      effortWeight * factor.effortScore + reversibilityWeight * factor.reversibilityScore -
      riskWeight * factor.riskPenalty }

def scoreAll (request : OptimizationRequest) (portfolio : SolutionPortfolio) :
    List (String × NormalizedFactor) → Except Failure (List StrategyScore)
  | [] => .ok []
  | (strategyId, factor) :: factors =>
    match lastWhere portfolio.strategies (·.strategyId == strategyId) with
    | none => .error (.unknownStrategy strategyId)
    | some strategy => do
      let scores ← scoreAll request portfolio factors
      .ok (scoreOf request strategyId strategy.riskCeiling factor :: scores)

def handleS0140 (_ : Answers) (s : OptimizationState) : Except Failure NodeExecution := do
  let request ← s.readRequest
  let portfolio ← s.readPortfolio
  let scores ← scoreAll request portfolio s.s01NormalizedFactors
  .ok { updates := [.s01Scores scores] }

def handleS0150 (_ : Answers) (s : OptimizationState) : Except Failure NodeExecution :=
  .ok { updates := [.s01RankedStrategyIds (rank s.s01Scores)] }

def sensitivityFlags (request : OptimizationRequest) (scores : List StrategyScore)
    (ranked : List String) : List String :=
  match ranked with
  | [] => []
  | currentWinner :: _ =>
    (request.criteria.filter fun criterion =>
      match rank (scores.map (perturbScore criterion.criterionId sensitivityPerturbation)) with
      | [] => false
      | winner :: _ => winner != currentWinner).map fun criterion =>
        "top choice changes if '" ++ criterion.criterionId ++ "' weight increases 50%"

def handleS0160 (_ : Answers) (s : OptimizationState) : Except Failure NodeExecution := do
  let request ← s.readRequest
  .ok { updates := [.s01SensitivityFlags
          (sensitivityFlags request s.s01Scores s.s01RankedStrategyIds)] }

def approvalReasons (winner : SolutionStrategy) (flags : List String) : List ApprovalReason :=
  let improving := winner.criterionImpacts.filter (·.direction == .improves)
  let average := (improving.map (·.confidence)).sum / improving.length
  (if needsOwner winner.riskCeiling then [.riskCeiling winner.riskCeiling] else []) ++
  (if flags.isEmpty then [] else [.sensitiveRanking]) ++
  (if improving.isEmpty then [.noImprovingImpact]
   else if average < lowConfidenceThreshold then [.lowConfidence average] else [])

/-- Whether `S01.70` asks for a human, given the winner and the sensitivity flags. -/
def needsApproval (winner : SolutionStrategy) (flags : List String) : Bool :=
  !(approvalReasons winner flags).isEmpty

def handleS0170 (_ : Answers) (s : OptimizationState) : Except Failure NodeExecution := do
  let portfolio ← s.readPortfolio
  match s.s01RankedStrategyIds with
  | [] => .error .emptyRanking
  | winnerId :: _ =>
    let winner ← strategyById portfolio winnerId
    .ok { updates := [.s01RoutingDecision
            { needsApproval := needsApproval winner s.s01SensitivityFlags
              reasons := approvalReasons winner s.s01SensitivityFlags
              winnerStrategyId := winnerId }] }

/-- The ranking `S01.80` seals now, under the present pass. -/
def rankingOf (a : Answers) (s : OptimizationState) (portfolioDigest : Artifact) : Artifact :=
  .rankingResult a.now portfolioDigest s.s01Scores s.s01RankedStrategyIds s.s01SensitivityFlags

def rankingRefOf (a : Answers) (s : OptimizationState) (portfolioDigest : Artifact) :
    ArtifactRef :=
  ⟨.stagePass ⟨.S01, 80⟩ (s01PassNumber s), rankingOf a s portfolioDigest⟩

def selectionApproval (decision : SelectionDecision) (command : ResumeInterruptCommand) :
    SelectionApproval :=
  ⟨decision, some command.actorId, firstRole command, command.policyVersion⟩

/-- `S01.80`. A pending approval keeps the default route `continue`. -/
def handleS0180 (a : Answers) (s : OptimizationState) : Except Failure NodeExecution := do
  let portfolioRef ← s.requireRef .solutionPortfolio
  if s.s01Scores.isEmpty || s.s01RankedStrategyIds.isEmpty then
    .error (.invalidContract .rankingResult)
  else
    let rankingRef := rankingRefOf a s portfolioRef.contentDigest
    if !(s.s01RoutingDecision.any (·.needsApproval)) then
      .ok { artifactRefs := [rankingRef]
            updates := [.s01Approval ⟨.autoSelected, none, none, s01PolicyVersion⟩] }
    else
      match s.resumeCommand with
      | none =>
        .ok { artifactRefs := [rankingRef]
              updates := [
                .pendingInterrupt (gateInterrupt s a ⟨.S01, 80⟩ "-S01-SELECTION"
                  rankingRef.contentDigest s01PolicyVersion),
                .s01Approval ⟨.pending, none, none, s01PolicyVersion⟩] }
      | some command =>
        if command.decision = "approve" then
          .ok { artifactRefs := [rankingRef]
                updates := [.s01Approval (selectionApproval .approved command)] }
        else
          .ok { route := .rejected
                artifactRefs := [rankingRef]
                updates := [.s01Approval (selectionApproval .rejected command)] }

def handleS0190 (a : Answers) (s : OptimizationState) : Except Failure NodeExecution := do
  let passNumber := s01PassNumber s
  let rankingRef ← s.requireStageRef (.stagePass ⟨.S01, 80⟩ passNumber) .rankingResult
  let portfolioRef ← s.requireRef .solutionPortfolio
  match s.s01Approval with
  | none => .error (.missingField .s01Approval)
  | some approval =>
    if approval.decision = .rejected then
      .ok { route := .rejected, artifactRefs := [rankingRef] }
    else
      match s.s01RoutingDecision with
      | none => .error (.missingField .s01RoutingDecision)
      | some routing =>
        .ok { artifactRefs := [⟨.stagePass ⟨.S01, 90⟩ passNumber,
                .selectedSolution a.now rankingRef.contentDigest portfolioRef.contentDigest
                  routing.winnerStrategyId approval s.s01ExcludedStrategyIds⟩] }

def handleS01 (number : Nat) : Answers → OptimizationState → Except Failure NodeExecution :=
  match number with
  | 10 => handleS0110
  | 20 => handleS0120
  | 30 => handleS0130
  | 40 => handleS0140
  | 50 => handleS0150
  | 60 => handleS0160
  | 70 => handleS0170
  | 80 => handleS0180
  | 90 => handleS0190
  | _ => fun _ _ => .error (.nodeNotEnabled ⟨.S01, number⟩)

def s01Fields : Nat → List Field
  | 10 => [.s01DecisionContext]
  | 20 => [.s01EligibleStrategyIds]
  | 30 => [.s01NormalizedFactors]
  | 40 => [.s01Scores]
  | 50 => [.s01RankedStrategyIds]
  | 60 => [.s01SensitivityFlags]
  | 70 => [.s01RoutingDecision]
  | 80 => [.pendingInterrupt, .s01Approval]
  | _ => []

def s01Types : Nat → List ArtifactType
  | 80 => [.rankingResult]
  | 90 => [.rankingResult, .selectedSolution]
  | _ => []

section Writes
variable (a : Answers) (s : OptimizationState)

theorem handleS0110_writes :
    Yields (WritesOnly (s01Fields 10) (s01Types 10)) (handleS0110 a s) := by
  unfold handleS0110
  refine Yields.bind fun portfolioRef _ => Yields.bind fun requestRef _ => ?_
  exact Yields.bind fun caseRef _ => Yields.ok rfl

theorem handleS0120_writes :
    Yields (WritesOnly (s01Fields 20) (s01Types 20)) (handleS0120 a s) := by
  unfold handleS0120
  exact Yields.bind fun portfolio _ => Yields.ok rfl

theorem handleS0130_writes :
    Yields (WritesOnly (s01Fields 30) (s01Types 30)) (handleS0130 a s) := by
  unfold handleS0130
  exact Yields.bind fun portfolio _ => Yields.ok rfl

theorem handleS0140_writes :
    Yields (WritesOnly (s01Fields 40) (s01Types 40)) (handleS0140 a s) := by
  unfold handleS0140
  refine Yields.bind fun request _ => Yields.bind fun portfolio _ => ?_
  exact Yields.bind fun scores _ => Yields.ok rfl

theorem handleS0150_writes :
    Yields (WritesOnly (s01Fields 50) (s01Types 50)) (handleS0150 a s) :=
  Yields.ok rfl

theorem handleS0160_writes :
    Yields (WritesOnly (s01Fields 60) (s01Types 60)) (handleS0160 a s) := by
  unfold handleS0160
  exact Yields.bind fun request _ => Yields.ok rfl

theorem handleS0170_writes :
    Yields (WritesOnly (s01Fields 70) (s01Types 70)) (handleS0170 a s) := by
  unfold handleS0170
  refine Yields.bind fun portfolio _ => ?_
  split
  · exact Yields.error
  · exact Yields.bind fun winner _ => Yields.ok rfl

theorem handleS0180_writes :
    Yields (WritesOnly (s01Fields 80) (s01Types 80)) (handleS0180 a s) := by
  unfold handleS0180
  refine Yields.bind fun portfolioRef _ => ?_
  split
  · exact Yields.error
  · dsimp only
    split
    · exact Yields.ok rfl
    · split
      · exact Yields.ok rfl
      · split
        · exact Yields.ok rfl
        · exact Yields.ok rfl

theorem handleS0190_writes :
    Yields (WritesOnly (s01Fields 90) (s01Types 90)) (handleS0190 a s) := by
  unfold handleS0190
  refine Yields.bind fun rankingRef hranking => Yields.bind fun portfolioRef _ => ?_
  have htype := (OptimizationState.requireStageRef_ok hranking).2.1
  split
  · exact Yields.error
  · split
    · exact Yields.ok (by simp [WritesOnly, s01Types, htype])
    · split
      · exact Yields.error
      · exact Yields.ok rfl

theorem handleS01_writes (number : Nat) :
    Yields (WritesOnly (s01Fields number) (s01Types number)) (handleS01 number a s) := by
  unfold handleS01
  split
  · exact handleS0110_writes a s
  · exact handleS0120_writes a s
  · exact handleS0130_writes a s
  · exact handleS0140_writes a s
  · exact handleS0150_writes a s
  · exact handleS0160_writes a s
  · exact handleS0170_writes a s
  · exact handleS0180_writes a s
  · exact handleS0190_writes a s
  · exact Yields.error

end Writes

theorem s01Fields_of_ne {number : Nat} (h : number ≠ 80) :
    Field.s01Approval ∉ s01Fields number ∧ Field.pendingInterrupt ∉ s01Fields number := by
  unfold s01Fields
  split <;> first | exact absurd rfl h | simp

theorem s01Types_of_ne {number : Nat} (h : number ≠ 90) :
    ArtifactType.selectedSolution ∉ s01Types number := by
  unfold s01Types
  split <;> first | exact absurd rfl h | simp

theorem mem_eligibleIds {portfolio : SolutionPortfolio} {excluded : List String}
    {strategyId : String} (h : strategyId ∈ eligibleIds portfolio excluded) :
    strategyId ∈ portfolio.strategies.map (·.strategyId) ∧ strategyId ∉ excluded := by
  obtain ⟨strategy, hmem, rfl⟩ := List.mem_map.mp h
  obtain ⟨hstrategy, hcheck⟩ := List.mem_filter.mp hmem
  refine ⟨List.mem_map_of_mem hstrategy, ?_⟩
  simp only [Bool.and_eq_true, Bool.not_eq_true', List.contains_eq_mem, decide_eq_false_iff_not]
    at hcheck
  exact hcheck.2

theorem mem_normalizedFactors {portfolio : SolutionPortfolio} {eligible : List String}
    {strategyId : String}
    (h : strategyId ∈ (normalizedFactors portfolio eligible).map Prod.fst) :
    strategyId ∈ eligible := by
  have hkey := mem_keys_dictOf h
  rw [List.map_map] at hkey
  obtain ⟨strategy, hmem, rfl⟩ := List.mem_map.mp hkey
  simpa using (List.mem_filter.mp hmem).2

theorem mem_scoreAll {request : OptimizationRequest} {portfolio : SolutionPortfolio}
    {factors : List (String × NormalizedFactor)} {scores : List StrategyScore}
    (h : scoreAll request portfolio factors = .ok scores) {score : StrategyScore}
    (hscore : score ∈ scores) : score.strategyId ∈ factors.map Prod.fst := by
  induction factors generalizing scores with
  | nil =>
    cases h
    cases hscore
  | cons factor factors ih =>
    obtain ⟨strategyId, factor⟩ := factor
    unfold scoreAll at h
    split at h
    · cases h
    · obtain ⟨rest, hrest, hok⟩ := except_bind_ok h
      cases hok
      rcases List.mem_cons.mp hscore with rfl | hscore
      · exact List.mem_cons_self
      · exact List.mem_cons_of_mem _ (ih hrest hscore)

theorem foldl_lowerRisk_mem (scores : List StrategyScore) (best : StrategyScore) :
    scores.foldl lowerRisk best = best ∨ scores.foldl lowerRisk best ∈ scores := by
  induction scores generalizing best with
  | nil => exact Or.inl rfl
  | cons score scores ih =>
    rw [List.foldl_cons]
    rcases ih (lowerRisk best score) with heq | hmem
    · rw [heq]
      unfold lowerRisk
      split
      · exact Or.inr List.mem_cons_self
      · exact Or.inl rfl
    · exact Or.inr (List.mem_cons_of_mem _ hmem)

theorem mem_rankFrom {fuel : Nat} {scores : List StrategyScore} {strategyId : String}
    (h : strategyId ∈ rankFrom fuel scores) : ∃ score ∈ scores, score.strategyId = strategyId := by
  induction fuel generalizing scores with
  | zero => cases h
  | succ fuel ih =>
    cases scores with
    | nil => cases h
    | cons top rest =>
      rcases List.mem_cons.mp h with rfl | hrest
      · -- the winner of a round is the top score or tied with it
        refine ⟨_, ?_, rfl⟩
        rcases foldl_lowerRisk_mem ((top :: rest).filter fun s =>
          top.totalScore - s.totalScore ≤ materialTieMargin) top with heq | hmem
        · rw [heq]
          exact List.mem_cons_self
        · exact (List.mem_filter.mp hmem).1
      · obtain ⟨score, hscore, heq⟩ := ih hrest
        exact ⟨score, (List.mem_filter.mp hscore).1, heq⟩

theorem mem_rank {scores : List StrategyScore} {strategyId : String}
    (h : strategyId ∈ rank scores) : ∃ score ∈ scores, score.strategyId = strategyId := by
  obtain ⟨score, hscore, heq⟩ := mem_rankFrom h
  exact ⟨score, (List.mem_insertionSort _).mp hscore, heq⟩

section Specs
variable {a : Answers} {s : OptimizationState} {execution : NodeExecution}

/-- Whether the recorded routing decision asks for an owner. -/
def asksForOwner (s : OptimizationState) : Bool := s.s01RoutingDecision.any (·.needsApproval)

/-- The four ways out of `S01.80`; only a rejection does not continue. -/
theorem handleS0180_ok (h : handleS0180 a s = .ok execution) :
    ∃ portfolioRef, s.requireRef .solutionPortfolio = .ok portfolioRef ∧
      execution.artifactRefs = [rankingRefOf a s portfolioRef.contentDigest] ∧
      ((asksForOwner s = false ∧
        execution.updates = [.s01Approval ⟨.autoSelected, none, none, s01PolicyVersion⟩]) ∨
      (asksForOwner s = true ∧ s.resumeCommand = none ∧ execution.updates = [
        .pendingInterrupt (gateInterrupt s a ⟨.S01, 80⟩ "-S01-SELECTION"
          (rankingOf a s portfolioRef.contentDigest) s01PolicyVersion),
        .s01Approval ⟨.pending, none, none, s01PolicyVersion⟩]) ∨
      ∃ command, asksForOwner s = true ∧ s.resumeCommand = some command ∧
        ((command.decision = "approve" ∧
          execution.updates = [.s01Approval (selectionApproval .approved command)]) ∨
        (command.decision ≠ "approve" ∧ execution.route = .rejected ∧
          execution.updates = [.s01Approval (selectionApproval .rejected command)]))) := by
  obtain ⟨portfolioRef, hportfolio, h⟩ := except_bind_ok h
  refine ⟨portfolioRef, hportfolio, ?_⟩
  split at h
  · cases h
  · dsimp only at h
    split at h
    · rename_i hasks
      cases h
      exact ⟨rfl, Or.inl ⟨by simpa [asksForOwner] using hasks, rfl⟩⟩
    · rename_i hasks
      have hasks' : asksForOwner s = true := by simpa [asksForOwner] using hasks
      split at h
      · rename_i hnone
        cases h
        exact ⟨rfl, Or.inr (Or.inl ⟨hasks', hnone, rfl⟩)⟩
      · rename_i command hsome
        split at h
        · rename_i happrove
          cases h
          exact ⟨rfl, Or.inr (Or.inr ⟨command, hasks', hsome, Or.inl ⟨happrove, rfl⟩⟩)⟩
        · rename_i hreject
          cases h
          exact ⟨rfl, Or.inr (Or.inr ⟨command, hasks', hsome, Or.inr ⟨hreject, rfl, rfl⟩⟩)⟩

/-- `S01.90` seals the approval it finds, and continues only for one that is not a
rejection. -/
theorem handleS0190_ok (h : handleS0190 a s = .ok execution)
    (hroute : execution.route = .continue_) :
    ∃ rankingRef portfolioRef approval routing, s.s01Approval = some approval ∧
      approval.decision ≠ .rejected ∧ s.s01RoutingDecision = some routing ∧
      execution.artifactRefs = [⟨.stagePass ⟨.S01, 90⟩ (s01PassNumber s),
        .selectedSolution a.now rankingRef portfolioRef routing.winnerStrategyId approval
          s.s01ExcludedStrategyIds⟩] ∧
      execution.updates = [] := by
  obtain ⟨rankingRef, _, h⟩ := except_bind_ok h
  obtain ⟨portfolioRef, _, h⟩ := except_bind_ok h
  split at h
  · cases h
  · rename_i approval happroval
    split at h
    · cases h
      cases hroute
    · rename_i hdecision
      split at h
      · cases h
      · rename_i routing hrouting
        cases h
        exact ⟨_, _, approval, routing, happroval, hdecision, hrouting, rfl, rfl⟩

end Specs

end ProductionOptimizer
