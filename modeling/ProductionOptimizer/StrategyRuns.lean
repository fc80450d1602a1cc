import ProductionOptimizer.StrategyRounds

/-!
# Runs of A3 from the judge to the portfolio

Every step is one of ten moves. What a run has sealed in one pass is then traced back to what
the generator answered and to what the pass before had sealed.
-/

namespace ProductionOptimizer.A3
open Runs
set_option autoImplicit false

/-! ### Sealed entries -/

section Sealed
variable {K V : Type} [BEq K] {entries out : List (K × V)} {key k : K} {value v : V}
  {failure : A3Failure}

theorem sealUnder_ok (h : sealUnder entries key value failure = .ok out) :
    entries.lookup key = none ∧ out = entries ++ [(key, value)] := by
  unfold sealUnder at h
  split at h
  · cases h
  · rename_i hnone
    cases h
    exact ⟨hnone, rfl⟩

theorem requireSealed_ok (h : requireSealed entries key failure = .ok value) :
    entries.lookup key = some value := by
  unfold requireSealed at h
  split at h
  · rename_i hsome
    cases h
    exact hsome
  · cases h

theorem lookup_append_of_lookup (h : entries.lookup k = some v) :
    (entries ++ [(key, value)]).lookup k = some v := by
  rw [List.lookup_append, h]
  rfl

theorem lookup_append_cases [LawfulBEq K] (h : (entries ++ [(key, value)]).lookup k = some v) :
    entries.lookup k = some v ∨ k = key ∧ v = value := by
  rw [List.lookup_append] at h
  cases hold : entries.lookup k with
  | some w =>
    rw [hold] at h
    exact Or.inl h
  | none =>
    rw [hold, Option.none_or, List.lookup_cons] at h
    split at h
    · rename_i hkey
      cases h
      exact Or.inr ⟨beq_iff_eq.mp hkey, rfl⟩
    · cases h

end Sealed

/-! ### The moves -/

section Moves
variable (inputs : Inputs)

inductive Moved : A3Config → A3Visit → A3Config → Prop where
  | judged {s : A3State} {a : A3Answers} {judged : List (Option FindingJudgement × Nat)} :
      (inputs.drafts.zipIdx.mapM fun draft => judgeFinding draft.1.findingId (a.judge draft.2)) =
        .ok judged →
      Moved ⟨some .n50, s⟩ ⟨.n50, a⟩ ⟨some .n51, { s with
        judgements := some (judged.filterMap (·.1))
        a3ModelTokensSpent := s.a3ModelTokensSpent + (judged.map (·.2)).sum }⟩
  | noFinding {s : A3State} {a : A3Answers} {judgements : List FindingJudgement} :
      s.judgements = some judgements →
      inputs.drafts.filterMap (admitFinding inputs judgements) = [] →
      Moved ⟨some .n51, s⟩ ⟨.n51, a⟩ ⟨none, s⟩
  | admitted {s : A3State} {a : A3Answers} {judgements : List FindingJudgement} :
      s.judgements = some judgements →
      inputs.drafts.filterMap (admitFinding inputs judgements) ≠ [] →
      Moved ⟨some .n51, s⟩ ⟨.n51, a⟩ ⟨some .n60, { s with
        findings := some (inputs.drafts.filterMap (admitFinding inputs judgements)) }⟩
  | generated {s : A3State} {a : A3Answers} {findings : List Finding}
      {carried : List StrategyDraft} :
      s.findings = some findings → carriedForward s = .ok carried →
      s.draftSets.lookup (.n60, s.a3RevisionAttempts) = none →
      Moved ⟨some .n60, s⟩ ⟨.n60, a⟩ ⟨some .n61, { s with
        draftSets := s.draftSets ++
          [((.n60, s.a3RevisionAttempts), carried ++ generatedDrafts a)]
        a3ModelTokensSpent :=
          s.a3ModelTokensSpent + (generateStrategyDrafts a.first a.repair).2 }⟩
  | worked {s : A3State} {a : A3Answers} {node source : Stage} {next : Option Stage}
      {work : List StrategyDraft → Except A3Failure (List StrategyDraft)}
      {drafts updated : List StrategyDraft} :
      draftWork inputs node = some (source, work) →
      s.draftSets.lookup (source, s.a3RevisionAttempts) = some drafts →
      work drafts = .ok updated → s.draftSets.lookup (node, s.a3RevisionAttempts) = none →
      next = node.next .continue_ →
      Moved ⟨some node, s⟩ ⟨node, a⟩ ⟨next, { s with
        draftSets := s.draftSets ++ [((node, s.a3RevisionAttempts), updated)] }⟩
  | assembled {s : A3State} {a : A3Answers} {drafts : List StrategyDraft}
      {strategies : List SolutionStrategy} :
      s.draftSets.lookup (.n70, s.a3RevisionAttempts) = some drafts →
      assembleStrategies inputs drafts = .ok strategies →
      s.strategySets.lookup s.a3RevisionAttempts = none →
      Moved ⟨some .n80, s⟩ ⟨.n80, a⟩ ⟨some .n81, { s with
        strategySets := s.strategySets ++ [(s.a3RevisionAttempts, strategies)] }⟩
  | gated {s : A3State} {a : A3Answers} {strategies : List SolutionStrategy}
      {report : A3QualityReport} {route : NodeRoute} :
      s.strategySets.lookup s.a3RevisionAttempts = some strategies →
      Moved ⟨some .n81, s⟩ ⟨.n81, a⟩ ⟨Stage.n81.next route, { s with
        qualityReports := s.qualityReports ++ [(s.a3RevisionAttempts, report)] }⟩
  | stopped {s : A3State} {a : A3Answers} {reason : String} :
      Moved ⟨some .n82, s⟩ ⟨.n82, a⟩ ⟨none, { s with
        directives := s.directives ++
          [(s.a3RevisionAttempts, ⟨s.a3RevisionAttempts + 1, [], [], reason⟩)]
        a3RevisionAttempts := s.a3RevisionAttempts + 1 }⟩
  | revised {s : A3State} {a : A3Answers} {strategies : List SolutionStrategy} :
      s.strategySets.lookup s.a3RevisionAttempts = some strategies →
      s.a3RevisionAttempts + 1 < maxRevisionAttempts → targetedStrategyIds strategies ≠ [] →
      Moved ⟨some .n82, s⟩ ⟨.n82, a⟩ ⟨some .n60, { s with
        directives := s.directives ++ [(s.a3RevisionAttempts, ⟨s.a3RevisionAttempts + 1,
          targetedFindingIds strategies, targetedStrategyIds strategies,
          "targeted revision of ineligible strategies"⟩)]
        a3RevisionAttempts := s.a3RevisionAttempts + 1 }⟩
  | portfolio {s : A3State} {a : A3Answers} {strategies : List SolutionStrategy} :
      s.strategySets.lookup s.a3RevisionAttempts = some strategies →
      Moved ⟨some .n90, s⟩ ⟨.n90, a⟩ ⟨none, { s with portfolio := some strategies }⟩

variable {inputs} {s : A3State} {a : A3Answers} {execution : A3Execution}

theorem moved_judged (h : handleA350 inputs a s = .ok execution) :
    Moved inputs ⟨some .n50, s⟩ ⟨.n50, a⟩ ⟨Stage.n50.next execution.route, execution.state⟩ := by
  obtain ⟨judged, hjudged, h⟩ := except_bind_ok h
  cases h
  exact .judged hjudged

theorem moved_admitted (h : handleA351 inputs s = .ok execution) :
    Moved inputs ⟨some .n51, s⟩ ⟨.n51, a⟩ ⟨Stage.n51.next execution.route, execution.state⟩ := by
  unfold handleA351 at h
  split at h
  · cases h
  · rename_i judgements hjudgements
    dsimp only at h
    split at h
    · rename_i hnone
      cases h
      exact .noFinding hjudgements hnone
    · rename_i hsome
      cases h
      exact .admitted hjudgements hsome

theorem moved_generated (h : handleA360 a s = .ok execution) :
    Moved inputs ⟨some .n60, s⟩ ⟨.n60, a⟩ ⟨Stage.n60.next execution.route, execution.state⟩ := by
  unfold handleA360 at h
  split at h
  · cases h
  · rename_i findings hfindings
    obtain ⟨carried, hcarried, h⟩ := except_bind_ok h
    obtain ⟨draftSets, hsealed, h⟩ := except_bind_ok h
    obtain ⟨hfree, rfl⟩ := sealUnder_ok hsealed
    cases h
    exact .generated hfindings hcarried hfree

theorem moved_worked {node : Stage} (h : handleDrafts inputs s node = .ok execution) :
    Moved inputs ⟨some node, s⟩ ⟨node, a⟩ ⟨node.next execution.route, execution.state⟩ := by
  unfold handleDrafts at h
  split at h
  · cases h
  · rename_i source work hwork
    obtain ⟨drafts, hdrafts, h⟩ := except_bind_ok h
    obtain ⟨updated, hupdated, h⟩ := except_bind_ok h
    obtain ⟨draftSets, hsealed, h⟩ := except_bind_ok h
    obtain ⟨hfree, rfl⟩ := sealUnder_ok hsealed
    cases h
    exact .worked hwork (requireSealed_ok hdrafts) hupdated hfree rfl

theorem moved_assembled (h : handleA380 inputs s = .ok execution) :
    Moved inputs ⟨some .n80, s⟩ ⟨.n80, a⟩ ⟨Stage.n80.next execution.route, execution.state⟩ := by
  obtain ⟨drafts, hdrafts, h⟩ := except_bind_ok h
  obtain ⟨strategies, hstrategies, h⟩ := except_bind_ok h
  obtain ⟨sets, hsealed, h⟩ := except_bind_ok h
  obtain ⟨hfree, rfl⟩ := sealUnder_ok hsealed
  cases h
  exact .assembled (requireSealed_ok hdrafts) hstrategies hfree

theorem moved_gated (h : handleA381 inputs s = .ok execution) :
    Moved inputs ⟨some .n81, s⟩ ⟨.n81, a⟩ ⟨Stage.n81.next execution.route, execution.state⟩ := by
  unfold handleA381 at h
  split at h
  · cases h
  · obtain ⟨strategies, hstrategies, h⟩ := except_bind_ok h
    obtain ⟨reports, hsealed, h⟩ := except_bind_ok h
    obtain ⟨_, rfl⟩ := sealUnder_ok hsealed
    cases h
    exact .gated (requireSealed_ok hstrategies)

theorem moved_revised (h : handleA382 inputs s = .ok execution) :
    Moved inputs ⟨some .n82, s⟩ ⟨.n82, a⟩ ⟨Stage.n82.next execution.route, execution.state⟩ := by
  obtain ⟨strategies, hstrategies, h⟩ := except_bind_ok h
  obtain ⟨report, _, h⟩ := except_bind_ok h
  obtain ⟨directives, hsealed, h⟩ := except_bind_ok h
  obtain ⟨_, rfl⟩ := sealUnder_ok hsealed
  cases h
  cases hstops : (decide (maxRevisionAttempts ≤ s.a3RevisionAttempts + 1) ||
    tokensExhausted inputs s || (targetedStrategyIds strategies).isEmpty) with
  | true =>
    simp only [if_true]
    exact .stopped
  | false =>
    simp only [Bool.or_eq_false_iff, decide_eq_false_iff_not, not_le, List.isEmpty_eq_false_iff]
      at hstops
    simp only [Bool.false_eq_true, if_false]
    exact .revised (requireSealed_ok hstrategies) hstops.1.1 hstops.2

theorem moved_portfolio (h : handleA390 s = .ok execution) :
    Moved inputs ⟨some .n90, s⟩ ⟨.n90, a⟩ ⟨Stage.n90.next execution.route, execution.state⟩ := by
  unfold handleA390 at h
  split at h
  · cases h
  · obtain ⟨strategies, hstrategies, h⟩ := except_bind_ok h
    obtain ⟨report, _, h⟩ := except_bind_ok h
    split at h
    · cases h
      exact .portfolio (requireSealed_ok hstrategies)
    · cases h

/-- A step is one of the moves. -/
theorem moved_of_step {c c' : A3Config} {visit : A3Visit} (h : A3Step inputs c visit c') :
    Moved inputs c visit c' := by
  obtain ⟨position, s⟩ := c
  obtain ⟨visited, a⟩ := visit
  unfold A3Step advance at h
  dsimp only at h
  cases position with
  | none => cases h
  | some node =>
    dsimp only at h
    split at h
    · cases h
    · rename_i execution hok
      cases h
      cases visited with
      | n50 => exact moved_judged hok
      | n51 => exact moved_admitted hok
      | n60 => exact moved_generated hok
      | n61 | n62 | n63 | n64 | n70 => exact moved_worked hok
      | n80 => exact moved_assembled hok
      | n81 => exact moved_gated hok
      | n82 => exact moved_revised hok
      | n90 => exact moved_portfolio hok

variable {c c' : A3Config} {visit : A3Visit}

theorem Moved.position (h : Moved inputs c visit c') : c.position = some visit.node := by
  cases h <;> rfl

/-- Draft sets change in two ways: the generator's, and what a node makes of the set of the
node before it. -/
theorem Moved.draftSets (h : Moved inputs c visit c') :
    c'.state.draftSets = c.state.draftSets ∨
      (visit.node = .n60 ∧ ∃ carried, carriedForward c.state = .ok carried ∧
        c'.state.draftSets = c.state.draftSets ++ [((.n60, c.state.a3RevisionAttempts),
          carried ++ generatedDrafts visit.answers)]) ∨
      ∃ source work drafts updated, draftWork inputs visit.node = some (source, work) ∧
        c.state.draftSets.lookup (source, c.state.a3RevisionAttempts) = some drafts ∧
        work drafts = .ok updated ∧ c'.state.draftSets = c.state.draftSets ++
          [((visit.node, c.state.a3RevisionAttempts), updated)] := by
  cases h with
  | generated _ hcarried _ => exact Or.inr (Or.inl ⟨rfl, _, hcarried, rfl⟩)
  | worked hwork hdrafts hupdated _ _ =>
    exact Or.inr (Or.inr ⟨_, _, _, _, hwork, hdrafts, hupdated, rfl⟩)
  | _ => exact Or.inl rfl

theorem Moved.strategySets (h : Moved inputs c visit c') :
    c'.state.strategySets = c.state.strategySets ∨
      ∃ drafts strategies,
        c.state.draftSets.lookup (.n70, c.state.a3RevisionAttempts) = some drafts ∧
        assembleStrategies inputs drafts = .ok strategies ∧
        c'.state.strategySets =
          c.state.strategySets ++ [(c.state.a3RevisionAttempts, strategies)] := by
  cases h with
  | assembled hdrafts hstrategies _ => exact Or.inr ⟨_, _, hdrafts, hstrategies, rfl⟩
  | _ => exact Or.inl rfl

/-- The counter moves with a directive, at `A3.82`; the run goes on only with targets. -/
theorem Moved.directives (h : Moved inputs c visit c') :
    (c'.state.a3RevisionAttempts = c.state.a3RevisionAttempts ∧
        c'.state.directives = c.state.directives) ∨
      ∃ directive : RevisionDirective,
        c'.state.a3RevisionAttempts = c.state.a3RevisionAttempts + 1 ∧
        directive.attemptNumber = c.state.a3RevisionAttempts + 1 ∧
        c'.state.directives =
          c.state.directives ++ [(c.state.a3RevisionAttempts, directive)] ∧
        (c'.position ≠ none → ∃ strategies,
          c.state.strategySets.lookup c.state.a3RevisionAttempts = some strategies ∧
          directive.targetedStrategyIds = targetedStrategyIds strategies ∧
          targetedStrategyIds strategies ≠ []) := by
  cases h with
  | stopped => exact Or.inr ⟨_, rfl, rfl, rfl, fun h => absurd rfl h⟩
  | revised hstrategies _ htargets =>
    exact Or.inr ⟨_, rfl, rfl, rfl, fun _ => ⟨_, hstrategies, rfl, htargets⟩⟩
  | _ => exact Or.inl ⟨rfl, rfl⟩

theorem Moved.keepsDrafts (h : Moved inputs c visit c') {key : Stage × Nat}
    {drafts : List StrategyDraft} (hdrafts : c.state.draftSets.lookup key = some drafts) :
    c'.state.draftSets.lookup key = some drafts := by
  rcases h.draftSets with heq | ⟨_, _, _, heq⟩ | ⟨_, _, _, _, _, _, _, heq⟩
  · rw [heq]
    exact hdrafts
  · rw [heq]
    exact lookup_append_of_lookup hdrafts
  · rw [heq]
    exact lookup_append_of_lookup hdrafts

theorem Moved.keepsStrategies (h : Moved inputs c visit c') {pass : Nat}
    {strategies : List SolutionStrategy}
    (hstrategies : c.state.strategySets.lookup pass = some strategies) :
    c'.state.strategySets.lookup pass = some strategies := by
  rcases h.strategySets with heq | ⟨_, _, _, _, heq⟩
  · rw [heq]
    exact hstrategies
  · rw [heq]
    exact lookup_append_of_lookup hstrategies

end Moves

/-! ### What a pass starts from -/

/-- The strategies that a pass starts with: none in the first one, then those of the pass
before that share no id with an ineligible one. -/
def CarriedOver (strategySets : List (Nat × List SolutionStrategy)) :
    Nat → List StrategyDraft → Prop
  | 0, carried => carried = []
  | pass + 1, carried => ∃ previous, strategySets.lookup pass = some previous ∧
      carried = (keptStrategies previous (targetedStrategyIds previous)).map solutionStrategyToDraft

theorem latestRevisionDirective_append (directives : List (Nat × RevisionDirective)) (pass : Nat)
    (directive : RevisionDirective)
    (h : ∀ latest, latestRevisionDirective directives = some latest →
      latest.attemptNumber < directive.attemptNumber) :
    latestRevisionDirective (directives ++ [(pass, directive)]) = some directive := by
  unfold latestRevisionDirective at h ⊢
  rw [List.foldl_append, List.foldl_cons, List.foldl_nil]
  split
  · rfl
  · rename_i latest hlatest
    rw [if_pos (h latest hlatest)]

/-- The drafts are what one visit of `A3.60` carried over and generated. -/
def GeneratedIn (tr : A3Trace) (strategySets : List (Nat × List SolutionStrategy)) (pass : Nat)
    (drafts : List StrategyDraft) : Prop :=
  ∃ t ∈ tr, t.label.node = .n60 ∧ t.before.state.a3RevisionAttempts = pass ∧
    ∃ carried, carriedForward t.before.state = .ok carried ∧ CarriedOver strategySets pass carried ∧
      drafts = carried ++ generatedDrafts t.label.answers

/-- The drafts are what a node made of the set of the node before it. -/
def WorkedFrom (draftSets : List ((Stage × Nat) × List StrategyDraft)) (source : Stage)
    (work : List StrategyDraft → Except A3Failure (List StrategyDraft)) (pass : Nat)
    (drafts : List StrategyDraft) : Prop :=
  ∃ before, draftSets.lookup (source, pass) = some before ∧ work before = .ok drafts

/-- The strategies are assembled from the drafts of `A3.70`. -/
def AssembledFrom (inputs : Inputs) (draftSets : List ((Stage × Nat) × List StrategyDraft))
    (pass : Nat) (strategies : List SolutionStrategy) : Prop :=
  ∃ drafts, draftSets.lookup (.n70, pass) = some drafts ∧
    assembleStrategies inputs drafts = .ok strategies

structure RoundInv (inputs : Inputs) (tr : A3Trace) (c : A3Config) : Prop where
  generated : ∀ pass drafts, c.state.draftSets.lookup (.n60, pass) = some drafts →
    GeneratedIn tr c.state.strategySets pass drafts
  worked : ∀ node source work pass drafts, draftWork inputs node = some (source, work) →
    c.state.draftSets.lookup (node, pass) = some drafts →
    WorkedFrom c.state.draftSets source work pass drafts
  assembled : ∀ pass strategies, c.state.strategySets.lookup pass = some strategies →
    AssembledFrom inputs c.state.draftSets pass strategies
  latest : ∀ directive, latestRevisionDirective c.state.directives = some directive →
    directive.attemptNumber ≤ c.state.a3RevisionAttempts
  revising : c.position ≠ none → ∀ pass, c.state.a3RevisionAttempts = pass + 1 →
    ∃ previous directive, c.state.strategySets.lookup pass = some previous ∧
      latestRevisionDirective c.state.directives = some directive ∧
      directive.targetedStrategyIds = targetedStrategyIds previous ∧
      targetedStrategyIds previous ≠ []
  portfolio : ∀ strategies, c.state.portfolio = some strategies →
    c.position = none ∧ c.state.strategySets.lookup c.state.a3RevisionAttempts = some strategies

section Step
variable {inputs : Inputs} {tr : A3Trace} {c c' : A3Config} {visit : A3Visit}

theorem CarriedOver.step (h : Moved inputs c visit c') {pass : Nat} {carried : List StrategyDraft}
    (hcarried : CarriedOver c.state.strategySets pass carried) :
    CarriedOver c'.state.strategySets pass carried := by
  cases pass with
  | zero => exact hcarried
  | succ pass =>
    obtain ⟨previous, hprevious, heq⟩ := hcarried
    exact ⟨previous, h.keepsStrategies hprevious, heq⟩

theorem carriedOver_of_carriedForward (hinv : RoundInv inputs tr c) (hpos : c.position ≠ none)
    {carried : List StrategyDraft} (h : carriedForward c.state = .ok carried) :
    CarriedOver c.state.strategySets c.state.a3RevisionAttempts carried := by
  cases hpass : c.state.a3RevisionAttempts with
  | zero =>
    unfold carriedForward at h
    split at h
    · cases h
      rfl
    · rw [hpass, if_neg (fun hand => Nat.lt_irrefl 0 hand.1)] at h
      cases h
      rfl
  | succ pass =>
    obtain ⟨previous, directive, hprevious, hlatest, htargets, hsome⟩ :=
      hinv.revising hpos pass hpass
    unfold carriedForward at h
    rw [hlatest] at h
    dsimp only at h
    rw [hpass, if_pos ⟨Nat.succ_pos pass, htargets ▸ hsome⟩, Nat.add_sub_cancel] at h
    obtain ⟨read, hread, h⟩ := except_bind_ok h
    cases h
    cases (requireSealed_ok hread).symm.trans hprevious
    exact ⟨previous, hprevious, by rw [htargets]⟩

theorem GeneratedIn.step (h : Moved inputs c visit c') {pass : Nat} {drafts : List StrategyDraft}
    (hgenerated : GeneratedIn tr c.state.strategySets pass drafts) :
    GeneratedIn (⟨c, visit, c'⟩ :: tr) c'.state.strategySets pass drafts := by
  obtain ⟨t, ht, hnode, hpass, carried, hcarried, hover, heq⟩ := hgenerated
  exact ⟨t, List.mem_cons_of_mem _ ht, hnode, hpass, carried, hcarried, hover.step h, heq⟩

theorem generated_step (hinv : RoundInv inputs tr c) (h : Moved inputs c visit c') {pass : Nat}
    {drafts : List StrategyDraft}
    (hdrafts : c'.state.draftSets.lookup (.n60, pass) = some drafts) :
    GeneratedIn (⟨c, visit, c'⟩ :: tr) c'.state.strategySets pass drafts := by
  rcases h.draftSets with heq | ⟨hnode, carried, hcarried, heq⟩ |
      ⟨source, work, before, updated, hwork, _, _, heq⟩
  · rw [heq] at hdrafts
    exact (hinv.generated pass drafts hdrafts).step h
  · rw [heq] at hdrafts
    rcases lookup_append_cases hdrafts with hlookup | ⟨hkey, hvalue⟩
    · exact (hinv.generated pass drafts hlookup).step h
    · cases hkey
      have hpos : c.position ≠ none := by
        rw [h.position]
        exact Option.some_ne_none _
      exact ⟨⟨c, visit, c'⟩, List.mem_cons_self, hnode, rfl, carried, hcarried,
        (carriedOver_of_carriedForward hinv hpos hcarried).step h, hvalue⟩
  · rw [heq] at hdrafts
    rcases lookup_append_cases hdrafts with hlookup | ⟨hkey, _⟩
    · exact (hinv.generated pass drafts hlookup).step h
    · obtain ⟨hnode, _⟩ := Prod.mk.inj hkey
      rw [← hnode] at hwork
      cases hwork

theorem worked_step (hinv : RoundInv inputs tr c) (h : Moved inputs c visit c')
    {node source : Stage} {work : List StrategyDraft → Except A3Failure (List StrategyDraft)}
    {pass : Nat} {drafts : List StrategyDraft} (hwork : draftWork inputs node = some (source, work))
    (hdrafts : c'.state.draftSets.lookup (node, pass) = some drafts) :
    WorkedFrom c'.state.draftSets source work pass drafts := by
  have hold (hlookup : c.state.draftSets.lookup (node, pass) = some drafts) :
      WorkedFrom c'.state.draftSets source work pass drafts := by
    obtain ⟨before, hbefore, hupdated⟩ := hinv.worked node source work pass drafts hwork hlookup
    exact ⟨before, h.keepsDrafts hbefore, hupdated⟩
  rcases h.draftSets with heq | ⟨_, _, _, heq⟩ |
      ⟨source', work', before, updated, hwork', hbefore, hupdated, heq⟩
  · rw [heq] at hdrafts
    exact hold hdrafts
  · rw [heq] at hdrafts
    rcases lookup_append_cases hdrafts with hlookup | ⟨hkey, _⟩
    · exact hold hlookup
    · cases hkey
      cases hwork
  · rw [heq] at hdrafts
    rcases lookup_append_cases hdrafts with hlookup | ⟨hkey, hvalue⟩
    · exact hold hlookup
    · cases hkey
      cases hwork.symm.trans hwork'
      exact ⟨before, h.keepsDrafts hbefore, hvalue ▸ hupdated⟩

theorem assembled_step (hinv : RoundInv inputs tr c) (h : Moved inputs c visit c') {pass : Nat}
    {strategies : List SolutionStrategy}
    (hstrategies : c'.state.strategySets.lookup pass = some strategies) :
    AssembledFrom inputs c'.state.draftSets pass strategies := by
  have hold (hlookup : c.state.strategySets.lookup pass = some strategies) :
      AssembledFrom inputs c'.state.draftSets pass strategies := by
    obtain ⟨drafts, hdrafts, hassembled⟩ := hinv.assembled pass strategies hlookup
    exact ⟨drafts, h.keepsDrafts hdrafts, hassembled⟩
  rcases h.strategySets with heq | ⟨drafts, new, hdrafts, hassembled, heq⟩
  · rw [heq] at hstrategies
    exact hold hstrategies
  · rw [heq] at hstrategies
    rcases lookup_append_cases hstrategies with hlookup | ⟨rfl, rfl⟩
    · exact hold hlookup
    · exact ⟨drafts, h.keepsDrafts hdrafts, hassembled⟩

theorem latest_append (hinv : RoundInv inputs tr c) {directive : RevisionDirective}
    (hnumber : directive.attemptNumber = c.state.a3RevisionAttempts + 1) :
    latestRevisionDirective
      (c.state.directives ++ [(c.state.a3RevisionAttempts, directive)]) = some directive := by
  refine latestRevisionDirective_append _ _ _ fun latest hlatest => ?_
  rw [hnumber]
  exact Nat.lt_succ_of_le (hinv.latest latest hlatest)

theorem latest_step (hinv : RoundInv inputs tr c) (h : Moved inputs c visit c')
    {directive : RevisionDirective}
    (hdirective : latestRevisionDirective c'.state.directives = some directive) :
    directive.attemptNumber ≤ c'.state.a3RevisionAttempts := by
  rcases h.directives with ⟨hattempts, heq⟩ | ⟨new, hattempts, hnumber, heq, _⟩
  · rw [heq] at hdirective
    rw [hattempts]
    exact hinv.latest directive hdirective
  · rw [heq, latest_append hinv hnumber] at hdirective
    cases hdirective
    rw [hattempts, hnumber]

theorem revising_step (hinv : RoundInv inputs tr c) (h : Moved inputs c visit c')
    (hpos : c'.position ≠ none) {pass : Nat} (hpass : c'.state.a3RevisionAttempts = pass + 1) :
    ∃ previous directive, c'.state.strategySets.lookup pass = some previous ∧
      latestRevisionDirective c'.state.directives = some directive ∧
      directive.targetedStrategyIds = targetedStrategyIds previous ∧
      targetedStrategyIds previous ≠ [] := by
  rcases h.directives with ⟨hattempts, heq⟩ | ⟨new, hattempts, hnumber, heq, hgoes⟩
  · have hbefore : c.position ≠ none := by
      rw [h.position]
      exact Option.some_ne_none _
    obtain ⟨previous, directive, hprevious, hlatest, htargets⟩ :=
      hinv.revising hbefore pass (hattempts ▸ hpass)
    exact ⟨previous, directive, h.keepsStrategies hprevious, heq ▸ hlatest, htargets⟩
  · obtain ⟨strategies, hstrategies, htargets, hsome⟩ := hgoes hpos
    obtain rfl : c.state.a3RevisionAttempts = pass := by omega
    refine ⟨strategies, new, h.keepsStrategies hstrategies, ?_, htargets, hsome⟩
    rw [heq]
    exact latest_append hinv hnumber

/-- The portfolio is sealed by the last step of a run. -/
theorem portfolio_step (hinv : RoundInv inputs tr c) (h : Moved inputs c visit c')
    {strategies : List SolutionStrategy} (hportfolio : c'.state.portfolio = some strategies) :
    c'.position = none ∧
      c'.state.strategySets.lookup c'.state.a3RevisionAttempts = some strategies := by
  have hbefore : c.state.portfolio = none := by
    cases hold : c.state.portfolio with
    | none => rfl
    | some sealedBefore =>
      obtain ⟨hnone, _⟩ := hinv.portfolio sealedBefore hold
      cases h.position.symm.trans hnone
  cases h with
  | portfolio hstrategies =>
    cases hportfolio
    exact ⟨rfl, hstrategies⟩
  | _ => cases hbefore.symm.trans hportfolio

theorem RoundInv.step (hinv : RoundInv inputs tr c) (h : Moved inputs c visit c') :
    RoundInv inputs (⟨c, visit, c'⟩ :: tr) c' where
  generated _ _ := generated_step hinv h
  worked _ _ _ _ _ := worked_step hinv h
  assembled _ _ := assembled_step hinv h
  latest _ := latest_step hinv h
  revising hpos _ := revising_step hinv h hpos
  portfolio _ := portfolio_step hinv h

theorem roundInv_start (inputs : Inputs) (tokens : Nat) :
    RoundInv inputs [] (startConfig tokens) where
  generated _ _ h := by cases h
  worked _ _ _ _ _ _ h := by cases h
  assembled _ _ h := by cases h
  latest _ h := by cases h
  revising _ _ h := by cases h
  portfolio _ h := by cases h

theorem roundInv_of_run {tokens : Nat} (h : Run (A3Step inputs) (startConfig tokens) tr c) :
    RoundInv inputs tr c :=
  h.history_invariant (I := RoundInv inputs) (roundInv_start inputs tokens)
    fun _ _ _ _ _ hinv hstep => hinv.step (moved_of_step hstep)

end Step

/-! ### Whole passes -/

section Passes
variable {inputs : Inputs} {tr : A3Trace} {c : A3Config}

/-- A sealed strategy set is the drafts of its pass, finished. -/
theorem RoundInv.finished (hinv : RoundInv inputs tr c) {pass : Nat}
    {strategies : List SolutionStrategy}
    (h : c.state.strategySets.lookup pass = some strategies) :
    ∃ drafts, c.state.draftSets.lookup (.n60, pass) = some drafts ∧
      Finished inputs [] drafts strategies := by
  obtain ⟨d70, h70, hassembled⟩ := hinv.assembled pass strategies h
  obtain ⟨d64, h64, hresolved⟩ := hinv.worked .n70 .n64 _ pass d70 rfl h70
  obtain ⟨d63, h63, hbound⟩ := hinv.worked .n64 .n63 _ pass d64 rfl h64
  obtain ⟨d62, h62, hcaptured⟩ := hinv.worked .n63 .n62 _ pass d63 rfl h63
  obtain ⟨d61, h61, hassessed⟩ := hinv.worked .n62 .n61 _ pass d62 rfl h62
  obtain ⟨d60, h60, hordered⟩ := hinv.worked .n61 .n60 _ pass d61 rfl h61
  cases hordered
  cases hassessed
  cases hcaptured
  cases hbound
  refine ⟨d60, h60, (finishAll_ok_iff inputs).mp ?_⟩
  dsimp only at hresolved
  dsimp only [finishAll]
  rw [hresolved]
  exact hassembled

theorem eligible_of_not_targeted {strategies : List SolutionStrategy} {strategy : SolutionStrategy}
    (hmem : strategy ∈ strategies)
    (hkept : (!(targetedStrategyIds strategies).contains strategy.strategyId) = true) :
    strategy.eligible = true := by
  cases heligible : strategy.eligible with
  | true => rfl
  | false =>
    have htargeted : strategy.strategyId ∈ targetedStrategyIds strategies :=
      List.mem_map_of_mem (List.mem_filter.mpr ⟨hmem, by rw [heligible]; rfl⟩)
    rw [List.contains_iff_mem.mpr htargeted] at hkept
    cases hkept

/-- The set of a revision is what it kept of the set before, then what was generated. -/
theorem RoundInv.kept (hinv : RoundInv inputs tr c) {pass : Nat}
    {previous next : List SolutionStrategy}
    (hprevious : c.state.strategySets.lookup pass = some previous)
    (hnext : c.state.strategySets.lookup (pass + 1) = some next) :
    ∃ t ∈ tr, t.label.node = .n60 ∧ t.before.state.a3RevisionAttempts = pass + 1 ∧
      ∃ fresh, next = keptStrategies previous (targetedStrategyIds previous) ++ fresh ∧
        fresh.map (·.toStrategyFields) =
          (generatedDrafts t.label.answers).map (·.toStrategyFields) := by
  obtain ⟨before, _, hbefore⟩ := hinv.finished hprevious
  obtain ⟨drafts, hdrafts, hfinished⟩ := hinv.finished hnext
  obtain ⟨t, ht, hnode, hpass, carried, _, ⟨previous', hprevious', rfl⟩, rfl⟩ :=
    hinv.generated (pass + 1) drafts hdrafts
  cases hprevious'.symm.trans hprevious
  exact ⟨t, ht, hnode, hpass,
    hbefore.kept_append (fun strategy hmem => eligible_of_not_targeted hmem) hfinished⟩

theorem Finished.settled {seen : List (String × String)} {drafts : List StrategyDraft}
    {strategies : List SolutionStrategy} (h : Finished inputs seen drafts strategies) :
    ∀ strategy ∈ strategies, strategy.eligible = true → Settled inputs strategy := by
  induction h with
  | nil => exact fun _ h => absurd h List.not_mem_nil
  | cons hok _ ih =>
    intro strategy hmem heligible
    rcases List.mem_cons.mp hmem with rfl | hmem
    · exact (settled_of_finish hok heligible).1
    · exact ih strategy hmem heligible

end Passes

/-! ### The number of passes -/

section Rounds
variable {inputs : Inputs} {tr : A3Trace} {c c' : A3Config} {visit : A3Visit}

def rounds (tr : A3Trace) : Nat := tr.countP fun t => t.label.node == .n60

/-- How the visits of `A3.60` and the counter of `A3.82` go together at each node. -/
def Counted (tr : A3Trace) (c : A3Config) : Prop :=
  match c.position with
  | some .n50 | some .n51 => rounds tr = 0 ∧ c.state.a3RevisionAttempts = 0
  | some .n60 =>
    rounds tr = c.state.a3RevisionAttempts ∧ c.state.a3RevisionAttempts < maxRevisionAttempts
  | some _ =>
    rounds tr = c.state.a3RevisionAttempts + 1 ∧ c.state.a3RevisionAttempts < maxRevisionAttempts
  | none => rounds tr ≤ maxRevisionAttempts

theorem rounds_cons (tr : A3Trace) (c c' : A3Config) (visit : A3Visit) :
    rounds (⟨c, visit, c'⟩ :: tr) = rounds tr + if visit.node = .n60 then 1 else 0 := by
  unfold rounds
  rw [List.countP_cons]
  simp

theorem Counted.rounds_le (h : Counted tr c) : rounds tr ≤ maxRevisionAttempts := by
  unfold Counted at h
  split at h
  · exact h.1 ▸ Nat.zero_le _
  · exact h.1 ▸ Nat.zero_le _
  · exact h.1 ▸ h.2.le
  · exact h.1 ▸ h.2
  · exact h

theorem Counted.step (hcounted : Counted tr c) (h : Moved inputs c visit c') :
    Counted (⟨c, visit, c'⟩ :: tr) c' := by
  have hle := hcounted.rounds_le
  unfold Counted at hcounted ⊢
  rw [rounds_cons]
  cases h with
  | judged _ => exact hcounted
  | noFinding _ _ => exact hle
  | admitted _ _ => exact ⟨hcounted.1.trans hcounted.2.symm, hcounted.2 ▸ Nat.zero_lt_succ _⟩
  | generated _ _ _ => exact ⟨congrArg (· + 1) hcounted.1, hcounted.2⟩
  | @worked _ _ node _ _ _ _ _ hwork _ _ _ hnext =>
    subst hnext
    cases node with
    | n61 | n62 | n63 | n64 | n70 => exact hcounted
    | _ => cases hwork
  | assembled _ _ _ => exact hcounted
  | @gated _ _ _ _ route _ =>
    cases route with
    | continue_ | revision => exact hcounted
    | _ => exact hle
  | stopped => exact hle
  | revised _ hlt _ => exact ⟨hcounted.1, hlt⟩
  | portfolio _ => exact hle

theorem counted_of_run {tokens : Nat} (h : Run (A3Step inputs) (startConfig tokens) tr c) :
    Counted tr c := by
  have hstart : Counted [] (startConfig tokens) := ⟨rfl, rfl⟩
  exact h.history_invariant (I := Counted) hstart
    fun _ _ _ _ _ hcounted hstep => hcounted.step (moved_of_step hstep)

end Rounds

end ProductionOptimizer.A3
