import ProductionOptimizer.KeptStrategies

/-!
# What a rejection by the judge keeps out

`A3.51` admits a draft when it has a judgement and resolved citations, whatever the verdict is,
and no later node looks at the findings a strategy cites. A rejected finding stays out of the
finding set and of the portfolio as long as its citations do not resolve and the generator does
not cite it.
-/

namespace ProductionOptimizer.A3
open Runs
set_option autoImplicit false

def rejectedIds (judgements : List FindingJudgement) : List String :=
  (judgements.filter (·.verdict == .reject)).map (·.findingId)

/-- The findings that the judge of this run rejected. -/
def rejectedIn (s : A3State) : List String := rejectedIds (s.judgements.getD [])

/-- The citations of a draft do not resolve, or there is no report on them. -/
def Unresolved (inputs : Inputs) (findingId : String) : Prop :=
  (lastWhere inputs.citationReports (·.findingId == findingId)).all (!·.allResolved) = true

section Admission
variable {inputs : Inputs} {judgements : List FindingJudgement}

theorem judgement_of_rejected {findingId : String} (h : findingId ∈ rejectedIds judgements) :
    ∃ judgement, lastWhere judgements (·.findingId == findingId) = some judgement := by
  obtain ⟨judgement, hmem, hid⟩ := List.mem_map.mp h
  have hsome : (lastWhere judgements (·.findingId == findingId)).isSome := by
    rw [lastWhere, List.find?_isSome]
    exact ⟨judgement, List.mem_reverse.mpr (List.mem_filter.mp hmem).1, beq_iff_eq.mpr hid⟩
  exact Option.isSome_iff_exists.mp hsome

theorem admitFinding_some {draft : FindingDraft} {finding : Finding}
    (h : admitFinding inputs judgements draft = some finding) :
    finding.findingId = draft.findingId ∧ ¬ Unresolved inputs draft.findingId := by
  unfold admitFinding at h
  split at h
  · rename_i judgement citation _ hcitation
    split at h
    · rename_i hresolved
      cases h
      refine ⟨rfl, fun hunresolved => ?_⟩
      rw [Unresolved, hcitation, Option.all_some, hresolved] at hunresolved
      cases hunresolved
    · cases h
  · cases h

theorem admitFinding_of_judged {draft : FindingDraft} {judgement : FindingJudgement}
    (hjudgement : lastWhere judgements (·.findingId == draft.findingId) = some judgement)
    (hresolved : ¬ Unresolved inputs draft.findingId) :
    ∃ finding, admitFinding inputs judgements draft = some finding ∧
      finding.findingId = draft.findingId := by
  have hcited : ∃ citation, lastWhere inputs.citationReports (·.findingId == draft.findingId) =
      some citation ∧ citation.allResolved = true := by
    unfold Unresolved at hresolved
    cases hcitation : lastWhere inputs.citationReports (·.findingId == draft.findingId) with
    | none =>
      rw [hcitation] at hresolved
      exact absurd rfl hresolved
    | some citation =>
      refine ⟨citation, rfl, ?_⟩
      simpa [hcitation] using hresolved
  obtain ⟨citation, hcitation, hall⟩ := hcited
  unfold admitFinding
  rw [hjudgement, hcitation]
  dsimp only
  rw [if_pos hall]
  exact ⟨_, rfl, rfl⟩

/-- No rejected draft is admitted exactly when the citations of the rejected ones fail. -/
theorem no_rejected_finding_iff :
    (∀ finding ∈ inputs.drafts.filterMap (admitFinding inputs judgements),
        finding.findingId ∉ rejectedIds judgements) ↔
      ∀ draft ∈ inputs.drafts, draft.findingId ∈ rejectedIds judgements →
        Unresolved inputs draft.findingId := by
  constructor
  · intro h draft hdraft hrejected
    by_contra hresolved
    obtain ⟨judgement, hjudgement⟩ := judgement_of_rejected hrejected
    obtain ⟨finding, hadmitted, hid⟩ := admitFinding_of_judged hjudgement hresolved
    exact h finding (List.mem_filterMap.mpr ⟨draft, hdraft, hadmitted⟩) (hid ▸ hrejected)
  · intro h finding hfinding hrejected
    obtain ⟨draft, hdraft, hadmitted⟩ := List.mem_filterMap.mp hfinding
    obtain ⟨hid, hresolved⟩ := admitFinding_some hadmitted
    exact hresolved (h draft hdraft (hid ▸ hrejected))

end Admission

/-- What a rejection means for a reached state: the finding is in no finding set, and no
eligible strategy of the portfolio cites it. -/
structure Honoured (c : A3Config) : Prop where
  findings : ∀ findings, c.state.findings = some findings →
    ∀ finding ∈ findings, finding.findingId ∉ rejectedIn c.state
  portfolio : ∀ strategies, c.state.portfolio = some strategies →
    ∀ strategy ∈ strategies, strategy.eligible = true →
      ∀ findingId ∈ strategy.findingIds, findingId ∉ rejectedIn c.state

/-- A step that does not reach the gap: at `A3.51` the citations of every rejected draft fail,
at `A3.60` no accepted draft cites a rejected finding. -/
def MindsVerdicts (inputs : Inputs) (t : Transition A3Config A3Visit) : Prop :=
  (t.label.node = .n51 → ∀ draft ∈ inputs.drafts,
    draft.findingId ∈ rejectedIn t.before.state → Unresolved inputs draft.findingId) ∧
  (t.label.node = .n60 → ∀ draft ∈ generatedDrafts t.label.answers,
    ∀ findingId ∈ draft.findingIds, findingId ∉ rejectedIn t.before.state)

structure VerdictInv (tokens : Nat) (c : A3Config) : Prop where
  start : c.position = some .n50 → c = startConfig tokens
  findings : ∀ findings, c.state.findings = some findings →
    ∀ finding ∈ findings, finding.findingId ∉ rejectedIn c.state
  drafts : ∀ pass drafts, c.state.draftSets.lookup (.n60, pass) = some drafts →
    ∀ draft ∈ drafts, ∀ findingId ∈ draft.findingIds, findingId ∉ rejectedIn c.state

section Step
variable {inputs : Inputs} {tokens : Nat} {tr : A3Trace} {c c' : A3Config} {visit : A3Visit}

theorem next_ne_n50 (node : Stage) (route : NodeRoute) : node.next route ≠ some .n50 := by
  cases node <;> cases route <;> decide

theorem Moved.leaves (h : Moved inputs c visit c') : c'.position ≠ some .n50 := by
  intro hpos
  cases h with
  | worked _ _ _ _ hnext => exact next_ne_n50 _ _ (hnext ▸ hpos)
  | gated _ => exact next_ne_n50 _ _ hpos
  | _ => cases hpos

theorem Moved.judgements (h : Moved inputs c visit c') (hnode : visit.node ≠ .n50) :
    c'.state.judgements = c.state.judgements := by
  cases h with
  | judged _ => exact absurd rfl hnode
  | _ => rfl

/-- The strategies of a pass cite what its drafts cite. -/
theorem strategies_cite (hround : RoundInv inputs tr c) (hinv : VerdictInv tokens c) {pass : Nat}
    {strategies : List SolutionStrategy}
    (h : c.state.strategySets.lookup pass = some strategies) :
    ∀ strategy ∈ strategies, ∀ findingId ∈ strategy.findingIds,
      findingId ∉ rejectedIn c.state := by
  obtain ⟨drafts, hdrafts, hfinished⟩ := hround.finished h
  intro strategy hmem
  have hcites : strategy.findingIds ∈ drafts.map (·.findingIds) := by
    rw [← map_of_fields (·.findingIds) hfinished.fields]
    exact List.mem_map_of_mem hmem
  obtain ⟨draft, hdraft, heq⟩ := List.mem_map.mp hcites
  rw [← heq]
  exact hinv.drafts pass drafts hdrafts draft hdraft

theorem findings_step (hinv : VerdictInv tokens c) (h : Moved inputs c visit c')
    (hminds : MindsVerdicts inputs ⟨c, visit, c'⟩) (hnode : visit.node ≠ .n50)
    {findings : List Finding} (hfindings : c'.state.findings = some findings) :
    ∀ finding ∈ findings, finding.findingId ∉ rejectedIn c'.state := by
  have hsame : rejectedIn c'.state = rejectedIn c.state := by
    rw [rejectedIn, h.judgements hnode, rejectedIn]
  rw [hsame]
  cases h with
  | judged _ => exact absurd rfl hnode
  | admitted hjudgements _ =>
    cases hfindings
    have hrejected := hminds.1 rfl
    simp only [rejectedIn, hjudgements, Option.getD_some] at hrejected ⊢
    exact no_rejected_finding_iff.mpr hrejected
  | _ => exact hinv.findings findings hfindings

theorem drafts_step (hround : RoundInv inputs tr c) (hinv : VerdictInv tokens c)
    (h : Moved inputs c visit c') (hminds : MindsVerdicts inputs ⟨c, visit, c'⟩)
    (hnode : visit.node ≠ .n50) {pass : Nat} {drafts : List StrategyDraft}
    (hdrafts : c'.state.draftSets.lookup (.n60, pass) = some drafts) :
    ∀ draft ∈ drafts, ∀ findingId ∈ draft.findingIds, findingId ∉ rejectedIn c'.state := by
  have hsame : rejectedIn c'.state = rejectedIn c.state := by
    rw [rejectedIn, h.judgements hnode, rejectedIn]
  rw [hsame]
  rcases h.draftSets with heq | ⟨h60, carried, hcarried, heq⟩ |
      ⟨source, work, before, updated, hwork, _, _, heq⟩
  · rw [heq] at hdrafts
    exact hinv.drafts pass drafts hdrafts
  · rw [heq] at hdrafts
    rcases lookup_append_cases hdrafts with hlookup | ⟨_, rfl⟩
    · exact hinv.drafts pass drafts hlookup
    · intro draft hdraft
      rcases List.mem_append.mp hdraft with hdraft | hdraft
      · -- a carried draft is a strategy of the pass before
        have hpos : c.position ≠ none := by
          rw [h.position]
          exact Option.some_ne_none _
        have hover := carriedOver_of_carriedForward hround hpos hcarried
        cases hpass : c.state.a3RevisionAttempts with
        | zero =>
          rw [hpass] at hover
          rw [hover] at hdraft
          cases hdraft
        | succ before =>
          rw [hpass] at hover
          obtain ⟨previous, hprevious, rfl⟩ := hover
          obtain ⟨strategy, hkept, rfl⟩ := List.mem_map.mp hdraft
          exact strategies_cite hround hinv hprevious strategy (List.mem_filter.mp hkept).1
      · exact hminds.2 h60 draft hdraft
  · rw [heq] at hdrafts
    rcases lookup_append_cases hdrafts with hlookup | ⟨hkey, _⟩
    · exact hinv.drafts pass drafts hlookup
    · rw [← (Prod.mk.inj hkey).1] at hwork
      cases hwork

theorem VerdictInv.step (hround : RoundInv inputs tr c) (hinv : VerdictInv tokens c)
    (h : Moved inputs c visit c') (hminds : MindsVerdicts inputs ⟨c, visit, c'⟩) :
    VerdictInv tokens c' := by
  by_cases hnode : visit.node = .n50
  · -- the judge runs first, when there is no finding and no draft yet
    have hstart := hinv.start (hnode ▸ h.position)
    refine ⟨fun hpos => absurd hpos h.leaves, ?_, ?_⟩
    · intro findings hfindings
      subst hstart
      cases h with
      | judged _ => cases hfindings
      | worked hwork _ _ _ _ => cases hwork
    · intro pass drafts hdrafts
      subst hstart
      cases h with
      | judged _ => cases hdrafts
      | worked hwork _ _ _ _ => cases hwork
  · exact ⟨fun hpos => absurd hpos h.leaves, fun _ => findings_step hinv h hminds hnode,
      fun _ _ => drafts_step hround hinv h hminds hnode⟩

theorem verdictInv_of_run (h : Run (A3Step inputs) (startConfig tokens) tr c)
    (hminds : ∀ t ∈ tr, MindsVerdicts inputs t) : VerdictInv tokens c := by
  induction h with
  | nil => exact ⟨fun _ => rfl, fun _ h => (by cases h), fun _ _ h => (by cases h)⟩
  | snoc hrun hstep ih =>
    exact (ih fun t ht => hminds t (List.mem_cons_of_mem _ ht)).step (roundInv_of_run hrun)
      (moved_of_step hstep) (hminds _ List.mem_cons_self)

/-- In a run whose steps mind the verdicts, every rejection is honoured, and `A3.51` ends the
run where every draft was rejected. -/
theorem rejection_honoured (hrun : Run (A3Step inputs) (startConfig tokens) tr c)
    (hminds : ∀ t ∈ tr, MindsVerdicts inputs t) :
    Honoured c ∧ ∀ t ∈ tr, t.label.node = .n51 →
      (∀ draft ∈ inputs.drafts, draft.findingId ∈ rejectedIn t.before.state) →
      t.after.position = none := by
  have hinv := verdictInv_of_run hrun hminds
  refine ⟨⟨hinv.findings, fun strategies hportfolio strategy hmem _ => ?_⟩, ?_⟩
  · have hround := roundInv_of_run hrun
    exact strategies_cite hround hinv (hround.portfolio strategies hportfolio).2 strategy hmem
  · rintro ⟨before, visit, after⟩ ht hnode hrejected
    obtain ⟨_, _, hstep⟩ := hrun.step_of_mem ht
    have hunresolved := (hminds _ ht).1 hnode
    cases moved_of_step hstep with
    | noFinding _ _ => rfl
    | admitted hjudgements hsome =>
      refine absurd (List.filterMap_eq_nil_iff.mpr fun draft hdraft => ?_) hsome
      cases hadmitted : admitFinding inputs _ draft with
      | none => rfl
      | some finding =>
        exact absurd (hunresolved draft hdraft (hrejected draft hdraft))
          (admitFinding_some hadmitted).2
    | worked hwork _ _ _ _ =>
      cases hnode
      cases hwork
    | _ => cases hnode

end Step

/-! ### Sample runs -/

instance (inputs : Inputs) (findingId : String) : Decidable (Unresolved inputs findingId) :=
  inferInstanceAs (Decidable (_ = true))

instance (inputs : Inputs) (t : Transition A3Config A3Visit) : Decidable (MindsVerdicts inputs t) :=
  inferInstanceAs (Decidable ((t.label.node = .n51 → ∀ draft ∈ inputs.drafts,
      draft.findingId ∈ rejectedIn t.before.state → Unresolved inputs draft.findingId) ∧
    (t.label.node = .n60 → ∀ draft ∈ generatedDrafts t.label.answers,
      ∀ findingId ∈ draft.findingIds, findingId ∉ rejectedIn t.before.state)))

/-- A second draft, whose only citation is out of scope. -/
def doubtfulInputs : Inputs :=
  { sampleInputs with
    drafts := sampleInputs.drafts ++
      [{ findingId := "f2", problemSignalIds := ["signal-unit-ok"], claimType := .hypothesis
         symptom := "tests fail", causalClaim := "wrong locale"
         supportingEvidenceIds := ["ev-1"], confidence := 1 / 5 }]
    citationReports := sampleInputs.citationReports ++
      [⟨"report-2", "f2", [⟨"ev-1", true, false, true, none⟩]⟩] }

/-- The judge accepts the first draft and rejects the second. -/
def dividedJudge : A3Answers :=
  { judge := fun i => .verdict (if i = 0 then .accept else .reject) ["checked"] 5 }

def dividedAnswers : List A3Answers :=
  [dividedJudge, {}] ++ passAnswers [{ named := some (sampleFields "s1" "small patch") }]

theorem dividedAnswers_honoured : ∃ tr c, Run (A3Step doubtfulInputs) (startConfig 0) tr c ∧
    rejectedIn c.state = ["f2"] ∧ c.state.portfolio.isSome ∧ Honoured c := by
  obtain ⟨tr, c, hrun, hcheck⟩ := exists_a3Run doubtfulInputs dividedAnswers
    (fun out => decide (rejectedIn out.2.state = ["f2"]) && out.2.state.portfolio.isSome &&
      out.1.all fun t => decide (MindsVerdicts doubtfulInputs t)) (by decide +kernel)
  simp only [Bool.and_eq_true, decide_eq_true_eq, List.all_eq_true] at hcheck
  obtain ⟨⟨hrejected, hportfolio⟩, hminds⟩ := hcheck
  exact ⟨tr, c, hrun, hrejected, hportfolio, (rejection_honoured hrun hminds).1⟩

/-- The judge rejects the only draft, whose citations resolve. -/
def overruledAnswers : List A3Answers :=
  [judging .reject, {}] ++ passAnswers [{ named := some (sampleFields "s1" "small patch") }]

def citesRejected (s : A3State) : Bool :=
  s.portfolio.any fun strategies => strategies.any fun strategy =>
    strategy.eligible && strategy.findingIds.any fun id => (rejectedIn s).contains id

/-- Every draft is rejected, and yet `A3.51` goes on and a strategy that cites the finding is
sealed as eligible. -/
theorem rejected_finding_sealed : ∃ tr c, Run (A3Step sampleInputs) (startConfig 0) tr c ∧
    (∀ draft ∈ sampleInputs.drafts, draft.findingId ∈ rejectedIn c.state) ∧
    c.state.findings.isSome ∧ ¬ Honoured c := by
  obtain ⟨tr, c, hrun, hcheck⟩ := exists_a3Run sampleInputs overruledAnswers
    (fun out => decide (∀ draft ∈ sampleInputs.drafts,
      draft.findingId ∈ rejectedIn out.2.state) && out.2.state.findings.isSome &&
      citesRejected out.2.state) (by decide +kernel)
  simp only [Bool.and_eq_true, decide_eq_true_eq] at hcheck
  obtain ⟨⟨hall, hfindings⟩, hcites⟩ := hcheck
  refine ⟨tr, c, hrun, hall, hfindings, fun hhonoured => ?_⟩
  obtain ⟨strategies, hportfolio, hany⟩ := (Option.any_eq_true ..).mp hcites
  obtain ⟨strategy, hmem, hstrategy⟩ := List.any_eq_true.mp hany
  obtain ⟨heligible, hids⟩ := Bool.and_eq_true_iff.mp hstrategy
  obtain ⟨id, hid, hrejected⟩ := List.any_eq_true.mp hids
  exact hhonoured.portfolio strategies hportfolio strategy hmem heligible id hid
    (List.contains_iff_mem.mp hrejected)

end ProductionOptimizer.A3
