import ProductionOptimizer.StrategyRuns

/-!
# What revisions keep, and what an id stands for

A revision keeps the strategies that were accepted, as they were and in front of the new ones,
and there are at most as many passes as A3 allows. Ids are taken from the generator as they
come: a portfolio has distinct ones exactly when its last pass started with distinct ones.
-/

namespace ProductionOptimizer.A3
open Runs
set_option autoImplicit false

section Kept
variable {inputs : Inputs} {tokens : Nat} {tr : A3Trace} {c : A3Config}

/-- An eligible strategy whose id no other strategy of its pass has and no new draft takes. -/
def acceptedAlone (strategies : List SolutionStrategy) (generated : List StrategyDraft)
    (strategy : SolutionStrategy) : Bool :=
  strategy.eligible &&
    decide (strategies.filter (·.strategyId == strategy.strategyId) = [strategy]) &&
    !(generated.map (·.strategyId)).contains strategy.strategyId

theorem kept_of_acceptedAlone {strategies : List SolutionStrategy} {generated : List StrategyDraft}
    {strategy : SolutionStrategy} (h : acceptedAlone strategies generated strategy = true) :
    (!(targetedStrategyIds strategies).contains strategy.strategyId) = true := by
  simp only [acceptedAlone, Bool.and_eq_true, decide_eq_true_eq] at h
  obtain ⟨⟨heligible, halone⟩, _⟩ := h
  rw [Bool.not_eq_true', ← Bool.not_eq_true, List.contains_iff_mem]
  intro htargeted
  obtain ⟨other, hother, hid⟩ := List.mem_map.mp htargeted
  obtain ⟨hmem, hineligible⟩ := List.mem_filter.mp hother
  have hsame : other ∈ strategies.filter (·.strategyId == strategy.strategyId) :=
    List.mem_filter.mpr ⟨hmem, beq_iff_eq.mpr hid⟩
  rw [halone, List.mem_singleton] at hsame
  rw [hsame, heligible] at hineligible
  cases hineligible

/-- A run visits `A3.60` at most `_MAX_REVISION_ATTEMPTS` times, and every revision starts with
the strategies that were accepted, unchanged and in their order. -/
theorem revisions_end_and_keep (hrun : Run (A3Step inputs) (startConfig tokens) tr c) :
    rounds tr ≤ maxRevisionAttempts ∧
      ∀ pass previous next, c.state.strategySets.lookup pass = some previous →
        c.state.strategySets.lookup (pass + 1) = some next →
        ∃ t ∈ tr, t.label.node = .n60 ∧ t.before.state.a3RevisionAttempts = pass + 1 ∧
          ∃ kept fresh, next = kept ++ fresh ∧
            fresh.map (·.strategyId) = (generatedDrafts t.label.answers).map (·.strategyId) ∧
            (previous.filter (acceptedAlone previous (generatedDrafts t.label.answers))).Sublist
              kept ∧
            ∀ strategy ∈ kept, strategy.eligible = true ∧ strategy.gateReasons = [] := by
  have hinv := roundInv_of_run hrun
  refine ⟨(counted_of_run hrun).rounds_le, fun pass previous next hprevious hnext => ?_⟩
  obtain ⟨t, ht, hnode, hpass, fresh, rfl, hfields⟩ := hinv.kept hprevious hnext
  refine ⟨t, ht, hnode, hpass, _, fresh, rfl, ?_, ?_, ?_⟩
  · exact map_of_fields (·.strategyId) hfields
  · exact List.monotone_filter_right previous fun strategy h => kept_of_acceptedAlone h
  · intro strategy hkept
    obtain ⟨hmem, hfree⟩ := List.mem_filter.mp hkept
    have heligible := eligible_of_not_targeted hmem hfree
    obtain ⟨_, _, hfinished⟩ := hinv.finished hprevious
    exact ⟨heligible, (hfinished.settled strategy hmem heligible).reasons⟩

/-! ### Ids -/

/-- An id stands for this strategy: the lookup of the later stages finds it, and to exclude
the id is to exclude the strategy. -/
structure Denotes (strategies : List SolutionStrategy) (strategy : SolutionStrategy) : Prop where
  found : strategyById ⟨strategies.map (·.toShared)⟩ strategy.strategyId = .ok strategy.toShared
  excluded : ∀ other ∈ strategies, other.strategyId = strategy.strategyId ↔ other = strategy

theorem denotes_of_nodup {strategies : List SolutionStrategy}
    (h : (strategies.map (·.strategyId)).Nodup) {strategy : SolutionStrategy}
    (hmem : strategy ∈ strategies) : Denotes strategies strategy := by
  have honly : ∀ other ∈ strategies, other.strategyId = strategy.strategyId → other = strategy :=
    fun other hother hid => List.inj_on_of_nodup_map h hother hmem hid
  refine ⟨?_, fun other hother => ⟨honly other hother, fun heq => by rw [heq]⟩⟩
  have hsome : (strategies.find? (·.strategyId == strategy.strategyId)).isSome :=
    List.find?_isSome.mpr ⟨strategy, hmem, beq_iff_eq.mpr rfl⟩
  obtain ⟨found, hfound⟩ := Option.isSome_iff_exists.mp hsome
  have hid : found.strategyId = strategy.strategyId := by
    have hp := List.find?_some hfound
    exact beq_iff_eq.mp hp
  have hshared : (strategies.map (·.toShared)).find? (·.strategyId == strategy.strategyId) =
      some found.toShared := by
    rw [List.find?_map]
    exact congrArg (Option.map (·.toShared)) hfound
  rw [strategyById, hshared, honly found (List.mem_of_find?_eq_some hfound) hid]

/-- The ids of a sealed portfolio are distinct exactly when those are that `A3.60` put together
in the pass that was sealed, kept ones and generated ones. -/
theorem portfolio_ids_distinct_iff (hrun : Run (A3Step inputs) (startConfig tokens) tr c)
    {strategies : List SolutionStrategy} (hportfolio : c.state.portfolio = some strategies) :
    ∃ t ∈ tr, t.label.node = .n60 ∧
      t.before.state.a3RevisionAttempts = c.state.a3RevisionAttempts ∧
      ∃ carried, carriedForward t.before.state = .ok carried ∧
        ((strategies.map (·.strategyId)).Nodup ∧
            (∀ strategy ∈ strategies, Denotes strategies strategy) ↔
          ((carried ++ generatedDrafts t.label.answers).map (·.strategyId)).Nodup) := by
  have hinv := roundInv_of_run hrun
  obtain ⟨_, hset⟩ := hinv.portfolio strategies hportfolio
  obtain ⟨drafts, hdrafts, hfinished⟩ := hinv.finished hset
  obtain ⟨t, ht, hnode, hpass, carried, hcarried, _, rfl⟩ := hinv.generated _ drafts hdrafts
  refine ⟨t, ht, hnode, hpass, carried, hcarried, ?_⟩
  have hids : strategies.map (·.strategyId) =
      (carried ++ generatedDrafts t.label.answers).map (·.strategyId) :=
    map_of_fields (·.strategyId) hfinished.fields
  rw [← hids]
  exact ⟨And.left, fun h => ⟨h, fun strategy hmem => denotes_of_nodup h hmem⟩⟩

end Kept

/-! ### Sample runs -/

theorem exists_a3Run (inputs : Inputs) (answers : List A3Answers)
    (check : A3Trace × A3Config → Bool)
    (h : (replay (advance inputs) answers [] (startConfig 0)).any check = true) :
    ∃ tr c, Run (A3Step inputs) (startConfig 0) tr c ∧ check (tr, c) = true :=
  exists_run_of_replay (advance inputs) (fun c a visit c' hstep => by
    have hanswers : visit.answers = a := by
      unfold advance at hstep
      split at hstep
      · cases hstep
      · split at hstep
        · cases hstep
        · cases hstep
          rfl
    unfold A3Step
    rw [hanswers]
    exact hstep) (startConfig 0) answers check h

/-- The texts of the number zero, of lists of plain words and of stripped texts. -/
def plainText : PythonText where
  float _ := "0.0"
  list words := "[" ++ ", ".intercalate (words.map fun word => "'" ++ word ++ "'") ++ "]"
  strip := id

/-- One criterion on the exit code of the unit tests, one finding with one citation. -/
def sampleInputs : Inputs where
  text := plainText
  criteria := [⟨⟨"unit-ok", "unit_command_result", .target, 0, 1⟩, "exit_code", .verdict⟩]
  guardrails := []
  execution := none
  maximumModelTokens := 1000
  verificationCommands := [⟨"unit", ["pytest"]⟩]
  snapshotPaths := ["src/app.py"]
  evidence := [⟨"ev-1", "pytest", "run-1"⟩]
  drafts := [{ findingId := "f1", problemSignalIds := ["signal-unit-ok"], claimType := .hypothesis
               symptom := "tests fail", causalClaim := "off by one"
               supportingEvidenceIds := ["ev-1"], confidence := 1 / 2 }]
  citationReports := [⟨"report-1", "f1", [⟨"ev-1", true, true, true, none⟩]⟩]
  measured := by simp

def sampleFields (strategyId strategyTradeoffs : String) : NamedFields where
  strategyId := strategyId
  findingIds := ["f1"]
  title := "fix the bound"
  mechanism := "compare with the right bound"
  strategyTradeoffs := strategyTradeoffs
  phaseTemplates := [⟨"phase-1", 1, .implementation, ⟨"bound", "<", "<="⟩, [], []⟩]
  riskCeiling := .code
  evidenceIds := ["ev-1"]
  targetPaths := ["src/app.py"]

def answering (strategies : List RawStrategy) : A3Answers :=
  { first := { strategies := some strategies, tokens := 10 } }

def judging (verdict : Verdict) : A3Answers := { judge := fun _ => .verdict verdict ["checked"] 5 }

/-- The answers for a pass that starts at `A3.60`: the other nodes ask nothing. -/
def passAnswers (strategies : List RawStrategy) : List A3Answers :=
  List.replicate 9 (answering strategies)

/-- Two strategies with one text, then a third one in place of the second. -/
def revisedAnswers : List A3Answers :=
  [judging .accept, {}] ++
    passAnswers [{ named := some (sampleFields "s1" "small patch") },
      { named := some (sampleFields "s2" "small patch") }] ++
    passAnswers [{ named := some (sampleFields "s3" "rewrite") }]

theorem revisedAnswers_kept : ∃ tr c previous next,
    Run (A3Step sampleInputs) (startConfig 0) tr c ∧ rounds tr ≤ maxRevisionAttempts ∧
      c.state.strategySets.lookup 0 = some previous ∧ c.state.strategySets.lookup 1 = some next ∧
      ∃ kept fresh, next = kept ++ fresh ∧ ∀ strategy ∈ kept, strategy.eligible = true := by
  obtain ⟨tr, c, hrun, hcheck⟩ := exists_a3Run sampleInputs revisedAnswers
    (fun out => (out.2.state.strategySets.lookup 0).isSome &&
      (out.2.state.strategySets.lookup 1).isSome) (by decide +kernel)
  obtain ⟨hfirst, hsecond⟩ := Bool.and_eq_true_iff.mp hcheck
  obtain ⟨previous, hprevious⟩ := Option.isSome_iff_exists.mp hfirst
  obtain ⟨next, hnext⟩ := Option.isSome_iff_exists.mp hsecond
  obtain ⟨hrounds, hkeep⟩ := revisions_end_and_keep hrun
  obtain ⟨_, _, _, _, kept, fresh, heq, _, _, heligible⟩ := hkeep 0 previous next hprevious hnext
  exact ⟨tr, c, previous, next, hrun, hrounds, hprevious, hnext, kept, fresh, heq,
    fun strategy hmem => (heligible strategy hmem).1⟩

theorem revisedAnswers_ids : ∃ tr c strategies, Run (A3Step sampleInputs) (startConfig 0) tr c ∧
    c.state.portfolio = some strategies ∧ ∃ t ∈ tr, t.label.node = .n60 ∧
      ∃ carried, carriedForward t.before.state = .ok carried ∧
        ((strategies.map (·.strategyId)).Nodup ∧
            (∀ strategy ∈ strategies, Denotes strategies strategy) ↔
          ((carried ++ generatedDrafts t.label.answers).map (·.strategyId)).Nodup) := by
  obtain ⟨tr, c, hrun, hcheck⟩ := exists_a3Run sampleInputs revisedAnswers
    (fun out => out.2.state.portfolio.isSome) (by decide +kernel)
  obtain ⟨strategies, hportfolio⟩ := Option.isSome_iff_exists.mp hcheck
  obtain ⟨t, ht, hnode, _, carried, hcarried, hiff⟩ := portfolio_ids_distinct_iff hrun hportfolio
  exact ⟨tr, c, strategies, hrun, hportfolio, t, ht, hnode, carried, hcarried, hiff⟩

/-- One answer names two strategies alike. -/
def repeatedAnswers : List A3Answers :=
  [judging .accept, {}] ++
    passAnswers [{ named := some (sampleFields "s1" "small patch") },
      { named := some (sampleFields "s1" "rewrite") }]

def repeatsId (strategies : List SolutionStrategy) : Bool :=
  decide (strategies.map (·.strategyTradeoffs) = ["small patch", "rewrite"]) &&
    !decide (strategies.map (·.strategyId)).Nodup

theorem repeated_id_sealed : ∃ tr c strategies,
    Run (A3Step sampleInputs) (startConfig 0) tr c ∧ c.state.portfolio = some strategies ∧
      strategies.map (·.strategyTradeoffs) = ["small patch", "rewrite"] ∧
      ¬ (strategies.map (·.strategyId)).Nodup := by
  obtain ⟨tr, c, hrun, hcheck⟩ := exists_a3Run sampleInputs repeatedAnswers
    (fun out => out.2.state.portfolio.any repeatsId) (by decide +kernel)
  obtain ⟨strategies, hportfolio, hrepeats⟩ := (Option.any_eq_true ..).mp hcheck
  simp only [repeatsId, Bool.and_eq_true, decide_eq_true_eq, Bool.not_eq_true',
    decide_eq_false_iff_not] at hrepeats
  exact ⟨tr, c, strategies, hrun, hportfolio, hrepeats.1, hrepeats.2⟩

end ProductionOptimizer.A3
