import Mathlib.Data.List.Find
import ProductionOptimizer.Handlers.Report
import ProductionOptimizer.Library.KeyedMerge
import ProductionOptimizer.PassIds
import ProductionOptimizer.PlanCompletion

/-!
# Does the report hide nothing?

The report is rebuilt from two values of the last state: the active phase and the pass
counter. Every pass of that phase is found this way, and no pass of another phase and no
strategy that was reverted. `S07.90` judges the report by the same two values, so it cannot
miss what the report misses.
-/

namespace ProductionOptimizer
open Runs NumberedLog KeyedMerge
set_option autoImplicit false

/-- The sealed `ExecutionProvenance`s of a case, one for each implementation of a phase. -/
def provenances (s : OptimizationState) : List ArtifactRef :=
  s.artifactRefs.filter (·.artifactType == .executionProvenance)

/-- The phase was implemented in the pass. -/
def Implemented (s : OptimizationState) (phaseId : String) (passNumber : Nat) : Prop :=
  ∃ ref ∈ provenances s, ref.artifactId = .phasePass ⟨.S03, 80⟩ phaseId passNumber

def tokensOf (ref : ArtifactRef) : Nat × Nat := ref.contentDigest.tokens.getD (0, 0)

/-- The entries a report owes its reader: one for each criterion, for each implementation
but the reported one, and for each excluded strategy. -/
structure EntriesPresent (s : OptimizationState) (report : OptimizationReport) : Prop where
  criteria : ∀ request, s.readRequest = .ok request → ∀ criterion ∈ request.criteria,
    ∃ entry ∈ report.outcomes, entry.subject = criterion.criterionId ∧
      (entry.category = .completed ∨ entry.category = .missing)
  passes : ∀ phaseId passNumber, Implemented s phaseId passNumber →
    s.s03ActivePhaseId = some phaseId ∧ passNumber = s.s03RevisionAttempts ∨
      ∃ entry ∈ report.outcomes, entry.category = .repaired ∧ entry.subject = phaseId ∧
        entry.passNumber = passNumber
  reverted : ∀ strategyId ∈ s.s01ExcludedStrategyIds,
    ∃ entry ∈ report.outcomes, entry.category = .reverted ∧ entry.subject = strategyId

structure HidesNothing (s : OptimizationState) (report : OptimizationReport) (route : NodeRoute) :
    Prop where
  entries : EntriesPresent s report
  inputTokens : report.cost.modelInputTokens = ((provenances s).map (tokensOf · |>.1)).sum
  outputTokens : report.cost.modelOutputTokens = ((provenances s).map (tokensOf · |>.2)).sum
  gate : route = .continue_ ↔ EntriesPresent s report

/-- S07 is entered, seals the report and is left by the route. -/
def SealsReport (c : Config) (report : OptimizationReport) (route : NodeRoute) : Prop :=
  c.position = some (firstNode .S07) ∧ runReport c.state = .ok (some (report, route))

/-- A converged case of which no phase has been implemented. -/
structure Unimplemented (portfolio : SolutionPortfolio) (c : Config) : Prop extends
    Converged portfolio c where
  provenances : provenances c.state = []

/-! ### What the nodes of S07 compute -/

section Nodes
variable {s : OptimizationState} {phaseId : String}

theorem map_of_mapM_ok {ε α β γ : Type} {f : α → Except ε β} {k : β → γ} {g : α → γ}
    {l : List α} {out : List β} (h : l.mapM f = .ok out) (hf : ∀ x y, f x = .ok y → k y = g x) :
    out.map k = l.map g := by
  induction l generalizing out with
  | nil =>
    cases h
    rfl
  | cons x l ih =>
    obtain ⟨y, ys, hy, hys, rfl⟩ := mapM_cons_ok.mp h
    rw [List.map_cons, List.map_cons, hf x y hy, ih hys]

theorem passRecord_ok {passNumber : Nat} {record : PassRecord}
    (h : passRecord s phaseId passNumber = .ok record) : record.passNumber = passNumber := by
  obtain ⟨verification, _, h⟩ := except_bind_ok h
  obtain ⟨decision, _, h⟩ := except_bind_ok h
  cases h
  rfl

/-- The records are numbered from `0`; the last one is that of the present pass. -/
theorem reconstructPasses_ok {passes : List PassRecord} {final : PassRecord}
    (h : reconstructPasses s phaseId = .ok passes) (hlast : passes.getLast? = some final) :
    passes.dropLast.map (·.passNumber) = List.range s.s03RevisionAttempts ∧
      final.passNumber = s.s03RevisionAttempts := by
  have hnumbers := map_of_mapM_ok (g := id) h fun _ _ hok => passRecord_ok hok
  rw [List.map_id, List.range_succ] at hnumbers
  constructor
  · rw [List.map_dropLast, hnumbers, List.dropLast_concat]
  · have hfinal := congrArg List.getLast? hnumbers
    rw [List.getLast?_map, hlast, List.getLast?_concat] at hfinal
    exact Option.some.inj hfinal

/-- Every entry of the outcome list: a repair of the active phase, or a criterion. -/
theorem handleS0730_ok {outcomes : List OutcomeEntry} (h : handleS0730 s = .ok outcomes) :
    ∃ request phaseId decision, ∃ passes : List PassRecord, s.readRequest = .ok request ∧
      s.activePhaseId = .ok phaseId ∧
      passes.map (·.passNumber) = List.range s.s03RevisionAttempts ∧
      outcomes = passes.map (repairEntry phaseId) ++
        request.criteria.map (criterionEntry decision s.s03RevisionAttempts) := by
  obtain ⟨request, hrequest, h⟩ := except_bind_ok h
  obtain ⟨phaseId, hphase, h⟩ := except_bind_ok h
  obtain ⟨passes, hpasses, h⟩ := except_bind_ok h
  split at h
  · cases h
  · rename_i final hlast
    split at h
    · cases h
    · rename_i decision _
      split at h
      · cases h
      · cases h
        obtain ⟨hearlier, hfinal⟩ := reconstructPasses_ok hpasses hlast
        rw [hfinal]
        exact ⟨request, phaseId, decision, passes.dropLast, hrequest, hphase, hearlier, rfl⟩

theorem criterionEntry_category (decision : DecisionView) (passNumber : Nat)
    (criterion : Criterion) :
    (criterionEntry decision passNumber criterion).category = .completed ∨
      (criterionEntry decision passNumber criterion).category = .missing := by
  simp only [criterionEntry]
  split
  · exact Or.inl rfl
  · exact Or.inr rfl

/-- What one pass of the active phase adds to the cost. -/
def passCost (s : OptimizationState) (phaseId : String) (passNumber : Nat) : Nat × Nat :=
  ((s.tryStageRef (.phasePass ⟨.S03, 80⟩ phaseId passNumber)
    .executionProvenance).map tokensOf).getD (0, 0)

theorem passTokens_ok {passNumber : Nat} {tokens : Nat × Nat}
    (h : passTokens s phaseId passNumber = .ok tokens) :
    tokens = passCost s phaseId passNumber := by
  unfold passTokens at h
  unfold passCost
  split at h
  · rename_i hnone
    cases h
    rw [hnone]
    rfl
  · rename_i ref hsome
    unfold readTokens at h
    split at h
    · rename_i found htokens
      cases h
      simp [hsome, tokensOf, htokens]
    · cases h

theorem handleS0760_ok {cost : CostSummary} (hphase : s.activePhaseId = .ok phaseId)
    (h : handleS0760 s = .ok cost) :
    cost.modelInputTokens =
        (((List.range (s.s03RevisionAttempts + 1)).map (passCost s phaseId)).map (·.1)).sum ∧
      cost.modelOutputTokens =
        (((List.range (s.s03RevisionAttempts + 1)).map (passCost s phaseId)).map (·.2)).sum := by
  obtain ⟨active, hactive, h⟩ := except_bind_ok h
  cases hphase.symm.trans hactive
  obtain ⟨tokens, htokens, h⟩ := except_bind_ok h
  cases h
  have heq := map_of_mapM_ok (k := id) (g := passCost s phaseId) htokens
    fun _ _ hok => passTokens_ok hok
  rw [List.map_id] at heq
  rw [heq]
  exact ⟨rfl, rfl⟩

theorem handleS0780_ok {outcomes : List OutcomeEntry} {evidence : List EvidenceSummary}
    {change : SourceChangeSummary} {cost : CostSummary} {report : OptimizationReport}
    (h : handleS0780 s outcomes evidence change cost = .ok report) :
    report.outcomes = outcomes ∧ report.cost = cost := by
  obtain ⟨phaseId, _, h⟩ := except_bind_ok h
  obtain ⟨decisionRef, _, h⟩ := except_bind_ok h
  split at h
  · cases h
  · cases h
    exact ⟨rfl, rfl⟩

/-- The report that S07 seals, and the judgement of its own gate. -/
theorem runReport_ok {report : OptimizationReport} {route : NodeRoute}
    (h : runReport s = .ok (some (report, route))) :
    handleS0730 s = .ok report.outcomes ∧ handleS0760 s = .ok report.cost ∧
      handleS0790 s report = .ok route := by
  obtain ⟨intact, _, h⟩ := except_bind_ok h
  split at h
  · cases h
  · obtain ⟨outcomes, houtcomes, h⟩ := except_bind_ok h
    obtain ⟨evidence, _, h⟩ := except_bind_ok h
    obtain ⟨change, _, h⟩ := except_bind_ok h
    obtain ⟨cost, hcost, h⟩ := except_bind_ok h
    obtain ⟨sealedReport, hsealed, h⟩ := except_bind_ok h
    obtain ⟨judged, hjudged, h⟩ := except_bind_ok h
    cases h
    obtain ⟨rfl, rfl⟩ := handleS0780_ok hsealed
    exact ⟨houtcomes, hcost, hjudged⟩

end Nodes

/-! ### The outcome list -/

section Outcomes
variable {s : OptimizationState} {report : OptimizationReport} {route : NodeRoute}

/-- A repair entry is about the active phase and an earlier pass, and every earlier pass has
one. No entry is a revert. -/
structure RepairsListed (s : OptimizationState) (phaseId : String)
    (outcomes : List OutcomeEntry) : Prop where
  criteria : ∀ request, s.readRequest = .ok request → ∀ criterion ∈ request.criteria,
    ∃ entry ∈ outcomes, entry.subject = criterion.criterionId ∧
      (entry.category = .completed ∨ entry.category = .missing)
  repaired : ∀ entry ∈ outcomes, entry.category = .repaired → entry.subject = phaseId
  earlier : ∀ passNumber < s.s03RevisionAttempts, ∃ entry ∈ outcomes,
    entry.category = .repaired ∧ entry.subject = phaseId ∧ entry.passNumber = passNumber
  reverted : ∀ entry ∈ outcomes, entry.category ≠ .reverted

theorem repairsListed {outcomes : List OutcomeEntry} {phaseId : String}
    (hphase : s.activePhaseId = .ok phaseId) (h : handleS0730 s = .ok outcomes) :
    RepairsListed s phaseId outcomes := by
  obtain ⟨request, active, decision, passes, hrequest, hactive, hnumbers, rfl⟩ := handleS0730_ok h
  cases hphase.symm.trans hactive
  -- an entry comes from a pass or from a criterion
  have hcases : ∀ entry ∈ passes.map (repairEntry phaseId) ++
      request.criteria.map (criterionEntry decision s.s03RevisionAttempts),
      (entry.category = .repaired ∧ entry.subject = phaseId) ∨
        entry.category = .completed ∨ entry.category = .missing := by
    intro entry hentry
    rcases List.mem_append.mp hentry with hentry | hentry
    · obtain ⟨record, _, rfl⟩ := List.mem_map.mp hentry
      exact Or.inl ⟨rfl, rfl⟩
    · obtain ⟨criterion, _, rfl⟩ := List.mem_map.mp hentry
      exact Or.inr (criterionEntry_category _ _ _)
  refine ⟨?_, ?_, ?_, ?_⟩
  · intro found hfound criterion hcriterion
    cases hrequest.symm.trans hfound
    refine ⟨criterionEntry decision s.s03RevisionAttempts criterion, ?_, rfl,
      criterionEntry_category _ _ _⟩
    exact List.mem_append_right _ (List.mem_map_of_mem hcriterion)
  · intro entry hentry hcategory
    rcases hcases entry hentry with ⟨_, hsubject⟩ | hother | hother
    · exact hsubject
    · rw [hcategory] at hother
      cases hother
    · rw [hcategory] at hother
      cases hother
  · intro passNumber hlt
    have hmem : passNumber ∈ passes.map (·.passNumber) := by
      rw [hnumbers]
      exact List.mem_range.mpr hlt
    obtain ⟨record, hrecord, hnumber⟩ := List.mem_map.mp hmem
    refine ⟨repairEntry phaseId record, ?_, rfl, rfl, hnumber⟩
    exact List.mem_append_left _ (List.mem_map_of_mem hrecord)
  · intro entry hentry hcategory
    rcases hcases entry hentry with ⟨hother, _⟩ | hother | hother
    all_goals
      rw [hcategory] at hother
      cases hother

/-- `S07.90` asks for what `S07.30` has listed, and continues. -/
theorem gate_continues {phaseId : String} (hlisted : RepairsListed s phaseId report.outcomes)
    (h : handleS0790 s report = .ok route) : route = .continue_ := by
  obtain ⟨request, hrequest, h⟩ := except_bind_ok h
  obtain ⟨_, _, h⟩ := except_bind_ok h
  have hcriteria : (request.criteria.all fun criterion =>
      report.outcomes.any (·.subject == criterion.criterionId)) = true := by
    rw [List.all_eq_true]
    intro criterion hcriterion
    obtain ⟨entry, hentry, hsubject, _⟩ := hlisted.criteria request hrequest criterion hcriterion
    exact List.any_eq_true.mpr ⟨entry, hentry, beq_iff_eq.mpr hsubject⟩
  have hpasses : ((List.range s.s03RevisionAttempts).all fun passNumber =>
      report.outcomes.any fun entry =>
        entry.category == .repaired && entry.passNumber == passNumber) = true := by
    rw [List.all_eq_true]
    intro passNumber hmem
    obtain ⟨entry, hentry, hcategory, _, hnumber⟩ :=
      hlisted.earlier passNumber (List.mem_range.mp hmem)
    refine List.any_eq_true.mpr ⟨entry, hentry, ?_⟩
    rw [hcategory, hnumber]
    simp
  rw [hcriteria, hpasses] at h
  cases h
  rfl

end Outcomes

/-! ### The provenances of a session -/

theorem mergeArtifactRef_nodup {t : ArtifactType} {refs out : List ArtifactRef} {ref : ArtifactRef}
    (h : mergeArtifactRef refs ref = .ok out)
    (hd : ((refs.filter (·.artifactType == t)).map (·.artifactId)).Nodup) :
    ((out.filter (·.artifactType == t)).map (·.artifactId)).Nodup := by
  unfold mergeArtifactRef at h
  split at h
  · rename_i hnone
    cases h
    rw [List.filter_append, List.map_append]
    refine hd.append ?_ ?_
    · exact (List.nodup_singleton ref.artifactId).sublist (List.filter_sublist.map _)
    · intro id hold hnew
      obtain ⟨old, hmem, rfl⟩ := List.mem_map.mp hold
      obtain ⟨hrefs, htype⟩ := List.mem_filter.mp hmem
      obtain ⟨new, hmem, hid⟩ := List.mem_map.mp hnew
      obtain ⟨hsingle, htype'⟩ := List.mem_filter.mp hmem
      cases List.mem_singleton.mp hsingle
      -- a ref of the same type and id would have been found
      refine List.find?_eq_none.mp hnone old hrefs ?_
      simp [ArtifactRef.sameKey, hid, beq_iff_eq.mp htype, beq_iff_eq.mp htype']
  · split at h
    · cases h
      exact hd
    · cases h

theorem mergeArtifactRefs_nodup {t : ArtifactType} {left right out : List ArtifactRef}
    (h : mergeArtifactRefs left right = .ok out)
    (hd : ((left.filter (·.artifactType == t)).map (·.artifactId)).Nodup) :
    ((out.filter (·.artifactType == t)).map (·.artifactId)).Nodup := by
  induction right generalizing left with
  | nil =>
    cases h
    exact hd
  | cons ref right ih =>
    unfold mergeArtifactRefs at h
    split at h
    · rename_i merged hmerged
      exact ih h (mergeArtifactRef_nodup hmerged hd)
    · cases h

/-- The id of an implementation in a pass that has begun. -/
def BegunPass (s : OptimizationState) (id : ArtifactId) : Prop :=
  ∃ phaseId passNumber, id = .phasePass ⟨.S03, 80⟩ phaseId passNumber ∧
    passNumber ≤ s.s03RevisionAttempts

structure ProvenanceInv (c : Config) : Prop where
  pass : PassInv c
  begun : ∀ ref ∈ provenances c.state, BegunPass c.state ref.artifactId
  recorded : ∀ key execution, c.ledger.cached key = some execution → key.node = ⟨.S03, 80⟩ →
    ∀ ref ∈ execution.artifactRefs, BegunPass c.state ref.artifactId
  distinct : ((provenances c.state).map (·.artifactId)).Nodup

theorem Unimplemented.provenanceInv {portfolio : SolutionPortfolio} {c : Config}
    (h : Unimplemented portfolio c) : ProvenanceInv c where
  pass := h.passInv
  begun ref href := by
    rw [h.provenances] at href
    cases href
  recorded key execution hcached hnode := by
    refine absurd ?_ (h.ledger key execution hcached)
    rw [hnode]
    decide
  distinct := by
    rw [h.provenances]
    exact List.nodup_nil

theorem mem_provenances {s : OptimizationState} {ref : ArtifactRef} :
    ref ∈ provenances s ↔ ref ∈ s.artifactRefs ∧ ref.artifactType = .executionProvenance := by
  rw [provenances, List.mem_filter, beq_iff_eq]

theorem executionProvenance_writers : ∀ n ∈ catalog, .executionProvenance ∈ nodeTypes n →
    n = ⟨.S03, 80⟩ := by decide +kernel

section Session
variable {c c' : Config} {visit : Visit}

theorem BegunPass.mono {s s' : OptimizationState} {id : ArtifactId} (h : BegunPass s id)
    (hle : s.s03RevisionAttempts ≤ s'.s03RevisionAttempts) : BegunPass s' id := by
  obtain ⟨phaseId, passNumber, hid, hbegun⟩ := h
  exact ⟨phaseId, passNumber, hid, hbegun.trans hle⟩

/-- `S03.80` seals under the active phase and the present pass. -/
theorem begun_of_visit (hinv : ProvenanceInv c) (h : SharedSpec c visit c')
    (hnode : visit.node = ⟨.S03, 80⟩) {ref : ArtifactRef}
    (href : ref ∈ visit.execution.artifactRefs) : BegunPass c.state ref.artifactId := by
  rcases h.origin hnode with hcached | ⟨a, hhandler⟩
  · exact hinv.recorded _ _ hcached hnode ref href
  · have hseals := handleS0380_seals (a := a) _ hhandler
    obtain ⟨phaseId, hid⟩ := scope_loop (by decide) (hseals.ids ref href)
    exact ⟨phaseId, _, hid, Nat.le_refl _⟩

theorem ProvenanceInv.step (hinv : ProvenanceInv c) (h : SharedSpec c visit c') :
    ProvenanceInv c' := by
  have hle := (moves_of_step hinv.pass h).le
  refine ⟨hinv.pass.step h, ?_, ?_, mergeArtifactRefs_nodup h.committed.artifactRefs hinv.distinct⟩
  · intro ref href
    obtain ⟨hmem, htype⟩ := mem_provenances.mp href
    rcases h.committed.mem_artifactRefs hmem with hold | hnew
    · exact (hinv.begun ref (mem_provenances.mpr ⟨hold, htype⟩)).mono hle
    · have hwrites := h.writes.type_mem hnew
      rw [htype] at hwrites
      have hnode := executionProvenance_writers _ h.registered hwrites
      exact (begun_of_visit hinv h hnode hnew).mono hle
  · intro key execution hcached hnode ref href
    rcases h.cached_cases key execution hcached with hold | ⟨rfl, rfl⟩
    · exact (hinv.recorded key execution hold hnode ref href).mono hle
    · exact (begun_of_visit hinv h hnode href).mono hle

/-- A resume may drop refs and adds none. -/
theorem refs_of_resume {interrupt : InterruptEnvelope} {command : ResumeInterruptCommand}
    {checkpointed : Bool} (h : SharedSession c (.resume interrupt command checkpointed) c') :
    c'.state.artifactRefs.Sublist c.state.artifactRefs := by
  obtain ⟨_, _, h⟩ := h
  split at h
  · rw [h]
    exact List.Sublist.refl _
  · rw [h.2]
    exact List.filter_sublist

theorem ProvenanceInv.resume (hinv : ProvenanceInv c) (h : Resumed c c')
    (hrefs : c'.state.artifactRefs.Sublist c.state.artifactRefs) : ProvenanceInv c' := by
  have hsub : (provenances c'.state).Sublist (provenances c.state) := hrefs.filter _
  have hle : c.state.s03RevisionAttempts ≤ c'.state.s03RevisionAttempts :=
    h.s03RevisionAttempts.ge
  refine ⟨hinv.pass.resume h, ?_, ?_, hinv.distinct.sublist (hsub.map _)⟩
  · intro ref href
    exact (hinv.begun ref (hsub.subset href)).mono hle
  · intro key execution hcached hnode ref href
    rw [h.ledger] at hcached
    exact (hinv.recorded key execution hcached hnode ref href).mono hle

theorem provenanceInv_of_session {portfolio : SolutionPortfolio} {c₀ c : Config}
    {tr : SessionTrace} (hstart : Unimplemented portfolio c₀)
    (hrun : Run SharedSession c₀ tr c) : ProvenanceInv c := by
  refine hrun.invariant hstart.provenanceInv ?_
  intro c act c' hinv hstep
  cases act with
  | node visit => exact hinv.step (SharedStep.sharedSpec hinv.pass.writes hstep)
  | resume interrupt command checkpointed =>
    exact hinv.resume (resumed_of_step hstep) (refs_of_resume hstep)

end Session

/-! ### The cost -/

section Cost
variable {c : Config} {phaseId : String}

/-- Every implementation of the case is one of the phase. -/
def OnlyPhase (s : OptimizationState) (phaseId : String) : Prop :=
  ∀ other passNumber, Implemented s other passNumber → other = phaseId

def passOf (ref : ArtifactRef) : Nat :=
  match ref.artifactId with
  | .phasePass _ _ passNumber => passNumber
  | _ => 0

theorem id_of_provenance (hinv : ProvenanceInv c) (honly : OnlyPhase c.state phaseId)
    {ref : ArtifactRef} (href : ref ∈ provenances c.state) :
    ref.artifactId = .phasePass ⟨.S03, 80⟩ phaseId (passOf ref) ∧
      passOf ref < c.state.s03RevisionAttempts + 1 := by
  obtain ⟨other, passNumber, hid, hbegun⟩ := hinv.begun ref href
  cases honly other passNumber ⟨ref, href, hid⟩
  rw [passOf, hid]
  exact ⟨rfl, Nat.lt_succ_of_le hbegun⟩

/-- Under its guessed id a pass has the provenance with its number. -/
theorem tryStageRef_provenance (hinv : ProvenanceInv c) (honly : OnlyPhase c.state phaseId)
    (passNumber : Nat) :
    c.state.tryStageRef (.phasePass ⟨.S03, 80⟩ phaseId passNumber) .executionProvenance =
      (provenances c.state).find? (passOf · == passNumber) := by
  unfold OptimizationState.tryStageRef
  rw [provenances, List.find?_filter]
  apply List.find?_congr
  intro ref hmem
  by_cases htype : ref.artifactType = .executionProvenance
  · obtain ⟨hid, _⟩ := id_of_provenance hinv honly (mem_provenances.mpr ⟨hmem, htype⟩)
    have hsame : (ref.artifactId == .phasePass ⟨.S03, 80⟩ phaseId passNumber) =
        (passOf ref == passNumber) := by
      rw [hid, Bool.eq_iff_iff, beq_iff_eq, beq_iff_eq, ArtifactId.phasePass.injEq]
      simp
    rw [hsame, Bool.eq_iff_iff]
    simp [htype]
  · simp [htype]

theorem passOf_nodup (hinv : ProvenanceInv c) (honly : OnlyPhase c.state phaseId) :
    ((provenances c.state).map passOf).Nodup := by
  have hids : (provenances c.state).map (·.artifactId) =
      ((provenances c.state).map passOf).map (.phasePass ⟨.S03, 80⟩ phaseId) := by
    rw [List.map_map]
    apply List.map_congr_left
    intro ref href
    exact (id_of_provenance hinv honly href).1
  have hdistinct := hinv.distinct
  rw [hids] at hdistinct
  exact hdistinct.of_map

/-- With one phase, the passes add up to all provenances of the case. -/
theorem sum_passCost (hinv : ProvenanceInv c) (honly : OnlyPhase c.state phaseId)
    (part : Nat × Nat → Nat) (hzero : part (0, 0) = 0) :
    (((List.range (c.state.s03RevisionAttempts + 1)).map (passCost c.state phaseId)).map part).sum =
      ((provenances c.state).map fun ref => part (tokensOf ref)).sum := by
  have hlt : ∀ ref ∈ provenances c.state, passOf ref < c.state.s03RevisionAttempts + 1 :=
    fun ref href => (id_of_provenance hinv honly href).2
  rw [← sum_map_range_find (passOf_nodup hinv honly) hlt, List.map_map]
  congr 1
  apply List.map_congr_left
  intro passNumber _
  rw [Function.comp_apply, passCost, tryStageRef_provenance hinv honly]
  cases (provenances c.state).find? (passOf · == passNumber) with
  | none => exact hzero
  | some ref => rfl

end Cost

/-! ### Whole sessions -/

/-- The report hides nothing exactly if only the reported phase was ever implemented and no
strategy was excluded. -/
theorem report_hides_nothing_iff {portfolio : SolutionPortfolio} {c₀ c : Config}
    {tr : SessionTrace} {report : OptimizationReport} {route : NodeRoute}
    (hstart : Unimplemented portfolio c₀) (hrun : Run SharedSession c₀ tr c)
    (hreport : SealsReport c report route) :
    HidesNothing c.state report route ↔
      (∀ phaseId passNumber, Implemented c.state phaseId passNumber →
        c.state.s03ActivePhaseId = some phaseId) ∧ c.state.s01ExcludedStrategyIds = [] := by
  have hinv := provenanceInv_of_session hstart hrun
  obtain ⟨houtcomes, hcost, hgate⟩ := runReport_ok hreport.2
  obtain ⟨_, phaseId, _, _, _, hphase, _, _⟩ := handleS0730_ok houtcomes
  have hactive := OptimizationState.activePhaseId_ok hphase
  have hlisted := repairsListed hphase houtcomes
  constructor
  · intro hhides
    constructor
    · intro other passNumber himplemented
      rcases hhides.entries.passes other passNumber himplemented with
        ⟨hsame, _⟩ | ⟨entry, hentry, hcategory, hsubject, _⟩
      · exact hsame
      · rw [hactive, ← hlisted.repaired entry hentry hcategory, hsubject]
    · apply List.eq_nil_iff_forall_not_mem.mpr
      intro strategyId hexcluded
      obtain ⟨entry, hentry, hcategory, _⟩ := hhides.entries.reverted strategyId hexcluded
      exact hlisted.reverted entry hentry hcategory
  · rintro ⟨hsingle, hexcluded⟩
    have honly : OnlyPhase c.state phaseId := by
      intro other passNumber himplemented
      have hsame := hsingle other passNumber himplemented
      rw [hactive] at hsame
      exact (Option.some.inj hsame).symm
    have hentries : EntriesPresent c.state report := by
      refine ⟨hlisted.criteria, ?_, ?_⟩
      · intro other passNumber himplemented
        cases honly other passNumber himplemented
        obtain ⟨ref, href, hid⟩ := himplemented
        obtain ⟨hid', hlt⟩ := id_of_provenance hinv honly href
        cases hid.symm.trans hid'
        by_cases hfinal : passOf ref = c.state.s03RevisionAttempts
        · exact Or.inl ⟨hactive, hfinal⟩
        · exact Or.inr (hlisted.earlier _ (by omega))
      · intro strategyId hmem
        rw [hexcluded] at hmem
        cases hmem
    obtain ⟨hinput, houtput⟩ := handleS0760_ok hphase hcost
    refine ⟨hentries, ?_, ?_, iff_of_true (gate_continues hlisted hgate) hentries⟩
    · exact hinput.trans (sum_passCost hinv honly (·.1) rfl)
    · exact houtput.trans (sum_passCost hinv honly (·.2) rfl)

theorem unimplemented_sampleCase (strategies : List SolutionStrategy) :
    Unimplemented ⟨strategies⟩ (sampleCase strategies) where
  toConverged := converged_sampleCase strategies
  provenances := rfl

def phaseOf (ref : ArtifactRef) : Option String :=
  match ref.artifactId with
  | .phasePass _ phaseId _ => some phaseId
  | _ => none

def sealedReport (s : OptimizationState) : Option (OptimizationReport × NodeRoute) :=
  (runReport s).toOption.join

theorem runReport_of_sealedReport {s : OptimizationState} {out : OptimizationReport × NodeRoute}
    (h : sealedReport s = some out) : runReport s = .ok (some out) := by
  rw [sealedReport, Option.join_eq_some_iff] at h
  exact eq_ok_of_toOption h

/-- The checks fail in the first pass of the only phase. -/
def recheckedOnce : List Answers :=
  List.replicate 37 { failingChecks with inputTokens := 5, outputTokens := 1 } ++
    List.replicate 36 { sampleAnswers with inputTokens := 7, outputTokens := 2 }

def reportsOnePhase (out : SessionTrace × Config) : Bool :=
  decide (out.2.position = some (firstNode .S07) ∧ out.2.state.s03RevisionAttempts = 1 ∧
    out.2.state.s01ExcludedStrategyIds = []) &&
    ((provenances out.2.state).all (phaseOf · == out.2.state.s03ActivePhaseId) &&
      (sealedReport out.2.state).isSome)

theorem report_hides_nothing_recheckedOnce :
    ∃ tr c report route, Run SharedSession promptRiskCase tr c ∧ SealsReport c report route ∧
      c.state.s03RevisionAttempts = 1 ∧ HidesNothing c.state report route := by
  obtain ⟨tr, c, hrun, hcheck⟩ := exists_sessionRun sharedRegistry (firstNode .S01) nextPosition
    promptRiskCase (recheckedOnce.map .answers) reportsOnePhase (by decide +kernel)
  obtain ⟨hentry, hcheck⟩ := Bool.and_eq_true_iff.mp hcheck
  obtain ⟨hpos, hattempts, hexcluded⟩ := of_decide_eq_true hentry
  obtain ⟨hphases, hsealed⟩ := Bool.and_eq_true_iff.mp hcheck
  obtain ⟨⟨report, route⟩, hsealed⟩ := Option.isSome_iff_exists.mp hsealed
  have hreport : SealsReport c report route := ⟨hpos, runReport_of_sealedReport hsealed⟩
  refine ⟨tr, c, report, route, hrun, hreport, hattempts, ?_⟩
  refine (report_hides_nothing_iff (unimplemented_sampleCase _) hrun hreport).mpr
    ⟨?_, hexcluded⟩
  rintro phaseId passNumber ⟨ref, href, hid⟩
  have hphase := beq_iff_eq.mp (List.all_eq_true.mp hphases ref href)
  rw [← hphase, phaseOf, hid]

/-- The first phase is to be repaired, so the second one is implemented, at first with
failing checks. -/
def repairedAcrossPhases : List Answers :=
  List.replicate 55 { twoPhaseAnswers with
    remeasured := lintRegression.remeasured, inputTokens := 100, outputTokens := 10 } ++
  List.replicate 18 { twoPhaseAnswers with
    checkExitCode := fun _ => some 1, inputTokens := 200, outputTokens := 20 } ++
  List.replicate 36 { twoPhaseAnswers with inputTokens := 300, outputTokens := 30 }

def hidesFirstPhase (out : SessionTrace × Config) : Bool :=
  decide (out.2.position = some (firstNode .S07) ∧ out.2.state.s03ActivePhaseId = some "p2" ∧
    ((provenances out.2.state).map (tokensOf · |>.1)).sum = 600) &&
    ((provenances out.2.state).any fun ref =>
      decide (ref.artifactId = .phasePass ⟨.S03, 80⟩ "p1" 0)) &&
    (sealedReport out.2.state).any fun sealedOut =>
      decide (sealedOut.2 = .continue_ ∧ sealedOut.1.cost.modelInputTokens = 500 ∧
        ∀ entry ∈ sealedOut.1.outcomes, entry.subject ≠ "p1")

/-- The failed implementation of the first phase is in no entry and in no sum, and `S07.90`
continues. -/
theorem first_phase_is_hidden :
    ∃ tr c report, Unimplemented ⟨[sampleStrategy "s1" .prompt]⟩ promptRiskCase ∧
      Run SharedSession promptRiskCase tr c ∧ SealsReport c report .continue_ ∧
      Implemented c.state "p1" 0 ∧ (∀ entry ∈ report.outcomes, entry.subject ≠ "p1") ∧
      report.cost.modelInputTokens = 500 ∧
      ((provenances c.state).map (tokensOf · |>.1)).sum = 600 ∧
      ¬ HidesNothing c.state report .continue_ := by
  obtain ⟨tr, c, hrun, hcheck⟩ := exists_sessionRun sharedRegistry (firstNode .S01) nextPosition
    promptRiskCase (repairedAcrossPhases.map .answers) hidesFirstPhase (by decide +kernel)
  simp only [hidesFirstPhase, Bool.and_eq_true, decide_eq_true_eq, List.any_eq_true,
    Option.any_eq_true] at hcheck
  obtain ⟨⟨⟨hpos, hactive, hsum⟩, ref, href, hid⟩, ⟨report, route⟩, hsealed, hroute, hcost,
    hsubjects⟩ := hcheck
  cases hroute
  refine ⟨tr, c, report, unimplemented_sampleCase _, hrun,
    ⟨hpos, runReport_of_sealedReport hsealed⟩, ⟨ref, href, hid⟩, hsubjects, hcost, hsum, ?_⟩
  intro hhides
  rcases hhides.entries.passes "p1" 0 ⟨ref, href, hid⟩ with
    ⟨hsame, _⟩ | ⟨entry, hentry, _, hsubject, _⟩
  · rw [hactive] at hsame
    exact absurd hsame (by decide)
  · exact hsubjects entry hentry hsubject

end ProductionOptimizer
