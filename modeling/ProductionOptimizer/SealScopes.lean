import ProductionOptimizer.SharedRuns

/-!
# The ids that sealing nodes choose

S01 scopes what it seals by the number of excluded strategies, S03 to S06 by the active
phase and the pass counter. `S02.81` scopes its report by the number of drafts, and the plan
and the task list not at all.
-/

namespace ProductionOptimizer
set_option autoImplicit false

def sealingNodes : List NodeId :=
  [⟨.S01, 80⟩, ⟨.S01, 90⟩, ⟨.S02, 81⟩, ⟨.S03, 80⟩, ⟨.S04, 90⟩, ⟨.S05, 20⟩, ⟨.S05, 70⟩,
   ⟨.S05, 80⟩, ⟨.S05, 90⟩, ⟨.S06, 60⟩, ⟨.S06, 80⟩, ⟨.S06, 90⟩]

def Accepts (a : Answers) (s : OptimizationState) : Prop :=
  (planQuality s.s02PlanDraft s.s02CritiqueApproved
    (a.repositoryPaths.map normalizeRepoPath)).all (·.passed) = true

instance (a : Answers) (s : OptimizationState) : Decidable (Accepts a s) :=
  inferInstanceAs (Decidable (_ = _))

/-- The ids under which a node seals in a state. Those without a scope are left to an
accepting `S02.81`. -/
def Scope (n : NodeId) (s : OptimizationState) (execution : NodeExecution) (id : ArtifactId) :
    Prop :=
  match n.stage with
  | .S01 => ∃ node, id = .stagePass node s.s01ExcludedStrategyIds.length
  | .S02 => id = .stagePass n s.s02RevisionAttempts ∨
      (id = .base ∧ execution.route = .continue_)
  | _ => ∃ phaseId, id = .phasePass n phaseId s.s03RevisionAttempts

/-- What an execution seals: at most one artifact of a type, under the ids of its node. -/
structure SealsUnder (n : NodeId) (s : OptimizationState) (execution : NodeExecution) :
    Prop where
  types : (execution.artifactRefs.map ArtifactRef.artifactType).Nodup
  ids : ∀ ref ∈ execution.artifactRefs, Scope n s execution ref.artifactId

section Seals
variable {n : NodeId} {s : OptimizationState} {execution : NodeExecution} {a : Answers}

theorem sealsUnder_nil (h : execution.artifactRefs = []) : SealsUnder n s execution := by
  constructor
  · rw [h]
    exact List.nodup_nil
  · rw [h]
    intro ref href
    cases href

theorem sealsUnder_singleton {ref : ArtifactRef} (h : execution.artifactRefs = [ref])
    (hscope : Scope n s execution ref.artifactId) : SealsUnder n s execution := by
  constructor
  · rw [h]
    exact List.nodup_singleton _
  · rw [h]
    intro ref' href
    rw [List.mem_singleton.mp href]
    exact hscope

theorem scope_of_phaseStage {id : ArtifactId} (h : s.phaseStage n = .ok id) :
    ∃ phaseId, id = .phasePass n phaseId s.s03RevisionAttempts := by
  obtain ⟨phaseId, _, h⟩ := except_bind_ok h
  exact ⟨phaseId, (Except.ok.inj h).symm⟩

theorem handleS0180_seals : Yields (SealsUnder ⟨.S01, 80⟩ s) (handleS0180 a s) := by
  unfold handleS0180
  refine Yields.bind fun portfolioRef _ => ?_
  split
  · exact Yields.error
  · dsimp only
    split
    · exact Yields.ok (sealsUnder_singleton rfl ⟨_, rfl⟩)
    · split
      · exact Yields.ok (sealsUnder_singleton rfl ⟨_, rfl⟩)
      · split
        · exact Yields.ok (sealsUnder_singleton rfl ⟨_, rfl⟩)
        · exact Yields.ok (sealsUnder_singleton rfl ⟨_, rfl⟩)

theorem handleS0190_seals : Yields (SealsUnder ⟨.S01, 90⟩ s) (handleS0190 a s) := by
  unfold handleS0190
  refine Yields.bind fun rankingRef hranking => Yields.bind fun portfolioRef _ => ?_
  have hid := (OptimizationState.requireStageRef_ok hranking).2.2
  split
  · exact Yields.error
  · split
    · exact Yields.ok (sealsUnder_singleton rfl ⟨_, hid⟩)
    · split
      · exact Yields.error
      · exact Yields.ok (sealsUnder_singleton rfl ⟨_, rfl⟩)

theorem handleS0281_seals : Yields (SealsUnder ⟨.S02, 81⟩ s) (handleS0281 a s) := by
  unfold handleS0281
  refine Yields.bind fun selectedRef _ => Yields.bind fun snapshot _ => ?_
  dsimp only
  split
  · have htypes : [ArtifactType.executionPlan, .taskList, .planQualityReport].Nodup := by decide
    refine Yields.ok ⟨htypes, ?_⟩
    intro ref href
    rcases List.mem_cons.mp href with rfl | href
    · exact Or.inr ⟨rfl, rfl⟩
    · rcases List.mem_cons.mp href with rfl | href
      · exact Or.inr ⟨rfl, rfl⟩
      · rw [List.mem_singleton.mp href]
        exact Or.inl rfl
  · exact Yields.ok (sealsUnder_singleton rfl (Or.inl rfl))

theorem accepts_of_continue (h : handleS0281 a s = .ok execution)
    (hroute : execution.route = .continue_) : Accepts a s := by
  obtain ⟨selectedRef, _, h⟩ := except_bind_ok h
  obtain ⟨snapshot, _, h⟩ := except_bind_ok h
  dsimp only at h
  split at h
  · rename_i hall
    exact hall
  · cases h
    dsimp only at hroute
    split at hroute
    · cases hroute
    · cases hroute

theorem handleS0380_seals : Yields (SealsUnder ⟨.S03, 80⟩ s) (handleS0380 a s) := by
  unfold handleS0380
  refine Yields.bind fun planRef _ => Yields.bind fun tasks _ => ?_
  refine Yields.bind fun workspace _ => Yields.bind fun phaseId _ => ?_
  refine Yields.bind fun stageId hstage => ?_
  have hscope := scope_of_phaseStage hstage
  split
  · exact Yields.error
  · have htypes : [ArtifactType.executionProvenance, .patchArtifact].Nodup := by decide
    refine Yields.ok ⟨htypes, ?_⟩
    intro ref href
    rcases List.mem_cons.mp href with rfl | href
    · exact hscope
    · rw [List.mem_singleton.mp href]
      exact hscope

theorem handleS0490_seals : Yields (SealsUnder ⟨.S04, 90⟩ s) (handleS0490 a s) := by
  unfold handleS0490
  refine Yields.bind fun patchRef _ => Yields.bind fun provenanceRef _ => ?_
  refine Yields.bind fun tasks _ => Yields.bind fun phaseId _ => ?_
  exact Yields.bind fun stageId hstage =>
    Yields.ok (sealsUnder_singleton rfl (scope_of_phaseStage hstage))

theorem handleS0520_seals : Yields (SealsUnder ⟨.S05, 20⟩ s) (handleS0520 a s) := by
  unfold handleS0520
  refine Yields.bind fun patchRef _ => Yields.bind fun patch _ => ?_
  refine Yields.bind fun manifest _ => Yields.bind fun snapshot _ => ?_
  exact Yields.bind fun stageId hstage =>
    Yields.ok (sealsUnder_singleton rfl (scope_of_phaseStage hstage))

theorem handleS0570_seals : Yields (SealsUnder ⟨.S05, 70⟩ s) (handleS0570 a s) := by
  unfold handleS0570
  refine Yields.bind fun request _ => Yields.bind fun baseline _ => ?_
  exact Yields.bind fun stageId hstage =>
    Yields.ok (sealsUnder_singleton rfl (scope_of_phaseStage hstage))

theorem handleS0580_seals : Yields (SealsUnder ⟨.S05, 80⟩ s) (handleS0580 a s) := by
  unfold handleS0580
  refine Yields.bind fun request _ => Yields.bind fun baseline _ => ?_
  refine Yields.bind fun stageId hstage => ?_
  dsimp only
  split
  · exact Yields.error
  · exact Yields.ok (sealsUnder_singleton rfl (scope_of_phaseStage hstage))

theorem handleS0590_seals : Yields (SealsUnder ⟨.S05, 90⟩ s) (handleS0590 a s) := by
  unfold handleS0590
  refine Yields.bind fun baselineRef _ => Yields.bind fun patchRef _ => ?_
  refine Yields.bind fun isolationRef _ => Yields.bind fun comparabilityRef _ => ?_
  refine Yields.bind fun statisticalRef _ => Yields.bind fun phaseId _ => ?_
  exact Yields.bind fun stageId hstage =>
    Yields.ok (sealsUnder_singleton rfl (scope_of_phaseStage hstage))

theorem handleS0660_seals : Yields (SealsUnder ⟨.S06, 60⟩ s) (handleS0660 a s) := by
  unfold handleS0660
  split
  · exact Yields.ok (sealsUnder_nil rfl)
  · refine Yields.bind fun snapshot _ => Yields.bind fun patchRef _ => ?_
    refine Yields.bind fun phaseId _ => Yields.bind fun stageId hstage => ?_
    exact Yields.ok (sealsUnder_singleton rfl (scope_of_phaseStage hstage))

theorem handleS0680_seals : Yields (SealsUnder ⟨.S06, 80⟩ s) (handleS0680 a s) := by
  unfold handleS0680
  refine Yields.bind fun phaseId _ => Yields.bind fun verificationRef _ => ?_
  refine Yields.bind fun measurementRef _ => ?_
  split
  · exact Yields.error
  · refine Yields.bind fun rollback _ => ?_
    split
    · exact Yields.error
    · refine Yields.bind fun stageId hstage => Yields.bind fun updates _ => ?_
      exact Yields.ok (sealsUnder_singleton rfl (scope_of_phaseStage hstage))

theorem handleS0690_seals : Yields (SealsUnder ⟨.S06, 90⟩ s) (handleS0690 a s) := by
  unfold handleS0690
  split
  · exact Yields.ok (sealsUnder_nil rfl)
  · split
    · exact Yields.error
    · refine Yields.bind fun snapshot _ => Yields.bind fun patchRef _ => ?_
      refine Yields.bind fun patch _ => Yields.bind fun phaseId _ => ?_
      refine Yields.bind fun stageId hstage => ?_
      have hscope := scope_of_phaseStage hstage
      dsimp only
      split
      · split
        · exact Yields.ok (sealsUnder_singleton rfl hscope)
        · split
          · exact Yields.ok (sealsUnder_singleton rfl hscope)
          · exact Yields.ok (sealsUnder_nil rfl)
      · split
        · exact Yields.ok (sealsUnder_singleton rfl hscope)
        · exact Yields.ok (sealsUnder_singleton rfl hscope)

theorem handleS0690_idle (h : handleS0690 a s = .ok execution)
    (hdecision : s.s06Decision ≠ some .keep) : execution.artifactRefs = [] := by
  unfold handleS0690 at h
  rw [if_pos hdecision] at h
  cases h
  rfl

theorem nodeHandler_seals (hn : n ∈ sealingNodes) : Yields (SealsUnder n s) (nodeHandler n a s) := by
  simp only [sealingNodes, List.mem_cons, List.not_mem_nil, or_false] at hn
  rcases hn with rfl | rfl | rfl | rfl | rfl | rfl | rfl | rfl | rfl | rfl | rfl | rfl
  · exact handleS0180_seals
  · exact handleS0190_seals
  · exact handleS0281_seals
  · exact handleS0380_seals
  · exact handleS0490_seals
  · exact handleS0520_seals
  · exact handleS0570_seals
  · exact handleS0580_seals
  · exact handleS0590_seals
  · exact handleS0660_seals
  · exact handleS0680_seals
  · exact handleS0690_seals

end Seals

theorem sameKey_eq_false {ref ref' : ArtifactRef} (h : ref.artifactId ≠ ref'.artifactId) :
    ref.sameKey ref' = false := by
  simp [ArtifactRef.sameKey, h]

/-- Refs of new keys, pairwise different, merge behind whatever is there. -/
theorem mergeArtifactRefs_of_separate {left right : List ArtifactRef}
    (hnew : ∀ ref ∈ right, ∀ ref' ∈ left, ref.sameKey ref' = false)
    (htypes : (right.map ArtifactRef.artifactType).Nodup) :
    mergeArtifactRefs left right = .ok (left ++ right) := by
  induction right generalizing left with
  | nil => simp [mergeArtifactRefs]
  | cons ref right ih =>
    rw [List.map_cons, List.nodup_cons] at htypes
    have hnone : left.find? (ref.sameKey ·) = none := by
      rw [List.find?_eq_none]
      intro ref' href'
      rw [hnew ref List.mem_cons_self ref' href']
      exact Bool.false_ne_true
    rw [mergeArtifactRefs, mergeArtifactRef, hnone]
    dsimp only
    rw [ih ?_ htypes.2, List.append_assoc, List.singleton_append]
    intro later hlater ref' href'
    rcases List.mem_append.mp href' with hold | hlast
    · exact hnew later (List.mem_cons_of_mem _ hlater) ref' hold
    · rw [List.mem_singleton.mp hlast]
      -- two refs of one execution are of different types
      have hne : later.artifactType ≠ ref.artifactType := by
        intro heq
        exact htypes.1 (heq ▸ List.mem_map_of_mem hlater)
      simp [ArtifactRef.sameKey, hne]

end ProductionOptimizer
