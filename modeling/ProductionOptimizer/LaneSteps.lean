import ProductionOptimizer.Handlers.Convergence
import ProductionOptimizer.Handlers.Answers

/-!
# Steps of the lane between A3's drafts and C0

What a step adds to the refs and to the store, and what each node seals. Artifacts that
were put stay readable, because objects are never overwritten.
-/

namespace ProductionOptimizer
set_option autoImplicit false

section Store
variable {D B : Type} [DecidableEq D] (codec : Codec D B)

/-- What the code takes for granted of pydantic and SHA-256. -/
structure Codec.Sound : Prop where
  roundTrip : ∀ m, codec.validate m.artifactType (codec.canonicalJson m) = some m
  noCollisions : Function.Injective codec.sha256

/-- Every object is the one that was put under its key. -/
def StoreIntact (store : ObjectStore D B) : Prop :=
  ∀ key bytes, store key = some bytes → codec.sha256 bytes = key

variable {codec}

theorem putEnvelope_of_some {store : ObjectStore D B} {m : SealedModel D} {bytes : B}
    (h : store (sealedRef codec m).contentDigest = some bytes) :
    putEnvelope codec store m = store := by
  simp only [putEnvelope, h]

theorem putEnvelope_of_none {store : ObjectStore D B} {m : SealedModel D}
    (h : store (sealedRef codec m).contentDigest = none) :
    putEnvelope codec store m =
      Function.update store (sealedRef codec m).contentDigest (some (codec.canonicalJson m)) := by
  simp only [putEnvelope, h]

theorem putEnvelope_mono {store : ObjectStore D B} {m : SealedModel D} {key : D} {bytes : B}
    (h : store key = some bytes) : putEnvelope codec store m key = some bytes := by
  cases hstored : store (sealedRef codec m).contentDigest with
  | some old => rw [putEnvelope_of_some hstored, h]
  | none =>
    rw [putEnvelope_of_none hstored, Function.update_of_ne, h]
    rintro rfl
    rw [h] at hstored
    cases hstored

theorem putEnvelope_intact {store : ObjectStore D B} (m : SealedModel D)
    (h : StoreIntact codec store) : StoreIntact codec (putEnvelope codec store m) := by
  intro key bytes hput
  cases hstored : store (sealedRef codec m).contentDigest with
  | some old =>
    rw [putEnvelope_of_some hstored] at hput
    exact h key bytes hput
  | none =>
    rw [putEnvelope_of_none hstored] at hput
    by_cases hkey : key = (sealedRef codec m).contentDigest
    · rw [hkey, Function.update_self] at hput
      cases hput
      exact hkey.symm
    · rw [Function.update_of_ne hkey] at hput
      exact h key bytes hput

theorem putEnvelope_stored {store : ObjectStore D B} (m : SealedModel D) (hsound : codec.Sound)
    (h : StoreIntact codec store) :
    putEnvelope codec store m (sealedRef codec m).contentDigest = some (codec.canonicalJson m) := by
  cases hstored : store (sealedRef codec m).contentDigest with
  | some old =>
    have hhash : codec.sha256 old = codec.sha256 (codec.canonicalJson m) := h _ old hstored
    rw [putEnvelope_of_some hstored, hstored, hsound.noCollisions hhash]
  | none => rw [putEnvelope_of_none hstored, Function.update_self]

theorem foldl_putEnvelope_mono {models : List (SealedModel D)} {store : ObjectStore D B} {key : D}
    {bytes : B} (h : store key = some bytes) :
    models.foldl (putEnvelope codec) store key = some bytes := by
  induction models generalizing store with
  | nil => exact h
  | cons m models ih => exact ih (putEnvelope_mono h)

theorem foldl_putEnvelope_intact {models : List (SealedModel D)} {store : ObjectStore D B}
    (h : StoreIntact codec store) : StoreIntact codec (models.foldl (putEnvelope codec) store) := by
  induction models generalizing store with
  | nil => exact h
  | cons m models ih => exact ih (putEnvelope_intact m h)

theorem foldl_putEnvelope_stored {models : List (SealedModel D)} {store : ObjectStore D B}
    (hsound : codec.Sound) (h : StoreIntact codec store) {m : SealedModel D} (hm : m ∈ models) :
    models.foldl (putEnvelope codec) store (sealedRef codec m).contentDigest =
      some (codec.canonicalJson m) := by
  induction models generalizing store with
  | nil => cases hm
  | cons first models ih =>
    rcases List.mem_cons.mp hm with rfl | hm
    · rw [List.foldl_cons]
      exact foldl_putEnvelope_mono (putEnvelope_stored m hsound h)
    · exact ih (putEnvelope_intact first h) hm

end Store

section Sealed
variable {D B : Type} (codec : Codec D B)

/-- The case has a ref of `m`, and the store has its bytes. -/
structure Stored (m : SealedModel D) (c : CaseConfig D B) : Prop where
  ref : sealedRef codec m ∈ c.state.artifactRefs
  bytes : c.store (sealedRef codec m).contentDigest = some (codec.canonicalJson m)

/-- `m` is the only artifact of its type. -/
structure OnlyOne (m : SealedModel D) (c : CaseConfig D B) : Prop extends Stored codec m c where
  unique : ∀ ref ∈ c.state.artifactRefs, ref.artifactType = m.artifactType →
    ref = sealedRef codec m

variable {codec} {m : SealedModel D} {c : CaseConfig D B}

theorem Stored.readModel_eq (h : Stored codec m c) (hsound : codec.Sound) :
    readModel codec c.store (sealedRef codec m) = .ok m := by
  unfold readModel
  rw [h.bytes]
  dsimp only
  have hvalid : codec.validate (sealedRef codec m).artifactType (codec.canonicalJson m) = some m :=
    hsound.roundTrip m
  rw [hvalid]

theorem CaseState.requireRef_of_tryRef {s : CaseState D} {t : SealedType} {ref : SealedRef D}
    (h : s.tryRef t = some ref) : s.requireRef t = .ok ref := by
  rw [CaseState.requireRef, h]

theorem CaseState.requireRef_ok {s : CaseState D} {t : SealedType} {ref : SealedRef D}
    (h : s.requireRef t = .ok ref) : ref ∈ s.artifactRefs ∧ ref.artifactType = t := by
  unfold CaseState.requireRef CaseState.tryRef at h
  split at h
  · rename_i found hfind
    cases h
    exact ⟨List.mem_of_find?_eq_some hfind, by simpa using List.find?_some hfind⟩
  · cases h

theorem OnlyOne.requireRef_eq (h : OnlyOne codec m c) :
    c.state.requireRef m.artifactType = .ok (sealedRef codec m) := by
  cases hfind : c.state.tryRef m.artifactType with
  | none =>
    have hnone := List.find?_eq_none.mp hfind _ h.ref
    simp [sealedRef] at hnone
  | some ref =>
    have href : c.state.requireRef m.artifactType = .ok ref := CaseState.requireRef_of_tryRef hfind
    obtain ⟨hmem, htype⟩ := CaseState.requireRef_ok href
    rw [href, h.unique ref hmem htype]

theorem OnlyOne.readRequired_eq (h : OnlyOne codec m c) (hsound : codec.Sound) :
    readRequired codec c.store c.state m.artifactType = .ok m := by
  rw [readRequired, h.requireRef_eq]
  exact h.toStored.readModel_eq hsound

theorem CaseState.requireStageRef_ok {s : CaseState D} {stageId : String} {t : SealedType}
    {ref : SealedRef D} (h : s.requireStageRef stageId t = .ok ref) :
    ref ∈ s.artifactRefs ∧ ref.artifactType = t ∧ ref.artifactId = s.stageArtifactId stageId t := by
  unfold CaseState.requireStageRef at h
  split at h
  · rename_i found hfind
    cases h
    have hkey := List.find?_some hfind
    simp only [Bool.and_eq_true, beq_iff_eq] at hkey
    exact ⟨List.mem_of_find?_eq_some hfind, hkey.1, hkey.2⟩
  · cases h

end Sealed

section Steps
variable {D B : Type} [DecidableEq D] {codec : Codec D B}

/-- What one node of the lane does to the case. -/
structure CaseSpec (codec : Codec D B) (c : CaseConfig D B) (visit : CaseVisit D)
    (c' : CaseConfig D B) : Prop where
  position : c.position = some visit.node
  handler : ∃ a, caseHandler codec visit.node a c.store c.state = .ok visit.execution
  next : c'.position = caseNext visit.node visit.execution.route c.state.lane
  state : ∃ refs, c'.state = { visit.execution.state with artifactRefs := refs }
  sorted : c'.state.artifactRefs.Pairwise SealedRef.le
  mem_refs : ∀ ref, ref ∈ c'.state.artifactRefs ↔ ref ∈ visit.execution.state.artifactRefs ∨
    ref ∈ visit.execution.sealedModels.map (sealedRef codec)
  store : c'.store = visit.execution.sealedModels.foldl (putEnvelope codec) c.store

theorem CaseStep.spec {c c' : CaseConfig D B} {visit : CaseVisit D}
    (h : CaseStep codec c visit c') : CaseSpec codec c visit c' := by
  obtain ⟨a, h⟩ := h
  unfold caseAdvance at h
  split at h
  · cases h
  · rename_i n hpos
    split at h
    · cases h
    · rename_i execution hhandler
      split at h
      · cases h
      · rename_i refs hmerge
        cases h
        obtain ⟨hsorted, hmem⟩ := mergeSealedRefs_ok hmerge
        exact ⟨hpos, ⟨a, hhandler⟩, rfl, ⟨refs, rfl⟩, hsorted, hmem, rfl⟩

end Steps

section Handlers
variable {D B : Type} {codec : Codec D B}

structure SameCase (s s' : CaseState D) : Prop where
  caseId : s'.caseId = s.caseId
  lane : s'.lane = s.lane
  artifactRefs : s'.artifactRefs = s.artifactRefs

/-- What a node seals, and what it does to the pass number. -/
inductive Seals (codec : Codec D B) (a : CaseAnswers) (c : CaseConfig D B) :
    NodeId → CaseExecution D → Prop where
  | strategySet (execution : CaseExecution D) (m : SealedModel D)
      (htype : m.artifactType = .solutionStrategySet) (hmodels : execution.sealedModels = [m])
      (hpass : execution.state.a3RevisionAttempts = c.state.a3RevisionAttempts) :
      Seals codec a c ⟨.A3, 80⟩ execution
  | report (execution : CaseExecution D) (finding : SealedRef D) (strategies : D)
      (results : List QualityGateResult) (passed : Bool)
      (hfinding : c.state.requireRef .findingSet = .ok finding)
      (hmodels : execution.sealedModels =
        [stageEnvelope a c.state (passStageId "A3.81" c.state.a3RevisionAttempts) .a3QualityReport
          [(.findingSetDigest, finding.contentDigest), (.solutionPortfolioDigest, strategies)]
          (.a3QualityReport passed results)])
      (hroute : execution.route = .continue_ ↔ passed = true)
      (hpass : execution.state.a3RevisionAttempts = c.state.a3RevisionAttempts) :
      Seals codec a c ⟨.A3, 81⟩ execution
  | directive (execution : CaseExecution D) (m : SealedModel D)
      (htype : m.artifactType = .revisionDirective) (hmodels : execution.sealedModels = [m])
      (hroute : execution.route = .continue_ →
        c.state.a3RevisionAttempts + 1 < maxRevisionAttempts)
      (hpass : execution.state.a3RevisionAttempts = c.state.a3RevisionAttempts + 1) :
      Seals codec a c ⟨.A3, 82⟩ execution
  | portfolio (execution : CaseExecution D) (finding quality : SealedRef D)
      (strategies : List A3Strategy) (hfinding : c.state.requireRef .findingSet = .ok finding)
      (hquality : c.state.requireStageRef (passStageId "A3.81" c.state.a3RevisionAttempts)
        .a3QualityReport = .ok quality)
      (heligible : strategies.any (·.eligible) = true)
      (hmodels : execution.sealedModels = [baseEnvelope a c.state .solutionPortfolio
        [(.findingSetDigest, finding.contentDigest),
         (.qualityReportDigest, quality.contentDigest)] (.strategies strategies)])
      (hpass : execution.state.a3RevisionAttempts = c.state.a3RevisionAttempts) :
      Seals codec a c ⟨.A3, 90⟩ execution
  | proposal (execution : CaseExecution D) (m : SealedModel D)
      (htype : m.artifactType = .proposalEnvelope) (hmodels : execution.sealedModels = [m])
      (hpass : execution.state.a3RevisionAttempts = c.state.a3RevisionAttempts) :
      Seals codec a c ⟨.B2, 60⟩ execution

variable {a : CaseAnswers} {c : CaseConfig D B} {execution : CaseExecution D}

theorem handleA381_seals (h : handleA381 codec a c.store c.state = .ok execution) :
    Seals codec a c ⟨.A3, 81⟩ execution ∧ SameCase c.state execution.state := by
  obtain ⟨finding, hfinding, h⟩ := except_bind_ok h
  obtain ⟨findingSet, _, h⟩ := except_bind_ok h
  obtain ⟨strategies, _, h⟩ := except_bind_ok h
  obtain ⟨strategySet, _, h⟩ := except_bind_ok h
  obtain ⟨request, _, h⟩ := except_bind_ok h
  cases h
  refine ⟨.report _ finding strategies.contentDigest _ _ hfinding rfl ?_ rfl, ⟨rfl, rfl, rfl⟩⟩
  cases hpassed : (qualityGateResults findingSet.findings strategySet.strategies).all (·.passed) with
  | true => simp
  | false =>
    simp only [Bool.false_eq_true, if_false, iff_false]
    split <;> simp

theorem handleA382_seals (h : handleA382 codec a c.store c.state = .ok execution) :
    Seals codec a c ⟨.A3, 82⟩ execution ∧ SameCase c.state execution.state := by
  obtain ⟨_, _, h⟩ := except_bind_ok h
  obtain ⟨strategySet, _, h⟩ := except_bind_ok h
  obtain ⟨_, _, h⟩ := except_bind_ok h
  obtain ⟨_, _, h⟩ := except_bind_ok h
  obtain ⟨request, _, h⟩ := except_bind_ok h
  cases h
  refine ⟨.directive _ _ rfl rfl ?_ rfl, ⟨rfl, rfl, rfl⟩⟩
  intro hroute
  by_contra hexhausted
  have hstops : maxRevisionAttempts ≤ c.state.a3RevisionAttempts + 1 := by omega
  simp [hstops] at hroute

theorem handleA390_seals (h : handleA390 codec a c.store c.state = .ok execution) :
    Seals codec a c ⟨.A3, 90⟩ execution ∧ SameCase c.state execution.state := by
  obtain ⟨finding, hfinding, h⟩ := except_bind_ok h
  obtain ⟨_, _, h⟩ := except_bind_ok h
  obtain ⟨_, _, h⟩ := except_bind_ok h
  obtain ⟨strategySet, _, h⟩ := except_bind_ok h
  obtain ⟨quality, hquality, h⟩ := except_bind_ok h
  obtain ⟨_, _, h⟩ := except_bind_ok h
  split at h
  · rename_i heligible
    cases h
    exact ⟨.portfolio _ finding quality _ hfinding hquality heligible rfl rfl, ⟨rfl, rfl, rfl⟩⟩
  · cases h

theorem handleB260_seals (h : handleB260 a c.state = .ok execution) :
    Seals codec a c ⟨.B2, 60⟩ execution ∧ SameCase c.state execution.state := by
  obtain ⟨_, _, h⟩ := except_bind_ok h
  obtain ⟨_, _, h⟩ := except_bind_ok h
  obtain ⟨_, _, h⟩ := except_bind_ok h
  obtain ⟨_, _, h⟩ := except_bind_ok h
  cases h
  exact ⟨.proposal _ _ rfl rfl rfl, ⟨rfl, rfl, rfl⟩⟩

theorem caseHandler_seals [DecidableEq D] {n : NodeId} (h : caseHandler codec n a c.store c.state = .ok execution) :
    Seals codec a c n execution ∧ SameCase c.state execution.state := by
  unfold caseHandler at h
  split at h
  · cases h
    exact ⟨.strategySet _ _ rfl rfl rfl, ⟨rfl, rfl, rfl⟩⟩
  · exact handleA381_seals h
  · exact handleA382_seals h
  · exact handleA390_seals h
  · exact handleB260_seals h
  · cases h

end Handlers

section Frame
variable {D B : Type} [DecidableEq D] {codec : Codec D B} {c c' : CaseConfig D B}
  {visit : CaseVisit D}

namespace CaseSpec

theorem seals (h : CaseSpec codec c visit c') :
    ∃ a, Seals codec a c visit.node visit.execution := by
  obtain ⟨a, hhandler⟩ := h.handler
  exact ⟨a, (caseHandler_seals hhandler).1⟩

theorem sameCase (h : CaseSpec codec c visit c') : SameCase c.state visit.execution.state := by
  obtain ⟨a, hhandler⟩ := h.handler
  exact (caseHandler_seals hhandler).2

theorem caseId (h : CaseSpec codec c visit c') : c'.state.caseId = c.state.caseId := by
  obtain ⟨refs, hstate⟩ := h.state
  rw [hstate]
  exact h.sameCase.caseId

theorem lane (h : CaseSpec codec c visit c') : c'.state.lane = c.state.lane := by
  obtain ⟨refs, hstate⟩ := h.state
  rw [hstate]
  exact h.sameCase.lane

theorem a3RevisionAttempts (h : CaseSpec codec c visit c') :
    c'.state.a3RevisionAttempts = visit.execution.state.a3RevisionAttempts := by
  obtain ⟨refs, hstate⟩ := h.state
  rw [hstate]

theorem mem_iff (h : CaseSpec codec c visit c') (ref : SealedRef D) :
    ref ∈ c'.state.artifactRefs ↔ ref ∈ c.state.artifactRefs ∨
      ∃ m ∈ visit.execution.sealedModels, sealedRef codec m = ref := by
  rw [h.mem_refs, h.sameCase.artifactRefs, List.mem_map]

theorem stored_new (h : CaseSpec codec c visit c') (hsound : codec.Sound)
    (hintact : StoreIntact codec c.store) {m : SealedModel D}
    (hm : m ∈ visit.execution.sealedModels) : Stored codec m c' where
  ref := (h.mem_iff _).mpr (Or.inr ⟨m, hm, rfl⟩)
  bytes := by
    rw [h.store]
    exact foldl_putEnvelope_stored hsound hintact hm

theorem intact (h : CaseSpec codec c visit c') (hintact : StoreIntact codec c.store) :
    StoreIntact codec c'.store := by
  rw [h.store]
  exact foldl_putEnvelope_intact hintact

end CaseSpec

theorem Stored.step {m : SealedModel D} (hm : Stored codec m c) (h : CaseSpec codec c visit c') :
    Stored codec m c' where
  ref := (h.mem_iff _).mpr (Or.inl hm.ref)
  bytes := by
    rw [h.store]
    exact foldl_putEnvelope_mono hm.bytes

theorem OnlyOne.step {m : SealedModel D} (hm : OnlyOne codec m c)
    (h : CaseSpec codec c visit c')
    (htype : ∀ new ∈ visit.execution.sealedModels, new.artifactType ≠ m.artifactType) :
    OnlyOne codec m c' where
  toStored := hm.toStored.step h
  unique ref href hreftype := by
    rcases (h.mem_iff ref).mp href with hold | ⟨new, hnew, rfl⟩
    · exact hm.unique ref hold hreftype
    · exact absurd hreftype (htype new hnew)

def laneTypes : List SealedType :=
  [.solutionStrategySet, .a3QualityReport, .revisionDirective, .solutionPortfolio,
   .proposalEnvelope]

theorem CaseSpec.type_mem (h : CaseSpec codec c visit c') :
    ∀ m ∈ visit.execution.sealedModels, m.artifactType ∈ laneTypes := by
  obtain ⟨a, hseals⟩ := h.seals
  intro m hm
  obtain ⟨node, execution⟩ := visit
  cases hseals with
  | strategySet _ new htype hmodels _ =>
    rw [hmodels, List.mem_singleton] at hm
    rw [hm, htype]
    decide
  | report _ _ _ _ _ _ hmodels _ _ =>
    rw [hmodels, List.mem_singleton] at hm
    rw [hm]
    exact List.mem_of_elem_eq_true rfl
  | directive _ new htype hmodels _ _ =>
    rw [hmodels, List.mem_singleton] at hm
    rw [hm, htype]
    decide
  | portfolio _ _ _ _ _ _ _ hmodels _ =>
    rw [hmodels, List.mem_singleton] at hm
    rw [hm]
    exact List.mem_of_elem_eq_true rfl
  | proposal _ new htype hmodels _ =>
    rw [hmodels, List.mem_singleton] at hm
    rw [hm, htype]
    decide

end Frame

end ProductionOptimizer
