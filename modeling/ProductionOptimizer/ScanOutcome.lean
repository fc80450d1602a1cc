import ProductionOptimizer.ScanSteps

/-!
# What an automatic scan opens

A scan starts from seeded signals and one registered source set. Whether it reaches `B1.96` is
settled by the signals, the intake policy and the embedded A2; what it seals on the way is
determined by the signals and the first registered source.
-/

namespace ProductionOptimizer.Scan
open Policy Runs
set_option autoImplicit false

/-! ### What each node hands over -/

section Handlers
variable {D : Type} {ports : Ports D} {now : Int} {s : ScanState D} {execution : Execution D}

/-- The updates leave the channels alone that a later node decides on. -/
structure Quiet (updates : Updates D) : Prop where
  signals : updates.signals = []
  unlabelled : ∀ binding ∈ updates.featureBindings, binding.featureId = none
  sourceBindings : updates.sourceBindings = []
  scores : updates.scores = []
  decisions : updates.qualificationDecisions = []

theorem quiet_of_empty {updates : Updates D} (hsignals : updates.signals = [])
    (hfeatures : updates.featureBindings = []) (hsources : updates.sourceBindings = [])
    (hscores : updates.scores = []) (hdecisions : updates.qualificationDecisions = []) :
    Quiet updates where
  signals := hsignals
  unlabelled := by simp [hfeatures]
  sourceBindings := hsources
  scores := hscores
  decisions := hdecisions

theorem quiet_sealing (ref : Ref D) : Quiet (sealing ref).updates :=
  quiet_of_empty rfl rfl rfl rfl rfl

theorem handleB110_ok (h : handleB110 ports now s = .ok execution) : ∃ ref scanId start stop,
    execution = sealing ref ∧ ref.body = .discoveryScanContext scanId start stop := by
  unfold handleB110 at h
  obtain ⟨scanId, _, h⟩ := except_bind_ok h
  obtain ⟨ref, href, h⟩ := except_bind_ok h
  cases h
  exact ⟨ref, scanId, _, _, rfl, sealModel_ok href⟩

theorem handleB120_ok (h : handleB120 ports now s = .ok execution) : ∃ ref sources,
    execution = sealing ref ∧ ref.body = .registeredSourceSet sources ∧
      ∃ seed ∈ s.artifactRefs, seed.body = .registeredSourceSet sources := by
  unfold handleB120 at h
  obtain ⟨seed, hseed, h⟩ := except_bind_ok h
  split at h
  · rename_i sources hbody
    obtain ⟨ref, href, h⟩ := except_bind_ok h
    cases h
    exact ⟨ref, sources, rfl, sealModel_ok href, seed, (requireRef_ok hseed).1, hbody⟩
  · cases h

/-- The repository that a scan observes: the first registered one. -/
def registeredRepository (sources : List RegisteredSource) : String :=
  (sources.head?.map (·.repositoryId)).getD "none"

theorem handleB121_ok (h : handleB121 ports now s = .ok execution) :
    ∃ ref sources sourceId revision fingerprint, execution = sealing ref ∧
      ref.body = .observedSourceIdentity sourceId (registeredRepository sources) revision
        fingerprint ∧
      ∃ seed ∈ s.artifactRefs, seed.body = .registeredSourceSet sources := by
  unfold handleB121 at h
  obtain ⟨sources, hsources, h⟩ := except_bind_ok h
  cases sources with
  | nil =>
    obtain ⟨ref, href, h⟩ := except_bind_ok h
    cases h
    exact ⟨ref, [], _, _, _, rfl, sealModel_ok href, readRegistry_ok hsources⟩
  | cons source rest =>
    obtain ⟨ref, href, h⟩ := except_bind_ok h
    cases h
    exact ⟨ref, source :: rest, _, _, _, rfl, sealModel_ok href, readRegistry_ok hsources⟩

theorem handleB130_ok (h : handleB130 ports now s = .ok execution) : ∃ ref sourceId revisions,
    execution = sealing ref ∧ ref.body = .historicalSourceInventory sourceId revisions := by
  unfold handleB130 at h
  obtain ⟨sources, _, h⟩ := except_bind_ok h
  obtain ⟨ref, href, h⟩ := except_bind_ok h
  cases h
  cases sources with
  | nil => exact ⟨ref, _, _, rfl, sealModel_ok href⟩
  | cons source rest => exact ⟨ref, _, _, rfl, sealModel_ok href⟩

theorem requirePolicy_ok {node : Nat}
    {evaluate : PolicyRequest → Except PolicyFailure PolicyDecision}
    (h : requirePolicy ports node = .ok evaluate) : ports.policy = some evaluate := by
  unfold requirePolicy at h
  split at h
  · rename_i found hfound
    cases h
    exact hfound
  · cases h

theorem mapError_ok {ε ε' α : Type} {f : ε → ε'} {x : Except ε α} {a : α}
    (h : x.mapError f = .ok a) : x = .ok a := by
  cases x with
  | error e => cases h
  | ok b =>
    cases h
    rfl

theorem handleB131_ok (h : handleB131 ports now s = .ok execution) : ∃ evaluate decision ref kinds,
    ports.policy = some evaluate ∧ evaluate (readRequest s) = .ok decision ∧
      execution = sealing ref ∧
      ref.body = .readAuthorization s.caseId decision.allowed decision.reasons kinds := by
  unfold handleB131 at h
  obtain ⟨evaluate, hevaluate, h⟩ := except_bind_ok h
  obtain ⟨_, _, h⟩ := except_bind_ok h
  obtain ⟨scanId, hscan, h⟩ := except_bind_ok h
  obtain ⟨decision, hdecision, h⟩ := except_bind_ok h
  split at h
  · cases h
  · obtain ⟨ref, href, h⟩ := except_bind_ok h
    cases h
    obtain rfl := requiredStateStr_ok hscan
    exact ⟨evaluate, decision, ref, _, requirePolicy_ok hevaluate, mapError_ok hdecision, rfl,
      sealModel_ok href⟩

theorem handleB140_ok (h : handleB140 s = .ok execution) :
    ∃ groups, execution = { updates := { runGroups := groups } } := by
  unfold handleB140 at h
  obtain ⟨evidence, _, h⟩ := except_bind_ok h
  cases h
  exact ⟨_, rfl⟩

theorem handleB160_ok (h : handleB160 s = .ok execution) : ∃ bindings,
    execution = { updates := { featureBindings := bindings } } ∧
      ∀ binding ∈ bindings, binding.featureId = none := by
  cases h
  refine ⟨_, rfl, fun binding hbinding => ?_⟩
  obtain ⟨signal, _, rfl⟩ := List.mem_map.mp hbinding
  rfl

theorem handleB161_ok (h : handleB161 s = .ok execution) (hsignals : s.signals ≠ []) :
    ∃ binding identity sourceId revision fingerprint,
      execution = { updates := { sourceBindings := [binding] } } ∧ identity ∈ s.artifactRefs ∧
      identity.body = .observedSourceIdentity sourceId binding.repositoryId revision fingerprint ∧
      binding.gitRevision = revision := by
  unfold handleB161 at h
  rw [if_neg (by simpa using hsignals)] at h
  obtain ⟨identity, hidentity, h⟩ := except_bind_ok h
  split at h
  · rename_i sourceId repositoryId revision fingerprint hbody
    obtain ⟨caseId, _, h⟩ := except_bind_ok h
    cases h
    exact ⟨_, identity, sourceId, revision, fingerprint, rfl, (requireRef_ok hidentity).1, hbody,
      rfl⟩
  · cases h

theorem handleB161_cases (h : handleB161 s = .ok execution) :
    ∃ bindings, execution = { updates := { sourceBindings := bindings } } := by
  by_cases hsignals : s.signals = []
  · unfold handleB161 at h
    rw [if_pos (by simpa using hsignals)] at h
    cases h
    exact ⟨[], rfl⟩
  · obtain ⟨binding, _, _, _, _, hexecution, _⟩ := handleB161_ok h hsignals
    exact ⟨[binding], hexecution⟩

theorem handleB162_ok (h : handleB162 s = .ok execution) :
    ∃ bindings, execution = { updates := { ownershipBindings := bindings } } := by
  unfold handleB162 at h
  split at h
  · cases h
    exact ⟨[], rfl⟩
  · obtain ⟨caseId, _, h⟩ := except_bind_ok h
    cases h
    exact ⟨_, rfl⟩

/-- Some signal is scored at the threshold or above. -/
def Severe (ports : Ports D) (signals : List DetectionSignal) : Prop :=
  ∃ signal ∈ signals, qualificationThreshold ≤ composite ports signal.severity

theorem handleB171_ok {signals : List DetectionSignal}
    (hscores : s.scores = signals.map (score ports)) (h : handleB171 ports s = .ok execution) :
    ∃ decision, execution.updates = { qualificationDecisions := [decision] } ∧
      (decision.qualified = true ↔ Severe ports signals) ∧
      (execution.route = .continue_ ↔ Severe ports signals) := by
  unfold handleB171 at h
  obtain ⟨caseId, _, h⟩ := except_bind_ok h
  rw [hscores] at h
  split at h
  · rename_i hnone
    have hempty : signals = [] := List.map_eq_nil_iff.mp (List.argmax_eq_none.mp hnone)
    have hmild : ¬ Severe ports signals := by simp [Severe, hempty]
    cases h
    exact ⟨_, rfl, iff_of_false Bool.false_ne_true hmild, iff_of_false (by simp) hmild⟩
  · rename_i top htop
    have hsevere : qualificationThreshold ≤ top.composite ↔ Severe ports signals := by
      constructor
      · intro hle
        obtain ⟨signal, hsignal, hscore⟩ := List.mem_map.mp (List.argmax_mem htop)
        rw [← hscore] at hle
        exact ⟨signal, hsignal, hle⟩
      · rintro ⟨signal, hsignal, hle⟩
        exact hle.trans (List.le_of_mem_argmax (List.mem_map_of_mem hsignal) htop)
    cases h
    refine ⟨_, rfl, by simpa using hsevere, ?_⟩
    by_cases hle : qualificationThreshold ≤ top.composite
    · simp [hle, hsevere.mp hle]
    · have hroute : ∀ b : Bool, (if b then NodeRoute.quarantine else NodeRoute.rejected) ≠
          NodeRoute.continue_ := by decide
      simp only [hle, decide_false, Bool.false_eq_true, if_false]
      exact iff_of_false (hroute _) fun hs => hle (hsevere.mpr hs)

theorem length_dedup_lt_iff {l : List String} : l.dedup.length < l.length ↔ ¬ l.Nodup := by
  rw [← List.dedup_eq_self]
  constructor
  · intro hlt heq
    rw [heq] at hlt
    exact absurd hlt (lt_irrefl _)
  · intro hne
    exact lt_of_le_of_ne l.dedup_sublist.length_le fun hlength =>
      hne (l.dedup_sublist.eq_of_length hlength)

theorem handleB180_ok (h : handleB180 s = .ok execution) : execution.updates = {} ∧
    (execution.route = .continue_ ↔ (s.signals.map (·.metricId)).Nodup) := by
  have hlength : (s.signals.map (·.metricId)).length = s.signals.length := List.length_map _
  cases h
  refine ⟨rfl, ?_⟩
  dsimp only
  rw [← hlength, ← not_iff_not, ← length_dedup_lt_iff]
  split
  · rename_i hlt
    exact iff_of_true (by decide) hlt
  · rename_i hge
    exact iff_of_false (by decide) hge

theorem handleB181_ok (h : handleB181 ports now s = .ok execution)
    (hdecisions : s.qualificationDecisions.any (·.qualified) = true) :
    ∃ ref cooldown, execution.route = .continue_ ∧
      execution.updates = { artifactRefs := [ref], cooldownDecisions := [cooldown] } ∧
      ref.body = .detectionReport (detectionReport now s s.caseId cooldown) := by
  unfold handleB181 at h
  obtain ⟨caseId, hcase, h⟩ := except_bind_ok h
  rw [if_pos hdecisions] at h
  obtain ⟨context, _, h⟩ := except_bind_ok h
  obtain ⟨ref, href, h⟩ := except_bind_ok h
  cases h
  obtain rfl := requiredStateStr_ok hcase
  exact ⟨ref, _, rfl, rfl, sealModel_ok href⟩

theorem handleB190_ok (h : handleB190 ports now s = .ok execution) :
    ∃ ref reportRef registryRef report sources, execution.route = .continue_ ∧
      execution.updates = { artifactRefs := [ref], requestRef := some ref } ∧
      reportRef ∈ s.artifactRefs ∧ reportRef.body = .detectionReport report ∧
      registryRef ∈ s.artifactRefs ∧ registryRef.body = .registeredSourceSet sources ∧
      ref.body = .optimizationRequest (requestOf ports s.caseId report sources) := by
  unfold handleB190 at h
  obtain ⟨reportRef, hreportRef, h⟩ := except_bind_ok h
  obtain ⟨report, hreport, h⟩ := except_bind_ok h
  obtain ⟨caseId, hcase, h⟩ := except_bind_ok h
  obtain ⟨sources, hsources, h⟩ := except_bind_ok h
  obtain ⟨ref, href, h⟩ := except_bind_ok h
  cases h
  obtain ⟨registryRef, hregistry, hregistryBody⟩ := readRegistry_ok hsources
  obtain rfl := requiredStateStr_ok hcase
  exact ⟨ref, reportRef, registryRef, report, sources, rfl, rfl, (requireRef_ok hreportRef).1,
    readReport_ok hreport, hregistry, hregistryBody, sealModel_ok href⟩

theorem handleB191_ok (h : handleB191 ports s = .ok execution) :
    ∃ ref request evaluate decision, execution.updates = {} ∧ ref ∈ s.artifactRefs ∧
      ref.body = .optimizationRequest request ∧ ports.policy = some evaluate ∧
      evaluate (intakeRequest s request.objective.featureId) = .ok decision ∧
      (execution.route = .continue_ ↔ decision.allowed = true) := by
  unfold handleB191 at h
  obtain ⟨evaluate, hevaluate, h⟩ := except_bind_ok h
  obtain ⟨ref, href, h⟩ := except_bind_ok h
  split at h
  · rename_i request hbody
    obtain ⟨_, _, h⟩ := except_bind_ok h
    obtain ⟨decision, hdecision, h⟩ := except_bind_ok h
    cases h
    refine ⟨ref, request, evaluate, decision, rfl, (requireRef_ok href).1, hbody,
      requirePolicy_ok hevaluate, mapError_ok hdecision, ?_⟩
    cases hallowed : decision.allowed with
    | true => simp
    | false =>
      have hroute : ∀ b : Bool, (if b then NodeRoute.rejected else NodeRoute.approval) ≠
          NodeRoute.continue_ := by decide
      exact iff_of_false (hroute _) Bool.false_ne_true
  · cases h

/-- A ref of the type has the digest. -/
def Holds (refs : List (Ref D)) (type : ScanType) (digest : D) : Prop :=
  ∃ ref ∈ refs, ref.type = type ∧ ref.digest = digest

/-- The digests of an opportunity are those of artifacts at hand. -/
structure Linked (refs : List (Ref D)) (opportunity : QualifiedOpportunity D) : Prop where
  report : Holds refs .detectionReport opportunity.detectionReportDigest
  request : Holds refs .optimizationRequest opportunity.requestDigest
  sourceSnapshot : Holds refs (.recovered .sourceSnapshot) opportunity.sourceSnapshotDigest
  baseline : Holds refs (.recovered .baselineSnapshot) opportunity.baselineDigest
  evidenceBundle : Holds refs (.recovered .evidenceBundle) opportunity.evidenceBundleDigest
  comparability : Holds refs (.recovered .comparabilityReport)
    opportunity.comparabilityReportDigest

theorem holds_of_requireRef {type : ScanType} {ref : Ref D} (h : requireRef s type = .ok ref) :
    Holds s.artifactRefs type ref.digest :=
  ⟨ref, (requireRef_ok h).1, (requireRef_ok h).2, rfl⟩

theorem handleB196_ok (h : handleB196 ports now s = .ok execution) :
    ∃ ref reportRef report opportunity, execution = sealing ref ∧
      ref.body = .qualifiedOpportunity opportunity ∧ Linked s.artifactRefs opportunity ∧
      reportRef ∈ s.artifactRefs ∧ reportRef.body = .detectionReport report ∧
      opportunity.sourceBinding = report.sourceBindings.head?.getD missingSourceBinding := by
  unfold handleB196 at h
  obtain ⟨reportRef, hreportRef, h⟩ := except_bind_ok h
  obtain ⟨requestRef, hrequest, h⟩ := except_bind_ok h
  obtain ⟨sourceSnapshot, hsnapshot, h⟩ := except_bind_ok h
  obtain ⟨baseline, hbaseline, h⟩ := except_bind_ok h
  obtain ⟨bundle, hbundle, h⟩ := except_bind_ok h
  obtain ⟨comparability, hcomparability, h⟩ := except_bind_ok h
  obtain ⟨report, hreport, h⟩ := except_bind_ok h
  obtain ⟨caseId, _, h⟩ := except_bind_ok h
  obtain ⟨ref, href, h⟩ := except_bind_ok h
  cases h
  refine ⟨ref, reportRef, report, _, rfl, sealModel_ok href, ?_, (requireRef_ok hreportRef).1,
    readReport_ok hreport, rfl⟩
  exact ⟨holds_of_requireRef hreportRef, holds_of_requireRef hrequest,
    holds_of_requireRef hsnapshot, holds_of_requireRef hbaseline, holds_of_requireRef hbundle,
    holds_of_requireRef hcomparability⟩

end Handlers

/-! ### The invariant -/

section Invariant
variable {D : Type} {ports : Ports D} {s₀ s s' : ScanState D} {sources : List RegisteredSource}
  {now : Int} {updates : Updates D}

/-- A state as a scan starts from it: seeded signals and one registered source set. -/
structure Fresh (sources : List RegisteredSource) (s : ScanState D) : Prop where
  pending : s.pending = [10]
  seeded : ∃ seed, s.artifactRefs = [seed] ∧ seed.body = .registeredSourceSet sources
  featureBindings : s.featureBindings = []
  sourceBindings : s.sourceBindings = []
  scores : s.scores = []
  decisions : s.qualificationDecisions = []

def Distinct (signals : List DetectionSignal) : Prop := (signals.map (·.metricId)).Nodup

/-- The policy allows the intake of the feature that a scan falls back on. -/
def Admitted (ports : Ports D) (s₀ : ScanState D) : Prop :=
  ∃ evaluate decision, ports.policy = some evaluate ∧
    evaluate (intakeRequest s₀ s₀.caseId) = .ok decision ∧ decision.allowed = true

/-- What it takes for an opportunity to be sealed. -/
structure Opens (ports : Ports D) (s₀ : ScanState D) (completed : List NodeId) : Prop where
  severe : Severe ports s₀.signals
  distinct : Distinct s₀.signals
  admitted : Admitted ports s₀
  recovered : ⟨.A2, 95⟩ ∈ completed

/-- The bindings are those of the first registered source. -/
def Bound (sources : List RegisteredSource) (bindings : List SourceBinding) : Prop :=
  ∃ binding, bindings = [binding] ∧ binding.repositoryId = registeredRepository sources

structure Accounts (ports : Ports D) (s₀ : ScanState D) (sources : List RegisteredSource)
    (report : DetectionReport) : Prop where
  signals : report.signals = s₀.signals
  scores : report.scores = s₀.signals.map (score ports)
  unlabelled : ∀ binding ∈ report.featureBindings, binding.featureId = none
  bound : Bound sources report.sourceBindings
  severe : Severe ports s₀.signals
  distinct : Distinct s₀.signals

/-- The policy's answer to the read request of the scan. -/
def Decided (ports : Ports D) (s₀ : ScanState D) (allowed : Bool) (reasons : List String) : Prop :=
  ∃ evaluate decision, ports.policy = some evaluate ∧
    evaluate (readRequest s₀) = .ok decision ∧
    decision.allowed = allowed ∧ decision.reasons = reasons

/-- What is sealed in a scan. -/
def BodyOk (ports : Ports D) (s₀ : ScanState D) (sources : List RegisteredSource) : Body D → Prop
  | .registeredSourceSet found => found = sources
  | .observedSourceIdentity _ repositoryId _ _ => repositoryId = registeredRepository sources
  | .detectionReport report => Accounts ports s₀ sources report
  | .optimizationRequest request => ∃ report, Accounts ports s₀ sources report ∧
      request = requestOf ports s₀.caseId report sources
  | .qualifiedOpportunity opportunity =>
      opportunity.sourceBinding.repositoryId = registeredRepository sources
  | .readAuthorization _ allowed reasons _ => Decided ports s₀ allowed reasons
  | .historicalEvidenceBranch _ kind evidence reason => evidence = [] ∧
      ∃ allowed reasons, Decided ports s₀ allowed reasons ∧
        reason = some (unavailable kind allowed reasons)
  | .discoveryScanContext .. | .historicalSourceInventory .. | .recovered .. => True

def position (s : ScanState D) : Nat := s.pending.headD 100

/-- The channels, by the position of the scan: each is filled by one node. -/
structure Channels (ports : Ports D) (s₀ : ScanState D) (sources : List RegisteredSource)
    (s : ScanState D) : Prop where
  signals : position s ≤ 95 → s.signals = s₀.signals
  unlabelled : ∀ binding ∈ s.featureBindings, binding.featureId = none
  unbound : position s ≤ 61 → s.sourceBindings = []
  bound : 61 < position s → position s ≤ 95 → s₀.signals ≠ [] → Bound sources s.sourceBindings
  unscored : position s ≤ 70 → s.scores = []
  scored : 70 < position s → position s ≤ 95 → s.scores = s₀.signals.map (score ports)
  undecided : position s ≤ 71 → s.qualificationDecisions = []
  qualified : 71 < position s → position s ≤ 95 → s.qualificationDecisions.any (·.qualified) = true

/-- What has been passed, by the position of the scan. -/
structure Gates (ports : Ports D) (s₀ : ScanState D) (s : ScanState D) : Prop where
  severe : 71 < position s → position s ≤ 96 → Severe ports s₀.signals
  distinct : 80 < position s → position s ≤ 96 → Distinct s₀.signals
  admitted : 91 < position s → position s ≤ 96 → Admitted ports s₀
  recovered : position s = 96 → ⟨.A2, 95⟩ ∈ s.completedNodes

structure ScanInv (ports : Ports D) (s₀ : ScanState D) (sources : List RegisteredSource)
    (s : ScanState D) : Prop where
  stop : s.pending ∈ stops
  caseId : s.caseId = s₀.caseId
  tenantId : s.tenantId = s₀.tenantId
  channels : Channels ports s₀ sources s
  gates : Gates ports s₀ s
  bodies : ∀ ref ∈ s.artifactRefs, BodyOk ports s₀ sources ref.body
  opened : ∀ ref ∈ s.artifactRefs, ∀ opportunity, ref.body = .qualifiedOpportunity opportunity →
    Opens ports s₀ s.completedNodes ∧ Linked s.artifactRefs opportunity
  ended : position s = 100 → Opens ports s₀ s.completedNodes →
    ∃ ref ∈ s.artifactRefs, ref.type = .qualifiedOpportunity

theorem Opens.mono {nodes nodes' : List NodeId} (h : Opens ports s₀ nodes)
    (hnodes : ∀ node ∈ nodes, node ∈ nodes') : Opens ports s₀ nodes' :=
  ⟨h.severe, h.distinct, h.admitted, hnodes _ h.recovered⟩

theorem Holds.merged {refs new out : List (Ref D)} (hmerged : Merged refs new out)
    {type : ScanType} {digest : D} (h : Holds refs type digest) : Holds out type digest := by
  obtain ⟨ref, href, htype, hdigest⟩ := h
  obtain ⟨held, hheld, htype', hdigest'⟩ := hmerged.kept ref (Or.inl href)
  exact ⟨held, hheld, htype'.trans htype, hdigest'.trans hdigest⟩

theorem Linked.merged {refs new out : List (Ref D)} (hmerged : Merged refs new out)
    {opportunity : QualifiedOpportunity D} (h : Linked refs opportunity) :
    Linked out opportunity where
  report := h.report.merged hmerged
  request := h.request.merged hmerged
  sourceSnapshot := h.sourceSnapshot.merged hmerged
  baseline := h.baseline.merged hmerged
  evidenceBundle := h.evidenceBundle.merged hmerged
  comparability := h.comparability.merged hmerged

/-- No node between the two positions fills a channel. -/
def SameSide (p p' : Nat) : Prop :=
  p ≤ 95 ∧ (p ≤ 61 ↔ p' ≤ 61) ∧ (p ≤ 70 ↔ p' ≤ 70) ∧ (p ≤ 71 ↔ p' ≤ 71)

instance (p p' : Nat) : Decidable (SameSide p p') :=
  inferInstanceAs (Decidable (_ ∧ _ ∧ _ ∧ _))

theorem Channels.quiet (h : Channels ports s₀ sources s) (hmoved : Moved s updates s')
    (hquiet : Quiet updates) (hside : SameSide (position s) (position s')) :
    Channels ports s₀ sources s' := by
  have hsignals : s'.signals = s.signals := by rw [hmoved.signals, hquiet.signals, List.append_nil]
  have hsources : s'.sourceBindings = s.sourceBindings := by
    rw [hmoved.sourceBindings, hquiet.sourceBindings, List.append_nil]
  have hscores : s'.scores = s.scores := by rw [hmoved.scores, hquiet.scores, List.append_nil]
  have hdecisions : s'.qualificationDecisions = s.qualificationDecisions := by
    rw [hmoved.decisions, hquiet.decisions, List.append_nil]
  unfold SameSide at hside
  constructor
  · intro hp
    rw [hsignals]
    exact h.signals (by omega)
  · intro binding hbinding
    rw [hmoved.featureBindings] at hbinding
    rcases List.mem_append.mp hbinding with hold | hnew
    · exact h.unlabelled binding hold
    · exact hquiet.unlabelled binding hnew
  · intro hp
    rw [hsources]
    exact h.unbound (by omega)
  · intro hp hp' hne
    rw [hsources]
    exact h.bound (by omega) (by omega) hne
  · intro hp
    rw [hscores]
    exact h.unscored (by omega)
  · intro hp hp'
    rw [hscores]
    exact h.scored (by omega) (by omega)
  · intro hp
    rw [hdecisions]
    exact h.undecided (by omega)
  · intro hp hp'
    rw [hdecisions]
    exact h.qualified (by omega) (by omega)

/-- Behind the embedded A2 and at the end nothing more is asked of the channels. -/
theorem Channels.past (h : Channels ports s₀ sources s) (hmoved : Moved s updates s')
    (hp : 95 < position s')
    (hunlabelled : ∀ binding ∈ updates.featureBindings, binding.featureId = none) :
    Channels ports s₀ sources s' := by
  refine ⟨by omega, fun binding hbinding => ?_, by omega, by omega, by omega, by omega, by omega,
    by omega⟩
  rw [hmoved.featureBindings] at hbinding
  rcases List.mem_append.mp hbinding with hold | hnew
  · exact h.unlabelled binding hold
  · exact hunlabelled binding hnew

/-- No gate is between the two positions. -/
def SameGates (p p' : Nat) : Prop :=
  p' ≤ 95 ∧ p ≤ 95 ∧ (71 < p ↔ 71 < p') ∧ (80 < p ↔ 80 < p') ∧ (91 < p ↔ 91 < p')

instance (p p' : Nat) : Decidable (SameGates p p') :=
  inferInstanceAs (Decidable (_ ∧ _ ∧ _ ∧ _ ∧ _))

theorem Gates.same (h : Gates ports s₀ s) (hside : SameGates (position s) (position s')) :
    Gates ports s₀ s' := by
  unfold SameGates at hside
  constructor
  · intro hp hp'
    exact h.severe (by omega) (by omega)
  · intro hp hp'
    exact h.distinct (by omega) (by omega)
  · intro hp hp'
    exact h.admitted (by omega) (by omega)
  · intro hp
    omega

/-- A step that seals no opportunity. -/
theorem ScanInv.next (h : ScanInv ports s₀ sources s) (hmoved : Moved s updates s')
    (hstop : s'.pending ∈ stops) (hchannels : Channels ports s₀ sources s')
    (hgates : Gates ports s₀ s')
    (hnew : ∀ ref ∈ updates.artifactRefs,
      BodyOk ports s₀ sources ref.body ∧ ref.type ≠ .qualifiedOpportunity)
    (hended : position s' = 100 → ¬ Opens ports s₀ s'.completedNodes) :
    ScanInv ports s₀ sources s' where
  stop := hstop
  caseId := hmoved.caseId.trans h.caseId
  tenantId := hmoved.tenantId.trans h.tenantId
  channels := hchannels
  gates := hgates
  bodies ref href := by
    rcases hmoved.refs.mem ref href with hold | href
    · exact h.bodies ref hold
    · exact (hnew ref href).1
  opened ref href opportunity hbody := by
    rcases hmoved.refs.mem ref href with hold | href
    · obtain ⟨hopens, hlinked⟩ := h.opened ref hold opportunity hbody
      exact ⟨hopens.mono hmoved.completed, hlinked.merged hmoved.refs⟩
    · refine absurd ?_ (hnew ref href).2
      rw [Ref.type, hbody]
      rfl
  ended hp hopens := absurd hopens (hended hp)

/-- A step between two gates that fills no channel. -/
theorem ScanInv.quiet (h : ScanInv ports s₀ sources s) (hmoved : Moved s updates s')
    (hstop : s'.pending ∈ stops) (hquiet : Quiet updates)
    (hside : SameSide (position s) (position s')) (hgates : SameGates (position s) (position s'))
    (hnew : ∀ ref ∈ updates.artifactRefs,
      BodyOk ports s₀ sources ref.body ∧ ref.type ≠ .qualifiedOpportunity) :
    ScanInv ports s₀ sources s' :=
  h.next hmoved hstop (h.channels.quiet hmoved hquiet hside) (h.gates.same hgates) hnew
    fun hp => by have := hgates.1; omega

theorem ref_ok {ref : Ref D} {body : Body D} (hbody : ref.body = body)
    (hok : BodyOk ports s₀ sources body) (htype : body.type ≠ .qualifiedOpportunity) :
    BodyOk ports s₀ sources ref.body ∧ ref.type ≠ .qualifiedOpportunity := by
  rw [Ref.type, hbody]
  exact ⟨hok, htype⟩

theorem exists_opportunity {ref : Ref D} (h : ref.type = .qualifiedOpportunity) :
    ∃ opportunity, ref.body = .qualifiedOpportunity opportunity := by
  rw [Ref.type] at h
  cases hbody : ref.body with
  | qualifiedOpportunity opportunity => exact ⟨opportunity, rfl⟩
  | _ =>
    rw [hbody] at h
    cases h

theorem exists_request {ref : Ref D} (h : ref.type = .optimizationRequest) :
    ∃ request, ref.body = .optimizationRequest request := by
  rw [Ref.type] at h
  cases hbody : ref.body with
  | optimizationRequest request => exact ⟨request, rfl⟩
  | _ =>
    rw [hbody] at h
    cases h

theorem position_eq {pending : List Nat} (h : s.pending = pending) :
    position s = pending.headD 100 := by rw [position, h]

/-! The nodes up to `B1.70`. -/

/-- What a node before `B1.70` seals: one artifact. -/
theorem ScanInv.sealed (h : ScanInv ports s₀ sources s) {ref : Ref D}
    (hmoved : Moved s (sealing ref).updates s') (hstop : s'.pending ∈ stops)
    (hside : SameSide (position s) (position s')) (hgates : SameGates (position s) (position s'))
    (hok : BodyOk ports s₀ sources ref.body ∧ ref.type ≠ .qualifiedOpportunity) :
    ScanInv ports s₀ sources s' :=
  h.quiet hmoved hstop (quiet_sealing ref) hside hgates fun ref' href => by
    cases List.mem_singleton.mp href
    exact hok

theorem step_collecting (h : ScanInv ports s₀ sources s) {node : Nat} {execution : Execution D}
    (hnode : node ∈ [10, 20, 21, 30, 31, 40, 41, 60, 62]) (hpending : s.pending = [node])
    (hhandle : handle ports now s node = .ok execution) (hmoved : Moved s execution.updates s')
    (hstop : s'.pending ∈ stops) (hpending' : s'.pending = after node execution.route) :
    ScanInv ports s₀ sources s' := by
  have hp := position_eq hpending
  have hp' := position_eq hpending'
  simp only [List.mem_cons, List.not_mem_nil, or_false] at hnode
  have hside : SameSide (position s) (position s') := by
    rw [hp, hp']
    rcases hnode with rfl | rfl | rfl | rfl | rfl | rfl | rfl | rfl | rfl <;>
      cases execution.route <;> decide
  have hgates : SameGates (position s) (position s') := by
    rw [hp, hp']
    rcases hnode with rfl | rfl | rfl | rfl | rfl | rfl | rfl | rfl | rfl <;>
      cases execution.route <;> decide
  rcases hnode with rfl | rfl | rfl | rfl | rfl | rfl | rfl | rfl | rfl
  · obtain ⟨ref, _, _, _, rfl, hbody⟩ := handleB110_ok hhandle
    exact h.sealed hmoved hstop hside hgates (ref_ok hbody trivial (by simp [Body.type]))
  · obtain ⟨ref, found, rfl, hbody, seed, hseed, hseedBody⟩ := handleB120_ok hhandle
    have hsources := h.bodies seed hseed
    rw [hseedBody] at hsources
    exact h.sealed hmoved hstop hside hgates (ref_ok hbody hsources (by simp [Body.type]))
  · obtain ⟨ref, found, _, _, _, rfl, hbody, seed, hseed, hseedBody⟩ := handleB121_ok hhandle
    have hsources := h.bodies seed hseed
    rw [hseedBody] at hsources
    exact h.sealed hmoved hstop hside hgates
      (ref_ok hbody (congrArg registeredRepository hsources) (by simp [Body.type]))
  · obtain ⟨ref, _, _, rfl, hbody⟩ := handleB130_ok hhandle
    exact h.sealed hmoved hstop hside hgates (ref_ok hbody trivial (by simp [Body.type]))
  · obtain ⟨evaluate, decision, ref, _, hpolicy, hdecision, rfl, hbody⟩ := handleB131_ok hhandle
    have hrequest : readRequest s = readRequest s₀ := by
      simp only [readRequest, h.caseId, h.tenantId]
    rw [hrequest] at hdecision
    exact h.sealed hmoved hstop hside hgates (ref_ok hbody
      ⟨evaluate, decision, hpolicy, hdecision, rfl, rfl⟩ (by simp [Body.type]))
  · obtain ⟨groups, rfl⟩ := handleB140_ok hhandle
    exact h.quiet hmoved hstop (quiet_of_empty rfl rfl rfl rfl rfl) hside hgates (by simp)
  · cases hhandle
    exact h.quiet hmoved hstop (quiet_of_empty rfl rfl rfl rfl rfl) hside hgates (by simp)
  · obtain ⟨bindings, rfl, hbindings⟩ := handleB160_ok hhandle
    exact h.quiet hmoved hstop ⟨rfl, hbindings, rfl, rfl, rfl⟩ hside hgates (by simp)
  · obtain ⟨bindings, rfl⟩ := handleB162_ok hhandle
    exact h.quiet hmoved hstop (quiet_of_empty rfl rfl rfl rfl rfl) hside hgates (by simp)

theorem step_fanOut (h : ScanInv ports s₀ sources s) {new : List (Ref D)}
    (hpending : s.pending = queryBranchIds ∧ s'.pending = [40] ∨
      s.pending = [50, 51, 52, 53] ∧ s'.pending = [60])
    (hnew : ∀ ref ∈ new, Queried s.artifactRefs ref.body)
    (hmoved : Moved s { artifactRefs := new } s') (hstop : s'.pending ∈ stops) :
    ScanInv ports s₀ sources s' := by
  have hboth : SameSide (position s) (position s') ∧ SameGates (position s) (position s') := by
    rcases hpending with ⟨hp, hp'⟩ | ⟨hp, hp'⟩ <;>
      rw [position_eq hp, position_eq hp'] <;> decide
  refine h.quiet hmoved hstop (quiet_of_empty rfl rfl rfl rfl rfl) hboth.1 hboth.2
    fun ref href => ?_
  obtain ⟨authorization, hmem, _, allowed, reasons, _, _, kind, hauthorization, hbody⟩ :=
    hnew ref href
  have hdecided := h.bodies authorization hmem
  rw [hauthorization] at hdecided
  exact ref_ok hbody ⟨rfl, allowed, reasons, hdecided, rfl⟩ (by simp [Body.type])

theorem step_bound (h : ScanInv ports s₀ sources s) {execution : Execution D}
    (hpending : s.pending = [61]) (hhandle : handleB161 s = .ok execution)
    (hmoved : Moved s execution.updates s') (hpending' : s'.pending = [62]) :
    ScanInv ports s₀ sources s' := by
  have hp := position_eq hpending
  have hp' := position_eq hpending'
  simp only [List.headD_cons] at hp hp'
  have hc := h.channels
  have hsignals := hc.signals (by omega)
  obtain ⟨bindings, hexecution⟩ := handleB161_cases hhandle
  have hbound : s₀.signals ≠ [] → Bound sources bindings := by
    intro hne
    rw [← hsignals] at hne
    obtain ⟨binding, identity, _, _, _, hsame, hidentity, hbody, _⟩ := handleB161_ok hhandle hne
    have hrepository := h.bodies identity hidentity
    rw [hbody] at hrepository
    rw [hexecution] at hsame
    cases hsame
    exact ⟨binding, rfl, hrepository⟩
  rw [hexecution] at hmoved
  refine h.next hmoved (by rw [hpending']; decide) ?_ (h.gates.same (by rw [hp, hp']; decide))
    (by simp) (by omega)
  constructor
  · intro _
    rw [hmoved.signals, List.append_nil, hsignals]
  · rw [hmoved.featureBindings, List.append_nil]
    exact hc.unlabelled
  · omega
  · intro _ _ hne
    rw [hmoved.sourceBindings, hc.unbound (by omega), List.nil_append]
    exact hbound hne
  · intro _
    rw [hmoved.scores, List.append_nil, hc.unscored (by omega)]
  · omega
  · intro _
    rw [hmoved.decisions, List.append_nil, hc.undecided (by omega)]
  · omega

theorem step_scored (h : ScanInv ports s₀ sources s) (hpending : s.pending = [70])
    (hmoved : Moved s { scores := s.signals.map (score ports) } s')
    (hpending' : s'.pending = [71]) : ScanInv ports s₀ sources s' := by
  have hp := position_eq hpending
  have hp' := position_eq hpending'
  simp only [List.headD_cons] at hp hp'
  have hc := h.channels
  have hsignals := hc.signals (by omega)
  refine h.next hmoved (by rw [hpending']; decide) ?_ (h.gates.same (by rw [hp, hp']; decide))
    (by simp) (by omega)
  constructor
  · intro _
    rw [hmoved.signals, List.append_nil, hsignals]
  · rw [hmoved.featureBindings, List.append_nil]
    exact hc.unlabelled
  · omega
  · intro _ _ hne
    rw [hmoved.sourceBindings, List.append_nil]
    exact hc.bound (by omega) (by omega) hne
  · omega
  · intro _ _
    rw [hmoved.scores, hc.unscored (by omega), List.nil_append, hsignals]
  · intro _
    rw [hmoved.decisions, List.append_nil, hc.undecided (by omega)]
  · omega

/-! The gates. -/

theorem after71 {route : NodeRoute} (h : route ≠ .continue_) : after 71 route = [] := by
  cases route <;> first | rfl | exact absurd rfl h

theorem after80 {route : NodeRoute} (h : route ≠ .continue_) : after 80 route = [] := by
  cases route <;> first | rfl | exact absurd rfl h

theorem after91 {route : NodeRoute} (h : route ≠ .continue_) : after 91 route = [] := by
  cases route <;> first | rfl | exact absurd rfl h

theorem step_qualified (h : ScanInv ports s₀ sources s) {execution : Execution D}
    (hpending : s.pending = [71]) (hhandle : handleB171 ports s = .ok execution)
    (hmoved : Moved s execution.updates s') (hpending' : s'.pending = after 71 execution.route) :
    ScanInv ports s₀ sources s' := by
  have hp := position_eq hpending
  simp only [List.headD_cons] at hp
  have hc := h.channels
  obtain ⟨decision, hupdates, hqualified, hroute⟩ :=
    handleB171_ok (hc.scored (by omega) (by omega)) hhandle
  rw [hupdates] at hmoved
  by_cases hsevere : Severe ports s₀.signals
  · rw [hroute.mpr hsevere] at hpending'
    have hp' := position_eq hpending'
    simp only [after, List.headD_cons] at hp'
    refine h.next hmoved (by rw [hpending']; decide) ?_ ?_ (by simp) (by omega)
    · constructor
      · intro _
        rw [hmoved.signals, List.append_nil, hc.signals (by omega)]
      · rw [hmoved.featureBindings, List.append_nil]
        exact hc.unlabelled
      · omega
      · intro _ _ hne
        rw [hmoved.sourceBindings, List.append_nil]
        exact hc.bound (by omega) (by omega) hne
      · omega
      · intro _ _
        rw [hmoved.scores, List.append_nil, hc.scored (by omega) (by omega)]
      · omega
      · intro _ _
        rw [hmoved.decisions, List.any_append, List.any_cons, hqualified.mpr hsevere, Bool.true_or,
          Bool.or_true]
    · exact ⟨fun _ _ => hsevere, by omega, by omega, by omega⟩
  · rw [after71 fun hcontinue => hsevere (hroute.mp hcontinue)] at hpending'
    have hp' := position_eq hpending'
    simp only [List.headD_nil] at hp'
    refine h.next hmoved (by rw [hpending']; decide)
      (hc.past hmoved (by omega) (by simp)) ?_ (by simp) fun _ hopens => hsevere hopens.severe
    exact ⟨by omega, by omega, by omega, by omega⟩

theorem step_distinct (h : ScanInv ports s₀ sources s) {execution : Execution D}
    (hpending : s.pending = [80]) (hhandle : handleB180 s = .ok execution)
    (hmoved : Moved s execution.updates s') (hpending' : s'.pending = after 80 execution.route) :
    ScanInv ports s₀ sources s' := by
  have hp := position_eq hpending
  simp only [List.headD_cons] at hp
  obtain ⟨hupdates, hroute⟩ := handleB180_ok hhandle
  rw [hupdates] at hmoved
  rw [h.channels.signals (by omega)] at hroute
  by_cases hdistinct : Distinct s₀.signals
  · rw [hroute.mpr hdistinct] at hpending'
    have hp' := position_eq hpending'
    simp only [after, List.headD_cons] at hp'
    refine h.next hmoved (by rw [hpending']; decide) (h.channels.quiet hmoved
      (quiet_of_empty rfl rfl rfl rfl rfl) (by rw [hp, hp']; decide)) ?_ (by simp) (by omega)
    exact ⟨fun _ _ => h.gates.severe (by omega) (by omega), fun _ _ => hdistinct, by omega,
      by omega⟩
  · rw [after80 fun hcontinue => hdistinct (hroute.mp hcontinue)] at hpending'
    have hp' := position_eq hpending'
    simp only [List.headD_nil] at hp'
    refine h.next hmoved (by rw [hpending']; decide) (h.channels.past hmoved (by omega) (by simp))
      ?_ (by simp) fun _ hopens => hdistinct hopens.distinct
    exact ⟨by omega, by omega, by omega, by omega⟩

theorem severe_ne_nil {signals : List DetectionSignal} (h : Severe ports signals) :
    signals ≠ [] := by
  obtain ⟨signal, hsignal, _⟩ := h
  exact List.ne_nil_of_mem hsignal

theorem step_reported (h : ScanInv ports s₀ sources s) {execution : Execution D}
    (hpending : s.pending = [81]) (hhandle : handleB181 ports now s = .ok execution)
    (hmoved : Moved s execution.updates s') (hpending' : s'.pending = after 81 execution.route) :
    ScanInv ports s₀ sources s' := by
  have hp := position_eq hpending
  simp only [List.headD_cons] at hp
  have hc := h.channels
  obtain ⟨ref, cooldown, hroute, hupdates, hbody⟩ :=
    handleB181_ok hhandle (hc.qualified (by omega) (by omega))
  rw [hupdates] at hmoved
  rw [hroute] at hpending'
  have hp' := position_eq hpending'
  simp only [after, List.headD_cons] at hp'
  have hsevere := h.gates.severe (by omega) (by omega)
  have haccounts : Accounts ports s₀ sources (detectionReport now s s.caseId cooldown) :=
    { signals := hc.signals (by omega)
      scores := hc.scored (by omega) (by omega)
      unlabelled := hc.unlabelled
      bound := hc.bound (by omega) (by omega) (severe_ne_nil hsevere)
      severe := hsevere
      distinct := h.gates.distinct (by omega) (by omega) }
  refine h.quiet hmoved (by rw [hpending']; decide) (quiet_of_empty rfl rfl rfl rfl rfl)
    (by rw [hp, hp']; decide) (by rw [hp, hp']; decide) fun ref' href => ?_
  cases List.mem_singleton.mp href
  exact ref_ok hbody haccounts (by simp [Body.type])

theorem step_requested (h : ScanInv ports s₀ sources s) {execution : Execution D}
    (hpending : s.pending = [90]) (hhandle : handleB190 ports now s = .ok execution)
    (hmoved : Moved s execution.updates s') (hpending' : s'.pending = [91]) :
    ScanInv ports s₀ sources s' := by
  have hp := position_eq hpending
  have hp' := position_eq hpending'
  obtain ⟨ref, reportRef, registryRef, report, found, _, hupdates, hreportRef, hreport,
    hregistryRef, hregistry, hbody⟩ := handleB190_ok hhandle
  rw [hupdates] at hmoved
  have haccounts := h.bodies reportRef hreportRef
  have hsources := h.bodies registryRef hregistryRef
  rw [hreport] at haccounts
  rw [hregistry] at hsources
  rw [h.caseId, (hsources : found = sources)] at hbody
  refine h.quiet hmoved (by rw [hpending']; decide) (quiet_of_empty rfl rfl rfl rfl rfl)
    (by rw [hp, hp']; decide) (by rw [hp, hp']; decide) fun ref' href => ?_
  cases List.mem_singleton.mp href
  exact ref_ok hbody ⟨report, haccounts, rfl⟩ (by simp [Body.type])

/-- A request is for the case itself: no feature binding is ever resolved. -/
theorem Accounts.featureId {report : DetectionReport} (h : Accounts ports s₀ sources report)
    (caseId : String) : featureIdOf caseId report = caseId := by
  unfold featureIdOf
  dsimp only
  cases hfind : report.featureBindings.find? fun binding =>
      (topSignal report).any fun top => binding.signalIds.contains top.signalId with
  | none => rfl
  | some binding =>
    rw [Option.bind_some, h.unlabelled binding (List.mem_of_find?_eq_some hfind), Option.getD_none]

theorem step_admitted (h : ScanInv ports s₀ sources s) {execution : Execution D}
    (hpending : s.pending = [91]) (hhandle : handleB191 ports s = .ok execution)
    (hmoved : Moved s execution.updates s') (hpending' : s'.pending = after 91 execution.route) :
    ScanInv ports s₀ sources s' := by
  have hp := position_eq hpending
  simp only [List.headD_cons] at hp
  obtain ⟨ref, request, evaluate, decision, hupdates, href, hrequest, hpolicy, hdecision, hroute⟩ :=
    handleB191_ok hhandle
  rw [hupdates] at hmoved
  obtain ⟨report, haccounts, rfl⟩ : ∃ report, Accounts ports s₀ sources report ∧
      request = requestOf ports s₀.caseId report sources := by
    have hok := h.bodies ref href
    rwa [hrequest] at hok
  have hintake : evaluate (intakeRequest s₀ s₀.caseId) = .ok decision := by
    have hfeature := haccounts.featureId s₀.caseId
    rw [← hdecision]
    simp only [intakeRequest, requestOf, objectiveOf, hfeature, h.tenantId]
  by_cases hallowed : decision.allowed = true
  · rw [hroute.mpr hallowed] at hpending'
    have hp' := position_eq hpending'
    simp only [after, List.headD_cons] at hp'
    refine h.next hmoved (by rw [hpending']; decide) (h.channels.quiet hmoved
      (quiet_of_empty rfl rfl rfl rfl rfl) (by rw [hp, hp']; decide)) ?_ (by simp) (by omega)
    exact ⟨fun _ _ => h.gates.severe (by omega) (by omega),
      fun _ _ => h.gates.distinct (by omega) (by omega),
      fun _ _ => ⟨evaluate, decision, hpolicy, hintake, hallowed⟩, by omega⟩
  · rw [after91 fun hcontinue => hallowed (hroute.mp hcontinue)] at hpending'
    have hp' := position_eq hpending'
    simp only [List.headD_nil] at hp'
    refine h.next hmoved (by rw [hpending']; decide) (h.channels.past hmoved (by omega) (by simp))
      ?_ (by simp) fun _ hopens => ?_
    · exact ⟨by omega, by omega, by omega, by omega⟩
    · obtain ⟨evaluate', decision', hpolicy', hintake', hallowed'⟩ := hopens.admitted
      rw [hpolicy] at hpolicy'
      cases hpolicy'
      rw [hintake] at hintake'
      cases hintake'
      exact hallowed hallowed'

theorem step_recovered (h : ScanInv ports s₀ sources s) {refs : List (RecoveredRef D)}
    (hpending : s.pending = [95]) (hmoved : Moved s (recoveredUpdates s refs) s')
    (hstop : s'.pending ∈ stops)
    (hpending' : s'.pending = if ⟨.A2, 95⟩ ∈ s'.completedNodes then [96] else []) :
    ScanInv ports s₀ sources s' := by
  have hp := position_eq hpending
  simp only [List.headD_cons] at hp
  have hnew : ∀ ref ∈ (recoveredUpdates s refs).artifactRefs,
      BodyOk ports s₀ sources ref.body ∧ ref.type ≠ .qualifiedOpportunity := by
    intro ref href
    obtain ⟨recovered, _, rfl⟩ := List.mem_map.mp href
    exact ⟨trivial, by simp [Ref.type, Ref.body, RecoveredRef.toRef, Body.type]⟩
  by_cases hcompleted : ⟨.A2, 95⟩ ∈ s'.completedNodes
  · rw [if_pos hcompleted] at hpending'
    have hp' := position_eq hpending'
    simp only [List.headD_cons] at hp'
    refine h.next hmoved hstop (h.channels.past hmoved (by omega) h.channels.unlabelled) ?_ hnew
      (by omega)
    exact ⟨fun _ _ => h.gates.severe (by omega) (by omega),
      fun _ _ => h.gates.distinct (by omega) (by omega),
      fun _ _ => h.gates.admitted (by omega) (by omega), fun _ => hcompleted⟩
  · rw [if_neg hcompleted] at hpending'
    have hp' := position_eq hpending'
    simp only [List.headD_nil] at hp'
    refine h.next hmoved hstop (h.channels.past hmoved (by omega) h.channels.unlabelled) ?_ hnew
      fun _ hopens => hcompleted hopens.recovered
    exact ⟨by omega, by omega, by omega, by omega⟩

theorem step_sealed (h : ScanInv ports s₀ sources s) {execution : Execution D}
    (hpending : s.pending = [96]) (hhandle : handleB196 ports now s = .ok execution)
    (hmoved : Moved s execution.updates s') (hpending' : s'.pending = []) :
    ScanInv ports s₀ sources s' := by
  have hp := position_eq hpending
  have hp' := position_eq hpending'
  simp only [List.headD_cons, List.headD_nil] at hp hp'
  obtain ⟨ref, reportRef, report, opportunity, rfl, hbody, hlinked, hreportRef, hreport, hsource⟩ :=
    handleB196_ok hhandle
  have haccounts : Accounts ports s₀ sources report := by
    have hok := h.bodies reportRef hreportRef
    rwa [hreport] at hok
  obtain ⟨binding, hbindings, hrepository⟩ := haccounts.bound
  have hopens : Opens ports s₀ s'.completedNodes :=
    ⟨haccounts.severe, haccounts.distinct, h.gates.admitted (by omega) (by omega),
      hmoved.completed _ (h.gates.recovered hp)⟩
  exact
    { stop := by rw [hpending']; decide
      caseId := hmoved.caseId.trans h.caseId
      tenantId := hmoved.tenantId.trans h.tenantId
      channels := h.channels.past hmoved (by omega) (quiet_sealing ref).unlabelled
      gates := ⟨by omega, by omega, by omega, by omega⟩
      bodies := fun found hfound => by
        rcases hmoved.refs.mem found hfound with hold | hnew
        · exact h.bodies found hold
        · rw [List.mem_singleton.mp hnew, hbody]
          show opportunity.sourceBinding.repositoryId = registeredRepository sources
          rw [hsource, hbindings, List.head?_cons, Option.getD_some, hrepository]
      opened := fun found hfound found_opportunity hfoundBody => by
        refine ⟨hopens, ?_⟩
        rcases hmoved.refs.mem found hfound with hold | hnew
        · exact (h.opened found hold found_opportunity hfoundBody).2.merged hmoved.refs
        · rw [List.mem_singleton.mp hnew, hbody] at hfoundBody
          cases hfoundBody
          exact hlinked.merged hmoved.refs
      ended := fun _ _ => by
        obtain ⟨held, hheld, htype, _⟩ :=
          hmoved.refs.kept ref (Or.inr (List.mem_singleton_self ref))
        exact ⟨held, hheld, htype.trans (congrArg Body.type hbody)⟩ }

theorem scanInv_fresh (h : Fresh sources s₀) : ScanInv ports s₀ sources s₀ := by
  have hp := position_eq h.pending
  simp only [List.headD_cons] at hp
  obtain ⟨seed, hseed, hbody⟩ := h.seeded
  exact
    { stop := by rw [h.pending]; decide
      caseId := rfl
      tenantId := rfl
      channels := ⟨fun _ => rfl, by simp [h.featureBindings], fun _ => h.sourceBindings, by omega,
        fun _ => h.scores, by omega, fun _ => h.decisions, by omega⟩
      gates := ⟨by omega, by omega, by omega, by omega⟩
      bodies := fun ref href => by
        rw [hseed] at href
        rw [List.mem_singleton.mp href, hbody]
        rfl
      opened := fun ref href opportunity hopportunity => by
        rw [hseed] at href
        rw [List.mem_singleton.mp href, hbody] at hopportunity
        cases hopportunity
      ended := by omega }

variable [DecidableEq D]

theorem scanInv_step (h : ScanInv ports s₀ sources s) (hstep : Step ports s now s') :
    ScanInv ports s₀ sources s' := by
  have hmove := move_of_step h.stop hstep
  have hstop := hmove.stop
  cases hmove with
  | @node node execution hnode hpending hhandle hmoved hpending' =>
    by_cases hcollecting : node ∈ [10, 20, 21, 30, 31, 40, 41, 60, 62]
    · exact step_collecting h hcollecting hpending hhandle hmoved hstop hpending'
    · simp only [nodeStops, List.mem_cons, List.not_mem_nil, or_false] at hnode hcollecting
      have hgate : node = 61 ∨ node = 70 ∨ node = 71 ∨ node = 80 ∨ node = 81 ∨ node = 90 ∨
          node = 91 ∨ node = 96 := by omega
      rcases hgate with rfl | rfl | rfl | rfl | rfl | rfl | rfl | rfl
      · exact step_bound h hpending hhandle hmoved hpending'
      · cases hhandle
        exact step_scored h hpending hmoved hpending'
      · exact step_qualified h hpending hhandle hmoved hpending'
      · exact step_distinct h hpending hhandle hmoved hpending'
      · exact step_reported h hpending hhandle hmoved hpending'
      · exact step_requested h hpending hhandle hmoved hpending'
      · exact step_admitted h hpending hhandle hmoved hpending'
      · exact step_sealed h hpending hhandle hmoved hpending'
  | fanOut hpending hnew hmoved => exact step_fanOut h hpending hnew hmoved hstop
  | recovered hpending hmoved hpending' => exact step_recovered h hpending hmoved hstop hpending'

theorem scanInv_of_run {tr : List (Transition (ScanState D) Int)} (hfresh : Fresh sources s₀)
    (hrun : Run (Step ports) s₀ tr s) : ScanInv ports s₀ sources s :=
  hrun.invariant (scanInv_fresh hfresh) fun _ _ _ h hstep => scanInv_step h hstep

/-! ### What a scan seals -/

/-- A scan that has ended has sealed an opportunity exactly when some signal is severe enough, no
two signals are about one metric, the policy takes the case in and the embedded A2 completed. -/
theorem opportunity_sealed_iff {tr : List (Transition (ScanState D) Int)}
    (hfresh : Fresh sources s₀) (hrun : Run (Step ports) s₀ tr s) (hended : s.pending = []) :
    (∃ ref ∈ s.artifactRefs, ref.type = .qualifiedOpportunity) ↔
      Severe ports s₀.signals ∧ Distinct s₀.signals ∧ Admitted ports s₀ ∧
        ⟨.A2, 95⟩ ∈ s.completedNodes := by
  have h := scanInv_of_run hfresh hrun
  constructor
  · rintro ⟨ref, href, htype⟩
    obtain ⟨opportunity, hbody⟩ := exists_opportunity htype
    obtain ⟨hopens, _⟩ := h.opened ref href opportunity hbody
    exact ⟨hopens.severe, hopens.distinct, hopens.admitted, hopens.recovered⟩
  · rintro ⟨hsevere, hdistinct, hadmitted, hrecovered⟩
    exact h.ended (position_eq hended) ⟨hsevere, hdistinct, hadmitted, hrecovered⟩

theorem matchingSource_eq {binding : SourceBinding}
    (h : binding.repositoryId = registeredRepository sources) :
    matchingSource (some binding) sources = sources.head? := by
  cases sources with
  | nil => rfl
  | cons source rest =>
    have hfirst : (source.repositoryId == binding.repositoryId) = true := by
      rw [h]
      exact beq_self_eq_true source.repositoryId
    unfold matchingSource
    rw [List.find?_cons_of_pos (by simpa using hfirst)]
    rfl

/-! A scan with one signal. -/

def sampleSignal : DetectionSignal where
  signalId := "signal-real-1"
  signalKind := .regression
  runGroupIds := ["run-group-1"]
  metricId := "unit_command_result"
  description := "unit test exit code regressed"
  baselineValue := some 0
  observedValue := 1
  unit := "exit_code"
  severity := 9 / 10
  runGroupIds_ne_nil := List.cons_ne_nil _ _
  severity_nonneg := by norm_num
  severity_le_one := by norm_num

def sampleSources : List RegisteredSource := [⟨"src-1", "checkout", "repo", "/repo"⟩]

def sampleState : ScanState String where
  caseId := "case-1"
  tenantId := "tenant-1"
  artifactRefs := [⟨⟨"seed", 0, [], .registeredSourceSet sampleSources⟩, "seed"⟩]
  signals := [sampleSignal]

theorem sampleState_fresh : Fresh sampleSources sampleState where
  pending := rfl
  seeded := ⟨_, rfl, rfl⟩
  featureBindings := rfl
  sourceBindings := rfl
  scores := rfl
  decisions := rfl

def recoveredRef (type : RecoveredType) (name : String) : RecoveredRef String :=
  ⟨type, name, 0, [], name⟩

/-- A digest that is the artifact's id, and an A2 that recovers a baseline. -/
def samplePorts (policy : PolicyRequest → Except PolicyFailure PolicyDecision) :
    Ports String where
  policy := some policy
  git _ _ := some "/repo"
  pathExists _ := true
  resolve path := path
  fromIsoformat _ := none
  round4 q := q
  showFloat _ := ""
  contentFingerprint _ _ := "fingerprint"
  requestFingerprint _ _ _ := "fingerprint"
  digest envelope := envelope.artifactId
  recover _ := .ok ([recoveredRef .sourceSnapshot "snapshot",
    recoveredRef .baselineSnapshot "baseline", recoveredRef .evidenceBundle "bundle",
    recoveredRef .comparabilityReport "report"], [10, 95])

def advance (ports : Ports String) (s : ScanState String) (now : Int) :
    Option (Int × ScanState String) :=
  if s.pending.isEmpty then none
  else match step ports now s with
    | .ok s' => some (now, s')
    | .error _ => none

theorem step_of_advance {ports : Ports String} (s : ScanState String) (now l : Int)
    (s' : ScanState String) (h : advance ports s now = some (l, s')) : Step ports s l s' := by
  unfold advance at h
  split at h
  · cases h
  · rename_i hne
    split at h
    · rename_i next hnext
      cases h
      exact ⟨fun hnil => hne (List.isEmpty_iff.mpr hnil), hnext⟩
    · cases h

def allowAll (_ : PolicyRequest) : Except PolicyFailure PolicyDecision :=
  .ok ⟨true, "allow", "policy-v1", []⟩

theorem sample_run : ∃ tr s, Run (Step (samplePorts allowAll)) sampleState tr s ∧
    (s.pending.isEmpty && s.completedNodes.contains ⟨.A2, 95⟩ &&
      s.artifactRefs.any fun ref => ref.type == .optimizationRequest) = true :=
  exists_run_of_replay (advance (samplePorts allowAll)) step_of_advance sampleState
    (List.replicate 20 0) (fun out => out.2.pending.isEmpty &&
      out.2.completedNodes.contains ⟨.A2, 95⟩ &&
      out.2.artifactRefs.any fun ref => ref.type == .optimizationRequest) (by decide +kernel)

theorem sample_severe : Severe (samplePorts allowAll) sampleState.signals :=
  ⟨sampleSignal, List.mem_singleton_self _, by
    show (3 / 5 : ℚ) ≤ 7 / 10 * (9 / 10) + 3 / 10 * (1 / 2)
    norm_num⟩

theorem sample_opportunity : ∃ tr s, Run (Step (samplePorts allowAll)) sampleState tr s ∧
    ∃ ref ∈ s.artifactRefs, ref.type = .qualifiedOpportunity := by
  obtain ⟨tr, s, hrun, hcheck⟩ := sample_run
  simp only [Bool.and_eq_true, List.isEmpty_iff, List.contains_iff_mem] at hcheck
  obtain ⟨⟨hended, hrecovered⟩, _⟩ := hcheck
  exact ⟨tr, s, hrun, (opportunity_sealed_iff sampleState_fresh hrun hended).mpr
    ⟨sample_severe, List.nodup_singleton _, ⟨allowAll, _, rfl, rfl, rfl⟩, hrecovered⟩⟩

/-- Whatever has been sealed so far: a request asks for the first of the most severe signals and
for the first registered source, and an opportunity links artifacts that are there. -/
theorem sealed_from_signals {tr : List (Transition (ScanState D) Int)}
    (hfresh : Fresh sources s₀) (hrun : Run (Step ports) s₀ tr s) :
    (∀ ref ∈ s.artifactRefs, ∀ request, ref.body = .optimizationRequest request →
      ∃ top, s₀.signals.argmax (·.severity) = some top ∧ Severe ports s₀.signals ∧
        Distinct s₀.signals ∧ request.objective = ⟨top.description, s₀.caseId⟩ ∧
        request.criteria = [criterionOf (some top)] ∧
        request.source.repositoryId = registeredRepository sources ∧
        request.source.allowedRootId = (sources.head?.map (·.localPath)).getD "unknown") ∧
      ∀ ref ∈ s.artifactRefs, ∀ opportunity, ref.body = .qualifiedOpportunity opportunity →
        Linked s.artifactRefs opportunity ∧
          opportunity.sourceBinding.repositoryId = registeredRepository sources := by
  have h := scanInv_of_run hfresh hrun
  refine ⟨fun ref href request hbody => ?_, fun ref href opportunity hbody => ?_⟩
  · obtain ⟨report, haccounts, rfl⟩ : ∃ report, Accounts ports s₀ sources report ∧
        request = requestOf ports s₀.caseId report sources := by
      have hok := h.bodies ref href
      rwa [hbody] at hok
    obtain ⟨top, htop⟩ : ∃ top, s₀.signals.argmax (·.severity) = some top :=
      Option.ne_none_iff_exists'.mp fun hnone =>
        severe_ne_nil haccounts.severe (List.argmax_eq_none.mp hnone)
    have htopSignal : topSignal report = some top := by rw [topSignal, haccounts.signals, htop]
    obtain ⟨binding, hbindings, hrepository⟩ := haccounts.bound
    refine ⟨top, htop, haccounts.severe, haccounts.distinct, ?_, ?_, ?_, ?_⟩
    · simp only [requestOf, objectiveOf, htopSignal, haccounts.featureId]
    · simp only [requestOf, htopSignal]
    · simp only [requestOf, sourceReferenceOf, hbindings, List.head?_cons, Option.map_some,
        Option.getD_some, hrepository]
    · simp only [requestOf, sourceReferenceOf, hbindings, List.head?_cons,
        matchingSource_eq hrepository]
  · have hsource := h.bodies ref href
    rw [hbody] at hsource
    exact ⟨(h.opened ref href opportunity hbody).2, hsource⟩

theorem sample_request : ∃ tr s ref request, Run (Step (samplePorts allowAll)) sampleState tr s ∧
    ref ∈ s.artifactRefs ∧ ref.body = .optimizationRequest request ∧
      request.objective = ⟨"unit test exit code regressed", "case-1"⟩ ∧
      request.source.allowedRootId = "/repo" := by
  obtain ⟨tr, s, hrun, hcheck⟩ := sample_run
  simp only [Bool.and_eq_true, List.any_eq_true, beq_iff_eq] at hcheck
  obtain ⟨_, ref, href, htype⟩ := hcheck
  obtain ⟨request, hbody⟩ := exists_request htype
  obtain ⟨top, htop, _, _, hobjective, _, _, hroot⟩ :=
    (sealed_from_signals sampleState_fresh hrun).1 ref href request hbody
  cases htop
  exact ⟨tr, s, ref, request, hrun, href, hbody, hobjective, hroot⟩

/-! ### Under the bootstrap policy -/

/-- The refusal of a decision whose required fact is not among the request's. -/
theorem requireNonEmptyFacts_missing {texts : Texts} {policyVersion key subject : String}
    {request : PolicyRequest} (h : request.fact key = .null) :
    requireNonEmptyFacts texts policyVersion request [key] subject = deny policyVersion
      [subject ++ " is missing required facts: " ++ texts.repr (.texts [key])] := by
  unfold requireNonEmptyFacts
  rw [List.filter_cons_of_pos (by rw [h]; rfl)]
  rfl

/-- The reasons of the bootstrap policy for denying the read. -/
def readDenial (texts : Texts) : List String :=
  ["historical discovery read is missing required facts: " ++ texts.repr (.texts ["query_kind"])]

/-- Under the bootstrap policy no scan, whatever its signals, enters the embedded A2 or seals an
opportunity; every evidence branch says that the read was denied. -/
theorem bootstrap_scan_opens_nothing {texts : Texts} {policyVersion : String}
    {policy : DeterministicPythonPolicy} {tr : List (Transition (ScanState D) Int)}
    (hpolicy : buildBootstrapPolicy texts policyVersion = .ok policy)
    (hports : ports.policy = some policy.evaluate) (hfresh : Fresh sources s₀)
    (hrun : Run (Step ports) s₀ tr s) :
    (∀ t ∈ tr, t.before.pending ≠ [95]) ∧
      (∀ ref ∈ s.artifactRefs, ref.type ≠ .qualifiedOpportunity) ∧
      ∀ ref ∈ s.artifactRefs, ∀ node kind evidence reason,
        ref.body = .historicalEvidenceBranch node kind evidence reason →
          evidence = [] ∧ reason = some (unavailable kind false (readDenial texts)) := by
  have hshut : ¬ Admitted ports s₀ := by
    rintro ⟨evaluate, decision, hevaluate, hdecision, hallowed⟩
    rw [hports] at hevaluate
    cases hevaluate
    rw [evaluate_bootstrap hpolicy] at hdecision
    have hdenied : decision = requireNonEmptyFacts texts policyVersion
        (intakeRequest s₀ s₀.caseId) ["opportunity_id"] "automatic intake" :=
      (Except.ok.inj hdecision).symm
    rw [hdenied, requireNonEmptyFacts_missing rfl] at hallowed
    cases hallowed
  have h := scanInv_of_run hfresh hrun
  refine ⟨fun t ht hpending => ?_, fun ref href htype => ?_,
    fun ref href node kind evidence reason hbody => ?_⟩
  · obtain ⟨tr₁, hbefore, _⟩ := hrun.step_of_mem ht
    have hp := position_eq hpending
    simp only [List.headD_cons] at hp
    exact hshut ((scanInv_of_run hfresh hbefore).gates.admitted (by omega) (by omega))
  · obtain ⟨opportunity, hbody⟩ := exists_opportunity htype
    exact hshut (h.opened ref href opportunity hbody).1.admitted
  · have hok := h.bodies ref href
    rw [hbody] at hok
    obtain ⟨hevidence, allowed, reasons, hdecided, hreason⟩ := hok
    obtain ⟨evaluate, decision, hevaluate, hdecision, rfl, rfl⟩ := hdecided
    rw [hports] at hevaluate
    cases hevaluate
    rw [evaluate_bootstrap hpolicy] at hdecision
    have hdenied : decision = requireNonEmptyFacts texts policyVersion (readRequest s₀)
        ["query_kind"] "historical discovery read" := (Except.ok.inj hdecision).symm
    rw [hdenied, requireNonEmptyFacts_missing rfl] at hreason
    exact ⟨hevidence, hreason⟩

def sampleTexts : Texts := ⟨fun _ => "[]"⟩

def samplePolicy : DeterministicPythonPolicy :=
  ⟨"policy-v1", bootstrapDecisions sampleTexts "policy-v1"⟩

theorem sample_shut : ∃ tr s, Run (Step (samplePorts samplePolicy.evaluate)) sampleState tr s ∧
    s.pending = [] ∧ ∀ ref ∈ s.artifactRefs, ref.type ≠ .qualifiedOpportunity := by
  obtain ⟨tr, s, hrun, hended⟩ := exists_run_of_replay (advance (samplePorts samplePolicy.evaluate))
    step_of_advance sampleState (List.replicate 18 0) (fun out => out.2.pending.isEmpty)
    (by decide +kernel)
  have hpolicy : buildBootstrapPolicy sampleTexts "policy-v1" = .ok samplePolicy :=
    buildBootstrapPolicy_eq (by decide +kernel)
  exact ⟨tr, s, hrun, List.isEmpty_iff.mp hended,
    (bootstrap_scan_opens_nothing hpolicy rfl sampleState_fresh hrun).2.1⟩

end Invariant

end ProductionOptimizer.Scan
