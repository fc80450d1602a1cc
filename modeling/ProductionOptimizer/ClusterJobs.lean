import ProductionOptimizer.Library.Runs
import ProductionOptimizer.RequestIds
import ProductionOptimizer.S3ArtifactStore

/-!
# Jobs in the cluster

`KubernetesWorkerBroker` names a cluster job after the lower-cased, squashed and cut id of the
worker job. `submit`, `cancel` and `reconcile` derive the name again, and only two of them look
at whom the job belongs to. The API is a map from names to jobs.
-/

namespace ProductionOptimizer.ClusterJobs
open Runs
open S3 (Text trim)
set_option autoImplicit false

/-! ### Contracts -/

/-- What a contract admits as a text of at least one character. -/
def Admitted (text : Text) : Prop := text ≠ [] ∧ trim text = text

instance (text : Text) : Decidable (Admitted text) :=
  inferInstanceAs (Decidable (_ ∧ _))

structure WorkerJob where
  jobId : Text
  caseId : Text
  nodeId : Text
  idempotencyKey : Text
  inputRefs : List S3.ArtifactRef
  capability : Text
  timeoutSeconds : Nat
  secretRefs : List Text
  admitted : ∀ text ∈ [jobId, caseId, nodeId, idempotencyKey, capability], Admitted text
  timeout_pos : 0 < timeoutSeconds

structure WorkerReceipt where
  jobId : Text
  accepted : Bool
  leaseId : Text
  expiresAt : Nat
  deriving DecidableEq, Repr

/-- `[1-9][0-9]*\.[0-9]+`. -/
def isSchemaVersion (text : Text) : Bool :=
  let major := text.takeWhile Char.isDigit
  match major, text.drop major.length with
  | first :: _, '.' :: minor => first != '0' && !minor.isEmpty && minor.all Char.isDigit
  | _, _ => false

/-- `ArtifactRef.model_validate`. -/
def validateRef (ref : S3.ArtifactRef) : Option S3.ArtifactRef :=
  let trimmed : S3.ArtifactRef := ⟨trim ref.artifactType, trim ref.schemaVersion,
    trim ref.artifactId, trim ref.contentDigest, trim ref.uri⟩
  if (1 ≤ trimmed.artifactType.length && trimmed.artifactType.length ≤ 100) &&
      isSchemaVersion trimmed.schemaVersion && S3.validRef trimmed then some trimmed
  else none

/-! ### The API -/

/-- What the fields of an output are annotated as. -/
inductive OutputField where
  | artifactType
  | schemaVersion
  | artifactId
  | contentDigest
  | uri
  deriving DecidableEq, Repr

def OutputField.name : OutputField → String
  | .artifactType => "artifact-type"
  | .schemaVersion => "schema-version"
  | .artifactId => "artifact-id"
  | .contentDigest => "content-digest"
  | .uri => "uri"

def annotationPrefix : String := "optimizer.production/"

def jobIdKey : String := annotationPrefix ++ "job-id"

def idempotencyKeyKey : String := annotationPrefix ++ "idempotency-key"

def outputKey (field : OutputField) : String := annotationPrefix ++ "output-" ++ field.name

/-- A job as the API returns it. The container is started with the contract. -/
structure ClusterJob where
  annotations : String → Option Text
  contract : WorkerJob
  activeDeadlineSeconds : Nat
  ttlSecondsAfterFinished : Nat
  failed : Nat := 0
  succeeded : Nat := 0

abbrev Cluster := Text → Option ClusterJob

/-- The status of an `ApiException`. -/
abbrev ApiStatus := Nat

def createNamespacedJob (name : Text) (body : ClusterJob) (c : Cluster) :
    Except ApiStatus Cluster :=
  if (c name).isSome then .error 409 else .ok (Function.update c name (some body))

def readNamespacedJob (name : Text) (c : Cluster) : Except ApiStatus ClusterJob :=
  match c name with
  | none => .error 404
  | some job => .ok job

def deleteNamespacedJob (name : Text) (c : Cluster) : Except ApiStatus Cluster :=
  if (c name).isSome then .ok (Function.update c name none) else .error 404

/-! ### The broker -/

/-- `str.lower` keeps letters and digits letters and digits. -/
structure CaseTables extends Intake.UnicodeData where
  alnum_lower : ∀ text, (∃ c ∈ text, isAlnum c = true) → ∃ c ∈ lower text, isAlnum c = true

inductive BrokerFailure where
  | noAlphanumeric
  | differentIdempotencyKey
  | identityMismatch
  | jobFailed (jobId : Text)
  | noAnnotatedOutput
  | invalidOutput
  | api (status : ApiStatus)
  deriving DecidableEq, Repr

/-- What is raised. `repr` is Python's, of a `str`; validation and the API have texts of their
own. -/
def BrokerFailure.message (repr : Text → String) : BrokerFailure → Option String
  | .noAlphanumeric => some "job_id must contain at least one alphanumeric character"
  | .differentIdempotencyKey => some "existing worker job has a different idempotency key"
  | .identityMismatch => some "worker job idempotency identity does not match"
  | .jobFailed jobId => some ("worker job " ++ repr jobId ++ " failed")
  | .noAnnotatedOutput => some "completed worker job has no valid output artifact annotation"
  | .invalidOutput => none
  | .api _ => none

section Broker
variable (tables : CaseTables) (ttl : Nat)

def normalized (jobId : Text) : Text :=
  Intake.strip (· == '-') <|
    (tables.lower jobId).map fun c => if tables.isAlnum c then c else '-'

def jobName (jobId : Text) : Except BrokerFailure Text :=
  if normalized tables jobId = [] then .error .noAlphanumeric
  else .ok (("optimizer-".toList ++ (normalized tables jobId).take 52).rdropWhile (· == '-'))

def bodyOf (job : WorkerJob) : ClusterJob where
  annotations key := if key = jobIdKey then some job.jobId
    else if key = idempotencyKeyKey then some job.idempotencyKey else none
  contract := job
  activeDeadlineSeconds := job.timeoutSeconds
  ttlSecondsAfterFinished := ttl

def receiptOf (job : WorkerJob) (name : Text) (now : Nat) : WorkerReceipt :=
  ⟨job.jobId, true, name, now + job.timeoutSeconds⟩

def submit (job : WorkerJob) (now : Nat) (c : Cluster) :
    Except BrokerFailure WorkerReceipt × Cluster :=
  match jobName tables job.jobId with
  | .error e => (.error e, c)
  | .ok name =>
    match createNamespacedJob name (bodyOf ttl job) c with
    | .ok c' => (.ok (receiptOf job name now), c')
    | .error status =>
      if status ≠ 409 then (.error (.api status), c)
      else
        match readNamespacedJob name c with
        | .error status => (.error (.api status), c)
        | .ok existing =>
          if existing.annotations idempotencyKeyKey ≠ some job.idempotencyKey then
            (.error .differentIdempotencyKey, c)
          else (.ok (receiptOf job name now), c)

/-- The reason is dropped. -/
def cancel (jobId : Text) (c : Cluster) : Except BrokerFailure Bool × Cluster :=
  match jobName tables jobId with
  | .error e => (.error e, c)
  | .ok name =>
    match deleteNamespacedJob name c with
    | .ok c' => (.ok true, c')
    | .error status => if status = 404 then (.ok false, c) else (.error (.api status), c)

/-- The output that is annotated on a job, if all of it is. -/
def ClusterJob.annotated (job : ClusterJob) : Option S3.ArtifactRef := do
  let artifactType ← job.annotations (outputKey .artifactType)
  let schemaVersion ← job.annotations (outputKey .schemaVersion)
  let artifactId ← job.annotations (outputKey .artifactId)
  let contentDigest ← job.annotations (outputKey .contentDigest)
  let uri ← job.annotations (outputKey .uri)
  return ⟨artifactType, schemaVersion, artifactId, contentDigest, uri⟩

def outputOf (job : ClusterJob) : Except BrokerFailure (Option S3.ArtifactRef) :=
  match job.annotated with
  | none => .error .noAnnotatedOutput
  | some values =>
    match validateRef values with
    | none => .error .invalidOutput
    | some ref => .ok (some ref)

def reconcile (jobId idempotencyKey : Text) (c : Cluster) :
    Except BrokerFailure (Option S3.ArtifactRef) :=
  match jobName tables jobId with
  | .error e => .error e
  | .ok name =>
    match readNamespacedJob name c with
    | .error status => if status = 404 then .ok none else .error (.api status)
    | .ok job =>
      if job.annotations idempotencyKeyKey ≠ some idempotencyKey then .error .identityMismatch
      else if job.failed ≠ 0 then .error (.jobFailed jobId)
      else if job.succeeded = 0 then .ok none
      else outputOf job

end Broker

/-! ### Runs -/

/-- A call of the broker, or what the cluster does between two calls: the worker annotates its
output, the status changes, a job is removed after its time. -/
inductive Event where
  | submit (job : WorkerJob) (now : Nat)
  | cancel (job : WorkerJob)
  | reconcile (job : WorkerJob)
  | annotate (name : Text) (field : OutputField) (value : Text)
  | finish (name : Text) (failed succeeded : Nat)
  | expire (name : Text)

/-- The worker job that a call is about. -/
def Event.job? : Event → Option WorkerJob
  | .submit job _ => some job
  | .cancel job => some job
  | .reconcile job => some job
  | _ => none

def ClusterJob.annotate (job : ClusterJob) (field : OutputField) (value : Text) : ClusterJob :=
  { job with annotations := Function.update job.annotations (outputKey field) (some value) }

def ClusterJob.finish (job : ClusterJob) (failed succeeded : Nat) : ClusterJob :=
  { job with failed := failed, succeeded := succeeded }

section Steps
variable (tables : CaseTables) (ttl : Nat)

def next (c : Cluster) : Event → Cluster
  | .submit job now => (submit tables ttl job now c).2
  | .cancel job => (cancel tables job.jobId c).2
  | .reconcile _ => c
  | .annotate name field value => Function.update c name ((c name).map (·.annotate field value))
  | .finish name failed succeeded =>
    Function.update c name ((c name).map (·.finish failed succeeded))
  | .expire name => Function.update c name none

/-- One event whose call, if it is one, is about one of the jobs. -/
def Step (jobs : Set WorkerJob) (c : Cluster) (e : Event) (c' : Cluster) : Prop :=
  (∀ job, e.job? = some job → job ∈ jobs) ∧ c' = next tables ttl c e

/-- The cluster job was submitted for that worker job. -/
def ClusterJob.For (k : ClusterJob) (job : WorkerJob) : Prop := k.contract.jobId = job.jobId

/-- The submission is accepted, and the cluster has one job for it: the one it had, or a new one
beside what it had. -/
structure Accepted (job : WorkerJob) (c : Cluster)
    (result : Except BrokerFailure WorkerReceipt × Cluster) : Prop where
  accepted : ∃ receipt, result.1 = .ok receipt ∧ receipt.accepted = true
  one : ∃ name k, result.2 name = some k ∧ k.For job ∧
    ∀ name' k', result.2 name' = some k' → k'.For job → name' = name
  unchanged : ∀ name k, c name = some k → k.For job → result.2 = c
  kept : ∀ name k, c name = some k → result.2 name = some k

/-- What a call does to the jobs of others, and what it takes from them. -/
def Undisturbed (c : Cluster) : Event → Prop
  | .submit job now => Accepted job c (submit tables ttl job now c)
  | .cancel job => ∀ name k, c name = some k → ¬ k.For job →
      (cancel tables job.jobId c).2 name = some k
  | .reconcile job => ∀ ref, reconcile tables job.jobId job.idempotencyKey c = .ok (some ref) →
      ∃ name k, c name = some k ∧ k.For job ∧ k.annotated.bind validateRef = some ref
  | _ => True

end Steps

/-- Distinct jobs of the broker, each with a letter or digit in its id. -/
structure Distinct (tables : CaseTables) (jobs : Set WorkerJob) : Prop where
  ids : ∀ a ∈ jobs, ∀ b ∈ jobs, a.jobId = b.jobId → a = b
  keys : ∀ a ∈ jobs, ∀ b ∈ jobs, a.idempotencyKey = b.idempotencyKey → a = b
  alnum : ∀ a ∈ jobs, ∃ c ∈ a.jobId, tables.isAlnum c = true

/-! ### Names -/

section Names
variable {tables : CaseTables}

theorem strip_ne_nil {p : Char → Bool} {text : Text} (h : ∃ c ∈ text, p c = false) :
    Intake.strip p text ≠ [] := by
  obtain ⟨c, hc, hp⟩ := h
  unfold Intake.strip
  intro hnil
  have hdrop : ∀ x ∈ text.dropWhile p, p x = true := by
    have hrev := List.dropWhile_eq_nil_iff.mp (List.reverse_eq_nil_iff.mp hnil)
    intro x hx
    exact hrev x (List.mem_reverse.mpr hx)
  have hempty : text.dropWhile p = [] := by
    cases hcase : text.dropWhile p with
    | nil => rfl
    | cons first rest =>
      have hfirst : p first = false := by
        have hhead := List.head?_dropWhile_not p text
        rw [hcase] at hhead
        simpa using hhead
      have htrue := hdrop first (by rw [hcase]; exact List.mem_cons_self)
      rw [hfirst] at htrue
      cases htrue
  have htrue := List.dropWhile_eq_nil_iff.mp hempty c hc
  rw [hp] at htrue
  cases htrue

/-- A name is derived for every id that holds a letter or digit. -/
theorem exists_jobName {jobId : Text} (h : ∃ c ∈ jobId, tables.isAlnum c = true) :
    ∃ name, jobName tables jobId = .ok name := by
  have hdash : tables.isAlnum '-' = false := tables.isAlnum_ascii '-' (by decide)
  have hne : normalized tables jobId ≠ [] := by
    obtain ⟨c, hc, halnum⟩ := tables.alnum_lower jobId h
    apply strip_ne_nil
    refine ⟨c, List.mem_map.mpr ⟨c, hc, if_pos halnum⟩, ?_⟩
    rw [beq_eq_false_iff_ne]
    rintro rfl
    rw [hdash] at halnum
    cases halnum
  exact ⟨_, if_neg hne⟩

end Names

/-! ### What the calls do -/

section Calls
variable {tables : CaseTables} {ttl now : Nat} {c : Cluster} {job : WorkerJob} {k : ClusterJob}
  {name : Text}

theorem create_of_none {body : ClusterJob} (h : c name = none) :
    createNamespacedJob name body c = .ok (Function.update c name (some body)) := by
  unfold createNamespacedJob
  rw [h]
  rfl

theorem create_of_some {body : ClusterJob} (h : c name = some k) :
    createNamespacedJob name body c = .error 409 := by
  unfold createNamespacedJob
  rw [h]
  rfl

theorem read_of_some (h : c name = some k) : readNamespacedJob name c = .ok k := by
  unfold readNamespacedJob
  rw [h]

theorem submit_of_none (hname : jobName tables job.jobId = .ok name) (hnone : c name = none) :
    submit tables ttl job now c =
      (.ok (receiptOf job name now), Function.update c name (some (bodyOf ttl job))) := by
  simp only [submit, hname, create_of_none hnone]

theorem submit_of_some (hname : jobName tables job.jobId = .ok name) (hsome : c name = some k) :
    submit tables ttl job now c =
      if k.annotations idempotencyKeyKey ≠ some job.idempotencyKey then
        (.error .differentIdempotencyKey, c)
      else (.ok (receiptOf job name now), c) := by
  simp only [submit, hname, create_of_some hsome, read_of_some hsome, ne_eq, not_true_eq_false,
    if_false]

theorem cancel_eq {jobId : Text} (hname : jobName tables jobId = .ok name) :
    (cancel tables jobId c).2 = Function.update c name none := by
  cases hc : c name with
  | none =>
    have hsame : Function.update c name none = c := by
      rw [← hc]
      exact Function.update_eq_self name c
    simp [cancel, deleteNamespacedJob, hname, hc, hsame]
  | some k => simp [cancel, deleteNamespacedJob, hname, hc]

theorem bodyOf_key (job : WorkerJob) :
    (bodyOf ttl job).annotations idempotencyKeyKey = some job.idempotencyKey := by
  have hne : idempotencyKeyKey ≠ jobIdKey := by decide
  simp [bodyOf, hne]

theorem annotate_key (k : ClusterJob) (field : OutputField) (value : Text) :
    (k.annotate field value).annotations idempotencyKeyKey = k.annotations idempotencyKeyKey := by
  have hne : idempotencyKeyKey ≠ outputKey field := by
    cases field <;> decide
  exact Function.update_of_ne hne (some value) k.annotations

/-- Whose output is returned carries the key and the name of the call. -/
theorem reconcile_some {ref : S3.ArtifactRef} {jobId key : Text}
    (h : reconcile tables jobId key c = .ok (some ref)) :
    ∃ name k, jobName tables jobId = .ok name ∧ c name = some k ∧
      k.annotations idempotencyKeyKey = some key ∧ k.annotated.bind validateRef = some ref := by
  unfold reconcile readNamespacedJob at h
  cases hname : jobName tables jobId with
  | error e =>
    rw [hname] at h
    cases h
  | ok name =>
    rw [hname] at h
    cases hc : c name with
    | none =>
      simp only [hc] at h
      cases h
    | some k =>
      simp only [hc] at h
      by_cases hkey : k.annotations idempotencyKeyKey = some key
      · refine ⟨name, k, rfl, hc, hkey, ?_⟩
        rw [if_neg (not_not.mpr hkey)] at h
        split at h
        · cases h
        · split at h
          · cases h
          · unfold outputOf at h
            cases hvalues : k.annotated with
            | none =>
              rw [hvalues] at h
              cases h
            | some values =>
              rw [hvalues] at h
              cases hvalid : validateRef values with
              | none =>
                simp only [hvalid] at h
                cases h
              | some ref' =>
                simp only [hvalid] at h
                cases h
                exact hvalid
      · rw [if_pos hkey] at h
        cases h

end Calls

/-! ### Whose a cluster job is -/

/-- A cluster job stands under the name of the job it was submitted for and carries its key. -/
structure OwnedJob (tables : CaseTables) (jobs : Set WorkerJob) (name : Text) (k : ClusterJob) :
    Prop where
  listed : k.contract ∈ jobs
  named : jobName tables k.contract.jobId = .ok name
  keyed : k.annotations idempotencyKeyKey = some k.contract.idempotencyKey

def Owned (tables : CaseTables) (jobs : Set WorkerJob) (c : Cluster) : Prop :=
  ∀ name k, c name = some k → OwnedJob tables jobs name k

section Owners
variable {tables : CaseTables} {ttl : Nat} {jobs : Set WorkerJob} {c : Cluster}

theorem Owned.update (h : Owned tables jobs c) {name : Text} {k? : Option ClusterJob}
    (hk : ∀ k, k? = some k → OwnedJob tables jobs name k) :
    Owned tables jobs (Function.update c name k?) := by
  intro name' k hlookup
  by_cases hname : name' = name
  · subst hname
    rw [Function.update_self] at hlookup
    exact hk k hlookup
  · rw [Function.update_of_ne hname] at hlookup
    exact h name' k hlookup

/-- Changes that leave contract and key alone. -/
theorem Owned.map (h : Owned tables jobs c) {name : Text} {change : ClusterJob → ClusterJob}
    (hcontract : ∀ k, (change k).contract = k.contract)
    (hkey : ∀ k, (change k).annotations idempotencyKeyKey = k.annotations idempotencyKeyKey) :
    Owned tables jobs (Function.update c name ((c name).map change)) := by
  apply h.update
  intro k' hk'
  obtain ⟨k, hk, rfl⟩ := Option.map_eq_some_iff.mp hk'
  have howned := h name k hk
  refine ⟨?_, ?_, ?_⟩
  · rw [hcontract]
    exact howned.listed
  · rw [hcontract]
    exact howned.named
  · rw [hcontract, hkey]
    exact howned.keyed

theorem Owned.submit (h : Owned tables jobs c) {job : WorkerJob} {now : Nat} (hjob : job ∈ jobs) :
    Owned tables jobs (submit tables ttl job now c).2 := by
  cases hname : jobName tables job.jobId with
  | error e =>
    unfold ClusterJobs.submit
    rw [hname]
    exact h
  | ok name =>
    cases hc : c name with
    | none =>
      rw [submit_of_none hname hc]
      apply h.update
      intro k hk
      cases hk
      exact ⟨hjob, hname, bodyOf_key job⟩
    | some k =>
      rw [submit_of_some hname hc]
      split
      · exact h
      · exact h

theorem Owned.cancel (h : Owned tables jobs c) (jobId : Text) :
    Owned tables jobs (cancel tables jobId c).2 := by
  cases hname : jobName tables jobId with
  | error e =>
    unfold ClusterJobs.cancel
    rw [hname]
    exact h
  | ok name =>
    rw [cancel_eq hname]
    apply h.update
    intro k hk
    cases hk

theorem Owned.step (h : Owned tables jobs c) {e : Event} {c' : Cluster}
    (hstep : Step tables ttl jobs c e c') : Owned tables jobs c' := by
  obtain ⟨hjobs, rfl⟩ := hstep
  cases e with
  | submit job now => exact h.submit (hjobs job rfl)
  | cancel job => exact h.cancel job.jobId
  | reconcile job => exact h
  | annotate name field value => exact h.map (fun _ => rfl) fun k => annotate_key k field value
  | finish name failed succeeded => exact h.map (fun _ => rfl) fun _ => rfl
  | expire name =>
    apply h.update
    intro k hk
    cases hk

theorem Owned.run {tr : List (Transition Cluster Event)}
    (h : Run (Step tables ttl jobs) (fun _ => none) tr c) : Owned tables jobs c := by
  apply Run.invariant _ _ h
  · intro name k hk
    cases hk
  · intro _ _ _ howned hstep
    exact howned.step hstep

/-- Where it is told whose a cluster job is, it is the only one of its owner. -/
theorem Owned.name_eq (h : Owned tables jobs c) {name name' : Text} {k k' : ClusterJob}
    {job : WorkerJob} (hk : c name = some k) (hfor : k.For job) (hk' : c name' = some k')
    (hfor' : k'.For job) : name' = name := by
  have hname := (h name k hk).named
  have hname' := (h name' k' hk').named
  rw [hfor] at hname
  rw [hfor'] at hname'
  exact Except.ok.inj (hname'.symm.trans hname)

end Owners

/-! ### Jobs that get in each other's way -/

/-- The names that the broker derives tell the jobs apart. -/
def NamedApart (tables : CaseTables) (jobs : Set WorkerJob) : Prop :=
  ∀ a ∈ jobs, ∀ b ∈ jobs, jobName tables a.jobId = jobName tables b.jobId → a = b

section Apart
variable {tables : CaseTables} {ttl : Nat} {jobs : Set WorkerJob} {c : Cluster}

theorem contract_eq (hnames : NamedApart tables jobs) (h : Owned tables jobs c) {name : Text}
    {k : ClusterJob} {job : WorkerJob} (hjob : job ∈ jobs)
    (hname : jobName tables job.jobId = .ok name) (hk : c name = some k) : k.contract = job := by
  have howned := h name k hk
  exact hnames _ howned.listed job hjob (howned.named.trans hname.symm)

theorem undisturbed_submit (hnames : NamedApart tables jobs) (h : Owned tables jobs c)
    {job : WorkerJob} {now : Nat} {name : Text} (hjob : job ∈ jobs)
    (hname : jobName tables job.jobId = .ok name) :
    Undisturbed tables ttl c (.submit job now) := by
  have hafter : Owned tables jobs (submit tables ttl job now c).2 := h.submit hjob
  show Accepted job c (submit tables ttl job now c)
  cases hc : c name with
  | none =>
    rw [submit_of_none hname hc] at hafter ⊢
    have hnew : Function.update c name (some (bodyOf ttl job)) name = some (bodyOf ttl job) :=
      Function.update_self ..
    have hother : ∀ name' k, c name' = some k → name' ≠ name := by
      rintro name' k hk rfl
      rw [hc] at hk
      cases hk
    refine ⟨⟨_, rfl, rfl⟩, ⟨name, bodyOf ttl job, hnew, rfl, ?_⟩, ?_, ?_⟩
    · intro name' k' hk' hfor'
      exact hafter.name_eq hnew rfl hk' hfor'
    · intro name' k hk hfor
      have hnamed := (h name' k hk).named
      rw [hfor, hname] at hnamed
      exact absurd (Except.ok.inj hnamed).symm (hother name' k hk)
    · intro name' k hk
      exact (Function.update_of_ne (hother name' k hk) _ _).trans hk
  | some k =>
    have hcontract := contract_eq hnames h hjob hname hc
    have hkey : k.annotations idempotencyKeyKey = some job.idempotencyKey := by
      rw [(h name k hc).keyed, hcontract]
    have hfor : k.For job := congrArg WorkerJob.jobId hcontract
    rw [submit_of_some hname hc, if_neg (not_not.mpr hkey)]
    refine ⟨⟨_, rfl, rfl⟩, ⟨name, k, hc, hfor, ?_⟩, ?_, ?_⟩
    · intro name' k' hk' hfor'
      exact h.name_eq hc hfor hk' hfor'
    · intro _ _ _ _
      rfl
    · intro name' k' hk'
      exact hk'

theorem undisturbed_cancel (hnames : NamedApart tables jobs) (h : Owned tables jobs c)
    {job : WorkerJob} {name : Text} (hjob : job ∈ jobs)
    (hname : jobName tables job.jobId = .ok name) : Undisturbed tables ttl c (.cancel job) := by
  intro name' k hk hother
  rw [cancel_eq hname]
  apply (Function.update_of_ne _ _ _).trans hk
  rintro rfl
  exact hother (congrArg WorkerJob.jobId (contract_eq hnames h hjob hname hk))

theorem undisturbed_reconcile (hnames : NamedApart tables jobs) (h : Owned tables jobs c)
    {job : WorkerJob} (hjob : job ∈ jobs) : Undisturbed tables ttl c (.reconcile job) := by
  intro ref href
  obtain ⟨name, k, hname, hk, -, hannotated⟩ := reconcile_some href
  exact ⟨name, k, hk, congrArg WorkerJob.jobId (contract_eq hnames h hjob hname hk), hannotated⟩

theorem undisturbed_step (hjobs : Distinct tables jobs) (hnames : NamedApart tables jobs)
    (h : Owned tables jobs c) {e : Event} (he : ∀ job, e.job? = some job → job ∈ jobs) :
    Undisturbed tables ttl c e := by
  cases e with
  | submit job now =>
    obtain ⟨name, hname⟩ := exists_jobName (hjobs.alnum job (he job rfl))
    exact undisturbed_submit hnames h (he job rfl) hname
  | cancel job =>
    obtain ⟨name, hname⟩ := exists_jobName (hjobs.alnum job (he job rfl))
    exact undisturbed_cancel hnames h (he job rfl) hname
  | reconcile job => exact undisturbed_reconcile hnames h (he job rfl)
  | annotate name field value => trivial
  | finish name failed succeeded => trivial
  | expire name => trivial

/-- The second of two jobs with one name is turned away while the first exists. -/
theorem submit_refused {a b : WorkerJob} {name : Text} (now : Nat)
    (ha : jobName tables a.jobId = .ok name) (hb : jobName tables b.jobId = .ok name)
    (hkeys : a.idempotencyKey ≠ b.idempotencyKey) :
    (submit tables ttl b now (next tables ttl (fun _ => none) (.submit a now))).1 =
      .error .differentIdempotencyKey := by
  have hfirst : next tables ttl (fun _ => none) (.submit a now) =
      Function.update (fun _ => none) name (some (bodyOf ttl a)) := by
    show (submit tables ttl a now fun _ => none).2 = _
    rw [submit_of_none ha rfl]
  rw [hfirst, submit_of_some hb (Function.update_self ..), bodyOf_key, if_pos]
  intro heq
  exact hkeys (Option.some.inj heq)

/-- Two jobs with one name get in each other's way in the shortest of runs. -/
theorem exists_disturbed (hjobs : Distinct tables jobs) {a b : WorkerJob} (ha : a ∈ jobs)
    (hb : b ∈ jobs) (hsame : jobName tables a.jobId = jobName tables b.jobId) (hne : a ≠ b) :
    ∃ tr c, Run (Step tables ttl jobs) (fun _ => none) tr c ∧
      ∃ t ∈ tr, ¬ Undisturbed tables ttl t.before t.label := by
  obtain ⟨name, hname⟩ := exists_jobName (hjobs.alnum a ha)
  have hkeys : a.idempotencyKey ≠ b.idempotencyKey := by
    intro heq
    exact hne (hjobs.keys a ha b hb heq)
  have hover : ∀ job, job ∈ jobs → ∀ job', (Event.submit job 0).job? = some job' →
      job' ∈ jobs := by
    intro job hjob job' heq
    cases heq
    exact hjob
  have hrun : Run (Step tables ttl jobs) (fun _ => none)
      [⟨_, .submit b 0, _⟩, ⟨_, .submit a 0, _⟩] _ :=
    .snoc (.snoc .nil ⟨hover a ha, rfl⟩) ⟨hover b hb, rfl⟩
  refine ⟨_, _, hrun, _, List.mem_cons_self, ?_⟩
  intro hsecond
  have haccepted : Accepted b _ (submit tables ttl b 0 _) := hsecond
  obtain ⟨receipt, hreceipt, -⟩ := haccepted.accepted
  rw [submit_refused 0 hname (hsame ▸ hname) hkeys] at hreceipt
  cases hreceipt

end Apart

/-- In every run of calls over the jobs, interleaved with whatever the cluster does, no call
disturbs another job, exactly if the derived names differ. -/
theorem cluster_jobs_undisturbed_iff (tables : CaseTables) (ttl : Nat) (jobs : Set WorkerJob)
    (hjobs : Distinct tables jobs) :
    (∀ tr c, Run (Step tables ttl jobs) (fun _ => none) tr c →
        ∀ t ∈ tr, Undisturbed tables ttl t.before t.label) ↔ NamedApart tables jobs := by
  constructor
  · intro hruns a ha b hb hsame
    by_contra hne
    obtain ⟨tr, c, hrun, t, ht, hdisturbed⟩ := exists_disturbed hjobs ha hb hsame hne
    exact hdisturbed (hruns tr c hrun t ht)
  · intro hnames tr c hrun t ht
    obtain ⟨tr', hbefore, hstep⟩ := hrun.step_of_mem ht
    exact undisturbed_step hjobs hnames (Owned.run hbefore) hstep.1

/-! ### Two requirements of one case -/

theorem alnum_toLower {c : Char} (h : c.isAlphanum = true) : c.toLower.isAlphanum = true := by
  have hascii : c.toNat < 128 := by
    delta Char.isAlphanum Char.isAlpha Char.isUpper Char.isLower Char.isDigit at h
    simp only [Bool.or_eq_true, Bool.and_eq_true, decide_eq_true_eq,
      UInt32.le_iff_toNat_le] at h
    have hval : c.toNat = c.val.toNat := rfl
    have hupper : 'Z'.val.toNat = 90 := rfl
    have hlower : 'z'.val.toNat = 122 := rfl
    have hdigit : '9'.val.toNat = 57 := rfl
    omega
  have htable : ∀ n : Fin 128, (Char.ofNat n).isAlphanum = true →
      (Char.ofNat n).toLower.isAlphanum = true := by
    decide
  have hc := htable ⟨c.toNat, hascii⟩
  rw [Char.ofNat_toNat] at hc
  exact hc h

/-- The tables on ASCII. -/
def asciiTables : CaseTables where
  toUnicodeData := Intake.asciiData
  alnum_lower := by
    rintro text ⟨c, hc, halnum⟩
    exact ⟨c.toLower, List.mem_map_of_mem hc, alnum_toLower halnum⟩

/-- What `_worker_job_id` makes of the case and the recipe of a requirement. -/
def recipeJobId (requirementId : String) : Text :=
  ("checkout-optimization:A2.50:recipe:" ++ requirementId).toList

/-- The job that `A2.50` submits for the recipe of a requirement. -/
def recipeJob (requirementId : String) (h : Admitted (recipeJobId requirementId)) :
    WorkerJob where
  jobId := recipeJobId requirementId
  caseId := "checkout-optimization".toList
  nodeId := "A2.50".toList
  idempotencyKey := recipeJobId requirementId
  inputRefs := []
  capability := "benchmark".toList
  timeoutSeconds := 600
  secretRefs := []
  admitted := by
    have hrest : ∀ text ∈ ["checkout-optimization".toList, "A2.50".toList, "benchmark".toList],
        Admitted text := by
      decide +kernel
    simp only [List.forall_mem_cons] at hrest ⊢
    exact ⟨h, hrest.1, hrest.2.1, h, hrest.2.2⟩
  timeout_pos := by decide

def p95Job : WorkerJob := recipeJob "evidence-latency-p95" (by decide +kernel)

def p99Job : WorkerJob := recipeJob "evidence-latency-p99" (by decide +kernel)

def memoryJob : WorkerJob := recipeJob "evidence-memory" (by decide +kernel)

theorem distinct_pair {tables : CaseTables} {a b : WorkerJob} (hids : a.jobId ≠ b.jobId)
    (hkeys : a.idempotencyKey ≠ b.idempotencyKey) (ha : ∃ c ∈ a.jobId, tables.isAlnum c = true)
    (hb : ∃ c ∈ b.jobId, tables.isAlnum c = true) : Distinct tables {a, b} where
  ids := by
    rintro x (rfl | rfl) y (rfl | rfl) heq
    · rfl
    · exact absurd heq hids
    · exact absurd heq.symm hids
    · rfl
  keys := by
    rintro x (rfl | rfl) y (rfl | rfl) heq
    · rfl
    · exact absurd heq hkeys
    · exact absurd heq.symm hkeys
    · rfl
  alnum := by
    rintro x (rfl | rfl)
    · exact ha
    · exact hb

theorem recipeJob_ids_ne {r r' : String} {h : Admitted (recipeJobId r)}
    {h' : Admitted (recipeJobId r')} (hne : r ≠ r') :
    (recipeJob r h).jobId ≠ (recipeJob r' h').jobId := by
  intro hsame
  exact hne ((String.append_right_inj _).mp (String.toList_inj.mp hsame))

theorem alnum_recipeJobId (requirementId : String) :
    ∃ c ∈ recipeJobId requirementId, asciiTables.isAlnum c = true := by
  refine ⟨'c', ?_, rfl⟩
  unfold recipeJobId
  rw [String.toList_append]
  apply List.mem_append_left
  decide

theorem distinct_recipeJobs {r r' : String} {h : Admitted (recipeJobId r)}
    {h' : Admitted (recipeJobId r')} (hne : r ≠ r') :
    Distinct asciiTables {recipeJob r h, recipeJob r' h'} := by
  have hids : (recipeJob r h).jobId ≠ (recipeJob r' h').jobId := recipeJob_ids_ne hne
  exact distinct_pair hids hids (alnum_recipeJobId r) (alnum_recipeJobId r')

/-- The cut falls between the percentile and the rest of the requirement. The second submission
is refused, and cancelling it removes the first job. -/
theorem percentile_jobs_collide :
    Distinct asciiTables {p95Job, p99Job} ∧
      (submit asciiTables 3600 p99Job 0
        (next asciiTables 3600 (fun _ => none) (.submit p95Job 0))).1 =
          .error .differentIdempotencyKey ∧
      ¬ Undisturbed asciiTables 3600 (next asciiTables 3600 (fun _ => none) (.submit p95Job 0))
        (.cancel p99Job) ∧
      ¬ ∀ tr c, Run (Step asciiTables 3600 {p95Job, p99Job}) (fun _ => none) tr c →
        ∀ t ∈ tr, Undisturbed asciiTables 3600 t.before t.label := by
  have hdistinct : Distinct asciiTables {p95Job, p99Job} := distinct_recipeJobs (by decide)
  have hp95 : jobName asciiTables p95Job.jobId =
      .ok "optimizer-checkout-optimization-a2-50-recipe-evidence-latency".toList := by
    decide +kernel
  have hp99 : jobName asciiTables p99Job.jobId =
      .ok "optimizer-checkout-optimization-a2-50-recipe-evidence-latency".toList := by
    decide +kernel
  have hids : p95Job.jobId ≠ p99Job.jobId := recipeJob_ids_ne (by decide)
  have hkeys : p95Job.idempotencyKey ≠ p99Job.idempotencyKey := hids
  have hne : p95Job ≠ p99Job := fun heq => hids (congrArg WorkerJob.jobId heq)
  refine ⟨hdistinct, submit_refused 0 hp95 hp99 hkeys, ?_, ?_⟩
  · intro hcancel
    have hfirst : next asciiTables 3600 (fun _ => none) (.submit p95Job 0) =
        Function.update (fun _ => none) _ (some (bodyOf 3600 p95Job)) :=
      congrArg Prod.snd (submit_of_none hp95 rfl)
    have hkept := hcancel _ (bodyOf 3600 p95Job)
      (by rw [hfirst]; exact Function.update_self ..) hids
    rw [cancel_eq hp99, Function.update_self] at hkept
    cases hkept
  · intro hruns
    obtain ⟨tr, c, hrun, t, ht, hdisturbed⟩ :=
      exists_disturbed hdistinct (.inl rfl) (.inr rfl) (hp95.trans hp99.symm) hne
    exact hdisturbed (hruns tr c hrun t ht)

theorem latency_and_memory_jobs_apart :
    Distinct asciiTables {p95Job, memoryJob} ∧
      ∀ tr c, Run (Step asciiTables 3600 {p95Job, memoryJob}) (fun _ => none) tr c →
        ∀ t ∈ tr, Undisturbed asciiTables 3600 t.before t.label := by
  have hdistinct : Distinct asciiTables {p95Job, memoryJob} := distinct_recipeJobs (by decide)
  have hnames : jobName asciiTables p95Job.jobId ≠ jobName asciiTables memoryJob.jobId := by
    decide +kernel
  refine ⟨hdistinct, (cluster_jobs_undisturbed_iff asciiTables 3600 _ hdistinct).mpr ?_⟩
  rintro a (rfl | rfl) b (rfl | rfl) hsame
  · rfl
  · exact absurd hsame hnames
  · exact absurd hsame.symm hnames
  · rfl

end ProductionOptimizer.ClusterJobs
