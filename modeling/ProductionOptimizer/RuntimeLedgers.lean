import ProductionOptimizer.LedgerRefinement

/-!
# Sessions over either ledger

`NodeRuntime._execute_idempotent` over any ledger. A session executes one node after the other and
may go on with what it was answered. It cannot tell the two ledgers apart as long as the database
has the cases it is about; without a case the database lets no node run.
-/

namespace ProductionOptimizer.ControlPlane
open Interaction
set_option autoImplicit false

variable {N C X U F W L O E α : Type}

/-- What `_execute_idempotent` calls beside the ledger: `identity` answers the tenant, the case
and the idempotency key, and `putJson` and `readExecution` include the canonical form. -/
structure Runtime (N C X U F W : Type) where
  identity : N → C → Except F (String × String × String)
  nodeId : N → String
  inputDigest : N → C → String
  now : W → Int × W
  handler : N → C → W → Except F X × W
  validate : N → X → Except F Unit
  putJson : String → String → X → W → Except F FanIn.ArtifactRef × W
  readExecution : String → FanIn.ArtifactRef → W → Except F X × W
  emit : N → C → X → W → Except F Unit × W
  commit : N → X → C → U

inductive RuntimeFailure (F : Type) where
  | raised (error : F)
  | ledger (failure : LedgerFailure)

/-- The output of a record that is answered without a run of the handler. -/
def IntentRecord.replayable (record : IntentRecord) : Option FanIn.ArtifactRef :=
  if record.status = .completed then record.outputRef else none

section Execute
variable (runtime : Runtime N C X U F W) (ledger : Server LedgerCall LedgerAnswer L)

def replay (node : N) (case : C) (tenantId : String) (ref : FanIn.ArtifactRef) (world : W) :
    Except (RuntimeFailure F) U × W :=
  match runtime.readExecution tenantId ref world with
  | (.ok execution, world) => (.ok (runtime.commit node execution case), world)
  | (.error e, world) => (.error (.raised e), world)

/-- The handler raised: the intent is marked unknown, and the exception goes on unless that raises
in its turn. -/
def abandon (tenantId key : String) (error : F) (state : L × W) :
    Except (RuntimeFailure F) U × (L × W) :=
  match ledger (.markUnknown tenantId key) state.1 with
  | (.ok _, records) => (.error (.raised error), records, state.2)
  | (.error failure, records) => (.error (.ledger failure), records, state.2)

/-- The handler returned: its execution is validated and stored, and the intent completed. -/
def finish (node : N) (case : C) (tenantId key : String) (execution : X) (state : L × W) :
    Except (RuntimeFailure F) U × (L × W) :=
  match runtime.validate node execution with
  | .error e => (.error (.raised e), state)
  | .ok () =>
    match runtime.putJson tenantId key execution state.2 with
    | (.error e, world) => (.error (.raised e), state.1, world)
    | (.ok ref, world) =>
      match ledger (.complete tenantId key ref) state.1 with
      | (.error failure, records) => (.error (.ledger failure), records, world)
      | (.ok _, records) =>
        match runtime.emit node case execution world with
        | (.error e, world) => (.error (.raised e), records, world)
        | (.ok _, world) => (.ok (runtime.commit node execution case), records, world)

def pendingIntent (node : N) (case : C) (tenantId caseId key : String) (now : Int) :
    IntentRecord where
  tenantId
  idempotencyKey := key
  nodeId := runtime.nodeId node
  caseId
  status := .pending
  inputDigest := runtime.inputDigest node case
  updatedAt := now

def runPrepared (node : N) (case : C) (tenantId key : String) (state : L × W) :
    Except (RuntimeFailure F) U × (L × W) :=
  match runtime.handler node case state.2 with
  | (.error e, world) => abandon ledger tenantId key e (state.1, world)
  | (.ok execution, world) =>
    finish runtime ledger node case tenantId key execution (state.1, world)

def executeIdempotent : Server (N × C) (Except (RuntimeFailure F) U) (L × W) :=
  fun invocation state =>
    match runtime.identity invocation.1 invocation.2 with
    | .error e => (.error (.raised e), state)
    | .ok (tenantId, caseId, key) =>
      match ledger (.get tenantId key) state.1 with
      | (.error failure, records) => (.error (.ledger failure), records, state.2)
      | (.ok existing, records) =>
        match existing.bind IntentRecord.replayable with
        | some ref =>
          let replayed := replay runtime invocation.1 invocation.2 tenantId ref state.2
          (replayed.1, records, replayed.2)
        | none =>
          let now := runtime.now state.2
          match ledger (.prepare (pendingIntent runtime invocation.1 invocation.2 tenantId caseId
              key now.1)) records with
          | (.error failure, records) => (.error (.ledger failure), records, now.2)
          | (.ok _, records) =>
            runPrepared runtime ledger invocation.1 invocation.2 tenantId key (records, now.2)

end Execute

/-! ### The states of the two ledgers between two nodes -/

/-- The ledgers hold the same records, and a completed one has its output. -/
structure InStep (records : MemoryLedger) (db : Database) : Prop where
  represents : Represents records db
  outputs : ∀ key row, db.intents.find key = some row → row.status = .completed →
    (artifactRefFromRow row).isSome

/-- The ledgers agree and the cases are still the ones the session began with. -/
structure Abreast (cases : KeyedTable CaseRow.key) (records : MemoryLedger) (postgres : Postgres) :
    Prop where
  inStep : InStep records postgres.database
  cases : postgres.database.cases = cases

variable {cases : KeyedTable CaseRow.key} {records : MemoryLedger} {postgres : Postgres}
  {tenantId key : String} (clock : Nat → Int)

/-- A permitted call that the memory answers is answered by the database, and the ledgers stay
abreast if no row is completed without an output. -/
theorem Abreast.answer (h : Abreast cases records postgres) {call : LedgerCall}
    (hpermits : Permits postgres.database call) {record : Option IntentRecord}
    {records' : MemoryLedger} (hmemory : memoryLedger call records = (.ok record, records'))
    (houtputs : ∀ key row, (ledgerTransaction (clock postgres.transactions) call
      postgres.database).2.intents.find key = some row → row.status = .completed →
        (artifactRefFromRow row).isSome) :
    ∃ record' postgres', postgresLedger clock call postgres = (.ok record', postgres') ∧
      record.map (·.untimed) = record'.map (·.untimed) ∧ Abreast cases records' postgres' := by
  have hsame := ((ledgers_alike clock).same_iff h.inStep.represents).mpr hpermits
  have hkeeps := (ledgers_alike clock).keeps h.inStep.represents hpermits
  rw [hmemory] at hsame hkeeps
  have hcases := cases_ledgerTransaction (clock postgres.transactions) call postgres.database
  cases hanswer : postgresLedger clock call postgres with
  | mk answer postgres' =>
    have hstate : postgres'.database = (ledgerTransaction (clock postgres.transactions) call
        postgres.database).2 := congrArg (fun out => out.2.database) hanswer.symm
    rw [hanswer] at hsame hkeeps
    cases answer with
    | error failure => exact hsame.elim
    | ok record' =>
      refine ⟨record', postgres', rfl, hsame, ⟨hkeeps, ?_⟩, ?_⟩
      · rw [hstate]
        exact houtputs
      · rw [hstate, hcases, h.cases]

theorem Abreast.prepare (h : Abreast cases records postgres) (intent : IntentRecord)
    (hopen : ∀ old, postgres.database.intents.find intent.key = some old → old.status ≠ .completed)
    (hcase : (cases.find (intent.tenantId, intent.caseId)).isSome)
    (hstatus : intent.status = .pending)
    (houtput : intent.outputRef = none) :
    ∃ record' postgres' row,
      memoryLedger (.prepare intent) records =
        (.ok (some intent), records.insert intent.key intent) ∧
      postgresLedger clock (.prepare intent) postgres = (.ok record', postgres') ∧
      Abreast cases (records.insert intent.key intent) postgres' ∧
      postgres'.database.intents.find intent.key = some row ∧ row.status = .pending := by
  have hcase' : (postgres.database.cases.find (intent.tenantId, intent.caseId)).isSome := by
    rw [h.cases]
    exact hcase
  have hpermits : Permits postgres.database (.prepare intent) := Or.inr ⟨hcase', houtput⟩
  obtain ⟨hmemory, hdatabase⟩ :=
    prepare_open h.inStep.represents (clock postgres.transactions) hopen
  rcases hdatabase with ⟨_, db', row, hok, hfind, hrow, -, -⟩ | ⟨hno, _⟩
  · have houtputs : ∀ key found, (ledgerTransaction (clock postgres.transactions) (.prepare intent)
        postgres.database).2.intents.find key = some found → found.status = .completed →
          (artifactRefFromRow found).isSome := by
      intro key found hfound hcompleted
      rw [hok, hfind] at hfound
      split at hfound
      · cases hfound
        rw [hrow, hstatus] at hcompleted
        cases hcompleted
      · exact h.inStep.outputs key found hfound hcompleted
    obtain ⟨record', postgres', hanswer, _, habreast⟩ :=
      h.answer clock hpermits hmemory houtputs
    have hstate : postgres'.database = db' := by
      have := congrArg (fun out => out.2.database) hanswer
      rw [← this]
      exact congrArg Prod.snd hok
    refine ⟨record', postgres', row, hmemory, hanswer, habreast, ?_, hrow.trans hstatus⟩
    rw [hstate, hfind, if_pos rfl]
  · exact absurd hcase' hno

/-- The record of a row that the database has. -/
theorem Abreast.lookup (h : Abreast cases records postgres) {row : NodeIntentsRow}
    {k : String × String} (hrow : postgres.database.intents.find k = some row) :
    ∃ record, records.lookup k = some record := by
  rcases h.inStep.represents.cases k with ⟨_, hnone⟩ | ⟨record, _, hrecord, _, _⟩
  · rw [hrow] at hnone
    cases hnone
  · exact ⟨record, hrecord⟩

theorem Abreast.markUnknown (h : Abreast cases records postgres) {row : NodeIntentsRow}
    (hrow : postgres.database.intents.find (tenantId, key) = some row)
    (hpending : row.status = .pending) :
    ∃ record records' record' postgres',
      memoryLedger (.markUnknown tenantId key) records = (.ok record, records') ∧
      postgresLedger clock (.markUnknown tenantId key) postgres = (.ok record', postgres') ∧
      Abreast cases records' postgres' := by
  obtain ⟨record, hrecord⟩ := h.lookup hrow
  have hmemory : memoryLedger (.markUnknown tenantId key) records =
      (.ok (some { record with status := .unknown }),
        records.insert (tenantId, key) { record with status := .unknown }) := by
    simp only [memoryLedger, hrecord]
  have hpermits : Permits postgres.database (.markUnknown tenantId key) := by
    intro found hfound
    rw [hrow] at hfound
    cases hfound
    exact hpending
  obtain ⟨record', postgres', hanswer, _, habreast⟩ := h.answer clock hpermits hmemory
    (by
      intro key' found hfound hcompleted
      simp only [ledgerTransaction, hrow, if_pos hpending, find_markIntentUnknown] at hfound
      split at hfound
      · rename_i hkey
        rw [hkey, hrow] at hfound
        cases hfound
        cases hcompleted
      · exact h.inStep.outputs key' found hfound hcompleted)
  exact ⟨_, _, record', postgres', hmemory, hanswer, habreast⟩

theorem Abreast.complete (h : Abreast cases records postgres) {row : NodeIntentsRow}
    (hrow : postgres.database.intents.find (tenantId, key) = some row) (ref : FanIn.ArtifactRef) :
    ∃ record records' record' postgres',
      memoryLedger (.complete tenantId key ref) records = (.ok record, records') ∧
      postgresLedger clock (.complete tenantId key ref) postgres = (.ok record', postgres') ∧
      Abreast cases records' postgres' := by
  obtain ⟨record, hrecord⟩ := h.lookup hrow
  have hmemory : memoryLedger (.complete tenantId key ref) records =
      (.ok (some { record with status := .completed, outputRef := some ref }),
        records.insert (tenantId, key)
          { record with status := .completed, outputRef := some ref }) := by
    simp only [memoryLedger, hrecord]
  have hpermits : Permits postgres.database (.complete tenantId key ref) := trivial
  obtain ⟨record', postgres', hanswer, _, habreast⟩ := h.answer clock hpermits hmemory (by
      intro key' found hfound hcompleted
      simp only [ledgerTransaction, hrow, find_completeIntent] at hfound
      split at hfound
      · rename_i hkey
        rw [hkey, hrow] at hfound
        cases hfound
        rfl
      · exact h.inStep.outputs key' found hfound hcompleted)
  exact ⟨_, _, record', postgres', hmemory, hanswer, habreast⟩

/-! ### One node -/

/-- The same outcome and the same world, and the ledgers still abreast. -/
structure Agree (cases : KeyedTable CaseRow.key)
    (left : Except (RuntimeFailure F) U × (MemoryLedger × W))
    (right : Except (RuntimeFailure F) U × (Postgres × W)) : Prop where
  outcome : left.1 = right.1
  world : left.2.2 = right.2.2
  abreast : Abreast cases left.2.1 right.2.1

variable {runtime : Runtime N C X U F W} {node : N} {case : C} {world : W}

theorem abandon_agrees (h : Abreast cases records postgres) {row : NodeIntentsRow}
    (hrow : postgres.database.intents.find (tenantId, key) = some row)
    (hpending : row.status = .pending) (error : F) :
    Agree (U := U) cases (abandon memoryLedger tenantId key error (records, world))
      (abandon (postgresLedger clock) tenantId key error (postgres, world)) := by
  obtain ⟨record, records', record', postgres', hmemory, hanswer, habreast⟩ :=
    h.markUnknown clock hrow hpending
  simp only [abandon, hmemory, hanswer]
  exact ⟨rfl, rfl, habreast⟩

theorem finish_agrees (h : Abreast cases records postgres) {row : NodeIntentsRow}
    (hrow : postgres.database.intents.find (tenantId, key) = some row) (execution : X) :
    Agree cases (finish runtime memoryLedger node case tenantId key execution (records, world))
      (finish runtime (postgresLedger clock) node case tenantId key execution
        (postgres, world)) := by
  unfold finish
  cases runtime.validate node execution with
  | error e => exact ⟨rfl, rfl, h⟩
  | ok _ =>
    cases hput : runtime.putJson tenantId key execution world with
    | mk stored world' =>
      cases stored with
      | error e => exact ⟨rfl, rfl, h⟩
      | ok ref =>
        obtain ⟨record, records', record', postgres', hmemory, hanswer, habreast⟩ :=
          h.complete clock hrow ref
        simp only [hmemory, hanswer]
        cases hemit : runtime.emit node case execution world' with
        | mk emitted world'' =>
          cases emitted with
          | error e => exact ⟨rfl, rfl, habreast⟩
          | ok _ => exact ⟨rfl, rfl, habreast⟩

theorem runPrepared_agrees (h : Abreast cases records postgres) {row : NodeIntentsRow}
    (hrow : postgres.database.intents.find (tenantId, key) = some row)
    (hpending : row.status = .pending) :
    Agree cases (runPrepared runtime memoryLedger node case tenantId key (records, world))
      (runPrepared runtime (postgresLedger clock) node case tenantId key (postgres, world)) := by
  unfold runPrepared
  cases hhandler : runtime.handler node case world with
  | mk result world' =>
    cases result with
    | error e => exact abandon_agrees clock h hrow hpending e
    | ok execution => exact finish_agrees clock h hrow execution

/-- The database has the case of an invocation. -/
def Registered (runtime : Runtime N C X U F W) (cases : KeyedTable CaseRow.key)
    (invocation : N × C) : Prop :=
  ∀ tenantId caseId key, runtime.identity invocation.1 invocation.2 = .ok (tenantId, caseId, key) →
    (cases.find (tenantId, caseId)).isSome

theorem execute_agrees (h : Abreast cases records postgres) (world : W) {invocation : N × C}
    (hcase : Registered runtime cases invocation) :
    Agree cases (executeIdempotent runtime memoryLedger invocation (records, world))
      (executeIdempotent runtime (postgresLedger clock) invocation (postgres, world)) := by
  unfold executeIdempotent
  cases hidentity : runtime.identity invocation.1 invocation.2 with
  | error e => exact ⟨rfl, rfl, h⟩
  | ok ids =>
    obtain ⟨tenantId, caseId, key⟩ := ids
    have hmemory : memoryLedger (.get tenantId key) records =
        (.ok (records.lookup (tenantId, key)), records) := rfl
    have hpostgres : postgresLedger clock (.get tenantId key) postgres =
        (.ok ((postgres.database.intents.find (tenantId, key)).map intentRecordFromRow),
          ⟨postgres.database, postgres.transactions + 1⟩) := rfl
    have hafter : Abreast cases records ⟨postgres.database, postgres.transactions + 1⟩ :=
      ⟨h.inStep, h.cases⟩
    simp only [hmemory, hpostgres]
    -- both ledgers replay, or neither does and the intent is open
    have hreplay : (records.lookup (tenantId, key)).bind IntentRecord.replayable =
          ((postgres.database.intents.find (tenantId, key)).map intentRecordFromRow).bind
            IntentRecord.replayable ∧
        ((records.lookup (tenantId, key)).bind IntentRecord.replayable = none →
          ∀ old, postgres.database.intents.find (tenantId, key) = some old →
            old.status ≠ .completed) := by
      rcases h.inStep.represents.cases (tenantId, key) with
        ⟨hrecord, hrow⟩ | ⟨record, row, hrecord, hrow, hsame⟩
      · rw [hrecord, hrow]
        exact ⟨rfl, fun _ old hold => by cases hold⟩
      · have hsameReplay := congrArg IntentRecord.replayable hsame
        change record.replayable = (intentRecordFromRow row).replayable at hsameReplay
        rw [hrecord, hrow]
        refine ⟨hsameReplay, fun hnone old hold hcompleted => ?_⟩
        cases hold
        have houtput := h.inStep.outputs _ row hrow hcompleted
        have hnone : (intentRecordFromRow row).replayable = none := hsameReplay.symm.trans hnone
        rw [IntentRecord.replayable, if_pos (show (intentRecordFromRow row).status = _ from
          hcompleted)] at hnone
        rw [show artifactRefFromRow row = none from hnone] at houtput
        cases houtput
    obtain ⟨hsame, hopen⟩ := hreplay
    rw [← hsame]
    cases hcached : (records.lookup (tenantId, key)).bind IntentRecord.replayable with
    | some ref => exact ⟨rfl, rfl, hafter⟩
    | none =>
      obtain ⟨record', postgres', row, hm, hp, habreast, hrow, hpending⟩ :=
        hafter.prepare clock (pendingIntent runtime invocation.1 invocation.2 tenantId caseId key
          (runtime.now world).1) (hopen hcached) (hcase tenantId caseId key hidentity) rfl rfl
      simp only [hm, hp]
      exact runPrepared_agrees clock habreast hrow hpending

/-! ### Sessions -/

/-- A session over the ledger in memory and one over the database go the same way: the same
outcomes of the same nodes, the same world left behind, and ledgers that agree, whatever the
handlers and stores do and however the session reacts, if the database has the cases of the nodes
that are executed. -/
theorem sessions_agree (clock : Nat → Int)
    (session : Prog (N × C) (Except (RuntimeFailure F) U) O E α)
    (h : InStep records postgres.database) (world : W)
    (hcases : ∀ call ∈ (session.serve (executeIdempotent runtime memoryLedger)
      (records, world)).calls, Registered runtime postgres.database.cases call.1) :
    let inMemory := session.serve (executeIdempotent runtime memoryLedger) (records, world)
    let durable := session.serve (executeIdempotent runtime (postgresLedger clock))
      (postgres, world)
    inMemory.calls = durable.calls ∧ inMemory.outcome = durable.outcome ∧
      inMemory.state.2 = durable.state.2 ∧
      InStep inMemory.state.1 durable.state.1.database := by
  intro inMemory durable
  have hstep : ∀ (invocation : N × C) (left : MemoryLedger × W) (right : Postgres × W),
      Registered runtime postgres.database.cases invocation →
      Abreast postgres.database.cases left.1 right.1 ∧ left.2 = right.2 →
      (executeIdempotent runtime memoryLedger invocation left).1 =
          (executeIdempotent runtime (postgresLedger clock) invocation right).1 ∧
        Abreast postgres.database.cases (executeIdempotent runtime memoryLedger invocation left).2.1
            (executeIdempotent runtime (postgresLedger clock) invocation right).2.1 ∧
          (executeIdempotent runtime memoryLedger invocation left).2.2 =
            (executeIdempotent runtime (postgresLedger clock) invocation right).2.2 := by
    rintro invocation ⟨left, world⟩ ⟨right, world'⟩ hregistered ⟨habreast, hworld⟩
    obtain rfl : world = world' := hworld
    have hagree := execute_agrees clock habreast world hregistered
    exact ⟨hagree.outcome, hagree.abreast, hagree.world⟩
  have hstart : Abreast postgres.database.cases (records, world).1 (postgres, world).1 ∧
      (records, world).2 = (postgres, world).2 := ⟨⟨h, rfl⟩, rfl⟩
  obtain ⟨hcalls, _, houtcome, habreast, hworld⟩ :=
    Prog.serve_eq hstep session hstart hcases
  exact ⟨hcalls, houtcome, hworld, habreast.inStep⟩

/-- Every node of the sample returns its name; the world is the number of handlers run. -/
def sampleRuntime : Runtime String Unit String String String Nat where
  identity node _ := .ok ("acme", "checkout-1", "checkout-1:" ++ node ++ ":v1")
  nodeId node := node
  inputDigest _ _ := sampleIntent.inputDigest
  now handlers := (handlers, handlers)
  handler node _ handlers := (.ok node, handlers + 1)
  validate _ _ := .ok ()
  putJson _ _ _ handlers := (.ok sampleRef, handlers)
  readExecution _ _ handlers := (.ok "replayed", handlers)
  emit _ _ _ handlers := (.ok (), handlers)
  commit _ execution _ := execution

/-- The same node twice. -/
def sampleSession : Prog (String × Unit) (Except (RuntimeFailure String) String) Unit Unit Bool :=
  .call ("S04.40", ()) fun _ => .call ("S04.40", ()) fun second =>
    .done (.ok (second.toOption == some "replayed"))

theorem sample_inStep : InStep ∅ sampleDatabase where
  represents := represents_empty fun _ => rfl
  outputs _ row hrow := by cases hrow

theorem sample_session : (sampleSession.serve
    (executeIdempotent sampleRuntime (postgresLedger fun n => n))
      (⟨sampleDatabase, 0⟩, 0)).outcome = .ok true := by
  have hregistered : ∀ call ∈ (sampleSession.serve (executeIdempotent sampleRuntime memoryLedger)
      (∅, 0)).calls, Registered sampleRuntime sampleDatabase.cases call.1 := by
    intro call _ tenantId caseId key hids
    cases hids
    rfl
  have hstart : InStep ∅ (Postgres.mk sampleDatabase 0).database := sample_inStep
  have hagree := sessions_agree (fun n => n) sampleSession hstart 0 hregistered
  exact hagree.2.1.symm.trans rfl

theorem Database.intents_eq_nil {db : Database} (h : db.cases.rows = []) :
    db.intents.rows = [] := by
  rw [List.eq_nil_iff_forall_not_mem]
  intro row hrow
  obtain ⟨found, hfound⟩ := Option.isSome_iff_exists.mp (db.foreignKey row hrow)
  have hmem := (KeyedTable.find_eq_some.mp hfound).1
  rw [h] at hmem
  cases hmem

/-- Without a case no row of an intent can be written, and there is none. -/
theorem execute_without_case (runtime : Runtime N C X U F W)
    (hcases : postgres.database.cases.rows = []) (invocation : N × C) (world : W) :
    (∀ ids, runtime.identity invocation.1 invocation.2 = .ok ids →
      (executeIdempotent runtime (postgresLedger clock) invocation (postgres, world)).1 =
        .error (.ledger (.database .foreignKeyViolation))) ∧
    (executeIdempotent runtime (postgresLedger clock) invocation (postgres, world)).2.1.database =
      postgres.database := by
  have hintents : ∀ k, postgres.database.intents.find k = none := by
    intro k
    rw [KeyedTable.find_eq_none, Database.intents_eq_nil hcases]
    exact fun row hrow => absurd hrow List.not_mem_nil
  have hcase : ∀ k, postgres.database.cases.find k = none := by
    intro k
    rw [KeyedTable.find_eq_none, hcases]
    exact fun row hrow => absurd hrow List.not_mem_nil
  have hget : ∀ tenantId key, postgresLedger clock (.get tenantId key) postgres =
      (.ok none, ⟨postgres.database, postgres.transactions + 1⟩) := by
    intro tenantId key
    simp only [postgresLedger, ledgerTransaction, Database.fetchIntent, hintents, Option.map_none]
  have hprepare : ∀ intent n, postgresLedger clock (.prepare intent) ⟨postgres.database, n⟩ =
      (.error (.database .foreignKeyViolation), ⟨postgres.database, n + 1⟩) := by
    intro intent n
    have hnot : ¬Writable postgres.database (rowOfIntent intent) := by
      rintro (⟨old, hold, _⟩ | hsome)
      · rw [hintents] at hold
        cases hold
      · rw [hcase] at hsome
        cases hsome
    simp only [postgresLedger, ledgerTransaction, upsertIntent_of_not_writable hnot]
  unfold executeIdempotent
  cases runtime.identity invocation.1 invocation.2 with
  | error e =>
    refine ⟨fun ids hids => ?_, rfl⟩
    cases hids
  | ok ids => simp only [hget, hprepare, Option.bind_none, implies_true, and_self]

end ProductionOptimizer.ControlPlane
