import Mathlib.Data.List.AList
import ProductionOptimizer.FanIn
import ProductionOptimizer.IntentLedger
import ProductionOptimizer.Library.KeyedTable
import ProductionOptimizer.Library.Serving

/-!
# The control plane

The tables `optimizer_control.cases` and `optimizer_control.node_intents` with their constraints,
the statements that are run against them, `PostgresIntentLedger` and the ledger that
`build_control_plane` falls back to. Each call is one transaction.
-/

namespace ProductionOptimizer.ControlPlane
open Interaction
set_option autoImplicit false

/-! ### The tables -/

structure CaseRow where
  tenantId : String
  caseId : String
  threadId : String
  lane : String
  status : String
  currentNode : Option String
  cancellationRequestedAt : Option Int := none
  createdAt : Int
  updatedAt : Int
  deriving DecidableEq

def CaseRow.key (row : CaseRow) : String × String := (row.tenantId, row.caseId)

def CaseRow.thread (row : CaseRow) : String × String := (row.tenantId, row.threadId)

structure NodeIntentsRow where
  tenantId : String
  idempotencyKey : String
  caseId : String
  nodeId : String
  inputDigest : String
  status : IntentStatus
  outputArtifactType : Option String := none
  outputSchemaVersion : Option String := none
  outputArtifactId : Option String := none
  outputDigest : Option String := none
  outputUri : Option String := none
  updatedAt : Int
  deriving DecidableEq

def NodeIntentsRow.key (row : NodeIntentsRow) : String × String :=
  (row.tenantId, row.idempotencyKey)

def NodeIntentsRow.caseKey (row : NodeIntentsRow) : String × String := (row.tenantId, row.caseId)

def lanes : List String := ["manual", "automatic"]

/-- `threads` is `UNIQUE (tenant_id, thread_id)`. -/
structure Database where
  cases : KeyedTable CaseRow.key
  intents : KeyedTable NodeIntentsRow.key
  threads : (cases.rows.map CaseRow.thread).Nodup
  foreignKey : ∀ row ∈ intents.rows, (cases.find row.caseKey).isSome
  laneCheck : ∀ row ∈ cases.rows, row.lane ∈ lanes

def Database.empty : Database where
  cases := .empty
  intents := .empty
  threads := List.nodup_nil
  foreignKey := fun _ h => absurd h List.not_mem_nil
  laneCheck := fun _ h => absurd h List.not_mem_nil

inductive DatabaseError where
  | checkViolation
  | uniqueViolation
  | foreignKeyViolation
  deriving DecidableEq, Repr

namespace Database
variable (db : Database)

/-! ### The statements -/

theorem threads_insert {row : CaseRow} (hthread : row.thread ∉ db.cases.rows.map CaseRow.thread) :
    ((db.cases.rows ++ [row]).map CaseRow.thread).Nodup := by
  rw [List.map_append, List.map_singleton]
  apply db.threads.append (List.nodup_singleton _)
  intro thread hold hnew
  exact hthread (List.mem_singleton.mp hnew ▸ hold)

def insertCase (row : CaseRow) : Except DatabaseError Database :=
  if hlane : row.lane ∈ lanes then
    if hkey : db.cases.find row.key = none then
      if hthread : row.thread ∈ db.cases.rows.map CaseRow.thread then .error .uniqueViolation
      else .ok
        { cases := db.cases.insert row hkey
          intents := db.intents
          threads := db.threads_insert hthread
          foreignKey := fun intent hintent => by
            rw [KeyedTable.find_insert]
            split
            · rfl
            · exact db.foreignKey intent hintent
          laneCheck := fun old hold => by
            rcases List.mem_append.mp hold with hold | hnew
            · exact db.laneCheck old hold
            · exact List.mem_singleton.mp hnew ▸ hlane }
    else .error .uniqueViolation
  else .error .checkViolation

/-- An `UPDATE` of `cases` sets the status or the time of a cancellation, and nothing that a
constraint is about. -/
structure Touch where
  apply : CaseRow → CaseRow
  key : ∀ row, (apply row).key = row.key
  thread : ∀ row, (apply row).thread = row.thread
  lane : ∀ row, (apply row).lane = row.lane

def setStatus (status : String) (now : Int) : Touch where
  apply row := { row with status, updatedAt := now }
  key _ := rfl
  thread _ := rfl
  lane _ := rfl

/-- `SET cancellation_requested_at = now() WHERE cancellation_requested_at IS NULL`. -/
def setCancellation (now : Int) : Touch where
  apply row :=
    { row with cancellationRequestedAt := row.cancellationRequestedAt.or (some now) }
  key _ := rfl
  thread _ := rfl
  lane _ := rfl

def updateCase (key : String × String) (touch : Touch) : Database where
  cases := db.cases.update key touch.apply touch.key
  intents := db.intents
  threads := by
    have hthreads : (db.cases.update key touch.apply touch.key).rows.map CaseRow.thread =
        db.cases.rows.map CaseRow.thread := by
      unfold KeyedTable.update
      rw [List.map_map]
      refine List.map_congr_left fun row _ => ?_
      rw [Function.comp_apply, apply_ite CaseRow.thread, touch.thread, ite_self]
    rw [hthreads]
    exact db.threads
  foreignKey intent hintent := by
    rw [KeyedTable.find_update]
    split
    · rw [Option.isSome_map]
      exact db.foreignKey intent hintent
    · exact db.foreignKey intent hintent
  laneCheck row hrow := by
    obtain ⟨old, hold, rfl⟩ := List.mem_map.mp hrow
    rw [apply_ite CaseRow.lane, touch.lane, ite_self]
    exact db.laneCheck old hold

def updateIntent (key : String × String) (touch : NodeIntentsRow → NodeIntentsRow)
    (hkey : ∀ row, (touch row).key = row.key)
    (hcase : ∀ row ∈ db.intents.rows, row.key = key → (db.cases.find (touch row).caseKey).isSome) :
    Database where
  cases := db.cases
  intents := db.intents.update key touch hkey
  threads := db.threads
  foreignKey row hrow := by
    obtain ⟨old, hold, rfl⟩ := List.mem_map.mp hrow
    split
    · rename_i hkey
      exact hcase old hold hkey
    · exact db.foreignKey old hold
  laneCheck := db.laneCheck

theorem find_updateIntent {key : String × String} {touch : NodeIntentsRow → NodeIntentsRow}
    (hkey : ∀ row, (touch row).key = row.key)
    (hcase : ∀ row ∈ db.intents.rows, row.key = key → (db.cases.find (touch row).caseKey).isSome)
    (key' : String × String) : (db.updateIntent key touch hkey hcase).intents.find key' =
      if key' = key then (db.intents.find key').map touch else db.intents.find key' :=
  KeyedTable.find_update db.intents key touch hkey key'

end Database

/-- `DO UPDATE SET`: the columns that a row takes over from the one that was to be inserted. The
output columns are not among them. -/
def NodeIntentsRow.overwrite (row old : NodeIntentsRow) : NodeIntentsRow :=
  { old with
    caseId := row.caseId
    nodeId := row.nodeId
    inputDigest := row.inputDigest
    status := row.status
    updatedAt := row.updatedAt }

def NodeIntentsRow.completed (outputRef : FanIn.ArtifactRef) (now : Int) (row : NodeIntentsRow) :
    NodeIntentsRow :=
  { row with
    status := .completed
    outputArtifactType := some outputRef.artifactType
    outputSchemaVersion := some outputRef.schemaVersion
    outputArtifactId := some outputRef.artifactId
    outputDigest := some outputRef.contentDigest
    outputUri := some outputRef.uri
    updatedAt := now }

def NodeIntentsRow.unknown (now : Int) (row : NodeIntentsRow) : NodeIntentsRow :=
  { row with status := .unknown, updatedAt := now }

theorem NodeIntentsRow.key_overwrite (row old : NodeIntentsRow) :
    (row.overwrite old).key = old.key := rfl

theorem NodeIntentsRow.key_completed (outputRef : FanIn.ArtifactRef) (now : Int)
    (row : NodeIntentsRow) : (row.completed outputRef now).key = row.key := rfl

theorem NodeIntentsRow.key_unknown (now : Int) (row : NodeIntentsRow) :
    (row.unknown now).key = row.key := rfl

namespace Database
variable (db : Database)

/-- `INSERT ... ON CONFLICT DO UPDATE ... WHERE status <> 'completed'`. The foreign key is checked
for a row that is written, and a completed one is not. -/
def upsertIntent (row : NodeIntentsRow) : Except DatabaseError Database :=
  match hold : db.intents.find row.key with
  | some old =>
    if old.status = .completed then .ok db
    else if hcase : (db.cases.find row.caseKey).isSome then
      .ok (db.updateIntent row.key row.overwrite row.key_overwrite fun old _ hkey => by
        have htenant : old.tenantId = row.tenantId := congrArg Prod.fst hkey
        rw [show (row.overwrite old).caseKey = row.caseKey from Prod.ext htenant rfl]
        exact hcase)
    else .error .foreignKeyViolation
  | none =>
    if hcase : (db.cases.find row.caseKey).isSome then .ok
      { db with
        intents := db.intents.insert row hold
        foreignKey := fun intent hintent => by
          rcases List.mem_append.mp hintent with hintent | hnew
          · exact db.foreignKey intent hintent
          · exact List.mem_singleton.mp hnew ▸ hcase }
    else .error .foreignKeyViolation

def completeIntent (key : String × String) (outputRef : FanIn.ArtifactRef) (now : Int) : Database :=
  db.updateIntent key (NodeIntentsRow.completed outputRef now)
    (NodeIntentsRow.key_completed outputRef now) fun row hrow _ => db.foreignKey row hrow

def markIntentUnknown (key : String × String) (now : Int) : Database :=
  db.updateIntent key (NodeIntentsRow.unknown now) (NodeIntentsRow.key_unknown now)
    fun row hrow _ => db.foreignKey row hrow

end Database

/-! ### The ledgers -/

structure IntentRecord where
  tenantId : String
  idempotencyKey : String
  nodeId : String
  caseId : String
  status : IntentStatus
  inputDigest : String
  outputRef : Option FanIn.ArtifactRef := none
  updatedAt : Int
  deriving DecidableEq

def IntentRecord.key (intent : IntentRecord) : String × String :=
  (intent.tenantId, intent.idempotencyKey)

/-- `none` when any of the five columns is NULL. -/
def artifactRefFromRow (row : NodeIntentsRow) : Option FanIn.ArtifactRef := do
  let artifactType ← row.outputArtifactType
  let schemaVersion ← row.outputSchemaVersion
  let artifactId ← row.outputArtifactId
  let contentDigest ← row.outputDigest
  let uri ← row.outputUri
  some { artifactType, schemaVersion, artifactId, contentDigest, uri }

def intentRecordFromRow (row : NodeIntentsRow) : IntentRecord where
  tenantId := row.tenantId
  idempotencyKey := row.idempotencyKey
  nodeId := row.nodeId
  caseId := row.caseId
  status := row.status
  inputDigest := row.inputDigest
  outputRef := artifactRefFromRow row
  updatedAt := row.updatedAt

/-- The row of `VALUES`. -/
def rowOfIntent (intent : IntentRecord) : NodeIntentsRow where
  tenantId := intent.tenantId
  idempotencyKey := intent.idempotencyKey
  caseId := intent.caseId
  nodeId := intent.nodeId
  inputDigest := intent.inputDigest
  status := intent.status
  updatedAt := intent.updatedAt

/-- The methods of `IntentLedger`. -/
inductive LedgerCall where
  | prepare (intent : IntentRecord)
  | get (tenantId idempotencyKey : String)
  | complete (tenantId idempotencyKey : String) (outputRef : FanIn.ArtifactRef)
  | markUnknown (tenantId idempotencyKey : String)

inductive LedgerFailure where
  | keyError (tenantId idempotencyKey : String)
  | notPersisted
  | noPreparedIntent (tenantId idempotencyKey : String)
  | noPendingIntent (tenantId idempotencyKey : String)
  | database (error : DatabaseError)
  deriving DecidableEq, Repr

/-- Only `get` may answer that there is no record. -/
abbrev LedgerAnswer := Except LedgerFailure (Option IntentRecord)

abbrev MemoryLedger := AList fun _ : String × String => IntentRecord

def memoryLedger : Server LedgerCall LedgerAnswer MemoryLedger
  | .prepare intent, records =>
    match records.lookup intent.key with
    | some existing =>
      if existing.status = .completed then (.ok (some existing), records)
      else (.ok (some intent), records.insert intent.key intent)
    | none => (.ok (some intent), records.insert intent.key intent)
  | .get tenantId idempotencyKey, records =>
    (.ok (records.lookup (tenantId, idempotencyKey)), records)
  | .complete tenantId idempotencyKey outputRef, records =>
    match records.lookup (tenantId, idempotencyKey) with
    | some record =>
      let updated := { record with status := .completed, outputRef := some outputRef }
      (.ok (some updated), records.insert (tenantId, idempotencyKey) updated)
    | none => (.error (.keyError tenantId idempotencyKey), records)
  | .markUnknown tenantId idempotencyKey, records =>
    match records.lookup (tenantId, idempotencyKey) with
    | some record =>
      let updated := { record with status := .unknown }
      (.ok (some updated), records.insert (tenantId, idempotencyKey) updated)
    | none => (.error (.keyError tenantId idempotencyKey), records)

/-- The database with the number of transactions so far, by which its clock goes. -/
structure Postgres where
  database : Database
  transactions : Nat := 0

def Database.fetchIntent (db : Database) (tenantId idempotencyKey : String) :
    Option IntentRecord :=
  (db.intents.find (tenantId, idempotencyKey)).map intentRecordFromRow

/-- One method of `PostgresIntentLedger` at the time `now`. -/
def ledgerTransaction (now : Int) : Server LedgerCall LedgerAnswer Database
  | .prepare intent, db =>
    match db.upsertIntent (rowOfIntent intent) with
    | .error e => (.error (.database e), db)
    | .ok db' =>
      match db'.fetchIntent intent.tenantId intent.idempotencyKey with
      | some record => (.ok (some record), db')
      | none => (.error .notPersisted, db)
  | .get tenantId idempotencyKey, db => (.ok (db.fetchIntent tenantId idempotencyKey), db)
  | .complete tenantId idempotencyKey outputRef, db =>
    match db.intents.find (tenantId, idempotencyKey) with
    | some row => (.ok (some (intentRecordFromRow (row.completed outputRef now))),
        db.completeIntent (tenantId, idempotencyKey) outputRef now)
    | none => (.error (.noPreparedIntent tenantId idempotencyKey), db)
  | .markUnknown tenantId idempotencyKey, db =>
    match db.intents.find (tenantId, idempotencyKey) with
    | some row =>
      if row.status = .pending then
        (.ok (some (intentRecordFromRow (row.unknown now))),
          db.markIntentUnknown (tenantId, idempotencyKey) now)
      else (.error (.noPendingIntent tenantId idempotencyKey), db)
    | none => (.error (.noPendingIntent tenantId idempotencyKey), db)

def postgresLedger (clock : Nat → Int) : Server LedgerCall LedgerAnswer Postgres :=
  fun call postgres =>
    let answer := ledgerTransaction (clock postgres.transactions) call postgres.database
    (answer.1, ⟨answer.2, postgres.transactions + 1⟩)

end ProductionOptimizer.ControlPlane
