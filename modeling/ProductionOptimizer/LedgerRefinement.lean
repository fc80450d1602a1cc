import ProductionOptimizer.ControlPlane

/-!
# The ledger of a process and the ledger of the database

`build_control_plane` runs a case on the ledger in memory when no database answers. The two give
the same answers, up to the time of a record, exactly as long as a call is permitted: the database
has the case of an intent and marks no intent unknown but a pending one. A runtime that executes
one node after the other makes no other calls.
-/

namespace ProductionOptimizer.ControlPlane
open Interaction
set_option autoImplicit false

/-! ### What a transaction leaves -/

/-- The row is written, or a completed one stays in its place. -/
def Writable (db : Database) (row : NodeIntentsRow) : Prop :=
  (∃ old, db.intents.find row.key = some old ∧ old.status = .completed) ∨
    (db.cases.find row.caseKey).isSome

def upserted (row : NodeIntentsRow) : Option NodeIntentsRow → NodeIntentsRow
  | none => row
  | some old => if old.status = .completed then old else row.overwrite old

theorem upsertIntent_of_writable {db : Database} {row : NodeIntentsRow} (h : Writable db row) :
    ∃ db', db.upsertIntent row = .ok db' ∧ db'.cases = db.cases ∧
      ∀ key, db'.intents.find key = if key = row.key then
        some (upserted row (db.intents.find row.key)) else db.intents.find key := by
  unfold Database.upsertIntent
  split
  · rename_i old hold
    by_cases hcompleted : old.status = .completed
    · rw [if_pos hcompleted]
      refine ⟨db, rfl, rfl, fun key => ?_⟩
      split
      · rename_i hkey
        rw [hkey, hold, upserted, if_pos hcompleted]
      · rfl
    · have hcase : (db.cases.find row.caseKey).isSome := by
        rcases h with ⟨found, hfound, hstatus⟩ | hcase
        · rw [hold] at hfound
          cases hfound
          exact absurd hstatus hcompleted
        · exact hcase
      rw [if_neg hcompleted, dif_pos hcase]
      refine ⟨_, rfl, rfl, fun key => ?_⟩
      rw [Database.find_updateIntent]
      split
      · rename_i hkey
        rw [hkey, hold, Option.map_some, upserted, if_neg hcompleted]
      · rfl
  · rename_i hold
    have hcase : (db.cases.find row.caseKey).isSome := by
      rcases h with ⟨found, hfound, _⟩ | hcase
      · rw [hold] at hfound
        cases hfound
      · exact hcase
    rw [dif_pos hcase]
    refine ⟨_, rfl, rfl, fun key => ?_⟩
    rw [KeyedTable.find_insert, hold]
    simp only [upserted, eq_comm]

theorem upsertIntent_of_not_writable {db : Database} {row : NodeIntentsRow}
    (h : ¬Writable db row) : db.upsertIntent row = .error .foreignKeyViolation := by
  unfold Database.upsertIntent
  split
  · rename_i old hold
    rw [if_neg fun hcompleted => h (Or.inl ⟨old, hold, hcompleted⟩),
      dif_neg fun hcase => h (Or.inr hcase)]
  · rw [dif_neg fun hcase => h (Or.inr hcase)]

theorem find_completeIntent (db : Database) (key : String × String) (outputRef : FanIn.ArtifactRef)
    (now : Int) (key' : String × String) :
    (db.completeIntent key outputRef now).intents.find key' =
      if key' = key then (db.intents.find key').map (NodeIntentsRow.completed outputRef now)
      else db.intents.find key' :=
  db.find_updateIntent (NodeIntentsRow.key_completed outputRef now) _ key'

theorem find_markIntentUnknown (db : Database) (key : String × String) (now : Int)
    (key' : String × String) : (db.markIntentUnknown key now).intents.find key' =
      if key' = key then (db.intents.find key').map (NodeIntentsRow.unknown now)
      else db.intents.find key' :=
  db.find_updateIntent (NodeIntentsRow.key_unknown now) _ key'

/-- No method of the ledger touches a case. -/
theorem cases_ledgerTransaction (now : Int) (call : LedgerCall) (db : Database) :
    (ledgerTransaction now call db).2.cases = db.cases := by
  cases call with
  | prepare intent =>
    by_cases hwritable : Writable db (rowOfIntent intent)
    · obtain ⟨db', hok, hcases, _⟩ := upsertIntent_of_writable hwritable
      simp only [ledgerTransaction, hok]
      split
      · exact hcases
      · rfl
    · simp only [ledgerTransaction, upsertIntent_of_not_writable hwritable]
  | get tenantId idempotencyKey => rfl
  | complete tenantId idempotencyKey outputRef =>
    simp only [ledgerTransaction]
    split <;> rfl
  | markUnknown tenantId idempotencyKey =>
    simp only [ledgerTransaction]
    split
    · split <;> rfl
    · rfl

/-! ### The relation -/

def IntentRecord.untimed (record : IntentRecord) : IntentRecord := { record with updatedAt := 0 }

/-- Both raise, or both answer one record but for its time. -/
def SameAnswer : LedgerAnswer → LedgerAnswer → Prop
  | .ok record, .ok record' => record.map (·.untimed) = record'.map (·.untimed)
  | .error _, .error _ => True
  | _, _ => False

structure Represents (records : MemoryLedger) (db : Database) : Prop where
  lookup : ∀ key, (records.lookup key).map (·.untimed) =
    (db.intents.find key).map fun row => (intentRecordFromRow row).untimed
  outputs : ∀ key row, db.intents.find key = some row → row.status ≠ .completed →
    artifactRefFromRow row = none

/-- What the database requires of a call. -/
def Permits (db : Database) : LedgerCall → Prop
  | .prepare intent =>
    (∃ old, db.intents.find intent.key = some old ∧ old.status = .completed) ∨
      (db.cases.find (intent.tenantId, intent.caseId)).isSome ∧ intent.outputRef = none
  | .get _ _ => True
  | .complete _ _ _ => True
  | .markUnknown tenantId idempotencyKey =>
    ∀ row, db.intents.find (tenantId, idempotencyKey) = some row → row.status = .pending

namespace Represents
variable {records : MemoryLedger} {db db' : Database} {key : String × String}

theorem cases (h : Represents records db) (key : String × String) :
    (records.lookup key = none ∧ db.intents.find key = none) ∨
      ∃ record row, records.lookup key = some record ∧ db.intents.find key = some row ∧
        record.untimed = (intentRecordFromRow row).untimed := by
  have hlookup := h.lookup key
  cases hrecord : records.lookup key with
  | none =>
    rw [hrecord, Option.map_none, eq_comm, Option.map_eq_none_iff] at hlookup
    exact Or.inl ⟨rfl, hlookup⟩
  | some record =>
    rw [hrecord, Option.map_some, eq_comm, Option.map_eq_some_iff] at hlookup
    obtain ⟨row, hrow, hsame⟩ := hlookup
    exact Or.inr ⟨record, row, rfl, hrow, hsame.symm⟩

theorem insert (h : Represents records db) {record : IntentRecord} {row : NodeIntentsRow}
    (hfind : ∀ key', db'.intents.find key' = if key' = key then some row else db.intents.find key')
    (hsame : record.untimed = (intentRecordFromRow row).untimed)
    (houtput : row.status ≠ .completed → artifactRefFromRow row = none) :
    Represents (records.insert key record) db' where
  lookup key' := by
    rw [hfind]
    by_cases hkey : key' = key
    · rw [if_pos hkey, hkey, AList.lookup_insert, Option.map_some, Option.map_some, hsame]
    · rw [if_neg hkey, AList.lookup_insert_ne hkey]
      exact h.lookup key'
  outputs key' found hfound hstatus := by
    rw [hfind] at hfound
    split at hfound
    · cases hfound
      exact houtput hstatus
    · exact h.outputs key' found hfound hstatus

end Represents

theorem status_of_untimed {record : IntentRecord} {row : NodeIntentsRow}
    (h : record.untimed = (intentRecordFromRow row).untimed) : record.status = row.status :=
  congrArg (fun r : IntentRecord => r.status) h

/-- The record that the database makes of an intent has no output. -/
theorem record_upserted (intent : IntentRecord) (old : Option NodeIntentsRow)
    (hkey : ∀ row ∈ old, row.key = intent.key)
    (hopen : ∀ row ∈ old, row.status ≠ .completed ∧ artifactRefFromRow row = none) :
    (intentRecordFromRow (upserted (rowOfIntent intent) old)).untimed =
        { intent with outputRef := none }.untimed ∧
      artifactRefFromRow (upserted (rowOfIntent intent) old) = none := by
  cases old with
  | none => exact ⟨rfl, rfl⟩
  | some row =>
    obtain ⟨hstatus, houtput⟩ := hopen row rfl
    have hkey := hkey row rfl
    have htenant : row.tenantId = intent.tenantId := congrArg Prod.fst hkey
    have hid : row.idempotencyKey = intent.idempotencyKey := congrArg Prod.snd hkey
    have hrow : upserted (rowOfIntent intent) (some row) = (rowOfIntent intent).overwrite row :=
      if_neg hstatus
    have hsame : artifactRefFromRow ((rowOfIntent intent).overwrite row) = none := houtput
    rw [hrow]
    refine ⟨?_, hsame⟩
    simp only [intentRecordFromRow, hsame]
    simp only [NodeIntentsRow.overwrite, rowOfIntent, IntentRecord.untimed, htenant, hid]

/-- A call on an intent that is not completed. -/
theorem prepare_open {records : MemoryLedger} {db : Database} (h : Represents records db)
    {intent : IntentRecord} (now : Int)
    (hopen : ∀ old, db.intents.find intent.key = some old → old.status ≠ .completed) :
    memoryLedger (.prepare intent) records =
        (.ok (some intent), records.insert intent.key intent) ∧
      (((db.cases.find (intent.tenantId, intent.caseId)).isSome ∧ ∃ db' row,
          ledgerTransaction now (.prepare intent) db =
            (.ok (some (intentRecordFromRow row)), db') ∧
          (∀ key, db'.intents.find key =
            if key = intent.key then some row else db.intents.find key) ∧
          row.status = intent.status ∧ artifactRefFromRow row = none ∧
          (intentRecordFromRow row).untimed = { intent with outputRef := none }.untimed) ∨
        ¬(db.cases.find (intent.tenantId, intent.caseId)).isSome ∧
          ledgerTransaction now (.prepare intent) db =
            (.error (.database .foreignKeyViolation), db)) := by
  constructor
  · rcases h.cases intent.key with ⟨hrecord, _⟩ | ⟨record, row, hrecord, hrow, hsame⟩
    · simp only [memoryLedger, hrecord]
    · have hstatus : ¬record.status = .completed := status_of_untimed hsame ▸ hopen row hrow
      simp only [memoryLedger, hrecord, if_neg hstatus]
  · have hkey : (rowOfIntent intent).key = intent.key := rfl
    have hcaseKey : (rowOfIntent intent).caseKey = (intent.tenantId, intent.caseId) := rfl
    by_cases hcase : (db.cases.find (intent.tenantId, intent.caseId)).isSome
    · have hwritable : Writable db (rowOfIntent intent) := Or.inr (hcaseKey ▸ hcase)
      obtain ⟨db', hok, _, hfind⟩ := upsertIntent_of_writable hwritable
      rw [hkey] at hfind
      obtain ⟨hrecord, houtput⟩ := record_upserted intent (db.intents.find intent.key)
        (fun row hrow => KeyedTable.key_of_find hrow)
        fun row hrow => ⟨hopen row hrow, h.outputs _ row hrow (hopen row hrow)⟩
      have hfetch : db'.fetchIntent intent.tenantId intent.idempotencyKey =
          some (intentRecordFromRow
            (upserted (rowOfIntent intent) (db.intents.find intent.key))) := by
        unfold Database.fetchIntent
        rw [hfind, if_pos (show (intent.tenantId, intent.idempotencyKey) = intent.key from rfl)]
        rfl
      refine Or.inl ⟨hcase, db', _, ?_, hfind, ?_, houtput, hrecord⟩
      · simp only [ledgerTransaction, hok, hfetch]
      · exact congrArg (fun r : IntentRecord => r.status) hrecord
    · have hnot : ¬Writable db (rowOfIntent intent) := by
        rintro (⟨old, hold, hcompleted⟩ | hsome)
        · exact hopen old hold hcompleted
        · exact hcase hsome
      refine Or.inr ⟨hcase, ?_⟩
      simp only [ledgerTransaction, upsertIntent_of_not_writable hnot]

section Calls
variable {records : MemoryLedger} {db : Database} (h : Represents records db) (now : Int)
include h

theorem alike_prepare (intent : IntentRecord) :
    (SameAnswer (memoryLedger (.prepare intent) records).1
        (ledgerTransaction now (.prepare intent) db).1 ↔ Permits db (.prepare intent)) ∧
      (Permits db (.prepare intent) → Represents (memoryLedger (.prepare intent) records).2
        (ledgerTransaction now (.prepare intent) db).2) := by
  by_cases hcompleted : ∃ old, db.intents.find intent.key = some old ∧ old.status = .completed
  · -- a completed intent is answered and stays as it is
    obtain ⟨row, hrow, hstatus⟩ := hcompleted
    have hpermits : Permits db (.prepare intent) := Or.inl ⟨row, hrow, hstatus⟩
    rcases h.cases intent.key with ⟨_, hnone⟩ | ⟨record, row', hrecord, hrow', hsame⟩
    · rw [hrow] at hnone
      cases hnone
    · rw [hrow] at hrow'
      cases hrow'
      have hmemory : memoryLedger (.prepare intent) records = (.ok (some record), records) := by
        simp only [memoryLedger, hrecord, if_pos ((status_of_untimed hsame).trans hstatus)]
      have hupsert : db.upsertIntent (rowOfIntent intent) = .ok db := by
        unfold Database.upsertIntent
        split
        · rename_i old hold
          cases hold.symm.trans hrow
          rw [if_pos hstatus]
        · rename_i hnone
          cases hnone.symm.trans hrow
      have hfetch : db.fetchIntent intent.tenantId intent.idempotencyKey =
          some (intentRecordFromRow row) := congrArg (Option.map intentRecordFromRow) hrow
      have hdatabase : ledgerTransaction now (.prepare intent) db =
          (.ok (some (intentRecordFromRow row)), db) := by
        simp only [ledgerTransaction, hupsert, hfetch]
      rw [hmemory, hdatabase]
      exact ⟨iff_of_true (congrArg some hsame) hpermits, fun _ => h⟩
  · have hopen : ∀ old, db.intents.find intent.key = some old → old.status ≠ .completed :=
      fun old hold hstatus => hcompleted ⟨old, hold, hstatus⟩
    obtain ⟨hmemory, hdatabase⟩ := prepare_open h now hopen
    rw [hmemory]
    rcases hdatabase with ⟨hcase, db', row, hok, hfind, -, houtput, hrecord⟩ | ⟨hcase, herror⟩
    · rw [hok]
      have hiff : intent.untimed = (intentRecordFromRow row).untimed ↔ intent.outputRef = none := by
        rw [hrecord]
        constructor
        · exact congrArg fun r : IntentRecord => r.outputRef
        · intro hnone
          rw [IntentRecord.untimed, IntentRecord.untimed, hnone]
      constructor
      · rw [show SameAnswer (.ok (some intent)) (.ok (some (intentRecordFromRow row))) ↔
          intent.untimed = (intentRecordFromRow row).untimed from Option.some_inj, hiff]
        exact ⟨fun hnone => Or.inr ⟨hcase, hnone⟩,
          fun hpermits => (hpermits.resolve_left hcompleted).2⟩
      · intro hpermits
        exact h.insert hfind (hiff.mpr (hpermits.resolve_left hcompleted).2) fun _ => houtput
    · rw [herror]
      have hforbidden : ¬Permits db (.prepare intent) := by
        rintro (hold | ⟨hsome, _⟩)
        · exact hcompleted hold
        · exact hcase hsome
      exact ⟨iff_of_false id hforbidden, fun hpermits => absurd hpermits hforbidden⟩

theorem alike_complete (tenantId idempotencyKey : String) (outputRef : FanIn.ArtifactRef) :
    SameAnswer (memoryLedger (.complete tenantId idempotencyKey outputRef) records).1
        (ledgerTransaction now (.complete tenantId idempotencyKey outputRef) db).1 ∧
      Represents (memoryLedger (.complete tenantId idempotencyKey outputRef) records).2
        (ledgerTransaction now (.complete tenantId idempotencyKey outputRef) db).2 := by
  rcases h.cases (tenantId, idempotencyKey) with
    ⟨hrecord, hrow⟩ | ⟨record, row, hrecord, hrow, hsame⟩
  · simp only [memoryLedger, ledgerTransaction, hrecord, hrow]
    exact ⟨trivial, h⟩
  · simp only [memoryLedger, ledgerTransaction, hrecord, hrow]
    have hupdated : ({ record with
          status := .completed, outputRef := some outputRef } : IntentRecord).untimed =
        (intentRecordFromRow (row.completed outputRef now)).untimed :=
      congrArg (fun r : IntentRecord =>
        { r with status := .completed, outputRef := some outputRef }) hsame
    refine ⟨congrArg some hupdated, h.insert (fun key' => ?_) hupdated fun hstatus => ?_⟩
    · rw [find_completeIntent]
      split
      · rename_i hkey
        rw [hkey, hrow, Option.map_some]
      · rfl
    · exact absurd rfl hstatus

theorem alike_markUnknown (tenantId idempotencyKey : String) :
    (SameAnswer (memoryLedger (.markUnknown tenantId idempotencyKey) records).1
        (ledgerTransaction now (.markUnknown tenantId idempotencyKey) db).1 ↔
      Permits db (.markUnknown tenantId idempotencyKey)) ∧
    (Permits db (.markUnknown tenantId idempotencyKey) →
      Represents (memoryLedger (.markUnknown tenantId idempotencyKey) records).2
        (ledgerTransaction now (.markUnknown tenantId idempotencyKey) db).2) := by
  rcases h.cases (tenantId, idempotencyKey) with
    ⟨hrecord, hrow⟩ | ⟨record, row, hrecord, hrow, hsame⟩
  · simp only [memoryLedger, ledgerTransaction, hrecord, hrow]
    refine ⟨iff_of_true trivial fun found hfound => ?_, fun _ => h⟩
    rw [hrow] at hfound
    cases hfound
  · by_cases hpending : row.status = .pending
    · have hpermits : Permits db (.markUnknown tenantId idempotencyKey) := by
        intro found hfound
        rw [hrow] at hfound
        cases hfound
        exact hpending
      have houtput := h.outputs _ row hrow (by rw [hpending]; decide)
      have hupdated : ({ record with status := .unknown } : IntentRecord).untimed =
          (intentRecordFromRow (row.unknown now)).untimed :=
        congrArg (fun r : IntentRecord => { r with status := .unknown }) hsame
      simp only [memoryLedger, ledgerTransaction, hrecord, hrow, if_pos hpending]
      refine ⟨iff_of_true (congrArg some hupdated) hpermits,
        fun _ => h.insert (fun key' => ?_) hupdated fun _ => houtput⟩
      rw [find_markIntentUnknown]
      split
      · rename_i hkey
        rw [hkey, hrow, Option.map_some]
      · rfl
    · have hforbidden : ¬Permits db (.markUnknown tenantId idempotencyKey) :=
        fun hpermits => hpending (hpermits row hrow)
      simp only [memoryLedger, ledgerTransaction, hrecord, hrow, if_neg hpending]
      exact ⟨iff_of_false id hforbidden, fun hpermits => absurd hpermits hforbidden⟩

end Calls

/-- One call: the answers are the same exactly when the database permits it. -/
theorem ledgers_alike (clock : Nat → Int) :
    Alike memoryLedger (postgresLedger clock)
      (fun records postgres => Represents records postgres.database) SameAnswer
      fun call postgres => Permits postgres.database call where
  same_iff {call records postgres} h := by
    cases call with
    | prepare intent => exact (alike_prepare h _ intent).1
    | get tenantId idempotencyKey =>
      refine iff_of_true ?_ trivial
      have hlookup := h.lookup (tenantId, idempotencyKey)
      change (records.lookup (tenantId, idempotencyKey)).map (·.untimed) =
        ((postgres.database.intents.find (tenantId, idempotencyKey)).map intentRecordFromRow).map
          (·.untimed)
      rw [hlookup, Option.map_map]
      rfl
    | complete tenantId idempotencyKey outputRef =>
      exact iff_of_true (alike_complete h _ tenantId idempotencyKey outputRef).1 trivial
    | markUnknown tenantId idempotencyKey =>
      exact (alike_markUnknown h _ tenantId idempotencyKey).1
  keeps {call records postgres} h hpermits := by
    cases call with
    | prepare intent => exact (alike_prepare h _ intent).2 hpermits
    | get tenantId idempotencyKey => exact h
    | complete tenantId idempotencyKey outputRef =>
      exact (alike_complete h _ tenantId idempotencyKey outputRef).2
    | markUnknown tenantId idempotencyKey =>
      exact (alike_markUnknown h _ tenantId idempotencyKey).2 hpermits

/-- No sequence of calls tells the ledger in memory from the one in the database exactly when the
database permits every call of it: the case of an intent exists, no intent comes with an output,
and only pending intents are marked unknown. -/
theorem ledgers_agree_iff (clock : Nat → Int) (calls : List LedgerCall) {records : MemoryLedger}
    {postgres : Postgres} (h : Represents records postgres.database) :
    List.Forall₂ SameAnswer (answers memoryLedger calls records)
        (answers (postgresLedger clock) calls postgres) ↔
      Permitted (postgresLedger clock) (fun call postgres => Permits postgres.database call) calls
        postgres :=
  (ledgers_alike clock).answers_iff calls h

def sampleCase : CaseRow where
  tenantId := "acme"
  caseId := "checkout-1"
  threadId := "thread-1"
  lane := "manual"
  status := "running"
  currentNode := none
  createdAt := 0
  updatedAt := 0

theorem sampleCase_lane {row : CaseRow} (h : row ∈ [sampleCase]) : row.lane ∈ lanes := by
  rw [List.mem_singleton.mp h]
  exact List.mem_cons_self

/-- A database with one case and no intent yet. -/
def sampleDatabase : Database where
  cases := ⟨[sampleCase], List.nodup_singleton _⟩
  intents := .empty
  threads := List.nodup_singleton _
  foreignKey := fun _ h => absurd h List.not_mem_nil
  laneCheck := fun _ h => sampleCase_lane h

theorem represents_empty {db : Database} (h : ∀ key, db.intents.find key = none) :
    Represents ∅ db where
  lookup key := by rw [AList.lookup_empty, h key, Option.map_none, Option.map_none]
  outputs key row hrow := by
    rw [h key] at hrow
    cases hrow

def sampleIntent : IntentRecord where
  tenantId := "acme"
  idempotencyKey := "checkout-1:S04.40:v1"
  nodeId := "S04.40"
  caseId := "checkout-1"
  status := .pending
  inputDigest := "sha256:0000000000000000000000000000000000000000000000000000000000000000"
  updatedAt := 0

def sampleRef : FanIn.ArtifactRef where
  artifactType := "NodeExecution"
  schemaVersion := "1.0"
  artifactId := "checkout-1-S04.40"
  contentDigest := "sha256:0000000000000000000000000000000000000000000000000000000000000000"
  uri := "s3://artifacts/checkout-1"

/-- A completed intent that is marked unknown tells the ledgers apart. -/
theorem completed_not_unknown : ¬List.Forall₂ SameAnswer
    (answers memoryLedger [.prepare sampleIntent, .complete "acme" "checkout-1:S04.40:v1" sampleRef,
      .markUnknown "acme" "checkout-1:S04.40:v1"] ∅)
    (answers (postgresLedger fun n => n) [.prepare sampleIntent,
      .complete "acme" "checkout-1:S04.40:v1" sampleRef,
      .markUnknown "acme" "checkout-1:S04.40:v1"] ⟨sampleDatabase, 0⟩) := by
  rw [ledgers_agree_iff _ _ (represents_empty fun _ => rfl)]
  rintro ⟨-, -, hunknown, -⟩
  have hrow := hunknown (((rowOfIntent sampleIntent).completed sampleRef 1)) rfl
  cases hrow

end ProductionOptimizer.ControlPlane
