import ProductionOptimizer.LedgerRefinement

/-!
# The row of one key

The table seen through one `(tenant_id, idempotency_key)`: every call of the ledger does to its row
what the statement of `IntentRow` says, or is about another key.
-/

namespace ProductionOptimizer.ControlPlane
open Interaction
set_option autoImplicit false

def NodeIntentsRow.view (row : NodeIntentsRow) : IntentRow FanIn.ArtifactRef :=
  ⟨row.status, artifactRefFromRow row⟩

def Database.rowOf (db : Database) (key : String × String) : Option (IntentRow FanIn.ArtifactRef) :=
  (db.intents.find key).map NodeIntentsRow.view

/-- What a call does to the row of a key. -/
def LedgerCall.onRow (key : String × String) :
    LedgerCall → Option (IntentRow FanIn.ArtifactRef) → Option (IntentRow FanIn.ArtifactRef)
  | .prepare intent, row => if key = intent.key then some (IntentRow.prepare row) else row
  | .get _ _, row => row
  | .complete tenantId idempotencyKey outputRef, row =>
    if key = (tenantId, idempotencyKey) then IntentRow.complete outputRef row else row
  | .markUnknown tenantId idempotencyKey, row =>
    if key = (tenantId, idempotencyKey) then (IntentRow.markUnknown row).or row else row

/-- The intents that `NodeRuntime` prepares, of cases that the database has. -/
def Prepares (cases : KeyedTable CaseRow.key) : LedgerCall → Prop
  | .prepare intent =>
    intent.status = .pending ∧ (cases.find (intent.tenantId, intent.caseId)).isSome
  | _ => True

theorem view_upserted {intent : IntentRecord} (h : intent.status = .pending)
    (old : Option NodeIntentsRow) :
    (upserted (rowOfIntent intent) old).view = IntentRow.prepare (old.map NodeIntentsRow.view) := by
  cases old with
  | none => exact congrArg (IntentRow.mk · none) h
  | some row =>
    by_cases hcompleted : row.status = .completed
    · rw [upserted, if_pos hcompleted, Option.map_some]
      exact (IntentRow.prepare_of_completed hcompleted).symm
    · have hview : ¬row.view.status = .completed := hcompleted
      rw [upserted, if_neg hcompleted, Option.map_some, IntentRow.prepare, if_neg hview]
      exact congrArg (IntentRow.mk · (artifactRefFromRow row)) h

theorem rowOf_prepare {db : Database} {intent : IntentRecord} (now : Int)
    (h : Prepares db.cases (.prepare intent)) (key : String × String) :
    (ledgerTransaction now (.prepare intent) db).2.rowOf key =
      (LedgerCall.prepare intent).onRow key (db.rowOf key) := by
  have hwritable : Writable db (rowOfIntent intent) := Or.inr h.2
  obtain ⟨db', hok, _, hfind⟩ := upsertIntent_of_writable hwritable
  change ∀ key, db'.intents.find key = if key = intent.key then
    some (upserted (rowOfIntent intent) (db.intents.find intent.key)) else db.intents.find key
    at hfind
  have hfetch : (db'.fetchIntent intent.tenantId intent.idempotencyKey).isSome := by
    unfold Database.fetchIntent
    rw [hfind, if_pos (show (intent.tenantId, intent.idempotencyKey) = intent.key from rfl)]
    rfl
  obtain ⟨record, hrecord⟩ := Option.isSome_iff_exists.mp hfetch
  simp only [ledgerTransaction, hok, hrecord, Database.rowOf, hfind, LedgerCall.onRow]
  by_cases hkey : key = intent.key
  · rw [if_pos hkey, if_pos hkey, hkey, Option.map_some, view_upserted h.1]
  · rw [if_neg hkey, if_neg hkey]

theorem rowOf_complete (db : Database) (now : Int) (tenantId idempotencyKey : String)
    (outputRef : FanIn.ArtifactRef) (key : String × String) :
    (ledgerTransaction now (.complete tenantId idempotencyKey outputRef) db).2.rowOf key =
      (LedgerCall.complete tenantId idempotencyKey outputRef).onRow key (db.rowOf key) := by
  cases hrow : db.intents.find (tenantId, idempotencyKey) with
  | none =>
    simp only [ledgerTransaction, hrow, LedgerCall.onRow]
    by_cases hkey : key = (tenantId, idempotencyKey)
    · rw [if_pos hkey, Database.rowOf, hkey, hrow]
      rfl
    · rw [if_neg hkey]
  | some row =>
    simp only [ledgerTransaction, hrow, LedgerCall.onRow, Database.rowOf, find_completeIntent]
    by_cases hkey : key = (tenantId, idempotencyKey)
    · rw [if_pos hkey, if_pos hkey, hkey, hrow]
      rfl
    · rw [if_neg hkey, if_neg hkey]

theorem rowOf_markUnknown (db : Database) (now : Int) (tenantId idempotencyKey : String)
    (key : String × String) :
    (ledgerTransaction now (.markUnknown tenantId idempotencyKey) db).2.rowOf key =
      (LedgerCall.markUnknown tenantId idempotencyKey).onRow key (db.rowOf key) := by
  cases hrow : db.intents.find (tenantId, idempotencyKey) with
  | none =>
    simp only [ledgerTransaction, hrow, LedgerCall.onRow]
    by_cases hkey : key = (tenantId, idempotencyKey)
    · rw [if_pos hkey, Database.rowOf, hkey, hrow]
      rfl
    · rw [if_neg hkey]
  | some row =>
    by_cases hpending : row.status = .pending
    · have hview : row.view.status = .pending := hpending
      simp only [ledgerTransaction, hrow, if_pos hpending, LedgerCall.onRow, Database.rowOf,
        find_markIntentUnknown]
      by_cases hkey : key = (tenantId, idempotencyKey)
      · have hmarked : IntentRow.markUnknown (some row.view) =
            some { row.view with status := .unknown } := if_pos hview
        rw [if_pos hkey, if_pos hkey, hkey, hrow, Option.map_some, Option.map_some,
          Option.map_some, hmarked]
        rfl
      · rw [if_neg hkey, if_neg hkey]
    · have hview : ¬row.view.status = .pending := hpending
      simp only [ledgerTransaction, hrow, if_neg hpending, LedgerCall.onRow]
      by_cases hkey : key = (tenantId, idempotencyKey)
      · have hrefused : IntentRow.markUnknown (some row.view) = none := if_neg hview
        rw [if_pos hkey, Database.rowOf, hkey, hrow, Option.map_some, hrefused, Option.none_or]
      · rw [if_neg hkey]

theorem rowOf_ledgerTransaction {db : Database} {call : LedgerCall} (now : Int)
    (h : Prepares db.cases call) (key : String × String) :
    (ledgerTransaction now call db).2.rowOf key = call.onRow key (db.rowOf key) := by
  cases call with
  | prepare intent => exact rowOf_prepare now h key
  | get tenantId idempotencyKey => rfl
  | complete tenantId idempotencyKey outputRef =>
    exact rowOf_complete db now tenantId idempotencyKey outputRef key
  | markUnknown tenantId idempotencyKey =>
    exact rowOf_markUnknown db now tenantId idempotencyKey key

/-- A completed row is not taken back; another completion may give it another output. -/
theorem onRow_of_completed {row : Option (IntentRow FanIn.ArtifactRef)} {ref : FanIn.ArtifactRef}
    (key : String × String) (call : LedgerCall) (h : IntentRow.replayable row = some ref) :
    ∃ ref', IntentRow.replayable (call.onRow key row) = some ref' := by
  have hrow := IntentRow.replayable_eq_some.mp h
  cases call with
  | prepare intent =>
    refine ⟨ref, ?_⟩
    rw [LedgerCall.onRow, hrow, IntentRow.prepare_of_completed rfl, ite_self]
    rfl
  | get tenantId idempotencyKey => exact ⟨ref, h⟩
  | complete tenantId idempotencyKey outputRef =>
    simp only [LedgerCall.onRow]
    split
    · refine ⟨outputRef, ?_⟩
      rw [hrow]
      rfl
    · exact ⟨ref, h⟩
  | markUnknown tenantId idempotencyKey =>
    refine ⟨ref, ?_⟩
    rw [LedgerCall.onRow, hrow]
    exact (congrArg IntentRow.replayable (ite_self _)).trans rfl

/-- After any calls of `PostgresIntentLedger` whose intents are pending and have their cases, the
row of every key is what the statements of `IntentRow` make of it, one after the other and whatever
happens to the other keys. An output that can be replayed before can be replayed after. -/
theorem rows_refine (clock : Nat → Int) (calls : List LedgerCall) {postgres : Postgres}
    (h : ∀ call ∈ calls, Prepares postgres.database.cases call) (key : String × String) :
    (leaves (postgresLedger clock) calls postgres).database.rowOf key =
        calls.foldl (fun row call => call.onRow key row) (postgres.database.rowOf key) ∧
      ((IntentRow.replayable (postgres.database.rowOf key)).isSome →
        (IntentRow.replayable
          ((leaves (postgresLedger clock) calls postgres).database.rowOf key)).isSome) := by
  induction calls generalizing postgres with
  | nil => exact ⟨rfl, id⟩
  | cons call calls ih =>
    obtain ⟨hcall, hcalls⟩ := List.forall_mem_cons.mp h
    have hcases : (postgresLedger clock call postgres).2.database.cases =
        postgres.database.cases :=
      cases_ledgerTransaction (clock postgres.transactions) call postgres.database
    have hrow : (postgresLedger clock call postgres).2.database.rowOf key =
        call.onRow key (postgres.database.rowOf key) :=
      rowOf_ledgerTransaction (clock postgres.transactions) hcall key
    obtain ⟨hrest, hkept⟩ := @ih (postgresLedger clock call postgres).2
      fun later hlater => hcases ▸ hcalls later hlater
    rw [hrow] at hrest hkept
    refine ⟨hrest, fun hsome => hkept ?_⟩
    obtain ⟨ref, href⟩ := Option.isSome_iff_exists.mp hsome
    obtain ⟨ref', href'⟩ := onRow_of_completed key call href
    exact Option.isSome_iff_exists.mpr ⟨ref', href'⟩

/-- The row of an intent that is prepared again after it was completed. -/
theorem prepared_again : (leaves (postgresLedger fun n => n) [.prepare sampleIntent,
    .complete "acme" "checkout-1:S04.40:v1" sampleRef, .prepare sampleIntent]
      ⟨sampleDatabase, 0⟩).database.rowOf sampleIntent.key = some ⟨.completed, some sampleRef⟩ := by
  have hprepares : ∀ call ∈ [.prepare sampleIntent,
      .complete "acme" "checkout-1:S04.40:v1" sampleRef, .prepare sampleIntent],
        Prepares (Postgres.mk sampleDatabase 0).database.cases call := by
    intro call hcall
    simp only [List.mem_cons, List.not_mem_nil, or_false] at hcall
    rcases hcall with rfl | rfl | rfl
    · exact ⟨rfl, rfl⟩
    · trivial
    · exact ⟨rfl, rfl⟩
  exact (rows_refine (fun n => n) _ hprepares sampleIntent.key).1.trans rfl

end ProductionOptimizer.ControlPlane
