import ProductionOptimizer.LedgerRefinement

/-!
# The case repository

`PostgresCaseRepository` beside `PostgresIntentLedger` in one database. A case that exists
outlives every run of the two: its row is the one that was inserted, with the last status that was
set and the time of the first cancellation.
-/

namespace ProductionOptimizer.ControlPlane
open Interaction
set_option autoImplicit false

/-! ### The methods -/

/-- The fields of the state that the repository reads; `none` where one is missing or no text. -/
structure CaseFields where
  caseId : Option String
  threadId : Option String
  tenantId : Option String
  lane : Option String
  status : Option String
  currentNode : Option String

/-- What `get` answers. -/
structure CaseView where
  caseId : String
  threadId : String
  tenantId : String
  lane : String
  status : String
  currentNode : Option String
  deriving DecidableEq

def CaseRow.view (row : CaseRow) : CaseView where
  caseId := row.caseId
  threadId := row.threadId
  tenantId := row.tenantId
  lane := row.lane
  status := row.status
  currentNode := row.currentNode

inductive CaseFailure where
  | missingField (key : String)
  | caseExists (tenantId caseId : String)
  | noCase (tenantId caseId : String)
  | database (error : DatabaseError)
  deriving DecidableEq, Repr

def requireField (key : String) : Option String → Except CaseFailure String
  | some value => if value = "" then .error (.missingField key) else .ok value
  | none => .error (.missingField key)

inductive CaseCall where
  | create (state : CaseFields)
  | get (tenantId caseId : String)
  | setStatus (tenantId caseId status : String)
  | requestCancellation (tenantId caseId actorId : String)

abbrev CaseAnswer := Except CaseFailure (Option CaseView)

/-- The row of `VALUES`, with the defaults of its columns. -/
def caseRow (now : Int) (state : CaseFields) : Except CaseFailure CaseRow := do
  let caseId ← requireField "case_id" state.caseId
  let threadId ← requireField "thread_id" state.threadId
  let tenantId ← requireField "tenant_id" state.tenantId
  let lane ← requireField "lane" state.lane
  let status ← requireField "status" state.status
  .ok { tenantId, caseId, threadId, lane, status, currentNode := state.currentNode
        createdAt := now, updatedAt := now }

/-- One method of `PostgresCaseRepository` at the time `now`. Either of the two unique constraints
is reported as a case that exists. -/
def caseTransaction (now : Int) : Server CaseCall CaseAnswer Database
  | .create state, db =>
    match caseRow now state with
    | .error e => (.error e, db)
    | .ok row =>
      match db.insertCase row with
      | .ok db' => (.ok none, db')
      | .error .uniqueViolation => (.error (.caseExists row.tenantId row.caseId), db)
      | .error e => (.error (.database e), db)
  | .get tenantId caseId, db => (.ok ((db.cases.find (tenantId, caseId)).map CaseRow.view), db)
  | .setStatus tenantId caseId status, db =>
    match db.cases.find (tenantId, caseId) with
    | some _ => (.ok none, db.updateCase (tenantId, caseId) (Database.setStatus status now))
    | none => (.error (.noCase tenantId caseId), db)
  | .requestCancellation tenantId caseId _, db =>
    (.ok none, db.updateCase (tenantId, caseId) (Database.setCancellation now))

/-- A call of either component. -/
inductive ControlCall where
  | repository (call : CaseCall)
  | ledger (call : LedgerCall)

/-- Both components on one database, each call at the time of its transaction. -/
def controlPlane : Server (Int × ControlCall) (CaseAnswer ⊕ LedgerAnswer) Database
  | (now, .repository call), db =>
    let answer := caseTransaction now call db
    (.inl answer.1, answer.2)
  | (now, .ledger call), db =>
    let answer := ledgerTransaction now call db
    (.inr answer.1, answer.2)

/-! ### The row of a case -/

/-- The status that a call sets on a case, with its time. -/
def statusOf (key : String × String) : Int × ControlCall → Option (Int × String)
  | (now, .repository (.setStatus tenantId caseId status)) =>
    if key = (tenantId, caseId) then some (now, status) else none
  | _ => none

/-- The time at which a call asks for the cancellation of a case. -/
def cancellationOf (key : String × String) : Int × ControlCall → Option Int
  | (now, .repository (.requestCancellation tenantId caseId _)) =>
    if key = (tenantId, caseId) then some now else none
  | _ => none

/-- The row with the last of the statuses and the first of the cancellations. -/
def CaseRow.after (row : CaseRow) (statuses : List (Int × String)) (cancellations : List Int) :
    CaseRow :=
  { row with
    status := (statuses.getLast?.map Prod.snd).getD row.status
    updatedAt := (statuses.getLast?.map Prod.fst).getD row.updatedAt
    cancellationRequestedAt := row.cancellationRequestedAt.or cancellations.head? }

theorem CaseRow.after_nil (row : CaseRow) : row.after [] [] = row := by
  simp only [after, List.getLast?_nil, List.head?_nil, Option.map_none, Option.getD_none,
    Option.or_none]

theorem CaseRow.after_append (row : CaseRow) (statuses later : List (Int × String))
    (cancellations further : List Int) :
    (row.after statuses cancellations).after later further =
      row.after (statuses ++ later) (cancellations ++ further) := by
  have hstatus : ∀ {β : Type} (f : Int × String → β) (b : β),
      (later.getLast?.map f).getD ((statuses.getLast?.map f).getD b) =
        ((statuses ++ later).getLast?.map f).getD b := by
    intro β f b
    rw [List.getLast?_append]
    cases later.getLast? with
    | none => rw [Option.map_none, Option.getD_none, Option.none_or]
    | some last => rfl
  have hcancellation : (row.cancellationRequestedAt.or cancellations.head?).or further.head? =
      row.cancellationRequestedAt.or (cancellations ++ further).head? := by
    rw [List.head?_append, Option.or_assoc]
  simp only [after, hstatus, hcancellation]

/-! ### One call -/

theorem find_updateCase (db : Database) (key : String × String) (touch : Database.Touch)
    (key' : String × String) : (db.updateCase key touch).cases.find key' =
      if key' = key then (db.cases.find key').map touch.apply else db.cases.find key' :=
  KeyedTable.find_update db.cases key touch.apply touch.key key'

/-- An insertion leaves the other cases as they are, and is refused where there is one. -/
theorem find_insertCase {db db' : Database} {row old : CaseRow} {key : String × String}
    (h : db.insertCase row = .ok db') (hold : db.cases.find key = some old) :
    db'.cases.find key = some old := by
  unfold Database.insertCase at h
  split at h
  · split at h
    · rename_i hnew
      split at h
      · cases h
      · cases h
        rw [KeyedTable.find_insert, if_neg ?_]
        · exact hold
        · rintro rfl
          rw [hnew] at hold
          cases hold
    · cases h
  · cases h

theorem find_create {db : Database} {key : String × String} {row : CaseRow} (now : Int)
    (state : CaseFields) (h : db.cases.find key = some row) :
    (caseTransaction now (.create state) db).2.cases.find key = some row := by
  cases hrow : caseRow now state with
  | error e =>
    simp only [caseTransaction, hrow]
    exact h
  | ok new =>
    cases hinsert : db.insertCase new with
    | ok db' =>
      simp only [caseTransaction, hrow, hinsert]
      exact find_insertCase hinsert h
    | error e =>
      cases e <;> simp only [caseTransaction, hrow, hinsert] <;> exact h

theorem find_setStatus {db : Database} {key : String × String} {row : CaseRow} (now : Int)
    (tenantId caseId status : String) (h : db.cases.find key = some row) :
    (caseTransaction now (.setStatus tenantId caseId status) db).2.cases.find key =
      some (if key = (tenantId, caseId) then (Database.setStatus status now).apply row
        else row) := by
  cases hcase : db.cases.find (tenantId, caseId) with
  | none =>
    have hother : key ≠ (tenantId, caseId) := by
      rintro rfl
      rw [h] at hcase
      cases hcase
    simp only [caseTransaction, hcase, if_neg hother]
    exact h
  | some found =>
    simp only [caseTransaction, hcase, find_updateCase, h, Option.map_some, apply_ite some]

theorem find_requestCancellation {db : Database} {key : String × String} {row : CaseRow} (now : Int)
    (tenantId caseId actorId : String) (h : db.cases.find key = some row) :
    (caseTransaction now (.requestCancellation tenantId caseId actorId) db).2.cases.find key =
      some (if key = (tenantId, caseId) then (Database.setCancellation now).apply row
        else row) := by
  simp only [caseTransaction, find_updateCase, h, Option.map_some, apply_ite some]

/-- What a call of either component makes of the row of a case. -/
theorem find_controlPlane {db : Database} {key : String × String} {row : CaseRow}
    (call : Int × ControlCall) (h : db.cases.find key = some row) :
    (controlPlane call db).2.cases.find key =
      some (row.after (statusOf key call).toList (cancellationOf key call).toList) := by
  obtain ⟨now, call⟩ := call
  cases call with
  | ledger call =>
    have hcases := cases_ledgerTransaction now call db
    simp only [controlPlane, statusOf, cancellationOf, Option.toList_none, CaseRow.after_nil]
    rw [hcases]
    exact h
  | repository call =>
    cases call with
    | create state =>
      simp only [controlPlane, statusOf, cancellationOf, Option.toList_none, CaseRow.after_nil]
      exact find_create now state h
    | get tenantId caseId =>
      simp only [controlPlane, statusOf, cancellationOf, Option.toList_none, CaseRow.after_nil]
      exact h
    | setStatus tenantId caseId status =>
      refine (find_setStatus now tenantId caseId status h).trans (congrArg some ?_)
      by_cases hkey : key = (tenantId, caseId)
      · simp only [statusOf, cancellationOf, if_pos hkey]
        simp [CaseRow.after, Database.setStatus]
      · simp only [statusOf, cancellationOf, if_neg hkey, Option.toList_none, CaseRow.after_nil]
    | requestCancellation tenantId caseId actorId =>
      refine (find_requestCancellation now tenantId caseId actorId h).trans (congrArg some ?_)
      by_cases hkey : key = (tenantId, caseId)
      · simp only [statusOf, cancellationOf, if_pos hkey]
        simp [CaseRow.after, Database.setCancellation]
      · simp only [statusOf, cancellationOf, if_neg hkey, Option.toList_none, CaseRow.after_nil]

/-! ### A run -/

theorem find_leaves (calls : List (Int × ControlCall)) {db : Database} {key : String × String}
    {row : CaseRow} (h : db.cases.find key = some row) :
    (leaves controlPlane calls db).cases.find key =
      some (row.after (calls.filterMap (statusOf key)) (calls.filterMap (cancellationOf key))) := by
  induction calls generalizing db row with
  | nil =>
    rw [List.filterMap_nil, List.filterMap_nil, CaseRow.after_nil]
    exact h
  | cons call calls ih =>
    have hfirst := ih (find_controlPlane call h)
    rw [CaseRow.after_append] at hfirst
    have hsplit : ∀ {β : Type} (f : Int × ControlCall → Option β),
        (f call).toList ++ calls.filterMap f = (call :: calls).filterMap f := by
      intro β f
      rw [List.filterMap_cons]
      cases f call <;> rfl
    rw [hsplit, hsplit] at hfirst
    exact hfirst

theorem prepare_of_case {db : Database} {intent : IntentRecord} (now : Int)
    (h : (db.cases.find (intent.tenantId, intent.caseId)).isSome) :
    ∃ record, (ledgerTransaction now (.prepare intent) db).1 = .ok (some record) := by
  have hwritable : Writable db (rowOfIntent intent) := Or.inr h
  obtain ⟨db', hok, _, hfind⟩ := upsertIntent_of_writable hwritable
  have hfetch : db'.fetchIntent intent.tenantId intent.idempotencyKey =
      some (intentRecordFromRow
        (upserted (rowOfIntent intent) (db.intents.find (rowOfIntent intent).key))) := by
    unfold Database.fetchIntent
    rw [hfind, if_pos (show (intent.tenantId, intent.idempotencyKey) = (rowOfIntent intent).key
      from rfl)]
    rfl
  exact ⟨_, by simp only [ledgerTransaction, hok, hfetch]; rfl⟩

/-- Whatever the repository and the ledger are called with, in any order and at any times, a case
that exists stays: its row has the last status set on it and the first cancellation asked for it,
and is otherwise the row there was. So an intent of the case can be prepared after any run. -/
theorem case_outlives_run (calls : List (Int × ControlCall)) {db : Database}
    {key : String × String} {row : CaseRow} (h : db.cases.find key = some row) :
    (leaves controlPlane calls db).cases.find key =
        some (row.after (calls.filterMap (statusOf key)) (calls.filterMap (cancellationOf key))) ∧
      ∀ now intent, (intent.tenantId, intent.caseId) = key → ∃ record,
        (ledgerTransaction now (.prepare intent) (leaves controlPlane calls db)).1 =
          .ok (some record) := by
  have hcase := find_leaves calls h
  refine ⟨hcase, fun now intent hkey => prepare_of_case now ?_⟩
  rw [hkey, hcase]
  rfl

/-- A second request does not move the time of the first. -/
theorem cancelled_once : ((leaves controlPlane
    [(1, .repository (.requestCancellation "acme" "checkout-1" "alice")),
      (2, .repository (.setStatus "acme" "checkout-1" "cancelled")),
      (3, .repository (.requestCancellation "acme" "checkout-1" "bob"))] sampleDatabase).cases.find
        ("acme", "checkout-1")).bind CaseRow.cancellationRequestedAt = some 1 := by
  have hcase : sampleDatabase.cases.find ("acme", "checkout-1") = some sampleCase := rfl
  rw [(case_outlives_run _ hcase).1]
  rfl

end ProductionOptimizer.ControlPlane
