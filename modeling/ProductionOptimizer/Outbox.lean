import Mathlib.Data.List.Sort
import Mathlib.Data.List.Nodup
import ProductionOptimizer.Library.Runs

/-!
# Dispatch through the outbox

The methods of `PostgresOutboxAdapter` over the table `optimizer_control.outbox`. Each call is
one transaction, and the calls of any number of dispatchers interleave freely. `claim` reads
rows and writes nothing: the lock of `FOR UPDATE SKIP LOCKED` ends with the call.
-/

namespace ProductionOptimizer.Outbox
open Runs
set_option autoImplicit false

abbrev Uuid := BitVec 128

structure OutboxRecord where
  eventId : Uuid
  tenantId : String
  caseId : String
  topic : String
  payloadRef : String
  payloadDigest : String
  availableAt : Int
  deliveredAt : Option Int
  attempts : Nat
  lastErrorRef : Option String
  deriving DecidableEq, Repr

/-- The largest value of the column `attempts`. -/
def maxInteger : Nat := 2 ^ 31 - 1

structure Table where
  rows : List OutboxRecord
  primaryKey : (rows.map OutboxRecord.eventId).Nodup

inductive OutboxFailure where
  | limitNotPositive
  | noRecord (tenantId : String) (eventId : Uuid)
  | outOfRange
  | unknownCase
  deriving DecidableEq, Repr

/-! ### The statements -/

def Matches (tenantId : String) (eventId : Uuid) (row : OutboxRecord) : Prop :=
  row.tenantId = tenantId ∧ row.eventId = eventId

instance (tenantId : String) (eventId : Uuid) (row : OutboxRecord) :
    Decidable (Matches tenantId eventId row) :=
  inferInstanceAs (Decidable (_ ∧ _))

def Table.update (table : Table) (touch : OutboxRecord → OutboxRecord)
    (hkey : ∀ row, (touch row).eventId = row.eventId) : Table where
  rows := table.rows.map touch
  primaryKey := by
    have hkeys : (table.rows.map touch).map OutboxRecord.eventId =
        table.rows.map OutboxRecord.eventId := by
      rw [List.map_map]
      exact List.map_congr_left fun row _ => hkey row
    rw [hkeys]
    exact table.primaryKey

theorem nodup_insert {rows : List OutboxRecord} {record : OutboxRecord}
    (hkeys : (rows.map OutboxRecord.eventId).Nodup)
    (hnew : rows.find? (·.eventId = record.eventId) = none) :
    ((rows ++ [record]).map OutboxRecord.eventId).Nodup := by
  rw [List.map_append, List.map_singleton]
  apply hkeys.append (List.nodup_singleton _)
  intro id hid hrecord
  rw [List.mem_singleton] at hrecord
  subst hrecord
  obtain ⟨row, hrow, hid⟩ := List.mem_map.mp hid
  have hno := List.find?_eq_none.mp hnew row hrow
  exact hno (decide_eq_true hid)

def Table.insert (table : Table) (record : OutboxRecord)
    (hnew : table.rows.find? (·.eventId = record.eventId) = none) : Table where
  rows := table.rows ++ [record]
  primaryKey := nodup_insert table.primaryKey hnew

/-- The query of `claim`. Rows of one time come in the order in which they are scanned. -/
def selectDue (scan : List OutboxRecord) (tenantId : String) (limit : Nat) (now : Int) :
    List OutboxRecord :=
  ((scan.filter fun row =>
      row.tenantId = tenantId ∧ row.deliveredAt = none ∧ row.availableAt ≤ now).insertionSort
    fun row row' => row.availableAt ≤ row'.availableAt).take limit

/-- A call with what the database brings to it: the time, the order of a scan, whether the
case of a new record exists. -/
inductive Call where
  | publish (record : OutboxRecord) (caseExists : Bool)
  | claim (tenantId : String) (limit : Int) (now : Int) (scan : List OutboxRecord)
  | markDelivered (tenantId : String) (eventId : Uuid) (now : Int)
  | markFailed (tenantId : String) (eventId : Uuid) (errorRef : String)

namespace Call

/-- What a call makes of a row that exists. -/
def touch : Call → OutboxRecord → OutboxRecord
  | .publish _ _, row => row
  | .claim _ _ _ _, row => row
  | .markDelivered tenantId eventId now, row =>
    if Matches tenantId eventId row then { row with deliveredAt := some now } else row
  | .markFailed tenantId eventId errorRef, row =>
    if Matches tenantId eventId row then
      { row with attempts := row.attempts + 1, lastErrorRef := some errorRef }
    else row

theorem eventId_touch (call : Call) (row : OutboxRecord) :
    (call.touch row).eventId = row.eventId := by
  unfold touch
  split
  · rfl
  · rfl
  · split <;> rfl
  · split <;> rfl

/-- The rows a call returns and the table it leaves; a call that raises changes nothing. -/
def run (call : Call) (table : Table) : Except OutboxFailure (List OutboxRecord × Table) :=
  match call with
  | .publish record caseExists =>
    if maxInteger < record.attempts then .error .outOfRange
    else
      match h : table.rows.find? (·.eventId = record.eventId) with
      | some row => .ok ([row], table)
      | none =>
        if caseExists then .ok ([record], table.insert record h) else .error .unknownCase
  | .claim tenantId limit now scan =>
    if limit ≤ 0 then .error .limitNotPositive
    else .ok (selectDue scan tenantId limit.toNat now, table)
  | .markDelivered tenantId eventId now =>
    match table.rows.find? (Matches tenantId eventId) with
    | none => .error (.noRecord tenantId eventId)
    | some row =>
      let call := Call.markDelivered tenantId eventId now
      .ok ([call.touch row], table.update call.touch call.eventId_touch)
  | .markFailed tenantId eventId errorRef =>
    match table.rows.find? (Matches tenantId eventId) with
    | none => .error (.noRecord tenantId eventId)
    | some row =>
      let call := Call.markFailed tenantId eventId errorRef
      if row.attempts < maxInteger then
        .ok ([call.touch row], table.update call.touch call.eventId_touch)
      else .error .outOfRange

def after (call : Call) (table : Table) : Table :=
  match call.run table with
  | .ok (_, table') => table'
  | .error _ => table

end Call

/-- A scan reads the rows of the table in some order. -/
def Step (table : Table) (call : Call) (table' : Table) : Prop :=
  (∀ tenantId limit now scan, call = .claim tenantId limit now scan → scan.Perm table.rows) ∧
    table' = call.after table

abbrev History := List (Transition Table Call)

/-- The call succeeds and hands the event out. -/
def ClaimedBy (t : Transition Table Call) (eventId : Uuid) : Prop :=
  ∃ tenantId limit now scan rows table, t.label = .claim tenantId limit now scan ∧
    t.label.run t.before = .ok (rows, table) ∧ ∃ row ∈ rows, row.eventId = eventId

/-- The call succeeds and marks the event failed. -/
def FailedBy (t : Transition Table Call) (eventId : Uuid) : Prop :=
  ∃ tenantId errorRef answer, t.label = .markFailed tenantId eventId errorRef ∧
    t.label.run t.before = .ok answer

/-- What becomes of a row: attempts never decrease, and after delivery nothing changes. -/
structure Settles (row row' : OutboxRecord) : Prop where
  eventId : row'.eventId = row.eventId
  attempts : row.attempts ≤ row'.attempts
  deliveredAt : ∀ at', row.deliveredAt = some at' → row'.deliveredAt = some at'
  delivered : row.deliveredAt.isSome →
    row'.attempts = row.attempts ∧ row'.lastErrorRef = row.lastErrorRef

def Keeps (table table' : Table) : Prop :=
  ∀ row ∈ table.rows, ∃ row' ∈ table'.rows, Settles row row'

/-- The guarantee of a dispatch queue, for a history, latest call first. -/
structure HandedOutOnce (tr : History) (table : Table) : Prop where
  exclusive : ∀ newer later between earlier older eventId,
    tr = newer ++ later :: (between ++ earlier :: older) → ClaimedBy later eventId →
    ClaimedBy earlier eventId → ∃ t ∈ between, FailedBy t eventId
  final : ∀ newer t older eventId, tr = newer ++ t :: older → ClaimedBy t eventId →
    ∀ table' ∈ visited older t.before, ∀ row ∈ table'.rows, row.eventId = eventId →
      row.deliveredAt = none
  kept : (visited tr table).Pairwise fun later earlier => Keeps earlier later

/-! ### What one call does -/

theorem Table.row_unique (table : Table) {row row' : OutboxRecord} (hrow : row ∈ table.rows)
    (hrow' : row' ∈ table.rows) (hid : row.eventId = row'.eventId) : row = row' :=
  List.inj_on_of_nodup_map table.primaryKey hrow hrow' hid

theorem Settles.refl (row : OutboxRecord) : Settles row row :=
  ⟨rfl, le_rfl, fun _ h => h, fun _ => ⟨rfl, rfl⟩⟩

theorem Settles.trans {a b c : OutboxRecord} (hab : Settles a b) (hbc : Settles b c) :
    Settles a c where
  eventId := hbc.eventId.trans hab.eventId
  attempts := hab.attempts.trans hbc.attempts
  deliveredAt at' h := hbc.deliveredAt at' (hab.deliveredAt at' h)
  delivered h := by
    obtain ⟨at', hat⟩ := Option.isSome_iff_exists.mp h
    have hb : b.deliveredAt.isSome := by
      rw [hab.deliveredAt at' hat]
      rfl
    obtain ⟨hattempts, href⟩ := hab.delivered h
    obtain ⟨hattempts', href'⟩ := hbc.delivered hb
    exact ⟨hattempts'.trans hattempts, href'.trans href⟩

theorem Keeps.refl (table : Table) : Keeps table table :=
  fun row hrow => ⟨row, hrow, .refl row⟩

theorem Keeps.trans {a b c : Table} (hab : Keeps a b) (hbc : Keeps b c) : Keeps a c := by
  intro row hrow
  obtain ⟨row', hrow', hsettles⟩ := hab row hrow
  obtain ⟨row'', hrow'', hsettles'⟩ := hbc row' hrow'
  exact ⟨row'', hrow'', hsettles.trans hsettles'⟩

/-- Two tables with the rows touched in between: each row is kept if it settles. -/
theorem keeps_update_iff {table : Table} {touch : OutboxRecord → OutboxRecord}
    (hkey : ∀ row, (touch row).eventId = row.eventId) :
    Keeps table (table.update touch hkey) ↔ ∀ row ∈ table.rows, Settles row (touch row) := by
  constructor
  · intro hkeeps row hrow
    obtain ⟨row', hrow', hsettles⟩ := hkeeps row hrow
    obtain ⟨source, hsource, rfl⟩ := List.mem_map.mp hrow'
    have hid : source.eventId = row.eventId := (hkey source).symm.trans hsettles.eventId
    rw [table.row_unique hsource hrow hid] at hsettles
    exact hsettles
  · intro hsettles row hrow
    exact ⟨touch row, List.mem_map_of_mem hrow, hsettles row hrow⟩

namespace Call

/-- A mark leaves a delivered row as it is: the delivery is not given another time, and a
failure is not counted. -/
def Spares (table : Table) : Call → Prop
  | .publish _ _ => True
  | .claim _ _ _ _ => True
  | .markDelivered tenantId eventId now =>
    ∀ row ∈ table.rows, Matches tenantId eventId row →
      ∀ at', row.deliveredAt = some at' → at' = now
  | .markFailed tenantId eventId _ =>
    ∀ row ∈ table.rows, Matches tenantId eventId row →
      row.deliveredAt = none ∨ maxInteger ≤ row.attempts

theorem settles_markDelivered_iff {tenantId : String} {eventId : Uuid} {now : Int}
    {row : OutboxRecord} :
    Settles row ((markDelivered tenantId eventId now).touch row) ↔
      (Matches tenantId eventId row → ∀ at', row.deliveredAt = some at' → at' = now) := by
  unfold touch
  dsimp only
  split
  · rename_i hmatches
    constructor
    · intro hsettles _ at' hat
      exact (Option.some.inj (hsettles.deliveredAt at' hat)).symm
    · intro hnow
      refine ⟨rfl, le_rfl, fun at' hat => ?_, fun _ => ⟨rfl, rfl⟩⟩
      rw [hnow hmatches at' hat]
  · rename_i hmatches
    exact ⟨fun _ h => absurd h hmatches, fun _ => .refl row⟩

theorem settles_markFailed_iff {tenantId errorRef : String} {eventId : Uuid}
    {row : OutboxRecord} :
    Settles row ((markFailed tenantId eventId errorRef).touch row) ↔
      (Matches tenantId eventId row → row.deliveredAt = none) := by
  unfold touch
  dsimp only
  split
  · rename_i hmatches
    constructor
    · intro hsettles _
      apply Option.not_isSome_iff_eq_none.mp
      intro hsome
      have hsame := (hsettles.delivered hsome).1
      simp at hsame
    · intro hnone
      refine ⟨rfl, Nat.le_succ _, fun _ h => h, fun h => ?_⟩
      simp [hnone hmatches] at h
  · rename_i hmatches
    exact ⟨fun _ h => absurd h hmatches, fun _ => .refl row⟩

theorem find?_matches {table : Table} {tenantId : String} {eventId : Uuid} {row : OutboxRecord}
    (h : table.rows.find? (Matches tenantId eventId) = some row) :
    row ∈ table.rows ∧ Matches tenantId eventId row :=
  ⟨List.mem_of_find?_eq_some h, by simpa using List.find?_some h⟩

theorem not_matches {table : Table} {tenantId : String} {eventId : Uuid} {row : OutboxRecord}
    (h : table.rows.find? (Matches tenantId eventId) = none) (hrow : row ∈ table.rows) :
    ¬ Matches tenantId eventId row := by
  simpa using List.find?_eq_none.mp h row hrow

theorem after_claim (tenantId : String) (limit now : Int) (scan : List OutboxRecord)
    (table : Table) : (claim tenantId limit now scan).after table = table := by
  unfold after run
  dsimp only
  by_cases hlimit : limit ≤ 0
  · rw [if_pos hlimit]
  · rw [if_neg hlimit]

/-- Publishing adds a row at most. -/
theorem subset_after_publish (record : OutboxRecord) (caseExists : Bool) (table : Table) :
    table.rows ⊆ ((publish record caseExists).after table).rows := by
  unfold after
  split
  · rename_i answer table' hrun
    unfold run at hrun
    dsimp only at hrun
    split at hrun
    · cases hrun
    split at hrun
    · cases hrun
      exact List.Subset.refl _
    split at hrun
    · cases hrun
      exact List.subset_append_left _ _
    · cases hrun
  · exact List.Subset.refl _

/-- `mark_delivered` raises or touches the row. -/
theorem after_markDelivered (tenantId : String) (eventId : Uuid) (now : Int) (table : Table) :
    ((markDelivered tenantId eventId now).after table = table ∧
      ∀ row ∈ table.rows, ¬ Matches tenantId eventId row) ∨
    (markDelivered tenantId eventId now).after table =
      table.update (markDelivered tenantId eventId now).touch (eventId_touch _) := by
  unfold after run
  dsimp only
  cases hfind : table.rows.find? (Matches tenantId eventId) with
  | none => exact .inl ⟨rfl, fun row hrow => not_matches hfind hrow⟩
  | some row => exact .inr rfl

/-- `mark_failed` raises for want of the row or of a greater count, or touches the row. -/
theorem after_markFailed (tenantId : String) (eventId : Uuid) (errorRef : String)
    (table : Table) :
    ((markFailed tenantId eventId errorRef).after table = table ∧
      ∀ row ∈ table.rows, Matches tenantId eventId row → maxInteger ≤ row.attempts) ∨
    ((markFailed tenantId eventId errorRef).after table =
        table.update (markFailed tenantId eventId errorRef).touch (eventId_touch _) ∧
      ∀ row ∈ table.rows, Matches tenantId eventId row → row.attempts < maxInteger) := by
  unfold after run
  dsimp only
  cases hfind : table.rows.find? (Matches tenantId eventId) with
  | none => exact .inl ⟨rfl, fun row hrow h => absurd h (not_matches hfind hrow)⟩
  | some found =>
    obtain ⟨hmem, hmatches⟩ := find?_matches hfind
    have honly : ∀ row ∈ table.rows, Matches tenantId eventId row → row = found :=
      fun row hrow h => table.row_unique hrow hmem (h.2.trans hmatches.2.symm)
    by_cases hattempts : found.attempts < maxInteger
    · right
      dsimp only
      rw [if_pos hattempts]
      exact ⟨rfl, fun row hrow h => honly row hrow h ▸ hattempts⟩
    · left
      dsimp only
      rw [if_neg hattempts]
      exact ⟨rfl, fun row hrow h => honly row hrow h ▸ Nat.le_of_not_lt hattempts⟩

theorem keeps_after_iff (call : Call) (table : Table) :
    Keeps table (call.after table) ↔ call.Spares table := by
  cases call with
  | publish record caseExists =>
    refine ⟨fun _ => trivial, fun _ row hrow => ?_⟩
    exact ⟨row, subset_after_publish record caseExists table hrow, .refl row⟩
  | claim tenantId limit now scan =>
    rw [after_claim]
    exact ⟨fun _ => trivial, fun _ => .refl table⟩
  | markDelivered tenantId eventId now =>
    rcases after_markDelivered tenantId eventId now table with ⟨heq, hnone⟩ | heq
    · rw [heq]
      exact ⟨fun _ row hrow h => absurd h (hnone row hrow), fun _ => .refl table⟩
    · rw [heq, keeps_update_iff]
      simp only [settles_markDelivered_iff]
      exact Iff.rfl
  | markFailed tenantId eventId errorRef =>
    rcases after_markFailed tenantId eventId errorRef table with ⟨heq, hfull⟩ | ⟨heq, hroom⟩
    · rw [heq]
      exact ⟨fun _ row hrow h => .inr (hfull row hrow h), fun _ => .refl table⟩
    · rw [heq, keeps_update_iff]
      simp only [settles_markFailed_iff]
      constructor
      · intro hnone row hrow hmatches
        exact .inl (hnone row hrow hmatches)
      · intro hspares row hrow hmatches
        rcases hspares row hrow hmatches with hnone | hfull
        · exact hnone
        · exact absurd (hroom row hrow hmatches) (Nat.not_lt.mpr hfull)

end Call

/-- A delivered row stays delivered, whatever is called. -/
def StaysDelivered (table table' : Table) : Prop :=
  ∀ row ∈ table.rows, row.deliveredAt.isSome →
    ∃ row' ∈ table'.rows, row'.eventId = row.eventId ∧ row'.deliveredAt.isSome

theorem StaysDelivered.refl (table : Table) : StaysDelivered table table :=
  fun row hrow h => ⟨row, hrow, rfl, h⟩

theorem StaysDelivered.trans {a b c : Table} (hab : StaysDelivered a b)
    (hbc : StaysDelivered b c) : StaysDelivered a c := by
  intro row hrow hsome
  obtain ⟨row', hrow', hid, hsome'⟩ := hab row hrow hsome
  obtain ⟨row'', hrow'', hid', hsome''⟩ := hbc row' hrow' hsome'
  exact ⟨row'', hrow'', hid'.trans hid, hsome''⟩

theorem isSome_deliveredAt_touch (call : Call) {row : OutboxRecord}
    (h : row.deliveredAt.isSome) : (call.touch row).deliveredAt.isSome := by
  unfold Call.touch
  split
  · exact h
  · exact h
  · split
    · rfl
    · exact h
  · split
    · exact h
    · exact h

theorem staysDelivered_update (call : Call) (table : Table) :
    StaysDelivered table (table.update call.touch call.eventId_touch) :=
  fun row hrow h => ⟨call.touch row, List.mem_map_of_mem hrow, call.eventId_touch row,
    isSome_deliveredAt_touch call h⟩

theorem staysDelivered_after (call : Call) (table : Table) :
    StaysDelivered table (call.after table) := by
  cases call with
  | publish record caseExists =>
    intro row hrow h
    exact ⟨row, Call.subset_after_publish record caseExists table hrow, rfl, h⟩
  | claim tenantId limit now scan =>
    rw [Call.after_claim]
    exact .refl table
  | markDelivered tenantId eventId now =>
    rcases Call.after_markDelivered tenantId eventId now table with ⟨heq, _⟩ | heq
    · rw [heq]
      exact .refl table
    · rw [heq]
      exact staysDelivered_update _ table
  | markFailed tenantId eventId errorRef =>
    rcases Call.after_markFailed tenantId eventId errorRef table with ⟨heq, _⟩ | ⟨heq, _⟩
    · rw [heq]
      exact .refl table
    · rw [heq]
      exact staysDelivered_update _ table

/-! ### Histories -/

/-- The event was handed out and has not been marked failed since. -/
def Outstanding : History → Uuid → Prop
  | [], _ => False
  | t :: older, eventId =>
    ClaimedBy t eventId ∨ (Outstanding older eventId ∧ ¬ FailedBy t eventId)

theorem outstanding_iff {tr : History} {eventId : Uuid} :
    Outstanding tr eventId ↔ ∃ between earlier older, tr = between ++ earlier :: older ∧
      ClaimedBy earlier eventId ∧ ∀ t ∈ between, ¬ FailedBy t eventId := by
  induction tr with
  | nil =>
    refine ⟨False.elim, ?_⟩
    rintro ⟨between, earlier, older, heq, _⟩
    cases between <;> cases heq
  | cons t tr ih =>
    constructor
    · rintro (hclaimed | ⟨hout, hfailed⟩)
      · exact ⟨[], t, tr, rfl, hclaimed, by simp⟩
      · obtain ⟨between, earlier, older, rfl, hclaimed, hnone⟩ := ih.mp hout
        refine ⟨t :: between, earlier, older, rfl, hclaimed, ?_⟩
        exact List.forall_mem_cons.mpr ⟨hfailed, hnone⟩
    · rintro ⟨between, earlier, older, heq, hclaimed, hnone⟩
      cases between with
      | nil =>
        cases heq
        exact .inl hclaimed
      | cons u between =>
        cases heq
        obtain ⟨hu, hrest⟩ := List.forall_mem_cons.mp hnone
        exact .inr ⟨ih.mpr ⟨between, earlier, older, rfl, hclaimed, hrest⟩, hu⟩

/-- A claim whose first due rows were not handed out before, or have failed since. -/
def Call.TakesReleased (older : History) : Call → Prop
  | .claim tenantId limit now scan =>
    ∀ row ∈ selectDue scan tenantId limit.toNat now, ¬ Outstanding older row.eventId
  | _ => True

/-- What a caller would have to see to, at every call. -/
structure Orderly (older : History) (table : Table) (call : Call) : Prop where
  released : call.TakesReleased older
  spares : call.Spares table

theorem claimedBy_iff {t : Transition Table Call} {tenantId : String} {limit now : Int}
    {scan : List OutboxRecord} {eventId : Uuid}
    (hlabel : t.label = .claim tenantId limit now scan) :
    ClaimedBy t eventId ↔
      ∃ row ∈ selectDue scan tenantId limit.toNat now, row.eventId = eventId := by
  have hrun : t.label.run t.before = if limit ≤ 0 then .error .limitNotPositive
      else .ok (selectDue scan tenantId limit.toNat now, t.before) := by
    rw [hlabel]
    rfl
  constructor
  · rintro ⟨tenantId', limit', now', scan', rows, table, _, hok, hrow⟩
    rw [hrun] at hok
    split at hok
    · cases hok
    · cases hok
      exact hrow
  · rintro ⟨row, hrow, hid⟩
    have hlimit : ¬ limit ≤ 0 := by
      intro hle
      rw [Int.toNat_of_nonpos hle] at hrow
      simp [selectDue] at hrow
    rw [if_neg hlimit] at hrun
    exact ⟨tenantId, limit, now, scan, _, _, hlabel, hrun, row, hrow, hid⟩

theorem takesReleased_iff {t : Transition Table Call} {older : History} :
    t.label.TakesReleased older ↔
      ∀ eventId, ClaimedBy t eventId → ¬ Outstanding older eventId := by
  cases hlabel : t.label with
  | claim tenantId limit now scan =>
    constructor
    · intro hreleased eventId hclaimed
      obtain ⟨row, hrow, rfl⟩ := (claimedBy_iff hlabel).mp hclaimed
      exact hreleased row hrow
    · intro hnone row hrow
      exact hnone row.eventId ((claimedBy_iff hlabel).mpr ⟨row, hrow, rfl⟩)
  | _ =>
    refine ⟨fun _ eventId hclaimed => ?_, fun _ => trivial⟩
    obtain ⟨_, _, _, _, _, _, hclaim, _⟩ := hclaimed
    cases hlabel.symm.trans hclaim

theorem mem_selectDue {scan : List OutboxRecord} {tenantId : String} {limit : Nat} {now : Int}
    {row : OutboxRecord} (h : row ∈ selectDue scan tenantId limit now) :
    row ∈ scan ∧ row.deliveredAt = none := by
  have hsorted := List.mem_of_mem_take h
  rw [List.mem_insertionSort, List.mem_filter] at hsorted
  have hdue := of_decide_eq_true hsorted.2
  exact ⟨hsorted.1, hdue.2.1⟩

/-- The row that is handed out is undelivered in the table the claim reads. -/
theorem deliveredAt_of_claimedBy {t : Transition Table Call} {eventId : Uuid}
    (hstep : Step t.before t.label t.after) (hclaimed : ClaimedBy t eventId) :
    ∀ row ∈ t.before.rows, row.eventId = eventId → row.deliveredAt = none := by
  intro row hrow hid
  obtain ⟨tenantId, limit, now, scan, _, _, hlabel, _⟩ := id hclaimed
  obtain ⟨selected, hselected, hsame⟩ := (claimedBy_iff hlabel).mp hclaimed
  obtain ⟨hscan, hnone⟩ := mem_selectDue hselected
  have hmem : selected ∈ t.before.rows :=
    (hstep.1 tenantId limit now scan hlabel).mem_iff.mp hscan
  rw [t.before.row_unique hrow hmem (hid.trans hsame.symm)]
  exact hnone

section Run
variable {s₀ table : Table} {tr : History}

theorem exclusive_iff :
    (∀ newer later between earlier older eventId,
      tr = newer ++ later :: (between ++ earlier :: older) → ClaimedBy later eventId →
      ClaimedBy earlier eventId → ∃ t ∈ between, FailedBy t eventId) ↔
    ∀ newer t older, tr = newer ++ t :: older → t.label.TakesReleased older := by
  constructor
  · intro hexclusive newer t older heq
    rw [takesReleased_iff]
    intro eventId hclaimed hout
    obtain ⟨between, earlier, oldest, rfl, hearlier, hnone⟩ := outstanding_iff.mp hout
    obtain ⟨u, hu, hfailed⟩ :=
      hexclusive newer t between earlier oldest eventId heq hclaimed hearlier
    exact hnone u hu hfailed
  · intro hreleased newer later between earlier older eventId heq hlater hearlier
    by_contra hnone
    have hnot := takesReleased_iff.mp (hreleased newer later _ heq) eventId hlater
    apply hnot
    refine outstanding_iff.mpr ⟨between, earlier, older, rfl, hearlier, fun t ht hfailed => ?_⟩
    exact hnone ⟨t, ht, hfailed⟩

/-- No delivered event is handed out, in any run. -/
theorem final_of_run (hrun : Run Step s₀ tr table) {newer older : History}
    {t : Transition Table Call} {eventId : Uuid} (heq : tr = newer ++ t :: older)
    (hclaimed : ClaimedBy t eventId) :
    ∀ table' ∈ visited older t.before, ∀ row ∈ table'.rows, row.eventId = eventId →
      row.deliveredAt = none := by
  subst heq
  obtain ⟨hbefore, hstep, _⟩ := hrun.step_of_eq_append
  have hundelivered := deliveredAt_of_claimedBy hstep hclaimed
  have hstays : (visited older t.before).Pairwise
      fun later earlier => StaysDelivered earlier later := by
    apply (hbefore.pairwise_visited_iff (R := StaysDelivered) StaysDelivered.trans).mpr
    intro u hu
    obtain ⟨_, _, hstep'⟩ := hbefore.step_of_mem hu
    rw [hstep'.2]
    exact staysDelivered_after u.label u.before
  intro table' htable' row hrow hid
  have hlast : StaysDelivered table' t.before := by
    rcases List.mem_cons.mp htable' with rfl | hearlier
    · exact .refl _
    · exact (List.pairwise_cons.mp hstays).1 table' hearlier
  apply Option.not_isSome_iff_eq_none.mp
  intro hsome
  obtain ⟨row', hrow', hid', hsome'⟩ := hlast row hrow hsome
  rw [hundelivered row' hrow' (hid'.trans hid)] at hsome'
  cases hsome'

theorem kept_iff (hrun : Run Step s₀ tr table) :
    (visited tr table).Pairwise (fun later earlier => Keeps earlier later) ↔
      ∀ t ∈ tr, t.label.Spares t.before := by
  rw [hrun.pairwise_visited_iff (R := Keeps) Keeps.trans]
  refine forall₂_congr fun t ht => ?_
  obtain ⟨_, _, hstep⟩ := hrun.step_of_mem ht
  rw [hstep.2]
  exact t.label.keeps_after_iff t.before

/-- In every interleaving: events are handed out exclusively and delivered once exactly if
every call is orderly. -/
theorem handed_out_once_iff (hrun : Run Step s₀ tr table) :
    HandedOutOnce tr table ↔
      ∀ newer t older, tr = newer ++ t :: older → Orderly older t.before t.label := by
  constructor
  · intro h newer t older heq
    have hmem : t ∈ tr := by
      rw [heq]
      exact List.mem_append_right _ List.mem_cons_self
    exact ⟨exclusive_iff.mp h.exclusive newer t older heq, (kept_iff hrun).mp h.kept t hmem⟩
  · intro horderly
    refine ⟨?_, ?_, ?_⟩
    · exact exclusive_iff.mpr fun newer t older heq => (horderly newer t older heq).released
    · intro newer t older eventId heq hclaimed
      exact final_of_run hrun heq hclaimed
    · apply (kept_iff hrun).mpr
      intro t ht
      obtain ⟨newer, older, heq⟩ := List.append_of_mem ht
      exact (horderly newer t older heq).spares

end Run

/-! ### Two dispatchers -/

def announced : OutboxRecord where
  eventId := 1
  tenantId := "tenant"
  caseId := "case"
  topic := "case.updated"
  payloadRef := "s3://development/payload"
  payloadDigest := "sha256:payload"
  availableAt := 0
  deliveredAt := none
  attempts := 0
  lastErrorRef := none

def announcedTable : Table := ⟨[announced], List.nodup_singleton _⟩

def poll (now : Int) : Transition Table Call :=
  ⟨announcedTable, .claim "tenant" 1 now [announced], announcedTable⟩

theorem step_poll (now : Int) : Step (poll now).before (poll now).label (poll now).after := by
  refine ⟨fun tenantId limit now' scan heq => ?_, (Call.after_claim _ _ _ _ _).symm⟩
  cases heq
  exact List.Perm.refl _

theorem claimedBy_poll {now : Int} (hnow : 0 ≤ now) : ClaimedBy (poll now) 1 := by
  have hdue : selectDue [announced] "tenant" 1 now = [announced] := by
    simp [selectDue, announced, hnow]
  apply (claimedBy_iff rfl).mpr
  exact ⟨announced, by rw [Int.toNat_one, hdue]; exact List.mem_singleton_self _, rfl⟩

/-- Two dispatchers poll one after the other and are handed the same event. -/
theorem two_polls_same_event :
    Run Step announcedTable [poll 2, poll 1] announcedTable ∧
      ¬ HandedOutOnce [poll 2, poll 1] announcedTable := by
  refine ⟨.snoc (.snoc .nil (step_poll 1)) (step_poll 2), fun h => ?_⟩
  obtain ⟨t, ht, _⟩ := h.exclusive [] (poll 2) [] (poll 1) [] 1 rfl
    (claimedBy_poll (by decide)) (claimedBy_poll (by decide))
  cases ht

/-- A single poll is orderly. -/
theorem one_poll_handed_out :
    Run Step announcedTable [poll 1] announcedTable ∧
      HandedOutOnce [poll 1] announcedTable := by
  have hrun : Run Step announcedTable [poll 1] announcedTable := .snoc .nil (step_poll 1)
  refine ⟨hrun, (handed_out_once_iff hrun).mpr ?_⟩
  intro newer t older heq
  cases newer with
  | nil =>
    cases heq
    exact ⟨fun row _ hout => hout, trivial⟩
  | cons u newer => cases newer <;> cases heq

end ProductionOptimizer.Outbox
