import Mathlib.Logic.Function.Basic

/-!
# The intent ledger

The row of `node_intents` for one `(tenant_id, idempotency_key)`, with the columns
that `NodeRuntime._execute_idempotent` reads back. Each operation is one SQL statement.
-/

namespace ProductionOptimizer
set_option autoImplicit false

inductive IntentStatus where
  | pending
  | completed
  | unknown
  | failed
  deriving DecidableEq, Repr

structure IntentRow (R : Type) where
  status : IntentStatus
  outputRef : Option R
  deriving DecidableEq

namespace IntentRow
variable {R : Type}

/-- `INSERT ... ON CONFLICT DO UPDATE ... WHERE status <> 'completed'`. The output
columns are not among the updated ones. -/
def prepare : Option (IntentRow R) → IntentRow R
  | none => ⟨.pending, none⟩
  | some row => if row.status = .completed then row else { row with status := .pending }

/-- `UPDATE ... SET status = 'completed'`, with no condition on the present status.
`none` is the `ValueError` for a missing row. -/
def complete (outputRef : R) : Option (IntentRow R) → Option (IntentRow R)
  | none => none
  | some _ => some ⟨.completed, some outputRef⟩

/-- `UPDATE ... SET status = 'unknown' ... WHERE status = 'pending'`. `none` is the
`ValueError` when no row matches. -/
def markUnknown : Option (IntentRow R) → Option (IntentRow R)
  | none => none
  | some row => if row.status = .pending then some { row with status := .unknown } else none

def replayable : Option (IntentRow R) → Option R
  | none => none
  | some row => if row.status = .completed then row.outputRef else none

theorem prepare_of_completed {row : IntentRow R} (h : row.status = .completed) :
    prepare (some row) = row := if_pos h

theorem markUnknown_status {row? : Option (IntentRow R)} {row : IntentRow R}
    (h : markUnknown row? = some row) :
    row.status = .unknown ∧ ∃ old, row? = some old ∧ old.status = .pending := by
  cases row? with
  | none => cases h
  | some old =>
    simp only [markUnknown] at h
    split at h
    · rename_i hp
      cases h
      exact ⟨rfl, old, rfl, hp⟩
    · cases h

theorem replayable_eq_some {row? : Option (IntentRow R)} {ref : R} :
    replayable row? = some ref ↔ row? = some ⟨.completed, some ref⟩ := by
  cases row? with
  | none => simp [replayable]
  | some row =>
    rcases row with ⟨status, outputRef⟩
    simp only [replayable, Option.some.injEq, IntentRow.mk.injEq]
    by_cases h : status = .completed
    · simp [h]
    · simp [h]

end IntentRow
end ProductionOptimizer
