import Mathlib.Data.List.Basic

/-!
# A log of transactions

What one connection writes is pending until its transaction ends, and lost if the
connection is. A transaction is opened explicitly, or by the query message itself, and then
ends with the message.
-/

namespace TransactionLog
set_option autoImplicit false

universe u
variable {E : Type u}

structure Log (E : Type u) where
  committed : List (List E) := []
  pending : List E := []
  explicit : Bool := false
  deriving DecidableEq, Repr

namespace Log

def write (log : Log E) (e : E) : Log E := { log with pending := log.pending ++ [e] }

/-- A transaction that is open stays open. -/
def begin_ (log : Log E) : Log E := { log with explicit := true }

/-- A transaction in which nothing was written leaves no trace. -/
def commit (log : Log E) : Log E where
  committed := if log.pending.isEmpty then log.committed else log.committed ++ [log.pending]

/-- The end of a query message. -/
def endQuery (log : Log E) : Log E := if log.explicit then log else log.commit

/-- The connection is lost or rolls back. -/
def lose (log : Log E) : Log E where
  committed := log.committed

variable (log : Log E)

@[simp] theorem begin_pending : log.begin_.pending = log.pending := rfl
@[simp] theorem commit_pending : log.commit.pending = [] := rfl

variable {log}

theorem commit_of_nil (h : log.pending = []) : log.commit.committed = log.committed := by
  simp [commit, h]

theorem commit_of_ne (h : log.pending ≠ []) :
    log.commit.committed = log.committed ++ [log.pending] := by
  simp [commit, h]

theorem endQuery_of_explicit (h : log.explicit = true) : log.endQuery = log := by
  simp [endQuery, h]

/-- Nothing that was committed is taken back. -/
theorem committed_prefix_commit (log : Log E) : log.committed <+: log.commit.committed := by
  by_cases h : log.pending = []
  · exact ⟨[], by rw [List.append_nil, commit_of_nil h]⟩
  · rw [commit_of_ne h]
    exact List.prefix_append _ _

theorem committed_prefix_endQuery (log : Log E) : log.committed <+: log.endQuery.committed := by
  unfold endQuery
  split
  · exact List.prefix_rfl
  · exact committed_prefix_commit log

end Log

end TransactionLog
