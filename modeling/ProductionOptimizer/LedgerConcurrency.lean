import ProductionOptimizer.IntentLedger
import ProductionOptimizer.Library.Runs

/-!
# Concurrent retries of one intent

Any number of workers run `_execute_idempotent` for one `(tenant_id, idempotency_key)`.
Every ledger call, every store call and every handler run is one atomic step, a worker
may crash between any two of them, and the steps interleave freely. `E` is the type of
executions; the store addresses an execution by its digest.
-/

namespace ProductionOptimizer.LedgerConcurrency
open Runs
set_option autoImplicit false

variable {W E D : Type}

/-- Where a worker stands, with the values its local variables hold. -/
inductive Worker (E D : Type) where
  | start
  | hit (ref : D)
  | missed
  | prepared
  | raised
  | executed (e : E)
  | stored (e : E) (ref : D)
  | returned (e : E)
  | failed
  | crashed
  deriving DecidableEq

/-- What the handler and `_validate_execution` make of one call. -/
inductive HandlerResult (E : Type) where
  | returned (e : E)
  | raised
  | invalid
  deriving DecidableEq

inductive Op (E : Type) where
  | get
  | read
  | prepare
  | runHandler (result : HandlerResult E)
  | markUnknown
  | putJson
  | complete
  | crash
  deriving DecidableEq

structure Shared (E D : Type) where
  row : Option (IntentRow D)
  store : D → Option E

structure LedgerState (W E D : Type) where
  shared : Shared E D
  worker : W → Worker E D

def initial : LedgerState W E D := ⟨⟨none, fun _ => none⟩, fun _ => .start⟩

/-- `put_json` writes an object only where none exists yet. -/
def putObject [DecidableEq D] (store : D → Option E) (ref : D) (e : E) : D → Option E :=
  if (store ref).isSome then store else Function.update store ref (some e)

section Steps
variable [DecidableEq W] [DecidableEq D] (digest : E → D)

/-- One operation of one worker on the shared state; `none` when the operation is not
the worker's next one. -/
def advance (shared : Shared E D) : Worker E D → Op E → Option (Shared E D × Worker E D)
  | .start, .get =>
    match IntentRow.replayable shared.row with
    | some ref => some (shared, .hit ref)
    | none => some (shared, .missed)
  | .hit ref, .read =>
    match shared.store ref with
    | some e => some (shared, .returned e)
    | none => some (shared, .failed)
  | .missed, .prepare => some ({ shared with row := some (IntentRow.prepare shared.row) }, .prepared)
  | .prepared, .runHandler (.returned e) => some (shared, .executed e)
  | .prepared, .runHandler .raised => some (shared, .raised)
  | .prepared, .runHandler .invalid => some (shared, .failed)
  | .raised, .markUnknown =>
    match IntentRow.markUnknown shared.row with
    | some row => some ({ shared with row := some row }, .failed)
    | none => some (shared, .failed)
  | .executed e, .putJson =>
    some ({ shared with store := putObject shared.store (digest e) e }, .stored e (digest e))
  | .stored e ref, .complete =>
    match IntentRow.complete ref shared.row with
    | some row => some ({ shared with row := some row }, .returned e)
    | none => some (shared, .failed)
  | .returned _, .crash => none
  | .failed, .crash => none
  | _, .crash => some (shared, .crashed)
  | _, _ => none

def step (s : LedgerState W E D) (l : W × Op E) : Option (LedgerState W E D) :=
  (advance digest s.shared (s.worker l.1) l.2).map fun out =>
    ⟨out.1, Function.update s.worker l.1 out.2⟩

def Step (s : LedgerState W E D) (l : W × Op E) (s' : LedgerState W E D) : Prop :=
  step digest s l = some s'

end Steps

abbrev History (W E D : Type) := List (Transition (LedgerState W E D) (W × Op E))

def RowKept (earlier later : LedgerState W E D) : Prop :=
  ∀ row, earlier.shared.row = some row → row.status = .completed → later.shared.row = some row

theorem RowKept.trans {a b c : LedgerState W E D} (hab : RowKept a b) (hbc : RowKept b c) :
    RowKept a c := by
  intro row ha hc
  exact hbc row (hab row ha hc) hc

/-- Once completed, the row stays as it is, and every worker that returned a commit
returned the execution stored under the final `output_ref`. -/
def LedgerSafe (tr : History W E D) (s : LedgerState W E D) : Prop :=
  (visited tr s).Pairwise (fun later earlier => RowKept earlier later) ∧
  ∀ w e, s.worker w = .returned e →
    ∃ ref, s.shared.row = some ⟨.completed, some ref⟩ ∧ s.shared.store ref = some e

/-- A `complete` call finds the row open, or already completed with its own output. -/
def GuardedComplete (t : Transition (LedgerState W E D) (W × Op E)) : Prop :=
  ∀ e ref row, t.label.2 = .complete → t.before.worker t.label.1 = .stored e ref →
    t.before.shared.row = some row → row.status = .completed → row.outputRef = some ref

/-- Shared states only gain information: completed rows and stored objects stay. -/
structure Extends (a b : Shared E D) : Prop where
  row : ∀ r, a.row = some r → r.status = .completed → b.row = some r
  store : ∀ d e, a.store d = some e → b.store d = some e

theorem Extends.refl (a : Shared E D) : Extends a a := ⟨fun _ h _ => h, fun _ _ h => h⟩

/-- What a worker's local values say about the shared state. -/
def WorkerOk (shared : Shared E D) : Worker E D → Prop
  | .hit ref => shared.row = some ⟨.completed, some ref⟩
  | .stored e ref => shared.store ref = some e
  | .returned e => ∃ ref, shared.row = some ⟨.completed, some ref⟩ ∧ shared.store ref = some e
  | _ => True

theorem WorkerOk.mono {a b : Shared E D} (hext : Extends a b) {p : Worker E D}
    (h : WorkerOk a p) : WorkerOk b p := by
  cases p with
  | hit ref => exact hext.row _ h rfl
  | stored e ref => exact hext.store _ _ h
  | returned e =>
    obtain ⟨ref, hrow, hstore⟩ := h
    exact ⟨ref, hext.row _ hrow rfl, hext.store _ _ hstore⟩
  | _ => trivial

section Proofs
variable [DecidableEq W] [DecidableEq D] {digest : E → D}

def StoreOk (digest : E → D) (shared : Shared E D) : Prop :=
  ∀ d e, shared.store d = some e → digest e = d

structure Consistent (digest : E → D) (s : LedgerState W E D) : Prop where
  store : StoreOk digest s.shared
  worker : ∀ w, WorkerOk s.shared (s.worker w)

theorem putObject_self (store : D → Option E) (e : E)
    (hinj : Function.Injective digest) (hstore : ∀ d e, store d = some e → digest e = d) :
    putObject store (digest e) e (digest e) = some e := by
  unfold putObject
  split
  · rename_i h
    obtain ⟨e', he'⟩ := Option.isSome_iff_exists.mp h
    rw [he', hinj (hstore _ _ he')]
  · exact Function.update_self ..

theorem putObject_extends (store : D → Option E) (d : D) (e : E) {d' : D} {e' : E}
    (h : store d' = some e') : putObject store d e d' = some e' := by
  unfold putObject
  split
  · exact h
  · rename_i hnone
    have hne : d' ≠ d := by
      rintro rfl
      exact hnone (by rw [h]; rfl)
    rw [Function.update_of_ne hne, h]

theorem putObject_ok (store : D → Option E) (e : E)
    (hstore : ∀ d e, store d = some e → digest e = d) {d : D} {e' : E}
    (h : putObject store (digest e) e d = some e') : digest e' = d := by
  unfold putObject at h
  split at h
  · exact hstore _ _ h
  · by_cases hd : d = digest e
    · subst hd
      rw [Function.update_self] at h
      cases h
      rfl
    · rw [Function.update_of_ne hd] at h
      exact hstore _ _ h

/-- One guarded operation keeps completed rows and stored objects, and leaves the
worker's local values true. -/
theorem advance_guarded (hinj : Function.Injective digest) {shared shared' : Shared E D}
    {p p' : Worker E D} {op : Op E} (hstore : StoreOk digest shared) (hp : WorkerOk shared p)
    (hguard : ∀ e ref row, op = .complete → p = .stored e ref → shared.row = some row →
      row.status = .completed → row.outputRef = some ref)
    (h : advance digest shared p op = some (shared', p')) :
    Extends shared shared' ∧ StoreOk digest shared' ∧ WorkerOk shared' p' := by
  unfold advance at h
  split at h
  · split at h <;> cases h
    · rename_i ref hrow
      exact ⟨.refl _, hstore, IntentRow.replayable_eq_some.mp hrow⟩
    · exact ⟨.refl _, hstore, trivial⟩
  · split at h <;> cases h
    · rename_i ref _ e he
      exact ⟨.refl _, hstore, ref, hp, he⟩
    · exact ⟨.refl _, hstore, trivial⟩
  · cases h
    refine ⟨⟨fun row hrow hc => ?_, fun _ _ h => h⟩, hstore, trivial⟩
    rw [hrow]
    exact congrArg some (IntentRow.prepare_of_completed hc)
  · cases h
    exact ⟨.refl _, hstore, trivial⟩
  · cases h
    exact ⟨.refl _, hstore, trivial⟩
  · cases h
    exact ⟨.refl _, hstore, trivial⟩
  · split at h <;> cases h
    · rename_i row hrow
      obtain ⟨_, old, hold, hpending⟩ := IntentRow.markUnknown_status hrow
      refine ⟨⟨fun r hr hc => ?_, fun _ _ h => h⟩, hstore, trivial⟩
      rw [hold] at hr
      cases hr
      rw [hpending] at hc
      cases hc
    · exact ⟨.refl _, hstore, trivial⟩
  · cases h
    rename_i e
    exact ⟨⟨fun _ h _ => h, fun _ _ h => putObject_extends _ _ _ h⟩,
      fun _ _ h => putObject_ok _ _ hstore h, putObject_self _ _ hinj hstore⟩
  · split at h <;> cases h
    · rename_i e ref _ row hrow
      cases hold : shared.row with
      | none =>
        rw [hold] at hrow
        cases hrow
      | some old =>
        rw [hold] at hrow
        cases hrow
        refine ⟨⟨fun r hr hc => ?_, fun _ _ h => h⟩, hstore, ref, rfl, hp⟩
        have hsame := hguard e ref r rfl rfl hr hc
        rcases r with ⟨status, outputRef⟩
        cases hc
        cases hsame
        rfl
    · exact ⟨.refl _, hstore, trivial⟩
  · cases h
  · cases h
  · cases h
    exact ⟨.refl _, hstore, trivial⟩
  · cases h

theorem guarded_step (hinj : Function.Injective digest) {s s' : LedgerState W E D}
    {l : W × Op E} (hs : Consistent digest s) (hguard : GuardedComplete ⟨s, l, s'⟩)
    (hstep : Step digest s l s') : Consistent digest s' ∧ Extends s.shared s'.shared := by
  obtain ⟨⟨shared', p'⟩, hadv, rfl⟩ := Option.map_eq_some_iff.mp hstep
  obtain ⟨hext, hstore, hp'⟩ := advance_guarded hinj hs.store (hs.worker l.1)
    (fun e ref row hop hp => hguard e ref row hop hp) hadv
  refine ⟨⟨hstore, fun w => ?_⟩, hext⟩
  by_cases hw : w = l.1
  · subst hw
    simpa only [Function.update_self] using hp'
  · simpa only [Function.update_of_ne hw] using (hs.worker w).mono hext

omit [DecidableEq W] [DecidableEq D] in
theorem consistent_initial : Consistent digest (initial : LedgerState W E D) :=
  ⟨fun _ _ h => (by cases h), fun _ => trivial⟩

theorem consistent_of_guarded (hinj : Function.Injective digest) {tr : History W E D}
    {s : LedgerState W E D} (hrun : Run (Step digest) initial tr s)
    (hguard : ∀ t ∈ tr, GuardedComplete t) :
    Consistent digest s ∧ ∀ t ∈ tr, Extends t.before.shared t.after.shared := by
  induction hrun with
  | nil => exact ⟨consistent_initial, fun _ h => (by cases h)⟩
  | snoc _ hstep ih =>
    obtain ⟨hprev, htr⟩ := ih fun t ht => hguard t (List.mem_cons_of_mem _ ht)
    obtain ⟨hnext, hext⟩ := guarded_step hinj hprev (hguard _ List.mem_cons_self) hstep
    exact ⟨hnext, List.forall_mem_cons.mpr ⟨hext, htr⟩⟩

theorem row_after_complete {s s' : LedgerState W E D} {w : W} {e : E} {ref : D}
    {row : IntentRow D} (hstep : Step digest s (w, .complete) s')
    (hw : s.worker w = .stored e ref) (hrow : s.shared.row = some row) :
    s'.shared.row = some ⟨.completed, some ref⟩ := by
  obtain ⟨out, hadv, rfl⟩ := Option.map_eq_some_iff.mp hstep
  simp only [hw, advance, hrow, IntentRow.complete, Option.some.injEq] at hadv
  rw [← hadv]

/-- In every interleaving, the ledger is safe exactly when no `complete` call meets a
row that another worker completed with a different output. -/
theorem ledgerSafe_iff_guarded (hinj : Function.Injective digest) {tr : History W E D}
    {s : LedgerState W E D} (hrun : Run (Step digest) initial tr s) :
    LedgerSafe tr s ↔ ∀ t ∈ tr, GuardedComplete t := by
  have hpairs := hrun.pairwise_visited_iff (R := RowKept) RowKept.trans
  constructor
  · rintro ⟨hstable, _⟩ t ht e ref row hop hw hrow hc
    obtain ⟨_, _, hstep⟩ := hrun.step_of_mem ht
    have hkept := hpairs.mp hstable t ht row hrow hc
    have hlabel : t.label = (t.label.1, .complete) := Prod.ext rfl hop
    rw [hlabel] at hstep
    have hnew := row_after_complete hstep hw hrow
    rw [hkept] at hnew
    cases hnew
    rfl
  · intro hguard
    obtain ⟨hcons, hext⟩ := consistent_of_guarded hinj hrun hguard
    refine ⟨hpairs.mpr fun t ht => (hext t ht).row, fun w e hw => ?_⟩
    have hok := hcons.worker w
    rw [hw] at hok
    exact hok

theorem step_of_map_step {s s' : LedgerState W E D} {a l : W × Op E}
    (h : (step digest s a).map (Prod.mk a) = some (l, s')) : Step digest s l s' := by
  obtain ⟨s'', hs, heq⟩ := Option.map_eq_some_iff.mp h
  cases heq
  exact hs

end Proofs

def twoMisses : List (Bool × Op Nat) :=
  [(false, .get), (true, .get), (false, .prepare), (true, .prepare),
   (false, .runHandler (.returned 0)), (false, .putJson), (false, .complete),
   (true, .runHandler (.returned 1)), (true, .putJson), (true, .complete)]

theorem exists_unsafe_interleaving :
    ∃ (tr : History Bool Nat Nat) (s : LedgerState Bool Nat Nat),
      Run (Step id) initial tr s ∧ ¬ LedgerSafe tr s := by
  obtain ⟨tr, s, hrun, hcheck⟩ := exists_run_of_replay
    (fun s a => (step id s a).map (Prod.mk a)) (fun _ _ _ _ => step_of_map_step)
    (initial : LedgerState Bool Nat Nat) twoMisses
    (fun out => out.2.worker false = .returned 0 ∧
      out.2.shared.row = some ⟨.completed, some 1⟩ ∧ out.2.shared.store 1 = some 1)
    (by decide +kernel)
  obtain ⟨hworker, hrow, hstore⟩ := of_decide_eq_true hcheck
  refine ⟨tr, s, hrun, ?_⟩
  rintro ⟨_, hreturned⟩
  obtain ⟨ref, hrow', hstore'⟩ := hreturned false 0 hworker
  rw [hrow] at hrow'
  cases hrow'
  rw [hstore] at hstore'
  cases hstore'

def missThenHit : List (Bool × Op Nat) :=
  [(false, .get), (false, .prepare), (false, .runHandler (.returned 0)), (false, .putJson),
   (false, .complete), (true, .get), (true, .read)]

theorem missThenHit_ledgerSafe :
    ∃ (tr : History Bool Nat Nat) (s : LedgerState Bool Nat Nat),
      Run (Step id) initial tr s ∧ s.worker true = .returned 0 ∧ LedgerSafe tr s := by
  obtain ⟨tr, s, hrun, hcheck⟩ := exists_run_of_replay
    (fun s a => (step id s a).map (Prod.mk a)) (fun _ _ _ _ => step_of_map_step)
    (initial : LedgerState Bool Nat Nat) missThenHit
    (fun out => out.2.worker true = .returned 0 ∧
      ∀ t ∈ out.1, t.label.2 = .complete → t.before.shared.row = some ⟨.pending, none⟩)
    (by decide +kernel)
  obtain ⟨hworker, hopen⟩ := of_decide_eq_true hcheck
  refine ⟨tr, s, hrun, hworker, (ledgerSafe_iff_guarded Function.injective_id hrun).mpr ?_⟩
  intro t ht e ref row hop _ hrow hc
  rw [hopen t ht hop] at hrow
  cases hrow
  cases hc

end ProductionOptimizer.LedgerConcurrency
