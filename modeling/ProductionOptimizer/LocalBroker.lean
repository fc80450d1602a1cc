import ProductionOptimizer.Library.Runs
import ProductionOptimizer.Library.Tally

/-!
# The in-process worker broker

`LocalWorkerBroker` keeps one future for each job id. Its methods run on the threads of the
callers, and each is a few separate accesses to the dict of futures; the pool works on the futures
meanwhile. A method is modelled by the accesses it makes, so that the calls interleave.
-/

namespace ProductionOptimizer.LocalBroker
open Runs Tally
set_option autoImplicit false

/-! ### Futures -/

inductive Failure (F : Type) where
  | cancelled
  | raised (f : F)

inductive FutureState (R F : Type) where
  | pending
  | running
  | cancelled
  | finished (out : Except F R)

namespace FutureState
variable {R F : Type}

/-- `result()` of a future that is `done()`. -/
def outcome : FutureState R F → Option (Except (Failure F) R)
  | .pending | .running => none
  | .cancelled => some (.error .cancelled)
  | .finished (.ok r) => some (.ok r)
  | .finished (.error f) => some (.error (.raised f))

/-- `cancel()`: the answer and the state after it. -/
def cancel : FutureState R F → Bool × FutureState R F
  | .pending => (true, .cancelled)
  | .cancelled => (true, .cancelled)
  | .running => (false, .running)
  | .finished out => (false, .finished out)

end FutureState

structure Future (J R F : Type) where
  job : J
  state : FutureState R F

/-! ### The broker -/

/-- What a method has done so far and not finished. -/
inductive Op where
  | submitting (jobId : String) (future : Nat)
  | reconciling (jobId : String) (future : Nat)
  | cancelling (jobId : String) (future : Nat)
  deriving DecidableEq

def Op.jobId : Op → String
  | .submitting jobId _ | .reconciling jobId _ | .cancelling jobId _ => jobId

def Op.submitted : Op → Option Nat
  | .submitting _ n => some n
  | .reconciling _ _ | .cancelling _ _ => none

/-- `created` are the futures of the pool, in the order they were created, and `futures` is the
dict of the broker. -/
structure Broker (J R F : Type) where
  created : List (Future J R F) := []
  futures : List (String × Nat) := []
  inflight : List Op := []

inductive Label (J R F : Type) where
  | refuse (job : J)
  | enqueue (job : J)
  | track (jobId : String) (future : Nat) (replaced : Option Nat)
  | miss (jobId : String)
  | look (jobId : String)
  | giveUp (jobId : String)
  | take (jobId : String) (future : Nat) (out : Except (Failure F) R) (popped : Option Nat)
  | drop (jobId : String) (popped : Option Nat)
  | cancel (jobId : String) (answer : Bool)
  | start (future : Nat)
  | finish (future : Nat) (out : Except F R)

section Steps
variable {J R F : Type} (jobId : J → String) (capability : J → String)
  (capabilities : List String)

def Broker.setState (s : Broker J R F) (n : Nat) (state : FutureState R F) : Broker J R F :=
  { s with created := s.created.modify n fun future => { future with state } }

inductive Step : Broker J R F → Label J R F → Broker J R F → Prop where
  /-- `submit` of a job that no capability is for. -/
  | refuse {s : Broker J R F} {job : J} : capability job ∉ capabilities →
      Step s (.refuse job) s
  | enqueue {s : Broker J R F} {job : J} : capability job ∈ capabilities →
      Step s (.enqueue job)
        { s with
          created := s.created ++ [⟨job, .pending⟩]
          inflight := .submitting (jobId job) s.created.length :: s.inflight }
  | track {s : Broker J R F} {id : String} {n : Nat} : .submitting id n ∈ s.inflight →
      Step s (.track id n (s.futures.lookup id))
        { s with
          futures := put s.futures id n
          inflight := s.inflight.erase (.submitting id n) }
  /-- `reconcile` of an id without a future. -/
  | miss {s : Broker J R F} {id : String} : s.futures.lookup id = none → Step s (.miss id) s
  | look {s : Broker J R F} {id : String} {n : Nat} : s.futures.lookup id = some n →
      Step s (.look id) { s with inflight := .reconciling id n :: s.inflight }
  | giveUp {s : Broker J R F} {id : String} {n : Nat} {future : Future J R F} :
      .reconciling id n ∈ s.inflight → s.created[n]? = some future →
      future.state.outcome = none →
      Step s (.giveUp id) { s with inflight := s.inflight.erase (.reconciling id n) }
  | take {s : Broker J R F} {id : String} {n : Nat} {future : Future J R F}
      {out : Except (Failure F) R} : .reconciling id n ∈ s.inflight →
      s.created[n]? = some future → future.state.outcome = some out →
      Step s (.take id n out (s.futures.lookup id))
        { s with
          futures := pop s.futures id
          inflight := s.inflight.erase (.reconciling id n) }
  /-- The first half of `cancel`. -/
  | dropMiss {s : Broker J R F} {id : String} : s.futures.lookup id = none →
      Step s (.drop id none) s
  | drop {s : Broker J R F} {id : String} {n : Nat} : s.futures.lookup id = some n →
      Step s (.drop id (some n))
        { s with
          futures := pop s.futures id
          inflight := .cancelling id n :: s.inflight }
  | cancel {s : Broker J R F} {id : String} {n : Nat} {future : Future J R F} :
      .cancelling id n ∈ s.inflight → s.created[n]? = some future →
      Step s (.cancel id future.state.cancel.1)
        { s.setState n future.state.cancel.2 with
          inflight := s.inflight.erase (.cancelling id n) }
  | start {s : Broker J R F} {n : Nat} {job : J} : s.created[n]? = some ⟨job, .pending⟩ →
      Step s (.start n) (s.setState n .running)
  | finish {s : Broker J R F} {n : Nat} {job : J} {out : Except F R} :
      s.created[n]? = some ⟨job, .running⟩ →
      Step s (.finish n out) (s.setState n (.finished out))

end Steps

/-! ### Calls for one id that do not overlap -/

section Accounts
variable {J R F : Type} {jobId : J → String} {capability : J → String}
  {capabilities : List String} {s s' : Broker J R F} {l : Label J R F}
  {tr : List (Transition (Broker J R F) (Label J R F))}

/-- The job id of the method that a step is the beginning of. -/
def Label.begins (jobId : J → String) : Label J R F → Option String
  | .refuse job | .enqueue job => some (jobId job)
  | .miss id | .look id | .drop id _ => some id
  | .track _ _ _ | .giveUp _ | .take _ _ _ _ | .cancel _ _ | .start _ | .finish _ _ => none

/-- No method begins for an id while another one is under way for it. -/
def Serial (jobId : J → String) (tr : List (Transition (Broker J R F) (Label J R F))) : Prop :=
  ∀ t ∈ tr, ∀ id, t.label.begins jobId = some id → ∀ op ∈ t.before.inflight, op.jobId ≠ id

/-- The futures that leave the dict in a step: handed out, cancelled, or replaced by a later
submission of the same id. -/
def Label.handedOut : Label J R F → List Nat
  | .take _ n _ _ => [n]
  | _ => []

def Label.dropped : Label J R F → List Nat
  | .drop _ popped => popped.toList
  | _ => []

def Label.replaced : Label J R F → List Nat
  | .track _ _ replaced => replaced.toList
  | _ => []

def handedOut (tr : List (Transition (Broker J R F) (Label J R F))) : List Nat :=
  tr.flatMap (·.label.handedOut)

def dropped (tr : List (Transition (Broker J R F) (Label J R F))) : List Nat :=
  tr.flatMap (·.label.dropped)

def replaced (tr : List (Transition (Broker J R F) (Label J R F))) : List Nat :=
  tr.flatMap (·.label.replaced)

def Broker.tracked (s : Broker J R F) : List Nat := s.futures.map Prod.snd

def Broker.submitting (s : Broker J R F) : List Nat := s.inflight.filterMap Op.submitted

/-- What holds between calls that do not overlap. -/
structure Consistent (jobId : J → String) (s : Broker J R F) : Prop where
  keys : (s.futures.map Prod.fst).Nodup
  serial : (s.inflight.map Op.jobId).Nodup
  tracked : ∀ id n, (id, n) ∈ s.futures → ∃ future, s.created[n]? = some future ∧
    jobId future.job = id
  submitting : ∀ id n, .submitting id n ∈ s.inflight → ∃ future, s.created[n]? = some future ∧
    jobId future.job = id
  reconciling : ∀ id n, .reconciling id n ∈ s.inflight → s.futures.lookup id = some n

/-- Each future ever created is in one place. -/
def Balanced (tr : List (Transition (Broker J R F) (Label J R F))) (s : Broker J R F) : Prop :=
  ∀ n, (handedOut tr).count n + (dropped tr).count n + (replaced tr).count n +
    s.tracked.count n + s.submitting.count n = (List.range s.created.length).count n

/-- A future keeps its job, and its outcome once it has one. -/
structure Future.Extends (before after : Future J R F) : Prop where
  job : after.job = before.job
  outcome : ∀ out, before.state.outcome = some out → after.state.outcome = some out

theorem Future.Extends.refl (future : Future J R F) : future.Extends future :=
  ⟨rfl, fun _ h => h⟩

theorem cancel_extends (future : Future J R F) :
    future.Extends { future with state := future.state.cancel.2 } := by
  refine ⟨rfl, ?_⟩
  intro out hout
  obtain ⟨job, state⟩ := future
  cases state with
  | pending => cases hout
  | running => cases hout
  | cancelled => exact hout
  | finished _ => exact hout

/-- What a step does to the futures: it appends one, or one of them moves on. -/
theorem Step.created (h : Step jobId capability capabilities s l s') (n : Nat)
    (future : Future J R F) (hn : s.created[n]? = some future) :
    ∃ future', s'.created[n]? = some future' ∧ future.Extends future' := by
  have hset : ∀ m state, (∀ f, s.created[m]? = some f → f.Extends { f with state }) →
      ∃ future', (s.setState m state).created[n]? = some future' ∧ future.Extends future' := by
    intro m state hext
    unfold Broker.setState
    rw [List.getElem?_modify, hn]
    by_cases hm : m = n
    · subst hm
      exact ⟨{ future with state }, by simp, hext future hn⟩
    · exact ⟨future, by simp [hm], .refl future⟩
  cases h with
  | refuse _ | track _ | miss _ | look _ | giveUp _ _ _ | take _ _ _ | dropMiss _ | drop _ =>
    exact ⟨future, hn, .refl future⟩
  | enqueue _ =>
    obtain ⟨hlt, rfl⟩ := List.getElem?_eq_some_iff.mp hn
    refine ⟨_, ?_, .refl _⟩
    rw [List.getElem?_append_left hlt, hn]
  | @cancel id m f _ hm =>
    refine hset m f.state.cancel.2 ?_
    intro f' hf'
    cases hm.symm.trans hf'
    exact cancel_extends f
  | @start m job hm =>
    refine hset m .running ?_
    intro f hf
    cases hm.symm.trans hf
    exact ⟨rfl, fun _ hout => nomatch hout⟩
  | @finish m job out hm =>
    refine hset m (.finished out) ?_
    intro f hf
    cases hm.symm.trans hf
    exact ⟨rfl, fun _ hout => nomatch hout⟩

namespace Consistent

/-- Of two operations under way, the other one is for another id. -/
theorem jobId_ne (hs : Consistent jobId s) {op op' : Op} (hop : op ∈ s.inflight)
    (hop' : op' ∈ s.inflight.erase op) : op'.jobId ≠ op.jobId := by
  intro heq
  have hnodup : s.inflight.Nodup := List.Nodup.of_map _ hs.serial
  have hsame := List.inj_on_of_nodup_map hs.serial (List.mem_of_mem_erase hop') hop heq
  rw [hsame] at hop'
  exact hnodup.not_mem_erase hop'

theorem step (hs : Consistent jobId s) (h : Step jobId capability capabilities s l s')
    (hserial : ∀ id, l.begins jobId = some id → ∀ op ∈ s.inflight, op.jobId ≠ id) :
    Consistent jobId s' := by
  have hcreated := h.created
  have hkept : ∀ {id : String} {n : Nat},
      (∃ future : Future J R F, s.created[n]? = some future ∧ jobId future.job = id) →
      ∃ future : Future J R F, s'.created[n]? = some future ∧ jobId future.job = id := by
    rintro id n ⟨future, hn, hid⟩
    obtain ⟨future', hn', hext⟩ := hcreated n future hn
    exact ⟨future', hn', by rw [hext.job, hid]⟩
  have hfresh : ∀ {op : Op}, l.begins jobId = some op.jobId →
      ((op :: s.inflight).map Op.jobId).Nodup := by
    intro op hbegins
    refine List.nodup_cons.mpr ⟨?_, hs.serial⟩
    intro hmem
    obtain ⟨op', hop', heq⟩ := List.mem_map.mp hmem
    exact hserial _ hbegins op' hop' heq
  have herase : ∀ op : Op, ((s.inflight.erase op).map Op.jobId).Nodup := fun op =>
    hs.serial.sublist (List.erase_sublist.map _)
  cases h with
  | refuse _ | miss _ | dropMiss _ => exact hs
  | @enqueue job _ =>
    refine ⟨hs.keys, hfresh rfl, fun id n hn => hkept (hs.tracked id n hn), ?_, ?_⟩
    · intro id n hn
      rcases List.mem_cons.mp hn with heq | hn
      · cases heq
        exact ⟨⟨job, .pending⟩, by simp, rfl⟩
      · exact hkept (hs.submitting id n hn)
    · intro id n hn
      rcases List.mem_cons.mp hn with heq | hn
      · cases heq
      · exact hs.reconciling id n hn
  | @track id n hop =>
    refine ⟨keys_put hs.keys, herase _, ?_, ?_, ?_⟩
    · intro id' m hm
      rcases mem_put.mp hm with heq | ⟨hm, _⟩
      · cases heq
        exact hs.submitting id n hop
      · exact hs.tracked id' m hm
    · intro id' m hm
      exact hs.submitting id' m (List.mem_of_mem_erase hm)
    · intro id' m hm
      have hne : id' ≠ id := hs.jobId_ne hop hm
      have hmem := hs.reconciling id' m (List.mem_of_mem_erase hm)
      rw [lookup_eq_some_iff_mem hs.keys] at hmem
      exact (lookup_eq_some_iff_mem (keys_put hs.keys)).mpr (mem_put.mpr (.inr ⟨hmem, hne⟩))
  | @look id n hlookup =>
    refine ⟨hs.keys, hfresh rfl, hs.tracked, ?_, ?_⟩
    · intro id' m hm
      rcases List.mem_cons.mp hm with heq | hm
      · cases heq
      · exact hs.submitting id' m hm
    · intro id' m hm
      rcases List.mem_cons.mp hm with heq | hm
      · cases heq
        exact hlookup
      · exact hs.reconciling id' m hm
  | giveUp _ _ _ =>
    exact ⟨hs.keys, herase _, hs.tracked,
      fun id m hm => hs.submitting id m (List.mem_of_mem_erase hm),
      fun id m hm => hs.reconciling id m (List.mem_of_mem_erase hm)⟩
  | @take id n _ _ hop _ _ =>
    refine ⟨keys_pop hs.keys, herase _, fun id' m hm => hs.tracked id' m (mem_pop.mp hm).1,
      fun id' m hm => hs.submitting id' m (List.mem_of_mem_erase hm), ?_⟩
    intro id' m hm
    have hne : id' ≠ id := hs.jobId_ne hop hm
    have hmem := hs.reconciling id' m (List.mem_of_mem_erase hm)
    rw [lookup_eq_some_iff_mem hs.keys] at hmem
    exact (lookup_eq_some_iff_mem (keys_pop hs.keys)).mpr (mem_pop.mpr ⟨hmem, hne⟩)
  | @drop id n hlookup =>
    refine ⟨keys_pop hs.keys, hfresh rfl, fun id' m hm => hs.tracked id' m (mem_pop.mp hm).1,
      ?_, ?_⟩
    · intro id' m hm
      rcases List.mem_cons.mp hm with heq | hm
      · cases heq
      · exact hs.submitting id' m hm
    · intro id' m hm
      rcases List.mem_cons.mp hm with heq | hm
      · cases heq
      · have hne : id' ≠ id := hserial id rfl _ hm
        have hmem := hs.reconciling id' m hm
        rw [lookup_eq_some_iff_mem hs.keys] at hmem
        exact (lookup_eq_some_iff_mem (keys_pop hs.keys)).mpr (mem_pop.mpr ⟨hmem, hne⟩)
  | cancel _ _ =>
    exact ⟨hs.keys, herase _, fun id m hm => hkept (hs.tracked id m hm),
      fun id m hm => hkept (hs.submitting id m (List.mem_of_mem_erase hm)),
      fun id m hm => hs.reconciling id m (List.mem_of_mem_erase hm)⟩
  | start _ | finish _ =>
    exact ⟨hs.keys, hs.serial, fun id m hm => hkept (hs.tracked id m hm),
      fun id m hm => hkept (hs.submitting id m hm), hs.reconciling⟩

end Consistent

theorem count_submitted (op : Op) (ops : List Op) (k : Nat) :
    ((op :: ops).filterMap Op.submitted).count k =
      op.submitted.toList.count k + (ops.filterMap Op.submitted).count k := by
  rw [List.filterMap_cons]
  cases op.submitted with
  | none => simp
  | some n => simp [List.count_cons, Nat.add_comm]

theorem count_submitting {op : Op} (hop : op ∈ s.inflight) (k : Nat) :
    s.submitting.count k =
      op.submitted.toList.count k + ((s.inflight.erase op).filterMap Op.submitted).count k := by
  rw [← count_submitted]
  exact ((List.perm_cons_erase hop).filterMap Op.submitted).count_eq k

theorem count_pop (hs : Consistent jobId s) (id : String) (k : Nat) :
    s.tracked.count k =
      (s.futures.lookup id).toList.count k + ((pop s.futures id).map Prod.snd).count k := by
  unfold Broker.tracked
  cases hlookup : s.futures.lookup id with
  | none => simp [pop_eq_self hlookup]
  | some n =>
    rw [((perm_pop hs.keys hlookup).map Prod.snd).count_eq]
    simp [List.count_cons, Nat.add_comm]

theorem count_put (hs : Consistent jobId s) (id : String) (n k : Nat) :
    ((put s.futures id n).map Prod.snd).count k =
      [n].count k + ((pop s.futures id).map Prod.snd).count k := by
  rw [((perm_put hs.keys).map Prod.snd).count_eq]
  simp [List.count_cons, Nat.add_comm]

/-- What leaves the dict in a step is what the dict and the submissions under way lose. -/
theorem Step.balance (hs : Consistent jobId s) (h : Step jobId capability capabilities s l s')
    (k : Nat) :
    l.handedOut.count k + l.dropped.count k + l.replaced.count k + s'.tracked.count k +
        s'.submitting.count k + (List.range s.created.length).count k =
      s.tracked.count k + s.submitting.count k + (List.range s'.created.length).count k := by
  cases h with
  | refuse _ | miss _ | dropMiss _ =>
    simp [Label.handedOut, Label.dropped, Label.replaced]
  | @enqueue job _ =>
    have hsub := count_submitted (.submitting (jobId job) s.created.length) s.inflight k
    simp only [Broker.tracked, Broker.submitting, Label.handedOut, Label.dropped, Label.replaced,
      Op.submitted, Option.toList_some, List.count_nil, List.length_append, List.length_singleton,
      List.range_succ, List.count_append] at hsub ⊢
    omega
  | @track id n hop =>
    have hput := count_put hs id n k
    have hpop := count_pop hs id k
    have hsub := count_submitting hop k
    simp only [Broker.tracked, Broker.submitting, Label.handedOut, Label.dropped, Label.replaced,
      Op.submitted, Option.toList_some, List.count_nil] at *
    omega
  | @look id n _ =>
    have hsub := count_submitted (.reconciling id n) s.inflight k
    simp only [Broker.tracked, Broker.submitting, Label.handedOut, Label.dropped, Label.replaced,
      Op.submitted, Option.toList_none, List.count_nil] at hsub ⊢
    omega
  | @giveUp id n _ hop _ _ =>
    have hsub := count_submitting hop k
    simp only [Broker.tracked, Broker.submitting, Label.handedOut, Label.dropped, Label.replaced,
      Op.submitted, Option.toList_none, List.count_nil] at hsub ⊢
    omega
  | @take id n _ _ hop _ _ =>
    have hpop := count_pop hs id k
    have hsub := count_submitting hop k
    rw [hs.reconciling id n hop] at hpop
    simp only [Broker.tracked, Broker.submitting, Label.handedOut, Label.dropped, Label.replaced,
      Op.submitted, Option.toList_some, Option.toList_none, List.count_nil] at hpop hsub ⊢
    omega
  | @drop id n hlookup =>
    have hpop := count_pop hs id k
    have hsub := count_submitted (.cancelling id n) s.inflight k
    rw [hlookup] at hpop
    simp only [Broker.tracked, Broker.submitting, Label.handedOut, Label.dropped, Label.replaced,
      Op.submitted, Option.toList_some, Option.toList_none, List.count_nil] at hpop hsub ⊢
    omega
  | @cancel id n _ hop _ =>
    have hsub := count_submitting hop k
    simp only [Broker.tracked, Broker.submitting, Broker.setState, List.length_modify,
      Label.handedOut, Label.dropped, Label.replaced, Op.submitted, Option.toList_none,
      List.count_nil] at hsub ⊢
    omega
  | start _ | finish _ =>
    simp [Broker.tracked, Broker.submitting, Broker.setState, Label.handedOut, Label.dropped,
      Label.replaced]

theorem Balanced.step (hbalanced : Balanced tr s) (hs : Consistent jobId s)
    (h : Step jobId capability capabilities s l s') : Balanced (⟨s, l, s'⟩ :: tr) s' := by
  intro k
  have hk := hbalanced k
  have hstep := h.balance hs k
  simp only [handedOut, dropped, replaced, List.flatMap_cons, List.count_append] at hk ⊢
  omega

/-- What was handed out under an id is the outcome of a job of that id. -/
def Answered (jobId : J → String) (tr : List (Transition (Broker J R F) (Label J R F)))
    (s : Broker J R F) : Prop :=
  ∀ t ∈ tr, ∀ id n out popped, t.label = .take id n out popped →
    ∃ future, s.created[n]? = some future ∧ jobId future.job = id ∧
      future.state.outcome = some out

theorem Answered.step (hanswered : Answered jobId tr s) (hs : Consistent jobId s)
    (h : Step jobId capability capabilities s l s') : Answered jobId (⟨s, l, s'⟩ :: tr) s' := by
  intro t ht id n out popped hlabel
  have hbefore : ∃ future, s.created[n]? = some future ∧ jobId future.job = id ∧
      future.state.outcome = some out := by
    rcases List.mem_cons.mp ht with rfl | ht
    · cases hlabel
      cases h with
      | take hop hn hout =>
        obtain ⟨future, hn', hid⟩ := hs.tracked id n
          ((lookup_eq_some_iff_mem hs.keys).mp (hs.reconciling id n hop))
        cases hn.symm.trans hn'
        exact ⟨_, hn, hid, hout⟩
    · exact hanswered t ht id n out popped hlabel
  obtain ⟨future, hn, hid, hout⟩ := hbefore
  obtain ⟨future', hn', hext⟩ := h.created n future hn
  exact ⟨future', hn', by rw [hext.job, hid], hext.outcome out hout⟩

/-- In every interleaving in which the calls for one id do not overlap, each accepted submission is
in exactly one place: handed out once, dropped by a cancellation, replaced by a later submission of
its id, still in the dict, or about to enter it. What is handed out under an id is the outcome of a
job of that id. -/
theorem broker_accounts (h : Run (Step jobId capability capabilities) {} tr s)
    (hserial : Serial jobId tr) :
    (handedOut tr ++ dropped tr ++ replaced tr ++ s.tracked ++ s.submitting).Perm
        (List.range s.created.length) ∧
      ∀ t ∈ tr, ∀ id n out popped, t.label = .take id n out popped →
        ∃ future, s.created[n]? = some future ∧ jobId future.job = id ∧
          future.state.outcome = some out := by
  have hall : Consistent jobId s ∧ Balanced tr s ∧ Answered jobId tr s := by
    induction h with
    | nil =>
      refine ⟨⟨List.nodup_nil, List.nodup_nil, ?_, ?_, ?_⟩, fun k => rfl, ?_⟩
      · intro id n hn
        cases hn
      · intro id n hn
        cases hn
      · intro id n hn
        cases hn
      · intro t ht
        cases ht
    | snoc _ hstep ih =>
      obtain ⟨hs, hbalanced, hanswered⟩ := ih fun t ht => hserial t (List.mem_cons_of_mem _ ht)
      exact ⟨hs.step hstep (hserial _ List.mem_cons_self), hbalanced.step hs hstep,
        hanswered.step hs hstep⟩
  refine ⟨?_, hall.2.2⟩
  rw [List.perm_iff_count]
  intro k
  have hk := hall.2.1 k
  simp only [List.count_append]
  omega

end Accounts

/-! One job from its submission to the answer of `reconcile`. -/

def unitJob : String × String := ("case-1:A2.50:unit", "unit")

abbrev UnitStep :
    Broker (String × String) Nat Unit → Label (String × String) Nat Unit →
      Broker (String × String) Nat Unit → Prop :=
  Step Prod.fst Prod.snd ["unit"]

theorem sample_run : ∃ tr s, Run UnitStep {} tr s ∧ Serial Prod.fst tr ∧ handedOut tr = [0] := by
  have henqueue : UnitStep {} (.enqueue unitJob) _ := .enqueue (by decide)
  have hsubmitted := (Run.nil.snoc henqueue).snoc (.track List.mem_cons_self)
  have hstarted := hsubmitted.snoc (l := .start 0) (.start rfl)
  have hfinished := hstarted.snoc (l := .finish 0 (.ok 7)) (.finish rfl)
  have hseen := hfinished.snoc (l := .look "case-1:A2.50:unit") (.look (n := 0) rfl)
  refine ⟨_, _, hseen.snoc (.take (n := 0) List.mem_cons_self rfl rfl), ?_, rfl⟩
  intro t ht id hbegins op hop
  simp only [List.mem_cons, List.not_mem_nil, or_false] at ht
  rcases ht with rfl | rfl | rfl | rfl | rfl | rfl
  · cases hbegins
  · simp [Broker.setState] at hop
  · cases hbegins
  · cases hbegins
  · cases hbegins
  · cases hop

theorem sample_accounts : ∃ tr s, Run UnitStep {} tr s ∧ handedOut tr = [0] ∧
    (handedOut tr ++ dropped tr ++ replaced tr ++ s.tracked ++ s.submitting).Perm
      (List.range s.created.length) := by
  obtain ⟨tr, s, hrun, hserial, hout⟩ := sample_run
  exact ⟨tr, s, hrun, hout, (broker_accounts hrun hserial).1⟩

end ProductionOptimizer.LocalBroker
