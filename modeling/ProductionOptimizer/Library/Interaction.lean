import Mathlib.Data.List.Basic

/-!
# Programs that call out

A program makes requests, goes on with whatever is answered, leaves records on its way and ends
in a value or an exception. A run is the list of its exchanges, the records and the outcome; the
answers are not restricted. Records outlive an exception, so that a handler can still read them.
-/

namespace Interaction
set_option autoImplicit false

variable {Q R O P E F α β ι : Type}

inductive Prog (Q R O E α : Type) where
  | done (out : Except E α)
  | call (q : Q) (next : R → Prog Q R O E α)
  | emit (o : O) (next : Prog Q R O E α)

namespace Prog

def raise (e : E) : Prog Q R O E α := .done (.error e)

def bind : Prog Q R O E α → (α → Prog Q R O E β) → Prog Q R O E β
  | .done (.ok a), f => f a
  | .done (.error e), _ => .done (.error e)
  | .call q next, f => .call q fun r => (next r).bind f
  | .emit o next, f => .emit o (next.bind f)

/-- Run a block to its end, whatever it is, and hand over what it recorded. -/
def recorded : Prog Q R O E α → List O → Prog Q R P F (List O × Except E α)
  | .done out, records => .done (.ok (records, out))
  | .call q next, records => .call q fun r => (next r).recorded records
  | .emit o next, records => next.recorded (records ++ [o])

def forEach (body : ι → Prog Q R O E Unit) : List ι → Prog Q R O E Unit
  | [] => .done (.ok ())
  | x :: xs => (body x).bind fun _ => forEach body xs

/-- The run against an environment that sees the exchanges so far. -/
def execute (answer : List (Q × R) → Q → R) :
    Prog Q R O E α → List (Q × R) → List (Q × R) × List O × Except E α
  | .done out, past => (past, [], out)
  | .call q next, past => (next (answer past q)).execute answer (past ++ [(q, answer past q)])
  | .emit o next, past =>
    let rest := next.execute answer past
    (rest.1, o :: rest.2.1, rest.2.2)

end Prog

inductive Runs : Prog Q R O E α → List (Q × R) → List O → Except E α → Prop where
  | done (out : Except E α) : Runs (.done out) [] [] out
  | call {q : Q} {next : R → Prog Q R O E α} {r : R} {calls : List (Q × R)} {records : List O}
      {out : Except E α} : Runs (next r) calls records out →
      Runs (.call q next) ((q, r) :: calls) records out
  | emit {o : O} {next : Prog Q R O E α} {calls : List (Q × R)} {records : List O}
      {out : Except E α} : Runs next calls records out →
      Runs (.emit o next) calls (o :: records) out

/-! ### Runs of composed programs -/

section Composed
variable {calls calls₁ calls₂ : List (Q × R)} {records records₁ records₂ : List O}
  {p : Prog Q R O E α}

theorem runs_done {out out' : Except E α} (h : Runs (.done out) calls records out') :
    calls = [] ∧ records = [] ∧ out' = out := by
  cases h
  exact ⟨rfl, rfl, rfl⟩

theorem runs_call {q : Q} {next : R → Prog Q R O E α} {out : Except E α}
    (h : Runs (.call q next) calls records out) :
    ∃ r rest, calls = (q, r) :: rest ∧ Runs (next r) rest records out := by
  cases h with
  | call h => exact ⟨_, _, rfl, h⟩

theorem runs_bind {f : α → Prog Q R O E β} {out : Except E β}
    (h : Runs (p.bind f) calls records out) :
    (∃ e, out = .error e ∧ Runs p calls records (.error e)) ∨
      ∃ a calls₁ calls₂ records₁ records₂, calls = calls₁ ++ calls₂ ∧
        records = records₁ ++ records₂ ∧ Runs p calls₁ records₁ (.ok a) ∧
        Runs (f a) calls₂ records₂ out := by
  induction p generalizing calls records with
  | done res =>
    cases res with
    | ok a => exact .inr ⟨a, [], calls, [], records, rfl, rfl, .done _, h⟩
    | error e =>
      obtain ⟨rfl, rfl, rfl⟩ := runs_done h
      exact .inl ⟨e, rfl, .done _⟩
  | call q next ih =>
    obtain ⟨r, rest, rfl, hnext⟩ := runs_call h
    rcases ih r hnext with ⟨e, rfl, hp⟩ | ⟨a, c₁, c₂, r₁, r₂, rfl, rfl, h₁, h₂⟩
    · exact .inl ⟨e, rfl, .call hp⟩
    · exact .inr ⟨a, _, c₂, r₁, r₂, rfl, rfl, .call h₁, h₂⟩
  | emit o next ih =>
    cases h with
    | emit hnext =>
      rcases ih hnext with ⟨e, rfl, hp⟩ | ⟨a, c₁, c₂, r₁, r₂, rfl, rfl, h₁, h₂⟩
      · exact .inl ⟨e, rfl, .emit hp⟩
      · exact .inr ⟨a, c₁, c₂, _, r₂, rfl, rfl, .emit h₁, h₂⟩

theorem runs_recorded {start : List O} {left : List P}
    {out : Except F (List O × Except E α)}
    (h : Runs (p.recorded start) calls left out) :
    left = [] ∧ ∃ records res, out = .ok (start ++ records, res) ∧ Runs p calls records res := by
  induction p generalizing start calls with
  | done res =>
    obtain ⟨rfl, rfl, rfl⟩ := runs_done h
    exact ⟨rfl, [], res, by rw [List.append_nil], .done _⟩
  | call q next ih =>
    obtain ⟨r, rest, rfl, hnext⟩ := runs_call h
    obtain ⟨rfl, records, res, rfl, hrun⟩ := ih r hnext
    exact ⟨rfl, records, res, rfl, .call hrun⟩
  | emit o next ih =>
    obtain ⟨rfl, records, res, rfl, hrun⟩ := ih h
    exact ⟨rfl, o :: records, res, by rw [List.append_assoc]; rfl, .emit hrun⟩

theorem exists_ok_of_any {out : Except E α} {p : α → Bool} (h : out.toOption.any p = true) :
    ∃ a, out = .ok a ∧ p a = true := by
  cases out with
  | error e => cases h
  | ok a => exact ⟨a, rfl, h⟩

/-- Every environment leads to a run. -/
theorem execute_runs (answer : List (Q × R) → Q → R) (p : Prog Q R O E α)
    (past : List (Q × R)) :
    ∃ calls, (p.execute answer past).1 = past ++ calls ∧
      Runs p calls (p.execute answer past).2.1 (p.execute answer past).2.2 := by
  induction p generalizing past with
  | done out => exact ⟨[], (List.append_nil past).symm, .done _⟩
  | call q next ih =>
    obtain ⟨calls, hcalls, hrun⟩ := ih (answer past q) (past ++ [(q, answer past q)])
    refine ⟨(q, answer past q) :: calls, ?_, .call hrun⟩
    rw [Prog.execute, hcalls, List.append_assoc]
    rfl
  | emit o next ih =>
    obtain ⟨calls, hcalls, hrun⟩ := ih past
    exact ⟨calls, hcalls, .emit hrun⟩

end Composed

/-! ### Scripts

A script makes its requests one after the other. The reaction to an answer is to stop with an
exception or to go on, with or without a record.
-/

structure Exchange (Q R O E : Type) where
  request : Q
  react : R → Except E (Option O)

namespace Exchange

def prog (x : Exchange Q R O E) : Prog Q R O E Unit :=
  .call x.request fun r =>
    match x.react r with
    | .error e => .raise e
    | .ok none => .done (.ok ())
    | .ok (some o) => .emit o (.done (.ok ()))

end Exchange

/-- What a run of a script may be: the exchanges until one stops it, or all of them. -/
inductive Played : List (Exchange Q R O E) → List (Q × R) → List O → Except E Unit → Prop where
  | nil : Played [] [] [] (.ok ())
  | stop {x : Exchange Q R O E} {xs : List (Exchange Q R O E)} {r : R} {e : E} :
      x.react r = .error e → Played (x :: xs) [(x.request, r)] [] (.error e)
  | go {x : Exchange Q R O E} {xs : List (Exchange Q R O E)} {r : R} {o : Option O}
      {calls : List (Q × R)} {records : List O} {out : Except E Unit} :
      x.react r = .ok o → Played xs calls records out →
      Played (x :: xs) ((x.request, r) :: calls) (o.toList ++ records) out

theorem Played.append_ok {xs ys : List (Exchange Q R O E)} {calls calls' : List (Q × R)}
    {records records' : List O} {out : Except E Unit} (h : Played xs calls records (.ok ()))
    (h' : Played ys calls' records' out) :
    Played (xs ++ ys) (calls ++ calls') (records ++ records') out := by
  generalize hout : Except.ok () = res at h
  induction h with
  | nil => exact h'
  | stop _ => cases hout
  | go hreact _ ih =>
    rw [List.append_assoc]
    exact .go hreact (ih hout)

theorem Played.append_error {xs ys : List (Exchange Q R O E)} {calls : List (Q × R)}
    {records : List O} {e : E} (h : Played xs calls records (.error e)) :
    Played (xs ++ ys) calls records (.error e) := by
  generalize hout : Except.error e = res at h
  induction h with
  | nil => cases hout
  | stop hreact =>
    cases hout
    exact .stop hreact
  | go hreact _ ih => exact .go hreact (ih hout)

/-- `p` behaves as the script `xs`. -/
def Scripted (p : Prog Q R O E Unit) (xs : List (Exchange Q R O E)) : Prop :=
  ∀ calls records out, Runs p calls records out → Played xs calls records out

namespace Scripted

theorem exchange (x : Exchange Q R O E) : Scripted x.prog [x] := by
  intro calls records out h
  obtain ⟨r, rest, rfl, hnext⟩ := runs_call h
  cases hreact : x.react r with
  | error e =>
    rw [hreact] at hnext
    obtain ⟨rfl, rfl, rfl⟩ := runs_done hnext
    exact .stop hreact
  | ok o =>
    rw [hreact] at hnext
    cases o with
    | none =>
      obtain ⟨rfl, rfl, rfl⟩ := runs_done hnext
      exact .go hreact .nil
    | some o =>
      cases hnext with
      | emit hdone =>
        obtain ⟨rfl, rfl, rfl⟩ := runs_done hdone
        exact .go hreact .nil

theorem done : Scripted (.done (.ok ()) : Prog Q R O E Unit) [] := by
  intro calls records out h
  obtain ⟨rfl, rfl, rfl⟩ := runs_done h
  exact .nil

theorem bind {p : Prog Q R O E Unit} {q : Unit → Prog Q R O E Unit}
    {xs ys : List (Exchange Q R O E)} (hp : Scripted p xs) (hq : Scripted (q ()) ys) :
    Scripted (p.bind q) (xs ++ ys) := by
  intro calls records out h
  rcases runs_bind h with ⟨e, rfl, h₁⟩ | ⟨_, c₁, c₂, r₁, r₂, rfl, rfl, h₁, h₂⟩
  · exact (hp _ _ _ h₁).append_error
  · exact (hp _ _ _ h₁).append_ok (hq _ _ _ h₂)

theorem forEach {body : ι → Prog Q R O E Unit} {f : ι → List (Exchange Q R O E)}
    (hbody : ∀ x, Scripted (body x) (f x)) :
    ∀ xs : List ι, Scripted (Prog.forEach body xs) (xs.flatMap f)
  | [] => done
  | x :: xs => bind (hbody x) (forEach hbody xs)

end Scripted

/-! ### What the exchanges of a played script were -/

namespace Played
variable {xs : List (Exchange Q R O E)} {calls : List (Q × R)} {records : List O}
  {out : Except E Unit}

theorem requests_initial (h : Played xs calls records out) :
    calls.map Prod.fst <+: xs.map Exchange.request := by
  induction h with
  | nil => exact List.prefix_rfl
  | @stop x xs r e _ => exact ⟨xs.map Exchange.request, rfl⟩
  | go _ _ ih => exact List.prefix_cons_inj _ |>.mpr ih

/-- Where another exchange follows, the one before was answered so as to go on. -/
theorem go_of_lt {i : Nat} (h : Played xs calls records out) (hi : i + 1 < calls.length) :
    ∃ x r o, xs[i]? = some x ∧ calls[i]? = some (x.request, r) ∧ x.react r = .ok o := by
  induction h generalizing i with
  | nil => cases hi
  | stop _ => simp at hi
  | @go x xs r o calls records out hreact _ ih =>
    cases i with
    | zero => exact ⟨x, r, o, rfl, rfl, hreact⟩
    | succ i =>
      have hi : i + 1 < calls.length := by simpa using hi
      obtain ⟨y, r', o', hy, hcall, hreact'⟩ := ih hi
      exact ⟨y, r', o', hy, hcall, hreact'⟩

/-- Every record is what some exchange made of its answer. -/
theorem record_of_mem {o : O} (h : Played xs calls records out) (ho : o ∈ records) :
    ∃ x ∈ xs, ∃ r, (x.request, r) ∈ calls ∧ x.react r = .ok (some o) := by
  induction h with
  | nil => cases ho
  | stop _ => cases ho
  | @go x xs r o' calls records out hreact _ ih =>
    rcases List.mem_append.mp ho with hnew | hold
    · rw [Option.mem_toList] at hnew
      subst hnew
      exact ⟨x, List.mem_cons_self, r, List.mem_cons_self, hreact⟩
    · obtain ⟨y, hy, r', hmem, hreact'⟩ := ih hold
      exact ⟨y, List.mem_cons_of_mem _ hy, r', List.mem_cons_of_mem _ hmem, hreact'⟩

theorem stop_of_error {e : E} (h : Played xs calls records (.error e)) :
    ∃ x ∈ xs, ∃ r, (x.request, r) ∈ calls ∧ x.react r = .error e := by
  generalize hout : Except.error e = res at h
  induction h with
  | nil => cases hout
  | @stop x xs r e' hreact =>
    cases hout
    exact ⟨x, List.mem_cons_self, r, List.mem_cons_self, hreact⟩
  | go _ _ ih =>
    obtain ⟨y, hy, r', hmem, hreact⟩ := ih hout
    exact ⟨y, List.mem_cons_of_mem _ hy, r', List.mem_cons_of_mem _ hmem, hreact⟩

/-- Where the records of each exchange carry the labels of the task it is for, the labels are those
of all tasks, or of the tasks before the one that stopped the script. -/
theorem labels {L : Type} {label : O → L} {labelsOf : ι → List L}
    {step : ι → Exchange Q R O E} {tasks : List ι}
    (hlabel : ∀ x ∈ tasks, ∀ r o, (step x).react r = .ok o → o.toList.map label = labelsOf x)
    (h : Played (tasks.map step) calls records out) :
    (out = .ok () ∧ records.map label = tasks.flatMap labelsOf) ∨
      ∃ e before x after, out = .error e ∧ tasks = before ++ x :: after ∧
        records.map label = before.flatMap labelsOf := by
  induction tasks generalizing calls records with
  | nil =>
    cases h
    exact .inl ⟨rfl, rfl⟩
  | cons x tasks ih =>
    cases h with
    | stop _ => exact .inr ⟨_, [], x, tasks, rfl, rfl, rfl⟩
    | @go _ _ r o _ _ _ hreact hrest =>
      rw [List.map_append, hlabel x List.mem_cons_self r o hreact]
      rcases ih (fun y hy => hlabel y (List.mem_cons_of_mem _ hy)) hrest with
        ⟨hout, hall⟩ | ⟨e, before, y, after, hout, rfl, hbefore⟩
      · exact .inl ⟨hout, by rw [hall]; rfl⟩
      · exact .inr ⟨e, x :: before, y, after, hout, rfl, by rw [hbefore]; rfl⟩

end Played

end Interaction
