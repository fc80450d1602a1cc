import ProductionOptimizer.Contracts.Nodes
import ProductionOptimizer.Library.Runs
import ProductionOptimizer.Library.Separated

/-!
# The keys of model requests

Nine nodes ask the model. The key of a request names the case, the node and what the node
puts into it: an attempt, a finding, a phase and a step. What the messages are made of is
longer: the strategy, the draft, the replies and the workspace.
-/

namespace ProductionOptimizer.RequestKeys
open Runs Separated
set_option autoImplicit false

/-! ### Keys -/

inductive FindingRepair where
  | none
  | schema
  | citations
  deriving DecidableEq, Repr

/-- What a node puts into the key. -/
inductive Key where
  | extract (attempt : Nat)
  | propose
  | findings (repair : FindingRepair)
  | judge (findingId : String)
  | strategies (attempt : Nat) (repair : Bool)
  | plan (repair : Bool)
  | critique (repair : Bool)
  | step (phaseId : String) (number : Nat)
  | narrate
  deriving DecidableEq, Repr

namespace Key

def node : Key → NodeId
  | .extract _ => ⟨.A1, 20⟩
  | .propose => ⟨.A2, 31⟩
  | .findings _ => ⟨.A3, 40⟩
  | .judge _ => ⟨.A3, 50⟩
  | .strategies _ _ => ⟨.A3, 60⟩
  | .plan _ => ⟨.S02, 30⟩
  | .critique _ => ⟨.S02, 80⟩
  | .step _ _ => ⟨.S03, 50⟩
  | .narrate => ⟨.S07, 70⟩

def promptVersion : Key → String
  | .extract _ => "a1-intent-extraction-v1"
  | .propose => "a2-command-proposal-v1"
  | .findings _ | .judge _ | .strategies _ _ => "a3-v1"
  | .plan _ | .critique _ => "s02-plan-v2"
  | .step _ _ => "s03-agent-loop-v2"
  | .narrate => "s07-narrative-v2"

def repairText (repair : Bool) : String := if repair then ":repair-1" else ""

/-- The key behind case and node. Only A1.20 leaves the prompt version out. -/
def tail : Key → String
  | .extract attempt => "extract:" ++ (attempt + 1).repr
  | .propose => "a2-command-proposal-v1"
  | .findings .none => "a3-v1"
  | .findings .schema => "a3-v1:repair-1"
  | .findings .citations => "a3-v1:repair-citations-1"
  | .judge findingId => findingId ++ ":a3-v1"
  | .strategies attempt repair => "attempt" ++ attempt.repr ++ ":a3-v1" ++ repairText repair
  | .plan repair => "s02-plan-v2" ++ repairText repair
  | .critique repair => "s02-plan-v2" ++ repairText repair
  | .step phaseId number => phaseId ++ ":s03-agent-loop-v2:step" ++ number.repr
  | .narrate => "s07-narrative-v2"

/-- `idempotency_key`. -/
def text (caseId : String) (key : Key) : String :=
  caseId ++ ":" ++ key.node.render ++ ":" ++ key.tail

end Key

/-! ### Requests -/

inductive Role where
  | system
  | user
  | assistant
  deriving DecidableEq, Repr

structure ModelMessage where
  role : Role
  content : String
  deriving DecidableEq, Repr

/-- The response schema is a constant of the node. -/
structure ModelCompletionRequest where
  idempotencyKey : String
  promptVersion : String
  messages : List ModelMessage
  responseSchema : NodeId
  deriving DecidableEq, Repr

/-- A reply of the agent and what its tool answered; anything but a tool call ends the
loop. -/
inductive Reply where
  | tool (call observation : String)
  | stop
  deriving DecidableEq, Repr

/-- One execution of a node with what it reads, and how the model replied as far as that
leads to a further request. -/
inductive Call where
  | extract (rawText : String) (invalid : Bool)
  | propose (context : String)
  | findings (context : String) (invalid : Bool) (citations : Option String)
  | judge (drafts : List (String × String))
  | strategies (attempt : Nat) (context : String) (invalid : Bool)
  | plan (context : String) (invalid : Bool)
  | critique (context : String) (invalid : Bool)
  | implement (phaseId context : String) (replies : List Reply)
  | narrate (facts : String)
  deriving DecidableEq, Repr

section Requests
variable (prompt : NodeId → String) (repairPrompt : NodeId → String)

def opening (node : NodeId) (context : String) : List ModelMessage :=
  [⟨.system, prompt node⟩, ⟨.user, context⟩]

/-- The second request of a node that repairs an invalid reply once. -/
def repaired (node : NodeId) (messages : List ModelMessage) : List ModelMessage :=
  messages ++ [⟨.user, repairPrompt node⟩]

/-- The loop of `run_agent_loop`. -/
def agentLoop (phaseId : String) :
    Nat → Nat → List ModelMessage → List Reply → List (Key × List ModelMessage)
  | 0, _, _, _ => []
  | fuel + 1, step, messages, replies =>
    (.step phaseId step, messages) ::
      match replies with
      | .tool call observation :: replies =>
        agentLoop phaseId fuel (step + 1)
          (messages ++ [⟨.assistant, call⟩, ⟨.user, observation⟩]) replies
      | _ => []

def maxSteps : Nat := 8

def withRepair (key : Bool → Key) (messages : List ModelMessage) (invalid : Bool) :
    List (Key × List ModelMessage) :=
  (key false, messages) ::
    if invalid then [(key true, repaired repairPrompt (key true).node messages)] else []

/-- What one execution asks, in order. -/
def asks : Call → List (Key × List ModelMessage)
  | .extract rawText invalid =>
    let messages := opening prompt ⟨.A1, 20⟩ rawText
    (.extract 0, messages) ::
      if invalid then [(.extract 1, repaired repairPrompt ⟨.A1, 20⟩ messages)] else []
  | .propose context => [(.propose, opening prompt ⟨.A2, 31⟩ context)]
  | .findings context invalid citations =>
    let messages := opening prompt ⟨.A3, 40⟩ context
    (.findings .none, messages) ::
      (if invalid then [(.findings .schema, repaired repairPrompt ⟨.A3, 40⟩ messages)] else []) ++
      (citations.map fun text => (.findings .citations, messages ++ [⟨.user, text⟩])).toList
  | .judge drafts =>
    drafts.map fun draft => (.judge draft.1, opening prompt ⟨.A3, 50⟩ draft.2)
  | .strategies attempt context invalid =>
    withRepair repairPrompt (.strategies attempt) (opening prompt ⟨.A3, 60⟩ context) invalid
  | .plan context invalid =>
    withRepair repairPrompt .plan (opening prompt ⟨.S02, 30⟩ context) invalid
  | .critique context invalid =>
    withRepair repairPrompt .critique (opening prompt ⟨.S02, 80⟩ context) invalid
  | .implement phaseId context replies =>
    agentLoop phaseId maxSteps 1 (opening prompt ⟨.S03, 50⟩ context) replies
  | .narrate facts => [(.narrate, opening prompt ⟨.S07, 70⟩ facts)]

def build (caseId : String) (ask : Key × List ModelMessage) : ModelCompletionRequest where
  idempotencyKey := ask.1.text caseId
  promptVersion := ask.1.promptVersion
  messages := ask.2
  responseSchema := ask.1.node

def requests (caseId : String) (call : Call) : List ModelCompletionRequest :=
  (asks prompt repairPrompt call).map (build caseId)

end Requests

/-! ### The calls of a case -/

structure CaseState where
  revisionPass : Nat := 0
  drafted : Option String := none
  calls : List Call := []

inductive Event where
  | call (call : Call)
  | revise

def Call.isStrategies : Call → Bool
  | .strategies .. => true
  | _ => false

/-- `A3.60` takes the pass from the state, and once more within a pass only from the same
findings; `A3.82` starts the next pass. The other nodes may run in any order and any number of
times, as redrafts, repairs, fallbacks and restarts make them. -/
inductive Step : CaseState → Event → CaseState → Prop where
  | draft {s : CaseState} {context : String} {invalid : Bool}
      (h : ∀ before ∈ s.drafted, before = context) :
      Step s (.call (.strategies s.revisionPass context invalid))
        { s with
          drafted := some context
          calls := .strategies s.revisionPass context invalid :: s.calls }
  | revise {s : CaseState} :
      Step s .revise { s with revisionPass := s.revisionPass + 1, drafted := none }
  | ask {s : CaseState} {call : Call} (h : call.isStrategies = false) :
      Step s (.call call) { s with calls := call :: s.calls }

/-- The turns of the agent before the loop ended. -/
def turns : List Reply → List (String × String)
  | .tool call observation :: replies => (call, observation) :: turns replies
  | _ => []

/-- Two executions that put the same into a key have read the same. -/
def Compatible : Call → Call → Prop
  | .extract rawText _, .extract rawText' _ => rawText = rawText'
  | .propose context, .propose context' => context = context'
  | .findings context _ citations, .findings context' _ citations' =>
    context = context' ∧ ∀ text ∈ citations, ∀ text' ∈ citations', text = text'
  | .judge drafts, .judge drafts' =>
    ∀ draft ∈ drafts, ∀ draft' ∈ drafts', draft.1 = draft'.1 → draft.2 = draft'.2
  | .strategies attempt context _, .strategies attempt' context' _ =>
    attempt = attempt' → context = context'
  | .plan context _, .plan context' _ => context = context'
  | .critique context _, .critique context' _ => context = context'
  | .implement phaseId context replies, .implement phaseId' context' replies' =>
    phaseId = phaseId' →
      context = context' ∧ (turns replies <+: turns replies' ∨ turns replies' <+: turns replies)
  | .narrate facts, .narrate facts' => facts = facts'
  | _, _ => True

/-- Nothing is asked of the execution of `A3.60`. -/
def Clear (s : CaseState) : Event → Prop
  | .revise => True
  | .call call =>
    call.isStrategies = true ∨ ∀ earlier ∈ call :: s.calls, Compatible earlier call

/-- A key identifies one request. -/
def Identifies (log : List ModelCompletionRequest) : Prop :=
  ∀ r ∈ log, ∀ r' ∈ log, r.idempotencyKey = r'.idempotencyKey →
    r.messages = r'.messages ∧ r.responseSchema = r'.responseSchema ∧
      r.promptVersion = r'.promptVersion

/-! ### The text of a key -/

theorem toList_text (caseId : String) (k : Key) :
    (k.text caseId).toList =
      caseId.toList ++ ':' :: (k.node.render.toList ++ ':' :: k.tail.toList) := by
  simp [Key.text]

theorem extract_tail_inj {n m : Nat} (h : (Key.extract n).tail = (Key.extract m).tail) :
    n = m := by
  have hrepr := toList_repr_injective (congrArg String.toList ((String.append_right_inj _).mp h))
  omega

theorem judge_tail_inj {a b : String} (h : (Key.judge a).tail = (Key.judge b).tail) : a = b :=
  (String.append_left_inj _).mp h

theorem strategies_tail_inj {n m : Nat} {b b' : Bool}
    (h : (Key.strategies n b).tail = (Key.strategies m b').tail) : n = m ∧ b = b' := by
  have hlist := congrArg String.toList h
  simp only [Key.tail, String.toList_append, List.append_assoc] at hlist
  have hcolon : ":a3-v1".toList = ':' :: "a3-v1".toList := by decide
  rw [hcolon, List.cons_append, List.cons_append] at hlist
  obtain ⟨hnumber, hrepair⟩ := append_cons_inj_first (notMem_repr n (Or.inr (Or.inr rfl)))
    (notMem_repr m (Or.inr (Or.inr rfl))) (List.append_cancel_left hlist)
  refine ⟨toList_repr_injective hnumber, ?_⟩
  revert hrepair
  cases b <;> cases b' <;> decide

theorem step_tail_inj {p q : String} {n m : Nat}
    (h : (Key.step p n).tail = (Key.step q m).tail) : p = q ∧ n = m := by
  have hlist := congrArg String.toList h
  simp only [Key.tail, String.toList_append, List.append_assoc] at hlist
  have hlast : ":s03-agent-loop-v2:step".toList = ":s03-agent-loop-v2:ste".toList ++ ['p'] := by
    decide
  rw [hlast] at hlist
  simp only [List.append_assoc, List.singleton_append] at hlist
  rw [← List.append_assoc, ← List.append_assoc] at hlist
  have hdigit : ∀ k : Nat, 'p' ∉ k.repr.toList := by
    intro k hmem
    rw [Nat.toList_repr] at hmem
    have hd := Nat.isDigit_of_mem_toDigits (Nat.zero_lt_succ 9) (Nat.le_refl 10) hmem
    exact absurd hd (by decide)
  obtain ⟨hphase, hnumber⟩ := append_cons_inj_last (hdigit n) (hdigit m) hlist
  exact ⟨String.toList_inj.mp (List.append_cancel_right hphase), toList_repr_injective hnumber⟩

theorem Key.text_injective {caseId : String} {k k' : Key} (h : k.text caseId = k'.text caseId) :
    k = k' := by
  have hlist := congrArg String.toList h
  rw [toList_text, toList_text] at hlist
  obtain ⟨hnode, htail⟩ := append_cons_inj_first (k.node.notMem_render (Or.inr rfl))
    (k'.node.notMem_render (Or.inr rfl)) (List.cons.inj (List.append_cancel_left hlist)).2
  replace hnode := NodeId.render_injective (String.toList_inj.mp hnode)
  replace htail := String.toList_inj.mp htail
  -- keys of different nodes differ in the node already
  cases k with
  | extract n =>
    cases k' <;> cases hnode
    rw [extract_tail_inj htail]
  | propose => cases k' <;> first | rfl | cases hnode
  | findings repair =>
    cases k' <;> cases hnode
    rename_i repair'
    revert htail
    cases repair <;> cases repair' <;> decide
  | judge id =>
    cases k' <;> cases hnode
    rw [judge_tail_inj htail]
  | strategies n repair =>
    cases k' <;> cases hnode
    obtain ⟨rfl, rfl⟩ := strategies_tail_inj htail
    rfl
  | plan repair =>
    cases k' <;> cases hnode
    rename_i repair'
    revert htail
    cases repair <;> cases repair' <;> decide
  | critique repair =>
    cases k' <;> cases hnode
    rename_i repair'
    revert htail
    cases repair <;> cases repair' <;> decide
  | step p n =>
    cases k' <;> cases hnode
    obtain ⟨rfl, rfl⟩ := step_tail_inj htail
    rfl
  | narrate => cases k' <;> first | rfl | cases hnode

/-! ### What a key says about the messages -/

section Messages
variable {prompt repairPrompt : NodeId → String}

def Call.node : Call → NodeId
  | .extract .. => ⟨.A1, 20⟩
  | .propose .. => ⟨.A2, 31⟩
  | .findings .. => ⟨.A3, 40⟩
  | .judge .. => ⟨.A3, 50⟩
  | .strategies .. => ⟨.A3, 60⟩
  | .plan .. => ⟨.S02, 30⟩
  | .critique .. => ⟨.S02, 80⟩
  | .implement .. => ⟨.S03, 50⟩
  | .narrate .. => ⟨.S07, 70⟩

def turnMessages (turn : String × String) : List ModelMessage :=
  [⟨.assistant, turn.1⟩, ⟨.user, turn.2⟩]

/-- The request of a step carries the turns before it. -/
theorem mem_agentLoop {phaseId : String} {a : Key × List ModelMessage} {fuel step : Nat}
    {messages : List ModelMessage} {replies : List Reply}
    (h : a ∈ agentLoop phaseId fuel step messages replies) :
    ∃ k ≤ (turns replies).length, a.1 = .step phaseId (step + k) ∧
      a.2 = messages ++ ((turns replies).take k).flatMap turnMessages := by
  induction fuel generalizing step messages replies with
  | zero => cases h
  | succ fuel ih =>
    have hfirst : a = (.step phaseId step, messages) → ∃ k ≤ (turns replies).length,
        a.1 = .step phaseId (step + k) ∧
          a.2 = messages ++ ((turns replies).take k).flatMap turnMessages := by
      intro ha
      subst ha
      exact ⟨0, Nat.zero_le _, rfl, by simp⟩
    match replies with
    | [] => exact hfirst (List.mem_singleton.mp h)
    | .stop :: replies => exact hfirst (List.mem_singleton.mp h)
    | .tool call observation :: replies =>
      rcases List.mem_cons.mp h with ha | h
      · exact hfirst ha
      · obtain ⟨k, hk, hkey, hmessages⟩ := ih h
        refine ⟨k + 1, Nat.succ_le_succ hk, ?_, ?_⟩
        · rw [hkey, Nat.add_assoc, Nat.add_comm 1 k]
        · rw [hmessages, turns, List.take_succ_cons, List.flatMap_cons, List.append_assoc]
          rfl

theorem mem_withRepair {key : Bool → Key} {messages : List ModelMessage} {invalid : Bool}
    {a : Key × List ModelMessage} (h : a ∈ withRepair repairPrompt key messages invalid) :
    a = (key false, messages) ∨ a = (key true, repaired repairPrompt (key true).node messages) := by
  rcases List.mem_cons.mp h with rfl | h
  · exact Or.inl rfl
  · split at h
    · exact Or.inr (List.mem_singleton.mp h)
    · cases h

theorem withRepair_unique {key : Bool → Key} (hkey : key false ≠ key true)
    {messages : List ModelMessage} {invalid invalid' : Bool} {a a' : Key × List ModelMessage}
    (ha : a ∈ withRepair repairPrompt key messages invalid)
    (ha' : a' ∈ withRepair repairPrompt key messages invalid') (h : a.1 = a'.1) : a.2 = a'.2 := by
  rcases mem_withRepair ha with rfl | rfl <;> rcases mem_withRepair ha' with rfl | rfl
  · rfl
  · exact absurd h hkey
  · exact absurd h.symm hkey
  · rfl

theorem mem_asks_extract {rawText : String} {invalid : Bool} {a : Key × List ModelMessage}
    (h : a ∈ asks prompt repairPrompt (.extract rawText invalid)) :
    a = (.extract 0, opening prompt ⟨.A1, 20⟩ rawText) ∨
      a = (.extract 1, repaired repairPrompt ⟨.A1, 20⟩ (opening prompt ⟨.A1, 20⟩ rawText)) := by
  rcases List.mem_cons.mp h with rfl | h
  · exact Or.inl rfl
  · split at h
    · exact Or.inr (List.mem_singleton.mp h)
    · cases h

theorem mem_asks_findings {context : String} {invalid : Bool} {citations : Option String}
    {a : Key × List ModelMessage}
    (h : a ∈ asks prompt repairPrompt (.findings context invalid citations)) :
    a = (.findings .none, opening prompt ⟨.A3, 40⟩ context) ∨
      a = (.findings .schema,
        repaired repairPrompt ⟨.A3, 40⟩ (opening prompt ⟨.A3, 40⟩ context)) ∨
      ∃ text ∈ citations,
        a = (.findings .citations, opening prompt ⟨.A3, 40⟩ context ++ [⟨.user, text⟩]) := by
  rcases List.mem_append.mp h with h | h
  · rcases List.mem_cons.mp h with rfl | h
    · exact Or.inl rfl
    · split at h
      · exact Or.inr (Or.inl (List.mem_singleton.mp h))
      · cases h
  · obtain ⟨text, htext, rfl⟩ := Option.map_eq_some_iff.mp (Option.mem_toList.mp h)
    exact Or.inr (Or.inr ⟨text, htext, rfl⟩)

theorem node_of_mem_asks {c : Call} {a : Key × List ModelMessage}
    (h : a ∈ asks prompt repairPrompt c) : a.1.node = c.node := by
  cases c with
  | extract rawText invalid => rcases mem_asks_extract h with rfl | rfl <;> rfl
  | propose context =>
    cases List.mem_singleton.mp h
    rfl
  | findings context invalid citations =>
    rcases mem_asks_findings h with rfl | rfl | ⟨text, -, rfl⟩ <;> rfl
  | judge drafts =>
    obtain ⟨draft, -, rfl⟩ := List.mem_map.mp h
    rfl
  | strategies attempt context invalid => rcases mem_withRepair h with rfl | rfl <;> rfl
  | plan context invalid => rcases mem_withRepair h with rfl | rfl <;> rfl
  | critique context invalid => rcases mem_withRepair h with rfl | rfl <;> rfl
  | implement phaseId context replies =>
    obtain ⟨k, -, hkey, -⟩ := mem_agentLoop h
    rw [hkey]
    rfl
  | narrate facts =>
    cases List.mem_singleton.mp h
    rfl

/-- Compatible executions give one content to one key. -/
theorem messages_unique {c c' : Call} (hcompatible : Compatible c c')
    {a a' : Key × List ModelMessage} (ha : a ∈ asks prompt repairPrompt c)
    (ha' : a' ∈ asks prompt repairPrompt c') (h : a.1 = a'.1) : a.2 = a'.2 := by
  have hnode : c.node = c'.node := by
    rw [← node_of_mem_asks ha, ← node_of_mem_asks ha', h]
  cases c with
  | extract rawText invalid =>
    cases c' <;> cases hnode
    cases hcompatible
    rcases mem_asks_extract ha with rfl | rfl <;> rcases mem_asks_extract ha' with rfl | rfl
    · rfl
    · cases h
    · cases h
    · rfl
  | propose context =>
    cases c' <;> cases hnode
    cases hcompatible
    cases List.mem_singleton.mp ha
    cases List.mem_singleton.mp ha'
    rfl
  | findings context invalid citations =>
    cases c' <;> cases hnode
    obtain ⟨rfl, hcitations⟩ := hcompatible
    rcases mem_asks_findings ha with rfl | rfl | ⟨text, htext, rfl⟩ <;>
      rcases mem_asks_findings ha' with rfl | rfl | ⟨text', htext', rfl⟩ <;>
      first | rfl | cases h
    rw [hcitations text htext text' htext']
  | judge drafts =>
    cases c' <;> cases hnode
    obtain ⟨draft, hdraft, rfl⟩ := List.mem_map.mp ha
    obtain ⟨draft', hdraft', rfl⟩ := List.mem_map.mp ha'
    rw [hcompatible draft hdraft draft' hdraft' (Key.judge.inj h)]
  | strategies attempt context invalid =>
    cases c' <;> cases hnode
    rename_i attempt' context' invalid'
    have hattempt : attempt = attempt' := by
      rcases mem_withRepair ha with rfl | rfl <;> rcases mem_withRepair ha' with rfl | rfl <;>
        exact (Key.strategies.inj h).1
    subst hattempt
    cases hcompatible rfl
    apply withRepair_unique _ ha ha' h
    intro hkey
    cases hkey
  | plan context invalid =>
    cases c' <;> cases hnode
    cases hcompatible
    apply withRepair_unique _ ha ha' h
    intro hkey
    cases hkey
  | critique context invalid =>
    cases c' <;> cases hnode
    cases hcompatible
    apply withRepair_unique _ ha ha' h
    intro hkey
    cases hkey
  | implement phaseId context replies =>
    cases c' <;> cases hnode
    obtain ⟨k, hk, hkey, hmessages⟩ := mem_agentLoop ha
    obtain ⟨k', hk', hkey', hmessages'⟩ := mem_agentLoop ha'
    rw [hkey, hkey'] at h
    obtain ⟨hphase, hstep⟩ := Key.step.inj h
    obtain ⟨rfl, hturns⟩ := hcompatible hphase
    have hsame : k = k' := by omega
    subst hsame
    rw [hmessages, hmessages']
    rcases hturns with hgrows | hgrows
    · obtain ⟨rest, hrest⟩ := hgrows
      rw [← hrest, List.take_append_of_le_length hk]
    · obtain ⟨rest, hrest⟩ := hgrows
      rw [← hrest, List.take_append_of_le_length hk']
  | narrate facts =>
    cases c' <;> cases hnode
    cases hcompatible
    cases List.mem_singleton.mp ha
    cases List.mem_singleton.mp ha'
    rfl

end Messages

/-! ### Runs -/

theorem Compatible.symm {c c' : Call} (h : Compatible c c') : Compatible c' c := by
  cases c <;> cases c' <;> try exact trivial
  case extract.extract => exact Eq.symm h
  case propose.propose => exact Eq.symm h
  case findings.findings =>
    exact ⟨h.1.symm, fun text htext text' htext' => (h.2 text' htext' text htext).symm⟩
  case judge.judge =>
    exact fun draft hdraft draft' hdraft' hid => (h draft' hdraft' draft hdraft hid.symm).symm
  case strategies.strategies => exact fun hattempt => (h hattempt.symm).symm
  case plan.plan => exact Eq.symm h
  case critique.critique => exact Eq.symm h
  case implement.implement => exact fun hphase => ⟨(h hphase.symm).1.symm, (h hphase.symm).2.symm⟩
  case narrate.narrate => exact Eq.symm h

/-- All executions so far are compatible, and no pass of A3 is ahead of the counter. -/
structure Separate (s : CaseState) : Prop where
  compatible : ∀ c ∈ s.calls, ∀ c' ∈ s.calls, Compatible c c'
  passes : ∀ attempt context invalid, Call.strategies attempt context invalid ∈ s.calls →
    attempt < s.revisionPass ∨ attempt = s.revisionPass ∧ s.drafted = some context

theorem separate_cons {s : CaseState} {call : Call}
    (hs : ∀ c ∈ s.calls, ∀ c' ∈ s.calls, Compatible c c')
    (hcall : ∀ earlier ∈ call :: s.calls, Compatible earlier call) :
    ∀ c ∈ call :: s.calls, ∀ c' ∈ call :: s.calls, Compatible c c' := by
  intro c hc c' hc'
  rcases List.mem_cons.mp hc' with rfl | hold'
  · exact hcall c hc
  · rcases List.mem_cons.mp hc with rfl | hold
    · exact (hcall c' hc').symm
    · exact hs c hold c' hold'

/-- The counter keeps the passes of A3 apart. -/
theorem strategies_compatible {s : CaseState} (hs : Separate s) {context : String}
    {invalid : Bool} (h : ∀ before ∈ s.drafted, before = context) :
    ∀ earlier ∈ .strategies s.revisionPass context invalid :: s.calls,
      Compatible earlier (.strategies s.revisionPass context invalid) := by
  intro earlier hearlier
  rcases List.mem_cons.mp hearlier with rfl | hearlier
  · intro _
    rfl
  · cases earlier with
    | strategies attempt context' invalid' =>
      intro hattempt
      rcases hs.passes attempt context' invalid' hearlier with hlt | ⟨-, hdrafted⟩
      · omega
      · exact h context' hdrafted
    | _ => exact trivial

theorem separate_step {s s' : CaseState} {event : Event} (hs : Separate s)
    (hclear : Clear s event) (hstep : Step s event s') : Separate s' := by
  cases hstep with
  | draft h =>
    refine ⟨separate_cons hs.compatible (strategies_compatible hs h), ?_⟩
    intro attempt context invalid hmem
    rcases List.mem_cons.mp hmem with hnew | hold
    · cases hnew
      exact Or.inr ⟨rfl, rfl⟩
    · rcases hs.passes attempt context invalid hold with hlt | ⟨heq, hdrafted⟩
      · exact Or.inl hlt
      · exact Or.inr ⟨heq, congrArg some (h context hdrafted).symm⟩
  | revise =>
    refine ⟨hs.compatible, ?_⟩
    intro attempt context invalid hmem
    rcases hs.passes attempt context invalid hmem with hlt | ⟨heq, -⟩
    · exact Or.inl (Nat.lt_succ_of_lt hlt)
    · exact Or.inl (by rw [heq]; exact Nat.lt_succ_self _)
  | @ask call hother =>
    have hcall : ∀ earlier ∈ call :: s.calls, Compatible earlier call := by
      rcases hclear with hstrategies | hcall
      · rw [hother] at hstrategies
        cases hstrategies
      · exact hcall
    refine ⟨separate_cons hs.compatible hcall, ?_⟩
    intro attempt context invalid hmem
    rcases List.mem_cons.mp hmem with hnew | hold
    · rw [← hnew] at hother
      cases hother
    · exact hs.passes attempt context invalid hold

theorem separate_of_run {s : CaseState} {tr : List (Transition CaseState Event)}
    (hrun : Run Step {} tr s) (hclear : ∀ t ∈ tr, Clear t.before t.label) : Separate s := by
  induction hrun with
  | nil => exact ⟨fun c hc => absurd hc List.not_mem_nil, fun _ _ _ h => absurd h List.not_mem_nil⟩
  | snoc hr hstep ih =>
    have hbefore := ih fun t ht => hclear t (List.mem_cons_of_mem _ ht)
    exact separate_step hbefore (hclear _ List.mem_cons_self) hstep

section Result
variable (prompt repairPrompt : NodeId → String) (caseId : String)

/-- Every request of a case so far. -/
def log (s : CaseState) : List ModelCompletionRequest :=
  s.calls.flatMap (requests prompt repairPrompt caseId)

theorem identifies_of_separate {s : CaseState} (hs : Separate s) :
    Identifies (log prompt repairPrompt caseId s) := by
  intro r hr r' hr' hkey
  obtain ⟨c, hc, hr⟩ := List.mem_flatMap.mp hr
  obtain ⟨c', hc', hr'⟩ := List.mem_flatMap.mp hr'
  obtain ⟨a, ha, rfl⟩ := List.mem_map.mp hr
  obtain ⟨a', ha', rfl⟩ := List.mem_map.mp hr'
  have hsame : a.1 = a'.1 := Key.text_injective hkey
  refine ⟨messages_unique (hs.compatible c hc c' hc') ha ha' hsame, ?_, ?_⟩
  · exact congrArg Key.node hsame
  · exact congrArg Key.promptVersion hsame

end Result

/-- Two passes of A3 and one plan. -/
def revisedCase : CaseState where
  revisionPass := 1
  drafted := some "Finding F2"
  calls := [.plan "Strategy: batch writes" false, .strategies 1 "Finding F2" false,
    .strategies 0 "Findings F1, F2" true]

theorem exists_run_revisedCase :
    ∃ tr, Run Step {} tr revisedCase ∧ ∀ t ∈ tr, Clear t.before t.label := by
  have hfirst : Step {} (.call (.strategies 0 "Findings F1, F2" true))
      ⟨0, some "Findings F1, F2", [.strategies 0 "Findings F1, F2" true]⟩ :=
    .draft fun _ h => by cases h
  have hsecond : Step ⟨1, none, [.strategies 0 "Findings F1, F2" true]⟩
      (.call (.strategies 1 "Finding F2" false))
      ⟨1, some "Finding F2",
        [.strategies 1 "Finding F2" false, .strategies 0 "Findings F1, F2" true]⟩ :=
    .draft fun _ h => by cases h
  refine ⟨_, (((Run.nil.snoc hfirst).snoc .revise).snoc hsecond).snoc (.ask rfl), ?_⟩
  simp only [List.forall_mem_cons, List.not_mem_nil, false_imp_iff, implies_true, and_true]
  refine ⟨Or.inr ?_, Or.inl rfl, trivial, Or.inl rfl⟩
  simp [Compatible]

/-- A plan for the strategy that was reverted and one for the fallback. -/
def fallbackCase : CaseState where
  calls := [.plan "Strategy: cache reads" false, .plan "Strategy: batch writes" false]

/-- A phase and its repair, in which the same call reads another file content. -/
def repairCase : CaseState where
  calls := [.implement "p1" "Phase p1" [.tool "read_file" "fixed"],
    .implement "p1" "Phase p1" [.tool "read_file" "original"]]

end ProductionOptimizer.RequestKeys
