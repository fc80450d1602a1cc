import Mathlib.Data.List.Infix
import ProductionOptimizer.Handlers.ImplementPhase
import ProductionOptimizer.Library.Replacement
import ProductionOptimizer.RequestKeys

/-!
# The executors of S03.50

The agent loop runs one tool a step and looks where a path leads before it writes. The
deterministic sweep opens every authorized path as the plan spells it.
-/

namespace ProductionOptimizer.Executors
open RequestKeys (ModelMessage ModelCompletionRequest)
set_option autoImplicit false

/-! ### The disk -/

/-- The names from the top of the disk down. -/
abbrev Path := List String

/-- What does not change while a phase is executed. A link leads to a resolved path. -/
structure Disk where
  link : Path → Option Path
  readable : Path → Bool
  writable : Path → Bool

/-- The texts of the files and the directories, by their resolved path. -/
structure Tree where
  texts : Path → Option String
  isDir : Path → Bool

/-- The parts of a path: neither an empty one nor `.` is kept. -/
def names (path : String) : List String :=
  ((path.toList.splitOn '/').map String.ofList).filter fun name => name ≠ "" && name ≠ "."

/-- Where `root / path` starts: an absolute path replaces the root. -/
def start (root : Path) (path : String) : Path :=
  if path.toList.head? = some '/' then [] else root

section Disk
variable (disk : Disk)

def follow (place : Path) (name : String) : Path :=
  if name = ".." then place.dropLast
  else (disk.link (place ++ [name])).getD (place ++ [name])

/-- `(root / path).resolve()`. -/
def resolve (root : Path) (path : String) : Path :=
  (names path).foldl (follow disk) (start root path)

/-- Every name is looked up in a directory. -/
def walkable (tree : Tree) : Path → List String → Bool
  | _, [] => true
  | place, name :: rest => tree.isDir place && walkable tree (follow disk place name) rest

def Tree.exists (tree : Tree) (target : Path) : Bool :=
  tree.isDir target || (tree.texts target).isSome

/-- `(root / path).exists()`. -/
def pathExists (tree : Tree) (root : Path) (path : String) : Bool :=
  walkable disk tree (start root path) (names path) && tree.exists (resolve disk root path)

/-- `target.read_text()`; a directory or a file that may not be read is an `OSError`. -/
def readText (tree : Tree) (target : Path) : Option String :=
  if tree.isDir target || !disk.readable target then none else tree.texts target

/-- `target.write_text(content)`. -/
def writeText (tree : Tree) (target : Path) (content : String) : Option Tree :=
  if tree.isDir target || !disk.writable target then none
  else some { tree with texts := Function.update tree.texts target (some content) }

/-- `target.parent.mkdir(parents=True, exist_ok=True)`, which fails below a file. -/
def makeParents (tree : Tree) (target : Path) : Option Tree :=
  if target.dropLast.inits.any fun place => (tree.texts place).isSome then none
  else some { tree with isDir := fun place => tree.isDir place || place.isPrefixOf target.dropLast }

end Disk

/-! ### Tool calls -/

inductive Tool where
  | readFile
  | writeFile
  | runCommand
  | done
  deriving DecidableEq, Repr

structure ToolCallRecord where
  step : Nat
  tool : Tool
  path : Option String := none
  commandKind : Option CommandKind := none
  summary : String
  deriving DecidableEq, Repr

/-- A value of the parsed reply: any value that is not a text is known by `str` of it and by
its truth. -/
inductive Value where
  | null
  | text (s : String)
  | other (shown : String) (truthy : Bool)
  deriving DecidableEq, Repr

def Value.shown : Value → String
  | .null => "None"
  | .text s => s
  | .other shown _ => shown

/-- `str(value or "")`. -/
def Value.orEmpty : Value → String
  | .null => ""
  | .text s => s
  | .other shown truthy => if truthy then shown else ""

/-- What the loop reads of the parsed reply. -/
structure ToolCall where
  tool : Value
  path : Value
  content : Value
  summary : Value
  deriving DecidableEq, Repr

structure ModelCompletionResult where
  parsedJson : Option ToolCall
  validJson : Bool
  inputTokens : Nat
  outputTokens : Nat
  deriving DecidableEq, Repr

/-- Texts made by the standard library. -/
structure Texts where
  strip : String → String
  repr : String → String
  dumps : ToolCall → String
  osError : Path → String

/-- The model, and what the authorized command does to the files and prints, or why it could
not be run. -/
structure World where
  model : ModelCompletionRequest → ModelCompletionResult
  command : Nat → Tree → Tree × Except String String

def maxObservationChars : Nat := 8000

def truncated (text : String) : String := String.ofList (text.toList.take maxObservationChars)

/-- A contract error, or an error that nothing catches, ends the node. -/
inductive ToolOutcome where
  | answered (tree : Tree) (observation : String) (record : ToolCallRecord)
  | unknown
  | raised (tree : Tree)

section Tools
variable (texts : Texts) (world : World) (disk : Disk) (root : Path) (allowed : List String)
  (command : Option CommandKind)

def readFile (tree : Tree) (path : String) : String :=
  if path = "" then "error: read_file requires a path"
  else
    let target := resolve disk root path
    if !root.isPrefixOf target || !tree.exists target then
      "error: " ++ path ++ " does not exist inside the workspace"
    else
      match readText disk tree target with
      | some text => truncated text
      | none => "error: could not read " ++ path ++ ": " ++ texts.osError target

def pyList (items : List String) : String :=
  "[" ++ String.intercalate ", " (items.map texts.repr) ++ "]"

/-- The observation is missing where `write_text` raises on a content that is no text. -/
def writeFile (tree : Tree) (path : String) (content : Value) : Tree × Option String :=
  if path = "" then (tree, some "error: write_file requires a path")
  else if !allowed.contains path then
    (tree, some ("error: " ++ texts.repr path ++ " is outside this phase's authorized scope: " ++
      pyList texts (sortedSet allowed)))
  else if content = .null then (tree, some "error: write_file requires content")
  else
    let target := resolve disk root path
    if !root.isPrefixOf target then
      (tree, some ("error: " ++ path ++ " escapes the workspace"))
    else
      let failed := some ("error: could not write " ++ path ++ ": " ++ texts.osError target)
      match makeParents tree target with
      | none => (tree, failed)
      | some tree =>
        match content with
        | .text content =>
          match writeText disk tree target content with
          | none => (tree, failed)
          | some tree =>
            (tree, some ("ok: wrote " ++ toString content.length ++ " bytes to " ++ path))
        | _ => (tree, none)

def commandObservation : Except String String → String
  | .ok output => truncated output
  | .error exc => "error: command failed to run: " ++ exc

/-- `ToolCallRecord(...)`: texts are stripped, and the summary may not be empty. -/
def recorded (tree : Tree) (observation : String) (record : ToolCallRecord) : ToolOutcome :=
  let summary := texts.strip record.summary
  if summary = "" then .raised tree
  else .answered tree observation { record with path := record.path.map texts.strip, summary }

def orElse (summary fallback : String) : String := if summary = "" then fallback else summary

/-- `_run_tool`. A path that is neither a text nor missing fails in the tool or in the record. -/
def runTool (step : Nat) (tree : Tree) (call : ToolCall) : ToolOutcome :=
  let summary := call.summary.orEmpty
  if call.tool = .text "read_file" then
    match call.path with
    | .other _ _ => .raised tree
    | .null => recorded texts tree (readFile texts disk root tree "")
        ⟨step, .readFile, none, none, orElse summary "read None"⟩
    | .text path => recorded texts tree (readFile texts disk root tree path)
        ⟨step, .readFile, some path, none, orElse summary ("read " ++ path)⟩
  else if call.tool = .text "write_file" then
    match call.path with
    | .other _ _ => .raised tree
    | .null => recorded texts tree "error: write_file requires a path"
        ⟨step, .writeFile, none, none, orElse summary "wrote None"⟩
    | .text path =>
      match writeFile texts disk root allowed tree path call.content with
      | (tree, none) => .raised tree
      | (tree, some observation) => recorded texts tree observation
          ⟨step, .writeFile, some path, none, orElse summary ("wrote " ++ path)⟩
  else if call.tool = .text "run_command" then
    let record := ⟨step, .runCommand, none, command, orElse summary "ran the authorized command"⟩
    match command with
    | none => recorded texts tree "error: no command is authorized for this phase" record
    | some _ =>
      let ran := world.command step tree
      recorded texts ran.1 (commandObservation ran.2) record
  else .unknown

end Tools

/-! ### The agent loop -/

inductive StoppedReason where
  | done
  | invalidToolCall
  | unknownTool (tool : String)
  | budgetExhausted
  deriving DecidableEq, Repr

structure AgentLoopResult where
  toolCalls : List ToolCallRecord := []
  inputTokens : Nat := 0
  outputTokens : Nat := 0
  stoppedReason : StoppedReason := .done

/-- The loop between two steps. `made` are the replies of the model so far. -/
structure LoopState where
  tree : Tree
  messages : List ModelMessage
  result : AgentLoopResult := {}
  made : List ModelCompletionResult := []
  raised : Bool := false

section Loop
variable (texts : Texts) (world : World) (disk : Disk) (root : Path) (allowed : List String)
  (command : Option CommandKind) (caseId phaseId : String)

def request (step : Nat) (messages : List ModelMessage) : ModelCompletionRequest :=
  RequestKeys.build caseId (.step phaseId step, messages)

/-- The reply is counted before it is looked at. -/
def counted (s : LoopState) (completion : ModelCompletionResult) : LoopState :=
  { s with
    result := { s.result with
      inputTokens := s.result.inputTokens + completion.inputTokens
      outputTokens := s.result.outputTokens + completion.outputTokens }
    made := s.made ++ [completion] }

def LoopState.stopped (s : LoopState) (reason : StoppedReason) : LoopState :=
  { s with result := { s.result with stoppedReason := reason } }

def LoopState.record (s : LoopState) (record : ToolCallRecord) : LoopState :=
  { s with result := { s.result with toolCalls := s.result.toolCalls ++ [record] } }

/-- What follows the reply, and whether the loop goes on. -/
def react (step : Nat) (s : LoopState) (completion : ModelCompletionResult) : LoopState × Bool :=
  match completion.parsedJson with
  | none => (s.stopped .invalidToolCall, false)
  | some call =>
    if !completion.validJson then (s.stopped .invalidToolCall, false)
    else if call.tool = .text "done" then
      match recorded texts s.tree ""
          ⟨step, .done, none, none, orElse call.summary.orEmpty "executor signaled done"⟩ with
      | .answered _ _ record => ((s.record record).stopped .done, false)
      | _ => ({ s with raised := true }, false)
    else
      match runTool texts world disk root allowed command step s.tree call with
      | .unknown => (s.stopped (.unknownTool call.tool.shown), false)
      | .raised tree => ({ s with tree, raised := true }, false)
      | .answered tree observation record =>
        let s := { s.record record with tree }
        -- A message is stripped too, and may not be empty.
        if texts.strip observation = "" then ({ s with raised := true }, false)
        else
          ({ s with messages := s.messages ++
              [⟨.assistant, texts.dumps call⟩, ⟨.user, texts.strip observation⟩] }, true)

def turn (step : Nat) (s : LoopState) : LoopState × Bool :=
  let completion := world.model (request caseId phaseId step s.messages)
  react texts world disk root allowed command step (counted s completion) completion

/-- The loop with so many steps left. -/
def loop : Nat → Nat → LoopState → LoopState
  | 0, _, s => s.stopped .budgetExhausted
  | left + 1, step, s =>
    match turn texts world disk root allowed command caseId phaseId step s with
    | (s, true) => loop left (step + 1) s
    | (s, false) => s

def runAgentLoop (maxSteps : Nat) (messages : List ModelMessage) (tree : Tree) : LoopState :=
  loop texts world disk root allowed command caseId phaseId maxSteps 1 { tree, messages }

end Loop

/-! ### The deterministic sweep -/

structure PlanTreatment where
  before : String
  after : String

def replace (before after text : String) : String :=
  String.ofList (Replacement.replaceAll before.toList after.toList text.toList)

/-- `before and before in text`. -/
def PlanTreatment.applies (treatment : PlanTreatment) (text : String) : Bool :=
  treatment.before ≠ "" && treatment.before.toList <:+: text.toList

/-- The sweep between two paths. -/
structure SweepState where
  tree : Tree
  toolCalls : List ToolCallRecord := []

section Sweep
variable (texts : Texts) (disk : Disk) (root : Path) (treatment : PlanTreatment)

/-- One path of the sweep; nothing where an `OSError` ends it. -/
def sweepPath (s : SweepState) (path : String) : Option SweepState :=
  if !pathExists disk s.tree root path then some s
  else do
    let target := resolve disk root path
    let text ← readText disk s.tree target
    if treatment.applies text then
      let tree ← writeText disk s.tree target (replace treatment.before treatment.after text)
      some { tree, toolCalls := s.toolCalls ++ [
        ⟨s.toolCalls.length + 1, .writeFile, some (texts.strip path), none,
          "replaced " ++ texts.repr treatment.before ++ " with " ++
            texts.repr treatment.after⟩] }
    else some s

/-- The paths in turn, and whether the sweep was raised out of. -/
def sweepPaths : List String → SweepState → SweepState × Bool
  | [], s =>
    ({ s with toolCalls := s.toolCalls ++ [
        ⟨s.toolCalls.length + 1, .done, none, none, "deterministic config sweep complete"⟩] },
      false)
  | path :: rest, s =>
    match sweepPath texts disk root treatment s path with
    | none => (s, true)
    | some s => sweepPaths rest s

end Sweep

/-! ### S03.50 -/

/-- What an execution leaves behind. -/
structure Execution where
  tree : Tree
  toolCalls : List ToolCallRecord
  inputTokens : Nat
  outputTokens : Nat
  made : List ModelCompletionResult
  raised : Bool

section Execute
variable (texts : Texts) (world : World) (disk : Disk) (root : Path) (caseId : String)
  (context : PhaseContext) (treatment : PlanTreatment) (messages : List ModelMessage)
  (maxSteps : Nat) (tree : Tree)

def execute : ExecutorKind → Execution
  | .deterministicConfig =>
    let swept := sweepPaths texts disk root treatment context.allowedWritePaths { tree }
    ⟨swept.1.tree, swept.1.toolCalls, 0, 0, [], swept.2⟩
  | .llmDriven =>
    let s := runAgentLoop texts world disk root context.allowedWritePaths context.allowedCommand
      caseId context.phaseId maxSteps messages tree
    ⟨s.tree, s.result.toolCalls, s.result.inputTokens, s.result.outputTokens, s.made, s.raised⟩

end Execute

end ProductionOptimizer.Executors
