import Mathlib.Data.Char
import ProductionOptimizer.Handlers.Executors
import ProductionOptimizer.TaskFiles

/-!
# Where the executors of S03.50 write

The agent loop never leaves the workspace, whatever the model asks for. The sweep leaves it with
a path of the plan that leads out: `..` inside a path survives the normaliser, and the check of
S02.81 does not look at a proposed creation.
-/

namespace ProductionOptimizer.Executors
open RequestKeys (ModelMessage)
set_option autoImplicit false

/-! ### The tools -/

/-- A file inside the workspace that an authorized path leads to. -/
def InScope (disk : Disk) (root : Path) (allowed : List String) (file : Path) : Prop :=
  root <+: file ∧ ∃ path ∈ allowed, file = resolve disk root path

/-- No run of the authorized command changes the file. -/
def Spared (world : World) (file : Path) : Prop :=
  ∀ step tree, (world.command step tree).1.texts file = tree.texts file

/-- The files a tool leaves. -/
def ToolOutcome.leaves (tree : Tree) : ToolOutcome → Tree
  | .answered after _ _ => after
  | .unknown => tree
  | .raised after => after

section Tools
variable {texts : Texts} {world : World} {disk : Disk} {root : Path} {allowed : List String}
  {command : Option CommandKind} {tree after : Tree} {target file : Path}

theorem writeText_texts {content : String} (h : writeText disk tree target content = some after) :
    after.texts = Function.update tree.texts target (some content) := by
  unfold writeText at h
  split at h
  · cases h
  · cases h
    rfl

theorem makeParents_texts (h : makeParents tree target = some after) :
    after.texts = tree.texts := by
  unfold makeParents at h
  split at h
  · cases h
  · cases h
    rfl

/-- `_write_file` changes the file its authorized path leads to, and only inside the root. -/
theorem writeFile_texts (texts : Texts) (tree : Tree) (path : String) (content : Value) :
    (writeFile texts disk root allowed tree path content).1.texts = tree.texts ∨
      ∃ target text, InScope disk root allowed target ∧
        (writeFile texts disk root allowed tree path content).1.texts =
          Function.update tree.texts target (some text) := by
  unfold writeFile
  dsimp only
  split
  · exact .inl rfl
  split
  · exact .inl rfl
  rename_i hallowed
  split
  · exact .inl rfl
  split
  · exact .inl rfl
  rename_i hinside
  have hscope : InScope disk root allowed (resolve disk root path) := by
    refine ⟨?_, path, by simpa using hallowed, rfl⟩
    exact List.isPrefixOf_iff_prefix.mp (by simpa using hinside)
  split
  · exact .inl rfl
  rename_i parents hparents
  have hsame := makeParents_texts hparents
  split
  · split
    · exact .inl hsame
    · rename_i text _ _ written hwritten
      right
      refine ⟨_, text, hscope, ?_⟩
      rw [← hsame]
      exact writeText_texts hwritten
  · exact .inl hsame

theorem leaves_recorded (observation : String) (record : ToolCallRecord) :
    (recorded texts after observation record).leaves tree = after := by
  unfold recorded
  dsimp only
  split <;> rfl

/-- A tool changes what the command changes, or a file in scope. -/
theorem runTool_texts (hspared : Spared world file) (step : Nat) (call : ToolCall)
    (hchanged : ((runTool texts world disk root allowed command step tree call).leaves tree).texts
      file ≠ tree.texts file) : InScope disk root allowed file := by
  unfold runTool at hchanged
  dsimp only at hchanged
  split at hchanged
  · -- read_file
    exfalso
    apply hchanged
    split
    · rfl
    · rw [leaves_recorded]
    · rw [leaves_recorded]
  split at hchanged
  · -- write_file
    split at hchanged
    · exact absurd rfl hchanged
    · rw [leaves_recorded] at hchanged
      exact absurd rfl hchanged
    · rename_i path _
      have htexts : (writeFile texts disk root allowed tree path call.content).1.texts file ≠
          tree.texts file := by
        split at hchanged
        · rename_i hwrite
          rw [hwrite]
          exact hchanged
        · rename_i hwrite
          rw [leaves_recorded] at hchanged
          rw [hwrite]
          exact hchanged
      rcases writeFile_texts texts tree path call.content with
        hsame | ⟨target, text, hscope, hupdate⟩
      · rw [hsame] at htexts
        exact absurd rfl htexts
      · rw [hupdate] at htexts
        by_cases heq : file = target
        · rw [heq]
          exact hscope
        · rw [Function.update_of_ne heq] at htexts
          exact absurd rfl htexts
  split at hchanged
  · -- run_command
    exfalso
    apply hchanged
    split
    · rw [leaves_recorded]
    · rw [leaves_recorded]
      exact hspared step tree
  · exact absurd rfl hchanged

theorem recorded_step {observation answer : String} {record kept : ToolCallRecord}
    (h : recorded texts tree observation record = .answered after answer kept) :
    kept.step = record.step := by
  unfold recorded at h
  dsimp only at h
  split at h
  · cases h
  · cases h
    rfl

theorem runTool_step {step : Nat} {call : ToolCall} {observation : String}
    {record : ToolCallRecord}
    (h : runTool texts world disk root allowed command step tree call =
      .answered after observation record) : record.step = step := by
  unfold runTool at h
  dsimp only at h
  split at h
  · split at h
    · cases h
    · exact recorded_step h
    · exact recorded_step h
  split at h
  · split at h
    · cases h
    · exact recorded_step h
    · split at h
      · cases h
      · exact recorded_step h
  split at h
  · split at h
    · exact recorded_step h
    · exact recorded_step h
  · cases h

end Tools

/-! ### The loop -/

section Loop
variable {texts : Texts} {world : World} {disk : Disk} {root : Path} {allowed : List String}
  {command : Option CommandKind} {caseId phaseId : String} {step : Nat} {s after : LoopState}

/-- What follows a reply: at most one record, of this step, and files in scope. -/
structure Reaction (world : World) (disk : Disk) (root : Path) (allowed : List String)
    (step : Nat) (s after : LoopState) : Prop where
  made : after.made = s.made
  inputTokens : after.result.inputTokens = s.result.inputTokens
  outputTokens : after.result.outputTokens = s.result.outputTokens
  toolCalls : after.result.toolCalls = s.result.toolCalls ∨
    ∃ record, record.step = step ∧ after.result.toolCalls = s.result.toolCalls ++ [record]
  files : ∀ file, Spared world file → after.tree.texts file ≠ s.tree.texts file →
    InScope disk root allowed file

theorem reaction_stopped (reason : StoppedReason) :
    Reaction world disk root allowed step s (s.stopped reason) :=
  ⟨rfl, rfl, rfl, .inl rfl, fun _ _ hchanged => absurd rfl hchanged⟩

theorem reaction_raised : Reaction world disk root allowed step s { s with raised := true } :=
  ⟨rfl, rfl, rfl, .inl rfl, fun _ _ hchanged => absurd rfl hchanged⟩

theorem reaction_react (texts : Texts) (world : World) (disk : Disk) (root : Path)
    (allowed : List String) (command : Option CommandKind) (step : Nat) (s : LoopState)
    (completion : ModelCompletionResult) :
    Reaction world disk root allowed step s
      (react texts world disk root allowed command step s completion).1 := by
  unfold react
  split
  · exact reaction_stopped _
  rename_i call _
  split
  · exact reaction_stopped _
  split
  · split
    · rename_i record hrecorded
      have hstep := recorded_step hrecorded
      exact ⟨rfl, rfl, rfl, .inr ⟨record, hstep, rfl⟩, fun _ _ hchanged => absurd rfl hchanged⟩
    · exact reaction_raised
  · have hfiles : ∀ tree,
        (runTool texts world disk root allowed command step s.tree call).leaves s.tree = tree →
          ∀ file, Spared world file → tree.texts file ≠ s.tree.texts file →
            InScope disk root allowed file := by
      rintro _ rfl file hspared hchanged
      exact runTool_texts hspared step call hchanged
    split
    · exact reaction_stopped _
    · rename_i tree hraised
      exact ⟨rfl, rfl, rfl, .inl rfl, hfiles tree (by rw [hraised]; rfl)⟩
    · rename_i tree observation record hanswered
      have hstep := runTool_step hanswered
      have htree := hfiles tree (by rw [hanswered]; rfl)
      dsimp only
      split
      · exact ⟨rfl, rfl, rfl, .inr ⟨record, hstep, rfl⟩, htree⟩
      · exact ⟨rfl, rfl, rfl, .inr ⟨record, hstep, rfl⟩, htree⟩

/-- The books of the loop after as many steps as replies were made. -/
structure Booked (s : LoopState) : Prop where
  ascending : (s.result.toolCalls.map (·.step)).Pairwise (· < ·)
  steps : ∀ record ∈ s.result.toolCalls, 1 ≤ record.step ∧ record.step ≤ s.made.length
  inputTokens : s.result.inputTokens = (s.made.map (·.inputTokens)).sum
  outputTokens : s.result.outputTokens = (s.made.map (·.outputTokens)).sum

theorem booked_reaction {completion : ModelCompletionResult} (h : Booked s)
    (hreact : Reaction world disk root allowed (s.made.length + 1) (counted s completion) after) :
    Booked after := by
  have hmade : after.made = s.made ++ [completion] := hreact.made
  have hlength : after.made.length = s.made.length + 1 := by rw [hmade, List.length_append]; rfl
  refine ⟨?_, ?_, ?_, ?_⟩
  · rcases hreact.toolCalls with hsame | ⟨record, hstep, happend⟩
    · rw [hsame]
      exact h.ascending
    · rw [happend, List.map_append, List.pairwise_append]
      refine ⟨h.ascending, List.pairwise_singleton _ _, ?_⟩
      intro earlier hearlier last hlast
      obtain ⟨kept, hkept, rfl⟩ := List.mem_map.mp hearlier
      have hle := (h.steps kept hkept).2
      rw [List.map_singleton, List.mem_singleton] at hlast
      omega
  · intro record hrecord
    rw [hlength]
    have hold : ∀ record ∈ s.result.toolCalls,
        1 ≤ record.step ∧ record.step ≤ s.made.length + 1 := by
      intro record hrecord
      have hkept := h.steps record hrecord
      omega
    rcases hreact.toolCalls with hsame | ⟨last, hstep, happend⟩
    · rw [hsame] at hrecord
      exact hold record hrecord
    · rw [happend] at hrecord
      rcases List.mem_append.mp hrecord with hrecord | hrecord
      · exact hold record hrecord
      · rw [List.mem_singleton] at hrecord
        rw [hrecord]
        omega
  · rw [hreact.inputTokens, hmade, List.map_append, List.sum_append, ← h.inputTokens]
    simp [counted]
  · rw [hreact.outputTokens, hmade, List.map_append, List.sum_append, ← h.outputTokens]
    simp [counted]

/-- A step with the number of the next reply keeps the books, and the files in scope. -/
theorem turn_spec (texts : Texts) (world : World) (disk : Disk) (root : Path)
    (allowed : List String) (command : Option CommandKind) (caseId phaseId : String)
    (h : Booked s) :
    let after := (turn texts world disk root allowed command caseId phaseId (s.made.length + 1) s).1
    Booked after ∧ after.made.length = s.made.length + 1 ∧
      ∀ file, Spared world file → after.tree.texts file ≠ s.tree.texts file →
        InScope disk root allowed file := by
  intro after
  let completion := world.model (request caseId phaseId (s.made.length + 1) s.messages)
  have hreact := reaction_react texts world disk root allowed command (s.made.length + 1)
    (counted s completion) completion
  have hmade : after.made = s.made ++ [completion] := hreact.made
  refine ⟨booked_reaction h hreact, ?_, hreact.files⟩
  rw [hmade, List.length_append]
  rfl

/-- A whole run keeps them, and asks the model as often as it has steps. -/
theorem loop_spec (texts : Texts) (world : World) (disk : Disk) (root : Path)
    (allowed : List String) (command : Option CommandKind) (caseId phaseId : String) (left : Nat)
    (h : Booked s) :
    let after := loop texts world disk root allowed command caseId phaseId left
      (s.made.length + 1) s
    Booked after ∧ after.made.length ≤ s.made.length + left ∧
      ∀ file, Spared world file → after.tree.texts file ≠ s.tree.texts file →
        InScope disk root allowed file := by
  induction left generalizing s with
  | zero =>
    refine ⟨⟨h.ascending, h.steps, h.inputTokens, h.outputTokens⟩, le_refl _, ?_⟩
    intro file _ hchanged
    exact absurd rfl hchanged
  | succ left ih =>
    obtain ⟨hbooked, hlength, hfiles⟩ := turn_spec texts world disk root allowed command caseId
      phaseId h
    unfold loop
    split
    · rename_i next hturn
      rw [hturn] at hbooked hlength hfiles
      obtain ⟨hlast, hcalls, hrest⟩ := ih hbooked
      rw [hlength] at hlast hcalls hrest
      refine ⟨hlast, hcalls.trans (by omega), ?_⟩
      intro file hspared hchanged
      by_cases hnext : next.tree.texts file = s.tree.texts file
      · apply hrest file hspared
        rw [hnext]
        exact hchanged
      · exact hfiles file hspared hnext
    · rename_i next hturn
      rw [hturn] at hbooked hlength hfiles
      exact ⟨hbooked, hlength.le.trans (by omega), hfiles⟩

end Loop

/-! ### What the sweep makes of a text -/

/-- The text of a file after one path of the sweep that leads to it. -/
def PlanTreatment.sweeps (treatment : PlanTreatment) (text : String) : String :=
  if treatment.applies text then replace treatment.before treatment.after text else text

section Texts
variable {treatment : PlanTreatment} {text : String}

theorem applies_iff : treatment.applies text = true ↔
    treatment.before ≠ "" ∧ treatment.before.toList <:+: text.toList := by
  unfold PlanTreatment.applies
  simp

theorem sweeps_eq_replace (h : treatment.before ≠ "") :
    treatment.sweeps = replace treatment.before treatment.after := by
  funext text
  unfold PlanTreatment.sweeps
  split
  · rfl
  · rename_i happlies
    have habsent : ¬ treatment.before.toList <:+: text.toList := by
      intro hoccurs
      exact happlies (applies_iff.mpr ⟨h, hoccurs⟩)
    unfold replace
    rw [Replacement.replaceAll_of_absent habsent, String.ofList_toList]

theorem toList_iterate_replace (before after : String) (n : Nat) (text : String) :
    ((replace before after)^[n] text).toList =
      (Replacement.replaceAll before.toList after.toList)^[n] text.toList := by
  induction n generalizing text with
  | zero => rfl
  | succ n ih =>
    rw [Function.iterate_succ_apply, Function.iterate_succ_apply, ih]
    unfold replace
    rw [String.toList_ofList]

theorem toList_ne_nil (h : treatment.before ≠ "") : treatment.before.toList ≠ [] := by
  intro hnil
  exact h (String.toList_injective hnil)

/-- However many paths lead to a file, it changes exactly when the treatment applies to it and is
a change. -/
theorem iterate_sweeps_ne_iff (n : Nat) :
    treatment.sweeps^[n + 1] text ≠ text ↔
      treatment.applies text = true ∧ treatment.before ≠ treatment.after := by
  by_cases happlies : treatment.applies text = true
  · obtain ⟨hne, hoccurs⟩ := applies_iff.mp happlies
    rw [sweeps_eq_replace hne]
    constructor
    · intro hchanged
      refine ⟨happlies, ?_⟩
      intro hsame
      apply hchanged
      apply Function.iterate_fixed
      unfold replace
      rw [← hsame, Replacement.replaceAll_same (toList_ne_nil hne), String.ofList_toList]
    · rintro ⟨-, hdiffer⟩ hback
      have hlists : treatment.before.toList ≠ treatment.after.toList := by
        intro heq
        exact hdiffer (String.toList_injective heq)
      apply Replacement.iterate_ne (toList_ne_nil hne) hlists hoccurs n
      rw [← toList_iterate_replace, hback]
  · have hfixed : treatment.sweeps text = text := if_neg happlies
    rw [Function.iterate_fixed hfixed]
    simp [happlies]

end Texts

/-! ### The sweep -/

section Sweep
variable {texts : Texts} {disk : Disk} {root : Path} {treatment : PlanTreatment}

/-- The paths at which an `OSError` ends the sweep. -/
def refused (disk : Disk) (root : Path) (treatment : PlanTreatment) (tree : Tree)
    (path : String) : Bool :=
  pathExists disk tree root path &&
    match readText disk tree (resolve disk root path) with
    | none => true
    | some text => treatment.applies text && !disk.writable (resolve disk root path)

/-- The path leads to the file. -/
def hits (disk : Disk) (root : Path) (tree : Tree) (file : Path) (path : String) : Bool :=
  pathExists disk tree root path && resolve disk root path == file

/-- The two trees have the same directories and files, and differ in writable files only. -/
structure Shape (disk : Disk) (tree after : Tree) : Prop where
  isDir : after.isDir = tree.isDir
  present : ∀ file, (after.texts file).isSome = (tree.texts file).isSome
  kept : ∀ file, disk.writable file = false → after.texts file = tree.texts file

variable {tree after : Tree}

theorem walkable_congr (h : after.isDir = tree.isDir) (place : Path) (parts : List String) :
    walkable disk after place parts = walkable disk tree place parts := by
  induction parts generalizing place with
  | nil => rfl
  | cons name rest ih => rw [walkable, walkable, h, ih]

theorem pathExists_congr (h : Shape disk tree after) (path : String) :
    pathExists disk after root path = pathExists disk tree root path := by
  unfold pathExists Tree.exists
  rw [walkable_congr h.isDir, h.isDir, h.present]

theorem hits_congr (h : Shape disk tree after) (file : Path) (path : String) :
    hits disk root after file path = hits disk root tree file path := by
  unfold hits
  rw [pathExists_congr h]

theorem refused_congr (h : Shape disk tree after) (path : String) :
    refused disk root treatment after path = refused disk root treatment tree path := by
  unfold refused
  rw [pathExists_congr h]
  by_cases hwritable : disk.writable (resolve disk root path) = true
  · -- Only the presence of the text counts.
    have hpresent := h.present (resolve disk root path)
    unfold readText
    rw [h.isDir]
    by_cases hclosed :
        (tree.isDir (resolve disk root path) || !disk.readable (resolve disk root path)) = true
    · rw [if_pos hclosed, if_pos hclosed]
    · rw [if_neg hclosed, if_neg hclosed]
      cases hafter : after.texts (resolve disk root path) with
      | none =>
        rw [hafter, Option.isSome_none, eq_comm, Option.isSome_eq_false_iff,
          Option.isNone_iff_eq_none] at hpresent
        rw [hpresent]
      | some text =>
        rw [hafter, Option.isSome_some, eq_comm, Option.isSome_iff_exists] at hpresent
        obtain ⟨old, hold⟩ := hpresent
        rw [hold]
        simp [hwritable]
  · have hkept := h.kept (resolve disk root path) (by simpa using hwritable)
    unfold readText
    rw [h.isDir, hkept]

theorem readText_some {target : Path} {text : String} (h : readText disk tree target = some text) :
    tree.texts target = some text ∧ tree.isDir target = false := by
  unfold readText at h
  split at h
  · cases h
  · rename_i hopen
    simp only [Bool.or_eq_true, not_or, Bool.not_eq_true] at hopen
    exact ⟨h, hopen.1⟩

theorem writeText_some {target : Path} {content : String}
    (h : writeText disk tree target content = some after) :
    disk.writable target = true ∧ after.isDir = tree.isDir := by
  unfold writeText at h
  split at h
  · cases h
  · rename_i hopen
    cases h
    refine ⟨?_, rfl⟩
    simp only [Bool.or_eq_true, not_or, Bool.not_eq_true'] at hopen
    simpa using hopen.2

theorem shape_refl (tree : Tree) : Shape disk tree tree :=
  ⟨rfl, fun _ => rfl, fun _ _ => rfl⟩

theorem shape_write {target : Path} {old content : String} (hold : tree.texts target = some old)
    (h : writeText disk tree target content = some after) : Shape disk tree after := by
  obtain ⟨hwritable, hdirs⟩ := writeText_some h
  have htexts := writeText_texts h
  refine ⟨hdirs, ?_, ?_⟩
  · intro file
    rw [htexts]
    by_cases heq : file = target
    · rw [heq, Function.update_self, hold]
      rfl
    · rw [Function.update_of_ne heq]
  · intro file hlocked
    rw [htexts, Function.update_of_ne]
    rintro rfl
    rw [hwritable] at hlocked
    cases hlocked

theorem sweepPath_none {s : SweepState} {path : String}
    (h : sweepPath texts disk root treatment s path = none) :
    refused disk root treatment s.tree path = true := by
  unfold sweepPath at h
  unfold refused
  split at h
  · cases h
  · rename_i hexists
    rw [Bool.not_eq_true', Bool.not_eq_false] at hexists
    rw [hexists, Bool.true_and]
    cases hread : readText disk s.tree (resolve disk root path) with
    | none => rfl
    | some text =>
      simp only [hread, Option.bind_eq_bind, Option.bind_some] at h
      split at h
      · rename_i happlies
        rw [Option.bind_eq_none_iff] at h
        have hwrite : writeText disk s.tree (resolve disk root path)
            (replace treatment.before treatment.after text) = none := by
          by_contra hne
          obtain ⟨written, hwritten⟩ := Option.ne_none_iff_exists'.mp hne
          cases h written hwritten
        unfold writeText at hwrite
        rw [(readText_some hread).2, Bool.false_or] at hwrite
        split at hwrite
        · rename_i hlocked
          simp only [happlies, hlocked, Bool.and_self]
        · cases hwrite
      · cases h

theorem sweepPath_some {s next : SweepState} {path : String}
    (h : sweepPath texts disk root treatment s path = some next) :
    refused disk root treatment s.tree path = false ∧ Shape disk s.tree next.tree ∧
      ∀ file, next.tree.texts file =
        if hits disk root s.tree file path then (s.tree.texts file).map treatment.sweeps
        else s.tree.texts file := by
  unfold sweepPath at h
  unfold refused hits
  split at h
  · rename_i hmissing
    rw [Bool.not_eq_true'] at hmissing
    cases h
    rw [hmissing]
    exact ⟨rfl, shape_refl _, fun file => rfl⟩
  · rename_i hexists
    rw [Bool.not_eq_true', Bool.not_eq_false] at hexists
    rw [hexists]
    cases hread : readText disk s.tree (resolve disk root path) with
    | none =>
      simp only [hread, Option.bind_eq_bind, Option.bind_none] at h
      cases h
    | some text =>
      have htext := (readText_some hread).1
      simp only [hread, Option.bind_eq_bind, Option.bind_some] at h
      split at h
      · rename_i happlies
        obtain ⟨written, hwrite, hnext⟩ := Option.bind_eq_some_iff.mp h
        cases hnext
        obtain ⟨hwritable, -⟩ := writeText_some hwrite
        refine ⟨by simp [hwritable], shape_write htext hwrite, ?_⟩
        intro file
        rw [writeText_texts hwrite]
        by_cases heq : resolve disk root path = file
        · have hsweeps : treatment.sweeps text =
              replace treatment.before treatment.after text := if_pos happlies
          subst heq
          simp [htext, hsweeps]
        · rw [Function.update_of_ne (Ne.symm heq)]
          simp [heq]
      · rename_i happlies
        cases h
        refine ⟨by simp [happlies], shape_refl _, ?_⟩
        intro file
        have hsweeps : treatment.sweeps text = text := if_neg happlies
        by_cases heq : resolve disk root path = file
        · subst heq
          simp [htext, hsweeps]
        · simp [heq]

/-- The paths before the one that ends the sweep. -/
def reached (disk : Disk) (root : Path) (treatment : PlanTreatment) (tree : Tree)
    (paths : List String) : List String :=
  paths.takeWhile (!refused disk root treatment tree ·)

theorem reached_congr (h : Shape disk tree after) (paths : List String) :
    reached disk root treatment after paths = reached disk root treatment tree paths := by
  unfold reached
  congr 1
  funext path
  rw [refused_congr h]

/-- Every file is swept once for each reached path that leads to it. -/
theorem sweepPaths_texts (texts : Texts) (paths : List String) (s : SweepState) (file : Path) :
    (sweepPaths texts disk root treatment paths s).1.tree.texts file =
      (s.tree.texts file).map (treatment.sweeps^[((reached disk root treatment s.tree paths).filter
        (hits disk root s.tree file)).length]) := by
  induction paths generalizing s with
  | nil =>
    show s.tree.texts file = (s.tree.texts file).map id
    rw [Option.map_id_fun, id]
  | cons path rest ih =>
    unfold sweepPaths reached
    cases hpath : sweepPath texts disk root treatment s path with
    | none =>
      rw [List.takeWhile_cons_of_neg (by rw [sweepPath_none hpath]; exact Bool.false_ne_true)]
      show s.tree.texts file = (s.tree.texts file).map id
      rw [Option.map_id_fun, id]
    | some next =>
      obtain ⟨hrefused, hshape, htexts⟩ := sweepPath_some hpath
      have hhits : hits disk root next.tree file = hits disk root s.tree file := by
        funext path
        exact hits_congr hshape file path
      show (sweepPaths texts disk root treatment rest next).1.tree.texts file = _
      rw [ih, reached_congr hshape, hhits, htexts, List.takeWhile_cons_of_pos (by simp [hrefused])]
      show _ = (s.tree.texts file).map (treatment.sweeps^[
        ((path :: reached disk root treatment s.tree rest).filter
          (hits disk root s.tree file)).length])
      rw [List.filter_cons]
      split
      · rw [Option.map_map, List.length_cons, Function.iterate_succ]
      · rfl

/-- No reached path leads out of the workspace to a file that the treatment changes. -/
def SweepsInside (disk : Disk) (root : Path) (treatment : PlanTreatment) (tree : Tree)
    (paths : List String) : Prop :=
  ∀ path ∈ reached disk root treatment tree paths, pathExists disk tree root path = true →
    ∀ text, tree.texts (resolve disk root path) = some text → treatment.applies text = true →
      treatment.before ≠ treatment.after → root <+: resolve disk root path

/-- A changed file is the end of a reached path, and the treatment applies to it. -/
theorem swept_iff (texts : Texts) (paths : List String) (s : SweepState) (file : Path) :
    (sweepPaths texts disk root treatment paths s).1.tree.texts file ≠ s.tree.texts file ↔
      ∃ path ∈ reached disk root treatment s.tree paths,
        pathExists disk s.tree root path = true ∧ resolve disk root path = file ∧
          ∃ text, s.tree.texts file = some text ∧ treatment.applies text = true ∧
            treatment.before ≠ treatment.after := by
  rw [sweepPaths_texts]
  cases htext : s.tree.texts file with
  | none => simp
  | some text =>
    rw [Option.map_some, ne_eq, Option.some.injEq]
    cases hpaths : (reached disk root treatment s.tree paths).filter
        (hits disk root s.tree file) with
    | nil =>
      have hnone : ∀ path ∈ reached disk root treatment s.tree paths,
          pathExists disk s.tree root path = true → resolve disk root path ≠ file := by
        intro path hpath hexists heq
        have hhits := List.filter_eq_nil_iff.mp hpaths path hpath
        unfold hits at hhits
        simp [hexists, heq] at hhits
      constructor
      · intro hchanged
        exact absurd rfl hchanged
      · rintro ⟨path, hpath, hexists, heq, -⟩
        exact absurd heq (hnone path hpath hexists)
    | cons path others =>
      obtain ⟨hpath, hhits⟩ := List.mem_filter.mp (hpaths ▸ List.mem_cons_self)
      unfold hits at hhits
      rw [Bool.and_eq_true, beq_iff_eq] at hhits
      rw [List.length_cons, ← ne_eq, iterate_sweeps_ne_iff]
      constructor
      · intro happlies
        exact ⟨path, hpath, hhits.1, hhits.2, text, rfl, happlies⟩
      · rintro ⟨-, -, -, -, text', htext', happlies⟩
        cases htext'
        exact happlies

theorem sweep_inside_iff (texts : Texts) (disk : Disk) (root : Path) (treatment : PlanTreatment)
    (paths : List String) (s : SweepState) :
    (∀ file, (sweepPaths texts disk root treatment paths s).1.tree.texts file ≠
      s.tree.texts file → root <+: file) ↔
        SweepsInside disk root treatment s.tree paths := by
  constructor
  · intro h path hpath hexists text htext happlies hdiffer
    apply h
    apply (swept_iff texts paths s _).mpr
    exact ⟨path, hpath, hexists, rfl, text, htext, happlies, hdiffer⟩
  · intro h file hchanged
    obtain ⟨path, hpath, hexists, rfl, text, htext, happlies, hdiffer⟩ :=
      (swept_iff texts paths s file).mp hchanged
    exact h path hpath hexists text htext happlies hdiffer

end Sweep

/-! ### S03.50 -/

/-- The files the executor answers for: a file that the authorized command changes is none. -/
def AnswersFor (world : World) (kind : ExecutorKind) (file : Path) : Prop :=
  kind = .llmDriven → Spared world file

/-- The books of an execution. -/
structure Accounted (maxSteps : Nat) (run : Execution) : Prop where
  calls : run.made.length ≤ maxSteps
  ascending : (run.toolCalls.map (·.step)).Pairwise (· < ·)
  steps : ∀ record ∈ run.toolCalls, 1 ≤ record.step ∧ record.step ≤ run.made.length
  inputTokens : run.inputTokens = (run.made.map (·.inputTokens)).sum
  outputTokens : run.outputTokens = (run.made.map (·.outputTokens)).sum

/-- The execution changes files inside the workspace only, only those of authorized paths, and
the agent loop keeps its books. -/
structure StaysInScope (world : World) (disk : Disk) (root : Path) (allowed : List String)
    (maxSteps : Nat) (tree : Tree) (kind : ExecutorKind) (run : Execution) : Prop where
  inside : ∀ file, AnswersFor world kind file → run.tree.texts file ≠ tree.texts file →
    root <+: file
  authorized : ∀ file, AnswersFor world kind file → run.tree.texts file ≠ tree.texts file →
    ∃ path ∈ allowed, file = resolve disk root path
  accounted : kind = .llmDriven → Accounted maxSteps run

section Execute
variable (texts : Texts) (world : World) (disk : Disk) (root : Path) (caseId : String)
  (context : PhaseContext) (treatment : PlanTreatment) (messages : List ModelMessage)
  (maxSteps : Nat) (tree : Tree)

theorem agent_stays_in_scope :
    StaysInScope world disk root context.allowedWritePaths maxSteps tree .llmDriven
      (execute texts world disk root caseId context treatment messages maxSteps tree
        .llmDriven) := by
  have hbooked : Booked { tree, messages } := by
    constructor
    · exact List.Pairwise.nil
    · intro record hrecord
      cases hrecord
    · rfl
    · rfl
  obtain ⟨hlast, hcalls, hfiles⟩ := loop_spec texts world disk root context.allowedWritePaths
    context.allowedCommand caseId context.phaseId maxSteps hbooked
  refine ⟨?_, ?_, ?_⟩
  · intro file hanswers hchanged
    exact (hfiles file (hanswers rfl) hchanged).1
  · intro file hanswers hchanged
    exact (hfiles file (hanswers rfl) hchanged).2
  · intro _
    refine ⟨?_, hlast.ascending, hlast.steps, hlast.inputTokens, hlast.outputTokens⟩
    exact hcalls.trans (by simp)

/-- The agent loop always stays in scope; the sweep does exactly when no reached path leads out
of the workspace to a file that it changes. -/
theorem stays_in_scope_iff (kind : ExecutorKind) :
    StaysInScope world disk root context.allowedWritePaths maxSteps tree kind
      (execute texts world disk root caseId context treatment messages maxSteps tree kind) ↔
        (kind = .deterministicConfig →
          SweepsInside disk root treatment tree context.allowedWritePaths) := by
  cases kind with
  | llmDriven =>
    constructor
    · intro _ hkind
      cases hkind
    · intro _
      exact agent_stays_in_scope texts world disk root caseId context treatment messages maxSteps
        tree
  | deterministicConfig =>
    have hanswers : ∀ file, AnswersFor world .deterministicConfig file := by
      intro file hkind
      cases hkind
    have hinside := sweep_inside_iff texts disk root treatment context.allowedWritePaths { tree }
    constructor
    · intro h _
      exact hinside.mp fun file hchanged => h.inside file (hanswers file) hchanged
    · intro h
      refine ⟨fun file _ hchanged => hinside.mpr (h rfl) file hchanged, ?_, ?_⟩
      · intro file _ hchanged
        obtain ⟨path, hpath, -, heq, -⟩ :=
          (swept_iff texts context.allowedWritePaths { tree } file).mp hchanged
        exact ⟨path, (List.takeWhile_sublist _).subset hpath, heq.symm⟩
      · intro hkind
        cases hkind

end Execute

/-! ### Plans whose paths stay inside -/

section Plans
variable {disk : Disk} {root : Path} {treatment : PlanTreatment} {tree : Tree}

/-- No link below the root leads out of it. -/
def LinksInside (disk : Disk) (root : Path) : Prop :=
  ∀ place target, root <+: place → disk.link place = some target → root <+: target

theorem foldl_follow_inside (hlinks : LinksInside disk root) {parts : List String}
    (hparts : ".." ∉ parts) {place : Path} (hplace : root <+: place) :
    root <+: parts.foldl (follow disk) place := by
  induction parts generalizing place with
  | nil => exact hplace
  | cons name rest ih =>
    rw [List.mem_cons, not_or] at hparts
    apply ih hparts.2
    unfold follow
    rw [if_neg (Ne.symm hparts.1)]
    have hbelow := hplace.trans (List.prefix_append place [name])
    cases hlink : disk.link (place ++ [name]) with
    | none => exact hbelow
    | some target => exact hlinks _ target hbelow hlink

/-- A relative path without `..` stays inside. -/
theorem resolve_inside (hlinks : LinksInside disk root) {path : String}
    (hplain : TaskFiles.Plain path) (hnames : ".." ∉ names path) :
    root <+: resolve disk root path := by
  apply foldl_follow_inside hlinks hnames
  unfold start
  rw [if_neg]
  intro hslash
  have hstripped := hplain.2 '/' hslash
  exact absurd hstripped (by decide)

/-- What S02.81 lets through as existing is a path of the repository, if it is spelled plainly. -/
theorem existing_file_listed {tasks : List PlanTask} {allowedPaths : List String}
    (hpass : pathResolutionFailures tasks allowedPaths = []) {task : PlanTask} {file : String}
    (htask : task ∈ tasks) (hexisting : task.proposedCreation = false) (hfile : file ∈ task.files)
    (hplain : TaskFiles.Plain file) : file ∈ allowedPaths := by
  by_contra habsent
  have hmem : task.taskId ++ ": " ++ file ++ " does not exist and is not marked proposed_creation" ∈
      pathResolutionFailures tasks allowedPaths := by
    apply List.mem_flatMap.mpr
    refine ⟨task, List.mem_filter.mpr ⟨htask, by simp [hexisting]⟩, ?_⟩
    apply List.mem_map_of_mem
    apply List.mem_filter.mpr
    refine ⟨hfile, ?_⟩
    rw [TaskFiles.normalizeRepoPath_eq_self_iff.mpr hplain]
    simpa using habsent
  rw [hpass] at hmem
  cases hmem

/-- Plainly spelled files that S02.81 lets through stay inside when neither the repository's paths
nor the proposed ones have a `..`. -/
theorem plain_plan_sweeps_inside (hlinks : LinksInside disk root) {tasks : List PlanTask}
    {allowedPaths : List String} (hpass : pathResolutionFailures tasks allowedPaths = [])
    (hrepository : ∀ path ∈ allowedPaths, ".." ∉ names path)
    (hplain : ∀ task ∈ tasks, ∀ file ∈ task.files, TaskFiles.Plain file)
    (hproposed : ∀ task ∈ tasks, task.proposedCreation = true →
      ∀ file ∈ task.files, ".." ∉ names file) (phaseId : String) :
    SweepsInside disk root treatment tree
      (sortedSet ((tasks.filter (·.phaseId == phaseId)).flatMap (·.files))) := by
  intro path hpath _ _ _ _ _
  have hmem := mem_sortedSet.mp ((List.takeWhile_sublist _).subset hpath)
  obtain ⟨task, hown, hfile⟩ := List.mem_flatMap.mp hmem
  have htask := List.mem_of_mem_filter hown
  apply resolve_inside hlinks (hplain task htask path hfile)
  cases hcreation : task.proposedCreation with
  | true => exact hproposed task htask hcreation path hfile
  | false =>
    apply hrepository
    exact existing_file_listed hpass htask hcreation hfile (hplain task htask path hfile)

end Plans

/-! ### A plan that leads out -/

def plainTexts : Texts where
  strip := id
  repr text := "'" ++ text ++ "'"
  dumps _ := "call"
  osError _ := "error"

/-- A model that is done at once, and no command. -/
def idleWorld : World where
  model _ := ⟨some ⟨.text "done", .null, .null, .null⟩, true, 0, 0⟩
  command _ tree := (tree, .error "not run")

def openDisk : Disk where
  link _ := none
  readable _ := true
  writable _ := true

def workspaceRoot : Path := ["tmp", "s03-workspace-1", "workspace"]

/-- A settings file beside the workspaces. -/
def sharedSettings : Tree where
  texts file := if file = ["tmp", "settings.cfg"] then some "pool=4" else none
  isDir place := place ≠ ["tmp", "settings.cfg"]

/-- The file the model proposes, as S02.50 drafts it. -/
def leadingOut : PlanTask where
  taskId := "t1"
  phaseId := "p1"
  files := (TaskFiles.repairTaskFilePaths ["src/../../../settings.cfg"] ["src/app.py"]).1
  symbols := []
  dependsOn := []
  proposedCreation := true

def leadingOutDraft : PlanDraft where
  phases := [⟨"p1", 1, .implementation, .experimentConfig, some "git revert"⟩]
  tasks := [leadingOut]
  pathRepairs := (TaskFiles.repairTaskFilePaths ["src/../../../settings.cfg"] ["src/app.py"]).2
  acceptanceCoverage := [("p95", true)]
  rollbackOk := true

def leadingOutContext : PhaseContext where
  phaseId := "p1"
  phaseKind := .implementation
  allowedWritePaths := sortedSet leadingOut.files
  allowedSymbolsByPath := []
  allowedCommand := none

/-- S02.81 passes the plan, and the sweep rewrites the file beside the workspaces. -/
theorem sealed_plan_leads_out :
    (planQuality leadingOutDraft true ["src/app.py"]).all (·.passed) = true ∧
      (execute plainTexts idleWorld openDisk workspaceRoot "case" leadingOutContext
        ⟨"pool=4", "pool=16"⟩ [] 8 sharedSettings .deterministicConfig).tree.texts
          ["tmp", "settings.cfg"] = some "pool=16" ∧
      ¬ StaysInScope idleWorld openDisk workspaceRoot leadingOutContext.allowedWritePaths 8
        sharedSettings .deterministicConfig
        (execute plainTexts idleWorld openDisk workspaceRoot "case" leadingOutContext
          ⟨"pool=4", "pool=16"⟩ [] 8 sharedSettings .deterministicConfig) := by
  have hwritten : (execute plainTexts idleWorld openDisk workspaceRoot "case" leadingOutContext
      ⟨"pool=4", "pool=16"⟩ [] 8 sharedSettings .deterministicConfig).tree.texts
        ["tmp", "settings.cfg"] = some "pool=16" := by
    decide +kernel
  refine ⟨by decide +kernel, hwritten, ?_⟩
  intro h
  have hinside := h.inside ["tmp", "settings.cfg"] (fun hkind => nomatch hkind)
  rw [hwritten] at hinside
  have hstarts := hinside (by decide)
  revert hstarts
  decide

end ProductionOptimizer.Executors
