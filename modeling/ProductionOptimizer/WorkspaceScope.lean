import Mathlib.Data.List.AList
import Mathlib.Data.String.Basic
import ProductionOptimizer.Handlers.Remeasure

/-!
# What changed in the workspace

`S03.20` fills the workspace from a revision or from a copy of the source root. `S03.60`
compares the files it then finds there with the source root, and `S05.20` looks once more at
the dependency manifests that are still there.
-/

namespace ProductionOptimizer.WorkspaceScope
set_option autoImplicit false

/-! ### Trees -/

/-- The files below a directory, by their relative path. -/
abbrev Tree (B : Type) := AList fun _ : String => B

/-- `rel.parts`. -/
def parts (path : String) : List String := (path.toList.splitOn '/').map String.ofList

def ignoredDirNames : List String :=
  [".git", "__pycache__", ".pytest_cache", ".mypy_cache", ".ruff_cache", ".venv", "node_modules"]

def ignored (path : String) : Bool := (parts path).any (ignoredDirNames.contains ·)

/-- Neither the path nor a directory above it matches a pattern of `ignore_patterns`. -/
def copied (path : String) : Bool :=
  (parts path).all fun name =>
    !ignoredDirNames.contains name && !".pyc".toList.isSuffixOf name.toList

section Workspace
variable {B : Type}

/-- `shutil.copytree`. -/
def copytree (source : Tree B) : Tree B where
  entries := source.entries.filter fun entry => copied entry.1
  nodupKeys := List.NodupKeys.sublist List.filter_sublist source.nodupKeys

/-- The workspace of `S03.20`: the revision that `git worktree add` checked out, or a copy
where there is no revision or git failed. -/
def isolate (checkout : Option (Tree B)) (source : Tree B) : Tree B :=
  checkout.getD (copytree source)

inductive FileOp (B : Type) where
  | write (path : String) (content : B)
  | delete (path : String)

def FileOp.apply (tree : Tree B) : FileOp B → Tree B
  | .write path content => tree.insert path content
  | .delete path => tree.erase path

/-- The workspace after what the executor did in it. -/
def edited (ops : List (FileOp B)) (tree : Tree B) : Tree B := ops.foldl FileOp.apply tree

variable [DecidableEq B]

/-- `_diff_changed_files`. -/
def diffChangedFiles (source workspace : Tree B) : List String :=
  (workspace.keys.filter fun path =>
    !ignored path && source.lookup path != workspace.lookup path).insertionSort (· ≤ ·)

end Workspace

/-! ### What scope enforcement owes -/

section Spec
variable {B : Type}

/-- Outside the ignored directories the file was written, created or deleted. -/
def Changed (base workspace : Tree B) (path : String) : Prop :=
  ignored path = false ∧ base.lookup path ≠ workspace.lookup path

/-- Nothing was deleted, and where the source root is not what the workspace was made from,
the workspace has a third content. -/
structure Comparable (source base workspace : Tree B) : Prop where
  kept : ∀ path, ignored path = false → base.lookup path ≠ none → workspace.lookup path ≠ none
  third : ∀ path content, ignored path = false → workspace.lookup path = some content →
    source.lookup path ≠ base.lookup path →
      source.lookup path ≠ some content ∧ base.lookup path ≠ some content

variable [DecidableEq B]

theorem mem_diffChangedFiles {source workspace : Tree B} {path : String} :
    path ∈ diffChangedFiles source workspace ↔ ignored path = false ∧
      ∃ content, workspace.lookup path = some content ∧ source.lookup path ≠ some content := by
  rw [diffChangedFiles, List.mem_insertionSort, List.mem_filter, ← AList.mem_keys,
    ← AList.lookup_isSome, Option.isSome_iff_exists, Bool.and_eq_true, Bool.not_eq_true',
    bne_iff_ne]
  constructor
  · intro h
    obtain ⟨⟨content, hcontent⟩, hignored, hne⟩ := h
    exact ⟨hignored, content, hcontent, hcontent ▸ hne⟩
  · intro h
    obtain ⟨hignored, content, hcontent, hne⟩ := h
    exact ⟨⟨content, hcontent⟩, hignored, hcontent ▸ hne⟩

/-- The comparison with the source root finds the changed files just when the two trees are
comparable. -/
theorem diff_exact_iff (source base workspace : Tree B) :
    (∀ path, path ∈ diffChangedFiles source workspace ↔ Changed base workspace path) ↔
      Comparable source base workspace := by
  constructor
  · intro h
    constructor
    · intro path hignored hbase hnone
      have hchanged : Changed base workspace path := ⟨hignored, hnone ▸ hbase⟩
      obtain ⟨-, content, hcontent, -⟩ := mem_diffChangedFiles.mp ((h path).mpr hchanged)
      rw [hnone] at hcontent
      cases hcontent
    · intro path content hignored hcontent hdiffer
      constructor
      · intro hsource
        have hsame : ¬ Changed base workspace path := by
          rw [← h, mem_diffChangedFiles]
          intro hmem
          obtain ⟨-, found, hfound, hne⟩ := hmem
          rw [hcontent] at hfound
          exact hne (hsource.trans hfound)
        apply hdiffer
        by_contra hne
        exact hsame ⟨hignored, fun heq => hne (hsource.trans (hcontent.symm.trans heq.symm))⟩
      · intro hbase
        have hmem : path ∈ diffChangedFiles source workspace := by
          rw [mem_diffChangedFiles]
          exact ⟨hignored, content, hcontent, fun hsource => hdiffer (hsource.trans hbase.symm)⟩
        exact ((h path).mp hmem).2 (hbase.trans hcontent.symm)
  · intro h path
    rw [mem_diffChangedFiles]
    constructor
    · intro hmem
      obtain ⟨hignored, content, hcontent, hne⟩ := hmem
      refine ⟨hignored, ?_⟩
      intro hbase
      have hdiffer : source.lookup path ≠ base.lookup path := by
        rw [hbase, hcontent]
        exact hne
      exact (h.third path content hignored hcontent hdiffer).2 (hbase.trans hcontent)
    · intro hchanged
      obtain ⟨hignored, hne⟩ := hchanged
      refine ⟨hignored, ?_⟩
      cases hcontent : workspace.lookup path with
      | none =>
        rw [hcontent] at hne
        exact absurd hcontent (h.kept path hignored hne)
      | some content =>
        refine ⟨content, rfl, ?_⟩
        intro hsource
        have hdiffer : source.lookup path ≠ base.lookup path := by
          rw [hsource, ← hcontent]
          exact hne.symm
        exact (h.third path content hignored hcontent hdiffer).1 hsource

end Spec

/-! ### The route -/

section Route
variable {a : Answers} {s : OptimizationState} {execution : NodeExecution}

def allowedWritePaths (s : OptimizationState) : List String :=
  (s.s03Context.map (·.allowedWritePaths)).getD []

/-- `S03.60` goes on only where every file in its list may be written. -/
theorem allowed_of_continue (h : handleS0360 a s = .ok execution)
    (hroute : execution.route = .continue_) {path : String} (hpath : path ∈ a.changedFiles) :
    path ∈ allowedWritePaths s := by
  unfold handleS0360 at h
  cases hworkspace : requireWorkspace s with
  | error failure =>
    rw [hworkspace] at h
    cases h
  | ok workspace =>
    rw [hworkspace] at h
    cases h
    by_contra hnot
    have hmem : ScopeViolation.path path ∈
        scopeViolations a s.s03Context (a.changedFiles.insertionSort (· ≤ ·)) := by
      apply List.mem_append_left
      apply List.mem_map_of_mem
      rw [List.mem_filter, List.mem_insertionSort]
      exact ⟨hpath, by simpa [allowedWritePaths] using hnot⟩
    have hsome : (scopeViolations a s.s03Context
        (a.changedFiles.insertionSort (· ≤ ·))).isEmpty = false := by
      rw [List.isEmpty_eq_false_iff]
      exact List.ne_nil_of_mem hmem
    simp [hsome] at hroute

end Route

/-! ### The audit -/

section Audit
variable {B Dg : Type} [DecidableEq Dg] (digest : B → Dg) (recorded : List (String × Dg))

/-- `digest_by_path.get(path)`. -/
def digestByPath (path : String) : Option Dg := recorded.reverse.lookup path

/-- The manifest files that are there with another content than recorded. -/
def driftedManifestFiles (workspace : Tree B) (files : List String) : List String :=
  files.filter fun path =>
    match digestByPath recorded path, workspace.lookup path with
    | some expected, some content => digest content != expected
    | _, _ => false

/-- Every recorded manifest file has its recorded content. -/
def ManifestsIntact (workspace : Tree B) (files : List String) : Prop :=
  ∀ path ∈ files, ∀ expected, digestByPath recorded path = some expected →
    ∃ content, workspace.lookup path = some content ∧ digest content = expected

/-- No recorded manifest file is gone, unless the audit fails for another reason. -/
def Auditable (workspace : Tree B) (patch : PatchView) (files : List String) : Prop :=
  (∀ path ∈ files, digestByPath recorded path ≠ none → workspace.lookup path ≠ none) ∨
    patch.inScope = false ∨ (∃ path ∈ files, path ∈ patch.changedFiles) ∨
    ∃ path ∈ files, ∃ expected content, digestByPath recorded path = some expected ∧
      workspace.lookup path = some content ∧ digest content ≠ expected

variable {digest recorded} {workspace : Tree B} {a : Answers} {patch : PatchView}
  {manifest : RepositoryManifest}

theorem mem_driftedManifestFiles {files : List String} {path : String} :
    path ∈ driftedManifestFiles digest recorded workspace files ↔ path ∈ files ∧
      ∃ expected content, digestByPath recorded path = some expected ∧
        workspace.lookup path = some content ∧ digest content ≠ expected := by
  rw [driftedManifestFiles, List.mem_filter]
  cases digestByPath recorded path with
  | none => simp
  | some expected =>
    cases workspace.lookup path with
    | none => simp
    | some content => simp

theorem isolationViolations_eq_nil_iff :
    isolationViolations a patch manifest = [] ↔ patch.inScope = true ∧
      (∀ path ∈ manifest.manifestFiles, path ∉ patch.changedFiles) ∧
      ∀ path ∈ manifest.manifestFiles, path ∉ a.driftedManifestFiles := by
  have hchanged : sortedSet (patch.changedFiles.filter (manifest.manifestFiles.contains ·)) = [] ↔
      ∀ path ∈ manifest.manifestFiles, path ∉ patch.changedFiles := by
    rw [List.eq_nil_iff_forall_not_mem]
    simp only [mem_sortedSet, List.mem_filter, List.contains_iff_mem, not_and]
    exact ⟨fun h path hfile hmem => h path hmem hfile, fun h path hmem hfile => h path hfile hmem⟩
  have hdrifted : ((manifest.manifestFiles.insertionSort (· ≤ ·)).filter fun path =>
        !patch.changedFiles.contains path && a.driftedManifestFiles.contains path) = [] ↔
      ∀ path ∈ manifest.manifestFiles, path ∉ patch.changedFiles →
        path ∉ a.driftedManifestFiles := by
    rw [List.filter_eq_nil_iff]
    simp [List.mem_insertionSort]
  unfold isolationViolations
  rw [List.append_eq_nil_iff, List.append_eq_nil_iff, List.map_eq_nil_iff, List.map_eq_nil_iff,
    hchanged, hdrifted]
  constructor
  · intro h
    obtain ⟨⟨hscope, hfiles⟩, hdrift⟩ := h
    refine ⟨by simpa using hscope, hfiles, ?_⟩
    intro path hpath
    exact hdrift path hpath (hfiles path hpath)
  · intro h
    obtain ⟨hscope, hfiles, hdrift⟩ := h
    refine ⟨⟨by simp [hscope], hfiles⟩, ?_⟩
    intro path hpath _
    exact hdrift path hpath

/-- An audit that reports isolation vouches for the manifests just when none is gone. -/
theorem audit_iff
    (ha : a.driftedManifestFiles =
      driftedManifestFiles digest recorded workspace manifest.manifestFiles) :
    (isolationViolations a patch manifest = [] →
      ManifestsIntact digest recorded workspace manifest.manifestFiles) ↔
      Auditable digest recorded workspace patch manifest.manifestFiles := by
  rw [isolationViolations_eq_nil_iff, ha]
  constructor
  · intro h
    by_contra hnot
    simp only [Auditable, not_or, Bool.not_eq_false] at hnot
    obtain ⟨hgone, hscope, hfiles, hdrift⟩ := hnot
    have hintact := h ⟨hscope, fun path hpath hmem => hfiles ⟨path, hpath, hmem⟩,
      fun path hpath hmem => hdrift ⟨path, hpath, (mem_driftedManifestFiles.mp hmem).2⟩⟩
    apply hgone
    intro path hpath hrecorded
    obtain ⟨expected, hexpected⟩ := Option.ne_none_iff_exists'.mp hrecorded
    obtain ⟨content, hcontent, -⟩ := hintact path hpath expected hexpected
    rw [hcontent]
    exact Option.some_ne_none content
  · intro h hclean path hpath expected hexpected
    obtain ⟨hscope, hfiles, hdrift⟩ := hclean
    rcases h with hthere | hout | ⟨file, hfile, hmem⟩ | ⟨file, hfile, hdrifted⟩
    · have hrecorded : digestByPath recorded path ≠ none := by
        rw [hexpected]
        exact Option.some_ne_none expected
      obtain ⟨content, hcontent⟩ := Option.ne_none_iff_exists'.mp (hthere path hpath hrecorded)
      refine ⟨content, hcontent, ?_⟩
      by_contra hne
      exact hdrift path hpath
        (mem_driftedManifestFiles.mpr ⟨hpath, expected, content, hexpected, hcontent, hne⟩)
    · rw [hscope] at hout
      cases hout
    · exact absurd hmem (hfiles file hfile)
    · exact absurd (mem_driftedManifestFiles.mpr ⟨hfile, hdrifted⟩) (hdrift file hfile)

end Audit

/-! ### Copies -/

section Copies
variable {B : Type} {source workspace : Tree B}

theorem lookup_copytree (source : Tree B) (path : String) :
    (copytree source).lookup path = if copied path then source.lookup path else none := by
  apply Option.ext
  intro content
  have hmem : content ∈ (copytree source).lookup path ↔
      (⟨path, content⟩ : Sigma fun _ : String => B) ∈ source.entries ∧ copied path = true := by
    rw [AList.mem_lookup_iff]
    exact List.mem_filter
  rw [← Option.mem_def, hmem, ← AList.mem_lookup_iff, Option.mem_def]
  by_cases hcopied : copied path = true
  · simp [hcopied]
  · simp [hcopied]

theorem ignored_of_copied {path : String} (h : copied path = true) : ignored path = false := by
  unfold copied at h
  rw [List.all_eq_true] at h
  unfold ignored
  rw [List.any_eq_false]
  intro name hname
  have hboth := h name hname
  rw [Bool.and_eq_true, Bool.not_eq_true'] at hboth
  simpa using hboth.1

/-- In a copy the comparison fails for a deleted file, and for a file the copy left out that
is written again as the source has it. -/
theorem comparable_copytree_iff : Comparable source (copytree source) workspace ↔
    (∀ path, copied path = true → source.lookup path ≠ none → workspace.lookup path ≠ none) ∧
      ∀ path content, ignored path = false → copied path = false →
        workspace.lookup path = some content → source.lookup path ≠ some content := by
  constructor
  · intro h
    constructor
    · intro path hcopied hsource
      apply h.kept path (ignored_of_copied hcopied)
      rw [lookup_copytree, if_pos hcopied]
      exact hsource
    · intro path content hignored hcopied hcontent hsource
      have hbase : (copytree source).lookup path = none := by
        rw [lookup_copytree, if_neg (by simp [hcopied])]
      have hdiffer : source.lookup path ≠ (copytree source).lookup path := by
        rw [hbase, hsource]
        exact Option.some_ne_none content
      exact (h.third path content hignored hcontent hdiffer).1 hsource
  · intro h
    constructor
    · intro path hignored hbase
      rw [lookup_copytree] at hbase
      by_cases hcopied : copied path = true
      · rw [if_pos hcopied] at hbase
        exact h.1 path hcopied hbase
      · rw [if_neg hcopied] at hbase
        exact absurd rfl hbase
    · intro path content hignored hcontent hdiffer
      rw [lookup_copytree] at hdiffer ⊢
      by_cases hcopied : copied path = true
      · rw [if_pos hcopied] at hdiffer
        exact absurd rfl hdiffer
      · rw [if_neg hcopied]
        exact ⟨h.2 path content hignored (Bool.eq_false_iff.mpr hcopied) hcontent,
          (Option.some_ne_none content).symm⟩

end Copies

/-! ### Scope enforcement -/

section Enforcement
variable {B Dg : Type} [DecidableEq B] [DecidableEq Dg]

/-- The list of changed files is exact, the route is bound by it and isolation vouches for
the manifests, just when the source root can be compared with the workspace and no recorded
manifest is gone at the audit. -/
theorem scope_sees_changes_iff (checkout : Option (Tree B)) (source : Tree B)
    (ops : List (FileOp B)) (a : Answers) (s : OptimizationState) (digest : B → Dg)
    (recorded : List (String × Dg)) (audited : Tree B) (patch : PatchView)
    (manifest : RepositoryManifest) :
    let base := isolate checkout source
    let workspace := edited ops base
    let drifted := driftedManifestFiles digest recorded audited manifest.manifestFiles
    ((∀ path, path ∈ diffChangedFiles source workspace ↔ Changed base workspace path) ∧
      (∀ execution,
        handleS0360 { a with changedFiles := diffChangedFiles source workspace } s =
          .ok execution → execution.route = .continue_ →
        ∀ path, Changed base workspace path → path ∈ allowedWritePaths s) ∧
      (isolationViolations { a with driftedManifestFiles := drifted } patch manifest = [] →
        ManifestsIntact digest recorded audited manifest.manifestFiles)) ↔
    Comparable source base workspace ∧
      Auditable digest recorded audited patch manifest.manifestFiles := by
  intro base workspace drifted
  constructor
  · intro h
    obtain ⟨hdiff, -, haudit⟩ := h
    exact ⟨(diff_exact_iff source base workspace).mp hdiff, (audit_iff rfl).mp haudit⟩
  · intro h
    have hdiff := (diff_exact_iff source base workspace).mpr h.1
    refine ⟨hdiff, ?_, (audit_iff rfl).mpr h.2⟩
    intro execution hexecution hroute path hchanged
    exact allowed_of_continue hexecution hroute ((hdiff path).mpr hchanged)

end Enforcement

def repository : Tree String :=
  [⟨"app.py", "a"⟩, ⟨"tests.py", "t"⟩, ⟨"pyproject.toml", "p"⟩].toAList

def withoutTests : Tree String := edited [.delete "tests.py"] (isolate none repository)

def withoutManifest : Tree String := edited [.delete "pyproject.toml"] (isolate none repository)

/-- The revision of a work tree with an uncommitted edit. -/
def committed : Tree String := [⟨"app.py", "committed"⟩].toAList

/-- A phase that may write one file. -/
def phaseState : OptimizationState where
  caseId := "case"
  threadId := "thread"
  tenantId := "tenant"
  s03Workspace := some ⟨"/tmp/workspace", "unversioned", .directoryCopy, "/repo"⟩
  s03Context := some ⟨"p1", .implementation, ["app.py"], [], none⟩

def auditAnswers : Answers where
  driftedManifestFiles :=
    driftedManifestFiles id [("pyproject.toml", "p")] withoutManifest ["pyproject.toml"]

/-- A file outside the scope is deleted in a copy and the phase goes on; nothing is done in
the work tree of a dirty repository and a file is reported; a recorded manifest is gone and
the audit reports isolation. -/
theorem scope_misses_deletion_reports_dirty :
    (Changed (isolate none repository) withoutTests "tests.py" ∧
      "tests.py" ∉ allowedWritePaths phaseState ∧
      ∃ execution,
        handleS0360 { changedFiles := diffChangedFiles repository withoutTests } phaseState =
          .ok execution ∧ execution.route = .continue_) ∧
    (diffChangedFiles repository (edited [] (isolate (some committed) repository)) =
        ["app.py"] ∧
      ¬ Changed committed (edited [] (isolate (some committed) repository)) "app.py") ∧
    isolationViolations auditAnswers ⟨"p1", "unversioned", ["app.py"], true⟩
        ⟨[], [], ["pyproject.toml"]⟩ = [] ∧
      ¬ ManifestsIntact id [("pyproject.toml", "p")] withoutManifest ["pyproject.toml"] := by
  refine ⟨⟨⟨by decide, by decide⟩, by decide, _, rfl, by decide⟩,
    ⟨by decide, fun h => h.2 (by decide)⟩, by decide, ?_⟩
  intro h
  obtain ⟨content, hcontent, -⟩ := h "pyproject.toml" (by decide) "p" (by decide)
  cases hcontent

end ProductionOptimizer.WorkspaceScope
