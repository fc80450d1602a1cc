import ProductionOptimizer.Handlers.PlanAndTasks
import ProductionOptimizer.Library.TrailingSegments

/-!
# The files a task may name

`_normalize_repo_path` strips characters, not segments: a leading dot that belongs to a name is
lost. `_resolve_existing_task_file` compares ends of texts, not of segment lists: a name may
match in its middle.
-/

namespace ProductionOptimizer.TaskFiles
open TrailingSegments
set_option autoImplicit false

/-! ### The paths of a snapshot -/

def pathScanLimit : Nat := 5000

def ignoredPathParts : List String :=
  [".git", ".hg", ".mypy_cache", ".pytest_cache", ".ruff_cache", ".venv", "__pycache__", "dist",
    "node_modules", "target", "vendor"]

/-- `path.split("/")`. -/
def segments (path : String) : List (List Char) := path.toList.splitOn '/'

/-- An entry that `rglob` yields below the root of the snapshot. -/
structure Candidate where
  relative : String
  isFile : Bool

/-- The entries the scan keeps, as they are spelled. -/
def scan : Nat → List Candidate → List String
  | 0, _ => []
  | _, [] => []
  | limit + 1, candidate :: rest =>
    if !candidate.isFile ||
        (segments candidate.relative).any (ignoredPathParts.contains <| String.ofList ·) then
      scan (limit + 1) rest
    else candidate.relative :: scan limit rest

/-- A snapshot with what a scan of its root yields (nothing where there is no root). Recorded
paths are those of files below the root: they have no empty segment, and the contract strips
them and refuses an empty rest. -/
structure SourceSnapshot (isBlank : String → Bool) where
  files : List String
  candidates : List Candidate
  nonblank : ∀ path ∈ files, isBlank path = false
  wellFormed : ∀ path ∈ files ++ scan pathScanLimit candidates, [] ∉ segments path

variable {isBlank : String → Bool}

/-- `_repository_file_paths`. -/
def repositoryFilePaths (snapshot : SourceSnapshot isBlank) : List String :=
  let snapshotPaths := sortedSet ((snapshot.files.filter (!isBlank ·)).map normalizeRepoPath)
  if snapshotPaths.isEmpty then
    ((scan pathScanLimit snapshot.candidates).map normalizeRepoPath).insertionSort (· ≤ ·)
  else snapshotPaths

/-- The files of the snapshot: the recorded ones, or those below its root if none is recorded. -/
def filesOf (snapshot : SourceSnapshot isBlank) : List String :=
  if snapshot.files.isEmpty then scan pathScanLimit snapshot.candidates else snapshot.files

theorem mem_repositoryFilePaths {snapshot : SourceSnapshot isBlank} {path : String} :
    path ∈ repositoryFilePaths snapshot ↔
      ∃ file ∈ filesOf snapshot, normalizeRepoPath file = path := by
  have hfilter : snapshot.files.filter (!isBlank ·) = snapshot.files := by
    apply List.filter_eq_self.mpr
    intro file hfile
    rw [snapshot.nonblank file hfile]
    rfl
  unfold repositoryFilePaths filesOf
  dsimp only
  rw [hfilter]
  cases hfiles : snapshot.files with
  | nil =>
    show path ∈ List.insertionSort _ _ ↔ _
    rw [List.mem_insertionSort, List.mem_map]
    rfl
  | cons file files =>
    have hne : (sortedSet ((file :: files).map normalizeRepoPath)).isEmpty = false := by
      rw [List.isEmpty_eq_false_iff]
      exact List.ne_nil_of_mem (mem_sortedSet.mpr (List.mem_map_of_mem List.mem_cons_self))
    rw [hne]
    show path ∈ sortedSet _ ↔ _
    rw [mem_sortedSet, List.mem_map]
    rfl

/-! ### Normalised paths -/

def slashed (path : String) : List Char := path.toList.map fun c => if c = '\\' then '/' else c

def stripped (c : Char) : Bool := c = '.' || c = '/'

/-- No backslash, and neither a dot nor a slash in front. -/
def Plain (path : String) : Prop :=
  '\\' ∉ path.toList ∧ ∀ c ∈ path.toList.head?, stripped c = false

theorem toList_normalizeRepoPath (path : String) :
    (normalizeRepoPath path).toList = (slashed path).dropWhile stripped :=
  String.toList_ofList

theorem plain_normalizeRepoPath (path : String) : Plain (normalizeRepoPath path) := by
  unfold Plain
  rw [toList_normalizeRepoPath]
  constructor
  · intro hmem
    obtain ⟨c, -, hc⟩ := List.mem_map.mp ((List.dropWhile_sublist _).subset hmem)
    split at hc
    · cases hc
    · rename_i hne
      exact hne hc
  · intro c hc
    cases hdrop : (slashed path).dropWhile stripped with
    | nil =>
      rw [hdrop] at hc
      cases hc
    | cons first rest =>
      rw [hdrop] at hc
      obtain rfl := Option.some.inj hc
      have hhead := List.head?_dropWhile_not stripped (slashed path)
      rw [hdrop] at hhead
      simpa using hhead

theorem slashed_of_notMem {path : String} (h : '\\' ∉ path.toList) :
    slashed path = path.toList := by
  unfold slashed
  have hid : ∀ c ∈ path.toList, (if c = '\\' then '/' else c) = c := by
    intro c hc
    apply if_neg
    rintro rfl
    exact h hc
  rw [List.map_congr_left hid, List.map_id']

theorem normalizeRepoPath_eq_self_iff {path : String} :
    normalizeRepoPath path = path ↔ Plain path := by
  constructor
  · intro h
    rw [← h]
    exact plain_normalizeRepoPath path
  · rintro ⟨hback, hhead⟩
    apply String.toList_injective
    rw [toList_normalizeRepoPath, slashed_of_notMem hback]
    cases hlist : path.toList with
    | nil => rfl
    | cons first rest =>
      rw [hlist] at hhead
      apply List.dropWhile_cons_of_neg
      rw [hhead first rfl]
      exact Bool.false_ne_true

/-- What the paths of a snapshot owe its files. -/
structure PathsAreFiles (snapshot : SourceSnapshot isBlank) : Prop where
  kept : ∀ file ∈ filesOf snapshot, file ∈ repositoryFilePaths snapshot
  distinct : ∀ file ∈ filesOf snapshot, ∀ other ∈ filesOf snapshot,
    normalizeRepoPath file = normalizeRepoPath other → file = other
  real : ∀ path ∈ repositoryFilePaths snapshot, path ∈ filesOf snapshot

/-- The paths are the files exactly when every file is spelled plainly. -/
theorem pathsAreFiles_iff (snapshot : SourceSnapshot isBlank) :
    PathsAreFiles snapshot ↔ ∀ file ∈ filesOf snapshot, Plain file := by
  constructor
  · intro h file hfile
    obtain ⟨other, -, hother⟩ := mem_repositoryFilePaths.mp (h.kept file hfile)
    rw [← hother]
    exact plain_normalizeRepoPath other
  · intro hplain
    have hself : ∀ file ∈ filesOf snapshot, normalizeRepoPath file = file := by
      intro file hfile
      exact normalizeRepoPath_eq_self_iff.mpr (hplain file hfile)
    refine ⟨?_, ?_, ?_⟩
    · intro file hfile
      exact mem_repositoryFilePaths.mpr ⟨file, hfile, hself file hfile⟩
    · intro file hfile other hother heq
      rw [← hself file hfile, heq, hself other hother]
    · intro path hpath
      obtain ⟨file, hfile, rfl⟩ := mem_repositoryFilePaths.mp hpath
      rw [hself file hfile]
      exact hfile

/-! ### Resolving the model's path -/

/-- The only element, counted as in a set. -/
def only (matching : List String) : Option String :=
  match matching.dedup with
  | [path] => some path
  | _ => none

def nonemptyParts (path : String) : List (List Char) := (segments path).filter (· ≠ [])

/-- `"/".join(parts[-size:])`. -/
def lastParts (parts : List (List Char)) (size : Nat) : List (List Char) :=
  parts.drop (parts.length - size)

def endingIn (allowedPaths : List String) (parts : List (List Char)) (size : Nat) : List String :=
  allowedPaths.filter fun path => (['/'].intercalate (lastParts parts size)).isSuffixOf path.toList

/-- The loop over the sizes, from the largest down. -/
def trySuffixes (allowedPaths : List String) (parts : List (List Char)) : Nat → Option String
  | 0 => none
  | size + 1 =>
    match only (endingIn allowedPaths parts (size + 1)) with
    | some path => some path
    | none => trySuffixes allowedPaths parts size

def maxSuffixParts (parts : List (List Char)) : Nat := min parts.length 4

def resolveExistingTaskFile (rawPath : String) (allowedPaths : List String) : Option String :=
  let normalized := normalizeRepoPath rawPath
  if allowedPaths.contains normalized then some normalized
  else
    let parts := nonemptyParts normalized
    match trySuffixes allowedPaths parts (maxSuffixParts parts) with
    | some path => some path
    | none =>
      let basename := parts.getLast?.getD normalized.toList
      only (allowedPaths.filter fun path => (segments path).getLast? == some basename)

/-- `_repair_task_file_paths`: the files a task is drafted with, and what was replaced. -/
def repairTaskFilePaths (files allowedPaths : List String) : List String × List String :=
  (files.map fun rawPath =>
    let normalized := normalizeRepoPath rawPath
    (resolveExistingTaskFile normalized allowedPaths).getD normalized,
  files.filterMap fun rawPath =>
    let normalized := normalizeRepoPath rawPath
    match resolveExistingTaskFile normalized allowedPaths with
    | none => none
    | some resolved =>
      if resolved ≠ normalized then some (rawPath ++ " -> " ++ resolved) else none)

theorem only_eq_some {matching : List String} {path : String} (h : only matching = some path) :
    path ∈ matching ∧ ∀ other ∈ matching, other = path := by
  unfold only at h
  split at h
  · rename_i found hdedup
    cases h
    have hmem : ∀ other, other ∈ matching ↔ other = path := by
      intro other
      rw [← List.mem_dedup, hdedup, List.mem_singleton]
    exact ⟨(hmem path).mpr rfl, fun other hother => (hmem other).mp hother⟩
  · cases h

/-- The size at which the loop ends and the path it ends with. -/
def Decides (allowedPaths : List String) (parts : List (List Char)) (size : Nat) (path : String) :
    Prop :=
  1 ≤ size ∧ size ≤ maxSuffixParts parts ∧ only (endingIn allowedPaths parts size) = some path ∧
    ∀ larger, size < larger → larger ≤ maxSuffixParts parts →
      only (endingIn allowedPaths parts larger) = none

theorem trySuffixes_some {allowedPaths : List String} {parts : List (List Char)} {bound : Nat}
    {path : String} (h : trySuffixes allowedPaths parts bound = some path) :
    ∃ size, 1 ≤ size ∧ size ≤ bound ∧ only (endingIn allowedPaths parts size) = some path ∧
      ∀ larger, size < larger → larger ≤ bound →
        only (endingIn allowedPaths parts larger) = none := by
  induction bound with
  | zero => cases h
  | succ bound ih =>
    unfold trySuffixes at h
    split at h
    · rename_i found honly
      cases h
      refine ⟨bound + 1, by omega, le_refl _, honly, ?_⟩
      intro larger hlt hle
      omega
    · rename_i hnone
      obtain ⟨size, hone, hle, honly, hlarger⟩ := ih h
      refine ⟨size, hone, by omega, honly, ?_⟩
      intro larger hlt hbound
      rcases Nat.lt_or_eq_of_le hbound with hless | heq
      · exact hlarger larger hlt (by omega)
      · rw [heq]
        exact hnone

/-- The ways to a path: it is the model's own, a size decides, or its name is unique. -/
theorem resolveExistingTaskFile_some {rawPath path : String} {allowedPaths : List String}
    (h : resolveExistingTaskFile rawPath allowedPaths = some path) :
    (normalizeRepoPath rawPath ∈ allowedPaths ∧ path = normalizeRepoPath rawPath) ∨
      (normalizeRepoPath rawPath ∉ allowedPaths ∧
        ((∃ size, Decides allowedPaths (nonemptyParts (normalizeRepoPath rawPath)) size path) ∨
        only (allowedPaths.filter fun path => (segments path).getLast? ==
          some ((nonemptyParts (normalizeRepoPath rawPath)).getLast?.getD
            (normalizeRepoPath rawPath).toList)) = some path)) := by
  unfold resolveExistingTaskFile at h
  dsimp only at h
  split at h
  · rename_i hexact
    cases h
    exact .inl ⟨by simpa using hexact, rfl⟩
  · rename_i hexact
    refine .inr ⟨by simpa using hexact, ?_⟩
    split at h
    · rename_i found htry
      cases h
      exact .inl (trySuffixes_some htry)
    · exact .inr h

theorem trySuffixes_of_decides {allowedPaths : List String} {parts : List (List Char)}
    {bound size : Nat} {path : String} (hone : 1 ≤ size) (hle : size ≤ bound)
    (honly : only (endingIn allowedPaths parts size) = some path)
    (hlarger : ∀ larger, size < larger → larger ≤ bound →
      only (endingIn allowedPaths parts larger) = none) :
    trySuffixes allowedPaths parts bound = some path := by
  induction bound with
  | zero => omega
  | succ bound ih =>
    unfold trySuffixes
    rcases Nat.lt_or_eq_of_le hle with hless | heq
    · rw [hlarger (bound + 1) hless (le_refl _)]
      apply ih (by omega)
      intro larger hlt hbound
      exact hlarger larger hlt (by omega)
    · rw [heq] at honly
      rw [honly]

theorem resolveExistingTaskFile_of_decides {rawPath path : String} {allowedPaths : List String}
    {size : Nat} (hexact : normalizeRepoPath rawPath ∉ allowedPaths)
    (h : Decides allowedPaths (nonemptyParts (normalizeRepoPath rawPath)) size path) :
    resolveExistingTaskFile rawPath allowedPaths = some path := by
  obtain ⟨hone, hle, honly, hlarger⟩ := h
  unfold resolveExistingTaskFile
  dsimp only
  rw [if_neg (by simpa using hexact), trySuffixes_of_decides hone hle honly hlarger]

/-! ### Whole segments -/

/-- The segments of the model's path without a leading slash or `./`. -/
def modelSegments (rawPath : String) : List (List Char) :=
  (((slashed rawPath).splitOn '/').dropWhile fun segment => segment = [] || segment = ['.']).filter
    (· ≠ [])

/-- Stripping characters took off whole segments only. -/
def StripsSegments (rawPath : String) : Prop :=
  modelSegments rawPath = nonemptyParts (normalizeRepoPath rawPath)

/-- The model's path and the one found for it share their last segment, and no other path shares
as many. -/
structure FoundBySegments (rawPath : String) (allowedPaths : List String) (path : String) :
    Prop where
  last : 1 ≤ trailing (modelSegments rawPath) (segments path)
  unique : ∀ other ∈ allowedPaths,
    agreement (modelSegments rawPath) (segments path) ≤
      agreement (modelSegments rawPath) (segments other) → other = path

section Found
variable {rawPath path : String} {allowedPaths : List String} {parts : List (List Char)}
  {size : Nat}

theorem lastParts_suffix_iff (hle : size ≤ parts.length) {other : List (List Char)} :
    lastParts parts size <:+ other ↔ size ≤ agreement parts other :=
  (le_agreement_iff hle).symm

theorem mem_endingIn {other : String} (hother : other ∈ allowedPaths) (hone : 1 ≤ size)
    (hle : size ≤ parts.length) (h : lastParts parts size <:+ segments other) :
    other ∈ endingIn allowedPaths parts size := by
  have hne : lastParts parts size ≠ [] := by
    intro hnil
    have hlength := congrArg List.length hnil
    simp only [lastParts, List.length_drop, List.length_nil] at hlength
    omega
  apply List.mem_filter.mpr
  exact ⟨hother, List.isSuffixOf_iff_suffix.mpr (suffix_of_splitOn hne h)⟩

theorem size_le_length (h : size ≤ maxSuffixParts parts) : size ≤ parts.length :=
  h.trans (Nat.min_le_left _ _)

/-- A size that decides by whole segments finds the right path. -/
theorem found_of_whole (hstrip : StripsSegments rawPath)
    (hdecides : Decides allowedPaths (nonemptyParts (normalizeRepoPath rawPath)) size path)
    (hwhole : lastParts (nonemptyParts (normalizeRepoPath rawPath)) size <:+ segments path) :
    FoundBySegments rawPath allowedPaths path := by
  obtain ⟨hone, hmax, honly, -⟩ := hdecides
  have hle := size_le_length hmax
  unfold StripsSegments at hstrip
  have htrailing : size ≤ trailing (modelSegments rawPath) (segments path) := by
    rw [hstrip]
    exact le_trailing_iff.mpr ⟨hle, hwhole⟩
  refine ⟨hone.trans htrailing, ?_⟩
  intro other hother hagree
  have hsize : size ≤ agreement (nonemptyParts (normalizeRepoPath rawPath)) (segments other) := by
    rw [← hstrip]
    exact htrailing.trans ((trailing_le_agreement _ _).trans hagree)
  exact (only_eq_some honly).2 other
    (mem_endingIn hother hone hle ((lastParts_suffix_iff hle).mpr hsize))

theorem lastParts_cons (hone : 1 ≤ size) (hle : size ≤ parts.length) :
    ∃ first, lastParts parts size = first :: lastParts parts (size - 1) := by
  unfold lastParts
  have hlt : parts.length - size < parts.length := by omega
  refine ⟨parts[parts.length - size], ?_⟩
  rw [List.drop_eq_getElem_cons hlt]
  congr 2
  omega

/-- A size that decides inside a segment finds the right path exactly when the segments after it
single out that path. -/
theorem found_iff_of_inside (hstrip : StripsSegments rawPath)
    (hdecides : Decides allowedPaths (nonemptyParts (normalizeRepoPath rawPath)) size path)
    (hinside : ¬ lastParts (nonemptyParts (normalizeRepoPath rawPath)) size <:+ segments path) :
    FoundBySegments rawPath allowedPaths path ↔ 2 ≤ size ∧ ∀ other ∈ allowedPaths,
      lastParts (nonemptyParts (normalizeRepoPath rawPath)) (size - 1) <:+ segments other →
        other = path := by
  obtain ⟨hone, hmax, honly, -⟩ := hdecides
  have hle := size_le_length hmax
  have hfree : ∀ segment ∈ nonemptyParts (normalizeRepoPath rawPath), '/' ∉ segment := by
    intro segment hsegment
    exact notMem_of_mem_splitOn (List.mem_of_mem_filter hsegment)
  unfold StripsSegments at hstrip
  generalize nonemptyParts (normalizeRepoPath rawPath) = parts at *
  -- The text of the path ends in the joined parts, so all of them but the first are segments.
  have hrest : lastParts parts (size - 1) <:+ segments path := by
    obtain ⟨first, hfirst⟩ := lastParts_cons hone hle
    have hends := List.isSuffixOf_iff_suffix.mp (List.mem_filter.mp (only_eq_some honly).1).2
    rw [hfirst] at hends hinside
    have hfree' : ∀ segment ∈ first :: lastParts parts (size - 1), '/' ∉ segment := by
      intro segment hsegment
      rw [← hfirst] at hsegment
      exact hfree segment (List.mem_of_mem_drop hsegment)
    rcases splitOn_of_suffix hfree' hends with hwhole | ⟨before, extra, -, hsplit⟩
    · exact absurd hwhole hinside
    · refine ⟨before ++ [extra ++ first], ?_⟩
      show _ = path.toList.splitOn '/'
      rw [hsplit, List.append_assoc]
      rfl
  have hless : size - 1 ≤ parts.length := by omega
  have hagreement : agreement parts (segments path) = size - 1 := by
    have hlow := (lastParts_suffix_iff hless).mp hrest
    have hhigh := (lastParts_suffix_iff hle).not.mp hinside
    omega
  rw [hstrip.symm] at hless hrest hagreement ⊢
  constructor
  · intro h
    have hlast := h.last.trans (trailing_le_agreement _ _)
    refine ⟨by omega, ?_⟩
    intro other hother hsuffix
    apply h.unique other hother
    rw [hagreement]
    exact (lastParts_suffix_iff hless).mp hsuffix
  · rintro ⟨htwo, hunique⟩
    have htrailing := le_trailing_iff.mpr ⟨hless, hrest⟩
    refine ⟨by omega, ?_⟩
    intro other hother hagree
    rw [hagreement] at hagree
    exact hunique other hother ((lastParts_suffix_iff hless).mpr hagree)

/-- The model's own path is found by all its segments. -/
theorem found_of_exact (hstrip : StripsSegments rawPath)
    (hwell : [] ∉ segments (normalizeRepoPath rawPath)) :
    FoundBySegments rawPath allowedPaths (normalizeRepoPath rawPath) := by
  have hparts : modelSegments rawPath = segments (normalizeRepoPath rawPath) := by
    rw [hstrip]
    apply List.filter_eq_self.mpr
    intro segment hsegment
    apply decide_eq_true
    rintro rfl
    exact hwell hsegment
  have hne : segments (normalizeRepoPath rawPath) ≠ [] := List.splitOn_ne_nil _ _
  constructor
  · rw [hparts, trailing_self]
    exact List.length_pos_of_ne_nil hne
  · intro other _ hagree
    rw [hparts, agreement_self] at hagree
    have heq := eq_of_length_lt_agreement hagree
    exact String.toList_injective (splitOn_injective heq).symm

theorem singleton_suffix_iff {α : Type} {a : α} {l : List α} : [a] <:+ l ↔ l.getLast? = some a := by
  constructor
  · rintro ⟨before, rfl⟩
    exact List.getLast?_concat
  · intro h
    obtain ⟨before, rfl⟩ := List.getLast?_eq_some_iff.mp h
    exact List.suffix_append _ _

theorem nonemptyParts_eq_nil {text : String} (hplain : Plain text) (h : nonemptyParts text = []) :
    text.toList = [] := by
  cases hlist : text.toList with
  | nil => rfl
  | cons first rest =>
    have hslash : first ≠ '/' := by
      rintro rfl
      have hstripped := hplain.2 '/' (by rw [hlist]; rfl)
      exact absurd hstripped (by decide)
    -- The first segment holds the first character.
    obtain ⟨segment, hsegment⟩ : ∃ segment, first :: segment ∈ segments text := by
      unfold segments
      rw [hlist, List.splitOn_cons_eq_if_modifyHead, if_neg (by simpa using hslash)]
      cases hsplit : rest.splitOn '/' with
      | nil => exact absurd hsplit (List.splitOn_ne_nil _ _)
      | cons segment others => exact ⟨segment, List.mem_cons_self⟩
    have hmem : first :: segment ∈ nonemptyParts text :=
      List.mem_filter.mpr ⟨hsegment, decide_eq_true (List.cons_ne_nil first segment)⟩
    rw [h] at hmem
    cases hmem

theorem lastParts_one {name : List Char} (h : parts.getLast? = some name) :
    1 ≤ parts.length ∧ lastParts parts 1 = [name] := by
  obtain ⟨before, rfl⟩ := List.getLast?_eq_some_iff.mp h
  unfold lastParts
  simp

/-- A path whose name is unique is found by its last segment. -/
theorem found_of_name (hstrip : StripsSegments rawPath)
    (hwell : ∀ path ∈ allowedPaths, [] ∉ segments path)
    (honly : only (allowedPaths.filter fun path => (segments path).getLast? ==
      some ((nonemptyParts (normalizeRepoPath rawPath)).getLast?.getD
        (normalizeRepoPath rawPath).toList)) = some path) :
    FoundBySegments rawPath allowedPaths path := by
  obtain ⟨hmem, hunique⟩ := only_eq_some honly
  obtain ⟨hallowed, hlast⟩ := List.mem_filter.mp hmem
  have hname := eq_of_beq hlast
  unfold StripsSegments at hstrip
  cases hparts : (nonemptyParts (normalizeRepoPath rawPath)).getLast? with
  | none =>
    -- Without a part the normalised path is empty, and no path has an empty name.
    have hempty := nonemptyParts_eq_nil (plain_normalizeRepoPath rawPath)
      (List.getLast?_eq_none_iff.mp hparts)
    rw [hparts, hempty] at hname
    exact absurd (List.mem_of_getLast? hname) (hwell path hallowed)
  | some name =>
    rw [hparts] at hname hunique
    obtain ⟨hone, hlastPart⟩ := lastParts_one hparts
    have htrailing : 1 ≤ trailing (modelSegments rawPath) (segments path) := by
      rw [hstrip]
      apply le_trailing_iff.mpr
      refine ⟨hone, ?_⟩
      show lastParts _ 1 <:+ _
      rw [hlastPart]
      exact singleton_suffix_iff.mpr hname
    refine ⟨htrailing, ?_⟩
    intro other hother hagree
    have hshared := htrailing.trans ((trailing_le_agreement _ _).trans hagree)
    rw [hstrip, ← lastParts_suffix_iff hone, hlastPart, singleton_suffix_iff] at hshared
    apply hunique other
    apply List.mem_filter.mpr
    exact ⟨hother, by simp [hshared]⟩

/-- Where the end of a text decides, it is an end in whole segments, or the segments after the
one it cuts already single out the path. -/
def EndsWhole (rawPath : String) (allowedPaths : List String) : Prop :=
  normalizeRepoPath rawPath ∈ allowedPaths ∨
    ∀ size path, Decides allowedPaths (nonemptyParts (normalizeRepoPath rawPath)) size path →
      lastParts (nonemptyParts (normalizeRepoPath rawPath)) size <:+ segments path ∨
        (2 ≤ size ∧ ∀ other ∈ allowedPaths,
          lastParts (nonemptyParts (normalizeRepoPath rawPath)) (size - 1) <:+ segments other →
            other = path)

/-- Whatever is found is found by whole segments exactly when ends of texts are ends in whole
segments. -/
theorem found_iff_endsWhole (hstrip : StripsSegments rawPath)
    (hwell : ∀ path ∈ allowedPaths, [] ∉ segments path) :
    (∀ path, resolveExistingTaskFile rawPath allowedPaths = some path →
      FoundBySegments rawPath allowedPaths path) ↔ EndsWhole rawPath allowedPaths := by
  constructor
  · intro h
    by_cases hexact : normalizeRepoPath rawPath ∈ allowedPaths
    · exact .inl hexact
    · right
      intro size path hdecides
      by_cases hwhole :
          lastParts (nonemptyParts (normalizeRepoPath rawPath)) size <:+ segments path
      · exact .inl hwhole
      · right
        apply (found_iff_of_inside hstrip hdecides hwhole).mp
        exact h path (resolveExistingTaskFile_of_decides hexact hdecides)
  · intro h path hresolve
    rcases resolveExistingTaskFile_some hresolve with
      ⟨hexact, rfl⟩ | ⟨hexact, ⟨size, hdecides⟩ | honly⟩
    · exact found_of_exact hstrip (hwell _ hexact)
    · have hends := h.resolve_left hexact size path hdecides
      by_cases hwhole :
          lastParts (nonemptyParts (normalizeRepoPath rawPath)) size <:+ segments path
      · exact found_of_whole hstrip hdecides hwhole
      · exact (found_iff_of_inside hstrip hdecides hwhole).mpr (hends.resolve_left hwhole)
    · exact found_of_name hstrip hwell honly

end Found

/-! ### The laws of task files -/

/-- The paths of a snapshot are its files, and what a model's path is resolved to is found by
whole segments. -/
structure Lawful (snapshot : SourceSnapshot isBlank) (rawPath : String) : Prop where
  files : PathsAreFiles snapshot
  found : ∀ path, resolveExistingTaskFile rawPath (repositoryFilePaths snapshot) = some path →
    FoundBySegments rawPath (repositoryFilePaths snapshot) path

theorem wellFormed_of_plain {snapshot : SourceSnapshot isBlank}
    (hplain : ∀ file ∈ filesOf snapshot, Plain file) :
    ∀ path ∈ repositoryFilePaths snapshot, [] ∉ segments path := by
  intro path hpath
  have hfile := ((pathsAreFiles_iff snapshot).mpr hplain).real path hpath
  apply snapshot.wellFormed path
  unfold filesOf at hfile
  split at hfile
  · exact List.mem_append_right _ hfile
  · exact List.mem_append_left _ hfile

/-- The laws ask for plainly spelled files; with them, and where stripping takes whole segments
off the model's path, they hold exactly when ends of texts are ends in whole segments. -/
theorem lawful_iff (snapshot : SourceSnapshot isBlank) (rawPath : String) :
    (PathsAreFiles snapshot ↔ ∀ file ∈ filesOf snapshot, Plain file) ∧
      (StripsSegments rawPath → (Lawful snapshot rawPath ↔
        (∀ file ∈ filesOf snapshot, Plain file) ∧
          EndsWhole rawPath (repositoryFilePaths snapshot))) := by
  refine ⟨pathsAreFiles_iff snapshot, ?_⟩
  intro hstrip
  constructor
  · intro h
    have hplain := (pathsAreFiles_iff snapshot).mp h.files
    exact ⟨hplain, (found_iff_endsWhole hstrip (wellFormed_of_plain hplain)).mp h.found⟩
  · rintro ⟨hplain, hends⟩
    have hfound := (found_iff_endsWhole hstrip (wellFormed_of_plain hplain)).mpr hends
    exact ⟨(pathsAreFiles_iff snapshot).mpr hplain, hfound⟩

/-- `not path.strip()`. -/
def blank (path : String) : Bool := path.toList.all Char.isWhitespace

/-- A snapshot that records one file. -/
def recorded (file : String) (hnonblank : blank file = false) (hwell : [] ∉ segments file) :
    SourceSnapshot blank where
  files := [file]
  candidates := []
  nonblank := by simpa using hnonblank
  wellFormed := by simpa [scan, pathScanLimit] using hwell

/-- A leading `./` is taken off, and the name of a file below a directory is found. -/
theorem nested_file_found :
    StripsSegments "./loader.py" ∧
      resolveExistingTaskFile "./loader.py"
        (repositoryFilePaths (recorded "src/loader.py" (by decide +kernel) (by decide +kernel))) =
          some "src/loader.py" ∧
      Lawful (recorded "src/loader.py" (by decide +kernel) (by decide +kernel)) "./loader.py" := by
  have hstrip : StripsSegments "./loader.py" := by
    unfold StripsSegments
    decide +kernel
  refine ⟨hstrip, by decide +kernel, ?_⟩
  apply ((lawful_iff _ _).2 hstrip).mpr
  constructor
  · intro file hfile
    obtain rfl := List.mem_singleton.mp hfile
    apply normalizeRepoPath_eq_self_iff.mp
    decide +kernel
  · right
    intro size path hdecides
    left
    obtain ⟨hone, hmax, honly, -⟩ := hdecides
    have hsize : size = 1 := by
      have hmax1 : maxSuffixParts (nonemptyParts (normalizeRepoPath "./loader.py")) = 1 := by
        decide +kernel
      omega
    have hpath : path = "src/loader.py" := by
      have hmem := (List.mem_filter.mp (only_eq_some honly).1).1
      obtain ⟨file, hfile, rfl⟩ := mem_repositoryFilePaths.mp hmem
      obtain rfl := List.mem_singleton.mp hfile
      decide +kernel
    rw [hsize, hpath]
    apply List.isSuffixOf_iff_suffix.mp
    decide +kernel

/-- The dot of `.env` is lost, and `a.py` is resolved to `data.py`. -/
theorem dot_lost_and_name_cut :
    repositoryFilePaths (recorded ".env" (by decide +kernel) (by decide +kernel)) = ["env"] ∧
      ¬ PathsAreFiles (recorded ".env" (by decide +kernel) (by decide +kernel)) ∧
      resolveExistingTaskFile "a.py"
        (repositoryFilePaths (recorded "data.py" (by decide +kernel) (by decide +kernel))) =
          some "data.py" ∧
      ¬ Lawful (recorded "data.py" (by decide +kernel) (by decide +kernel)) "a.py" := by
  have hpaths : repositoryFilePaths (recorded ".env" (by decide +kernel) (by decide +kernel)) =
      ["env"] := by
    decide +kernel
  have hresolve : resolveExistingTaskFile "a.py"
      (repositoryFilePaths (recorded "data.py" (by decide +kernel) (by decide +kernel))) =
        some "data.py" := by
    decide +kernel
  refine ⟨hpaths, ?_, hresolve, ?_⟩
  · intro h
    have hkept := h.kept ".env" (List.mem_singleton_self _)
    rw [hpaths] at hkept
    revert hkept
    decide
  · intro h
    have hlast := (h.found "data.py" hresolve).last
    revert hlast
    decide +kernel

end ProductionOptimizer.TaskFiles
