import ProductionOptimizer.Handlers.Executors
import ProductionOptimizer.Handlers.Intake

/-!
# A1.40 and A2.30: the languages of a source tree

`A1.40` walks the tree and stops after a bounded number of files. `A2.30` reads the files of the
captured snapshot. Both count suffixes and turn the counts into shares of languages.
-/

namespace ProductionOptimizer.Discovery
open Executors (names)
open Intake (UnicodeData)
set_option autoImplicit false

/-! ### Suffixes and languages -/

/-- `path.name`. -/
def nameOf (relative : String) : String := (names relative).getLastD ""

/-- `path.suffix`: what the name ends in from its last dot on, which is neither its first nor
its last character. -/
def suffixOf (relative : String) : List Char :=
  let name := (nameOf relative).toList
  let extension := (name.reverse.takeWhile (· != '.')).reverse
  if extension.length + 1 < name.length ∧ extension ≠ [] then '.' :: extension else []

/-- `path.suffix.lower()`. -/
def lowerSuffix (unicode : UnicodeData) (relative : String) : String :=
  String.ofList (unicode.lower (suffixOf relative))

/-- `_LANGUAGE_BY_SUFFIX` of A2. -/
def languageBySuffix : List (String × String) :=
  [(".py", "python"), (".ts", "typescript"), (".tsx", "typescript"), (".js", "javascript"),
    (".jsx", "javascript"), (".go", "go"), (".rs", "rust"), (".java", "java"), (".cs", "csharp")]

/-- `_language_for_suffix` of A1. -/
def languageForSuffix (suffix : String) : Option String :=
  (languageBySuffix ++ [(".sol", "solidity")]).lookup suffix

/-- `suffix_counts[suffix] = suffix_counts.get(suffix, 0) + 1`, unless there is no suffix. -/
def countSuffix (suffixCounts : List (String × Nat)) (suffix : String) : List (String × Nat) :=
  if suffix = "" then suffixCounts
  else dictSet suffixCounts suffix ((suffixCounts.lookup suffix).getD 0 + 1)

/-- `sum(suffix_counts.values()) or 1`. -/
def suffixTotal (suffixCounts : List (String × Nat)) : Nat :=
  let total := (suffixCounts.map (·.2)).sum
  if total = 0 then 1 else total

/-- The comprehension keyed by language over the counts keyed by suffix. -/
def languagesOf (language? : String → Option String) (suffixCounts : List (String × Nat)) :
    List (String × ℚ) :=
  dictOf <| suffixCounts.filterMap fun e =>
    (language? e.1).map fun language => (language, (e.2 : ℚ) / suffixTotal suffixCounts)

def manifestFileNames : List String := ["pyproject.toml", "package.json", "go.mod", "Cargo.toml"]

def testDirectoryNames : List String := ["test", "tests", "__tests__"]

/-- The parts of `path.parent`. -/
def parentParts (relative : String) : List String := (names relative).dropLast

/-- `as_posix()` of a relative path. -/
def asPosix (parts : List String) : String := if parts = [] then "." else "/".intercalate parts

/-! ### A1.40 -/

/-- What `rglob` yields below the root, with the size that `stat` reports unless it fails. -/
structure Entry where
  relative : String
  isFile : Bool
  size : Option Nat

def vendorDirMarkers : List String := [".git", "node_modules", "vendor", "__pycache__", ".venv"]

def isVendorPath (relative : String) : Bool :=
  ((relative.toList.splitOn '/').map String.ofList).any vendorDirMarkers.contains

def maxDiscoveryFiles : Nat := 500

/-- The variables of the loop. -/
structure Scan where
  suffixCounts : List (String × Nat) := []
  manifests : List String := []
  sourceFiles : List String := []
  testRoots : List String := []
  vendor : List String := []
  fileCount : Nat := 0
  byteCount : Nat := 0
  unreadablePaths : List String := []
  truncated : Bool := false

section Walk
variable (unicode : UnicodeData) (rootName : String)

/-- What the loop notes of a file that is neither vendored nor beyond the bound. -/
def Scan.record (s : Scan) (e : Entry) : Scan where
  suffixCounts := countSuffix s.suffixCounts (lowerSuffix unicode e.relative)
  manifests := if manifestFileNames.contains (nameOf e.relative) then s.manifests ++ [e.relative]
    else s.manifests
  sourceFiles := s.sourceFiles ++ [e.relative]
  -- the parent of a file at the top is the root itself, whatever that is called
  testRoots := if testDirectoryNames.contains ((parentParts e.relative).getLastD rootName) then
      s.testRoots ++ [asPosix (parentParts e.relative)]
    else s.testRoots
  vendor := s.vendor
  fileCount := s.fileCount + 1
  byteCount := s.byteCount + e.size.getD 0
  unreadablePaths := if e.size = none then s.unreadablePaths ++ [e.relative]
    else s.unreadablePaths
  truncated := s.truncated

def scan (s : Scan) : List Entry → Scan
  | [] => s
  | e :: rest =>
    if !e.isFile then scan s rest
    else if isVendorPath e.relative then scan { s with vendor := s.vendor ++ [e.relative] } rest
    else if maxDiscoveryFiles < s.fileCount + 1 then
      { s with fileCount := s.fileCount + 1, truncated := true }
    else scan (s.record unicode rootName e) rest

structure ProjectProfile extends Intake.ProjectProfile where
  manifestFiles : List String
  testRoots : List String
  sourceFiles : List String
  generatedOrVendorPaths : List String
  byteCount : Nat
  unreadablePaths : List String

/-- `_discover_project_profile` over what the walk yields, in its order. -/
def discoverProjectProfile (walk : List Entry) : ProjectProfile :=
  let s := scan unicode rootName {} walk
  { languages := languagesOf languageForSuffix s.suffixCounts
    fileCount := s.fileCount
    discoveryTruncated := s.truncated
    manifestFiles := s.manifests.insertionSort (· ≤ ·)
    testRoots := sortedSet s.testRoots
    sourceFiles := s.sourceFiles.insertionSort (· ≤ ·)
    generatedOrVendorPaths := (s.vendor.insertionSort (· ≤ ·)).take 100
    byteCount := s.byteCount
    unreadablePaths := s.unreadablePaths.take 100 }

end Walk

/-! ### A2.30 -/

/-- What the configuration files under the root declare. -/
structure DeclaredTools where
  sections : List String
  hasBenchmark : Bool
  hasCov : Bool

structure RepositoryManifest where
  languages : List (String × ℚ)
  modules : List String
  manifestFiles : List String
  testRoots : List String
  toolCoverage : List (String × ℚ)
  exclusions : List String

section Parse
variable (unicode : UnicodeData)

/-- The directory of a Python file in a directory of tests. -/
def pythonTestRoot (relative : String) : Option String :=
  if lowerSuffix unicode relative = ".py" ∧
      testDirectoryNames.contains ((parentParts relative).getLastD "") then
    some (asPosix (parentParts relative))
  else none

def topModule (relative : String) : Option String :=
  if 1 < (names relative).length then (names relative).head? else none

def toolCoverage (testRoots : List String) (tools : DeclaredTools) : List (String × ℚ) :=
  let covered (b : Bool) : ℚ := if b then 1 else 0
  [("pytest", covered (!testRoots.isEmpty || tools.sections.contains "tool.pytest.ini_options")),
    ("ruff", covered (tools.sections.contains "tool.ruff")),
    ("mypy", covered (tools.sections.contains "tool.mypy")),
    ("pytest_benchmark", covered tools.hasBenchmark), ("pytest_cov", covered tools.hasCov)]

/-- The manifest of a snapshot with these files and exclusions. -/
def handleA230 (files exclusions : List String) (tools : DeclaredTools) : RepositoryManifest :=
  let suffixCounts := files.foldl (fun counts relative =>
    countSuffix counts (lowerSuffix unicode relative)) []
  let testRoots := sortedSet (files.filterMap (pythonTestRoot unicode))
  { languages := languagesOf (languageBySuffix.lookup ·) suffixCounts
    modules := sortedSet (files.filterMap topModule)
    manifestFiles := (files.filter fun relative =>
      manifestFileNames.contains (nameOf relative)).insertionSort (· ≤ ·)
    testRoots
    toolCoverage := toolCoverage testRoots tools
    exclusions }

end Parse

end ProductionOptimizer.Discovery
