import ProductionOptimizer.Handlers.Discovery
import ProductionOptimizer.Library.Tally
import ProductionOptimizer.RequestIds

/-!
# Do the language shares count files?

The counts are kept by suffix and regrouped by language with a comprehension. Where two suffixes
of one language occur, the later overwrites the earlier.
-/

namespace ProductionOptimizer.Discovery
open Intake (UnicodeData asciiData mostCommonLanguage)
set_option autoImplicit false

/-! ### What the shares are to say -/

/-- The files that discovery takes in: those that are not vendored, up to the bound. -/
def counted (walk : List Entry) : List String :=
  ((walk.filter fun e => e.isFile && !isVendorPath e.relative).take maxDiscoveryFiles).map
    (·.relative)

section Files
variable (unicode : UnicodeData) (language? : String → Option String) (files : List String)

def filesOf (language : String) : Nat :=
  files.countP fun relative => language? (lowerSuffix unicode relative) == some language

def filesWithSuffix : Nat := files.countP fun relative => lowerSuffix unicode relative != ""

structure SharesCount (languages : List (String × ℚ)) : Prop where
  share : ∀ language, (languages.lookup language).getD 0 =
    (filesOf unicode language? files language : ℚ) / filesWithSuffix unicode files
  sum : (languages.map Prod.snd).sum ≤ 1

/-- No language occurs with two suffixes. -/
def OneSuffixEach : Prop :=
  ∀ file ∈ files, ∀ other ∈ files,
    language? (lowerSuffix unicode file) = language? (lowerSuffix unicode other) →
      language? (lowerSuffix unicode file) ≠ none →
        lowerSuffix unicode file = lowerSuffix unicode other

end Files

/-! ### The counts of the loops -/

/-- The suffixes of the files that have one. -/
def suffixes (unicode : UnicodeData) (files : List String) : List String :=
  (files.map (lowerSuffix unicode)).filter (· != "")

section Counts
variable {unicode : UnicodeData} {language? : String → Option String} {files : List String}

theorem countSuffix_tally (relative : String) :
    countSuffix (Tally.tally (suffixes unicode files)) (lowerSuffix unicode relative) =
      Tally.tally (suffixes unicode (files ++ [relative])) := by
  unfold countSuffix suffixes
  rw [List.map_append, List.filter_append, List.map_singleton]
  by_cases hnone : lowerSuffix unicode relative = ""
  · rw [if_pos hnone, List.filter_singleton, hnone]
    simp
  · have hsome : (lowerSuffix unicode relative != "") = true := by simpa using hnone
    rw [if_neg hnone, List.filter_singleton, hsome, cond_true, Tally.tally_concat]
    rfl

theorem foldl_countSuffix (unicode : UnicodeData) (files : List String) :
    files.foldl (fun counts relative => countSuffix counts (lowerSuffix unicode relative)) [] =
      Tally.tally (suffixes unicode files) := by
  induction files using List.reverseRecOn with
  | nil => rfl
  | append_singleton files relative ih =>
    rw [List.foldl_append, ih]
    exact countSuffix_tally relative

/-- What the loop has counted so far belongs to the files it has noted so far. -/
structure ScanInv (unicode : UnicodeData) (s : Scan) : Prop where
  counts : s.suffixCounts = Tally.tally (suffixes unicode s.sourceFiles)
  files : s.fileCount = s.sourceFiles.length

theorem ScanInv.record {s : Scan} (h : ScanInv unicode s) (rootName : String) (e : Entry) :
    ScanInv unicode (s.record unicode rootName e) where
  counts := by
    show countSuffix s.suffixCounts _ = _
    rw [h.counts]
    exact countSuffix_tally e.relative
  files := by
    show s.fileCount + 1 = (s.sourceFiles ++ [e.relative]).length
    rw [h.files, List.length_append]
    rfl

theorem scan_counts {rootName : String} {s : Scan} (h : ScanInv unicode s) (walk : List Entry) :
    (scan unicode rootName s walk).suffixCounts =
      Tally.tally (suffixes unicode (scan unicode rootName s walk).sourceFiles) := by
  induction walk generalizing s with
  | nil => exact h.counts
  | cons e rest ih =>
    unfold scan
    split
    · exact ih h
    · split
      · exact ih ⟨h.counts, h.files⟩
      · split
        · exact h.counts
        · exact ih (h.record rootName e)

theorem scan_sourceFiles {rootName : String} {s : Scan} (h : ScanInv unicode s)
    (walk : List Entry) : (scan unicode rootName s walk).sourceFiles = s.sourceFiles ++
      ((walk.filter fun e => e.isFile && !isVendorPath e.relative).take
        (maxDiscoveryFiles - s.fileCount)).map (·.relative) := by
  induction walk generalizing s with
  | nil =>
    rw [List.filter_nil, List.take_nil, List.map_nil, List.append_nil]
    rfl
  | cons e rest ih =>
    unfold scan
    rw [List.filter_cons]
    by_cases hfile : e.isFile = true
    · rw [hfile, if_neg (by simp)]
      by_cases hvendor : isVendorPath e.relative = true
      · rw [if_pos hvendor, hvendor, if_neg (by simp)]
        exact ih ⟨h.counts, h.files⟩
      · have hkept : (true && !isVendorPath e.relative) = true := by simpa using hvendor
        rw [if_neg hvendor, if_pos hkept]
        by_cases hfull : maxDiscoveryFiles < s.fileCount + 1
        · have hzero : maxDiscoveryFiles - s.fileCount = 0 := by omega
          rw [if_pos hfull, hzero, List.take_zero, List.map_nil, List.append_nil]
        · obtain ⟨left, hleft⟩ : ∃ left, maxDiscoveryFiles - s.fileCount = left + 1 :=
            ⟨maxDiscoveryFiles - s.fileCount - 1, by omega⟩
          have hnext : maxDiscoveryFiles - (s.record unicode rootName e).fileCount = left := by
            show maxDiscoveryFiles - (s.fileCount + 1) = left
            omega
          rw [if_neg hfull, ih (h.record rootName e), hnext, hleft, List.take_succ_cons,
            List.map_cons]
          show (s.sourceFiles ++ [e.relative]) ++ _ = _
          rw [List.append_assoc]
          rfl
    · rw [if_pos (by simpa using hfile), if_neg (by simp [hfile])]
      exact ih h

theorem scanInv_start (unicode : UnicodeData) : ScanInv unicode {} := ⟨rfl, rfl⟩

theorem sourceFiles_perm (unicode : UnicodeData) (rootName : String) (walk : List Entry) :
    (discoverProjectProfile unicode rootName walk).sourceFiles.Perm (counted walk) := by
  have hfiles : (scan unicode rootName {} walk).sourceFiles = counted walk :=
    scan_sourceFiles (scanInv_start unicode) walk
  rw [← hfiles]
  exact List.perm_insertionSort (· ≤ ·) _

end Counts

/-! ### Shares -/

section Shares
variable {unicode : UnicodeData} {language? : String → Option String} {files : List String}

theorem length_suffixes : (suffixes unicode files).length = filesWithSuffix unicode files := by
  unfold suffixes filesWithSuffix
  rw [← List.countP_eq_length_filter, List.countP_map]
  rfl

theorem groupSize_suffixes (hnone : language? "" = none) (language : String) :
    Tally.groupSize language? (suffixes unicode files) language =
      filesOf unicode language? files language := by
  unfold Tally.groupSize suffixes filesOf
  rw [List.countP_filter, List.countP_map]
  apply List.countP_congr
  intro relative _
  rw [Function.comp_apply, Bool.and_eq_true]
  constructor
  · exact And.left
  · intro hlanguage
    refine ⟨hlanguage, ?_⟩
    rw [bne_iff_ne]
    intro hempty
    rw [hempty, hnone] at hlanguage
    cases hlanguage

theorem languagesOf_tally (suffixes : List String) :
    languagesOf language? (Tally.tally suffixes) =
      Tally.shares ℚ language? suffixes (if suffixes.length = 0 then 1 else suffixes.length) := by
  have htotal : suffixTotal (Tally.tally suffixes) =
      if suffixes.length = 0 then 1 else suffixes.length := by
    unfold suffixTotal
    rw [Tally.sum_tally]
  unfold languagesOf
  rw [htotal]
  rfl

theorem oneSuffixEach_iff (hnone : language? "" = none) :
    OneSuffixEach unicode language? files ↔ ∀ x ∈ suffixes unicode files,
      ∀ y ∈ suffixes unicode files, language? x = language? y → language? x ≠ none → x = y := by
  constructor
  · intro h x hx y hy
    obtain ⟨file, hfile, rfl⟩ := List.mem_map.mp (List.mem_of_mem_filter hx)
    obtain ⟨other, hother, rfl⟩ := List.mem_map.mp (List.mem_of_mem_filter hy)
    exact h file hfile other hother
  · intro h file hfile other hother hsame hsome
    have hsuffix : ∀ f ∈ files, language? (lowerSuffix unicode f) ≠ none →
        lowerSuffix unicode f ∈ suffixes unicode files := by
      intro f hf hlanguage
      refine List.mem_filter.mpr ⟨List.mem_map_of_mem hf, ?_⟩
      rw [bne_iff_ne]
      intro hempty
      rw [hempty] at hlanguage
      exact hlanguage hnone
    exact h _ (hsuffix file hfile hsome) _ (hsuffix other hother (hsame ▸ hsome)) hsame hsome

theorem sharesCount_iff (hnone : language? "" = none) :
    SharesCount unicode language? files
        (languagesOf language? (Tally.tally (suffixes unicode files))) ↔
      OneSuffixEach unicode language? files := by
  rw [languagesOf_tally, oneSuffixEach_iff hnone]
  have htotal : 0 < if (suffixes unicode files).length = 0 then 1
      else (suffixes unicode files).length := by
    split <;> omega
  have hlength : (suffixes unicode files).length ≤ if (suffixes unicode files).length = 0 then 1
      else (suffixes unicode files).length := by
    split <;> omega
  rw [← Tally.shares_count_iff (K := ℚ) htotal]
  -- without a suffix both quotients are zero, whatever they are divided by
  have hquotient : ∀ language, (Tally.groupSize language? (suffixes unicode files) language : ℚ) /
      (if (suffixes unicode files).length = 0 then 1 else (suffixes unicode files).length : Nat) =
        (filesOf unicode language? files language : ℚ) / filesWithSuffix unicode files := by
    intro language
    rw [← length_suffixes, ← groupSize_suffixes hnone]
    split
    · rename_i hzero
      rw [List.length_eq_zero_iff.mp hzero]
      simp [Tally.groupSize]
    · rfl
  constructor
  · intro h language
    rw [h.share, hquotient]
  · intro h
    refine ⟨?_, Tally.sum_shares_le htotal hlength⟩
    intro language
    rw [h, hquotient]

/-! ### The most common language -/

theorem foldl_best (first : String × ℚ) (rest : List (String × ℚ)) :
    rest.foldl (fun best e => if best.2 < e.2 then e else best) first ∈ first :: rest ∧
      ∀ e ∈ first :: rest,
        e.2 ≤ (rest.foldl (fun best e => if best.2 < e.2 then e else best) first).2 := by
  induction rest generalizing first with
  | nil =>
    refine ⟨List.mem_cons_self, ?_⟩
    intro e he
    rw [List.mem_singleton.mp he]
    exact le_refl _
  | cons next rest ih =>
    rw [List.foldl_cons]
    obtain ⟨hmem, hbest⟩ := ih (if first.2 < next.2 then next else first)
    constructor
    · rcases List.mem_cons.mp hmem with heq | htail
      · rw [heq]
        split
        · exact List.mem_cons_of_mem _ List.mem_cons_self
        · exact List.mem_cons_self
      · exact List.mem_cons_of_mem _ (List.mem_cons_of_mem _ htail)
    · have hhead := hbest _ List.mem_cons_self
      intro e he
      rcases List.mem_cons.mp he with rfl | he
      · refine le_trans ?_ hhead
        split
        · rename_i hlt
          exact hlt.le
        · exact le_refl _
      · rcases List.mem_cons.mp he with rfl | he
        · refine le_trans ?_ hhead
          split
          · exact le_refl _
          · rename_i hle
            exact not_lt.mp hle
        · exact hbest e (List.mem_cons_of_mem _ he)

/-- Of a dictionary of shares, none is above that of the most common language. -/
theorem share_le_mostCommon {languages : List (String × ℚ)}
    (hkeys : (languages.map Prod.fst).Nodup) {language : String} {q : ℚ}
    (h : languages.lookup language = some q) :
    q ≤ (languages.lookup (mostCommonLanguage languages)).getD 0 := by
  have hmem := (Tally.lookup_eq_some_iff_mem hkeys).mp h
  cases languages with
  | nil => cases hmem
  | cons first rest =>
    obtain ⟨hbest, hle⟩ := foldl_best first rest
    have hlookup : (first :: rest).lookup (mostCommonLanguage (first :: rest)) = some
        (rest.foldl (fun best e => if best.2 < e.2 then e else best) first).2 :=
      (Tally.lookup_eq_some_iff_mem hkeys).mpr hbest
    rw [hlookup]
    exact hle _ hmem

theorem SharesCount.filesOf_le_mostCommon {languages : List (String × ℚ)}
    (h : SharesCount unicode language? files languages) (hnone : language? "" = none)
    (hkeys : (languages.map Prod.fst).Nodup) (language : String) :
    filesOf unicode language? files language ≤
      filesOf unicode language? files (mostCommonLanguage languages) := by
  by_cases hzero : filesOf unicode language? files language = 0
  · omega
  · have hle : filesOf unicode language? files language ≤ filesWithSuffix unicode files := by
      rw [← groupSize_suffixes hnone, ← length_suffixes]
      exact List.countP_le_length
    have hpos : (0 : ℚ) < filesWithSuffix unicode files := Nat.cast_pos.mpr (by omega)
    have hshare := h.share language
    cases hlookup : languages.lookup language with
    | none =>
      rw [hlookup, Option.getD_none, eq_comm, div_eq_zero_iff] at hshare
      rcases hshare with hfiles | hfiles
      · exact absurd (Nat.cast_eq_zero.mp hfiles) hzero
      · exact absurd hfiles hpos.ne'
    | some q =>
      have hq := share_le_mostCommon hkeys hlookup
      rw [hlookup, Option.getD_some] at hshare
      rw [h.share, hshare, div_le_div_iff_of_pos_right hpos, Nat.cast_le] at hq
      exact hq

end Shares

/-! ### The profile and the manifest -/

/-- The shares of the profile and of the manifest count files, and no language has more files
than the one that `A1.70` takes its defaults from. -/
structure LanguagesCount (unicode : UnicodeData) (walk : List Entry) (profile : ProjectProfile)
    (files : List String) (manifest : RepositoryManifest) : Prop where
  listed : profile.sourceFiles.Perm (counted walk)
  discovered : SharesCount unicode languageForSuffix (counted walk) profile.languages
  parsed : SharesCount unicode (languageBySuffix.lookup ·) files manifest.languages
  dominant : ∀ language, filesOf unicode languageForSuffix (counted walk) language ≤
    filesOf unicode languageForSuffix (counted walk) (mostCommonLanguage profile.languages)

/-- Over every tree and snapshot, in whatever order they are walked. -/
theorem languages_count_files_iff (unicode : UnicodeData) (rootName : String) (walk : List Entry)
    (files exclusions : List String) (tools : DeclaredTools) :
    LanguagesCount unicode walk (discoverProjectProfile unicode rootName walk) files
        (handleA230 unicode files exclusions tools) ↔
      OneSuffixEach unicode languageForSuffix (counted walk) ∧
        OneSuffixEach unicode (languageBySuffix.lookup ·) files := by
  have hscan : (scan unicode rootName {} walk).sourceFiles = counted walk :=
    scan_sourceFiles (scanInv_start unicode) walk
  have hprofile : (discoverProjectProfile unicode rootName walk).languages =
      languagesOf languageForSuffix (Tally.tally (suffixes unicode (counted walk))) := by
    rw [← hscan, ← scan_counts (scanInv_start unicode) walk]
    rfl
  have hmanifest : (handleA230 unicode files exclusions tools).languages =
      languagesOf (languageBySuffix.lookup ·) (Tally.tally (suffixes unicode files)) := by
    rw [← foldl_countSuffix]
    rfl
  have hkeys : ((discoverProjectProfile unicode rootName walk).languages.map Prod.fst).Nodup := by
    rw [hprofile, languagesOf_tally]
    exact Tally.keys_ofEntries _
  constructor
  · intro h
    exact ⟨(sharesCount_iff (by decide)).mp (hprofile ▸ h.discovered),
      (sharesCount_iff (by decide)).mp (hmanifest ▸ h.parsed)⟩
  · rintro ⟨hwalk, hfiles⟩
    have hdiscovered : SharesCount unicode languageForSuffix (counted walk)
        (discoverProjectProfile unicode rootName walk).languages := by
      rw [hprofile]
      exact (sharesCount_iff (by decide)).mpr hwalk
    refine ⟨sourceFiles_perm unicode rootName walk, hdiscovered, ?_,
      hdiscovered.filesOf_le_mostCommon (by decide) hkeys⟩
    rw [hmanifest]
    exact (sharesCount_iff (by decide)).mpr hfiles

/-- Three files of TypeScript and two of Python. -/
def mixedFiles : List String := ["a.ts", "b.ts", "view.tsx", "run.py", "test.py"]

def mixedWalk : List Entry := mixedFiles.map fun relative => ⟨relative, true, some 1⟩

/-- The share is that of the one `.tsx` file, and Python sets the defaults. -/
theorem mixed_suffixes_miscounted :
    mostCommonLanguage (discoverProjectProfile asciiData "repo" mixedWalk).languages = "python" ∧
      filesOf asciiData languageForSuffix (counted mixedWalk) "python" <
        filesOf asciiData languageForSuffix (counted mixedWalk) "typescript" ∧
      ¬ LanguagesCount asciiData mixedWalk (discoverProjectProfile asciiData "repo" mixedWalk)
        mixedFiles (handleA230 asciiData mixedFiles [] ⟨[], false, false⟩) := by
  have hpython : mostCommonLanguage
      (discoverProjectProfile asciiData "repo" mixedWalk).languages = "python" := by
    decide +kernel
  have hfewer : filesOf asciiData languageForSuffix (counted mixedWalk) "python" <
      filesOf asciiData languageForSuffix (counted mixedWalk) "typescript" := by
    decide +kernel
  refine ⟨hpython, hfewer, ?_⟩
  intro h
  have hdominant := h.dominant "typescript"
  rw [hpython] at hdominant
  omega

end ProductionOptimizer.Discovery
