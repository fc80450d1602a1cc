import ProductionOptimizer.PatchText

/-!
# When a patch reproduces the change

The applier gets back what the workspace holds when every line of the script keeps its own
line of the patch: it ends in a newline, and the last one shows something before it.
-/

namespace ProductionOptimizer.PatchText
open EditScript LineCut
set_option autoImplicit false

variable (differ : Differ) (source workspace : Tree) (changed : List Text)

/-- Applying the patch succeeds, and leaves in every changed file the workspace's lines. -/
def Reproduces : Prop :=
  ∃ tree, applyPatch (patchText differ source workspace changed) (treeLines source) = some tree ∧
    ∀ rel ∈ changed, tree rel = treeLines workspace rel

def EndsLine (line : Line) : Prop := line.getLast? = some '\n'

instance (line : Line) : Decidable (EndsLine line) := inferInstanceAs (Decidable (_ = _))

/-- Something other than white space stands before the end of an entry's line. -/
def visible (entry : Tag × Line) : Bool :=
  (entryLine entry).dropLast.getLast?.any fun c => !isWhitespace c

def lastEntry (hunks : List (Hunk Line)) : Option (Tag × Line) :=
  hunks.getLast?.bind fun hunk => hunk.body.getLast?

structure Reproducible : Prop where
  distinct : changed.Nodup
  named : ∀ rel ∈ changed, fileHunks differ source workspace rel ≠ [] → Plain rel
  /-- The script, made for the lines Python cuts, fits the lines the applier sees too. -/
  fits : ∀ rel ∈ changed,
    patch (fileHunks differ source workspace rel) (treeLines source rel) =
      some (treeLines workspace rel)
  differs : ∃ rel ∈ changed, fileHunks differ source workspace rel ≠ []
  ended : ∀ rel ∈ changed, ∀ hunk ∈ fileHunks differ source workspace rel,
    ∀ entry ∈ hunk.body, EndsLine entry.2
  closes : ∀ entry ∈ lastEntry (changed.flatMap (fileHunks differ source workspace)),
    visible entry = true

/-! ### The way through the artifact -/

/-- The text without the white space at its end, and with a last newline. -/
def mended (text : Text) : Text := text.rdropWhile isWhitespace ++ ['\n']

theorem rdropWhile_cons_of_visible {c : Char} {text : Text}
    (h : ∃ d ∈ c :: text, isWhitespace d = false) :
    ∃ rest, (c :: text).rdropWhile isWhitespace = c :: rest := by
  have hne : (c :: text).rdropWhile isWhitespace ≠ [] := by
    intro hnil
    obtain ⟨d, hd, hseen⟩ := h
    have hall := List.rdropWhile_eq_nil_iff.mp hnil d hd
    rw [hseen] at hall
    cases hall
  obtain ⟨d, rest, hrest⟩ := List.exists_cons_of_ne_nil hne
  have hstart : d :: rest <+: c :: text := hrest ▸ List.rdropWhile_prefix _ _
  obtain ⟨rfl, -⟩ := List.cons_prefix_cons.mp hstart
  exact ⟨rest, hrest⟩

theorem stripWhitespace_cons {c : Char} (hc : isWhitespace c = false) (text : Text) :
    stripWhitespace (c :: text) = (c :: text).rdropWhile isWhitespace := by
  unfold stripWhitespace
  rw [List.dropWhile_cons_of_neg (by simp [hc])]

/-- A diff goes through the artifact and S06.90 with its end mended and nothing else. -/
theorem patchFile_readBack_sealedDiff {c : Char} (hc : isWhitespace c = false) (text : Text) :
    patchFile (readBack (sealedDiff (c :: text))) = mended (c :: text) := by
  obtain ⟨rest, hrest⟩ : ∃ rest, (c :: text).rdropWhile isWhitespace = c :: rest :=
    rdropWhile_cons_of_visible ⟨c, List.mem_cons_self, hc⟩
  have hsealed : sealedDiff (c :: text) = c :: rest := by
    simp [sealedDiff, stripWhitespace_cons hc, hrest]
  have hagain : readBack (c :: rest) = c :: rest := by
    rw [readBack, stripWhitespace_cons hc, ← hrest, List.rdropWhile_idempotent]
  have hlast : (c :: rest).getLast? ≠ some '\n' := by
    intro hlast
    have hne : (c :: text).rdropWhile isWhitespace ≠ [] := by simp [hrest]
    apply List.rdropWhile_last_not isWhitespace (c :: text) hne
    have hnewline : ((c :: text).rdropWhile isWhitespace).getLast hne = '\n' := by
      apply Option.some.inj
      rw [← List.getLast?_eq_some_getLast, hrest]
      exact hlast
    rw [hnewline]
    rfl
  rw [hsealed, hagain, patchFile, if_neg hlast, mended, hrest]

theorem mended_of_visible {text : Text} {c : Char} (hc : isWhitespace c = false) :
    mended (text ++ [c, '\n']) = text ++ [c, '\n'] := by
  have hsplit : text ++ [c, '\n'] = (text ++ [c]) ++ ['\n'] := by simp
  unfold mended
  rw [hsplit, List.rdropWhile_concat_pos _ _ _ rfl, List.rdropWhile_concat_neg _ _ _ (by simp [hc])]

/-! ### The lines of a diff -/

theorem ended_of_notMem {text : Text} (h : '\n' ∉ text) : Ended isNewline (text ++ ['\n']) := by
  refine ⟨text, '\n', rfl, rfl, ?_⟩
  intro c hc
  have hne : c ≠ '\n' := fun heq => h (heq ▸ hc)
  simpa [isNewline] using hne

theorem notMem_formatRange (start length : Nat) : '\n' ∉ formatRange start length := by
  have hdigits : ∀ n, '\n' ∉ Nat.toDigits 10 n := by
    intro n hmem
    cases isDigit_toDigits n '\n' hmem
  unfold formatRange
  split <;> simp [hdigits]

theorem hunkLine_eq (hunk : Hunk Line) :
    ∃ text, hunkLine hunk = text ++ ['@', '\n'] ∧ '\n' ∉ text := by
  refine ⟨['@', '@', ' ', '-'] ++ (formatRange hunk.oldStart (oldCount hunk.body) ++
    ([' ', '+'] ++ (formatRange hunk.newStart (newCount hunk.body) ++ [' ', '@']))), ?_, ?_⟩
  · simp [hunkLine]
  · simp [notMem_formatRange]

theorem ended_hunkLine (hunk : Hunk Line) : Ended isNewline (hunkLine hunk) := by
  obtain ⟨text, heq, hmem⟩ := hunkLine_eq hunk
  have hline : Ended isNewline ((text ++ ['@']) ++ ['\n']) := ended_of_notMem (by simp [hmem])
  rw [heq]
  simpa using hline

variable {differ source workspace changed}

theorem oneLine_entry {rel : Text} {hunk : Hunk Line} {entry : Tag × Line}
    (hhunk : hunk ∈ fileHunks differ source workspace rel) (hentry : entry ∈ hunk.body) :
    OneLine isNewline entry.2 := by
  have hread : ∀ tree, entry.2 ∈ readLines tree rel → OneLine isNewline entry.2 := by
    intro tree hmem
    unfold readLines at hmem
    split at hmem
    · cases hmem
    · obtain ⟨hne, hbreaks⟩ := oneLine_of_mem_cut hmem
      refine ⟨hne, ?_⟩
      intro c hc
      have hbreak := hbreaks c hc
      by_contra hnewline
      rw [Bool.not_eq_false, isNewline, beq_iff_eq] at hnewline
      subst hnewline
      cases hbreak
  rcases mem_of_patch (differ.correct _ _) hhunk hentry with hold | hnew
  · exact hread source hold
  · exact hread workspace hnew

theorem ended_entryLine {entry : Tag × Line} (hone : OneLine isNewline entry.2)
    (hends : EndsLine entry.2) : Ended isNewline (entryLine entry) := by
  obtain ⟨text, htext⟩ := List.getLast?_eq_some_iff.mp hends
  have hmark : mark entry.1 ≠ '\n' := by cases entry.1 <;> decide
  have hmem : '\n' ∉ mark entry.1 :: text := by
    intro hmem
    rcases List.mem_cons.mp hmem with heq | hmem
    · exact hmark heq.symm
    · have hfalse := hone.2 '\n' (by rw [htext, List.dropLast_concat]; exact hmem)
      cases hfalse
  have hline := ended_of_notMem hmem
  rw [entryLine, htext]
  exact hline

theorem ended_diffLines (h : Reproducible differ source workspace changed) :
    ∀ line ∈ diffLines differ source workspace changed, Ended isNewline line := by
  intro line hline
  obtain ⟨rel, hrel, hline⟩ := List.mem_flatMap.mp hline
  unfold unifiedDiff at hline
  split at hline
  · cases hline
  · next hne =>
    have hplain := h.named rel hrel (by simpa using hne)
    simp only [List.mem_cons, List.mem_flatMap, renderHunk, List.mem_map] at hline
    rcases hline with rfl | rfl | ⟨hunk, hhunk, rfl | ⟨entry, hentry, rfl⟩⟩
    · rw [← List.append_assoc]
      apply ended_of_notMem
      simp [oldMark, hplain.1]
    · rw [← List.append_assoc]
      apply ended_of_notMem
      simp [newMark, hplain.1]
    · exact ended_hunkLine hunk
    · exact ended_entryLine (oneLine_entry hhunk hentry) (h.ended rel hrel hunk hhunk entry hentry)

theorem buildUnifiedDiff_eq_cons
    (h : ∃ rel ∈ changed, fileHunks differ source workspace rel ≠ []) :
    ∃ text, buildUnifiedDiff differ source workspace changed = '-' :: text := by
  induction changed with
  | nil => simp at h
  | cons rel changed ih =>
    by_cases hrel : fileHunks differ source workspace rel = []
    · have hrest : ∃ rel ∈ changed, fileHunks differ source workspace rel ≠ [] := by
        obtain ⟨rel', hmem, hne⟩ := h
        rcases List.mem_cons.mp hmem with rfl | hmem
        · exact absurd hrel hne
        · exact ⟨rel', hmem, hne⟩
      simpa [buildUnifiedDiff, diffLines, unifiedDiff, hrel] using ih hrest
    · simp [buildUnifiedDiff, diffLines, unifiedDiff, hrel, oldMark]

/-- The diff ends with the last hunk of the last file that has one. -/
theorem diffLines_eq_append_renderHunk
    (h : ∃ rel ∈ changed, fileHunks differ source workspace rel ≠ []) :
    ∃ hunk lines, (changed.flatMap (fileHunks differ source workspace)).getLast? = some hunk ∧
      diffLines differ source workspace changed = lines ++ renderHunk hunk := by
  have hne : changed.flatMap (fileHunks differ source workspace) ≠ [] := by
    simpa [List.flatMap_eq_nil_iff] using h
  obtain ⟨hunks, hunk, heq⟩ : ∃ hunks hunk,
      changed.flatMap (fileHunks differ source workspace) = hunks ++ [hunk] :=
    ⟨_, _, (List.dropLast_append_getLast hne).symm⟩
  obtain ⟨rels, rel, rels', before, later, rfl, hrel, -, hlater⟩ := flatMap_eq_append_cons heq
  obtain ⟨rfl, hrels⟩ := List.append_eq_nil_iff.mp hlater.symm
  have hsilent : rels'.flatMap
      (fun rel => unifiedDiff rel (fileHunks differ source workspace rel)) = [] := by
    apply List.flatMap_eq_nil_iff.mpr
    intro rel' hmem
    simp [unifiedDiff, List.flatMap_eq_nil_iff.mp hrels rel' hmem]
  refine ⟨hunk, diffLines differ source workspace rels ++
    ((oldMark ++ (rel ++ ['\n'])) :: (newMark ++ (rel ++ ['\n'])) :: before.flatMap renderHunk),
    by simp [heq], ?_⟩
  simp only [diffLines, List.flatMap_append, List.flatMap_cons, hsilent]
  simp [unifiedDiff, hrel]

theorem buildUnifiedDiff_last (h : Reproducible differ source workspace changed) :
    ∃ text c, buildUnifiedDiff differ source workspace changed = text ++ [c, '\n'] ∧
      isWhitespace c = false := by
  obtain ⟨hunk, lines, hlast, hlines⟩ := diffLines_eq_append_renderHunk h.differs
  rw [buildUnifiedDiff, hlines]
  rcases List.eq_nil_or_concat hunk.body with hbody | ⟨body, entry, hbody⟩
  · -- A hunk without entries ends with its head.
    obtain ⟨text, htext, -⟩ := hunkLine_eq hunk
    refine ⟨lines.flatten ++ text, '@', ?_, rfl⟩
    simp [renderHunk, hbody, htext]
  · have hentry : entry ∈ lastEntry (changed.flatMap (fileHunks differ source workspace)) := by
      simp [lastEntry, hlast, hbody]
    have hvisible := h.closes entry hentry
    obtain ⟨c, hc, hspace⟩ := (Option.any_eq_true _ _).mp hvisible
    obtain ⟨rel, hrel, hhunk⟩ := List.mem_flatMap.mp (List.mem_of_getLast? hlast)
    have hends := h.ended rel hrel hunk hhunk entry (by simp [hbody])
    obtain ⟨text, htext⟩ := List.getLast?_eq_some_iff.mp hends
    have hline : entryLine entry = (mark entry.1 :: text) ++ ['\n'] := by
      rw [entryLine, htext, List.cons_append]
    rw [hline, List.dropLast_concat] at hc
    obtain ⟨text', htext'⟩ := List.getLast?_eq_some_iff.mp hc
    refine ⟨lines.flatten ++ (hunkLine hunk ++ ((body.map entryLine).flatten ++ text')), c, ?_, ?_⟩
    · simp [renderHunk, hbody, hline, htext']
    · simpa using hspace

/-- A script whose lines keep their own lines of the patch is carried out. -/
theorem reproduces_of_reproducible (h : Reproducible differ source workspace changed) :
    Reproduces differ source workspace changed := by
  obtain ⟨text, c, htext, hc⟩ := buildUnifiedDiff_last h
  obtain ⟨rest, hrest⟩ := buildUnifiedDiff_eq_cons h.differs
  have hpatch : patchText differ source workspace changed =
      (diffLines differ source workspace changed).flatten := by
    rw [patchText, hrest, patchFile_readBack_sealedDiff rfl, ← hrest, htext, mended_of_visible hc,
      ← htext, buildUnifiedDiff]
  obtain ⟨s, hrun, hresting, hnew, -, hmode⟩ := feed_sections (s := ⟨treeLines source, .idle⟩)
    (.inl rfl) h.distinct h.named h.fits
  refine ⟨s.closed, ?_, hnew⟩
  rw [applyPatch, hpatch, cut_flatten (ended_diffLines h), diffLines, hrun]
  exact finish_of_resting hresting (hmode (.inr h.differs))

end ProductionOptimizer.PatchText
