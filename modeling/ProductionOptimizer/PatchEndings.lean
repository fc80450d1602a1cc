import Mathlib.Data.List.Chain
import ProductionOptimizer.PatchReproduction

/-!
# Where a patch comes apart

A line of the script that does not keep its own line of the patch is glued to the next one, or
cut short at the end. On files whose lines Python and the applier cut alike, neither goes
unnoticed: the applier refuses the patch, or leaves other lines than the workspace's.
-/

namespace ProductionOptimizer.PatchText
open EditScript LineCut
set_option autoImplicit false

/-- Files with plain names and no line breaks but newlines, and scripts that delete before they
insert, as those of `difflib` do. -/
structure Ordinary (differ : Differ) (source workspace : Tree) (changed : List Text) : Prop where
  distinct : changed.Nodup
  named : ∀ rel ∈ changed, Plain rel
  cutAlike : ∀ rel ∈ changed, readLines source rel = treeLines source rel ∧
    readLines workspace rel = treeLines workspace rel
  deletesFirst : ∀ rel ∈ changed,
    ((fileHunks differ source workspace rel).flatMap Hunk.body).IsChain fun entry next =>
      entry.1 = .insert → next.1 ≠ .delete

variable {differ : Differ} {source workspace : Tree} {changed : List Text}

theorem Ordinary.fits (ho : Ordinary differ source workspace changed) :
    ∀ rel ∈ changed, patch (fileHunks differ source workspace rel) (treeLines source rel) =
      some (treeLines workspace rel) := by
  intro rel hrel
  obtain ⟨hsource, hworkspace⟩ := ho.cutAlike rel hrel
  rw [← hsource, ← hworkspace]
  exact differ.correct _ _

/-! ### Finding an entry in the diff -/

/-- The entry a line of the diff stands for, and what the applier makes of the lines before it. -/
structure Place (differ : Differ) (source workspace : Tree) (changed : List Text)
    (before : List Line) (line : Line) (after : List Line) where
  rel : Text
  entry : Tag × Line
  post : List (Tag × Line)
  later : List (Hunk Line)
  others : List Line
  tree : Text → List Line
  cursor : Cursor Line
  edited : Cursor Line
  finished : Cursor Line
  mem : rel ∈ changed
  oneLine : OneLine isNewline entry.2
  line_eq : line = entryLine entry
  after_eq : after = post.map entryLine ++ (later.flatMap renderHunk ++ others)
  others_visible : others ≠ [] → ∃ c ∈ others.flatten, isWhitespace c = false
  run : before.foldlM Applier.feed ⟨treeLines source, .idle⟩ =
    some (within tree rel cursor (entry :: post))
  edit : cursor.edit entry = some edited
  rest : (post.foldlM Cursor.edit edited).bind (later.foldlM Cursor.applyHunk ·) = some finished
  result : finished.result = treeLines workspace rel
  deletesFirst : (entry :: (post ++ later.flatMap Hunk.body)).IsChain fun entry next =>
    entry.1 = .insert → next.1 ≠ .delete

/-- A line of a head: it is whole, and the diff does not end right after it with its end lost. -/
structure HeadLine (line : Line) (after : List Line) : Prop where
  ended : Ended isNewline line
  visible : ∃ c ∈ line, isWhitespace c = false
  kept : (∀ c ∈ after.flatten, isWhitespace c = true) → mended line = line

theorem diffLines_eq_nil {rels : List Text}
    (h : ¬ ∃ rel ∈ rels, fileHunks differ source workspace rel ≠ []) :
    diffLines differ source workspace rels = [] := by
  apply List.flatMap_eq_nil_iff.mpr
  intro rel hrel
  have hnil : fileHunks differ source workspace rel = [] := by
    by_contra hne
    exact h ⟨rel, hrel, hne⟩
  simp [unifiedDiff, hnil]

theorem exists_visible_diffLines {rels : List Text}
    (h : diffLines differ source workspace rels ≠ []) :
    ∃ c ∈ (diffLines differ source workspace rels).flatten, isWhitespace c = false := by
  have hdiffers : ∃ rel ∈ rels, fileHunks differ source workspace rel ≠ [] := by
    by_contra hnone
    exact h (diffLines_eq_nil hnone)
  obtain ⟨text, htext⟩ := buildUnifiedDiff_eq_cons hdiffers
  rw [buildUnifiedDiff] at htext
  exact ⟨'-', by rw [htext]; exact List.mem_cons_self, rfl⟩

theorem headLine_hunkLine (hunk : Hunk Line) (after : List Line) :
    HeadLine (hunkLine hunk) after := by
  obtain ⟨text, htext, -⟩ := hunkLine_eq hunk
  refine ⟨ended_hunkLine hunk, ⟨'@', by simp [htext], rfl⟩, ?_⟩
  intro _
  rw [htext]
  exact mended_of_visible rfl

/-- The two lines with a file's name come before a hunk. -/
theorem headLine_file {marks rel : Text} (hplain : Plain rel) (hmarks : '\n' ∉ marks)
    (hvisible : ∃ c ∈ marks, isWhitespace c = false) {hunk : Hunk Line} {after : List Line}
    (hafter : hunkLine hunk ∈ after) : HeadLine (marks ++ (rel ++ ['\n'])) after := by
  obtain ⟨c, hc, hspace⟩ := hvisible
  refine ⟨?_, ⟨c, List.mem_append_left _ hc, hspace⟩, ?_⟩
  · rw [← List.append_assoc]
    apply ended_of_notMem
    simp [hmarks, hplain.1]
  · intro hall
    obtain ⟨d, hd, hseen⟩ := (headLine_hunkLine hunk []).visible
    have hblank := hall d (List.mem_flatten.mpr ⟨_, hafter, hd⟩)
    rw [hseen] at hblank
    cases hblank

/-- The applier reaches every entry with the cursor the script has there. -/
theorem placed (ho : Ordinary differ source workspace changed) {rels rels' : List Text}
    {rel : Text} (hchanged : changed = rels ++ rel :: rels') {hunks later : List (Hunk Line)}
    {hunk : Hunk Line} (hhunks : fileHunks differ source workspace rel = hunks ++ hunk :: later)
    {pre post : List (Tag × Line)} {entry : Tag × Line} (hbody : hunk.body = pre ++ entry :: post) :
    Nonempty (Place differ source workspace changed
      (diffLines differ source workspace rels ++ ((oldMark ++ (rel ++ ['\n'])) ::
        (newMark ++ (rel ++ ['\n'])) ::
          (hunks.flatMap renderHunk ++ hunkLine hunk :: pre.map entryLine)))
      (entryLine entry)
      (post.map entryLine ++
        (later.flatMap renderHunk ++ diffLines differ source workspace rels'))) := by
  have hrel : rel ∈ changed := by simp [hchanged]
  have hrels : ∀ r ∈ rels, r ∈ changed := by
    intro r hr
    simp [hchanged, hr]
  have hnodup := ho.distinct
  rw [hchanged, List.nodup_append] at hnodup
  have hnot : rel ∉ rels := fun hmem => hnodup.2.2 rel hmem rel List.mem_cons_self rfl
  -- The files before this one leave it as it is in the source tree.
  obtain ⟨s, hbefore, hresting, -, hclosed, -⟩ :=
    feed_sections (s := ⟨treeLines source, .idle⟩) (.inl rfl) hnodup.1
      (fun r hr _ => ho.named r (hrels r hr)) (fun r hr => ho.fits r (hrels r hr))
  have hsame : s.closed rel = treeLines source rel := hclosed rel hnot
  have hfiles := feed_files hresting (ho.named rel hrel).1 (ho.named rel hrel).2
  rw [hsame] at hfiles
  -- The script of the file, taken apart at the entry.
  obtain ⟨finished, hscript, hresult⟩ := Option.map_eq_some_iff.mp (ho.fits rel hrel)
  rw [hhunks, List.foldlM_append] at hscript
  obtain ⟨c₀, hc₀, hscript⟩ := Option.bind_eq_some_iff.mp hscript
  rw [List.foldlM_cons] at hscript
  obtain ⟨c₂, happly, hlater⟩ := Option.bind_eq_some_iff.mp hscript
  obtain ⟨c₁, hseek, hentries⟩ := Option.bind_eq_some_iff.mp happly
  rw [hbody, List.foldlM_append] at hentries
  obtain ⟨c, hpre, hentries⟩ := Option.bind_eq_some_iff.mp hentries
  rw [List.foldlM_cons] at hentries
  obtain ⟨edited, hedit, hpost⟩ := Option.bind_eq_some_iff.mp hentries
  have hmem : hunk ∈ fileHunks differ source workspace rel := by simp [hhunks]
  have hchain := ho.deletesFirst rel hrel
  rw [hhunks, List.flatMap_append, List.flatMap_cons, hbody, List.append_assoc,
    ← List.append_assoc] at hchain
  exact ⟨{
    rel := rel
    entry := entry
    post := post
    later := later
    others := diffLines differ source workspace rels'
    tree := s.closed
    cursor := c
    edited := edited
    finished := finished
    mem := hrel
    oneLine := oneLine_entry hmem (by simp [hbody])
    line_eq := rfl
    after_eq := rfl
    others_visible := exists_visible_diffLines
    run := by
      have hhunk : (hunkLine hunk :: pre.map entryLine).foldlM Applier.feed
          ⟨s.closed, .ready rel c₀⟩ = some (within s.closed rel c (entry :: post)) := by
        rw [List.foldlM_cons, feed_hunkLine, hseek, hbody]
        refine (feed_entries pre (entry :: post)).trans ?_
        rw [hpre, Option.map_some]
      have hready := @feed_hunks s.closed rel { rest := treeLines source rel } hunks
      rw [hc₀, Option.map_some] at hready
      rw [diffLines, feed_append hbefore]
      refine (feed_append hfiles _).trans ?_
      exact (feed_append hready _).trans hhunk
    edit := hedit
    rest := by rw [hpost, Option.bind_some, hlater]
    result := hresult
    deletesFirst := hchain.right_of_append }⟩

/-- Every line of the diff is part of a head or stands for an entry. -/
theorem headLine_or_place (ho : Ordinary differ source workspace changed)
    {before after : List Line} {line : Line}
    (hsplit : diffLines differ source workspace changed = before ++ line :: after) :
    HeadLine line after ∨ Nonempty (Place differ source workspace changed before line after) := by
  obtain ⟨rels, rel, rels', lines, lines', hchanged, hsection, rfl, rfl⟩ :=
    flatMap_eq_append_cons hsplit
  have hplain := ho.named rel (by simp [hchanged])
  unfold unifiedDiff at hsection
  split at hsection
  · simp at hsection
  · next hne =>
    obtain ⟨first, others, hfirst⟩ := List.exists_cons_of_ne_nil (by simpa using hne)
    have hhead : hunkLine first ∈ (fileHunks differ source workspace rel).flatMap renderHunk := by
      simp [hfirst, renderHunk]
    cases lines with
    | nil =>
      obtain ⟨rfl, rfl⟩ := List.cons.inj hsection
      left
      apply headLine_file hplain (by decide) ⟨'-', List.mem_cons_self, rfl⟩
      exact List.mem_append_left _ (List.mem_cons_of_mem _ hhead)
    | cons old lines =>
      obtain ⟨hold, hrest⟩ := List.cons.inj hsection
      cases lines with
      | nil =>
        obtain ⟨rfl, rfl⟩ := List.cons.inj hrest
        left
        apply headLine_file hplain (by decide) ⟨'+', List.mem_cons_self, rfl⟩
        exact List.mem_append_left _ hhead
      | cons new lines =>
        obtain ⟨hnew, hflat⟩ := List.cons.inj hrest
        obtain ⟨hunks, hunk, later, entries, entries', hhunks, hrender, rfl, rfl⟩ :=
          flatMap_eq_append_cons hflat
        cases entries with
        | nil =>
          obtain ⟨rfl, -⟩ := List.cons.inj hrender
          exact .inl (headLine_hunkLine hunk _)
        | cons head entries =>
          obtain ⟨hhunk, hmap⟩ := List.cons.inj hrender
          obtain ⟨pre, tail, hbody, rfl, htail⟩ := List.map_eq_append_iff.mp hmap
          obtain ⟨entry, post, rfl, rfl, rfl⟩ := List.map_eq_cons_iff.mp htail
          right
          subst hold hnew hhunk
          simpa [diffLines] using placed ho hchanged hhunks hbody

/-! ### The end of a text -/

theorem exists_last_visible {lines : List Line}
    (h : ∃ c ∈ lines.flatten, isWhitespace c = false) :
    ∃ before line after, lines = before ++ line :: after ∧
      (∃ c ∈ line, isWhitespace c = false) ∧ ∀ c ∈ after.flatten, isWhitespace c = true := by
  induction lines with
  | nil => simp at h
  | cons first lines ih =>
    by_cases hrest : ∃ c ∈ lines.flatten, isWhitespace c = false
    · obtain ⟨before, line, after, rfl, hline, hafter⟩ := ih hrest
      exact ⟨first :: before, line, after, rfl, hline, hafter⟩
    · have hblank : ∀ c ∈ lines.flatten, isWhitespace c = true := by
        intro c hc
        by_contra hseen
        exact hrest ⟨c, hc, Bool.eq_false_iff.mpr hseen⟩
      obtain ⟨c, hc, hseen⟩ := h
      rw [List.flatten_cons] at hc
      rcases List.mem_append.mp hc with hc | hc
      · exact ⟨[], first, lines, rfl, ⟨c, hc, hseen⟩, hblank⟩
      · exact absurd ⟨c, hc, hseen⟩ hrest

theorem mended_append {line after : Text} (before : Text)
    (hline : ∃ c ∈ line, isWhitespace c = false) (hafter : ∀ c ∈ after, isWhitespace c = true) :
    mended (before ++ (line ++ after)) = before ++ mended line := by
  have hne : (line.reverse.dropWhile isWhitespace).isEmpty = false := by
    obtain ⟨c, hc, hseen⟩ := hline
    rw [List.isEmpty_eq_false_iff]
    intro hnil
    have hall := List.dropWhile_eq_nil_iff.mp hnil c (List.mem_reverse.mpr hc)
    rw [hseen] at hall
    cases hall
  have hafter' : ∀ c ∈ after.reverse, isWhitespace c = true := by
    intro c hc
    exact hafter c (List.mem_reverse.mp hc)
  unfold mended List.rdropWhile
  rw [List.reverse_append, List.reverse_append, List.append_assoc,
    List.dropWhile_append_of_pos hafter', List.dropWhile_append, hne]
  simp

theorem ended_mended {line : Line} (h : OneLine isNewline line) :
    Ended isNewline (mended line) := by
  apply ended_of_notMem
  intro hmem
  have hne : line.rdropWhile isWhitespace ≠ [] := List.ne_nil_of_mem hmem
  have hsplit := List.dropLast_append_getLast hne
  rw [← hsplit] at hmem
  rcases List.mem_append.mp hmem with hmem | hmem
  · -- What is dropped is the end, so the others are no line's last character.
    have hsub : (line.rdropWhile isWhitespace).dropLast ⊆ line.dropLast := by
      obtain ⟨rest, hrest⟩ := List.rdropWhile_prefix isWhitespace line
      intro c hc
      rw [← hrest]
      cases rest with
      | nil => rwa [List.append_nil]
      | cons d rest =>
        rw [List.dropLast_append_of_ne_nil (List.cons_ne_nil d rest)]
        exact List.mem_append_left _ (List.dropLast_subset _ hc)
    have hfalse := h.2 '\n' (hsub hmem)
    cases hfalse
  · have hlast := List.rdropWhile_last_not isWhitespace line hne
    rw [← List.mem_singleton.mp hmem] at hlast
    exact hlast rfl

/-! ### What a line of the patch can bring into a file -/

theorem closed_settle (tree : Text → List Line) (rel : Text) (c : Cursor Line) (old new : Nat) :
    (⟨tree, settle rel c old new⟩ : Applier).closed = Function.update tree rel c.result := by
  unfold settle
  split <;> rfl

/-- If the open file gets no line but `text`, neither does the tree. -/
theorem mem_update_result {tree : Text → List Line} {rel name : Text} {c c' : Cursor Line}
    {P : Prop} {text : Line} (h : text ∈ c'.result → text ∈ c.result ∨ P)
    (htext : text ∈ Function.update tree name c'.result rel) :
    text ∈ Function.update tree name c.result rel ∨ P := by
  by_cases hname : rel = name
  · subst hname
    rw [Function.update_self] at htext ⊢
    exact h htext
  · rw [Function.update_of_ne hname] at htext ⊢
    exact .inl htext

theorem mem_closed_feed {s s' : Applier} {line : Line} (h : s.feed line = some s') {rel : Text}
    {text : Line} (htext : text ∈ s'.closed rel) :
    text ∈ s.closed rel ∨ ∃ c, line = c :: text := by
  obtain ⟨tree, mode⟩ := s
  have hopen : ∀ tree : Text → List Line, openFile tree line = some s' →
      s'.closed = tree := by
    intro tree h
    obtain ⟨_, -, rfl⟩ := Option.map_eq_some_iff.mp h
    rfl
  cases mode with
  | idle =>
    rw [hopen tree h] at htext
    exact .inl htext
  | target name =>
    obtain ⟨_, -, hready⟩ := Option.bind_eq_some_iff.mp h
    split at hready
    · obtain rfl := Option.some.inj hready
      left
      simpa [Applier.closed, Cursor.result] using htext
    · cases hready
  | ready name cursor =>
    unfold Applier.feed at h
    dsimp only at h
    split at h
    · obtain ⟨cursor', hseek, hsettle⟩ := Option.bind_eq_some_iff.mp h
      obtain rfl := Option.some.inj hsettle
      rw [closed_settle] at htext
      apply mem_update_result _ htext
      intro hmem
      rw [result_seek hseek] at hmem
      exact .inl hmem
    · rw [hopen _ h] at htext
      exact .inl htext
  | inside name cursor old new =>
    cases line with
    | nil => cases h
    | cons c content =>
      obtain ⟨tag, -, hcount⟩ := Option.bind_eq_some_iff.mp h
      obtain ⟨counts, -, hedit⟩ := Option.bind_eq_some_iff.mp hcount
      obtain ⟨cursor', hcursor, hsettle⟩ := Option.bind_eq_some_iff.mp hedit
      obtain rfl := Option.some.inj hsettle
      rw [closed_settle] at htext
      apply mem_update_result _ htext
      intro hmem
      apply (mem_result_edit hcursor hmem).imp_right
      intro heq
      exact ⟨c, by rw [heq]⟩

/-- A line of the result was in the file, or is what a line of the patch says. -/
theorem mem_closed_run {s s' : Applier} {lines : List Line}
    (h : lines.foldlM Applier.feed s = some s') {rel : Text} {text : Line}
    (htext : text ∈ s'.closed rel) : text ∈ s.closed rel ∨ ∃ c, c :: text ∈ lines := by
  induction lines generalizing s with
  | nil =>
    obtain rfl := Option.some.inj h
    exact .inl htext
  | cons line lines ih =>
    rw [List.foldlM_cons] at h
    obtain ⟨s₁, hfirst, hrun⟩ := Option.bind_eq_some_iff.mp h
    rcases ih hrun with hmem | ⟨c, hmem⟩
    · apply (mem_closed_feed hfirst hmem).imp_right
      rintro ⟨c, rfl⟩
      exact ⟨c, List.mem_cons_self⟩
    · exact .inr ⟨c, List.mem_cons_of_mem _ hmem⟩

theorem finish_eq_some {s : Applier} {tree : Text → List Line} (h : s.finish = some tree) :
    tree = s.closed ∧ s.Resting := by
  unfold Applier.finish at h
  split at h
  · next rel c hmode => exact ⟨(Option.some.inj h).symm, .inr ⟨rel, c, hmode⟩⟩
  · cases h

/-! ### A line that does not keep its own line of the patch -/

section Broken
variable {before after : List Line} {line : Line} {s : Applier}

theorem ended_of_treeLines_eq {tree : Tree} {rel : Text} {before after : List Line} {line : Line}
    (h : treeLines tree rel = before ++ line :: after) (hafter : after ≠ []) :
    Ended isNewline line := by
  unfold treeLines at h
  split at h
  · simp at h
  · exact ended_of_cut_eq h hafter

theorem Place.result_eq (place : Place differ source workspace changed before line after) :
    ∃ more, treeLines workspace place.rel = place.edited.written ++ more ∧
      (more = [] → place.entry.1 = .insert → place.cursor.rest = []) := by
  obtain ⟨c, hpost, hlater⟩ := Option.bind_eq_some_iff.mp place.rest
  have hpostWritten := (body_advances hpost).1
  have hlaterWritten := (hunks_advance hlater).1
  obtain ⟨more, hmore⟩ := hpostWritten.trans hlaterWritten
  refine ⟨more ++ place.finished.rest, ?_, ?_⟩
  · rw [← place.result, Cursor.result, ← hmore, List.append_assoc]
  · intro hnil hinsert
    obtain ⟨rfl, hrest⟩ := List.append_eq_nil_iff.mp hnil
    rw [List.append_nil] at hmore
    -- Nothing more is written, so nothing is deleted after the insertion either.
    have hchain := (List.isChain_cons.mp place.deletesFirst).1
    have hc : c.written = place.edited.written := by
      rw [← hmore] at hlaterWritten
      exact hlaterWritten.sublist.antisymm hpostWritten.sublist
    have hpostNil : place.post = [] := by
      apply body_eq_nil_of_still hpost hc
      intro entry hentry
      apply hchain entry _ hinsert
      cases hcases : place.post with
      | nil => simp [hcases] at hentry
      | cons first post => simpa [hcases] using hentry
    have hstill : place.finished.rest = c.rest := by
      apply rest_eq_of_still hlater (by rw [← hmore, hc])
      intro entry hentry
      apply hchain entry _ hinsert
      simpa [hpostNil] using hentry
    rw [hpostNil] at hpost
    obtain rfl := Option.some.inj hpost
    obtain ⟨-, hedited⟩ | ⟨_, hkeep, -, -⟩ | ⟨_, hdelete, -, -⟩ := edit_cases place.edit
    · rw [hedited] at hstill
      rw [← hstill, hrest]
    · rw [hinsert] at hkeep
      cases hkeep
    · rw [hinsert] at hdelete
      cases hdelete

theorem Place.feed (place : Place differ source workspace changed before line after)
    (text : Line) :
    (within place.tree place.rel place.cursor (place.entry :: place.post)).feed
        (mark place.entry.1 :: text) =
      (place.cursor.edit (place.entry.1, text)).map fun c =>
        within place.tree place.rel c place.post :=
  feed_within _ _ _ _

theorem closed_within (tree : Text → List Line) (rel : Text) (c : Cursor Line)
    (post : List (Tag × Line)) : (within tree rel c post).closed rel = c.result := by
  rw [within, closed_settle, Function.update_self]

/-- A line without a newline runs into the next one, and the file does not come out right. -/
theorem Place.glued (place : Place differ source workspace changed before line after)
    (hline : ¬ Ended isNewline line) {more : Line} (hmore : more ≠ []) {lines : List Line}
    (hlines : ∀ l ∈ lines, Ended isNewline l)
    (hrun : (before ++ (line ++ more) :: lines).foldlM Applier.feed ⟨treeLines source, .idle⟩ =
      some s) :
    s.closed place.rel ≠ treeLines workspace place.rel := by
  rw [feed_append place.run, List.foldlM_cons] at hrun
  obtain ⟨s₁, hfirst, hrest⟩ := Option.bind_eq_some_iff.mp hrun
  have hglued : line ++ more = mark place.entry.1 :: (place.entry.2 ++ more) :=
    congrArg (· ++ more) place.line_eq
  rw [hglued, place.feed] at hfirst
  obtain ⟨c, hedit, rfl⟩ := Option.map_eq_some_iff.mp hfirst
  have htext : ¬ Ended isNewline place.entry.2 := by
    intro hended
    apply hline
    rw [place.line_eq]
    exact hended.cons (by cases place.entry.1 <;> rfl)
  have hlonger : place.entry.2 ≠ place.entry.2 ++ more := by
    intro heq
    exact hmore (List.self_eq_append_right.mp heq)
  intro hnew
  by_cases hinsert : place.entry.1 = .insert
  · -- The unfinished line is the last of the workspace's file, and no line of the result.
    obtain ⟨others, hresult, hempty⟩ := place.result_eq
    have hnotDelete : place.entry.1 ≠ .delete := by simp [hinsert]
    rw [written_of_ne_delete place.edit hnotDelete, List.append_assoc,
      List.singleton_append] at hresult
    have hlast : others = [] := by
      by_contra hne
      exact htext (ended_of_treeLines_eq hresult hne)
    have hmem : place.entry.2 ∈ s.closed place.rel := by
      rw [hnew, hresult]
      simp
    rcases mem_closed_run hrest hmem with hmem | ⟨m, hmem⟩
    · have hc : c.result = place.cursor.written ++ [place.entry.2 ++ more] := by
        obtain ⟨-, rfl⟩ | ⟨_, hkeep, -, -⟩ | ⟨_, hdelete, -, -⟩ := edit_cases hedit
        · simp [Cursor.result, hempty hlast hinsert]
        · exact absurd (hinsert.symm.trans hkeep) (by decide)
        · exact absurd hdelete hnotDelete
      rw [closed_within, hc] at hmem
      rcases List.mem_append.mp hmem with hmem | hmem
      · obtain ⟨first, then_, hsplit⟩ := List.append_of_mem hmem
        rw [hsplit, List.append_assoc, List.cons_append] at hresult
        exact htext (ended_of_treeLines_eq hresult (by simp))
      · exact hlonger (List.mem_singleton.mp hmem)
    · exact htext ((hlines _ hmem).tail place.oneLine.1)
  · exact hlonger (eq_of_edit_edit hinsert place.edit hedit)

theorem not_resting_within {tree : Text → List Line} {rel : Text} {c : Cursor Line}
    {entry : Tag × Line} {post : List (Tag × Line)} :
    ¬ (within tree rel c (entry :: post)).Resting := by
  rw [within_cons]
  rintro (h | ⟨_, _, h⟩) <;> cases h

/-- The last line that shows anything comes out right only if nothing was taken off it, and
nothing after it. -/
theorem Place.intact (place : Place differ source workspace changed before line after)
    (hblank : ∀ c ∈ after.flatten, isWhitespace c = true) {text : Line}
    (hrun : (before ++ [mark place.entry.1 :: text]).foldlM Applier.feed
      ⟨treeLines source, .idle⟩ = some s) (hs : s.Resting)
    (hnew : s.closed place.rel = treeLines workspace place.rel) :
    place.entry.2 = text ∧ after = [] := by
  rw [feed_append place.run, List.foldlM_cons, place.feed] at hrun
  obtain ⟨s₁, hfirst, hend⟩ := Option.bind_eq_some_iff.mp hrun
  obtain rfl := Option.some.inj hend
  obtain ⟨c, hedit, rfl⟩ := Option.map_eq_some_iff.mp hfirst
  have hpost : place.post = [] := by
    cases hcases : place.post with
    | nil => rfl
    | cons entry post =>
      rw [hcases] at hs
      exact absurd hs not_resting_within
  have hafter := place.after_eq
  rw [hpost, List.map_nil, List.nil_append] at hafter
  have hlater : place.later = [] := by
    cases hcases : place.later with
    | nil => rfl
    | cons hunk later =>
      obtain ⟨d, hd, hseen⟩ := (headLine_hunkLine hunk []).visible
      have hspace := hblank d (List.mem_flatten.mpr
        ⟨hunkLine hunk, by simp [hafter, hcases, renderHunk], hd⟩)
      rw [hseen] at hspace
      cases hspace
  have hothers : place.others = [] := by
    by_contra hne
    obtain ⟨d, hd, hseen⟩ := place.others_visible hne
    have hspace := hblank d (by rw [hafter, List.flatten_append]; exact List.mem_append_right _ hd)
    rw [hseen] at hspace
    cases hspace
  refine ⟨?_, by rw [hafter, hlater, hothers]; rfl⟩
  have hfinished : place.edited.result = treeLines workspace place.rel := by
    have hrest := place.rest
    rw [hpost, hlater] at hrest
    have heq : place.edited = place.finished := Option.some.inj hrest
    rw [heq, place.result]
  rw [closed_within, ← hfinished] at hnew
  by_cases hinsert : place.entry.1 = .insert
  · have hresult : ∀ {x : Line} {d : Cursor Line}, place.cursor.edit (place.entry.1, x) = some d →
        d.result = place.cursor.written ++ (x :: place.cursor.rest) := by
      intro x d hd
      obtain ⟨-, rfl⟩ | ⟨_, hkeep, -, -⟩ | ⟨_, hdelete, -, -⟩ := edit_cases hd
      · simp [Cursor.result]
      · exact absurd (hinsert.symm.trans hkeep) (by decide)
      · exact absurd (hinsert.symm.trans hdelete) (by decide)
    rw [hresult hedit, hresult place.edit] at hnew
    exact (List.cons.inj (List.append_cancel_left hnew)).1.symm
  · exact eq_of_edit_edit hinsert place.edit hedit

end Broken

/-! ### A patch that reproduces the change -/

theorem applyPatch_noDiff (tree : Text → List Line) :
    applyPatch (patchFile (readBack (sealedDiff []))) tree = none := rfl

theorem oneLine_diffLines (ho : Ordinary differ source workspace changed) {line : Line}
    (hline : line ∈ diffLines differ source workspace changed) : OneLine isNewline line := by
  obtain ⟨before, after, hsplit⟩ := List.append_of_mem hline
  rcases headLine_or_place ho hsplit with hhead | hplace
  · exact hhead.ended.oneLine
  · obtain ⟨place⟩ := hplace
    have hone := place.oneLine
    rw [place.line_eq]
    refine ⟨List.cons_ne_nil _ _, ?_⟩
    intro c hc
    rw [entryLine, List.dropLast_cons_of_ne_nil hone.1] at hc
    rcases List.mem_cons.mp hc with rfl | hc
    · cases place.entry.1 <;> rfl
    · exact hone.2 c hc

section Intact
variable {before after : List Line} {line : Line} {s : Applier}

/-- Every line before the last visible one is whole. -/
theorem ended_of_run (ho : Ordinary differ source workspace changed)
    (hlines : diffLines differ source workspace changed = before ++ line :: after)
    (hrun : (cut isNewline (before.flatten ++ mended line)).foldlM Applier.feed
      ⟨treeLines source, .idle⟩ = some s)
    (hnew : ∀ rel ∈ changed, s.closed rel = treeLines workspace rel) :
    ∀ l ∈ before, Ended isNewline l := by
  by_contra hbefore
  obtain ⟨first, broken, others, rfl, hfirst, hbroken⟩ := exists_first_not_ended hbefore
  have hsplit : diffLines differ source workspace changed =
      first ++ broken :: (others ++ line :: after) := by simp [hlines]
  rcases headLine_or_place ho hsplit with hhead | hplace
  · exact hbroken hhead.ended
  · obtain ⟨place⟩ := hplace
    -- The rest of the text begins with the line that is glued on.
    obtain ⟨more, lines, hmore⟩ : ∃ more lines,
        cut isNewline (others.flatten ++ mended line) = more :: lines :=
      List.exists_cons_of_ne_nil (cut_ne_nil (by simp [mended]))
    have hne : more ≠ [] := by
      have hmem : more ∈ cut isNewline (others.flatten ++ mended line) := by simp [hmore]
      exact (oneLine_of_mem_cut hmem).1
    have hended : ∀ l ∈ lines, Ended isNewline l := by
      intro l hl
      have hmem : l ∈ cut isNewline (others.flatten ++ mended line) := by simp [hmore, hl]
      rw [mended, ← List.append_assoc] at hmem
      exact ended_of_mem_cut_concat rfl hmem
    have hone : OneLine isNewline broken := oneLine_diffLines ho (by simp [hsplit])
    have hcut : cut isNewline ((first ++ broken :: others).flatten ++ mended line) =
        first ++ (broken ++ more) :: lines := by
      rw [List.flatten_append, List.flatten_cons, List.append_assoc, List.append_assoc,
        cut_flatten_append hfirst, cut_append (hone.no_break hbroken) hmore]
    rw [hcut] at hrun
    exact place.glued hbroken hne hended hrun (hnew place.rel place.mem)

/-- Nothing is taken off the last visible line, and nothing comes after it. -/
theorem mended_of_run (ho : Ordinary differ source workspace changed)
    (hlines : diffLines differ source workspace changed = before ++ line :: after)
    (hline : ∃ c ∈ line, isWhitespace c = false)
    (hblank : ∀ c ∈ after.flatten, isWhitespace c = true)
    (hrun : (before ++ [mended line]).foldlM Applier.feed ⟨treeLines source, .idle⟩ = some s)
    (hs : s.Resting) (hnew : ∀ rel ∈ changed, s.closed rel = treeLines workspace rel) :
    mended line = line ∧ after = [] := by
  rcases headLine_or_place ho hlines with hhead | hplace
  · have hkept := hhead.kept hblank
    rw [hkept] at hrun
    refine ⟨hkept, ?_⟩
    cases after with
    | nil => rfl
    | cons next after =>
      have hnext : diffLines differ source workspace changed =
          (before ++ [line]) ++ next :: after := by simp [hlines]
      rcases headLine_or_place ho hnext with hhead' | hplace
      · obtain ⟨c, hc, hseen⟩ := hhead'.visible
        have hspace := hblank c (by rw [List.flatten_cons]; exact List.mem_append_left _ hc)
        rw [hseen] at hspace
        cases hspace
      · -- The applier would still wait for the blank lines that are lost.
        obtain ⟨place⟩ := hplace
        have hinside := place.run
        rw [hrun] at hinside
        obtain rfl := Option.some.inj hinside
        exact absurd hs not_resting_within
  · obtain ⟨place⟩ := hplace
    have hvisible : ∃ c ∈ mark place.entry.1 :: place.entry.2, isWhitespace c = false := by
      obtain ⟨c, hc, hseen⟩ := hline
      exact ⟨c, place.line_eq.subst (motive := fun l => c ∈ l) hc, hseen⟩
    obtain ⟨rest, hrest⟩ := rdropWhile_cons_of_visible hvisible
    have hmended : mended line = mark place.entry.1 :: (rest ++ ['\n']) := by
      rw [mended, congrArg (List.rdropWhile isWhitespace) place.line_eq]
      exact congrArg (· ++ ['\n']) hrest
    rw [hmended] at hrun
    obtain ⟨heq, hnil⟩ := place.intact hblank hrun hs (hnew place.rel place.mem)
    refine ⟨?_, hnil⟩
    rw [hmended, ← heq]
    exact place.line_eq.symm

end Intact

/-- What reaches the applier is the diff itself: its lines are whole, and nothing is taken off
its end. -/
theorem lines_intact (ho : Ordinary differ source workspace changed)
    (hdiffers : ∃ rel ∈ changed, fileHunks differ source workspace rel ≠ [])
    (h : Reproduces differ source workspace changed) :
    ∃ lines line, diffLines differ source workspace changed = lines ++ [line] ∧
      (∀ l ∈ lines ++ [line], Ended isNewline l) ∧ mended line = line := by
  obtain ⟨tree, happly, hnew⟩ := h
  obtain ⟨text, htext⟩ := buildUnifiedDiff_eq_cons hdiffers
  have hvisible : ∃ c ∈ (diffLines differ source workspace changed).flatten,
      isWhitespace c = false := by
    rw [← buildUnifiedDiff, htext]
    exact ⟨'-', List.mem_cons_self, rfl⟩
  obtain ⟨before, line, after, hlines, hline, hblank⟩ := exists_last_visible hvisible
  have hpatch : patchText differ source workspace changed = before.flatten ++ mended line := by
    rw [patchText, htext, patchFile_readBack_sealedDiff rfl, ← htext, buildUnifiedDiff, hlines,
      List.flatten_append, List.flatten_cons, mended_append _ hline hblank]
  rw [applyPatch, hpatch] at happly
  obtain ⟨s, hrun, hfinish⟩ := Option.bind_eq_some_iff.mp happly
  obtain ⟨rfl, hresting⟩ := finish_eq_some hfinish
  have hbefore := ended_of_run ho hlines hrun hnew
  have hlast : Ended isNewline (mended line) :=
    ended_mended (oneLine_diffLines ho (by simp [hlines]))
  have hcut : cut isNewline (before.flatten ++ mended line) = before ++ [mended line] := by
    rw [cut_flatten_append hbefore, ← List.append_nil (mended line), cut_ended_append hlast,
      List.append_nil]
    rfl
  rw [hcut] at hrun
  obtain ⟨hmended, rfl⟩ := mended_of_run ho hlines hline hblank hrun hresting hnew
  refine ⟨before, line, hlines, ?_, hmended⟩
  intro l hl
  rcases List.mem_append.mp hl with hl | hl
  · exact hbefore l hl
  · rw [List.mem_singleton.mp hl, ← hmended]
    exact hlast

theorem endsLine_of_ended {line : Line} (h : Ended isNewline line) : EndsLine line := by
  obtain ⟨x, b, rfl, hb, -⟩ := h
  rw [EndsLine, List.getLast?_concat, beq_iff_eq.mp hb]

theorem entryLine_mem_diffLines {rel : Text} (hrel : rel ∈ changed) {hunk : Hunk Line}
    (hhunk : hunk ∈ fileHunks differ source workspace rel) {entry : Tag × Line}
    (hentry : entry ∈ hunk.body) :
    entryLine entry ∈ diffLines differ source workspace changed := by
  apply List.mem_flatMap.mpr
  refine ⟨rel, hrel, ?_⟩
  have hne : fileHunks differ source workspace rel ≠ [] := List.ne_nil_of_mem hhunk
  have hmem : entryLine entry ∈ renderHunk hunk :=
    List.mem_cons_of_mem _ (List.mem_map_of_mem hentry)
  simp only [unifiedDiff, List.isEmpty_iff, hne, if_false, List.mem_cons, List.mem_flatMap]
  exact .inr (.inr ⟨hunk, hhunk, hmem⟩)

theorem getLast?_diffLines
    (hdiffers : ∃ rel ∈ changed, fileHunks differ source workspace rel ≠ []) {entry : Tag × Line}
    (hentry : entry ∈ lastEntry (changed.flatMap (fileHunks differ source workspace))) :
    (diffLines differ source workspace changed).getLast? = some (entryLine entry) := by
  obtain ⟨hunk, lines, hlast, hlines⟩ := diffLines_eq_append_renderHunk hdiffers
  rw [lastEntry, hlast, Option.bind_some] at hentry
  obtain ⟨body, hbody⟩ := List.getLast?_eq_some_iff.mp hentry
  have hrender : renderHunk hunk = (hunkLine hunk :: body.map entryLine) ++ [entryLine entry] := by
    simp [renderHunk, hbody]
  rw [hlines, hrender, ← List.append_assoc, List.getLast?_concat]

theorem visible_of_mended {entry : Tag × Line} (h : mended (entryLine entry) = entryLine entry) :
    visible entry = true := by
  have hne : (entryLine entry).rdropWhile isWhitespace ≠ [] := by
    intro hnil
    rw [mended, hnil] at h
    have hmark : '\n' = mark entry.1 := (List.cons.inj h).1
    cases hcases : entry.1 <;> rw [hcases] at hmark <;> cases hmark
  have hshown := List.rdropWhile_last_not isWhitespace _ hne
  rw [visible, ← h, mended, List.dropLast_concat, List.getLast?_eq_some_getLast hne]
  simpa using hshown

theorem reproducible_of_reproduces (ho : Ordinary differ source workspace changed)
    (h : Reproduces differ source workspace changed) :
    Reproducible differ source workspace changed := by
  have hdiffers : ∃ rel ∈ changed, fileHunks differ source workspace rel ≠ [] := by
    by_contra hnone
    obtain ⟨tree, happly, -⟩ := h
    rw [patchText, buildUnifiedDiff, diffLines_eq_nil hnone, List.flatten_nil,
      applyPatch_noDiff] at happly
    cases happly
  obtain ⟨lines, line, hlines, hended, hmended⟩ := lines_intact ho hdiffers h
  rw [← hlines] at hended
  refine ⟨ho.distinct, fun rel hrel _ => ho.named rel hrel, ho.fits, hdiffers, ?_, ?_⟩
  · intro rel hrel hunk hhunk entry hentry
    have hmem := entryLine_mem_diffLines hrel hhunk hentry
    exact endsLine_of_ended ((hended _ hmem).tail (oneLine_entry hhunk hentry).1)
  · intro entry hentry
    have hline := getLast?_diffLines hdiffers hentry
    rw [hlines, List.getLast?_concat] at hline
    obtain rfl := Option.some.inj hline
    exact visible_of_mended hmended

/-- A patch whose lines all keep their own lines reproduces the change, and on ordinary files no
other does. -/
theorem reproduces_when_lines_keep (differ : Differ) (source workspace : Tree)
    (changed : List Text) :
    (Reproducible differ source workspace changed → Reproduces differ source workspace changed) ∧
      (Ordinary differ source workspace changed →
        (Reproduces differ source workspace changed ↔
          Reproducible differ source workspace changed)) := by
  refine ⟨reproduces_of_reproducible, ?_⟩
  intro ho
  exact ⟨reproducible_of_reproduces ho, reproduces_of_reproducible⟩

/-! ### Small files -/

def treeOf (files : List (Text × Text)) : Tree := fun rel =>
  (files.find? fun file => file.1 == rel).map (·.2)

/-- The scripts of `difflib` for the files below: a line before a blank one is replaced, or
everything is. -/
def sampleDiffer : Differ where
  script old new :=
    if old = [['a', '\n'], ['\n']] ∧ new = [['b', '\n'], ['\n']] then
      [⟨0, 0, [(.delete, ['a', '\n']), (.insert, ['b', '\n']), (.keep, ['\n'])]⟩]
    else replacement old new
  correct old new := by
    split
    · next h =>
      rw [h.1, h.2]
      rfl
    · exact patch_replacement old new

def sampleFile : Text := ['m', '.', 'p', 'y']

def sampleSource : Tree := treeOf [(sampleFile, ['a', '\n'])]

def sampleWorkspace : Tree := treeOf [(sampleFile, ['b', '\n'])]

theorem sample_ordinary : Ordinary sampleDiffer sampleSource sampleWorkspace [sampleFile] where
  distinct := List.pairwise_singleton _ _
  named := List.forall_mem_singleton.mpr (by decide)
  cutAlike := List.forall_mem_singleton.mpr (by decide)
  deletesFirst := List.forall_mem_singleton.mpr (by decide)

theorem sample_reproducible :
    Reproducible sampleDiffer sampleSource sampleWorkspace [sampleFile] where
  distinct := List.pairwise_singleton _ _
  named := fun rel hrel _ => sample_ordinary.named rel hrel
  fits := sample_ordinary.fits
  differs := ⟨sampleFile, List.mem_singleton_self _, by decide⟩
  ended := List.forall_mem_singleton.mpr (by decide)
  closes := by decide

theorem sample_reproduces :
    Ordinary sampleDiffer sampleSource sampleWorkspace [sampleFile] ∧
      Reproducible sampleDiffer sampleSource sampleWorkspace [sampleFile] ∧
      Reproduces sampleDiffer sampleSource sampleWorkspace [sampleFile] :=
  ⟨sample_ordinary, sample_reproducible,
    ((reproduces_when_lines_keep _ _ _ _).2 sample_ordinary).mpr sample_reproducible⟩

theorem not_reproduces_of_other {differ : Differ} {source workspace : Tree} {changed : List Text}
    {rel : Text} (hrel : rel ∈ changed) {lines : List Line}
    (h : (applyPatch (patchText differ source workspace changed) (treeLines source)).map (· rel) =
      some lines) (hother : lines ≠ treeLines workspace rel) :
    ¬ Reproduces differ source workspace changed := by
  rintro ⟨tree, happly, hnew⟩
  rw [happly] at h
  exact hother ((Option.some.inj h).symm.trans (hnew rel hrel))

theorem not_reproduces_of_none {differ : Differ} {source workspace : Tree} {changed : List Text}
    (h : applyPatch (patchText differ source workspace changed) (treeLines source) = none) :
    ¬ Reproduces differ source workspace changed := by
  rintro ⟨tree, happly, -⟩
  rw [h] at happly
  cases happly

/-- A new file whose last line has no newline gets one; the blank line a file ends with is
stripped out of its hunk; and a new file without a last newline swallows the head of the next. -/
theorem endings_not_reproduced :
    ¬ Reproduces sampleDiffer (treeOf []) (treeOf [(sampleFile, ['b'])]) [sampleFile] ∧
      ¬ Reproduces sampleDiffer (treeOf [(sampleFile, ['a', '\n', '\n'])])
        (treeOf [(sampleFile, ['b', '\n', '\n'])]) [sampleFile] ∧
      ¬ Reproduces sampleDiffer (treeOf []) (treeOf [(['c'], ['b']), (['d'], ['b', '\n'])])
        [['c'], ['d']] := by
  refine ⟨?_, ?_, ?_⟩
  · have hgets : (applyPatch (patchText sampleDiffer (treeOf [])
        (treeOf [(sampleFile, ['b'])]) [sampleFile]) (treeLines (treeOf []))).map (· sampleFile) =
        some [['b', '\n']] := by rfl
    exact not_reproduces_of_other (List.mem_singleton_self _) hgets (by decide)
  · apply not_reproduces_of_none
    rfl
  · apply not_reproduces_of_none
    rfl

end ProductionOptimizer.PatchText
