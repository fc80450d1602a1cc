import Mathlib.Data.List.Basic

/-!
# Edit scripts

A script turns one list into another, a hunk at a time: a hunk says where in the old list it
begins and which elements it keeps, deletes and inserts there. A cursor carries a script out
from left to right, and refuses what does not stand where the script says.
-/

namespace EditScript
set_option autoImplicit false

universe u

inductive Tag where
  | keep
  | delete
  | insert
  deriving DecidableEq, Repr

structure Hunk (α : Type u) where
  oldStart : Nat
  newStart : Nat
  body : List (Tag × α)
  deriving DecidableEq, Repr

variable {α : Type u}

/-- How many elements of the old list a body takes up. -/
def oldCount (body : List (Tag × α)) : Nat := body.countP (·.1 ≠ .insert)

/-- How many elements of the new list a body writes. -/
def newCount (body : List (Tag × α)) : Nat := body.countP (·.1 ≠ .delete)

/-- What is written of the new list, how much of the old one is read, and what is left of it. -/
structure Cursor (α : Type u) where
  written : List α := []
  read : Nat := 0
  rest : List α

namespace Cursor

def result (c : Cursor α) : List α := c.written ++ c.rest

/-- Copies the elements before position `n`. -/
def seek (c : Cursor α) (n : Nat) : Option (Cursor α) :=
  if c.read ≤ n ∧ n - c.read ≤ c.rest.length then
    some ⟨c.written ++ c.rest.take (n - c.read), n, c.rest.drop (n - c.read)⟩
  else none

variable [DecidableEq α]

def edit (c : Cursor α) (entry : Tag × α) : Option (Cursor α) :=
  match entry.1, c.rest with
  | .insert, _ => some { c with written := c.written ++ [entry.2] }
  | .keep, a :: rest =>
    if a = entry.2 then some ⟨c.written ++ [a], c.read + 1, rest⟩ else none
  | .delete, a :: rest => if a = entry.2 then some ⟨c.written, c.read + 1, rest⟩ else none
  | _, [] => none

def applyHunk (c : Cursor α) (hunk : Hunk α) : Option (Cursor α) :=
  (c.seek hunk.oldStart).bind fun c => hunk.body.foldlM edit c

end Cursor

variable [DecidableEq α]

def patch (hunks : List (Hunk α)) (old : List α) : Option (List α) :=
  (hunks.foldlM Cursor.applyHunk { rest := old }).map Cursor.result

/-- Replaces the whole list, in one hunk, when the two lists differ. -/
def replacement (old new : List α) : List (Hunk α) :=
  if old = new then []
  else [⟨0, 0, old.map (Prod.mk .delete) ++ new.map (Prod.mk .insert)⟩]

section Advance
variable {c c' d : Cursor α} {entry : Tag × α} {hunk : Hunk α} {hunks : List (Hunk α)}
  {body : List (Tag × α)} {old new : List α}

/-- What is written stays written, and what is read is not read again. -/
def Cursor.Advances (c c' : Cursor α) : Prop := c.written <+: c'.written ∧ c'.rest <:+ c.rest

omit [DecidableEq α] in
theorem Cursor.Advances.refl (c : Cursor α) : c.Advances c :=
  ⟨List.prefix_refl _, List.suffix_refl _⟩

omit [DecidableEq α] in
theorem Cursor.Advances.trans (h : c.Advances c') (h' : c'.Advances d) : c.Advances d :=
  ⟨h.1.trans h'.1, h'.2.trans h.2⟩

omit [DecidableEq α] in
theorem seek_advances {n : Nat} (h : c.seek n = some c') : c.Advances c' := by
  unfold Cursor.seek at h
  split at h
  · obtain rfl := Option.some.inj h
    exact ⟨List.prefix_append _ _, List.drop_suffix _ _⟩
  · cases h

/-- The three edits that are carried out. -/
theorem edit_cases (h : c.edit entry = some c') :
    (entry.1 = .insert ∧ c' = { c with written := c.written ++ [entry.2] }) ∨
    (∃ rest, entry.1 = .keep ∧ c.rest = entry.2 :: rest ∧
      c' = ⟨c.written ++ [entry.2], c.read + 1, rest⟩) ∨
    (∃ rest, entry.1 = .delete ∧ c.rest = entry.2 :: rest ∧
      c' = ⟨c.written, c.read + 1, rest⟩) := by
  unfold Cursor.edit at h
  split at h
  case h_1 htag => exact .inl ⟨htag, (Option.some.inj h).symm⟩
  case h_2 a rest htag hrest =>
    split at h
    · next heq =>
      subst heq
      exact .inr (.inl ⟨rest, htag, hrest, (Option.some.inj h).symm⟩)
    · cases h
  case h_3 a rest htag hrest =>
    split at h
    · next heq =>
      subst heq
      exact .inr (.inr ⟨rest, htag, hrest, (Option.some.inj h).symm⟩)
    · cases h
  case h_4 => cases h

/-- What is kept or deleted is what stands at the cursor. -/
theorem eq_of_edit_edit {a b : α} {tag : Tag} (htag : tag ≠ .insert)
    (h : c.edit (tag, a) = some c') (h' : c.edit (tag, b) = some d) : a = b := by
  have hrest : ∀ {x : α} {e : Cursor α}, c.edit (tag, x) = some e → ∃ rest, c.rest = x :: rest := by
    intro x e hedit
    obtain ⟨hinsert, -⟩ | ⟨rest, -, hrest, -⟩ | ⟨rest, -, hrest, -⟩ := edit_cases hedit
    · exact absurd hinsert htag
    · exact ⟨rest, hrest⟩
    · exact ⟨rest, hrest⟩
  obtain ⟨r, hr⟩ := hrest h
  obtain ⟨r', hr'⟩ := hrest h'
  rw [hr] at hr'
  exact (List.cons.inj hr').1

theorem edit_advances (h : c.edit entry = some c') : c.Advances c' := by
  obtain ⟨-, rfl⟩ | ⟨rest, -, hrest, rfl⟩ | ⟨rest, -, hrest, rfl⟩ := edit_cases h
  · exact ⟨List.prefix_append _ _, List.suffix_refl _⟩
  · exact ⟨List.prefix_append _ _, hrest ▸ List.suffix_cons _ _⟩
  · exact ⟨List.prefix_refl _, hrest ▸ List.suffix_cons _ _⟩

omit [DecidableEq α] in
/-- Copying changes nothing in what the cursor will have produced. -/
theorem result_seek {n : Nat} (h : c.seek n = some c') : c'.result = c.result := by
  unfold Cursor.seek at h
  split at h
  · obtain rfl := Option.some.inj h
    simp [Cursor.result]
  · cases h

omit [DecidableEq α] in
/-- A loop whose every round advances the cursor advances it. -/
theorem foldlM_advances {β : Type u} {f : Cursor α → β → Option (Cursor α)}
    (hround : ∀ c b c', f c b = some c' → c.Advances c') {bs : List β}
    (h : bs.foldlM f c = some c') : c.Advances c' := by
  induction bs generalizing c with
  | nil =>
    obtain rfl := Option.some.inj h
    exact .refl _
  | cons b bs ih =>
    rw [List.foldlM_cons] at h
    obtain ⟨d, hd, hrest⟩ := Option.bind_eq_some_iff.mp h
    exact (hround c b d hd).trans (ih hrest)

theorem body_advances (h : body.foldlM Cursor.edit c = some c') : c.Advances c' :=
  foldlM_advances (fun _ _ _ => edit_advances) h

theorem applyHunk_advances (h : c.applyHunk hunk = some c') : c.Advances c' := by
  obtain ⟨d, hd, hbody⟩ := Option.bind_eq_some_iff.mp h
  exact (seek_advances hd).trans (body_advances hbody)

theorem hunks_advance (h : hunks.foldlM Cursor.applyHunk c = some c') : c.Advances c' :=
  foldlM_advances (fun _ _ _ => applyHunk_advances) h

theorem mem_result_edit (h : c.edit entry = some c') {a : α} (ha : a ∈ c'.result) :
    a ∈ c.result ∨ a = entry.2 := by
  unfold Cursor.result at ha ⊢
  obtain ⟨-, rfl⟩ | ⟨rest, -, hrest, rfl⟩ | ⟨rest, -, hrest, rfl⟩ := edit_cases h
  · rw [List.append_assoc, List.mem_append, List.singleton_append, List.mem_cons] at ha
    rw [List.mem_append]
    tauto
  · left
    rw [hrest]
    simpa using ha
  · left
    rw [hrest, List.mem_append, List.mem_cons]
    exact (List.mem_append.mp ha).imp_right .inr

/-- An element a body names is one it reads or one it writes. -/
theorem mem_of_body (h : body.foldlM Cursor.edit c = some c') (hentry : entry ∈ body) :
    entry.2 ∈ c.rest ∨ entry.2 ∈ c'.written := by
  induction body generalizing c with
  | nil => cases hentry
  | cons first body ih =>
    rw [List.foldlM_cons] at h
    obtain ⟨d, hd, hbody⟩ := Option.bind_eq_some_iff.mp h
    rcases List.mem_cons.mp hentry with rfl | hentry
    · have hwritten := (body_advances hbody).1.subset
      obtain ⟨-, rfl⟩ | ⟨rest, -, hrest, rfl⟩ | ⟨rest, -, hrest, rfl⟩ := edit_cases hd
      · exact .inr (hwritten (by simp))
      · exact .inl (by simp [hrest])
      · exact .inl (by simp [hrest])
    · exact (ih hbody hentry).imp_left ((edit_advances hd).2.subset ·)

/-- Every element a script names is in the old list or in the new one. -/
theorem mem_of_patch (h : patch hunks old = some new) (hhunk : hunk ∈ hunks)
    (hentry : entry ∈ hunk.body) : entry.2 ∈ old ∨ entry.2 ∈ new := by
  obtain ⟨last, hrun, rfl⟩ := Option.map_eq_some_iff.mp h
  obtain ⟨before, after, rfl⟩ := List.append_of_mem hhunk
  rw [List.foldlM_append] at hrun
  obtain ⟨c, hbefore, hrun⟩ := Option.bind_eq_some_iff.mp hrun
  rw [List.foldlM_cons] at hrun
  obtain ⟨c', happly, hafter⟩ := Option.bind_eq_some_iff.mp hrun
  obtain ⟨d, hseek, hbody⟩ := Option.bind_eq_some_iff.mp happly
  rcases mem_of_body hbody hentry with hold | hnew
  · have hrest := (hunks_advance hbefore).trans (seek_advances hseek)
    exact .inl (hrest.2.subset hold)
  · exact .inr (List.mem_append_left _ ((hunks_advance hafter).1.subset hnew))

theorem written_of_ne_delete (h : c.edit entry = some c') (htag : entry.1 ≠ .delete) :
    c'.written = c.written ++ [entry.2] := by
  obtain ⟨-, rfl⟩ | ⟨rest, -, -, rfl⟩ | ⟨rest, hdelete, -, -⟩ := edit_cases h
  · rfl
  · rfl
  · exact absurd hdelete htag

/-- A body that does not begin with a deletion and writes nothing is empty. -/
theorem body_eq_nil_of_still (h : body.foldlM Cursor.edit c = some c')
    (hstill : c'.written = c.written) (hhead : ∀ entry ∈ body.head?, entry.1 ≠ .delete) :
    body = [] := by
  cases body with
  | nil => rfl
  | cons entry body =>
    rw [List.foldlM_cons] at h
    obtain ⟨d, hd, hbody⟩ := Option.bind_eq_some_iff.mp h
    have hwritten := (body_advances hbody).1
    rw [hstill, written_of_ne_delete hd (hhead entry rfl)] at hwritten
    have hlength := hwritten.length_le
    rw [List.length_append, List.length_singleton] at hlength
    omega

/-- Hunks that do not begin with a deletion and write nothing leave the rest as it is. -/
theorem rest_eq_of_still (h : hunks.foldlM Cursor.applyHunk c = some c')
    (hstill : c'.written = c.written)
    (hhead : ∀ entry ∈ (hunks.flatMap Hunk.body).head?, entry.1 ≠ .delete) :
    c'.rest = c.rest := by
  induction hunks generalizing c with
  | nil =>
    obtain rfl := Option.some.inj h
    rfl
  | cons hunk hunks ih =>
    rw [List.foldlM_cons] at h
    obtain ⟨e, happly, hhunks⟩ := Option.bind_eq_some_iff.mp h
    obtain ⟨d, hseek, hbody⟩ := Option.bind_eq_some_iff.mp happly
    have hlast := (hunks_advance hhunks).1
    rw [hstill] at hlast
    have hd : d.written = c.written :=
      ((body_advances hbody).1.trans hlast).sublist.antisymm (seek_advances hseek).1.sublist
    have he : e.written = d.written := by
      rw [← hd] at hlast
      exact hlast.sublist.antisymm (body_advances hbody).1.sublist
    have hnil : hunk.body = [] := by
      apply body_eq_nil_of_still hbody he
      intro entry hentry
      apply hhead entry
      cases hcases : hunk.body with
      | nil => simp [hcases] at hentry
      | cons first body => simpa [hcases] using hentry
    rw [hnil] at hbody
    obtain rfl := Option.some.inj hbody
    have hrest : d.rest = c.rest := by
      have hresult := result_seek hseek
      rw [Cursor.result, Cursor.result, hd] at hresult
      exact List.append_cancel_left hresult
    rw [← hrest]
    apply ih hhunks (by rw [hstill, hd])
    simpa [hnil] using hhead

end Advance

theorem edit_deletes (c : Cursor α) (old : List α) (h : c.rest = old) :
    (old.map (Prod.mk Tag.delete)).foldlM Cursor.edit c =
      some ⟨c.written, c.read + old.length, []⟩ := by
  induction old generalizing c with
  | nil =>
    obtain ⟨written, read, rest⟩ := c
    cases h
    rfl
  | cons a old ih =>
    have hfirst : c.edit (.delete, a) = some ⟨c.written, c.read + 1, old⟩ := by
      simp [Cursor.edit, h]
    rw [List.map_cons, List.foldlM_cons, hfirst]
    change List.foldlM _ _ _ = _
    rw [ih _ rfl, List.length_cons, Nat.add_assoc, Nat.add_comm 1]

theorem edit_inserts (c : Cursor α) (new : List α) :
    (new.map (Prod.mk Tag.insert)).foldlM Cursor.edit c =
      some { c with written := c.written ++ new } := by
  induction new generalizing c with
  | nil => simp
  | cons a new ih =>
    have hfirst : c.edit (.insert, a) = some { c with written := c.written ++ [a] } := rfl
    rw [List.map_cons, List.foldlM_cons, hfirst]
    change List.foldlM _ _ _ = _
    rw [ih, List.append_assoc, List.singleton_append]

theorem patch_replacement (old new : List α) : patch (replacement old new) old = some new := by
  unfold replacement
  split
  · next heq =>
    subst heq
    rfl
  · have hseek : Cursor.seek ({ rest := old } : Cursor α) 0 = some { rest := old } := by
      simp [Cursor.seek]
    simp only [patch, List.foldlM_cons, List.foldlM_nil, Cursor.applyHunk, hseek,
      Option.bind_some, List.foldlM_append]
    rw [edit_deletes _ _ rfl]
    simp [edit_inserts, Cursor.result]

end EditScript
