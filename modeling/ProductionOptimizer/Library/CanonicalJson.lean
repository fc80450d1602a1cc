import Mathlib.Data.List.Sort
import Mathlib.Data.String.Basic
import Mathlib.Tactic.IntervalCases

/-!
# JSON text with sorted keys

JSON data with set-valued nodes, and the text a writer with sorted keys makes of it. Sorting
makes the order of a dict irrelevant. A set is written in the order it is iterated, and
string literals are a prefix code, so that the order of any set of two members shows.
-/

namespace CanonicalJson
set_option autoImplicit false

/-- Data as a program holds it before it is written. `members` and `items` stand in the order
of one iteration; a float is given by its text. -/
inductive Tree where
  | null
  | bool (b : Bool)
  | int (n : Int)
  | float (text : String)
  | string (s : String)
  | list (items : List Tree)
  | set (members : List String)
  | dict (items : List (String × Tree))

section Literals

/-- A character inside a literal. Only the quote, the backslash and the control characters
are escaped. -/
def escape (c : Char) : List Char :=
  if c = '\x22' then ['\\', '\x22']
  else if c = '\\' then ['\\', '\\']
  else if c = '\n' then ['\\', 'n']
  else if c = '\r' then ['\\', 'r']
  else if c = '\t' then ['\\', 't']
  else if c = '\x0c' then ['\\', 'f']
  else if c = '\x08' then ['\\', 'b']
  else if c.toNat < 32 then
    ['\\', 'u', '0', '0', Nat.digitChar (c.toNat / 16), Nat.digitChar (c.toNat % 16)]
  else [c]

def quote (s : String) : List Char := '\x22' :: (s.toList.flatMap escape ++ ['\x22'])

def hexValue (c : Char) : Nat := if c.isDigit then c.toNat - 48 else c.toNat - 87

/-- The character after a backslash, and what follows it. -/
def readEscaped : List Char → Option (Char × List Char)
  | [] => none
  | 'n' :: rest => some ('\n', rest)
  | 'r' :: rest => some ('\r', rest)
  | 't' :: rest => some ('\t', rest)
  | 'f' :: rest => some ('\x0c', rest)
  | 'b' :: rest => some ('\x08', rest)
  | 'u' :: '0' :: '0' :: high :: low :: rest =>
    some (Char.ofNat (16 * hexValue high + hexValue low), rest)
  | c :: rest => some (c, rest)

def readChar : List Char → Option (Char × List Char)
  | [] => none
  | c :: rest => if c = '\\' then readEscaped rest else some (c, rest)

theorem readChar_control (rest : List Char) (n : Nat) (hn : n < 32) :
    readChar (escape (Char.ofNat n) ++ rest) = some (Char.ofNat n, rest) := by
  interval_cases n <;> rfl

/-- Escapes are read back, whatever follows. -/
theorem readChar_escape (c : Char) (rest : List Char) :
    readChar (escape c ++ rest) = some (c, rest) := by
  by_cases hcontrol : c.toNat < 32
  · have hread := readChar_control rest c.toNat hcontrol
    rwa [Char.ofNat_toNat] at hread
  · by_cases hquote : c = '\x22'
    · subst hquote
      rfl
    · by_cases hslash : c = '\\'
      · subst hslash
        rfl
      · have hplain : escape c = [c] := by
          unfold escape
          rw [if_neg hquote, if_neg hslash, if_neg, if_neg, if_neg, if_neg, if_neg, if_neg hcontrol]
          all_goals
            rintro rfl
            exact hcontrol (by decide)
        rw [hplain, List.singleton_append, readChar, if_neg hslash]

theorem escape_append_inj {c d : Char} {x y : List Char} (h : escape c ++ x = escape d ++ y) :
    c = d ∧ x = y := by
  have hread := readChar_escape c x
  rw [h, readChar_escape] at hread
  have hpair := Option.some.inj hread
  exact ⟨(congrArg Prod.fst hpair).symm, (congrArg Prod.snd hpair).symm⟩

/-- The closing quote is not the start of an escaped character. -/
theorem escape_append_ne (c : Char) (x y : List Char) : escape c ++ x ≠ '\x22' :: y := by
  intro h
  have hread := readChar_escape c x
  rw [h] at hread
  have hpair := Option.some.inj hread
  have hc : '\x22' = c := congrArg Prod.fst hpair
  subst hc
  exact absurd (List.cons.inj h).1 (by decide)

theorem flatMap_escape_inj {a b x y : List Char}
    (h : a.flatMap escape ++ '\x22' :: x = b.flatMap escape ++ '\x22' :: y) : a = b ∧ x = y := by
  induction a generalizing b with
  | nil =>
    cases b with
    | nil => exact ⟨rfl, (List.cons.inj h).2⟩
    | cons d b =>
      rw [List.flatMap_cons, List.append_assoc] at h
      exact absurd h.symm (escape_append_ne d _ _)
  | cons c a ih =>
    cases b with
    | nil =>
      rw [List.flatMap_cons, List.append_assoc] at h
      exact absurd h (escape_append_ne c _ _)
    | cons d b =>
      rw [List.flatMap_cons, List.flatMap_cons, List.append_assoc, List.append_assoc] at h
      obtain ⟨rfl, hrest⟩ := escape_append_inj h
      obtain ⟨rfl, hxy⟩ := ih hrest
      exact ⟨rfl, hxy⟩

/-- A literal is known from the text it starts. -/
theorem quote_append_inj {a b : String} {x y : List Char} (h : quote a ++ x = quote b ++ y) :
    a = b ∧ x = y := by
  simp only [quote, List.cons_append, List.append_assoc, List.nil_append] at h
  obtain ⟨hab, hxy⟩ := flatMap_escape_inj (List.cons.inj h).2
  exact ⟨String.toList_inj.mp hab, hxy⟩

end Literals

section Text

/-- The order `sorted` puts the items of a dict in: their keys are compared by code points. -/
def keyLE (a b : String × List Char) : Prop := a.1 ≤ b.1

instance : DecidableRel keyLE := fun a b => inferInstanceAs (Decidable (a.1 ≤ b.1))

instance : Std.Total keyLE where
  total a b := le_total a.1 b.1

instance : IsTrans (String × List Char) keyLE where
  trans _ _ _ hab hbc := le_trans hab hbc

def sortByKey (entries : List (String × List Char)) : List (String × List Char) :=
  entries.insertionSort keyLE

def entryText (entry : String × List Char) : List Char := quote entry.1 ++ ':' :: entry.2

def commaSeparated (pieces : List (List Char)) : List Char := [','].intercalate pieces

mutual
/-- The text of a value, without blanks. -/
def text : Tree → List Char
  | .null => ['n', 'u', 'l', 'l']
  | .bool true => ['t', 'r', 'u', 'e']
  | .bool false => ['f', 'a', 'l', 's', 'e']
  | .int n => (toString n).toList
  | .float digits => digits.toList
  | .string s => quote s
  | .list items => '[' :: (commaSeparated (texts items) ++ [']'])
  | .set members => '[' :: (commaSeparated (members.map quote) ++ [']'])
  | .dict items =>
    '\x7b' :: (commaSeparated ((sortByKey (entries items)).map entryText) ++ ['\x7d'])

def texts : List Tree → List (List Char)
  | [] => []
  | t :: ts => text t :: texts ts

def entries : List (String × Tree) → List (String × List Char)
  | [] => []
  | (key, t) :: items => (key, text t) :: entries items
end

theorem texts_eq_map (items : List Tree) : texts items = items.map text := by
  induction items with
  | nil => rfl
  | cons t ts ih => rw [texts, List.map_cons, ih]

theorem entries_eq_map (items : List (String × Tree)) :
    entries items = items.map fun item => (item.1, text item.2) := by
  induction items with
  | nil => rfl
  | cons item items ih => rw [entries, List.map_cons, ih]

theorem keys_entries (items : List (String × Tree)) :
    (entries items).map Prod.fst = items.map Prod.fst := by
  rw [entries_eq_map, List.map_map]
  rfl

/-- One piece among others. What surrounds it does not depend on it. -/
theorem exists_commaSeparated_eq (before after : List (List Char)) :
    ∃ front back, ∀ piece,
      commaSeparated (before ++ piece :: after) = front ++ (piece ++ back) := by
  induction before with
  | nil =>
    cases after with
    | nil => exact ⟨[], [], fun piece => by simp [commaSeparated]⟩
    | cons next after =>
      refine ⟨[], ',' :: commaSeparated (next :: after), fun piece => ?_⟩
      simp [commaSeparated, List.intercalate_cons_cons]
  | cons first before ih =>
    obtain ⟨front, back, hsplit⟩ := ih
    refine ⟨first ++ ',' :: front, back, fun piece => ?_⟩
    have hne : before ++ piece :: after ≠ [] := by simp
    have hcons : commaSeparated (first :: (before ++ piece :: after)) =
        first ++ ',' :: commaSeparated (before ++ piece :: after) := by
      simp [commaSeparated, List.intercalate_cons_of_ne_nil hne]
    rw [List.cons_append, hcons, hsplit piece, List.append_assoc, List.cons_append]

theorem commaSeparated_inj {before after : List (List Char)} {x y : List Char}
    (h : commaSeparated (before ++ x :: after) = commaSeparated (before ++ y :: after)) :
    x = y := by
  obtain ⟨front, back, hsplit⟩ := exists_commaSeparated_eq before after
  rw [hsplit x, hsplit y] at h
  exact List.append_cancel_right (List.append_cancel_left h)

theorem exists_orderedInsert_eq (a : String × List Char) (key : String)
    (before after : List (String × List Char)) :
    ∃ before' after', ∀ x, (before ++ (key, x) :: after).orderedInsert keyLE a =
      before' ++ (key, x) :: after' := by
  induction before with
  | nil =>
    by_cases hle : a.1 ≤ key
    · refine ⟨[a], after, fun x => ?_⟩
      exact List.orderedInsert_cons_of_le keyLE after (b := (key, x)) hle
    · refine ⟨[], after.orderedInsert keyLE a, fun x => ?_⟩
      exact List.orderedInsert_of_not_le keyLE after (b := (key, x)) hle
  | cons first before ih =>
    by_cases hle : keyLE a first
    · refine ⟨a :: first :: before, after, fun x => ?_⟩
      exact List.orderedInsert_cons_of_le keyLE _ hle
    · obtain ⟨before', after', hsplit⟩ := ih
      refine ⟨first :: before', after', fun x => ?_⟩
      rw [List.cons_append, List.orderedInsert_of_not_le keyLE _ hle, hsplit x, List.cons_append]

/-- Where an entry is sorted to depends on its key alone. -/
theorem exists_sortByKey_eq (key : String) (before after : List (String × List Char)) :
    ∃ before' after', ∀ x, sortByKey (before ++ (key, x) :: after) =
      before' ++ (key, x) :: after' := by
  induction before with
  | nil =>
    refine ⟨(sortByKey after).takeWhile fun b => ¬ key ≤ b.1,
      (sortByKey after).dropWhile fun b => ¬ key ≤ b.1, fun x => ?_⟩
    exact List.insertionSort_cons_eq_take_drop keyLE (key, x) after
  | cons first before ih =>
    obtain ⟨before₁, after₁, hsorted⟩ := ih
    obtain ⟨before₂, after₂, hinsert⟩ := exists_orderedInsert_eq first key before₁ after₁
    refine ⟨before₂, after₂, fun x => ?_⟩
    have hstep : sortByKey (first :: (before ++ (key, x) :: after)) =
        (sortByKey (before ++ (key, x) :: after)).orderedInsert keyLE first := rfl
    rw [List.cons_append, hstep, hsorted x, hinsert x]

/-- With distinct keys the order of the entries does not show. -/
theorem sortByKey_eq_of_perm {xs ys : List (String × List Char)} (hkeys : (xs.map Prod.fst).Nodup)
    (h : xs.Perm ys) : sortByKey xs = sortByKey ys := by
  have hperm : (sortByKey xs).Perm (sortByKey ys) :=
    ((xs.perm_insertionSort keyLE).trans h).trans (ys.perm_insertionSort keyLE).symm
  refine List.Perm.eq_of_pairwise ?_ (List.pairwise_insertionSort keyLE xs)
    (List.pairwise_insertionSort keyLE ys) hperm
  intro a b ha hb hab hba
  have hax : a ∈ xs := (List.mem_insertionSort keyLE).mp ha
  have hbx : b ∈ xs := h.symm.mem_iff.mp ((List.mem_insertionSort keyLE).mp hb)
  exact List.inj_on_of_nodup_map hkeys hax hbx (le_antisymm hab hba)

theorem text_list_inj {before after : List Tree} {t u : Tree}
    (h : text (.list (before ++ t :: after)) = text (.list (before ++ u :: after))) :
    text t = text u := by
  simp only [text, texts_eq_map, List.map_append, List.map_cons] at h
  exact commaSeparated_inj (List.append_cancel_right (List.cons.inj h).2)

theorem text_dict_inj {before after : List (String × Tree)} {key : String} {t u : Tree}
    (h : text (.dict (before ++ (key, t) :: after)) = text (.dict (before ++ (key, u) :: after))) :
    text t = text u := by
  simp only [text, entries_eq_map, List.map_append, List.map_cons] at h
  obtain ⟨before', after', hsplit⟩ := exists_sortByKey_eq key
    (before.map fun item => (item.1, text item.2)) (after.map fun item => (item.1, text item.2))
  rw [hsplit, hsplit, List.map_append, List.map_append, List.map_cons, List.map_cons] at h
  have hentry := commaSeparated_inj (List.append_cancel_right (List.cons.inj h).2)
  exact (List.cons.inj (List.append_cancel_left hentry)).2

theorem exists_commaSeparated_cons (piece : List Char) (pieces : List (List Char)) :
    ∃ back, commaSeparated (piece :: pieces) = piece ++ back := by
  cases pieces with
  | nil => exact ⟨[], by simp [commaSeparated]⟩
  | cons next pieces =>
    refine ⟨',' :: commaSeparated (next :: pieces), ?_⟩
    simp [commaSeparated, List.intercalate_cons_cons]

/-- The text of a dict starts with its least key. -/
theorem exists_text_dict_eq {items : List (String × Tree)} {key : String} {t : Tree}
    (hnodup : (items.map Prod.fst).Nodup) (hmem : (key, t) ∈ items)
    (hleast : ∀ item ∈ items, key ≤ item.1) :
    ∃ back, text (.dict items) = '\x7b' :: (quote key ++ ':' :: (text t ++ back)) := by
  have hentry : (key, text t) ∈ sortByKey (entries items) := by
    rw [sortByKey, List.mem_insertionSort, entries_eq_map]
    exact List.mem_map.mpr ⟨(key, t), hmem, rfl⟩
  have hsorted : (sortByKey (entries items)).Pairwise keyLE := List.pairwise_insertionSort keyLE _
  have hkeys : ((sortByKey (entries items)).map Prod.fst).Nodup := by
    apply (((List.perm_insertionSort keyLE (entries items)).map Prod.fst).nodup_iff).mpr
    rw [keys_entries]
    exact hnodup
  cases hsort : sortByKey (entries items) with
  | nil =>
    rw [hsort] at hentry
    cases hentry
  | cons first rest =>
    rw [hsort] at hentry hsorted hkeys
    have hfirst : first = (key, text t) := by
      rcases List.mem_cons.mp hentry with heq | hrest
      · exact heq.symm
      · have hle : first.1 ≤ key := (List.pairwise_cons.mp hsorted).1 _ hrest
        have hge : key ≤ first.1 := by
          have hmem' : first ∈ entries items := by
            apply (List.mem_insertionSort keyLE).mp
            show first ∈ sortByKey (entries items)
            rw [hsort]
            exact List.mem_cons_self
          rw [entries_eq_map] at hmem'
          obtain ⟨item, hitem, rfl⟩ := List.mem_map.mp hmem'
          exact hleast item hitem
        have hsame : first.1 = key := le_antisymm hle hge
        rw [List.map_cons, List.nodup_cons] at hkeys
        exact absurd (hsame ▸ List.mem_map_of_mem hrest) hkeys.1
    obtain ⟨back, hback⟩ := exists_commaSeparated_cons (entryText first) (rest.map entryText)
    refine ⟨back ++ ['\x7d'], ?_⟩
    rw [text, hsort, List.map_cons, hback, hfirst, entryText]
    simp only [List.append_assoc, List.cons_append]

theorem text_dict_least_inj {items items' : List (String × Tree)} {key key' : String} {t t' : Tree}
    (hnodup : (items.map Prod.fst).Nodup) (hmem : (key, t) ∈ items)
    (hleast : ∀ item ∈ items, key ≤ item.1) (hnodup' : (items'.map Prod.fst).Nodup)
    (hmem' : (key', t') ∈ items') (hleast' : ∀ item ∈ items', key' ≤ item.1)
    (h : text (.dict items) = text (.dict items')) :
    key = key' ∧ ∃ back back', text t ++ back = text t' ++ back' := by
  obtain ⟨back, hback⟩ := exists_text_dict_eq hnodup hmem hleast
  obtain ⟨back', hback'⟩ := exists_text_dict_eq hnodup' hmem' hleast'
  rw [hback, hback'] at h
  obtain ⟨hkey, hrest⟩ := quote_append_inj (List.cons.inj h).2
  exact ⟨hkey, back, back', (List.cons.inj hrest).2⟩

end Text

section Strings

/-- A dict of strings. -/
def stringItems (items : List (String × String)) : List (String × Tree) :=
  items.map fun item => (item.1, .string item.2)

def stringEntry (item : String × String) : List Char := entryText (item.1, quote item.2)

def itemLE (a b : String × String) : Prop := a.1 ≤ b.1

instance : DecidableRel itemLE := fun a b => inferInstanceAs (Decidable (a.1 ≤ b.1))

theorem text_stringItems (items : List (String × String)) :
    text (.dict (stringItems items)) = '\x7b' ::
      (commaSeparated ((items.insertionSort itemLE).map stringEntry) ++ ['\x7d']) := by
  have hentries : entries (stringItems items) = items.map fun item => (item.1, quote item.2) := by
    rw [entries_eq_map, stringItems, List.map_map]
    rfl
  have hsort : sortByKey (items.map fun item => (item.1, quote item.2)) =
      (items.insertionSort itemLE).map fun item => (item.1, quote item.2) := by
    apply (List.map_insertionSort itemLE keyLE _ items _).symm
    intro a _ b _
    exact Iff.rfl
  rw [text, hentries, hsort, List.map_map]
  rfl

theorem stringEntry_append_inj {a b : String × String} {x y : List Char}
    (h : stringEntry a ++ x = stringEntry b ++ y) : a = b ∧ x = y := by
  unfold stringEntry entryText at h
  rw [List.append_assoc, List.append_assoc] at h
  obtain ⟨hkey, hvalue⟩ := quote_append_inj h
  obtain ⟨hvalue, hrest⟩ := quote_append_inj (List.cons.inj hvalue).2
  exact ⟨Prod.ext hkey hvalue, hrest⟩

/-- As many entries with one text are the same entries. -/
theorem commaSeparated_stringEntry_inj {xs ys : List (String × String)}
    (hlength : xs.length = ys.length)
    (h : commaSeparated (xs.map stringEntry) = commaSeparated (ys.map stringEntry)) : xs = ys := by
  induction xs generalizing ys with
  | nil => exact (List.length_eq_zero_iff.mp hlength.symm).symm
  | cons a xs ih =>
    cases ys with
    | nil => cases hlength
    | cons b ys =>
      have hrest : xs.length = ys.length := Nat.succ.inj hlength
      cases xs with
      | nil =>
        obtain rfl : ys = [] := List.length_eq_zero_iff.mp hrest.symm
        have hentry : stringEntry a ++ [] = stringEntry b ++ [] := by
          simpa [commaSeparated] using h
        rw [(stringEntry_append_inj hentry).1]
      | cons a' xs =>
        cases ys with
        | nil => cases hrest
        | cons b' ys =>
          simp only [commaSeparated, List.map_cons, List.intercalate_cons_cons,
            List.append_assoc] at h
          obtain ⟨rfl, htail⟩ := stringEntry_append_inj h
          have hsame : a' :: xs = b' :: ys := ih hrest (List.append_cancel_left htail)
          rw [hsame]

theorem eq_of_perm_of_keys {xs ys : List (String × String)}
    (hkeys : xs.map Prod.fst = ys.map Prod.fst) (hnodup : (xs.map Prod.fst).Nodup)
    (h : xs.Perm ys) : xs = ys := by
  induction xs generalizing ys with
  | nil => exact (List.nil_perm.mp h).symm
  | cons a xs ih =>
    cases ys with
    | nil => cases hkeys
    | cons b ys =>
      obtain ⟨hkey, hrest⟩ := List.cons.inj hkeys
      obtain ⟨hnew, hxs⟩ := List.nodup_cons.mp hnodup
      have hab : a = b := by
        rcases List.mem_cons.mp (h.mem_iff.mp List.mem_cons_self) with heq | hmem
        · exact heq
        · have hmap : a.1 ∈ ys.map Prod.fst := List.mem_map_of_mem hmem
          rw [← hrest] at hmap
          exact absurd hmap hnew
      subst hab
      rw [ih hrest hxs h.cons_inv]

/-- The text of a dict of strings tells all its values. -/
theorem text_stringItems_inj {xs ys : List (String × String)}
    (hkeys : xs.map Prod.fst = ys.map Prod.fst) (hnodup : (xs.map Prod.fst).Nodup)
    (h : text (.dict (stringItems xs)) = text (.dict (stringItems ys))) : xs = ys := by
  rw [text_stringItems, text_stringItems] at h
  have hcontent := List.append_cancel_right (List.cons.inj h).2
  have hlength : (xs.insertionSort itemLE).length = (ys.insertionSort itemLE).length := by
    rw [List.length_insertionSort, List.length_insertionSort]
    simpa using congrArg List.length hkeys
  have hsorted := commaSeparated_stringEntry_inj hlength hcontent
  apply eq_of_perm_of_keys hkeys hnodup
  calc xs.Perm (xs.insertionSort itemLE) := (xs.perm_insertionSort itemLE).symm
    _ = ys.insertionSort itemLE := hsorted
    List.Perm _ ys := ys.perm_insertionSort itemLE

end Strings

section Nodes

def Tree.children : Tree → List Tree
  | .list items => items
  | .dict items => items.map Prod.snd
  | _ => []

mutual
/-- Every node of the tree has the property. -/
def Tree.All (p : Tree → Prop) : Tree → Prop
  | .list items => p (.list items) ∧ AllList p items
  | .dict items => p (.dict items) ∧ AllItems p items
  | .null => p .null
  | .bool b => p (.bool b)
  | .int n => p (.int n)
  | .float digits => p (.float digits)
  | .string s => p (.string s)
  | .set members => p (.set members)

def AllList (p : Tree → Prop) : List Tree → Prop
  | [] => True
  | t :: ts => t.All p ∧ AllList p ts

def AllItems (p : Tree → Prop) : List (String × Tree) → Prop
  | [] => True
  | (_, t) :: items => t.All p ∧ AllItems p items
end

variable {p : Tree → Prop}

theorem allList_iff (items : List Tree) : AllList p items ↔ ∀ t ∈ items, t.All p := by
  induction items with
  | nil => simp [AllList]
  | cons t ts ih => simp [AllList, ih]

theorem allItems_iff (items : List (String × Tree)) :
    AllItems p items ↔ ∀ t ∈ items.map Prod.snd, t.All p := by
  induction items with
  | nil => simp [AllItems]
  | cons item items ih =>
    rw [AllItems, ih, List.map_cons, List.forall_mem_cons]

theorem all_iff (t : Tree) : t.All p ↔ p t ∧ ∀ child ∈ t.children, child.All p := by
  cases t with
  | list items => rw [Tree.All, allList_iff, Tree.children]
  | dict items => rw [Tree.All, allItems_iff, Tree.children]
  | _ => simp [Tree.All, Tree.children]

@[simp] theorem all_null : Tree.null.All p ↔ p .null := Iff.rfl

@[simp] theorem all_bool (b : Bool) : (Tree.bool b).All p ↔ p (.bool b) := Iff.rfl

@[simp] theorem all_int (n : Int) : (Tree.int n).All p ↔ p (.int n) := Iff.rfl

@[simp] theorem all_float (digits : String) : (Tree.float digits).All p ↔ p (.float digits) :=
  Iff.rfl

@[simp] theorem all_string (s : String) : (Tree.string s).All p ↔ p (.string s) := Iff.rfl

@[simp] theorem all_set (members : List String) : (Tree.set members).All p ↔ p (.set members) :=
  Iff.rfl

@[simp] theorem all_list (items : List Tree) :
    (Tree.list items).All p ↔ p (.list items) ∧ ∀ t ∈ items, t.All p :=
  all_iff (.list items)

@[simp] theorem all_dict (items : List (String × Tree)) :
    (Tree.dict items).All p ↔ p (.dict items) ∧ ∀ t ∈ items.map Prod.snd, t.All p :=
  all_iff (.dict items)

theorem Tree.All.node {t : Tree} (h : t.All p) : p t := ((all_iff t).mp h).1

mutual
/-- Induction from the children of a node to the node. -/
theorem Tree.inductOn (step : ∀ t : Tree, (∀ child ∈ t.children, p child) → p t) : ∀ t, p t
  | .list items => step _ (inductOnList step items)
  | .dict items => step _ (inductOnItems step items)
  | .null => step _ (fun _ h => absurd h List.not_mem_nil)
  | .bool _ => step _ (fun _ h => absurd h List.not_mem_nil)
  | .int _ => step _ (fun _ h => absurd h List.not_mem_nil)
  | .float _ => step _ (fun _ h => absurd h List.not_mem_nil)
  | .string _ => step _ (fun _ h => absurd h List.not_mem_nil)
  | .set _ => step _ (fun _ h => absurd h List.not_mem_nil)

theorem inductOnList (step : ∀ t : Tree, (∀ child ∈ t.children, p child) → p t) :
    ∀ items : List Tree, ∀ t ∈ items, p t
  | [] => fun _ h => absurd h List.not_mem_nil
  | t :: ts => List.forall_mem_cons.mpr ⟨Tree.inductOn step t, inductOnList step ts⟩

theorem inductOnItems (step : ∀ t : Tree, (∀ child ∈ t.children, p child) → p t) :
    ∀ items : List (String × Tree), ∀ t ∈ items.map Prod.snd, p t
  | [] => fun _ h => absurd h List.not_mem_nil
  | (_, t) :: items => List.forall_mem_cons.mpr ⟨Tree.inductOn step t, inductOnItems step items⟩
end

end Nodes

section Readings

/-- `Reading t u` says that `u` is the value `t` as another iteration may meet it: the members
of its sets and the items of its dicts in any order, at every depth. -/
inductive Reading : Tree → Tree → Prop
  | refl (t : Tree) : Reading t t
  | trans {t u v : Tree} : Reading t u → Reading u v → Reading t v
  | set {members members' : List String} (h : members.Perm members') :
      Reading (.set members) (.set members')
  | dict {items items' : List (String × Tree)} (h : items.Perm items') :
      Reading (.dict items) (.dict items')
  | item (before after : List Tree) {t u : Tree} (h : Reading t u) :
      Reading (.list (before ++ t :: after)) (.list (before ++ u :: after))
  | value (before after : List (String × Tree)) (key : String) {t u : Tree} (h : Reading t u) :
      Reading (.dict (before ++ (key, t) :: after)) (.dict (before ++ (key, u) :: after))

/-- A set has no member twice and a dict no key. -/
def Tree.Distinct : Tree → Prop
  | .set members => members.Nodup
  | .dict items => (items.map Prod.fst).Nodup
  | _ => True

def Tree.WellFormed (t : Tree) : Prop := t.All Tree.Distinct

/-- The node has at most one member, if it is a set. -/
def Tree.SmallSet : Tree → Prop
  | .set members => members.length ≤ 1
  | _ => True

def Tree.SmallSets (t : Tree) : Prop := t.All Tree.SmallSet

section All
variable {p : Tree → Prop}

theorem all_reading (hp : ∀ t u, Reading t u → p t → p u) {t u : Tree} (h : Reading t u)
    (ht : t.All p) : u.All p := by
  induction h with
  | refl t => exact ht
  | trans _ _ ih₁ ih₂ => exact ih₂ (ih₁ ht)
  | set h => exact hp _ _ (.set h) ht
  | dict h =>
    obtain ⟨hnode, hitems⟩ := (all_iff _).mp ht
    apply (all_iff _).mpr
    refine ⟨hp _ _ (.dict h) hnode, fun child hchild => hitems child ?_⟩
    exact (h.map Prod.snd).symm.mem_iff.mp hchild
  | item before after h ih =>
    obtain ⟨hnode, hitems⟩ := (all_iff _).mp ht
    apply (all_iff _).mpr
    refine ⟨hp _ _ (.item before after h) hnode, ?_⟩
    simp only [Tree.children, List.forall_mem_append, List.forall_mem_cons] at hitems ⊢
    exact ⟨hitems.1, ih hitems.2.1, hitems.2.2⟩
  | value before after key h ih =>
    obtain ⟨hnode, hitems⟩ := (all_iff _).mp ht
    apply (all_iff _).mpr
    refine ⟨hp _ _ (.value before after key h) hnode, ?_⟩
    simp only [Tree.children, List.map_append, List.map_cons, List.forall_mem_append,
      List.forall_mem_cons] at hitems ⊢
    exact ⟨hitems.1, ih hitems.2.1, hitems.2.2⟩

end All

theorem distinct_reading (t u : Tree) (h : Reading t u) (ht : t.Distinct) : u.Distinct := by
  induction h with
  | refl t => exact ht
  | trans _ _ ih₁ ih₂ => exact ih₂ (ih₁ ht)
  | set h => exact h.nodup_iff.mp ht
  | dict h => exact (h.map Prod.fst).nodup_iff.mp ht
  | item before after h ih => trivial
  | value before after key h ih =>
    simp only [Tree.Distinct, List.map_append, List.map_cons] at ht ⊢
    exact ht

theorem smallSet_reading (t u : Tree) (h : Reading t u) (ht : t.SmallSet) : u.SmallSet := by
  induction h with
  | refl t => exact ht
  | trans _ _ ih₁ ih₂ => exact ih₂ (ih₁ ht)
  | set h => exact h.length_eq.symm.trans_le ht
  | dict h => trivial
  | item before after h ih => trivial
  | value before after key h ih => trivial

theorem eq_of_perm_of_length_le {α : Type*} {xs ys : List α} (hlen : xs.length ≤ 1)
    (h : xs.Perm ys) : xs = ys := by
  match xs, hlen with
  | [], _ => exact (List.nil_perm.mp h).symm
  | [x], _ => exact (List.singleton_perm.mp h)

/-- Where no set has two members every reading is written alike. -/
theorem text_reading {t u : Tree} (hwf : t.WellFormed) (hsmall : t.SmallSets) (h : Reading t u) :
    text u = text t := by
  induction h with
  | refl t => rfl
  | trans h₁ _ ih₁ ih₂ =>
    have hmiddlewf := all_reading distinct_reading h₁ hwf
    have hmiddlesmall := all_reading smallSet_reading h₁ hsmall
    rw [ih₂ hmiddlewf hmiddlesmall, ih₁ hwf hsmall]
  | set h => rw [eq_of_perm_of_length_le hsmall h]
  | @dict items items' h =>
    have hkeys : ((entries items).map Prod.fst).Nodup := by
      rw [keys_entries]
      exact hwf.node
    have hentries : (entries items).Perm (entries items') := by
      rw [entries_eq_map, entries_eq_map]
      exact h.map _
    rw [text, text, sortByKey_eq_of_perm hkeys hentries]
  | @item before after t u h ih =>
    have hchild : t ∈ Tree.children (.list (before ++ t :: after)) := by simp [Tree.children]
    have hsame := ih (((all_iff _).mp hwf).2 t hchild) (((all_iff _).mp hsmall).2 t hchild)
    simp only [text, texts_eq_map, List.map_append, List.map_cons, hsame]
  | @value before after key t u h ih =>
    have hchild : t ∈ Tree.children (.dict (before ++ (key, t) :: after)) := by simp [Tree.children]
    have hsame := ih (((all_iff _).mp hwf).2 t hchild) (((all_iff _).mp hsmall).2 t hchild)
    simp only [text, entries_eq_map, List.map_append, List.map_cons, hsame]

theorem eq_set_of_not_smallSet {t : Tree} (h : ¬ t.SmallSet) :
    ∃ a b rest, t = .set (a :: b :: rest) := by
  cases t with
  | set members =>
    match members, h with
    | [], h => exact absurd (Nat.zero_le 1) h
    | [_], h => exact absurd (Nat.le_refl 1) h
    | a :: b :: rest, _ => exact ⟨a, b, rest, rfl⟩
  | _ => exact absurd trivial h

/-- Two members of a set swapped change its text. -/
theorem text_swap_ne {a b : String} (rest : List String) (hab : a ≠ b) :
    text (.set (b :: a :: rest)) ≠ text (.set (a :: b :: rest)) := by
  intro h
  simp only [text, commaSeparated, List.map_cons, List.intercalate_cons_cons, List.append_assoc,
    List.cons.injEq, true_and] at h
  exact hab (quote_append_inj h).1.symm

/-- A set of two members shows its order, however deep it stands. -/
theorem exists_reading_text_ne (t : Tree) :
    t.WellFormed → ¬ t.SmallSets → ∃ u, Reading t u ∧ text u ≠ text t := by
  induction t using Tree.inductOn with
  | step t ih =>
    intro hwf hlarge
    by_cases hchildren : ∀ child ∈ t.children, child.SmallSets
    · have hnode : ¬ t.SmallSet := fun hnode => hlarge ((all_iff t).mpr ⟨hnode, hchildren⟩)
      obtain ⟨a, b, rest, rfl⟩ := eq_set_of_not_smallSet hnode
      have hdistinct : (a :: b :: rest).Nodup := hwf.node
      have hab : a ≠ b := by
        rintro rfl
        simp at hdistinct
      exact ⟨_, .set (List.Perm.swap b a rest), text_swap_ne rest hab⟩
    · push Not at hchildren
      obtain ⟨child, hchild, hchildlarge⟩ := hchildren
      have hchildwf : child.WellFormed := ((all_iff t).mp hwf).2 child hchild
      obtain ⟨u, hreading, hne⟩ := ih child hchild hchildwf hchildlarge
      match t, hchild with
      | .list items, hchild =>
        obtain ⟨before, after, rfl⟩ := List.append_of_mem hchild
        exact ⟨_, .item before after hreading, fun h => hne (text_list_inj h)⟩
      | .dict items, hchild =>
        obtain ⟨⟨key, child⟩, hitem, rfl⟩ := List.mem_map.mp hchild
        obtain ⟨before, after, rfl⟩ := List.append_of_mem hitem
        exact ⟨_, .value before after key hreading, fun h => hne (text_dict_inj h)⟩

/-- A reading of a dict is a dict. -/
theorem eq_dict_of_reading {t u : Tree} (h : Reading t u) :
    ∀ items, t = .dict items → ∃ items', u = .dict items' := by
  induction h with
  | refl t => exact fun items ht => ⟨items, ht⟩
  | trans _ _ ih₁ ih₂ =>
    intro items ht
    obtain ⟨items₁, hu⟩ := ih₁ items ht
    exact ih₂ items₁ hu
  | set h => exact fun items ht => Tree.noConfusion ht
  | dict h => exact fun _ _ => ⟨_, rfl⟩
  | item before after h ih => exact fun items ht => Tree.noConfusion ht
  | value before after key h ih => exact fun _ _ => ⟨_, rfl⟩

/-- Items that are not touched may be added to a reading of a dict. -/
theorem reading_append (more : List (String × Tree)) {t u : Tree} (h : Reading t u) :
    ∀ items items', t = .dict items → u = .dict items' →
      Reading (.dict (items ++ more)) (.dict (items' ++ more)) := by
  induction h with
  | refl t =>
    intro items items' ht hu
    obtain rfl := Tree.dict.inj (ht.symm.trans hu)
    exact .refl _
  | trans h₁ _ ih₁ ih₂ =>
    intro items items' ht hv
    obtain ⟨items₁, hu⟩ := eq_dict_of_reading h₁ items ht
    exact (ih₁ items items₁ ht hu).trans (ih₂ items₁ items' hu hv)
  | set h => exact fun items _ ht _ => Tree.noConfusion ht
  | dict h =>
    intro items items' ht hu
    obtain rfl := Tree.dict.inj ht
    obtain rfl := Tree.dict.inj hu
    exact .dict (h.append_right more)
  | item before after h ih => exact fun items _ ht _ => Tree.noConfusion ht
  | value before after key h ih =>
    intro items items' ht hu
    obtain rfl := Tree.dict.inj ht
    obtain rfl := Tree.dict.inj hu
    rw [List.append_assoc, List.append_assoc, List.cons_append, List.cons_append]
    exact .value before (after ++ more) key h

end Readings

end CanonicalJson
