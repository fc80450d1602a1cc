import Mathlib.Data.String.Basic
import ProductionOptimizer.Handlers.ImplementPhase
import ProductionOptimizer.Library.Separated

/-!
# Symbol scope

Inside a path that its tasks restrict to symbols, `S03.60` compares the definitions of the
two files by name. A class is compared with everything in it and each method once more on its
own, a repeated name stands for its last definition, and what is no definition is not
compared.
-/

namespace ProductionOptimizer.SymbolScope
open Separated
set_option autoImplicit false

/-! ### Parsed files -/

/-- A name in the program text has no dot in it. -/
structure Identifier where
  text : String
  plain : '.' ∉ text.toList
  deriving DecidableEq

/-- `ast.FunctionDef` or `ast.AsyncFunctionDef`; `code` is all but the name. -/
structure FunctionDef (Code : Type) where
  name : Identifier
  code : Code
  deriving DecidableEq

inductive Member (Code : Type) where
  | method (f : FunctionDef Code)
  | other (code : Code)
  deriving DecidableEq

structure ClassDef (Code : Type) where
  name : Identifier
  header : Code
  body : List (Member Code)
  deriving DecidableEq

inductive Definition (Code : Type) where
  | function (f : FunctionDef Code)
  | classDef (c : ClassDef Code)
  deriving DecidableEq

inductive Item (Code : Type) where
  | definition (d : Definition Code)
  | statement (code : Code)
  deriving DecidableEq

def Definition.name {Code : Type} : Definition Code → Identifier
  | .function f => f.name
  | .classDef c => c.name

/-- `f"{node.name}.{child.name}"`. -/
def methodKey (c m : Identifier) : String := c.text ++ "." ++ m.text

section Extract
variable {Code T : Type} (unparse : Definition Code → T)

def methodEntry (c : Identifier) : Member Code → Option (String × T)
  | .method f => some (methodKey c f.name, unparse (.function f))
  | .other _ => none

def entries : Item Code → List (String × T)
  | .statement _ => []
  | .definition (.function f) => [(f.name.text, unparse (.function f))]
  | .definition (.classDef c) =>
    (c.name.text, unparse (.classDef c)) :: c.body.filterMap (methodEntry unparse c.name)

/-- `_extract_symbols`: the assignments to the dictionary in their order. -/
def extractSymbols (file : List (Item Code)) : List (String × T) := file.flatMap (entries unparse)

/-- `symbols.get(name)`: an assignment overwrites the ones before it. -/
def get (symbols : List (String × T)) (name : String) : Option T :=
  (symbols.reverse.find? (·.1 == name)).map (·.2)

variable [DecidableEq T]

def changedNames (original edited : List (String × T)) : List String :=
  ((original ++ edited).map (·.1)).filter fun name => get original name != get edited name

/-- `Path(rel_path).suffix == ".py"`. -/
def isPython (path : String) : Bool :=
  let name := (pathName path).toList
  ".py".toList.isSuffixOf name && 3 < name.length

/-- `_symbol_scope_violations`; none stands for a file that is missing or does not parse. -/
def symbolScopeViolations (original edited : Option (List (Item Code))) (path : String)
    (allowed : List String) : List ScopeViolation :=
  if !isPython path then [] else
    match original, edited with
    | some original, some edited =>
      let changed := changedNames (extractSymbols unparse original) (extractSymbols unparse edited)
      (sortedSet (changed.filter (!allowed.contains ·))).map (.symbol path)
    | _, _ => []

end Extract

/-! ### Differences between files -/

section Differences
variable {Code : Type} (allowed : List String)

def Member.outside (c : Identifier) : Member Code → Bool
  | .method f => !allowed.contains (methodKey c f.name)
  | .other _ => true

def Definition.outside : Definition Code → Definition Code
  | .function f => .function f
  | .classDef c => .classDef { c with body := c.body.filter (Member.outside allowed c.name) }

def Item.outside : Item Code → Option (Item Code)
  | .statement code => some (.statement code)
  | .definition d =>
    if allowed.contains d.name.text then none else some (.definition (d.outside allowed))

/-- A file without the definitions that are allowed to change. -/
def outside (file : List (Item Code)) : List (Item Code) := file.filterMap (Item.outside allowed)

/-- Every difference lies inside an allowed definition. -/
def SameOutside (original edited : List (Item Code)) : Prop :=
  outside allowed original = outside allowed edited

instance [DecidableEq Code] (original edited : List (Item Code)) :
    Decidable (SameOutside allowed original edited) :=
  inferInstanceAs (Decidable (_ = _))

def Item.defines (n : Identifier) : Item Code → Option (Definition Code)
  | .statement _ => none
  | .definition d => if d.name = n then some d else none

def Member.isMethod (m : Identifier) : Member Code → Option (FunctionDef Code)
  | .other _ => none
  | .method f => if f.name = m then some f else none

def Item.definesMethod (c m : Identifier) : Item Code → Option (FunctionDef Code)
  | .definition (.classDef d) =>
    if d.name = c then d.body.reverse.findSome? (Member.isMethod m) else none
  | _ => none

def lastDefinition (file : List (Item Code)) (n : Identifier) : Option (Definition Code) :=
  file.reverse.findSome? (Item.defines n)

def lastMethod (file : List (Item Code)) (c m : Identifier) : Option (FunctionDef Code) :=
  file.reverse.findSome? (Item.definesMethod c m)

variable (original edited : List (Item Code))

/-- No name outside the set has another last definition than before, allowed methods aside. -/
structure LastAgree : Prop where
  definitions : ∀ n : Identifier, n.text ∉ allowed →
    (lastDefinition original n).map (Definition.outside allowed) =
      (lastDefinition edited n).map (Definition.outside allowed)
  methods : ∀ c m : Identifier, c.text ∉ allowed → methodKey c m ∉ allowed →
    lastMethod original c m = lastMethod edited c m

/-- A class outside the set was edited, in allowed methods only. -/
def MethodInUnlistedClass : Prop :=
  ∃ n : Identifier, n.text ∉ allowed ∧ lastDefinition original n ≠ lastDefinition edited n ∧
    (lastDefinition original n).map (Definition.outside allowed) =
      (lastDefinition edited n).map (Definition.outside allowed)

/-- A method outside the set was edited in a class inside it. -/
def UnlistedMethodInClass : Prop :=
  ∃ c m : Identifier, c.text ∈ allowed ∧ methodKey c m ∉ allowed ∧
    lastMethod original c m ≠ lastMethod edited c m

def Overlapping : Prop :=
  MethodInUnlistedClass allowed original edited ∨ UnlistedMethodInClass allowed original edited

/-- Files that differ outside the set, but only in statements that define nothing, in
definitions that a later one replaces, or in their order. -/
def Hidden : Prop :=
  ¬ SameOutside allowed original edited ∧ LastAgree allowed original edited

end Differences

/-! ### Keys -/

theorem text_injective {a b : Identifier} (h : a.text = b.text) : a = b := by
  cases a
  cases b
  cases h
  rfl

theorem toList_methodKey (c m : Identifier) :
    (methodKey c m).toList = c.text.toList ++ '.' :: m.text.toList := by
  simp [methodKey]

theorem methodKey_ne_text (c m n : Identifier) : methodKey c m ≠ n.text := by
  intro h
  apply n.plain
  rw [← h, toList_methodKey]
  exact List.mem_append_right _ List.mem_cons_self

theorem methodKey_injective {c c' m m' : Identifier} (h : methodKey c m = methodKey c' m') :
    c = c' ∧ m = m' := by
  have hlist : c.text.toList ++ '.' :: m.text.toList = c'.text.toList ++ '.' :: m'.text.toList := by
    rw [← toList_methodKey, h, toList_methodKey]
  obtain ⟨hclass, hmethod⟩ := append_cons_inj_first c.plain c'.plain hlist
  exact ⟨text_injective (String.toList_inj.mp hclass),
    text_injective (String.toList_inj.mp hmethod)⟩

/-! ### What the dictionary holds -/

section Dictionary
variable {Code T : Type} {unparse : Definition Code → T}

theorem mem_entries {item : Item Code} {entry : String × T} (h : entry ∈ entries unparse item) :
    (∃ n : Identifier, entry.1 = n.text) ∨ ∃ c m : Identifier, entry.1 = methodKey c m := by
  match item with
  | .statement code => cases h
  | .definition (.function f) =>
    cases List.mem_singleton.mp h
    exact Or.inl ⟨f.name, rfl⟩
  | .definition (.classDef c) =>
    rcases List.mem_cons.mp h with rfl | h
    · exact Or.inl ⟨c.name, rfl⟩
    · obtain ⟨member, -, hmember⟩ := List.mem_filterMap.mp h
      cases member with
      | other code => cases hmember
      | method f =>
        cases hmember
        exact Or.inr ⟨c.name, f.name, rfl⟩

theorem find?_methodEntries_text (c n : Identifier) (body : List (Member Code)) :
    (body.filterMap (methodEntry unparse c)).reverse.find? (·.1 == n.text) = none := by
  rw [List.find?_eq_none]
  intro entry hentry
  obtain ⟨member, -, hmember⟩ := List.mem_filterMap.mp (List.mem_reverse.mp hentry)
  cases member with
  | other code => cases hmember
  | method f =>
    cases hmember
    simpa using methodKey_ne_text c f.name n

theorem find?_entries_text (n : Identifier) (item : Item Code) :
    ((entries unparse item).reverse.find? (·.1 == n.text)).map (·.2) =
      (item.defines n).map unparse := by
  match item with
  | .statement code => rfl
  | .definition (.function f) =>
    by_cases hname : f.name = n
    · simp [entries, Item.defines, Definition.name, hname]
    · have htext : ¬ f.name.text = n.text := fun h => hname (text_injective h)
      simp [entries, Item.defines, Definition.name, hname, htext]
  | .definition (.classDef c) =>
    rw [entries, List.reverse_cons, List.find?_append, find?_methodEntries_text, Option.none_or]
    by_cases hname : c.name = n
    · simp [Item.defines, Definition.name, hname]
    · have htext : ¬ c.name.text = n.text := fun h => hname (text_injective h)
      simp [Item.defines, Definition.name, hname, htext]

theorem find?_methodEntries (c m : Identifier) (body : List (Member Code)) :
    ((body.filterMap (methodEntry unparse c)).find? (·.1 == methodKey c m)).map (·.2) =
      (body.findSome? (Member.isMethod m)).map fun f => unparse (.function f) := by
  induction body with
  | nil => rfl
  | cons member body ih =>
    cases member with
    | other code =>
      rw [List.filterMap_cons_none rfl, List.findSome?_cons]
      exact ih
    | method f =>
      have hentry : methodEntry unparse c (.method f) =
          some (methodKey c f.name, unparse (.function f)) := rfl
      rw [List.filterMap_cons_some hentry, List.find?_cons, List.findSome?_cons]
      by_cases hname : f.name = m
      · simp [Member.isMethod, hname]
      · have hkey : (methodKey c f.name == methodKey c m) = false :=
          beq_false_of_ne fun h => hname (methodKey_injective h).2
        simp only [hkey, Member.isMethod, hname, if_false]
        exact ih

theorem find?_methodEntries_other {c c' : Identifier} (hc : c' ≠ c) (m : Identifier)
    (body : List (Member Code)) :
    (body.filterMap (methodEntry unparse c')).find? (·.1 == methodKey c m) = none := by
  rw [List.find?_eq_none]
  intro entry hentry
  obtain ⟨member, -, hmember⟩ := List.mem_filterMap.mp hentry
  cases member with
  | other code => cases hmember
  | method f =>
    cases hmember
    simpa using fun h => hc (methodKey_injective h).1

theorem find?_entries_method (c m : Identifier) (item : Item Code) :
    ((entries unparse item).reverse.find? (·.1 == methodKey c m)).map (·.2) =
      (item.definesMethod c m).map fun f => unparse (.function f) := by
  match item with
  | .statement code => rfl
  | .definition (.function f) =>
    have hkey : ¬ f.name.text = methodKey c m := (methodKey_ne_text c m f.name).symm
    simp [entries, Item.definesMethod, hkey]
  | .definition (.classDef d) =>
    have hkey : ¬ d.name.text = methodKey c m := (methodKey_ne_text c m d.name).symm
    have hhead : [(d.name.text, unparse (.classDef d))].find? (·.1 == methodKey c m) = none := by
      simp [hkey]
    rw [entries, List.reverse_cons, List.find?_append, hhead, Option.or_none,
      ← List.filterMap_reverse, Item.definesMethod]
    by_cases hname : d.name = c
    · rw [hname, if_pos rfl]
      exact find?_methodEntries c m d.body.reverse
    · rw [if_neg hname, find?_methodEntries_other hname, Option.map_none, Option.map_none]

theorem get_text (file : List (Item Code)) (n : Identifier) :
    get (extractSymbols unparse file) n.text = (lastDefinition file n).map unparse := by
  unfold get extractSymbols lastDefinition
  rw [List.reverse_flatMap, List.find?_flatMap, List.map_findSome?, List.map_findSome?]
  congr 1
  funext item
  exact find?_entries_text n item

theorem get_methodKey (file : List (Item Code)) (c m : Identifier) :
    get (extractSymbols unparse file) (methodKey c m) =
      (lastMethod file c m).map fun f => unparse (.function f) := by
  unfold get extractSymbols lastMethod
  rw [List.reverse_flatMap, List.find?_flatMap, List.map_findSome?, List.map_findSome?]
  congr 1
  funext item
  exact find?_entries_method c m item

end Dictionary

/-! ### The check -/

section Check
variable {Code T : Type}

theorem get_eq_none {symbols : List (String × T)} {name : String}
    (h : name ∉ symbols.map (·.1)) : get symbols name = none := by
  have hnone : symbols.reverse.find? (·.1 == name) = none := by
    rw [List.find?_eq_none]
    intro entry hentry heq
    apply h
    exact List.mem_map.mpr ⟨entry, List.mem_reverse.mp hentry, beq_iff_eq.mp heq⟩
  rw [get, hnone, Option.map_none]

variable [DecidableEq T] {unparse : Definition Code → T}
  {original edited : List (Item Code)} {allowed : List String}

theorem mem_changedNames {o e : List (String × T)} {name : String} :
    name ∈ changedNames o e ↔ get o name ≠ get e name := by
  rw [changedNames, List.mem_filter, bne_iff_ne, List.map_append, List.mem_append]
  constructor
  · exact And.right
  · intro hne
    refine ⟨?_, hne⟩
    by_contra hmem
    rw [not_or] at hmem
    apply hne
    rw [get_eq_none hmem.1, get_eq_none hmem.2]

/-- `S03.60` takes these violations where its answers are the names this compares. -/
theorem symbolViolations_eq (a : Answers) {path : String} (hpython : isPython path = true)
    (h : a.changedSymbols path =
      changedNames (extractSymbols unparse original) (extractSymbols unparse edited)) :
    symbolViolations a path allowed =
      symbolScopeViolations unparse (some original) (some edited) path allowed := by
  simp only [symbolViolations, symbolScopeViolations, h, hpython, Bool.not_true,
    Bool.false_eq_true, if_false]

theorem violations_eq_nil_iff {path : String} (hpython : isPython path = true) :
    symbolScopeViolations unparse (some original) (some edited) path allowed = [] ↔
      ∀ name ∉ allowed, get (extractSymbols unparse original) name =
        get (extractSymbols unparse edited) name := by
  simp only [symbolScopeViolations, hpython, Bool.not_true, Bool.false_eq_true, if_false,
    List.map_eq_nil_iff]
  rw [List.eq_nil_iff_forall_not_mem]
  constructor
  · intro h name hname
    by_contra hne
    apply h name
    rw [mem_sortedSet, List.mem_filter, mem_changedNames]
    exact ⟨hne, by simpa using hname⟩
  · intro h name hmem
    rw [mem_sortedSet, List.mem_filter, mem_changedNames] at hmem
    exact hmem.1 (h name (by simpa using hmem.2))

/-- The check compares the last definitions, whole classes among them. -/
theorem violations_eq_nil_iff_last (hunparse : Function.Injective unparse) {path : String}
    (hpython : isPython path = true) :
    symbolScopeViolations unparse (some original) (some edited) path allowed = [] ↔
      (∀ n : Identifier, n.text ∉ allowed → lastDefinition original n = lastDefinition edited n) ∧
        ∀ c m : Identifier, methodKey c m ∉ allowed →
          lastMethod original c m = lastMethod edited c m := by
  have hfunction : Function.Injective fun f : FunctionDef Code => unparse (.function f) := by
    intro f g hfg
    exact Definition.function.inj (hunparse hfg)
  rw [violations_eq_nil_iff hpython]
  constructor
  · intro h
    constructor
    · intro n hn
      have hget := h n.text hn
      rw [get_text, get_text] at hget
      exact Option.map_injective hunparse hget
    · intro c m hkey
      have hget := h (methodKey c m) hkey
      rw [get_methodKey, get_methodKey] at hget
      exact Option.map_injective hfunction hget
  · intro h name hname
    by_cases hmem : name ∈ changedNames (extractSymbols unparse original)
        (extractSymbols unparse edited)
    · obtain ⟨entry, hentry, rfl⟩ := List.mem_map.mp (List.mem_filter.mp hmem).1
      rw [extractSymbols, extractSymbols, ← List.flatMap_append] at hentry
      obtain ⟨item, -, hitem⟩ := List.mem_flatMap.mp hentry
      rcases mem_entries hitem with ⟨n, hn⟩ | ⟨c, m, hkey⟩
      · rw [hn] at hname ⊢
        rw [get_text, get_text, h.1 n hname]
      · rw [hkey] at hname ⊢
        rw [get_methodKey, get_methodKey, h.2 c m hname]
    · rw [mem_changedNames, not_not] at hmem
      exact hmem

end Check

/-! ### Files without the allowed definitions -/

section Outside
variable {Code : Type} {allowed : List String}

theorem findSome?_filterMap {α β γ : Type} (f : α → Option β) (g : β → Option γ) (l : List α) :
    (l.filterMap f).findSome? g = l.findSome? fun x => (f x).bind g := by
  induction l with
  | nil => rfl
  | cons x l ih =>
    rw [List.findSome?_cons, ← ih]
    cases hx : f x with
    | none => rw [List.filterMap_cons_none hx, Option.bind_none]
    | some y => rw [List.filterMap_cons_some hx, List.findSome?_cons, Option.bind_some]

theorem findSome?_filter {α β : Type} {p : α → Bool} {f : α → Option β}
    (h : ∀ x, p x = false → f x = none) (l : List α) :
    (l.filter p).findSome? f = l.findSome? f := by
  induction l with
  | nil => rfl
  | cons x l ih =>
    rw [List.findSome?_cons]
    cases hx : p x with
    | false => rw [List.filter_cons_of_neg (by simp [hx]), h x hx, ih]
    | true => rw [List.filter_cons_of_pos hx, List.findSome?_cons, ih]

theorem name_outside (d : Definition Code) : (d.outside allowed).name = d.name := by
  cases d with
  | function f => rfl
  | classDef c => rfl

theorem outside_of_mem {d : Definition Code} (h : d.name.text ∈ allowed) :
    (Item.definition d).outside allowed = none :=
  if_pos (List.contains_iff_mem.mpr h)

theorem outside_of_notMem {d : Definition Code} (h : d.name.text ∉ allowed) :
    (Item.definition d).outside allowed = some (.definition (d.outside allowed)) :=
  if_neg fun hmem => h (List.contains_iff_mem.mp hmem)

theorem lastDefinition_outside {n : Identifier} (hn : n.text ∉ allowed)
    (file : List (Item Code)) : lastDefinition (outside allowed file) n =
      (lastDefinition file n).map (Definition.outside allowed) := by
  unfold lastDefinition outside
  rw [← List.filterMap_reverse, findSome?_filterMap, List.map_findSome?]
  congr 1
  funext item
  cases item with
  | statement code => rfl
  | definition d =>
    by_cases hlisted : d.name.text ∈ allowed
    · have hname : ¬ d.name = n := fun h => hn (h ▸ hlisted)
      simp [outside_of_mem hlisted, Item.defines, hname]
    · rw [outside_of_notMem hlisted, Option.bind_some]
      by_cases hname : d.name = n
      · simp [Item.defines, hname, name_outside]
      · simp [Item.defines, hname, name_outside]

theorem lastMethod_outside {c m : Identifier} (hc : c.text ∉ allowed)
    (hkey : methodKey c m ∉ allowed) (file : List (Item Code)) :
    lastMethod (outside allowed file) c m = lastMethod file c m := by
  have hbody : ∀ body : List (Member Code),
      (body.filter (Member.outside allowed c)).reverse.findSome? (Member.isMethod m) =
        body.reverse.findSome? (Member.isMethod m) := by
    intro body
    rw [← List.filter_reverse]
    apply findSome?_filter
    intro member hmember
    cases member with
    | other code => rfl
    | method f =>
      apply if_neg
      intro hname
      apply hkey
      simpa [Member.outside, hname] using hmember
  unfold lastMethod outside
  rw [← List.filterMap_reverse, findSome?_filterMap]
  congr 1
  funext item
  match item with
  | .statement code => rfl
  | .definition (.function f) =>
    by_cases hlisted : (Definition.function f).name.text ∈ allowed
    · rw [outside_of_mem hlisted]
      rfl
    · rw [outside_of_notMem hlisted]
      rfl
  | .definition (.classDef d) =>
    by_cases hlisted : (Definition.classDef d).name.text ∈ allowed
    · have hname : ¬ d.name = c := fun h => hc (h ▸ hlisted)
      rw [outside_of_mem hlisted, Item.definesMethod, if_neg hname, Option.bind_none]
    · rw [outside_of_notMem hlisted, Option.bind_some, Definition.outside, Item.definesMethod,
        Item.definesMethod]
      by_cases hname : d.name = c
      · rw [if_pos hname, if_pos hname, hname]
        exact hbody d.body
      · rw [if_neg hname, if_neg hname]

variable {original edited : List (Item Code)}

theorem lastAgree_of_sameOutside (h : SameOutside allowed original edited) :
    LastAgree allowed original edited := by
  constructor
  · intro n hn
    rw [← lastDefinition_outside hn, ← lastDefinition_outside hn, h]
  · intro c m hc hkey
    rw [← lastMethod_outside hc hkey original, h, lastMethod_outside hc hkey]

/-- Equal last definitions are definitions that agree outside the set and do not overlap it. -/
theorem last_eq_iff : ((∀ n : Identifier, n.text ∉ allowed →
      lastDefinition original n = lastDefinition edited n) ∧
      ∀ c m : Identifier, methodKey c m ∉ allowed →
        lastMethod original c m = lastMethod edited c m) ↔
    LastAgree allowed original edited ∧ ¬ Overlapping allowed original edited := by
  constructor
  · intro h
    refine ⟨⟨?_, ?_⟩, ?_⟩
    · intro n hn
      rw [h.1 n hn]
    · intro c m _ hkey
      exact h.2 c m hkey
    · intro hoverlap
      rcases hoverlap with ⟨n, hn, hne, -⟩ | ⟨c, m, -, hkey, hne⟩
      · exact hne (h.1 n hn)
      · exact hne (h.2 c m hkey)
  · intro h
    obtain ⟨hagree, hoverlap⟩ := h
    constructor
    · intro n hn
      by_contra hne
      exact hoverlap (Or.inl ⟨n, hn, hne, hagree.definitions n hn⟩)
    · intro c m hkey
      by_contra hne
      by_cases hc : c.text ∈ allowed
      · exact hoverlap (Or.inr ⟨c, m, hc, hkey, hne⟩)
      · exact hne (hagree.methods c m hc hkey)

end Outside

/-! ### When the check is exact -/

section Exact
variable {Code T : Type} [DecidableEq T] {unparse : Definition Code → T}

/-- The check fails its purpose in two ways: it reports an edit inside allowed definitions
that overlap others, and it does not see a difference that no last definition shows. -/
theorem symbol_scope_exact_iff (hunparse : Function.Injective unparse) {path : String}
    (hpython : isPython path = true) (original edited : List (Item Code))
    (allowed : List String) :
    (symbolScopeViolations unparse (some original) (some edited) path allowed = [] ↔
      SameOutside allowed original edited) ↔
    ¬ (SameOutside allowed original edited ∧ Overlapping allowed original edited) ∧
      ¬ (Hidden allowed original edited ∧ ¬ Overlapping allowed original edited) := by
  rw [violations_eq_nil_iff_last hunparse hpython, last_eq_iff]
  have hagree : SameOutside allowed original edited → LastAgree allowed original edited :=
    lastAgree_of_sameOutside
  unfold Hidden
  constructor
  · intro h
    constructor
    · intro hover
      exact (h.mpr hover.1).2 hover.2
    · intro hhidden
      exact hhidden.1.1 (h.mp ⟨hhidden.1.2, hhidden.2⟩)
  · intro h
    constructor
    · intro hlast
      by_contra hsame
      exact h.2 ⟨⟨hsame, hlast.1⟩, hlast.2⟩
    · intro hsame
      exact ⟨hagree hsame, fun hover => h.1 ⟨hsame, hover⟩⟩

end Exact

def client : Identifier := ⟨"Client", by decide⟩
def send : Identifier := ⟨"send", by decide⟩
def getTimeout : Identifier := ⟨"get_timeout", by decide⟩

/-- A class with one method. -/
def clientFile (code : String) : List (Item String) :=
  [.definition (.classDef ⟨client, "", [.method ⟨send, code⟩]⟩)]

theorem symbol_scope_exact_client :
    isPython "src/app.py" = true ∧
      ((symbolScopeViolations id (some (clientFile "return 1")) (some (clientFile "return 2"))
          "src/app.py" ["Client", "Client.send"] = [] ↔
        SameOutside ["Client", "Client.send"] (clientFile "return 1") (clientFile "return 2")) ↔
      ¬ (SameOutside ["Client", "Client.send"] (clientFile "return 1") (clientFile "return 2") ∧
          Overlapping ["Client", "Client.send"] (clientFile "return 1") (clientFile "return 2")) ∧
        ¬ (Hidden ["Client", "Client.send"] (clientFile "return 1") (clientFile "return 2") ∧
          ¬ Overlapping ["Client", "Client.send"] (clientFile "return 1")
            (clientFile "return 2"))) :=
  ⟨by decide, symbol_scope_exact_iff Function.injective_id (by decide) _ _ _⟩

/-- A function after a statement, and once more. -/
def timeoutFile (statement first : String) : List (Item String) :=
  [.statement statement, .definition (.function ⟨getTimeout, first⟩),
    .definition (.function ⟨getTimeout, "return TIMEOUT"⟩)]

/-- An edit of an allowed method is reported as one of its class; an edited statement and an
edited first definition are not reported at all. -/
theorem symbol_scope_reports_class_misses_statement :
    (SameOutside ["Client.send"] (clientFile "return 1") (clientFile "return 2") ∧
      symbolScopeViolations id (some (clientFile "return 1")) (some (clientFile "return 2"))
        "src/app.py" ["Client.send"] = [.symbol "src/app.py" "Client"]) ∧
    (¬ SameOutside ["Client.send"] (timeoutFile "TIMEOUT = 1" "") (timeoutFile "TIMEOUT = 2" "") ∧
      symbolScopeViolations id (some (timeoutFile "TIMEOUT = 1" ""))
        (some (timeoutFile "TIMEOUT = 2" "")) "src/app.py" ["Client.send"] = []) ∧
    ¬ SameOutside ["Client.send"] (timeoutFile "" "return 1") (timeoutFile "" "return 2") ∧
      symbolScopeViolations id (some (timeoutFile "" "return 1"))
        (some (timeoutFile "" "return 2")) "src/app.py" ["Client.send"] = [] := by
  decide

end ProductionOptimizer.SymbolScope
