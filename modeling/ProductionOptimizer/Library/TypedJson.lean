import Mathlib.Data.List.Basic

/-!
# Typed values and their JSON images

Values built from JSON data and opaque model instances. Dumping replaces every model by the
items it serializes to; validation against a type hint restores the models the hint knows
of. The two are inverse exactly where the value has the hinted type, and where nothing is
hinted, on values without models.
-/

namespace TypedJson
set_option autoImplicit false

/-- A value of a program. The items of a dict stand in key order, so that equal dicts are
equal lists; a float is given by its text. -/
inductive Value (M : Type) where
  | null
  | bool (b : Bool)
  | int (n : Int)
  | float (text : String)
  | string (s : String)
  | list (items : List (Value M))
  | dict (items : List (String × Value M))
  | model (m : M)

/-- What a value may be annotated with. -/
inductive Hint (C : Type) where
  | any
  | str
  | int
  | literal (allowed : List String)
  | model (c : C)
  | list (item : Hint C)
  | dict (item : Hint C)
  | optional (hint : Hint C)
  deriving DecidableEq, Repr

section Plain
variable {M : Type}

mutual
def Value.plain : Value M → Bool
  | .null => true
  | .bool _ => true
  | .int _ => true
  | .float _ => true
  | .string _ => true
  | .list items => plainList items
  | .dict items => plainItems items
  | .model _ => false

def plainList : List (Value M) → Bool
  | [] => true
  | v :: vs => v.plain && plainList vs

def plainItems : List (String × Value M) → Bool
  | [] => true
  | (_, v) :: items => v.plain && plainItems items
end

end Plain

/-- A serialization library over the models `M` with classes `C`. `leaf` validates against
the hints that are not containers. -/
structure Models (M C : Type) where
  classOf : M → C
  dump : M → List (String × Value M)
  leaf : Hint C → Value M → Option (Value M)

section Image
variable {M C : Type} (lib : Models M C)

mutual
/-- The JSON image: what dumping and reading back makes of a value. -/
def image : Value M → Value M
  | .null => .null
  | .bool b => .bool b
  | .int n => .int n
  | .float text => .float text
  | .string s => .string s
  | .list items => .list (imageList items)
  | .dict items => .dict (imageItems items)
  | .model m => .dict (lib.dump m)

def imageList : List (Value M) → List (Value M)
  | [] => []
  | v :: vs => image v :: imageList vs

def imageItems : List (String × Value M) → List (String × Value M)
  | [] => []
  | (key, v) :: items => (key, image v) :: imageItems items
end

/-- Validation of a value against a hint. -/
def coerce : Hint C → Value M → Option (Value M)
  | .any, v => some v
  | .list item, .list items => (items.mapM (coerce item)).map .list
  | .list _, _ => none
  | .dict item, .dict items =>
    (items.mapM fun entry => (coerce item entry.2).map fun v => (entry.1, v)).map .dict
  | .dict _, _ => none
  | .optional _, .null => some .null
  | .optional hint, v => coerce hint v
  | hint, v => lib.leaf hint v

def OfLeaf : Hint C → Value M → Prop
  | .str, v => ∃ s, v = .string s
  | .int, v => ∃ n, v = .int n
  | .literal allowed, v => ∃ s ∈ allowed, v = .string s
  | .model c, v => ∃ m, v = .model m ∧ lib.classOf m = c
  | _, _ => False

/-- The value has the hinted type; where anything goes it is plain data. -/
def Fits : Hint C → Value M → Prop
  | .any, v => v.plain = true
  | .list item, v => ∃ items, v = .list items ∧ ∀ x ∈ items, Fits item x
  | .dict item, v => ∃ items, v = .dict items ∧ ∀ entry ∈ items, Fits item entry.2
  | .optional hint, v => v = .null ∨ Fits hint v
  | hint, v => OfLeaf lib hint v

/-- What is relied on of the library: a dump is plain data, validation returns values of the
hinted type, and an instance is validated from its own dump. -/
structure Models.Lawful : Prop where
  dump_plain : ∀ m, plainItems (lib.dump m) = true
  leaf_sound : ∀ hint v w, lib.leaf hint v = some w → OfLeaf lib hint w
  leaf_image : ∀ hint v, OfLeaf lib hint v → lib.leaf hint (image lib v) = some v

end Image

section Facts
variable {M C : Type} {lib : Models M C}

theorem imageList_eq_map (items : List (Value M)) : imageList lib items = items.map (image lib) := by
  induction items with
  | nil => rfl
  | cons v vs ih => rw [imageList, List.map_cons, ih]

theorem imageItems_eq_map (items : List (String × Value M)) :
    imageItems lib items = items.map fun entry => (entry.1, image lib entry.2) := by
  induction items with
  | nil => rfl
  | cons entry rest ih => rw [imageItems, List.map_cons, ih]

mutual
theorem plain_image (h : lib.Lawful) : ∀ v, (image lib v).plain = true
  | .null => rfl
  | .bool _ => rfl
  | .int _ => rfl
  | .float _ => rfl
  | .string _ => rfl
  | .list items => plainList_image h items
  | .dict items => plainItems_image h items
  | .model m => h.dump_plain m

theorem plainList_image (h : lib.Lawful) : ∀ items, plainList (imageList lib items) = true
  | [] => rfl
  | v :: vs => by
    rw [imageList, plainList, plain_image h v, plainList_image h vs]
    rfl

theorem plainItems_image (h : lib.Lawful) : ∀ items, plainItems (imageItems lib items) = true
  | [] => rfl
  | (key, v) :: items => by
    rw [imageItems, plainItems, plain_image h v, plainItems_image h items]
    rfl
end

mutual
theorem image_of_plain : ∀ v : Value M, v.plain = true → image lib v = v
  | .null, _ => rfl
  | .bool _, _ => rfl
  | .int _, _ => rfl
  | .float _, _ => rfl
  | .string _, _ => rfl
  | .list items, h => by
    rw [Value.plain] at h
    rw [image, imageList_of_plain items h]
  | .dict items, h => by
    rw [Value.plain] at h
    rw [image, imageItems_of_plain items h]
  | .model m, h => by
    rw [Value.plain] at h
    cases h

theorem imageList_of_plain : ∀ items : List (Value M), plainList items = true →
    imageList lib items = items
  | [], _ => rfl
  | v :: vs, h => by
    rw [plainList, Bool.and_eq_true] at h
    rw [imageList, image_of_plain v h.1, imageList_of_plain vs h.2]

theorem imageItems_of_plain : ∀ items : List (String × Value M), plainItems items = true →
    imageItems lib items = items
  | [], _ => rfl
  | (key, v) :: items, h => by
    rw [plainItems, Bool.and_eq_true] at h
    rw [imageItems, image_of_plain v h.1, imageItems_of_plain items h.2]
end

theorem image_eq_self_iff (h : lib.Lawful) (v : Value M) : image lib v = v ↔ v.plain = true := by
  constructor
  · intro heq
    rw [← heq]
    exact plain_image h v
  · exact image_of_plain v

theorem image_eq_null_iff (v : Value M) : image lib v = .null ↔ v = .null := by
  cases v <;> simp [image]

theorem mapM_map_eq_self_iff {α β : Type} (f : α → β) (g : β → Option α) (xs : List α) :
    (xs.map f).mapM g = some xs ↔ ∀ x ∈ xs, g (f x) = some x := by
  induction xs with
  | nil => simp
  | cons x xs ih =>
    rw [List.map_cons, List.mapM_cons, List.forall_mem_cons, ← ih]
    simp only [Option.bind_eq_bind, Option.pure_def, Option.bind_eq_some_iff]
    constructor
    · rintro ⟨y, hy, ys, hys, heq⟩
      cases heq
      exact ⟨hy, hys⟩
    · rintro ⟨hx, hxs⟩
      exact ⟨x, hx, xs, hxs, rfl⟩

theorem coerce_list_iff {item : Hint C} (ih : ∀ v, coerce lib item (image lib v) = some v ↔
    Fits lib item v) (v : Value M) :
    coerce lib (.list item) (image lib v) = some v ↔ Fits lib (.list item) v := by
  cases v with
  | list items =>
    rw [image, imageList_eq_map, coerce, Option.map_eq_some_iff]
    have hself := mapM_map_eq_self_iff (image lib) (coerce lib item) items
    constructor
    · rintro ⟨out, hout, heq⟩
      cases heq
      exact ⟨items, rfl, fun x hx => (ih x).mp (hself.mp hout x hx)⟩
    · rintro ⟨_, heq, hfits⟩
      cases heq
      exact ⟨items, hself.mpr fun x hx => (ih x).mpr (hfits x hx), rfl⟩
  | _ =>
    constructor
    · intro heq
      cases heq
    · rintro ⟨_, heq, _⟩
      cases heq

theorem coerce_dict_iff {item : Hint C} (ih : ∀ v, coerce lib item (image lib v) = some v ↔
    Fits lib item v) (v : Value M) :
    coerce lib (.dict item) (image lib v) = some v ↔ Fits lib (.dict item) v := by
  have hentry : ∀ entry : String × Value M,
      ((coerce lib item (image lib entry.2)).map fun w => (entry.1, w)) = some entry ↔
        Fits lib item entry.2 := by
    rintro ⟨key, x⟩
    rw [← ih x, Option.map_eq_some_iff]
    constructor
    · rintro ⟨w, hw, heq⟩
      cases heq
      exact hw
    · intro hw
      exact ⟨x, hw, rfl⟩
  cases v with
  | dict items =>
    rw [image, imageItems_eq_map, coerce, Option.map_eq_some_iff]
    have hself := mapM_map_eq_self_iff (fun entry : String × Value M => (entry.1, image lib entry.2))
      (fun entry => (coerce lib item entry.2).map fun w => (entry.1, w)) items
    constructor
    · rintro ⟨out, hout, heq⟩
      cases heq
      exact ⟨items, rfl, fun x hx => (hentry x).mp (hself.mp hout x hx)⟩
    · rintro ⟨_, heq, hfits⟩
      cases heq
      exact ⟨items, hself.mpr fun x hx => (hentry x).mpr (hfits x hx), rfl⟩
  | model m =>
    constructor
    · intro heq
      rw [image, coerce, Option.map_eq_some_iff] at heq
      obtain ⟨_, _, heq⟩ := heq
      cases heq
    · rintro ⟨_, heq, _⟩
      cases heq
  | _ =>
    constructor
    · intro heq
      cases heq
    · rintro ⟨_, heq, _⟩
      cases heq

theorem coerce_optional_iff {hint : Hint C} (ih : ∀ v, coerce lib hint (image lib v) = some v ↔
    Fits lib hint v) (v : Value M) :
    coerce lib (.optional hint) (image lib v) = some v ↔ Fits lib (.optional hint) v := by
  by_cases hv : v = .null
  · subst hv
    exact ⟨fun _ => Or.inl rfl, fun _ => rfl⟩
  · have himage : image lib v ≠ .null := fun h => hv ((image_eq_null_iff v).mp h)
    have hcoerce : coerce lib (.optional hint) (image lib v) = coerce lib hint (image lib v) := by
      cases hw : image lib v with
      | null => exact absurd hw himage
      | _ => rfl
    rw [hcoerce, ih v]
    exact ⟨Or.inr, fun h => h.resolve_left hv⟩

/-- Validation restores a value from its JSON image exactly when it fits the hint. -/
theorem coerce_image_iff (h : lib.Lawful) (hint : Hint C) :
    ∀ v, coerce lib hint (image lib v) = some v ↔ Fits lib hint v := by
  have hleaf : ∀ hint, (∀ w, coerce lib hint w = lib.leaf hint w) →
      (∀ v, Fits lib hint v = OfLeaf lib hint v) →
      ∀ v, coerce lib hint (image lib v) = some v ↔ Fits lib hint v := by
    intro hint hcoerce hfits v
    rw [hcoerce, hfits]
    exact ⟨h.leaf_sound hint _ v, h.leaf_image hint v⟩
  induction hint with
  | any =>
    intro v
    rw [coerce, Option.some.injEq]
    exact image_eq_self_iff h v
  | list item ih => exact coerce_list_iff ih
  | dict item ih => exact coerce_dict_iff ih
  | optional hint ih => exact coerce_optional_iff ih
  | str => exact hleaf .str (fun _ => rfl) fun _ => rfl
  | int => exact hleaf .int (fun _ => rfl) fun _ => rfl
  | literal allowed => exact hleaf (.literal allowed) (fun _ => rfl) fun _ => rfl
  | model c => exact hleaf (.model c) (fun _ => rfl) fun _ => rfl

end Facts

end TypedJson
