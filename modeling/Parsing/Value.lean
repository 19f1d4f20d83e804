import Parsing.Cursor.Stretch
/-!
# Values — what grammars yield

A grammar is data, so its values are of one type.  `Value S` has a place for stretches of type `S`; all else in a value
is independent of the cursors, and `Value.map` puts stretches of another type in their places.  A value of type
`Value Empty` has no stretch in it and can stand in a value of any type.
-/
namespace Parsing

/-- A value with stretches of type `S` in it. -/
inductive Value (S : Type) where
  | unit
  | char (c : Char)
  | int (n : Int)
  | text (s : String)
  | none
  | some (value : Value S)
  | list (items : List (Value S))
  | tuple (items : List (Value S))
  | stretch (s : S)

/-- Symbols that are values. -/
class Symbol (σ : Type) where
  value : σ → Value Empty

instance : Symbol Char := ⟨.char⟩
instance : Symbol Int := ⟨.int⟩
instance : Symbol UInt8 := ⟨fun n => .int n.toNat⟩
instance : Symbol Unit := ⟨fun _ => .unit⟩

namespace Value

variable {S T : Type}

mutual
/-- Replaces the stretches of a value. -/
def map (f : S → T) : Value S → Value T
  | unit => unit
  | char c => char c
  | int n => int n
  | text s => text s
  | none => none
  | some value => some (map f value)
  | list items => list (mapItems f items)
  | tuple items => tuple (mapItems f items)
  | stretch s => stretch (f s)

def mapItems (f : S → T) : List (Value S) → List (Value T)
  | [] => []
  | item :: items => map f item :: mapItems f items
end

/-- A value without stretches, among values with stretches. -/
def lift (v : Value Empty) : Value S := v.map Empty.elim

mutual
/-- The text of a value, given that of a stretch: characters and strings as they are, integers in decimal, the items of
a list or tuple one after the other. -/
def chars (ofStretch : S → List Char) : Value S → List Char
  | unit => []
  | char c => [c]
  | int n => (toString n).toList
  | text s => s.toList
  | none => []
  | some value => chars ofStretch value
  | list items => charsOfItems ofStretch items
  | tuple items => charsOfItems ofStretch items
  | stretch s => ofStretch s

def charsOfItems (ofStretch : S → List Char) : List (Value S) → List Char
  | [] => []
  | item :: items => chars ofStretch item ++ charsOfItems ofStretch items
end

/-- The size of a value, given that of a stretch: one for a character or an integer, the characters of a string, the
items of a list or tuple. -/
def size (ofStretch : S → Nat) : Value S → Nat
  | unit => 0
  | char _ => 1
  | int _ => 1
  | text s => s.length
  | none => 0
  | some _ => 1
  | list items => items.length
  | tuple items => items.length
  | stretch s => ofStretch s

/-- The item at an index of a list or tuple. -/
def item? : Value S → Nat → Option (Value S)
  | list items, index => items[index]?
  | tuple items, index => items[index]?
  | _, _ => Option.none

mutual
/-- Whether two values are equal, by an equality of stretches.  Values of different kinds differ. -/
def beq [BEq S] : Value S → Value S → Bool
  | unit, unit => true
  | char c, char d => c == d
  | int m, int n => m == n
  | text s, text t => s == t
  | none, none => true
  | some v, some w => beq v w
  | list vs, list ws => beqItems vs ws
  | tuple vs, tuple ws => beqItems vs ws
  | stretch s, stretch t => s == t
  | _, _ => false

def beqItems [BEq S] : List (Value S) → List (Value S) → Bool
  | [], [] => true
  | v :: vs, w :: ws => beq v w && beqItems vs ws
  | _, _ => false
end

instance [BEq S] : BEq (Value S) := ⟨beq⟩

/-! ## The laws of replacing stretches -/

@[simp] theorem mapItems_eq (f : S → T) : ∀ (items : List (Value S)), mapItems f items = items.map (map f)
  | [] => rfl
  | item :: items => by rw [mapItems, mapItems_eq f items, List.map_cons]

mutual
/-- **Replacing twice is replacing once by both.** -/
theorem map_map {U : Type} (f : S → T) (g : T → U) : ∀ (v : Value S), (v.map f).map g = v.map fun s => g (f s)
  | unit | char _ | int _ | text _ | none | stretch _ => rfl
  | some value => congrArg some (map_map f g value)
  | list items => congrArg list (mapItems_mapItems f g items)
  | tuple items => congrArg tuple (mapItems_mapItems f g items)

theorem mapItems_mapItems {U : Type} (f : S → T) (g : T → U) :
    ∀ (items : List (Value S)), mapItems g (mapItems f items) = mapItems (fun s => g (f s)) items
  | [] => rfl
  | item :: items => by rw [mapItems, mapItems, mapItems, map_map f g item, mapItems_mapItems f g items]
end

mutual
/-- **A value without stretches is the same among values of any type.** -/
theorem map_lift (f : S → T) (v : Value Empty) : (v.lift : Value S).map f = v.lift := by
  rw [lift, map_map, lift]
  congr 1
  funext e
  exact e.elim
end

mutual
/-- **The text of a value sees stretches only through their texts.** -/
theorem chars_map (f : S → T) (ofStretch : T → List Char) :
    ∀ (v : Value S), (v.map f).chars ofStretch = v.chars fun s => ofStretch (f s)
  | unit | char _ | int _ | text _ | none | stretch _ => rfl
  | some value => chars_map f ofStretch value
  | list items => charsOfItems_mapItems f ofStretch items
  | tuple items => charsOfItems_mapItems f ofStretch items

theorem charsOfItems_mapItems (f : S → T) (ofStretch : T → List Char) :
    ∀ (items : List (Value S)),
      charsOfItems ofStretch (mapItems f items) = charsOfItems (fun s => ofStretch (f s)) items
  | [] => rfl
  | item :: items => by
    rw [mapItems, charsOfItems, charsOfItems, chars_map f ofStretch item, charsOfItems_mapItems f ofStretch items]
end

theorem size_map (f : S → T) (ofStretch : T → Nat) (v : Value S) :
    (v.map f).size ofStretch = v.size fun s => ofStretch (f s) := by
  cases v <;> simp [map, size]

theorem item?_map (f : S → T) (v : Value S) (index : Nat) : (v.map f).item? index = (v.item? index).map (map f) := by
  cases v <;> simp [map, item?]

end Value
end Parsing
