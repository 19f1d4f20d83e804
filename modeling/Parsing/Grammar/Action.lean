import Parsing.Outcome
import Parsing.Value
/-!
# Actions — what grammars do with values

The actions of a grammar work on values with stretches of any type, and see a stretch only as an `Excerpt`: its symbols
and its length.  The field `natural` of an action says that replacing the stretches of its argument replaces those of
its result and changes nothing else, so an action cannot tell one type of cursor from another.

An action that cannot deal with a value is defective and says so; that is no rejection of the value, which only a check
can give.
-/
namespace Parsing

/-- A mapping of values. -/
structure Transform (σ : Type) where
  apply : {S : Type} → (S → Excerpt σ) → Value S → Except String (Value S)
  natural : ∀ {S T : Type} (f : S → T) (view : T → Excerpt σ) (v : Value S),
    apply view (v.map f) = (apply (fun s => view (f s)) v).map (Value.map f)

/-- A mapping of values that may reject them. -/
structure Check (σ ζ : Type) where
  apply : {S : Type} → (S → Excerpt σ) → Value S → Verdict ζ (Value S)
  natural : ∀ {S T : Type} (f : S → T) (view : T → Excerpt σ) (v : Value S),
    apply view (v.map f) = (apply (fun s => view (f s)) v).map (Value.map f)

variable {σ ζ : Type}

/-- The text of an excerpt: that of its symbols. -/
def Excerpt.chars [Symbol σ] (s : Excerpt σ) : List Char :=
  s.symbols.flatMap fun a => (Symbol.value a).chars Empty.elim

namespace Transform

/-- Leaves values as they are. -/
def identity : Transform σ := ⟨fun _ v => .ok v, fun _ _ _ => rfl⟩

/-- The size of a value. -/
def size : Transform σ where
  apply view v := .ok (.int (v.size fun s => (view s).length))
  natural f view v := by simp only [Value.size_map]; rfl

/-- The text of a value. -/
def text [Symbol σ] : Transform σ where
  apply view v := .ok (.text (String.ofList (v.chars fun s => (view s).chars)))
  natural f view v := by simp only [Value.chars_map]; rfl

/-- Puts a label before a value. -/
def labelled (label : String) : Transform σ where
  apply _ v := .ok (.tuple [.text label, v])
  natural _ _ _ := rfl

/-- The item at an index, and unit where there is none. -/
def item (index : Nat) : Transform σ where
  apply _ v := .ok ((v.item? index).getD .unit)
  natural f _ v := by
    rw [Value.item?_map]
    cases v.item? index <;> rfl

/-- Finds every value defective. -/
def defective (message : String) : Transform σ := ⟨fun _ _ => .error message, fun _ _ _ => rfl⟩

end Transform

namespace Check

/-- Accepts what a mapping makes of a value. -/
def ofTransform (f : Transform σ) : Check σ ζ where
  apply view v := match f.apply view v with
    | .ok w => .accept w
    | .error message => .defect message
  natural h view v := by
    rw [f.natural]
    cases f.apply (fun s => view (h s)) v <;> rfl

/-- Accepts every value. -/
def always : Check σ ζ := ⟨fun _ v => .accept v, fun _ _ _ => rfl⟩

/-- Rejects every value. -/
def never (seed : ζ) : Check σ ζ := ⟨fun _ _ => .reject seed, fun _ _ _ => rfl⟩

/-- Finds every value defective. -/
def defective (message : String) : Check σ ζ := ⟨fun _ _ => .defect message, fun _ _ _ => rfl⟩

/-- Accepts values whose text is as asked. -/
def textSuchThat [Symbol σ] (holds : List Char → Bool) (seed : ζ) : Check σ ζ where
  apply view v := if holds (v.chars fun s => (view s).chars) then .accept v else .reject seed
  natural f view v := by
    rw [Value.chars_map]
    cases h : holds (v.chars fun s => (view (f s)).chars) <;> rfl

/-- Accepts values whose size is as asked. -/
def sizeSuchThat (holds : Nat → Bool) (seed : ζ) : Check σ ζ where
  apply view v := if holds (v.size fun s => (view s).length) then .accept v else .reject seed
  natural f view v := by
    rw [Value.size_map]
    cases h : holds (v.size fun s => (view (f s)).length) <;> rfl

/-- Puts the integer that the text of a value reads as in its place, and rejects values whose text is none. -/
def integer [Symbol σ] (read : List Char → Option Int) (seed : ζ) : Check σ ζ where
  apply view v := match read (v.chars fun s => (view s).chars) with
    | some n => .accept (.int n)
    | none => .reject seed
  natural f view v := by
    rw [Value.chars_map]
    cases h : read (v.chars fun s => (view (f s)).chars) <;> rfl

end Check
end Parsing
