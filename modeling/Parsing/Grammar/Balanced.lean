import Parsing.Grammar
/-!
# Balanced grammars — sequences and choices of any length

A sequence of many grammars is a balanced tree of pairs and a choice among many a balanced tree of alternatives, both
split in the middle, so nesting grows with the logarithm of the length.  A sequence yields one flat tuple: `ungroup`
takes the nested pairs apart along the same splits.
-/
namespace Parsing

/-- Joins the items of a list in a balanced tree: the first half with the second, the longer one behind. -/
def balance.{u} {α : Type u} (join : α → α → α) (empty : α) : List α → α
  | [] => empty
  | [a] => a
  | a :: b :: more =>
    join (balance join empty ((a :: b :: more).take ((a :: b :: more).length / 2)))
      (balance join empty ((a :: b :: more).drop ((a :: b :: more).length / 2)))
termination_by items => items.length
decreasing_by all_goals simp; omega

namespace Value

variable {S T : Type}

/-- The items that a balanced tree of pairs holds, so many of them. -/
def ungroup : Nat → Value S → List (Value S)
  | 0, _ => []
  | 1, v => [v]
  | count + 2, v =>
    match v with
    | tuple [first, second] =>
      ungroup ((count + 2) / 2) first ++ ungroup (count + 2 - (count + 2) / 2) second
    | _ => [v]

theorem ungroup_map (f : S → T) (count : Nat) (v : Value S) :
    (v.map f).ungroup count = (v.ungroup count).map (map f) := by
  fun_induction ungroup count v with
  | case1 => simp [ungroup]
  | case2 => simp [ungroup]
  | case3 count first second h₁ h₂ =>
    rw [List.map_append, ← h₁, ← h₂]
    simp only [map, mapItems, ungroup]
  | case4 count v h =>
    cases v with
    | tuple items =>
      rcases items with _ | ⟨first, _ | ⟨second, _ | ⟨third, more⟩⟩⟩
      · simp [map, ungroup]
      · simp [map, ungroup]
      · exact absurd rfl (h first second)
      · simp [map, ungroup]
    | _ => simp [map, ungroup]

end Value

namespace Transform

/-- Makes a flat tuple of a balanced tree of pairs. -/
def flatten {σ : Type} (count : Nat) : Transform σ where
  apply _ v := .ok (.tuple (v.ungroup count))
  natural f _ v := by
    rw [Value.ungroup_map]
    show _ = Except.ok (Value.tuple _)
    rw [Value.mapItems_eq]

end Transform

namespace Grammar

variable {σ ζ : Type}

/-- Matches grammars one after the other and yields a tuple of their values. -/
def sequence (ps : List (Grammar σ ζ)) : Grammar σ ζ :=
  .map (balance .andThen (.yielding .unit) ps) (.flatten ps.length)

/-- Tries grammars in order, up to the first that matches; for none, matches nothing and yields unit. -/
def choice (ps : List (Grammar σ ζ)) : Grammar σ ζ := balance .orElse (.yielding .unit) ps

end Grammar

/-! ## Grammars of text -/

namespace Grammar

/-- One given character. -/
def character (c : Char) : Grammar Char TextCause := .exactly c (.expected c)

/-- A string, character by character. -/
def string (s : String) : Grammar Char TextCause := .literal s.toList .expected (.text s)

/-- One line break: CR LF, LF, or CR. -/
def newline : Grammar Char TextCause :=
  choice [.withValue (sequence [character '\r', character '\n']) .unit, .withValue (character '\n') .unit,
    .withValue (character '\r') .unit]

/-- Any number of blank characters. -/
def blanks : Grammar Char TextCause := .withValue (.repeated (.satisfying Unicode.isWhiteSpace) .any) .unit

end Grammar
end Parsing
