import Parsing.Parser.Text
import Parsing.Proofs.Success
/-!
# Properties — set operators and parser operators

A set of characters can be composed first and parsed then, or its members can be parsed and the parsers composed: an
ordered choice for a union, a lookahead and a match for an intersection, any character but what is excluded for a
complement.  Both match the same characters and fail at the same place.  They differ only in what they say there: a
composed parser tells what its last attempt told, and behind a complement that may be an excluded match
(`Property.complaint`).

Main statement: `property_operators_are_parser_operators`.
-/
namespace Parsing
namespace Unicode.Property

open Cursor (next symbols)

variable {ι κ τ : Type} [Cursor ι Char] [Cause κ] (holds : τ → Char → Bool)

/-- Matches one character of a set. -/
def parser (e : Property τ) : Parser ι κ Char := Parser.satisfying (e.contains holds)

/-- A set by parsers of its members, each operator on sets turned into one on parsers. -/
def translation : Property τ → Parser ι κ Char
  | leaf member => (leaf member).parser holds
  | complement p => Parser.anySymbol.butNot (translation p : Parser ι κ Char)
  | intersection p q => (translation p).lookahead.skipThen (translation q)
  | union p q => (translation p).orElse (translation q)

/-- What the translation of a set tells of a character that is not in it. -/
def complaint : Property τ → Char → κ
  | leaf _, _ => Cause.invalid
  | complement _, _ => Cause.excluded
  | intersection p q, c => if p.contains holds c then complaint q c else complaint p c
  | union _ q, c => complaint q c

/-- Whether there is a complement somewhere in the expression of a set. -/
def HasComplement : Property τ → Prop
  | leaf _ => False
  | complement _ => True
  | intersection p q | union p q => p.HasComplement ∨ q.HasComplement

/-- **What is told of a character is that it is invalid, or behind a complement that it is excluded.** -/
theorem complaint_eq_or (e : Property τ) (c : Char) :
    (complaint holds e c : κ) = Cause.invalid ∨ e.HasComplement ∧ (complaint holds e c : κ) = Cause.excluded := by
  induction e with
  | leaf member => exact .inl rfl
  | complement p _ => exact .inr ⟨trivial, rfl⟩
  | intersection p q ihp ihq =>
    rw [complaint]
    split
    · exact ihq.imp id (.imp .inr id)
    · exact ihp.imp id (.imp .inl id)
  | union p q _ ihq => exact ihq.imp id (.imp .inr id)

theorem parser_of_next_none (e : Property τ) {x : ι} (h : next x = none) :
    (e.parser holds x : Outcome κ ι Char) = .failure ⟨Cause.moreNeeded, x⟩ x := by
  rw [parser, Parser.satisfying, h]

theorem parser_of_next_some (e : Property τ) {x rest : ι} {c : Char} (h : next x = some (c, rest)) :
    (e.parser holds x : Outcome κ ι Char) =
      if e.contains holds c then .success c rest else .failure ⟨Cause.invalid, x⟩ x := by
  rw [parser, Parser.satisfying, h]

/-- **At the end a translation needs more input**, complements included: nothing is there to be excluded. -/
theorem translation_of_next_none (e : Property τ) {x : ι} (h : next x = none) :
    (e.translation holds x : Outcome κ ι Char) = .failure ⟨Cause.moreNeeded, x⟩ x := by
  induction e with
  | leaf member => exact parser_of_next_none holds _ h
  | complement p ih => rw [translation, Parser.butNot, ih, Parser.anySymbol, h]
  | intersection p q ih _ => rw [translation, Parser.skipThen, Parser.lookahead, ih]; rfl
  | union p q ihp ihq =>
    rw [translation, Parser.orElse, ihp]
    exact ihq

/-- **A translation matches just the characters of its set**, and tells of the others what `complaint` says. -/
theorem translation_of_next_some (e : Property τ) {x rest : ι} {c : Char} (h : next x = some (c, rest)) :
    (e.translation holds x : Outcome κ ι Char) =
      if e.contains holds c then .success c rest else .failure ⟨complaint holds e c, x⟩ x := by
  induction e with
  | leaf member => exact parser_of_next_some holds _ h
  | complement p ih =>
    rw [translation, Parser.butNot, ih, Parser.anySymbol, h, contains, complaint]
    cases p.contains holds c <;> rfl
  | intersection p q ihp ihq =>
    rw [translation, Parser.skipThen, Parser.lookahead, ihp, contains, complaint]
    cases p.contains holds c with
    | true =>
      rw [if_pos rfl, if_pos rfl, Bool.true_and, Outcome.andThen_success, Outcome.andThen_success, ihq]
      split <;> rfl
    | false => rfl
  | union p q ihp ihq =>
    rw [translation, Parser.orElse, ihp, contains, complaint]
    cases p.contains holds c with
    | true => rfl
    | false =>
      rw [if_neg Bool.false_ne_true, Bool.false_or]
      exact ihq

end Unicode.Property

open Cursor (symbols)
open Unicode (Property)

/-- **Operators on sets are operators on parsers.**  The parser of a composed set and its translation into parsers of
the members both match the character at hand, and leave the same rest, or both fail at the cursor they were given.
There the parser of the set needs more input at the end and finds the symbol invalid elsewhere.  The translation says
the same, unless the set has a complement in it: then it may tell of an excluded match where the other tells of an
invalid symbol.  Without a complement both are one. -/
theorem property_operators_are_parser_operators {ι κ τ : Type} [Cursor ι Char] [Cause κ] (holds : τ → Char → Bool)
    (e : Property τ) (x : ι) :
    let whole : Outcome κ ι Char := e.parser holds x
    let composed : Outcome κ ι Char := e.translation holds x
    ((∃ c rest, Cursor.next x = some (c, rest) ∧ e.contains holds c = true ∧ whole = .success c rest ∧
        composed = .success c rest) ∨
      ∃ cause, whole = .failure ⟨if symbols x = [] then Cause.moreNeeded else Cause.invalid, x⟩ x ∧
        composed = .failure ⟨cause, x⟩ x ∧
        (cause = (if symbols x = [] then Cause.moreNeeded else Cause.invalid) ∨
          symbols x ≠ [] ∧ e.HasComplement ∧ cause = Cause.excluded)) ∧
    (¬ e.HasComplement → composed = whole) := by
  intro whole composed
  cases h : Cursor.next x with
  | none =>
    have hwhole : whole = _ := e.parser_of_next_none holds h
    have hcomposed : composed = _ := e.translation_of_next_none holds h
    rw [if_pos (Cursor.symbols_of_next_eq_none h)]
    exact ⟨.inr ⟨_, hwhole, hcomposed, .inl rfl⟩, fun _ => hcomposed.trans hwhole.symm⟩
  | some step =>
    obtain ⟨c, rest⟩ := step
    have hwhole : whole = _ := e.parser_of_next_some holds h
    have hcomposed : composed = _ := e.translation_of_next_some holds h
    have hmore : symbols x ≠ [] := by
      rw [Cursor.symbols_of_next_eq_some h]
      exact List.cons_ne_nil _ _
    rw [if_neg hmore]
    cases hc : e.contains holds c with
    | true =>
      rw [if_pos hc] at hwhole hcomposed
      exact ⟨.inl ⟨c, rest, rfl, hc, hwhole, hcomposed⟩, fun _ => hcomposed.trans hwhole.symm⟩
    | false =>
      rw [if_neg (Bool.eq_false_iff.1 hc)] at hwhole hcomposed
      refine ⟨.inr ⟨_, hwhole, hcomposed, ?_⟩, fun hnone => ?_⟩
      · exact (e.complaint_eq_or holds c).imp id fun ⟨hhas, hexcluded⟩ => ⟨hmore, hhas, hexcluded⟩
      · have hsame := (e.complaint_eq_or (κ := κ) holds c).resolve_right fun hboth => hnone hboth.1
        rw [hwhole, hcomposed, hsame]

/-- Two signs, told alike of another character, and all others than these, of which a sign is told in two ways. -/
theorem property_operators_are_parser_operators_of_signs :
    let holds : Char → Char → Bool := fun member c => c == member
    let signs : Property Char := .union (.leaf '+') (.intersection (.leaf '-') (.leaf '-'))
    let others : Property Char := .complement signs
    let x := Text.ofString "1-"
    let y := Text.ofString "-"
    ¬ signs.HasComplement ∧
      (signs.translation holds x : Outcome TextCause Text Char) = signs.parser holds x ∧
      (signs.parser holds x : Outcome TextCause Text Char) = .failure ⟨.general .invalid, x⟩ x ∧
      (others.parser holds y : Outcome TextCause Text Char) = .failure ⟨.general .invalid, y⟩ y ∧
      (others.translation holds y : Outcome TextCause Text Char) = .failure ⟨.general .excluded, y⟩ y := by
  intro holds signs others x y
  have hnone : ¬ signs.HasComplement := by
    rintro (h | h | h) <;> exact h
  exact ⟨hnone, (property_operators_are_parser_operators holds signs x).2 hnone, rfl, rfl, rfl⟩

end Parsing
