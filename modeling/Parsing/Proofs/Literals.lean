import Mathlib.Order.Bounds.Basic
import Parsing.Proofs.Agreement
import Parsing.Proofs.Sequences
/-!
# Literals — how far a string and a text go together

A string matches where the text begins with all of it.  Elsewhere it fails at the first place where the two part, for the
character the string has there; the end of the text is such a place too.  This place is a function of the two
(`commonLength`), the length of their longest common front part.

A sequence of the characters of the string takes the same way, character by character
(`Grammar.inTurn_characters`), so it comes to the same rest and the same fault.

Main statement: `string_matches_up_to_difference`.
-/
namespace Parsing

open Cursor (Tower after symbols)

/-- How many items two lists have in common from their fronts on. -/
def commonLength {σ : Type} [DecidableEq σ] : List σ → List σ → Nat
  | [], _ => 0
  | _ :: _, [] => 0
  | a :: as, b :: bs => if a = b then commonLength as bs + 1 else 0

section Lists

variable {σ : Type} [DecidableEq σ]

theorem commonLength_append (tail : List σ) : ∀ common : List σ, commonLength common (common ++ tail) = common.length
  | [] => rfl
  | a :: common => by rw [List.cons_append, commonLength, if_pos rfl, commonLength_append tail common, List.length_cons]

/-- Where two lists part, their common front part ends. -/
theorem commonLength_of_differs {a : σ} {more tail : List σ} (ha : tail.head? ≠ some a) : ∀ common : List σ,
    commonLength (common ++ a :: more) (common ++ tail) = common.length
  | [] => by
    cases tail with
    | nil => rfl
    | cons b tail =>
      have hab : a ≠ b := fun heq => ha (congrArg some heq.symm)
      rw [List.nil_append, List.nil_append, commonLength, if_neg hab, List.length_nil]
  | b :: common => by
    rw [List.cons_append, List.cons_append, commonLength, if_pos rfl, commonLength_of_differs ha common,
      List.length_cons]

/-- **No longer list begins both.** -/
theorem isGreatest_commonLength : ∀ as bs : List σ,
    IsGreatest {k | ∃ common : List σ, common.length = k ∧ common <+: as ∧ common <+: bs} (commonLength as bs)
  | [], bs => by
    refine ⟨⟨[], rfl, List.nil_prefix, List.nil_prefix⟩, ?_⟩
    rintro _ ⟨common, rfl, has, -⟩
    exact has.length_le
  | a :: as, [] => by
    refine ⟨⟨[], rfl, List.nil_prefix, List.nil_prefix⟩, ?_⟩
    rintro _ ⟨common, rfl, -, hbs⟩
    exact hbs.length_le
  | a :: as, b :: bs => by
    rw [commonLength]
    by_cases hab : a = b
    · subst hab
      obtain ⟨⟨common, hlength, has, hbs⟩, hgreatest⟩ := isGreatest_commonLength as bs
      rw [if_pos rfl]
      refine ⟨⟨a :: common, congrArg (· + 1) hlength, List.cons_prefix_cons.2 ⟨rfl, has⟩,
        List.cons_prefix_cons.2 ⟨rfl, hbs⟩⟩, ?_⟩
      rintro _ ⟨_ | ⟨c, other⟩, rfl, has', hbs'⟩
      · exact Nat.zero_le _
      · exact Nat.succ_le_succ
          (hgreatest ⟨other, rfl, (List.cons_prefix_cons.1 has').2, (List.cons_prefix_cons.1 hbs').2⟩)
    · rw [if_neg hab]
      refine ⟨⟨[], rfl, List.nil_prefix, List.nil_prefix⟩, ?_⟩
      rintro _ ⟨_ | ⟨c, other⟩, rfl, has', hbs'⟩
      · exact Nat.le_refl 0
      · exact absurd ((List.cons_prefix_cons.1 has').1.symm.trans (List.cons_prefix_cons.1 hbs').1) hab

end Lists

namespace Parser

variable {ι σ κ α : Type} [DecidableEq σ] [Cursor ι σ] {expected : List σ} {cause : σ → κ} {x : ι}

/-- **A literal goes as far as the symbols at hand go with it**, and fails there unless that is its end. -/
theorem literal_eq (expected : List σ) (cause : σ → κ) (value : α) (x : ι) :
    literal expected cause value x =
      match expected[commonLength expected (symbols x)]? with
      | some a => .failure ⟨cause a, after (commonLength expected (symbols x)) x⟩ x
      | none => .success value (after (commonLength expected (symbols x)) x) := by
  rcases isPrefix_or_differs expected (symbols x) with ⟨tail, htail⟩ | ⟨common, a, more, tail, rfl, hs, ha⟩
  · rw [literal_of_symbols value htail.symm, ← htail, commonLength_append,
      List.getElem?_eq_none (Nat.le_refl _)]
  · rw [hs, commonLength_of_differs ha, List.getElem?_append_right (Nat.le_refl _), Nat.sub_self, literal,
      literalFrom_of_differs ha common hs]
    rfl

end Parser

namespace Grammar

variable {ι : Type} [Cursor ι Char] (call : String → Parser ι TextCause (Value (Stretch ι)))

/-- **Characters in turn go the way of the string they spell.** -/
theorem inTurn_characters (start : ι) : ∀ (cs : List Char) (x : ι),
    inTurn call start (cs.map character) x =
      (Parser.literalFrom TextCause.expected start cs x).map fun _ => cs.map Value.char
  | [], x => rfl
  | c :: cs, x => by
    have hrun : (character c).run call x =
        (Parser.exactly c (.expected c) x : Outcome TextCause ι Char).map fun a => (Symbol.value a).lift := rfl
    rw [List.map_cons, inTurn, Parser.literalFrom, hrun]
    cases h : (Parser.exactly c (.expected c) x : Outcome TextCause ι Char) with
    | success a rest =>
      obtain ⟨-, rfl⟩ := Parser.exactly_eq_success.1 h
      show (inTurn call start (cs.map character) rest).map _ = _
      rw [inTurn_characters start cs rest, Outcome.map_map]
      rfl
    | failure fault given => rfl
    | aborted why => rfl

theorem run_string (s : String) (x : ι) : (string s).run call x = (Parser.string s x).map Value.text := by
  rw [Parser.string, Parser.literal, Outcome.map_map]
  rfl

variable {call}

/-- **A sequence of characters matches where their string does**, and elsewhere fails as their string does. -/
theorem run_sequence_characters (hcall : ∀ name, (call name).Composed Value.parts) (s : String) (x : ι) :
    (sequence (s.toList.map character)).run call x =
      (Parser.string s x).map fun _ => .tuple (s.toList.map Value.char) := by
  have hloop : (sequence (s.toList.map character)).run call x =
      (inTurn call x (s.toList.map character) x).map .tuple := by
    cases hs : s.toList with
    | nil =>
      rw [List.map_nil, sequence, balance]
      rfl
    | cons c cs => exact sequence_eq_inTurn hcall (by simp) x
  rw [hloop, inTurn_characters, Parser.string, Parser.literal, Outcome.map_map, Outcome.map_map]

end Grammar

/-- **A string matches just where it is written.**  Let `k` be the length of the longest list that begins both the
string and the text at hand.  If that is all of the string, it matches and the rest is `k` characters on; if not, it
fails there for its character at `k`, and gives back its input.  A sequence of its characters comes to the same rest and
the same fault.  On a text that is the string, it matches all. -/
theorem string_matches_up_to_difference {ι : Type} [Cursor ι Char] (s : String) (x : ι) :
    let k := commonLength s.toList (symbols x)
    IsGreatest {n | ∃ common : List Char, common.length = n ∧ common <+: s.toList ∧ common <+: symbols x} k ∧
      (k = s.toList.length → Parser.string s x = .success s (after k x)) ∧
      (∀ h : k < s.toList.length, Parser.string s x = .failure ⟨.expected s.toList[k], after k x⟩ x) ∧
      (∀ rules : Rules Char TextCause, (Grammar.string s).parse rules x = (Parser.string s x).map Value.text ∧
        (Grammar.sequence (s.toList.map Grammar.character)).parse rules x =
          (Parser.string s x).map fun _ => .tuple (s.toList.map Value.char)) ∧
      (Tower x → symbols x = s.toList → ∃ rest, (Parser.string s).complete x = .success s rest ∧ symbols rest = []) := by
  intro k
  have hstring : Parser.string s x = _ := Parser.literal_eq s.toList TextCause.expected s x
  refine ⟨isGreatest_commonLength _ _, fun hk => ?_, fun hk => ?_, fun rules => ⟨?_, ?_⟩, fun hx hs => ?_⟩
  · rw [hstring, List.getElem?_eq_none (Nat.le_of_eq hk.symm)]
  · rw [hstring, List.getElem?_eq_getElem hk]
  · exact Grammar.run_string _ s x
  · exact Grammar.run_sequence_characters (Grammar.composed_call rules _) s x
  · have hstring : Parser.string s x = .success s _ := Parser.literal_of_symbols s (hs.trans (List.append_nil _).symm)
    have hrest : symbols (after s.toList.length x) = [] := by rw [Cursor.symbols_after, hs, List.drop_length]
    have hempty := hx.truthful.isEmpty_iff (Cursor.reaches_after s.toList.length x)
    exact ⟨_, Parser.complete_eq_success.2 ⟨hstring, hempty.2 (congrArg List.length hrest)⟩, hrest⟩

/-- A word that parts from another at its fourth letter, one cut off at the same place, and one that is all there. -/
theorem string_matches_up_to_difference_of_words :
    let x : Located Text := .ofCursor (Text.ofString "help")
    let y : Located Text := .ofCursor (Text.ofString "hel")
    let letters : Grammar Char TextCause := .sequence ("hello".toList.map Grammar.character)
    (commonLength "hello".toList (symbols x) = 3 ∧
      Parser.string "hello" x = .failure ⟨TextCause.expected 'l', ⟨⟨3, ['p']⟩, 1, 4⟩⟩ x ∧
      letters.parse [] x = .failure ⟨TextCause.expected 'l', ⟨⟨3, ['p']⟩, 1, 4⟩⟩ x) ∧
    Parser.string "hello" y = .failure ⟨TextCause.expected 'l', ⟨⟨3, []⟩, 1, 4⟩⟩ y ∧
    Parser.string "hel" x = .success "hel" ⟨⟨3, ['p']⟩, 1, 4⟩ ∧
    ∃ rest, (Parser.string "hel").complete y = .success "hel" rest ∧ symbols rest = [] := by
  intro x y letters
  have htower : Tower y := (Tower.text (Text.ofString "hel")).located 1 1
  have hhello := string_matches_up_to_difference "hello" x
  have hfailure : Parser.string "hello" x = .failure ⟨TextCause.expected 'l', ⟨⟨3, ['p']⟩, 1, 4⟩⟩ x :=
    hhello.2.2.1 (by decide)
  refine ⟨⟨rfl, hfailure, ?_⟩, (string_matches_up_to_difference "hello" y).2.2.1 (by decide),
    (string_matches_up_to_difference "hel" x).2.1 rfl, (string_matches_up_to_difference "hel" y).2.2.2.2 htower rfl⟩
  rw [(hhello.2.2.2.1 []).2, hfailure]
  rfl

end Parsing
