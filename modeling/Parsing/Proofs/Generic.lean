import Parsing.Cause.Text
import Parsing.Proofs.Naturality
/-!
# Generic parsers — one outcome, told in the words of each type of causes

A parser that is written for every type of causes is a family of parsers, one for each type.  It is generic when its
members are twins whose causes are the same mismatches (`Parser.Generic`): they differ in the words for a mismatch and
in nothing else, and no combinator looks at a cause.  So a generic parser comes to one outcome in mismatches, and each
member tells it in the words of its type (`Parser.Generic.told`).  Grammars that reject with mismatches are generic
(`Grammar.generic_parse`).

The words of text keep all four mismatches apart; those of a type without a word for an excluded pattern do not.  This
is the only difference between what the two say (`generic_outcome_is_told`).
-/
namespace Parsing

variable {ι σ κ κ' α : Type}

/-- Mismatches are causes in their own words. -/
instance : Cause Mismatch where
  moreNeeded := .moreNeeded
  endExpected := .endExpected
  invalid := .invalid
  excluded := .excluded

theorem Mismatch.cause_self (m : Mismatch) : m.cause = m := by
  cases m <;> rfl

/-- The words of a type of causes that reports an excluded pattern as invalid input. -/
def Mismatch.plain [Cause κ] : Mismatch → κ
  | moreNeeded => Cause.moreNeeded
  | endExpected => Cause.endExpected
  | invalid => Cause.invalid
  | excluded => Cause.invalid

theorem Mismatch.cause_eq_plain [Cause κ] (h : (Cause.excluded : κ) = Cause.invalid) :
    (Mismatch.cause : Mismatch → κ) = Mismatch.plain := by
  funext m
  cases m with
  | excluded => exact h
  | moreNeeded | endExpected | invalid => rfl

/-! ## Told outcomes -/

namespace Outcome

/-- The same outcome with its cause in other words. -/
def told (words : κ → κ') : Outcome κ ι α → Outcome κ' ι α
  | success value rest => .success value rest
  | failure fault input => .failure ⟨words fault.cause, fault.position⟩ input
  | aborted why => .aborted why

variable {words : κ → κ'} {o : Outcome κ ι α}

theorem told_eq_failure {fault : Fault κ' ι} {input : ι} : o.told words = .failure fault input ↔
    ∃ cause, words cause = fault.cause ∧ o = .failure ⟨cause, fault.position⟩ input := by
  cases o with
  | success value rest => simp [told]
  | failure given input' =>
    obtain ⟨cause, place⟩ := given
    obtain ⟨cause', place'⟩ := fault
    simp only [told, failure.injEq, Fault.mk.injEq]
    constructor
    · rintro ⟨⟨rfl, rfl⟩, rfl⟩
      exact ⟨cause, rfl, ⟨rfl, rfl⟩, rfl⟩
    · rintro ⟨_, rfl, ⟨rfl, rfl⟩, rfl⟩
      exact ⟨⟨rfl, rfl⟩, rfl⟩
  | aborted why => simp [told]

end Outcome

/-! ## One mismatch in two words -/

/-- Causes of two types that stand for the same mismatch. -/
def Cause.Same (κ κ' : Type) [Cause κ] [Cause κ'] (k : κ) (k' : κ') : Prop := ∃ m : Mismatch, m.cause = k ∧ m.cause = k'

theorem Cause.simulates_same (κ κ' : Type) [Cause κ] [Cause κ'] : Cause.Simulates (Cause.Same κ κ') where
  moreNeeded := ⟨.moreNeeded, rfl, rfl⟩
  endExpected := ⟨.endExpected, rfl, rfl⟩
  invalid := ⟨.invalid, rfl, rfl⟩
  excluded := ⟨.excluded, rfl, rfl⟩

theorem Seed.simulates_same (κ κ' : Type) [Cause κ] [Cause κ'] : Seed.Simulates Mismatch (Cause.Same κ κ') :=
  fun m => ⟨m, rfl, rfl⟩

theorem Cursor.simulates_eq [Cursor ι σ] : Cursor.Simulates (Eq : ι → ι → Prop) where
  next_none := by
    rintro x _ rfl h
    exact h
  next_some := by
    rintro x _ y a rfl h
    exact ⟨y, h, rfl⟩
  samePosition := by
    rintro x _ y _ rfl rfl
    rfl
  isEmpty := by
    rintro x _ rfl
    rfl
  size? := by
    rintro x _ rfl
    rfl

/-- **An outcome related to one in mismatches is that one, told.** -/
theorem Outcome.Related.eq_told [Cause κ] {o : Outcome Mismatch ι α} {o' : Outcome κ ι α}
    (h : o.Related (Cause.Same Mismatch κ) Eq Eq o') : o' = o.told Mismatch.cause := by
  cases h with
  | success hvalue hrest => rw [hvalue, hrest]; rfl
  | failure hcause hplace hinput =>
    obtain ⟨m, rfl, rfl⟩ := hcause
    rw [hplace, hinput, m.cause_self]
    rfl
  | aborted why => rfl

/-! ## Generic parsers -/

namespace Parser

variable [Cursor ι σ]

/-- Parsers for all types of causes that are put together in the same way and mean the same mismatches. -/
def Generic (e : ∀ (κ : Type) [Cause κ], Parser ι κ α) : Prop :=
  ∀ (κ κ' : Type) [Cause κ] [Cause κ'], Twins Eq (Cause.Same κ κ') Eq (e κ) (e κ')

variable {e : ∀ (κ : Type) [Cause κ], Parser ι κ α}

/-- **A generic parser comes to one outcome in mismatches**, told in the words of each type. -/
theorem Generic.told (he : Generic e) (κ : Type) [Cause κ] (x : ι) : e κ x = (e Mismatch x).told Mismatch.cause :=
  ((he Mismatch κ).related Cursor.simulates_eq x x rfl).eq_told

theorem Generic.told_general (he : Generic e) (x : ι) : e TextCause x = (e Mismatch x).told .general := by
  rw [he.told TextCause, funext TextCause.cause_eq_general]

theorem Generic.told_plain (he : Generic e) (κ : Type) [Cause κ] (hκ : (Cause.excluded : κ) = Cause.invalid) (x : ι) :
    e κ x = (e Mismatch x).told Mismatch.plain := by
  rw [he.told κ, Mismatch.cause_eq_plain hκ]

end Parser

namespace Value

/-- Alike values are equal where related stretches are. -/
theorem Alike.eq {S : Type} {P : S → S → Prop} (hP : ∀ s t, P s t → s = t) {v w : Value S} (h : Alike P v w) :
    v = w := by
  obtain ⟨u, rfl, rfl⟩ := h
  congr 1
  funext q
  exact hP _ _ q.property

end Value

namespace Grammar

variable [DecidableEq σ] [Symbol σ] [Cursor ι σ]

/-- **A grammar that rejects with mismatches is generic.** -/
theorem generic_parse (p : Grammar σ Mismatch) (rules : Rules σ Mismatch) :
    Parser.Generic fun (κ : Type) _ => (p.parse rules : Parser ι κ (Value (Stretch ι))) := by
  intro κ κ' _ _
  have hR : Cursor.Simulates (Eq : ι → ι → Prop) := Cursor.simulates_eq
  have h := twins_parse (Cause.simulates_same κ κ') (Seed.simulates_same κ κ') hR p rules
  refine h.wider fun v w hvw => hvw.eq ?_
  rintro ⟨start, stop⟩ ⟨start', stop'⟩ ⟨rfl, rfl⟩
  rfl

end Grammar

/-- **What a parser does never depends on the type of causes.**  At every cursor a generic parser comes to one outcome:
one value and rest, or one mismatch at one position and one cursor given back.  Over text the mismatch keeps its name; a
type of causes that does not set an excluded pattern apart tells the same outcome, with invalid input for an excluded
pattern.  This is so of every grammar that rejects with mismatches, rules included. -/
theorem generic_outcome_is_told {ι σ : Type} [Cursor ι σ] :
    (∀ {α : Type} {e : ∀ (κ : Type) [Cause κ], Parser ι κ α}, Parser.Generic e → ∀ x : ι, ∃ o : Outcome Mismatch ι α,
      e TextCause x = o.told .general ∧
        ∀ (κ : Type) [Cause κ], (Cause.excluded : κ) = Cause.invalid → e κ x = o.told Mismatch.plain) ∧
    ∀ [DecidableEq σ] [Symbol σ] (p : Grammar σ Mismatch) (rules : Rules σ Mismatch) (x : ι),
      ∃ o : Outcome Mismatch ι (Value (Stretch ι)), p.parse rules x = o.told TextCause.general ∧
        ∀ (κ : Type) [Cause κ], (Cause.excluded : κ) = Cause.invalid →
          (p.parse rules x : Outcome κ ι _) = o.told Mismatch.plain := by
  constructor
  · exact fun {_ e} he x => ⟨e Mismatch x, he.told_general x, fun κ _ hκ => he.told_plain κ hκ x⟩
  · intro _ _ p rules x
    have hp : Parser.Generic fun (κ : Type) _ => (p.parse rules : Parser ι κ _) := Grammar.generic_parse p rules
    exact ⟨p.parse rules x, hp.told_general x, fun κ _ hκ => hp.told_plain κ hκ x⟩

/-- A symbol that is to be the last, with another one behind it. -/
theorem generic_outcome_is_told_of_a_last_symbol :
    let last : Grammar Char Mismatch := .andThen .anySymbol (.notFollowedBy .anySymbol)
    let word : Text := Text.ofString "ab"
    (Parser.anySymbol.andThen Parser.anySymbol.notFollowedBy : Parser Text PlainCause (Char × Unit)) word =
        .failure ⟨.invalid, ⟨1, ['b']⟩⟩ word ∧
      last.parse [] word = .failure ⟨PlainCause.invalid, ⟨1, ['b']⟩⟩ word := by
  intro last word
  have he : Parser.Generic fun (κ : Type) _ =>
      (Parser.anySymbol.andThen Parser.anySymbol.notFollowedBy : Parser Text κ (Char × Unit)) := by
    intro κ κ' _ _
    have hC := Cause.simulates_same κ κ'
    exact ((Parser.Twins.anySymbol hC).andThen (.notFollowedBy hC (.anySymbol hC))).wider fun _ _ h => Prod.ext h.1 h.2
  constructor
  · obtain ⟨o, htext, hplain⟩ := generic_outcome_is_told.1 he word
    have hrun : o.told TextCause.general = .failure ⟨.general .excluded, ⟨1, ['b']⟩⟩ word := htext.symm
    obtain ⟨m, hm, rfl⟩ := Outcome.told_eq_failure.1 hrun
    cases hm
    exact hplain PlainCause rfl
  · obtain ⟨o, htext, hplain⟩ := generic_outcome_is_told.2 last [] word
    have hrun : o.told TextCause.general = .failure ⟨.general .excluded, ⟨1, ['b']⟩⟩ word := htext.symm
    obtain ⟨m, hm, rfl⟩ := Outcome.told_eq_failure.1 hrun
    cases hm
    exact hplain PlainCause rfl

end Parsing
