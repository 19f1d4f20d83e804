import Parsing.Calculator.Expression
import Parsing.Proofs.Related
/-!
# Twins — one expression at two types of cursors

Twins are two parsers put together in the same way, from the same primitives and by the same combinators, each over its
own type of cursors.  Their mappings may be of any types, as long as they make related values of related values; a
relation between cursors makes one between stretches, so a mapping may look at a stretch as far as related stretches
look alike.  Rules that call each other are twins when their unrollings are, as for `Parser.Composed`.

Main statement: at cursors that a simulation relates, twins come to related outcomes (`Parser.Twins.related`).
-/
namespace Parsing

open Cursor (left)

/-- Two parsers put together in the same way, given how their causes and their values are related. -/
inductive Parser.Twins {ι ι' σ : Type} [Cursor ι σ] [Cursor ι' σ] (R : ι → ι' → Prop) :
    {κ κ' α α' : Type} → (κ → κ' → Prop) → (α → α' → Prop) → Parser ι κ α → Parser ι' κ' α' → Prop
  | stopped {κ κ' α α'} (C : κ → κ' → Prop) (V : α → α' → Prop) (why : Abort) :
      Twins R C V (fun _ => (.aborted why : Outcome κ ι α)) (fun _ => (.aborted why : Outcome κ' ι' α'))
  /-- Functions of the input, which may be other twins at each pair of related cursors. -/
  | computed {κ κ' α α'} {C : κ → κ' → Prop} {V : α → α' → Prop} {p : ι → Parser ι κ α} {q : ι' → Parser ι' κ' α'}
      (hp : ∀ x x', R x x' → Twins R C V (p x) (q x')) : Twins R C V (fun x => p x x) (fun x => q x x)
  | wider {κ κ' α α'} {C : κ → κ' → Prop} {V W : α → α' → Prop} {p : Parser ι κ α} {p' : Parser ι' κ' α'}
      (hp : Twins R C V p p') (hW : ∀ value value', V value value' → W value value') : Twins R C W p p'
  | yielding {κ κ' α α'} (C : κ → κ' → Prop) {V : α → α' → Prop} {value : α} {value' : α'} (hvalue : V value value') :
      Twins R C V (yielding value : Parser ι κ α) (yielding value' : Parser ι' κ' α')
  | anySymbol {κ κ'} [Cause κ] [Cause κ'] {C : κ → κ' → Prop} (hC : Cause.Simulates C) :
      Twins R C Eq (anySymbol : Parser ι κ σ) (anySymbol : Parser ι' κ' σ)
  | satisfying {κ κ'} [Cause κ] [Cause κ'] {C : κ → κ' → Prop} (hC : Cause.Simulates C) (holds : σ → Bool) :
      Twins R C Eq (satisfying holds : Parser ι κ σ) (satisfying holds : Parser ι' κ' σ)
  | endOfInput {κ κ'} [Cause κ] [Cause κ'] {C : κ → κ' → Prop} (hC : Cause.Simulates C) :
      Twins R C Eq (endOfInput : Parser ι κ Unit) (endOfInput : Parser ι' κ' Unit)
  | exactly {κ κ'} [DecidableEq σ] {C : κ → κ' → Prop} (expected : σ) {cause : κ} {cause' : κ'} (hc : C cause cause') :
      Twins R C Eq (exactly expected cause : Parser ι κ σ) (exactly expected cause' : Parser ι' κ' σ)
  | literal {κ κ' α α'} [DecidableEq σ] {C : κ → κ' → Prop} {V : α → α' → Prop} (expected : List σ) {cause : σ → κ}
      {cause' : σ → κ'} (hc : ∀ a, C (cause a) (cause' a)) {value : α} {value' : α'} (hvalue : V value value') :
      Twins R C V (literal expected cause value : Parser ι κ α) (literal expected cause' value' : Parser ι' κ' α')
  | map {κ κ' α α' β β'} {C : κ → κ' → Prop} {V : α → α' → Prop} {W : β → β' → Prop} {p : Parser ι κ α}
      {p' : Parser ι' κ' α'} (hp : Twins R C V p p') {f : α → β} {f' : α' → β'}
      (hf : ∀ value value', V value value' → W (f value) (f' value')) : Twins R C W (p.map f) (p'.map f')
  | tryMap {κ κ' α α' β β' ζ} [Seed ζ κ] [Seed ζ κ'] {C : κ → κ' → Prop} {V : α → α' → Prop} {W : β → β' → Prop}
      {p : Parser ι κ α} {p' : Parser ι' κ' α'} (hζ : Seed.Simulates ζ C) (hp : Twins R C V p p')
      {f : α → Except ζ β} {f' : α' → Except ζ β'}
      (hf : ∀ value value', V value value' → Results W (f value) (f' value')) :
      Twins R C W (p.tryMap f) (p'.tryMap f')
  | mapSoundly {κ κ' α α' β β'} {C : κ → κ' → Prop} {V : α → α' → Prop} {W : β → β' → Prop} {p : Parser ι κ α}
      {p' : Parser ι' κ' α'} (hp : Twins R C V p p') {f : α → Except String β} {f' : α' → Except String β'}
      (hf : ∀ value value', V value value' → Results W (f value) (f' value')) :
      Twins R C W (p.mapSoundly f) (p'.mapSoundly f')
  | judged {κ κ' α α' β β' ζ} [Seed ζ κ] [Seed ζ κ'] {C : κ → κ' → Prop} {V : α → α' → Prop} {W : β → β' → Prop}
      {p : Parser ι κ α} {p' : Parser ι' κ' α'} (hζ : Seed.Simulates ζ C) (hp : Twins R C V p p')
      {f : α → Verdict ζ β} {f' : α' → Verdict ζ β'}
      (hf : ∀ value value', V value value' → Verdicts W (f value) (f' value')) :
      Twins R C W (p.judged f) (p'.judged f')
  | withValue {κ κ' α α' β β'} {C : κ → κ' → Prop} {V : α → α' → Prop} {W : β → β' → Prop} {p : Parser ι κ α}
      {p' : Parser ι' κ' α'} (hp : Twins R C V p p') {value : β} {value' : β'} (hvalue : W value value') :
      Twins R C W (p.withValue value) (p'.withValue value')
  | complete {κ κ' α α'} [Cause κ] [Cause κ'] {C : κ → κ' → Prop} {V : α → α' → Prop} {p : Parser ι κ α}
      {p' : Parser ι' κ' α'} (hC : Cause.Simulates C) (hp : Twins R C V p p') : Twins R C V p.complete p'.complete
  | recognize {κ κ' α α'} {C : κ → κ' → Prop} {V : α → α' → Prop} {p : Parser ι κ α} {p' : Parser ι' κ' α'}
      (hp : Twins R C V p p') : Twins R C (Stretch.Related R) p.recognize p'.recognize
  | lookahead {κ κ' α α'} {C : κ → κ' → Prop} {V : α → α' → Prop} {p : Parser ι κ α} {p' : Parser ι' κ' α'}
      (hp : Twins R C V p p') : Twins R C V p.lookahead p'.lookahead
  | notFollowedBy {κ κ' α α'} [Cause κ] [Cause κ'] {C : κ → κ' → Prop} {V : α → α' → Prop} {p : Parser ι κ α}
      {p' : Parser ι' κ' α'} (hC : Cause.Simulates C) (hp : Twins R C V p p') :
      Twins R C Eq p.notFollowedBy p'.notFollowedBy
  | optional {κ κ' α α'} {C : κ → κ' → Prop} {V : α → α' → Prop} {p : Parser ι κ α} {p' : Parser ι' κ' α'}
      (hp : Twins R C V p p') : Twins R C (Option.Rel V) p.optional p'.optional
  | repeated {κ κ' α α'} {C : κ → κ' → Prop} {V : α → α' → Prop} {p : Parser ι κ α} {p' : Parser ι' κ' α'}
      (hp : Twins R C V p p') (range : Repetition) :
      Twins R C (List.Forall₂ V) (p.repeated range) (p'.repeated range)
  | butNot {κ κ' ν ν' α α' β β'} [Cause κ] [Cause κ'] {C : κ → κ' → Prop} {D : ν → ν' → Prop} {V : α → α' → Prop}
      {W : β → β' → Prop} {p : Parser ι κ α} {p' : Parser ι' κ' α'} {excluded : Parser ι ν β}
      {excluded' : Parser ι' ν' β'} (hC : Cause.Simulates C) (hp : Twins R C V p p')
      (he : Twins R D W excluded excluded') : Twins R C V (p.butNot excluded) (p'.butNot excluded')
  | separated {κ κ' ν ν' α α' β β'} {C : κ → κ' → Prop} {D : ν → ν' → Prop} {V : α → α' → Prop} {W : β → β' → Prop}
      {p : Parser ι κ α} {p' : Parser ι' κ' α'} {delimiter : Parser ι ν β} {delimiter' : Parser ι' ν' β'}
      (hp : Twins R C V p p') (hd : Twins R D W delimiter delimiter') :
      Twins R C (List.Forall₂ V) (p.separated delimiter) (p'.separated delimiter')
  | andThen {κ κ' α α' β β'} {C : κ → κ' → Prop} {V : α → α' → Prop} {W : β → β' → Prop} {p : Parser ι κ α}
      {p' : Parser ι' κ' α'} {q : Parser ι κ β} {q' : Parser ι' κ' β'} (hp : Twins R C V p p') (hq : Twins R C W q q') :
      Twins R C (fun v v' => V v.1 v'.1 ∧ W v.2 v'.2) (p.andThen q) (p'.andThen q')
  | orElse {κ κ' α α'} {C : κ → κ' → Prop} {V : α → α' → Prop} {p q : Parser ι κ α} {p' q' : Parser ι' κ' α'}
      (hp : Twins R C V p p') (hq : Twins R C V q q') : Twins R C V (p.orElse q) (p'.orElse q')
  | skipThen {κ κ' α α' β β'} {C : κ → κ' → Prop} {V : α → α' → Prop} {W : β → β' → Prop} {p : Parser ι κ α}
      {p' : Parser ι' κ' α'} {q : Parser ι κ β} {q' : Parser ι' κ' β'} (hp : Twins R C V p p') (hq : Twins R C W q q') :
      Twins R C W (p.skipThen q) (p'.skipThen q')
  | thenSkip {κ κ' α α' β β'} {C : κ → κ' → Prop} {V : α → α' → Prop} {W : β → β' → Prop} {p : Parser ι κ α}
      {p' : Parser ι' κ' α'} {q : Parser ι κ β} {q' : Parser ι' κ' β'} (hp : Twins R C V p p') (hq : Twins R C W q q') :
      Twins R C V (p.thenSkip q) (p'.thenSkip q')

variable {ι ι' σ κ κ' α α' : Type} [Cursor ι σ] [Cursor ι' σ] {R : ι → ι' → Prop} {C : κ → κ' → Prop}
  {V : α → α' → Prop} {p : Parser ι κ α} {p' : Parser ι' κ' α'}

/-- **Twins come to related outcomes.** -/
theorem Parser.Twins.related (hR : Cursor.Simulates R) (h : Twins R C V p p') : p.Related C R V p' := by
  induction h with
  | stopped _ _ why => exact fun _ _ _ => .aborted why
  | computed _ ih => exact fun x x' hx => ih x x' hx x x' hx
  | wider _ hW ih => exact fun x x' hx => (ih x x' hx).wider hW
  | yielding _ hvalue => exact related_yielding hvalue
  | anySymbol hC => exact related_anySymbol hR hC
  | satisfying hC holds => exact related_satisfying hR hC holds
  | endOfInput hC => exact related_endOfInput hR hC
  | exactly expected hc => exact related_exactly hR expected hc
  | literal expected hc hvalue => exact related_literal hR hc expected hvalue
  | map _ hf ih => exact ih.map hf
  | tryMap hζ _ hf ih => exact ih.tryMap hζ hf
  | mapSoundly _ hf ih => exact ih.mapSoundly hf
  | judged hζ _ hf ih => exact ih.judged hζ hf
  | withValue _ hvalue ih => exact ih.withValue hvalue
  | complete hC _ ih => exact ih.complete hR hC
  | recognize _ ih => exact ih.recognize
  | lookahead _ ih => exact ih.lookahead
  | notFollowedBy hC _ ih => exact ih.notFollowedBy hC
  | optional _ ih => exact ih.optional
  | repeated _ range ih => exact ih.repeated hR range
  | butNot hC _ _ ih ihe => exact ih.butNot hC ihe
  | separated _ _ ih ihd => exact ih.separated hR ihd
  | andThen _ _ ihp ihq => exact ihp.andThen ihq
  | orElse _ _ ihp ihq => exact ihp.orElse ihq
  | skipThen _ _ ihp ihq => exact ihp.skipThen ihq
  | thenSkip _ _ ihp ihq => exact ihp.thenSkip ihq

/-! ## Parsers of text and the calculator -/

section Text

variable {ι ι' : Type} [Cursor ι Char] [Cursor ι' Char] {R : ι → ι' → Prop}

namespace Parser

theorem twins_character (c : Char) :
    Twins R Eq Eq (character c : Parser ι TextCause Char) (character c : Parser ι' TextCause Char) :=
  .exactly c rfl

theorem twins_blanks : Twins R Eq Eq (blanks : Parser ι TextCause Unit) (blanks : Parser ι' TextCause Unit) :=
  ((Twins.satisfying (Cause.simulates_eq TextCause) Unicode.isWhiteSpace).repeated .any).withValue rfl

/-- Mappings of equal values. -/
theorem results_of_eq {α β ζ : Type} (f : α → Except ζ β) : ∀ value value', value = value' →
    Results Eq (f value) (f value') := by
  rintro value _ rfl
  cases f value with
  | ok result => exact .ok rfl
  | error seed => exact .error seed

theorem twins_newline : Twins R Eq Eq (newline : Parser ι TextCause Unit) (newline : Parser ι' TextCause Unit) :=
  .orElse (.withValue ((twins_character '\r').andThen (twins_character '\n')) rfl)
    (.orElse ((twins_character '\n').withValue rfl) ((twins_character '\r').withValue rfl))

end Parser

namespace Calculator

open Parsing.Parser (Twins)

theorem twins_token (c : Char) :
    Twins R Eq Eq (token c : Parser ι TextCause Char) (token c : Parser ι' TextCause Char) :=
  Parser.twins_blanks.skipThen (Parser.twins_character c)

theorem twins_digits : Twins R Eq (Stretch.Related R) (digits : Parser ι TextCause (Stretch ι))
    (digits : Parser ι' TextCause (Stretch ι')) :=
  ((Twins.satisfying (Cause.simulates_eq TextCause) Decimal.isDigit).repeated (.atLeast 1)).recognize

theorem twins_number (hR : Cursor.Simulates R) :
    Twins R Eq Eq (number : Parser ι TextCause Int) (number : Parser ι' TextCause Int) :=
  .tryMap (fun _ => rfl) (Parser.twins_blanks.skipThen twins_digits) fun s s' hs => by
    rw [hR.stretch_symbols_eq hs]
    exact Parser.results_of_eq readDigits _ _ rfl

theorem twins_chain {operator : Parser ι TextCause Operator} {operator' : Parser ι' TextCause Operator}
    {operand : Parser ι TextCause Int} {operand' : Parser ι' TextCause Int} (ho : Twins R Eq Eq operator operator')
    (hn : Twins R Eq Eq operand operand') : Twins R Eq Eq (chain operator operand) (chain operator' operand') := by
  have hlink := (ho.andThen hn).wider fun _ _ h => Prod.ext h.1 h.2
  have hmore := (hlink.repeated .any).wider fun _ _ h => List.forall₂_eq_eq_eq ▸ h
  have hboth := (hn.andThen hmore).wider fun _ _ h => Prod.ext h.1 h.2
  exact .tryMap (fun _ => rfl) hboth (Parser.results_of_eq fun (first, more) => evaluateChain first more)

theorem twins_multiplicative :
    Twins R Eq Eq (multiplicative : Parser ι TextCause Operator) (multiplicative : Parser ι' TextCause Operator) :=
  .orElse ((twins_token '*').withValue rfl)
    (.orElse ((twins_token '/').withValue rfl) ((twins_token '%').withValue rfl))

theorem twins_additive :
    Twins R Eq Eq (additive : Parser ι TextCause Operator) (additive : Parser ι' TextCause Operator) :=
  .orElse ((twins_token '+').withValue rfl) ((twins_token '-').withValue rfl)

theorem twins_operand (hR : Cursor.Simulates R) : ∀ (depth : Nat),
    Twins R Eq Eq (operand depth : Parser ι TextCause Int) (operand depth : Parser ι' TextCause Int)
  | 0 => .stopped _ _ _
  | depth + 1 => by
    have hoperand := twins_operand hR depth
    have hsum := twins_chain twins_additive (twins_chain twins_multiplicative hoperand)
    have hnegative := Twins.tryMap (fun _ => rfl) ((twins_token '-').skipThen hoperand) (Parser.results_of_eq negate)
    exact hnegative.orElse
      ((twins_number hR).orElse (((twins_token '(').skipThen hsum).thenSkip (twins_token ')')))

/-- **The calculator is its own twin** at related cursors. -/
theorem twins_calculation (hR : Cursor.Simulates R) :
    Twins R Eq Eq (calculation : Parser ι TextCause Int) (calculation : Parser ι' TextCause Int) :=
  .computed (p := fun x => ((expression (left x + 1)).thenSkip Parser.blanks).complete)
    (q := fun x => ((expression (left x + 1)).thenSkip Parser.blanks).complete) fun x x' hx => by
      have hoperand := twins_operand hR (left x + 1)
      have hsum := twins_chain twins_additive (twins_chain twins_multiplicative hoperand)
      rw [← hR.left_eq hx]
      exact (hsum.thenSkip Parser.twins_blanks).complete (Cause.simulates_eq TextCause)

end Calculator

end Text
end Parsing
