import Parsing.Calculator.Expression
import Parsing.Grammar.Balanced
import Parsing.Proofs.Orderly
import Parsing.Proofs.Stretches
/-!
# Composed parsers — whatever the combinators build

`Composed` is the least class of parsers that holds the primitives and is closed under the combinators, for values,
causes and mappings of any type.  The mappings may do what they like with the values, stretches included: the parts of
a value are those stretches in it that `recognize` made and the mappings passed on.  Rules that call each other are in
the class too: unrolled to a depth they are (`Parser.Composed.stopped` ends the unrolling), and where a recursion ends
it is, at each cursor, such an unrolling (`Parser.Composed.computed`).  Grammars and the calculator are instances.

Main statements: a failure gives back the cursor the parser was given (`failure_gives_back_input`), and all other
positions in an outcome are reached from that cursor (`positions_stay_in_input`).
-/
namespace Parsing

open Cursor (after left Reaches SelfSame)

/-- Parsers put together from the primitives and the combinators, with the parts of their values. -/
inductive Parser.Composed {ι σ : Type} [Cursor ι σ] : {κ α : Type} → Parts ι α → Parser ι κ α → Prop
  /-- A run that is given up: a defective mapping, or rules that call each other too deep. -/
  | stopped {κ α} (parts : Parts ι α) (why : Abort) : Composed parts fun _ => (.aborted why : Outcome κ ι α)
  /-- A function of the input, which may be another composed parser at each cursor. -/
  | computed {κ α} {parts : Parts ι α} {p : ι → Parser ι κ α} (hp : ∀ x, Composed parts (p x)) :
      Composed parts fun x => p x x
  | fewer {κ α} {parts kept : Parts ι α} {p : Parser ι κ α} (hp : Composed parts p)
      (hkept : ∀ value s, kept value s → parts value s) : Composed kept p
  | yielding {κ α} {parts : Parts ι α} {value : α} (hvalue : ∀ s, ¬ parts value s) :
      Composed parts (yielding value : Parser ι κ α)
  | anySymbol {κ} [Cause κ] : Composed Parts.none (anySymbol : Parser ι κ σ)
  | satisfying {κ} [Cause κ] (holds : σ → Bool) : Composed Parts.none (satisfying holds : Parser ι κ σ)
  | endOfInput {κ} [Cause κ] : Composed Parts.none (endOfInput : Parser ι κ Unit)
  | exactly {κ} [DecidableEq σ] (expected : σ) (cause : κ) : Composed Parts.none (exactly expected cause : Parser ι κ σ)
  | literal {κ α} [DecidableEq σ] {parts : Parts ι α} (expected : List σ) (cause : σ → κ) {value : α}
      (hvalue : ∀ s, ¬ parts value s) : Composed parts (literal expected cause value : Parser ι κ α)
  | map {κ α β} {parts : Parts ι α} {others : Parts ι β} {p : Parser ι κ α} (hp : Composed parts p) (f : α → β)
      (hf : ∀ value s, others (f value) s → parts value s) : Composed others (p.map f)
  | tryMap {κ α β ζ} [Seed ζ κ] {parts : Parts ι α} {others : Parts ι β} {p : Parser ι κ α} (hp : Composed parts p)
      (f : α → Except ζ β) (hf : ∀ value result s, f value = .ok result → others result s → parts value s) :
      Composed others (p.tryMap f)
  | mapSoundly {κ α β} {parts : Parts ι α} {others : Parts ι β} {p : Parser ι κ α} (hp : Composed parts p)
      (f : α → Except String β) (hf : ∀ value result s, f value = .ok result → others result s → parts value s) :
      Composed others (p.mapSoundly f)
  | judged {κ α β ζ} [Seed ζ κ] {parts : Parts ι α} {others : Parts ι β} {p : Parser ι κ α} (hp : Composed parts p)
      (f : α → Verdict ζ β) (hf : ∀ value result s, f value = .accept result → others result s → parts value s) :
      Composed others (p.judged f)
  | withValue {κ α β} {parts : Parts ι α} {others : Parts ι β} {p : Parser ι κ α} (hp : Composed parts p) {value : β}
      (hvalue : ∀ s, ¬ others value s) : Composed others (p.withValue value)
  | complete {κ α} [Cause κ] {parts : Parts ι α} {p : Parser ι κ α} (hp : Composed parts p) : Composed parts p.complete
  | recognize {κ α} {parts : Parts ι α} {p : Parser ι κ α} (hp : Composed parts p) : Composed Parts.itself p.recognize
  | lookahead {κ α} {parts : Parts ι α} {p : Parser ι κ α} (hp : Composed parts p) : Composed parts p.lookahead
  | notFollowedBy {κ α} [Cause κ] {parts : Parts ι α} {p : Parser ι κ α} (hp : Composed parts p) :
      Composed Parts.none p.notFollowedBy
  | optional {κ α} {parts : Parts ι α} {p : Parser ι κ α} (hp : Composed parts p) : Composed parts.found p.optional
  | repeated {κ α} {parts : Parts ι α} {p : Parser ι κ α} (hp : Composed parts p) (range : Repetition) :
      Composed parts.items (p.repeated range)
  | butNot {κ ν α β} [Cause κ] {parts : Parts ι α} {others : Parts ι β} {p : Parser ι κ α}
      {excluded : Parser ι ν β} (hp : Composed parts p) (he : Composed others excluded) :
      Composed parts (p.butNot excluded)
  | separated {κ ν α β} {parts : Parts ι α} {others : Parts ι β} {p : Parser ι κ α} {delimiter : Parser ι ν β}
      (hp : Composed parts p) (hd : Composed others delimiter) : Composed parts.items (p.separated delimiter)
  | andThen {κ α β} {parts : Parts ι α} {others : Parts ι β} {p : Parser ι κ α} {q : Parser ι κ β}
      (hp : Composed parts p) (hq : Composed others q) : Composed (parts.both others) (p.andThen q)
  | orElse {κ α} {parts : Parts ι α} {p q : Parser ι κ α} (hp : Composed parts p) (hq : Composed parts q) :
      Composed parts (p.orElse q)
  | skipThen {κ α β} {parts : Parts ι α} {others : Parts ι β} {p : Parser ι κ α} {q : Parser ι κ β}
      (hp : Composed parts p) (hq : Composed others q) : Composed others (p.skipThen q)
  | thenSkip {κ α β} {parts : Parts ι α} {others : Parts ι β} {p : Parser ι κ α} {q : Parser ι κ β}
      (hp : Composed parts p) (hq : Composed others q) : Composed parts (p.thenSkip q)

variable {ι σ κ α : Type} [Cursor ι σ]

/-- **Composed parsers are orderly**: each combinator keeps the invariant. -/
theorem Parser.Composed.orderly {parts : Parts ι α} {p : Parser ι κ α} (h : p.Composed parts) : p.Orderly parts := by
  induction h with
  | stopped parts why => exact fun _ => trivial
  | computed _ ih => exact fun x => ih x x
  | fewer _ hsome ih => exact ih.fewer hsome
  | yielding hvalue => exact orderly_yielding hvalue
  | anySymbol => exact orderly_anySymbol
  | satisfying holds => exact orderly_satisfying holds
  | endOfInput => exact orderly_endOfInput
  | exactly expected cause => exact orderly_exactly expected cause
  | literal expected cause hvalue => exact orderly_literal expected cause hvalue
  | map _ f hf ih => exact ih.map hf
  | tryMap _ f hf ih => exact ih.tryMap hf
  | mapSoundly _ f hf ih => exact ih.mapSoundly hf
  | judged _ f hf ih => exact ih.judged hf
  | withValue _ hvalue ih => exact ih.withValue hvalue
  | complete _ ih => exact ih.complete
  | recognize _ ih => exact ih.recognize
  | lookahead _ ih => exact ih.lookahead
  | notFollowedBy _ ih => exact ih.notFollowedBy
  | optional _ ih => exact ih.optional
  | repeated _ range ih => exact ih.repeated range
  | butNot _ _ ih _ => exact ih.butNot _
  | separated _ _ ih ihd => exact ih.separated ihd
  | andThen _ _ ihp ihq => exact ihp.andThen ihq
  | orElse _ _ ihp ihq => exact ihp.orElse ihq
  | skipThen _ _ ihp ihq => exact ihp.skipThen ihq
  | thenSkip _ _ ihp ihq => exact ihp.thenSkip ihq

/-! ## Parsers of text and the calculator -/

namespace Parser

variable {ι : Type} [Cursor ι Char]

theorem composed_character (c : Char) : (character c : Parser ι TextCause Char).Composed Parts.none :=
  .exactly c _

theorem composed_newline : (newline : Parser ι TextCause Unit).Composed Parts.none :=
  .orElse (.withValue ((composed_character '\r').andThen (composed_character '\n')) fun _ => id)
    (.orElse ((composed_character '\n').withValue fun _ => id) ((composed_character '\r').withValue fun _ => id))

theorem composed_blanks : (blanks : Parser ι TextCause Unit).Composed Parts.none :=
  ((Composed.satisfying Unicode.isWhiteSpace).repeated .any).withValue fun _ => id

end Parser

namespace Calculator

open Parsing.Parser (Composed)

variable {ι : Type} [Cursor ι Char]

theorem composed_token (c : Char) : (token c : Parser ι TextCause Char).Composed Parts.none :=
  Parser.composed_blanks.skipThen (Parser.composed_character c)

theorem composed_digits : (digits : Parser ι TextCause (Stretch ι)).Composed Parts.itself :=
  ((Composed.satisfying Decimal.isDigit).repeated (.atLeast 1)).recognize

theorem composed_number : (number : Parser ι TextCause Int).Composed Parts.none :=
  (Parser.composed_blanks.skipThen composed_digits).tryMap _ fun _ _ _ _ => False.elim

theorem composed_chain {operator : Parser ι TextCause Operator} {operand : Parser ι TextCause Int}
    (ho : operator.Composed Parts.none) (hn : operand.Composed Parts.none) :
    (chain operator operand).Composed Parts.none :=
  (hn.andThen ((ho.andThen hn).repeated .any)).tryMap _ fun _ _ _ _ => False.elim

theorem composed_multiplicative : (multiplicative : Parser ι TextCause Operator).Composed Parts.none :=
  .orElse ((composed_token '*').withValue fun _ => id)
    (.orElse ((composed_token '/').withValue fun _ => id) ((composed_token '%').withValue fun _ => id))

theorem composed_additive : (additive : Parser ι TextCause Operator).Composed Parts.none :=
  .orElse ((composed_token '+').withValue fun _ => id) ((composed_token '-').withValue fun _ => id)

theorem composed_sum {operand : Parser ι TextCause Int} (hn : operand.Composed Parts.none) :
    (sum operand).Composed Parts.none :=
  composed_chain composed_additive (composed_chain composed_multiplicative hn)

theorem composed_atom {expression : Parser ι TextCause Int} (he : expression.Composed Parts.none) :
    (atom expression).Composed Parts.none :=
  composed_number.orElse (((composed_token '(').skipThen he).thenSkip (composed_token ')'))

theorem composed_operand : ∀ (depth : Nat), (operand depth : Parser ι TextCause Int).Composed Parts.none
  | 0 => .stopped _ _
  | depth + 1 =>
    (((composed_token '-').skipThen (composed_operand depth)).tryMap _ fun _ _ _ _ => False.elim).orElse
      (composed_atom (composed_sum (composed_operand depth)))

/-- **The calculator is composed**, its operands cut off at a depth that grows with the input. -/
theorem composed_calculation : (calculation : Parser ι TextCause Int).Composed Parts.none :=
  .computed (p := fun x => ((expression (left x + 1)).thenSkip Parser.blanks).complete)
    fun x => ((composed_sum (composed_operand (left x + 1))).thenSkip Parser.composed_blanks).complete

end Calculator

/-! ## Grammars and rules -/

/-- The parts of a grammar's value: all its stretches. -/
def Value.parts : Parts ι (Value (Stretch ι)) := fun v s => s ∈ v.stretches

theorem Value.not_parts_lift (v : Value Empty) (s : Stretch ι) : ¬ Value.parts v.lift s := by
  rw [Value.parts, Value.stretches_lift]
  exact List.not_mem_nil

theorem Parser.Composed.map_of_none {p : Parser ι κ α} (hp : p.Composed Parts.none) {f : α → Value (Stretch ι)}
    (hf : ∀ value s, ¬ Value.parts (f value) s) : (p.map f).Composed Value.parts :=
  hp.map f fun value s hs => hf value s hs

theorem Parser.Composed.map_list {p : Parser ι κ (List (Value (Stretch ι)))} (hp : p.Composed Value.parts.items) :
    (p.map Value.list).Composed Value.parts :=
  hp.map Value.list fun values _ hs => (Value.mem_stretchesOfItems values).1 hs

namespace Grammar

variable {ζ : Type} [DecidableEq σ] [Symbol σ] [Cause κ] [Seed ζ κ]

/-- **A grammar is composed once its rules are.** -/
theorem composed_run {call : String → Parser ι κ (Value (Stretch ι))}
    (hcall : ∀ name, (call name).Composed Value.parts) :
    ∀ (p : Grammar σ ζ), (p.run call).Composed Value.parts
  | anySymbol => Parser.Composed.anySymbol.map_of_none fun _ => Value.not_parts_lift _
  | endOfInput => .withValue .endOfInput fun _ => List.not_mem_nil
  | yielding value => .yielding (Value.not_parts_lift value)
  | satisfying holds => (Parser.Composed.satisfying holds).map_of_none fun _ => Value.not_parts_lift _
  | exactly symbol _ => (Parser.Composed.exactly symbol _).map_of_none fun _ => Value.not_parts_lift _
  | literal symbols _ value => .literal symbols _ (Value.not_parts_lift value)
  | map p f => (composed_run hcall p).mapSoundly _ fun value result s h hs =>
      f.of_mem_stretches _ h (fun _ ht => ht) s hs
  | tryMap p f => (composed_run hcall p).judged _ fun value result s h hs =>
      f.of_mem_stretches _ h (fun _ ht => ht) s hs
  | withValue p value => (composed_run hcall p).withValue (Value.not_parts_lift value)
  | complete p => (composed_run hcall p).complete
  | recognize p => (composed_run hcall p).recognize.map _ fun t s hs => List.mem_singleton.1 hs
  | notFollowedBy p => (composed_run hcall p).notFollowedBy.withValue fun _ => List.not_mem_nil
  | lookahead p => (composed_run hcall p).lookahead
  | optional p => (composed_run hcall p).optional.map _ fun found s hs => by
      cases found with
      | none => exact absurd hs List.not_mem_nil
      | some v => exact ⟨v, rfl, hs⟩
  | repeated p range => ((composed_run hcall p).repeated range).map_list
  | butNot p excluded => (composed_run hcall p).butNot (composed_run hcall excluded)
  | separated p delimiter => ((composed_run hcall p).separated (composed_run hcall delimiter)).map_list
  | andThen p q => ((composed_run hcall p).andThen (composed_run hcall q)).map _ fun (v, w) s hs => by
      rw [Value.parts, Value.stretches, Value.mem_stretchesOfItems] at hs
      obtain ⟨u, hu, hs⟩ := hs
      rcases List.mem_cons.1 hu with rfl | hu
      · exact Or.inl hs
      · rw [List.mem_singleton.1 hu] at hs
        exact Or.inr hs
  | orElse p q => (composed_run hcall p).orElse (composed_run hcall q)
  | skipThen p q => (composed_run hcall p).skipThen (composed_run hcall q)
  | thenSkip p q => (composed_run hcall p).thenSkip (composed_run hcall q)
  | rule name => hcall name

/-- **Rules are composed at every depth of calls.** -/
theorem composed_call (rules : Rules σ ζ) : ∀ (depth : Nat) (name : String),
    (rules.call depth name : Parser ι κ (Value (Stretch ι))).Composed Value.parts
  | 0, _ => .stopped _ _
  | depth + 1, name => by
    unfold Rules.call
    cases rules.find? name with
    | none => exact .stopped _ _
    | some p => exact composed_run (composed_call rules depth) p

theorem composed_parse (p : Grammar σ ζ) (rules : Rules σ ζ) :
    Parser.Composed Value.parts (p.parse rules : Parser ι κ (Value (Stretch ι))) :=
  .computed (p := fun x => p.run (rules.call (rules.depthAt x)))
    fun x => composed_run (composed_call rules (rules.depthAt x)) p

end Grammar

/-! ## What all of them have in common -/

/-- **A failure gives back the input**: the cursor in it is the one the parser was given, whatever was matched. -/
theorem failure_gives_back_input {parts : Parts ι α} {p : Parser ι κ α} (hp : p.Composed parts) {x input : ι}
    {fault : Fault κ ι} (h : p x = .failure fault input) : input = x := by
  have ho := hp.orderly x
  rw [h] at ho
  exact ho.1

theorem failure_gives_back_input_behind_delimiter :
    let p : Parser (Located Text) TextCause (List Char) := (Parser.satisfying Char.isAlpha).separated (.character ',')
    let x := Located.ofCursor (Text.ofString "a,1")
    ∃ input, p x = .failure ⟨.general .invalid, ⟨⟨2, ['1']⟩, 1, 3⟩⟩ input ∧ input = x := by
  intro p x
  have hp : p.Composed Parts.none.items :=
    (Parser.Composed.satisfying Char.isAlpha).separated (Parser.composed_character ',')
  have h : p x = .failure ⟨.general .invalid, ⟨⟨2, ['1']⟩, 1, 3⟩⟩ x := rfl
  exact ⟨x, h, failure_gives_back_input hp h⟩

/-- **Positions move forward and stay in the input.**  Each cursor of an outcome is the input after some steps, no more
than there are symbols left, and so are the ends of the parts of a value, the stop behind the start.  On a stretch whose
stop is reached from its start, no cursor of an outcome is behind the stop. -/
theorem positions_stay_in_input :
    (∀ {ι σ κ α : Type} [Cursor ι σ] {parts : Parts ι α} {p : Parser ι κ α}, p.Composed parts → ∀ x : ι,
      (∀ y ∈ (p x).cursors, ∃ count ≤ left x, after count x = y) ∧
      ∀ value rest, p x = .success value rest → ∀ s, parts value s →
        Reaches x s.start ∧ Reaches x s.stop ∧ Reaches s.start s.stop) ∧
    ∀ {ι σ κ α : Type} [Cursor ι σ] [SelfSame ι] {parts : Parts (Stretch ι) α} {p : Parser (Stretch ι) κ α},
      p.Composed parts → ∀ s : Stretch ι, Reaches s.start s.stop →
        ∀ t ∈ (p s).cursors, t.stop = s.stop ∧ Reaches s.start t.start ∧ Reaches t.start s.stop := by
  constructor
  · intro ι σ κ α _ parts p hp x
    have ho := hp.orderly x
    refine ⟨ho.reaches_of_mem, fun value rest h s hs => ?_⟩
    rw [h] at ho
    have hahead := ho.2 s hs
    exact ⟨hahead.start, hahead.start.trans hahead.stop, hahead.stop⟩
  · intro ι σ κ α _ _ parts p hp s hs t ht
    exact Stretch.within_of_reaches ((hp.orderly s).reaches_of_mem t ht) hs

theorem positions_stay_in_input_of_digits :
    let s : Stretch Text := ⟨Text.ofString "12345", ⟨3, ['4', '5']⟩⟩
    Reaches s.start s.stop ∧
      ∃ value rest, (Calculator.digits : Parser (Stretch Text) TextCause _) s = .success value rest ∧
        Reaches value.start value.stop ∧ rest.stop = s.stop ∧ Reaches rest.start s.stop := by
  intro s
  have hs : Reaches s.start s.stop := ⟨3, by decide, rfl⟩
  have hp : (Calculator.digits : Parser (Stretch Text) TextCause _).Composed Parts.itself := Calculator.composed_digits
  have h : (Calculator.digits : Parser (Stretch Text) TextCause _) s =
      .success ⟨s, ⟨s.stop, s.stop⟩⟩ ⟨s.stop, s.stop⟩ := rfl
  have hpart := ((positions_stay_in_input.1 hp s).2 _ _ h _ rfl).2.2
  have hrest := positions_stay_in_input.2 hp s hs ⟨s.stop, s.stop⟩ (by rw [h]; exact List.mem_singleton_self _)
  exact ⟨hs, _, _, h, hpart, hrest.1, hrest.2.2⟩

end Parsing
