import Mathlib.Data.List.Basic
import Parsing.Proofs.Calculator.Faults
import Parsing.Proofs.Greedy
/-!
# Grounds — what a rejected line is told, and what for

What is told of a line came through choices and loops, which drop what they try in vain, from operands that nest to any
depth.  Whatever comes through is grounded in the line (`Grounded`): a parenthesis is missing, or a chain ends where the
fault is, its members all have values, and going through it from left to right comes to an operator without a result.
Each way to put the calculator's parsers together keeps this, so it holds of expressions of every depth.

Main statement: `evaluate_failure_is_grounded`.
-/
namespace Parsing

open Cursor (Reaches)

/-! ## Properties of faults -/

namespace Outcome

variable {κ ι α β : Type}

/-- The fault of an outcome, if it has one, has a property. -/
def Blames (P : Fault κ ι → Prop) : Outcome κ ι α → Prop
  | failure fault _ => P fault
  | _ => True

namespace Blames

variable {P Q : Fault κ ι → Prop} {o : Outcome κ ι α}

theorem andThen {next : α → ι → Outcome κ ι β} (h : o.Blames P)
    (hnext : ∀ value rest, o = success value rest → (next value rest).Blames P) : (o.andThen next).Blames P := by
  cases o with
  | success value rest => exact hnext value rest rfl
  | failure fault input => exact h
  | aborted why => trivial

theorem map (h : o.Blames P) (f : α → β) : (o.map f).Blames P := h.andThen fun _ _ _ => trivial

theorem restoring (h : o.Blames P) (input : ι) : (o.restoring input).Blames P := by
  cases o with
  | success value rest => trivial
  | failure fault given => exact h
  | aborted why => trivial

theorem imp (h : o.Blames P) (himp : ∀ fault, P fault → Q fault) : o.Blames Q := by
  cases o with
  | success value rest => trivial
  | failure fault input => exact himp fault h
  | aborted why => trivial

end Blames
end Outcome

namespace Parser

variable {ι σ κ α β : Type} [Cursor ι σ] {p : Parser ι κ α} {parts : Parts ι α} {G : ι → Fault κ ι → Prop} {x : ι}

/-- The faults of a parser have a property at the cursors where it is run. -/
def Blames (p : Parser ι κ α) (G : ι → Fault κ ι → Prop) : Prop := ∀ x, (p x).Blames (G x)

/-- **What is told of an alternative is what the last one is told for**: the faults of the first are dropped. -/
theorem Blames.orElse {q : Parser ι κ α} (hp : p.Orderly parts) (hq : q.Blames G) : (p.orElse q).Blames G := by
  intro x
  have ho := (hp x).recover_eq q
  rw [Parser.orElse, ho]
  cases p x with
  | success value rest => trivial
  | failure fault input => exact hq x
  | aborted why => trivial

/-- **Repeating any number of times never fails.** -/
theorem blames_repeated_any [Cursor.Distinct ι] (hp : p.Orderly parts) : (p.repeated .any).Blames G := by
  intro x
  have htraced : p.Traced .any x (p.repeated .any x) :=
    traced_repeated hp _ (Cursor.Distinct.tellsApart x) (Nat.lt_succ_self _)
  cases ho : p.repeated .any x with
  | success values rest => trivial
  | failure fault input =>
    rw [ho] at htraced
    obtain ⟨-, values, y, given, -, hshort, -⟩ := htraced
    exact absurd hshort (Nat.not_lt_zero _)
  | aborted why => trivial

end Parser

namespace Calculator

open Cursor (Distinct after left symbols)
open Unicode (isWhiteSpace)

/-! ## Operators without a result -/

/-- An operator between exact integers has no result: it divides by zero, or what it comes to is no signed 64-bit
integer.  A remainder is one always, but refused where the quotient is none. -/
inductive Operator.Refuses : Operator → Int → Int → ArithmeticError → Prop
  | zero {op : Operator} (hop : op = .divide ∨ op = .remainder) (m : Int) : Refuses op m 0 .divisionByZero
  | plus {m n : Int} (h : ¬ Fits (m + n)) : Refuses .plus m n .overflow
  | minus {m n : Int} (h : ¬ Fits (m - n)) : Refuses .minus m n .overflow
  | times {m n : Int} (h : ¬ Fits (m * n)) : Refuses .times m n .overflow
  | divide {m n : Int} (hn : n ≠ 0) (h : ¬ Fits (m.tdiv n)) : Refuses .divide m n .overflow
  | remainder : Refuses .remainder (-2 ^ 63) (-1) .overflow

/-- **The checked operators refuse what has no result.** -/
theorem Operator.refuses_of_apply {op : Operator} {m n : Int} {reason : ArithmeticError} (hm : Fits m)
    (h : op.apply m n = .error reason) : op.Refuses m n reason := by
  cases op with
  | plus =>
    obtain ⟨rfl, hfits⟩ := checked_eq_error.1 h
    exact .plus hfits
  | minus =>
    obtain ⟨rfl, hfits⟩ := checked_eq_error.1 h
    exact .minus hfits
  | times =>
    obtain ⟨rfl, hfits⟩ := checked_eq_error.1 h
    exact .times hfits
  | divide =>
    rw [apply] at h
    by_cases hn : n = 0
    · rw [if_pos hn] at h
      cases h
      exact hn ▸ .zero (.inl rfl) m
    · rw [if_neg hn] at h
      obtain ⟨rfl, hfits⟩ := checked_eq_error.1 h
      exact .divide hn hfits
  | remainder =>
    rw [apply] at h
    by_cases hn : n = 0
    · rw [if_pos hn] at h
      cases h
      exact hn ▸ .zero (.inr rfl) m
    · rw [if_neg hn] at h
      cases hquotient : checked .overflow (m.tdiv n) with
      | ok v => rw [hquotient] at h; cases h
      | error found =>
        rw [hquotient] at h
        cases h
        obtain ⟨rfl, hfits⟩ := checked_eq_error.1 hquotient
        rw [fits_tdiv_iff hm hn, Decidable.not_not] at hfits
        obtain ⟨rfl, rfl⟩ := hfits
        exact .remainder

/-- **An operator has its exact result, or is refused for having none.** -/
theorem Operator.result_or_refuses (op : Operator) {m : Int} (n : Int) (hm : Fits m) :
    (∃ v, op.apply m n = .ok v ∧ op.result? m n = some v) ∨ ∃ reason, op.apply m n = .error reason ∧ op.Refuses m n reason := by
  cases h : op.apply m n with
  | ok v => exact .inl ⟨v, rfl, (Operator.apply_eq_ok hm).1 h⟩
  | error reason => exact .inr ⟨reason, rfl, Operator.refuses_of_apply hm h⟩

/-- **An evaluation that fails comes to a first operator without a result**, behind some that have one. -/
theorem exists_refuses : ∀ (pairs : List (Operator × Int)) {m : Int} {reason : ArithmeticError}, Fits m →
    evaluateChain m pairs = .error reason → ∃ done op n more value,
      pairs = done ++ (op, n) :: more ∧ results? m done = some value ∧ op.Refuses value n reason
  | [], _, _, _, h => by cases h
  | (op, n) :: more, m, reason, hm, h => by
    rw [evaluateChain] at h
    cases happly : op.apply m n with
    | ok result =>
      rw [happly] at h
      have hresult := (Operator.apply_eq_ok hm).1 happly
      obtain ⟨done, refused, k, behind, value, rfl, hvalue, hrefuses⟩ :=
        exists_refuses more (Operator.fits_of_result hresult) h
      refine ⟨(op, n) :: done, refused, k, behind, value, rfl, ?_, hrefuses⟩
      rw [results?, hresult, Option.bind_some, hvalue]
    | error found =>
      rw [happly] at h
      cases h
      exact ⟨[], op, n, more, m, rfl, rfl, Operator.refuses_of_apply hm happly⟩

/-! ## Where phrases end -/

mutual

/-- **No phrase ends in a blank.** -/
theorem Phrase.isWhiteSpace_last : ∀ {kind : Kind} (t : Phrase kind), ∀ c ∈ t.text.getLast?, isWhiteSpace c = false
  | _, .number gap numeral, c => by
    rw [Phrase.text, List.getLast?_append_of_ne_nil _ numeral.ne_nil]
    intro hc
    exact isWhiteSpace_of_isDigit (numeral.isDigit c (List.mem_of_getLast? hc))
  | _, .group opening inner closing, c => by
    rw [Phrase.text, ← List.cons_append, ← List.append_assoc, List.getLast?_append_of_ne_nil _ (List.cons_ne_nil _ _)]
    rintro ⟨⟩
    decide
  | _, .bare primary, c => by
    rw [Phrase.text]
    exact primary.isWhiteSpace_last c
  | _, .opposite gap inner, c => by
    have hinner : inner.text ≠ [] := List.length_pos_iff.1 inner.length_pos
    rw [Phrase.text, ← List.singleton_append, ← List.append_assoc, List.getLast?_append_of_ne_nil _ hinner]
    exact inner.isWhiteSpace_last c
  | _, .chain first links, c => by
    rw [Phrase.text]
    by_cases hlinks : links.text = []
    · rw [hlinks, List.append_nil]
      exact first.isWhiteSpace_last c
    · rw [List.getLast?_append_of_ne_nil _ hlinks]
      exact links.isWhiteSpace_last c

theorem Links.isWhiteSpace_last : ∀ {tier : Tier} (links : Links tier), ∀ c ∈ links.text.getLast?, isWhiteSpace c = false
  | _, .nil, c => by
    rw [Links.text]
    rintro ⟨⟩
  | _, .cons gap op _ member more, c => by
    have hmember : member.text ≠ [] := List.length_pos_iff.1 member.length_pos
    rw [Links.text, ← List.singleton_append, ← List.append_assoc, ← List.append_assoc]
    by_cases hmore : more.text = []
    · rw [hmore, List.append_nil, List.getLast?_append_of_ne_nil _ hmember]
      exact member.isWhiteSpace_last c
    · rw [List.getLast?_append_of_ne_nil _ hmore]
      exact more.isWhiteSpace_last c

end

/-! ## Grounded faults -/

/-- From left to right, the members of a chain having values, it comes to an operator without a result. -/
def RefusedFor {tier : Tier} (first : Phrase tier.member) (links : Links tier) (reason : ArithmeticError) : Prop :=
  ∃ m done op n more value, first.value = some m ∧ links.operations? = some (done ++ (op, n) :: more) ∧
    results? m done = some value ∧ op.Refuses value n reason

theorem RefusedFor.eq_or_eq {tier : Tier} {first : Phrase tier.member} {links : Links tier} {reason : ArithmeticError}
    (h : RefusedFor first links reason) : reason = .divisionByZero ∨ reason = .overflow := by
  obtain ⟨m, done, op, n, more, value, -, -, -, hrefuses⟩ := h
  cases hrefuses <;> simp

variable {ι : Type} [Cursor ι Char]

/-- What the parsers of operands and chains tell of the text at a cursor: a parenthesis is missing somewhere, or a chain
in it has no value for a reason, behind its last character. -/
inductive Grounded (x : ι) : Fault TextCause ι → Prop
  | missing {c : Char} (hc : c = '(' ∨ c = ')') (position : ι) : Grounded x ⟨.expected c, position⟩
  | refused {tier : Tier} {before behind : List Char} {first : Phrase tier.member} {links : Links tier}
      {reason : ArithmeticError} (hs : symbols x = before ++ (Phrase.chain first links).text ++ behind)
      (h : RefusedFor first links reason) :
      Grounded x ⟨.custom reason.message, after (before ++ (Phrase.chain first links).text).length x⟩

/-- **What is grounded further on is grounded before**, in more text. -/
theorem Grounded.of_reaches {x y : ι} {fault : Fault TextCause ι} (hxy : Reaches x y) (h : Grounded y fault) :
    Grounded x fault := by
  cases h with
  | missing hc position => exact .missing hc position
  | @refused tier before behind first links reason hs h =>
    obtain ⟨front, hfront, hx⟩ := hxy.exists_front
    rw [hs, ← List.append_assoc, ← List.append_assoc] at hx
    rw [hfront, ← Cursor.after_add, ← List.length_append, ← List.append_assoc]
    exact .refused hx h

theorem blames_of_reaches {α : Type} {o : Outcome TextCause ι α} {x y : ι} (hxy : Reaches x y)
    (h : o.Blames (Grounded y)) : o.Blames (Grounded x) :=
  h.imp fun _ => Grounded.of_reaches hxy

variable [Distinct ι]

theorem blames_token {c : Char} (hc : c = '(' ∨ c = ')') : (token c : Parser ι TextCause Char).Blames Grounded := by
  intro x
  by_cases h : ahead (symbols x) = some c
  · obtain ⟨rest, hrest⟩ := exists_token_success h
    rw [hrest]
    trivial
  · rw [token_eq_failure h]
    exact .missing hc _

/-- What is told of an operand that is no number is told of the parentheses it should be in, or of what is in them. -/
theorem blames_atom {inner : Parser ι TextCause Int} (hcomposed : inner.Composed Parts.none)
    (h : inner.Blames Grounded) : (atom inner).Blames Grounded := by
  refine Parser.Blames.orElse composed_number.orderly fun x => ?_
  have hopen : ((token '(').skipThen inner : Parser ι TextCause Int).Orderly Parts.none :=
    ((composed_token '(').skipThen hcomposed).orderly
  -- Behind the parenthesis a fault is grounded in less of the text, so it is carried back to all of it.
  refine Outcome.Blames.andThen (Outcome.Blames.andThen (blames_token (.inl rfl) x) fun _ y hy => ?_) fun _ y hy => ?_
  · exact (blames_of_reaches ((composed_token '(').orderly.advances hy) (h y)).restoring x
  · exact ((blames_of_reaches (hopen.advances hy) (blames_token (.inr rfl) y)).restoring x).map _

/-- **What is told of a chain is told of its first member, or it is that its evaluation fails**: a member that fails
further on ends the chain before it. -/
theorem blames_chain (tier : Tier) {member : Parser ι TextCause Int} (hmember : member.Orderly Parts.none)
    (hreads : Reads tier.member member) (h : member.Blames Grounded) :
    (chain tier.operator member).Blames Grounded := by
  intro x
  have hlink := tier.orderly_operator.andThen hmember
  refine Outcome.Blames.andThen (Outcome.Blames.andThen (h x) fun _ y _ => ?_) fun pair rest hpair => ?_
  · exact ((Parser.blames_repeated_any hlink (G := fun _ => Grounded x) y).restoring x).map _
  · -- All of the chain is read, so what is told of it comes from its values: the chain ends at the rest.
    obtain ⟨m, pairs⟩ := pair
    have hrest := (hmember.andThen (hlink.repeated .any)).advances hpair
    obtain ⟨first, links, hs, hm, hpairs⟩ := exists_chain hreads hpair
    dsimp only
    cases heval : evaluateChain m pairs with
    | ok v => trivial
    | error reason =>
      obtain ⟨done, op, n, more, value, rfl, hvalue, hrefuses⟩ :=
        exists_refuses pairs (first.fits_of_value hm) heval
      have hline : symbols x = [] ++ (Phrase.chain first links).text ++ symbols rest := hs
      rw [hrest.eq_after hline]
      exact .refused hline ⟨m, done, op, n, more, value, hm, hpairs, hvalue, hrefuses⟩

theorem blames_sum {member : Parser ι TextCause Int} (hcomposed : member.Composed Parts.none)
    (hreads : Reads .unary member) (h : member.Blames Grounded) : (sum member).Blames Grounded :=
  blames_chain .sum (composed_chain composed_multiplicative hcomposed).orderly (reads_chain .product hreads)
    (blames_chain .product hcomposed.orderly hreads h)

/-- **What is told of an operand is grounded**, however deep it nests. -/
theorem blames_operand : ∀ (depth : Nat), (operand depth : Parser ι TextCause Int).Blames Grounded
  | 0 => fun _ => trivial
  | depth + 1 =>
    have hcomposed := composed_operand depth
    Parser.Blames.orElse (orderly_negative depth)
      (blames_atom (composed_sum hcomposed) (blames_sum hcomposed (reads_operand depth) (blames_operand depth)))

theorem blames_expression (depth : Nat) : (expression depth : Parser ι TextCause Int).Blames Grounded :=
  blames_sum (composed_operand depth) (reads_operand depth) (blames_operand depth)

/-- What is told of a whole line is that it goes on, or else it is grounded. -/
theorem blames_calculation : (calculation : Parser ι TextCause Int).Blames fun x fault =>
    fault.cause = .general .endExpected ∨ Grounded x fault := by
  intro x
  have hexpression : (expression (left x + 1) x).Blames fun fault =>
      fault.cause = .general .endExpected ∨ Grounded x fault :=
    (blames_expression (left x + 1) x).imp fun _ => .inr
  refine Outcome.Blames.andThen (Outcome.Blames.andThen hexpression fun _ y _ => ?_) fun _ rest _ => ?_
  · rw [blanks_eq]
    trivial
  · dsimp only
    split
    · trivial
    · exact .inl rfl

/-! ## Lines -/

/-- **A rejected line is told what is so.**  Its fault is that the line goes on where it should end, that a parenthesis is
missing, or that a division by zero or an overflow was met.  Told one of the last two, some stretch of the line that ends
where the fault is, and not in a blank, is a chain whose members all have values.  Going through it from left to right,
with every result in range, comes to an operator that divides by zero or whose result is out of range, as told. -/
theorem evaluate_failure_is_grounded (line : List Char) {fault : Fault TextCause (Located Text)} {input : Located Text}
    (h : evaluate line = .failure fault input) :
    fault.cause ∈ [.general .endExpected, .expected '(', .expected ')', .custom "division by zero",
      .custom "arithmetic overflow"] ∧
    ∀ text, fault.cause = .custom text → ∃ (before behind : List Char) (tier : Tier) (first : Phrase tier.member)
      (links : Links tier) (reason : ArithmeticError),
      let chain := (Phrase.chain first links).text
      line = before ++ chain ++ behind ∧ fault.position = place line (before ++ chain).length ∧
        (∀ c ∈ chain.getLast?, isWhiteSpace c = false) ∧ RefusedFor first links reason ∧ text = reason.message := by
  have hblames : (evaluate line).Blames _ := blames_calculation (Located.ofCursor (⟨0, line⟩ : Text))
  rw [h] at hblames
  rcases hblames with hend | @⟨c, hc, position⟩ | @⟨tier, before, behind, first, links, reason, hs, hrefused⟩
  · rw [hend]
    exact ⟨List.mem_cons_self, nofun⟩
  · refine ⟨?_, nofun⟩
    rcases hc with rfl | rfl <;> simp
  · refine ⟨?_, ?_⟩
    · rcases hrefused.eq_or_eq with rfl | rfl <;> simp [ArithmeticError.message]
    · rintro text ⟨⟩
      exact ⟨before, behind, tier, first, links, reason, hs, rfl, (Phrase.chain first links).isWhiteSpace_last, hrefused,
        rfl⟩

/-- The least integer has no remainder by minus one: told in parentheses, behind the chain and before the blank. -/
theorem evaluate_failure_is_grounded_of_remainder :
    let least : Phrase (.chain .sum) := .chain (.chain (.opposite .none (.literal "9223372036854775807".toList
      nofun rfl)) .nil) (.cons .none .minus rfl (.chain (.literal ['1'] nofun rfl) .nil) .nil)
    let chain : Phrase (.chain .product) := .chain (.bare (.group .none least .none))
      (.cons .none .remainder rfl (.opposite .none (.literal ['1'] nofun rfl)) .nil)
    let blank : Gap := ⟨[' '], List.forall_mem_singleton.2 (by decide)⟩
    let t : Phrase (.chain .sum) := .chain (.chain (.bare (.group .none (.chain chain .nil) blank)) .nil) .nil
    let line := "((-9223372036854775807-1)%-1 )".toList
    t.text = line ∧
      evaluate line = .failure ⟨.custom "arithmetic overflow", place line 28⟩ (place line 0) ∧
      ∃ (before behind : List Char) (tier : Tier) (first : Phrase tier.member) (links : Links tier)
        (reason : ArithmeticError),
        line = before ++ (Phrase.chain first links).text ++ behind ∧
          place line 28 = place line (before ++ (Phrase.chain first links).text).length ∧
          RefusedFor first links reason ∧ "arithmetic overflow" = reason.message := by
  intro least chain blank t line
  have htext : t.text = line := by decide +kernel
  have hreading : t.reading 0 = .refused (.custom "arithmetic overflow") 28 := by decide +kernel
  have hfailure : evaluate line = .failure ⟨.custom "arithmetic overflow", place line 28⟩ (place line 0) := by
    have hanswer := evaluate_text t .none
    rwa [hreading, Gap.none, List.append_nil, htext] at hanswer
  obtain ⟨before, behind, tier, first, links, reason, hline, hplace, -, hrefused, hmessage⟩ :=
    (evaluate_failure_is_grounded line hfailure).2 _ rfl
  exact ⟨htext, hfailure, before, behind, tier, first, links, reason, hline, hplace, hrefused, hmessage⟩

end Calculator
end Parsing
