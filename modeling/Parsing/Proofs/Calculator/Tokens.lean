import Parsing.Proofs.Calculator.Language
import Parsing.Proofs.Words
/-!
# Tokens — what the calculator's smallest parsers match

Blanks are skipped to the last one, so the first character behind them (`ahead`) decides whether a sign, an operator or
a number is matched.  For each of these parsers three facts are shown: what it matched is written at the cursor, what is
written at the cursor it matches, and another character ahead makes it fail.
-/
namespace Parsing.Calculator

open Cursor (Distinct after left symbols)
open Decimal (isDigit nat)
open Parsing.Parser (blanks)
open Unicode (isWhiteSpace)

/-- The first character behind blanks. -/
def ahead (cs : List Char) : Option Char := (cs.dropWhile isWhiteSpace).head?

theorem head_cons {holds : Char → Bool} {c : Char} (h : holds c = false) (tail : List Char) :
    ∀ d ∈ (c :: tail).head?, holds d = false := by
  rintro d ⟨⟩
  exact h

theorem isWhiteSpace_of_isDigit {c : Char} (h : isDigit c = true) : isWhiteSpace c = false := by
  have hc : 48 ≤ c.toNat ∧ c.toNat ≤ 57 := by
    rw [isDigit, Bool.and_eq_true, decide_eq_true_eq, decide_eq_true_eq] at h
    exact h
  rw [← Bool.not_eq_true, isWhiteSpace, Unicode.Ranges.contains_iff]
  simp only [Unicode.whiteSpace, List.mem_cons, List.not_mem_nil, or_false, exists_eq_or_imp, exists_eq_left]
  omega

theorem isDigit_of_isWhiteSpace {c : Char} (h : isWhiteSpace c = true) : isDigit c = false := by
  cases hd : isDigit c with
  | false => rfl
  | true => rw [isWhiteSpace_of_isDigit hd] at h; cases h

theorem Operator.isWhiteSpace_sign (op : Operator) : isWhiteSpace op.sign = false := by
  cases op <;> decide

theorem Operator.isDigit_sign (op : Operator) : isDigit op.sign = false := by
  cases op <;> decide

theorem Operator.sign_injective {op other : Operator} (h : op.sign = other.sign) : op = other := by
  cases op <;> cases other <;> first | rfl | exact absurd h (by decide)

namespace Gap

theorem takeWhile_append (gap : Gap) {tail : List Char} (h : ∀ c ∈ tail.head?, isWhiteSpace c = false) :
    (gap.chars ++ tail).takeWhile isWhiteSpace = gap.chars := by
  have htail : tail.takeWhile isWhiteSpace = [] := by
    cases tail with
    | nil => rfl
    | cons c cs => rw [List.takeWhile_cons_of_neg (by simp [h c rfl])]
  rw [List.takeWhile_append_of_pos gap.blank, htail, List.append_nil]

theorem dropWhile_append (gap : Gap) {tail : List Char} (h : ∀ c ∈ tail.head?, isWhiteSpace c = false) :
    (gap.chars ++ tail).dropWhile isWhiteSpace = tail := by
  have hboth := List.takeWhile_append_dropWhile (p := isWhiteSpace) (l := gap.chars ++ tail)
  rw [gap.takeWhile_append h] at hboth
  exact List.append_cancel_left hboth

theorem ahead_append (gap : Gap) {tail : List Char} (h : ∀ c ∈ tail.head?, isWhiteSpace c = false) :
    ahead (gap.chars ++ tail) = tail.head? := by
  rw [ahead, gap.dropWhile_append h]

end Gap

theorem Numeral.exists_head (numeral : Numeral) (tail : List Char) :
    ∃ c, (numeral.digits ++ tail).head? = some c ∧ Decimal.isDigit c = true := by
  obtain ⟨digits, hne, hall⟩ := numeral
  cases digits with
  | nil => exact absurd rfl hne
  | cons c more => exact ⟨c, rfl, hall c List.mem_cons_self⟩

theorem Numeral.isWhiteSpace_head (numeral : Numeral) (tail : List Char) :
    ∀ c ∈ (numeral.digits ++ tail).head?, isWhiteSpace c = false := by
  obtain ⟨d, hd, hdigit⟩ := numeral.exists_head tail
  rw [hd]
  rintro c ⟨⟩
  exact isWhiteSpace_of_isDigit hdigit

variable {ι : Type} [Cursor ι Char]

/-- The cursor behind blanks. -/
def pastBlanks (x : ι) : ι := after ((symbols x).takeWhile isWhiteSpace).length x

theorem symbols_pastBlanks (x : ι) : symbols (pastBlanks x) = (symbols x).dropWhile isWhiteSpace :=
  Cursor.symbols_after_length List.takeWhile_append_dropWhile.symm

theorem exists_gap (x : ι) : ∃ gap : Gap, symbols x = gap.chars ++ symbols (pastBlanks x) := by
  rw [symbols_pastBlanks]
  exact ⟨⟨(symbols x).takeWhile isWhiteSpace, List.all_eq_true.1 List.all_takeWhile⟩,
    List.takeWhile_append_dropWhile.symm⟩

theorem ahead_eq_head (x : ι) : ahead (symbols x) = (symbols (pastBlanks x)).head? := by
  rw [symbols_pastBlanks, ahead]

theorem Gap.pastBlanks_eq (gap : Gap) {x : ι} {tail : List Char} (h : symbols x = gap.chars ++ tail)
    (htail : ∀ c ∈ tail.head?, isWhiteSpace c = false) :
    pastBlanks x = after gap.chars.length x ∧ symbols (pastBlanks x) = tail := by
  constructor
  · rw [pastBlanks, h, gap.takeWhile_append htail]
  · rw [symbols_pastBlanks, h, gap.dropWhile_append htail]

theorem Gap.symbols_after (gap : Gap) {x : ι} {c : Char} {tail : List Char} (h : symbols x = gap.chars ++ c :: tail) :
    symbols (after (gap.chars.length + 1) x) = tail := by
  have hs := Cursor.symbols_after_length h
  rw [Cursor.after_add]
  exact (Parser.next_of_symbols_cons hs).2

variable [Distinct ι]

/-- **Blanks are skipped to the last one.** -/
theorem blanks_eq (x : ι) : (blanks : Parser ι TextCause Unit) x = .success () (pastBlanks x) := by
  have hblank : ∀ c ∈ (symbols x).takeWhile isWhiteSpace, isWhiteSpace c = true :=
    List.all_eq_true.1 List.all_takeWhile
  have h : (Parser.satisfying isWhiteSpace : Parser ι TextCause Char).repeated (.atLeast 0) x = _ :=
    Parser.repeated_satisfying 0 List.takeWhile_append_dropWhile.symm hblank (head_dropWhile isWhiteSpace _)
  rw [if_neg (Nat.not_lt_zero _)] at h
  rw [blanks, Parser.withValue, Parser.map, Repetition.any, h, Outcome.map_success, pastBlanks]

/-! ## Signs and operators -/

theorem token_eq (c : Char) (x : ι) :
    token c x = (Parser.character c (pastBlanks x) : Outcome TextCause ι Char).restoring x := by
  rw [token, Parser.skipThen, blanks_eq, Outcome.andThen_success]

theorem token_reads {c d : Char} {x rest : ι} (h : token c x = .success d rest) :
    ∃ gap : Gap, symbols x = gap.chars ++ c :: symbols rest := by
  rw [token_eq, Outcome.restoring_eq_success, Parser.character, Parser.exactly_eq_success] at h
  obtain ⟨hn, rfl⟩ := h
  obtain ⟨gap, hgap⟩ := exists_gap x
  exact ⟨gap, by rw [hgap, Cursor.symbols_of_next_eq_some hn]⟩

theorem progresses_token {c : Char} : (token c : Parser ι TextCause Char).Progresses := by
  intro x rest d h
  obtain ⟨gap, hgap⟩ := token_reads h
  rw [left, left, hgap, List.length_append, List.length_cons]
  omega

theorem token_matches (gap : Gap) {c : Char} {x : ι} {tail : List Char} (hc : isWhiteSpace c = false)
    (h : symbols x = gap.chars ++ c :: tail) : token c x = .success c (after (gap.chars.length + 1) x) := by
  obtain ⟨hpast, hs⟩ := gap.pastBlanks_eq h (head_cons hc tail)
  obtain ⟨hn, -⟩ := Parser.next_of_symbols_cons hs
  rw [token_eq, Parser.character, Parser.exactly_eq_success.2 ⟨hn, rfl⟩, Outcome.restoring_success, hpast,
    ← Cursor.after_add]

theorem exists_token_success {c : Char} {x : ι} (h : ahead (symbols x) = some c) :
    ∃ rest, (token c : Parser ι TextCause Char) x = .success c rest := by
  rw [ahead_eq_head] at h
  obtain ⟨more, hs⟩ := List.head?_eq_some_iff.1 h
  obtain ⟨hnext, -⟩ := Parser.next_of_symbols_cons hs
  exact ⟨_, by rw [token_eq, Parser.character, Parser.exactly_eq_success.2 ⟨hnext, rfl⟩, Outcome.restoring_success]⟩

theorem token_eq_failure {c : Char} {x : ι} (h : ahead (symbols x) ≠ some c) :
    token c x = .failure ⟨.expected c, pastBlanks x⟩ x := by
  rw [ahead_eq_head] at h
  rw [token_eq, Parser.character, Parser.exactly_eq_failure h, Outcome.restoring_failure]

theorem token_fails {c : Char} {x : ι} (h : ahead (symbols x) ≠ some c) :
    (token c : Parser ι TextCause Char).Fails x :=
  ⟨_, _, token_eq_failure h⟩

/-- The parser of one operator. -/
def Operator.parser (op : Operator) : Parser ι TextCause Operator := (token op.sign).withValue op

/-- The parser of the operators of a level. -/
def Tier.operator : Tier → Parser ι TextCause Operator
  | product => multiplicative
  | sum => additive

namespace Operator

omit [Distinct ι] in
theorem orderly (op : Operator) : (op.parser : Parser ι TextCause Operator).Orderly Parts.none :=
  ((composed_token op.sign).withValue fun _ => not_false).orderly

theorem parser_reads (op : Operator) {found : Operator} {x rest : ι} (h : op.parser x = .success found rest) :
    op = found ∧ ∃ gap : Gap, symbols x = gap.chars ++ found.sign :: symbols rest := by
  obtain rfl := Parser.eq_of_withValue_eq_success h
  obtain ⟨c, hc⟩ := Parser.withValue_eq_success.1 h
  exact ⟨rfl, token_reads hc⟩

theorem parser_matches (op : Operator) (gap : Gap) {x : ι} {tail : List Char}
    (h : symbols x = gap.chars ++ op.sign :: tail) :
    op.parser x = .success op (after (gap.chars.length + 1) x) :=
  Parser.withValue_eq_success.2 ⟨_, token_matches gap op.isWhiteSpace_sign h⟩

theorem parser_fails {op : Operator} {x : ι} (h : ahead (symbols x) ≠ some op.sign) :
    (op.parser : Parser ι TextCause Operator).Fails x :=
  (token_fails h).map _

theorem parser_fails_before {op other : Operator} (hne : other ≠ op) (gap : Gap) {x : ι} {tail : List Char}
    (h : symbols x = gap.chars ++ op.sign :: tail) : (other.parser : Parser ι TextCause Operator).Fails x := by
  refine parser_fails ?_
  rw [h, gap.ahead_append (head_cons op.isWhiteSpace_sign tail)]
  exact fun heq => hne (sign_injective (Option.some.inj heq).symm)

end Operator

namespace Tier

theorem operator_reads {tier : Tier} {found : Operator} {x rest : ι} (h : tier.operator x = .success found rest) :
    found.tier = tier ∧ ∃ gap : Gap, symbols x = gap.chars ++ found.sign :: symbols rest := by
  cases tier with
  | product =>
    rcases (Parser.orElse_eq_success (Operator.orderly .times)).1 h with h | ⟨-, -, h⟩
    · obtain ⟨rfl, hgap⟩ := Operator.parser_reads .times h
      exact ⟨rfl, hgap⟩
    rcases (Parser.orElse_eq_success (Operator.orderly .divide)).1 h with h | ⟨-, -, h⟩
    · obtain ⟨rfl, hgap⟩ := Operator.parser_reads .divide h
      exact ⟨rfl, hgap⟩
    · obtain ⟨rfl, hgap⟩ := Operator.parser_reads .remainder h
      exact ⟨rfl, hgap⟩
  | sum =>
    rcases (Parser.orElse_eq_success (Operator.orderly .plus)).1 h with h | ⟨-, -, h⟩
    · obtain ⟨rfl, hgap⟩ := Operator.parser_reads .plus h
      exact ⟨rfl, hgap⟩
    · obtain ⟨rfl, hgap⟩ := Operator.parser_reads .minus h
      exact ⟨rfl, hgap⟩

theorem progresses_operator (tier : Tier) : (tier.operator : Parser ι TextCause Operator).Progresses := by
  intro x rest op h
  obtain ⟨-, gap, hgap⟩ := operator_reads h
  rw [left, left, hgap, List.length_append, List.length_cons]
  omega

theorem operator_matches {tier : Tier} {op : Operator} (htier : op.tier = tier) (gap : Gap) {x : ι}
    {tail : List Char} (h : symbols x = gap.chars ++ op.sign :: tail) :
    tier.operator x = .success op (after (gap.chars.length + 1) x) := by
  subst htier
  have hop := op.parser_matches gap h
  have hfails {other : Operator} (hne : other ≠ op) := Operator.parser_fails_before hne gap h
  cases op with
  | plus => exact Parser.orElse_of_success hop _
  | minus => exact (Parser.orElse_eq_of_fails (Operator.orderly .plus) (hfails (by decide))).trans hop
  | times => exact Parser.orElse_of_success hop _
  | divide =>
    refine (Parser.orElse_eq_of_fails (Operator.orderly .times) (hfails (by decide))).trans ?_
    exact Parser.orElse_of_success hop _
  | remainder =>
    refine (Parser.orElse_eq_of_fails (Operator.orderly .times) (hfails (by decide))).trans ?_
    exact (Parser.orElse_eq_of_fails (Operator.orderly .divide) (hfails (by decide))).trans hop

theorem operator_fails {tier : Tier} {x : ι} (h : ∀ op : Operator, op.tier = tier → ahead (symbols x) ≠ some op.sign) :
    (tier.operator : Parser ι TextCause Operator).Fails x := by
  cases tier with
  | product =>
    refine Parser.Fails.orElse (Operator.orderly .times) (Operator.parser_fails (h .times rfl)) ?_
    exact Parser.Fails.orElse (Operator.orderly .divide) (Operator.parser_fails (h .divide rfl))
      (Operator.parser_fails (h .remainder rfl))
  | sum =>
    exact Parser.Fails.orElse (Operator.orderly .plus) (Operator.parser_fails (h .plus rfl))
      (Operator.parser_fails (h .minus rfl))

end Tier

/-! ## Numbers -/

omit [Distinct ι] in
theorem digits_eq_word : (digits : Parser ι TextCause (Stretch ι)) = Parser.word isDigit := rfl

/-- The stretch of the digits holds them. -/
theorem symbols_of_digits {x : ι} {found tail : List Char} (h : symbols x = found ++ tail) :
    (⟨x, after found.length x⟩ : Stretch ι).symbols = found :=
  (Distinct.tellsApart x).symbols_stretch_of_append h

theorem blanks_then_digits {x : ι} {found tail : List Char} (h : symbols (pastBlanks x) = found ++ tail)
    (hfound : ∀ c ∈ found, isDigit c = true) (htail : ∀ c ∈ tail.head?, isDigit c = false) (hne : found ≠ []) :
    (blanks.skipThen digits : Parser ι TextCause (Stretch ι)) x =
      .success ⟨pastBlanks x, after found.length (pastBlanks x)⟩ (after found.length (pastBlanks x)) := by
  rw [Parser.skipThen, blanks_eq, Outcome.andThen_success, digits_eq_word,
    Parser.word_of_symbols h ⟨hne, hfound⟩ htail, Outcome.restoring_success]

/-- **A number is what its digits write, if that is in range.** -/
theorem number_eq_success {x rest : ι} {found tail : List Char} {v : Int}
    (h : symbols (pastBlanks x) = found ++ tail) (hfound : ∀ c ∈ found, isDigit c = true)
    (htail : ∀ c ∈ tail.head?, isDigit c = false) (hne : found ≠ []) :
    number x = .success v rest ↔ inRange (nat found) = some v ∧ rest = after found.length (pastBlanks x) := by
  rw [number, Parser.tryMap_eq_success, blanks_then_digits h hfound htail hne, ← readDigits_eq_ok]
  constructor
  · rintro ⟨_, ⟨⟩, hread⟩
    rw [symbols_of_digits h] at hread
    exact ⟨hread, rfl⟩
  · rintro ⟨hread, rfl⟩
    exact ⟨_, rfl, by rw [symbols_of_digits h]; exact hread⟩

theorem number_fails {x : ι} (h : ∀ c ∈ ahead (symbols x), isDigit c = false) :
    (number : Parser ι TextCause Int).Fails x := by
  rw [ahead_eq_head] at h
  exact (Parser.fails_skipThen (blanks_eq x) ⟨_, _, Parser.word_eq_failure h⟩).tryMap _

theorem number_reads {x rest : ι} {v : Int} (h : number x = .success v rest) :
    ∃ (gap : Gap) (numeral : Numeral), symbols x = gap.chars ++ (numeral.digits ++ symbols rest) ∧
      inRange (nat numeral.digits) = some v := by
  obtain ⟨gap, hgap⟩ := exists_gap x
  obtain ⟨found, hdigits, hread⟩ := Parser.tryMap_eq_success.1 h
  obtain ⟨_, between, hblanks, hdigits⟩ := Parser.skipThen_eq_success.1 hdigits
  rw [blanks_eq] at hblanks
  cases hblanks
  rw [digits_eq_word] at hdigits
  obtain ⟨cs, tail, hs, ⟨hne, hcs⟩, -, rfl, rfl⟩ := Parser.word_eq_success.1 hdigits
  rw [symbols_of_digits hs] at hread
  rw [Cursor.symbols_after_length hs, hgap, hs]
  exact ⟨gap, ⟨cs, hne, hcs⟩, rfl, readDigits_eq_ok.1 hread⟩

theorem number_matches (gap : Gap) (numeral : Numeral) {x : ι} {tail : List Char} {v : Int}
    (h : symbols x = gap.chars ++ (numeral.digits ++ tail)) (htail : ∀ c ∈ tail.head?, isDigit c = false)
    (hv : inRange (nat numeral.digits) = some v) :
    number x = .success v (after (gap.chars.length + numeral.digits.length) x) := by
  obtain ⟨hpast, hs⟩ := gap.pastBlanks_eq h (numeral.isWhiteSpace_head tail)
  rw [number_eq_success hs numeral.isDigit htail numeral.ne_nil, hpast, ← Cursor.after_add]
  exact ⟨hv, rfl⟩

/-- A number out of range is no match. -/
theorem number_refuses (gap : Gap) (numeral : Numeral) {x : ι} {tail : List Char}
    (h : symbols x = gap.chars ++ (numeral.digits ++ tail)) (htail : ∀ c ∈ tail.head?, isDigit c = false)
    (hrange : inRange (nat numeral.digits) = none) : (number : Parser ι TextCause Int).Fails x := by
  obtain ⟨-, hs⟩ := gap.pastBlanks_eq h (numeral.isWhiteSpace_head tail)
  refine Parser.fails_tryMap (blanks_then_digits hs numeral.isDigit htail numeral.ne_nil) ?_
  intro v hread
  rw [symbols_of_digits hs] at hread
  rw [readDigits_eq_ok.1 hread] at hrange
  cases hrange

end Parsing.Calculator
