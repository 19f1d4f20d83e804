import Mathlib.Algebra.Group.Int.Defs
import Parsing.Calculator.Arithmetic
import Parsing.Unicode.Property
/-!
# Language — the calculator's grammar, and what its phrases are worth

With blanks allowed before every token, the grammar is

    sum     = product (('+' | '-') product)*
    product = unary (('*' | '/' | '%') unary)*
    unary   = '-' unary | primary
    primary = digits | '(' sum ')'

A `Phrase` is a tree of this grammar together with its blanks, so that its text is determined.  Its value, if it has
one, is that of exact integer arithmetic with every step in the range of signed 64-bit integers.  No parser occurs in
any of this; only the last section compares the arithmetic with the checked operations.
-/
namespace Parsing.Calculator

open Decimal (fitsInt64 isDigit nat natFrom)

/-- Blanks before a token. -/
structure Gap where
  chars : List Char
  blank : ∀ c ∈ chars, Unicode.isWhiteSpace c = true

/-- One or more digits. -/
structure Numeral where
  digits : List Char
  ne_nil : digits ≠ []
  isDigit : ∀ c ∈ digits, isDigit c = true

/-- The two levels of chains. -/
inductive Tier where
  | product
  | sum

/-- The nonterminals of the grammar. -/
inductive Kind where
  | primary
  | unary
  | chain (tier : Tier)

/-- What stands between the operators of a chain. -/
def Tier.member : Tier → Kind
  | product => .unary
  | sum => .chain .product

/-- The level whose chains an operator joins. -/
def Operator.tier : Operator → Tier
  | plus | minus => .sum
  | times | divide | remainder => .product

def Operator.sign : Operator → Char
  | plus => '+'
  | minus => '-'
  | times => '*'
  | divide => '/'
  | remainder => '%'

mutual

/-- The trees of the grammar, by nonterminal. -/
inductive Phrase : Kind → Type
  | number (gap : Gap) (numeral : Numeral) : Phrase .primary
  | group (opening : Gap) (inner : Phrase (.chain .sum)) (closing : Gap) : Phrase .primary
  | bare (primary : Phrase .primary) : Phrase .unary
  | opposite (gap : Gap) (inner : Phrase .unary) : Phrase .unary
  | chain {tier : Tier} (first : Phrase tier.member) (links : Links tier) : Phrase (.chain tier)

/-- What follows the first member of a chain: operators, each with a member behind it. -/
inductive Links : Tier → Type
  | nil {tier : Tier} : Links tier
  | cons {tier : Tier} (gap : Gap) (op : Operator) (htier : op.tier = tier) (member : Phrase tier.member)
      (more : Links tier) : Links tier

end

mutual

def Phrase.text : {kind : Kind} → Phrase kind → List Char
  | _, .number gap numeral => gap.chars ++ numeral.digits
  | _, .group opening inner closing => opening.chars ++ '(' :: (inner.text ++ closing.chars ++ [')'])
  | _, .bare primary => primary.text
  | _, .opposite gap inner => gap.chars ++ '-' :: inner.text
  | _, .chain first links => first.text ++ links.text

def Links.text : {tier : Tier} → Links tier → List Char
  | _, .nil => []
  | _, .cons gap op _ member more => gap.chars ++ op.sign :: (member.text ++ more.text)

end

/-- The range of signed 64-bit integers. -/
def Fits (n : Int) : Prop := -2 ^ 63 ≤ n ∧ n < 2 ^ 63

instance (n : Int) : Decidable (Fits n) := inferInstanceAs (Decidable (_ ∧ _))

/-- An exact result, if it is in range. -/
def inRange (n : Int) : Option Int := if Fits n then some n else none

/-- The result of an operator on exact integers.  Division truncates towards zero, the remainder has the sign of the
dividend, and both are refused for a zero divisor and for the least integer over minus one. -/
def Operator.result? : Operator → Int → Int → Option Int
  | plus, m, n => inRange (m + n)
  | minus, m, n => inRange (m - n)
  | times, m, n => inRange (m * n)
  | divide, m, n => if n = 0 ∨ (m = -2 ^ 63 ∧ n = -1) then none else inRange (m.tdiv n)
  | remainder, m, n => if n = 0 ∨ (m = -2 ^ 63 ∧ n = -1) then none else inRange (m.tmod n)

mutual

/-- The value of a phrase: chains go from left to right, and every literal and every result is in range. -/
def Phrase.value : {kind : Kind} → Phrase kind → Option Int
  | _, .number _ numeral => inRange (nat numeral.digits)
  | _, .group _ inner _ => inner.value
  | _, .bare primary => primary.value
  | _, .opposite _ inner => inner.value.bind fun n => inRange (-n)
  | _, .chain first links => first.value.bind links.valueFrom

/-- The value of a chain once its members so far are worth so much. -/
def Links.valueFrom : {tier : Tier} → Links tier → Int → Option Int
  | _, .nil, m => some m
  | _, .cons _ op _ member more, m => member.value.bind fun n => (op.result? m n).bind more.valueFrom

end

/-- The value that operators and operands lead to, one after the other, from a value before them. -/
def results? : Int → List (Operator × Int) → Option Int
  | m, [] => some m
  | m, (op, n) :: more => (op.result? m n).bind fun result => results? result more

/-- The operators of links, each with the value of the member behind it, if all of these have one. -/
def Links.operations? : {tier : Tier} → Links tier → Option (List (Operator × Int))
  | _, .nil => some []
  | _, .cons _ op _ member more => member.value.bind fun n => more.operations?.map ((op, n) :: ·)

/-- **Where all members have values, a chain goes from one result to the next.** -/
theorem Links.valueFrom_of_operations : ∀ {tier : Tier} (links : Links tier) {pairs : List (Operator × Int)},
    links.operations? = some pairs → ∀ m, links.valueFrom m = results? m pairs
  | _, .nil, _, h, m => by
    rw [Links.operations?] at h
    cases h
    rw [Links.valueFrom, results?]
  | _, .cons gap op htier member more, _, h, m => by
    rw [Links.operations?] at h
    obtain ⟨n, hn, hmore⟩ := Option.bind_eq_some_iff.1 h
    obtain ⟨pairs, hpairs, rfl⟩ := Option.map_eq_some_iff.1 hmore
    rw [Links.valueFrom, hn, Option.bind_some, results?]
    exact congrArg _ (funext (more.valueFrom_of_operations hpairs))

theorem Phrase.length_pos : ∀ {kind : Kind} (t : Phrase kind), 0 < t.text.length
  | _, .number gap numeral => by
    have := List.length_pos_iff.2 numeral.ne_nil
    rw [Phrase.text, List.length_append]
    omega
  | _, .group opening inner closing => by
    rw [Phrase.text, List.length_append, List.length_cons]
    omega
  | _, .bare primary => by
    rw [Phrase.text]
    exact primary.length_pos
  | _, .opposite gap inner => by
    rw [Phrase.text, List.length_append, List.length_cons]
    omega
  | _, .chain first links => by
    have := first.length_pos
    rw [Phrase.text, List.length_append]
    omega

theorem Phrase.length_group (opening : Gap) (inner : Phrase (.chain .sum)) (closing : Gap) :
    (Phrase.group opening inner closing).text.length =
      opening.chars.length + 1 + inner.text.length + (closing.chars.length + 1) := by
  simp only [Phrase.text, List.length_append, List.length_cons, List.length_nil]
  omega

theorem Phrase.length_opposite (gap : Gap) (inner : Phrase .unary) :
    (Phrase.opposite gap inner).text.length = gap.chars.length + 1 + inner.text.length := by
  rw [Phrase.text, List.length_append, List.length_cons]
  omega

theorem Links.length_cons {tier : Tier} (gap : Gap) (op : Operator) (htier : op.tier = tier)
    (member : Phrase tier.member) (more : Links tier) :
    (Links.cons gap op htier member more).text.length =
      gap.chars.length + 1 + member.text.length + more.text.length := by
  simp only [Links.text, List.length_append, List.length_cons]
  omega

/-! ## Checked arithmetic is exact arithmetic in range -/

theorem inRange_eq_some {n v : Int} : inRange n = some v ↔ Fits n ∧ n = v := by
  unfold inRange
  by_cases h : Fits n
  · simp [h]
  · simp [h]

theorem fits_of_inRange_eq_some {n v : Int} (h : inRange n = some v) : Fits v := by
  obtain ⟨hn, rfl⟩ := inRange_eq_some.1 h
  exact hn

theorem checked_eq (reason : ArithmeticError) (n : Int) :
    checked reason n = if Fits n then .ok n else .error reason := by
  have hfits : fitsInt64 n = true ↔ Fits n := by
    unfold fitsInt64 Decimal.leastInt64 Decimal.greatestInt64 Fits
    rw [Bool.and_eq_true, decide_eq_true_eq, decide_eq_true_eq]
    omega
  unfold checked
  by_cases h : Fits n
  · rw [if_pos h, if_pos (hfits.2 h)]
  · rw [if_neg h, if_neg fun hn => h (hfits.1 hn)]

theorem checked_eq_ok {reason : ArithmeticError} {n v : Int} : checked reason n = .ok v ↔ inRange n = some v := by
  rw [checked_eq, inRange]
  by_cases h : Fits n
  · simp [h]
  · simp [h]

theorem checked_eq_error {reason found : ArithmeticError} {n : Int} :
    checked reason n = .error found ↔ reason = found ∧ ¬ Fits n := by
  rw [checked_eq]
  by_cases h : Fits n
  · simp [h]
  · simp [h]

/-- **A quotient leaves the range in one case only.** -/
theorem fits_tdiv_iff {m n : Int} (hm : Fits m) (hn : n ≠ 0) : Fits (m.tdiv n) ↔ ¬ (m = -2 ^ 63 ∧ n = -1) := by
  constructor
  · rintro h ⟨rfl, rfl⟩
    exact absurd h (by decide)
  · intro h
    have habs : (m.tdiv n).natAbs = m.natAbs / n.natAbs := Int.natAbs_tdiv m n
    unfold Fits at hm ⊢
    by_cases hone : n = 1
    · rw [hone, Int.tdiv_one]
      exact hm
    by_cases hminus : n = -1
    · rw [hminus, Int.tdiv_neg, Int.tdiv_one]
      omega
    · have hhalf : m.natAbs / n.natAbs ≤ m.natAbs / 2 := Nat.div_le_div_left (by omega) (by omega)
      omega

theorem fits_tmod {m : Int} (hm : Fits m) (n : Int) : Fits (m.tmod n) := by
  have habs : (m.tmod n).natAbs = m.natAbs % n.natAbs := Int.natAbs_tmod m n
  have hle : m.natAbs % n.natAbs ≤ m.natAbs := Nat.mod_le _ _
  unfold Fits at hm ⊢
  rcases Int.le_total 0 m with h | h
  · have hsign := Int.tmod_nonneg n h
    omega
  · have hsign := Int.tmod_nonneg n (Int.neg_nonneg_of_nonpos h)
    rw [Int.neg_tmod] at hsign
    omega

/-- **The checked operators are the exact ones.** -/
theorem Operator.apply_eq_ok {op : Operator} {m n v : Int} (hm : Fits m) :
    op.apply m n = .ok v ↔ op.result? m n = some v := by
  cases op with
  | plus => exact checked_eq_ok
  | minus => exact checked_eq_ok
  | times => exact checked_eq_ok
  | divide =>
    simp only [apply, result?]
    by_cases hn : n = 0
    · simp [hn]
    · have hfits := fits_tdiv_iff hm hn
      by_cases hedge : m = -2 ^ 63 ∧ n = -1
      · rw [if_neg hn, if_pos (Or.inr hedge), checked_eq_ok, inRange_eq_some, hfits]
        simp [hedge]
      · rw [if_neg hn, if_neg (not_or.2 ⟨hn, hedge⟩), checked_eq_ok]
  | remainder =>
    simp only [apply, result?]
    by_cases hn : n = 0
    · simp [hn]
    · have hfits := fits_tdiv_iff hm hn
      rw [if_neg hn, checked_eq]
      by_cases hedge : m = -2 ^ 63 ∧ n = -1
      · rw [if_neg fun h => hfits.1 h hedge, if_pos (Or.inr hedge)]
        simp [Except.map]
      · rw [if_pos (hfits.2 hedge), if_neg (not_or.2 ⟨hn, hedge⟩), inRange_eq_some]
        simp [Except.map, fits_tmod hm n]

theorem Operator.fits_of_result {op : Operator} {m n v : Int} (h : op.result? m n = some v) : Fits v := by
  cases op with
  | plus => exact fits_of_inRange_eq_some h
  | minus => exact fits_of_inRange_eq_some h
  | times => exact fits_of_inRange_eq_some h
  | divide | remainder =>
    simp only [result?] at h
    split at h
    · cases h
    · exact fits_of_inRange_eq_some h

/-- **Evaluating a chain with checks is going from one exact result to the next.** -/
theorem evaluateChain_eq_ok : ∀ (pairs : List (Operator × Int)) {m v : Int}, Fits m →
    (evaluateChain m pairs = .ok v ↔ results? m pairs = some v)
  | [], m, v, _ => by rw [evaluateChain, results?, Except.ok.injEq, Option.some.injEq]
  | (op, n) :: more, m, v, hm => by
    rw [evaluateChain, results?]
    cases happly : op.apply m n with
    | ok result =>
      have hresult := (Operator.apply_eq_ok hm).1 happly
      rw [hresult]
      exact evaluateChain_eq_ok more (Operator.fits_of_result hresult)
    | error reason =>
      have hnone : op.result? m n = none := by
        rw [Option.eq_none_iff_forall_ne_some]
        intro result hresult
        rw [(Operator.apply_eq_ok hm).2 hresult] at happly
        cases happly
      rw [hnone]
      exact ⟨nofun, nofun⟩

theorem fits_of_results : ∀ (pairs : List (Operator × Int)) {m v : Int}, Fits m → results? m pairs = some v → Fits v
  | [], m, v, hm, h => by
    cases h
    exact hm
  | (op, n) :: more, m, v, _, h => by
    obtain ⟨result, hresult, hmore⟩ := Option.bind_eq_some_iff.1 h
    exact fits_of_results more (Operator.fits_of_result hresult) hmore

theorem le_natFrom : ∀ (before : Nat) (digits : List Char), before ≤ natFrom before digits
  | before, [] => Nat.le_refl _
  | before, c :: digits => by
    have ih := le_natFrom (10 * before + Decimal.digitValue c) digits
    have hstep : natFrom before (c :: digits) = natFrom (10 * before + Decimal.digitValue c) digits := rfl
    omega

theorem readDigitsFrom_eq : ∀ (before : Nat) (digits : List Char), Fits before →
    readDigitsFrom before digits = checked .outOfRange (natFrom before digits)
  | before, [], hb => by
    have hnat : natFrom before [] = before := rfl
    rw [readDigitsFrom, hnat, checked_eq, if_pos hb]
  | before, c :: digits, hb => by
    have hcast : 10 * (before : Int) + Decimal.digitValue c = ((10 * before + Decimal.digitValue c : Nat) : Int) := by
      omega
    have hstep : natFrom before (c :: digits) = natFrom (10 * before + Decimal.digitValue c) digits := rfl
    unfold readDigitsFrom
    rw [hcast, hstep, checked_eq]
    by_cases hfits : Fits ((10 * before + Decimal.digitValue c : Nat) : Int)
    · rw [if_pos hfits]
      exact readDigitsFrom_eq _ digits hfits
    · have hle := le_natFrom (10 * before + Decimal.digitValue c) digits
      have hlarge : ¬ Fits (natFrom (10 * before + Decimal.digitValue c) digits : Nat) := by
        unfold Fits at hfits ⊢
        omega
      rw [if_neg hfits, checked_eq, if_neg hlarge]

/-- **Reading digits with a check after each is reading the number they write and checking it.** -/
theorem readDigits_eq (digits : List Char) : readDigits digits = checked .outOfRange (nat digits) := by
  have hzero : Fits (0 : Nat) := by decide
  exact readDigitsFrom_eq 0 digits hzero

theorem readDigits_eq_ok {digits : List Char} {v : Int} :
    readDigits digits = .ok v ↔ inRange (nat digits) = some v := by
  rw [readDigits_eq, checked_eq_ok]

mutual

/-- **A value is in range.** -/
theorem Phrase.fits_of_value : ∀ {kind : Kind} (t : Phrase kind) {v : Int}, t.value = some v → Fits v
  | _, .number _ numeral => by
    intro h
    rw [Phrase.value] at h
    exact fits_of_inRange_eq_some h
  | _, .group _ inner _ => by
    intro h
    rw [Phrase.value] at h
    exact inner.fits_of_value h
  | _, .bare primary => by
    intro h
    rw [Phrase.value] at h
    exact primary.fits_of_value h
  | _, .opposite _ inner => by
    intro h
    rw [Phrase.value] at h
    obtain ⟨n, -, hn⟩ := Option.bind_eq_some_iff.1 h
    exact fits_of_inRange_eq_some hn
  | _, .chain first links => by
    intro h
    rw [Phrase.value] at h
    obtain ⟨m, hm, hl⟩ := Option.bind_eq_some_iff.1 h
    exact links.fits_of_valueFrom (first.fits_of_value hm) hl

theorem Links.fits_of_valueFrom : ∀ {tier : Tier} (links : Links tier) {m v : Int}, Fits m →
    links.valueFrom m = some v → Fits v
  | _, .nil => by
    intro hm h
    rw [Links.valueFrom] at h
    exact Option.some.inj h ▸ hm
  | _, .cons _ op _ member more => by
    intro hm h
    rw [Links.valueFrom] at h
    obtain ⟨n, -, hn⟩ := Option.bind_eq_some_iff.1 h
    obtain ⟨result, hr, hv⟩ := Option.bind_eq_some_iff.1 hn
    exact more.fits_of_valueFrom (Operator.fits_of_result hr) hv

end

end Parsing.Calculator
