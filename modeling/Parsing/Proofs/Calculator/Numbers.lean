import Mathlib.Data.Nat.Digits.Defs
import Parsing.Proofs.Calculator.Tokens
/-!
# Numbers — what the calculator reads digits as

A number is read digit by digit, and every product and every sum on the way is checked.  Numbers only grow on the way,
so a check fails just where the whole number is out of range, however many zeros lead it: reading with checks is reading
first and checking once (`readDigits_eq`, `readDigits_eq_foldlM`).  What is read first is the value of the digits in
positional notation (`nat_eq_ofDigits`).

Main statement: `number_reads_longest_run`.
-/
namespace Parsing.Calculator

open Cursor (Distinct after symbols)
open Decimal (digitValue isDigit nat natFrom)
open Parsing.Parser (blanks)
open Unicode (isWhiteSpace)

/-! ## Digits -/

theorem natFrom_eq_ofDigits : ∀ (before : Nat) (digits : List Char),
    natFrom before digits = Nat.ofDigits 10 (digits.map digitValue).reverse + before * 10 ^ digits.length
  | before, [] => by simp [natFrom]
  | before, c :: digits => by
    have hstep : natFrom before (c :: digits) = natFrom (10 * before + digitValue c) digits := rfl
    rw [hstep, natFrom_eq_ofDigits, List.map_cons, List.reverse_cons, Nat.ofDigits_append, Nat.ofDigits_singleton,
      List.length_reverse, List.length_map, List.length_cons, Nat.pow_succ]
    ring

/-- **Digits write their value in positional notation**, the last one counting for itself. -/
theorem nat_eq_ofDigits (digits : List Char) : nat digits = Nat.ofDigits 10 (digits.map digitValue).reverse := by
  rw [nat, natFrom_eq_ofDigits, Nat.zero_mul, Nat.add_zero]

/-- A number with one more digit behind it, the product checked and then the sum. -/
def withDigit (n : Int) (c : Char) : Except ArithmeticError Int := do
  let tens ← checked .outOfRange (10 * n)
  checked .outOfRange (tens + digitValue c)

/-- For what is not negative, the check of the product adds nothing to that of the sum. -/
theorem withDigit_eq {n : Int} (h : 0 ≤ n) (c : Char) :
    withDigit n c = checked .outOfRange (10 * n + digitValue c) := by
  unfold withDigit
  rw [checked_eq .outOfRange (10 * n)]
  by_cases hfits : Fits (10 * n)
  · rw [if_pos hfits]
    rfl
  · have hlarge : ¬ Fits (10 * n + digitValue c) := by
      unfold Fits at hfits ⊢
      omega
    rw [if_neg hfits, checked_eq, if_neg hlarge]
    rfl

theorem readDigitsFrom_eq_foldlM : ∀ {before : Int} (digits : List Char), 0 ≤ before →
    readDigitsFrom before digits = digits.foldlM withDigit before
  | _, [], _ => rfl
  | before, c :: digits, h => by
    rw [readDigitsFrom, List.foldlM_cons, withDigit_eq h, checked_eq]
    by_cases hfits : Fits (10 * before + digitValue c)
    · rw [if_pos hfits]
      exact readDigitsFrom_eq_foldlM digits (by omega)
    · rw [if_neg hfits]
      rfl

theorem readDigits_eq_foldlM (digits : List Char) : readDigits digits = digits.foldlM withDigit 0 :=
  readDigitsFrom_eq_foldlM digits (Int.le_refl 0)

/-! ## Numbers in a text -/

variable {ι : Type} [Cursor ι Char] [Distinct ι]

/-- **A number is the longest run of digits behind blanks**, its value checked once. -/
theorem number_eq (x : ι) :
    let start := pastBlanks x
    let run := (symbols start).takeWhile isDigit
    let rest := after run.length start
    number x =
      if run = [] then
        .failure ⟨.general (if (symbols start).isEmpty then .moreNeeded else .invalid), start⟩ x
      else if Fits (nat run) then .success (nat run : Int) rest
      else .failure ⟨.custom ArithmeticError.outOfRange.message, rest⟩ x := by
  intro start run rest
  rw [number, Parser.tryMap, Parser.skipThen, blanks_eq, Outcome.andThen_success, digits_eq_word, Parser.word_eq]
  by_cases hrun : run = []
  · rw [if_pos hrun, if_pos hrun, Outcome.restoring_failure, Outcome.andThen_failure]
    split <;> rfl
  · have hfound : (⟨start, rest⟩ : Stretch ι).symbols = run := symbols_of_digits List.takeWhile_append_dropWhile.symm
    rw [if_neg hrun, if_neg hrun, Outcome.restoring_success, Outcome.andThen_success, hfound, readDigits_eq, checked_eq]
    by_cases hfits : Fits (nat run)
    · rw [if_pos hfits, if_pos hfits]
    · rw [if_neg hfits, if_neg hfits]
      rfl

/-- **A number is read exactly, up to the largest signed 64-bit integer.**  Blanks are skipped to the last one, and the
run of digits there goes on to the last one.  Where there is none the number fails at that place.  If the run writes no
more than the largest integer, however many digits it has, the number is what it writes, and the rest is behind it.  A
run that writes more is out of range, and the fault is behind it.  Every failure gives back its input.  Checking each
product and each sum on the way comes to the same. -/
theorem number_reads_longest_run {ι : Type} [Cursor ι Char] [Distinct ι] (x : ι) :
    let start := after ((symbols x).takeWhile isWhiteSpace).length x
    let run := (symbols start).takeWhile isDigit
    let rest := after run.length start
    let value : Nat := Nat.ofDigits 10 (run.map digitValue).reverse
    (symbols start = (symbols x).dropWhile isWhiteSpace ∧ symbols rest = (symbols start).dropWhile isDigit) ∧
      (run = [] →
        number x = .failure ⟨.general (if (symbols start).isEmpty then .moreNeeded else .invalid), start⟩ x) ∧
      (run ≠ [] → value ≤ 2 ^ 63 - 1 → number x = .success (value : Int) rest) ∧
      (2 ^ 63 - 1 < value → number x = .failure ⟨.custom "number out of range", rest⟩ x) ∧
      (∀ fault input, number x = .failure fault input → input = x) ∧
      readDigits run = run.foldlM withDigit 0 := by
  intro start run rest value
  have hnumber : number x =
      if run = [] then
        .failure ⟨.general (if (symbols start).isEmpty then .moreNeeded else .invalid), start⟩ x
      else if Fits (nat run) then .success (nat run : Int) rest
      else .failure ⟨.custom ArithmeticError.outOfRange.message, rest⟩ x := number_eq x
  have hvalue : nat run = value := nat_eq_ofDigits run
  have hfits : Fits (nat run) ↔ value ≤ 2 ^ 63 - 1 := by
    rw [hvalue, Fits]
    omega
  refine ⟨⟨symbols_pastBlanks x, Cursor.symbols_after_length List.takeWhile_append_dropWhile.symm⟩, fun hrun => ?_,
    fun hrun hle => ?_, fun hlt => ?_, fun fault input h => ?_, readDigits_eq_foldlM run⟩
  · rw [hnumber, if_pos hrun]
  · rw [hnumber, if_neg hrun, if_pos (hfits.2 hle), hvalue]
  · -- No digits write zero, which is in range.
    have hrun : run ≠ [] := by
      intro hrun
      have hzero : value = 0 := by rw [← hvalue, hrun]; rfl
      omega
    rw [hnumber, if_neg hrun, if_neg fun h => absurd (hfits.1 h) (Nat.not_le.2 hlt)]
    rfl
  · have ho : (number x).Orderly Parts.none x := composed_number.orderly x
    rw [h] at ho
    exact ho.1

/-- The largest number behind blanks and zeros, the one after it, and a sign where digits should be. -/
theorem number_reads_longest_run_of_limits :
    let x : Located Text := .ofCursor (Text.ofString "  0009223372036854775807+1")
    let y : Located Text := .ofCursor (Text.ofString "9223372036854775808")
    let z : Located Text := .ofCursor (Text.ofString " -1")
    number x = .success 9223372036854775807 ⟨⟨24, ['+', '1']⟩, 1, 25⟩ ∧
      number y = .failure ⟨.custom "number out of range", ⟨⟨19, []⟩, 1, 20⟩⟩ y ∧
      number z = .failure ⟨.general .invalid, ⟨⟨1, ['-', '1']⟩, 1, 2⟩⟩ z := by
  intro x y z
  exact ⟨(number_reads_longest_run x).2.2.1 (by decide) (by decide), (number_reads_longest_run y).2.2.2.1 (by decide),
    (number_reads_longest_run z).2.1 (by decide)⟩

end Parsing.Calculator
