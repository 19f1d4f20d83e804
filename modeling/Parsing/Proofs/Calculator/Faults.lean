import Parsing.Proofs.Calculator.Expressions
/-!
# Faults — what is told about a phrase without a value

A line that is written by a phrase is answered by the reading of the phrase (`evaluate_text`); where the reading was
cut, the sign behind the cut is told as input left over.  So a refused chain is told where it belongs just if it comes in
front (`chain_refusal_told_iff`).  A refused literal or negation is never told as one, and something else is told of a
place before it (`value_refusal_not_told`).
-/
namespace Parsing.Calculator

open Cursor (after left symbols)
open Unicode (isWhiteSpace)

/-- The place of a line with so many characters before it. -/
def place (line : List Char) (offset : Nat) : Located Text := after offset (.ofCursor ⟨0, line⟩)

theorem left_place (line : List Char) (offset : Nat) : left (place line offset) = line.length - offset :=
  Cursor.left_after offset _

theorem place_ne_of_lt {line : List Char} {k offset : Nat} (hlt : k < offset) (hle : offset ≤ line.length) :
    place line k ≠ place line offset := by
  intro heq
  have hleft := congrArg left heq
  rw [left_place, left_place] at hleft
  omega

def Gap.none : Gap := ⟨[], nofun⟩

def Phrase.literal (digits : List Char) (hne : digits ≠ []) (h : digits.all Decimal.isDigit = true) : Phrase .unary :=
  .bare (.number .none ⟨digits, hne, List.all_eq_true.1 h⟩)

/-- The outcome of a line that is read as a phrase with blanks behind it. -/
def Reading.answer (line : List Char) : Reading → Outcome TextCause (Located Text) Int
  | whole v => .success v (place line line.length)
  | cut _ _ sign => .failure ⟨.general .endExpected, place line sign⟩ (place line 0)
  | refused cause found => .failure ⟨cause, place line found⟩ (place line 0)

theorem Kind.ends_gap (kind : Kind) (gap : Gap) : kind.Ends gap.chars := by
  have hnil : ∀ {holds : Char → Bool}, ∀ c ∈ ([] : List Char).head?, holds c = false := by
    rintro holds c ⟨⟩
  have h := kind.ends_gap_append gap hnil hnil (fun op _ => nofun)
  rwa [List.append_nil] at h

/-- **A line written by a phrase is answered by its reading.** -/
theorem evaluate_text (t : Phrase (.chain .sum)) (gap : Gap) :
    evaluate (t.text ++ gap.chars) = (t.reading 0).answer (t.text ++ gap.chars) := by
  generalize hline : t.text ++ gap.chars = line
  have hs : symbols (place line 0) = t.text ++ gap.chars := hline.symm
  have hroom : t.text.length ≤ left (place line 0) + 1 := by
    rw [left, hs, List.length_append]
    omega
  obtain ⟨hread, hcut⟩ := t.read (left (place line 0)) 0 (place line 0) gap.chars hroom hs (Kind.ends_gap _ gap)
  show ((expression (left (place line 0) + 1)).thenSkip Parser.blanks).complete (place line 0) = _
  cases hreading : t.reading 0 with
  | whole v =>
    rw [hreading, Nat.zero_add] at hread
    have hbehind : symbols (place line t.text.length) = gap.chars ++ [] := by
      rw [List.append_nil]
      exact Cursor.symbols_after_length hs
    obtain ⟨hpast, hend⟩ := gap.pastBlanks_eq hbehind (by rintro c ⟨⟩)
    have hfinish : pastBlanks (place line t.text.length) = place line line.length := by
      rw [hpast, place, ← Cursor.after_add, ← List.length_append, hline]
      rfl
    rw [hfinish] at hend
    refine Parser.complete_eq_success.2 ⟨?_, (isEmpty_iff_symbols_eq_nil _).2 hend⟩
    exact Parser.thenSkip_eq_success.2 ⟨_, (), hread, (blanks_eq _).trans (congrArg _ hfinish)⟩
  | cut v stop sign =>
    -- Blanks end before the sign, which is then left over.
    rw [hreading] at hread
    obtain ⟨hpast, op, -, hsign⟩ := hcut v stop sign hreading
    have hmore : Cursor.isEmpty (place line sign) = false := by
      rw [← Bool.not_eq_true, isEmpty_iff_symbols_eq_nil]
      intro hnil
      rw [show symbols (after sign (place line 0)) = [] from hnil] at hsign
      cases hsign
    have hmatch : ((expression (left (place line 0) + 1)).thenSkip Parser.blanks) (place line 0) =
        .success v (place line sign) :=
      Parser.thenSkip_eq_success.2 ⟨_, (), hread, (blanks_eq _).trans (congrArg _ hpast)⟩
    exact Parser.complete_of_more hmatch hmore
  | refused cause found =>
    rw [hreading] at hread
    have hfailure : expression (left (place line 0) + 1) (place line 0) =
        .failure ⟨cause, place line found⟩ (place line 0) := hread
    rw [Parser.complete, Parser.thenSkip, hfailure]
    rfl

/-- What is told of a refusal that does not come in front stands before the place where it belongs. -/
theorem evaluate_of_refusal (t : Phrase (.chain .sum)) (gap : Gap) {r : Refusal} (hfront : ¬ t.RefusedInFront)
    (h : t.evaluation 0 = .error r) :
    let line := t.text ++ gap.chars
    ∃ cause, (cause = .general .endExpected ∨ Told cause) ∧ ∃ k < r.offset, place line k ≠ place line r.offset ∧
      evaluate line = .failure ⟨cause, place line k⟩ (place line 0) := by
  intro line
  have hplace : ∀ k < r.offset, place line k ≠ place line r.offset := by
    intro k hk
    have hbounds := (t.refusal_bounds 0 h).2
    refine place_ne_of_lt hk ?_
    rw [List.length_append]
    omega
  have hends := t.reading_endsBefore 0 hfront h
  have hline := evaluate_text t gap
  cases hreading : t.reading 0 with
  | whole v => rw [hreading] at hends; exact hends.elim
  | cut v stop sign =>
    rw [hreading] at hends hline
    exact ⟨_, Or.inl rfl, sign, hends.2, hplace sign hends.2, hline⟩
  | refused cause found =>
    rw [hreading] at hends hline
    exact ⟨cause, Or.inr (t.told_of_reading 0 hreading), found, hends, hplace found hends, hline⟩

/-- **A refused chain is told where it belongs if and only if it comes in front**: along the first members of chains and
through parentheses.  Anywhere else something is told of a place before it. -/
theorem chain_refusal_told_iff (t : Phrase (.chain .sum)) (gap : Gap) {reason : ArithmeticError} {offset : Nat}
    (h : t.evaluation 0 = .error ⟨reason, .chain, offset⟩) :
    let line := t.text ++ gap.chars
    (evaluate line = .failure ⟨.custom reason.message, place line offset⟩ (place line 0) ↔ t.RefusedInFront) ∧
      (¬ t.RefusedInFront → ∃ cause, ∃ k < offset,
        evaluate line = .failure ⟨cause, place line k⟩ (place line 0)) := by
  intro line
  refine ⟨⟨fun htold => Classical.byContradiction fun hfront => ?_, fun hfront => ?_⟩, fun hfront => ?_⟩
  · obtain ⟨cause, -, k, -, hne, hfailure⟩ := evaluate_of_refusal t gap hfront h
    rw [hfailure] at htold
    injection htold with hfault
    injection hfault with _ hplace
    exact hne hplace
  · have hreading := (t.reading_of_refusedInFront 0 hfront h).2
    rw [evaluate_text, hreading]
    rfl
  · obtain ⟨cause, -, k, hk, -, hfailure⟩ := evaluate_of_refusal t gap hfront h
    exact ⟨cause, k, hk, hfailure⟩

theorem chain_refusal_told_in_front :
    let t : Phrase (.chain .sum) := .chain (.chain (.literal ['1'] nofun rfl)
      (.cons .none .divide rfl (.literal ['0'] nofun rfl)
        (.cons .none .times rfl (.literal ['3'] nofun rfl) .nil))) .nil
    let line := "1/0*3".toList
    t.text = line ∧ t.evaluation 0 = .error ⟨.divisionByZero, .chain, 5⟩ ∧ t.RefusedInFront ∧
      evaluate line = .failure ⟨.custom "division by zero", place line 5⟩ (place line 0) := by
  intro t line
  have hrefusal : t.evaluation 0 = .error ⟨.divisionByZero, .chain, 5⟩ := by decide +kernel
  have hfront : t.RefusedInFront := by decide +kernel
  exact ⟨by decide +kernel, hrefusal, hfront, (chain_refusal_told_iff t .none hrefusal).1.2 hfront⟩

/-- Division by zero in the second member of a sum: the sum ends before that member, and the rest is told as input left
over. -/
theorem chain_refusal_lost_behind_plus :
    let t : Phrase (.chain .sum) := .chain (.chain (.literal ['1'] nofun rfl) .nil)
      (.cons .none .plus rfl (.chain (.literal ['1'] nofun rfl)
        (.cons .none .divide rfl (.literal ['0'] nofun rfl) .nil)) .nil)
    let line := "1+1/0".toList
    t.text = line ∧ t.evaluation 0 = .error ⟨.divisionByZero, .chain, 5⟩ ∧
      evaluate line = .failure ⟨.general .endExpected, place line 1⟩ (place line 0) ∧
      evaluate line ≠ .failure ⟨.custom "division by zero", place line 5⟩ (place line 0) := by
  intro t line
  have hfailure : evaluate line = (t.reading 0).answer line := evaluate_text t .none
  have hcut : t.reading 0 = .cut 1 1 1 := by decide +kernel
  rw [hcut] at hfailure
  exact ⟨by decide +kernel, by decide +kernel, hfailure, fun htold => by cases hfailure.symm.trans htold⟩

theorem not_told_outOfRange : ¬ Told (.custom ArithmeticError.outOfRange.message) := by
  rintro (h | h | ⟨op, n, h⟩)
  · cases h
  · cases h
  · rw [Operator.refusal] at h
    split at h
    · exact absurd h (by decide)
    · exact absurd h (by decide)

/-- **A refused literal or negation is not told as one.**  What is told stands before the place where the refusal
belongs, and it is never that a number is out of range. -/
theorem value_refusal_not_told (t : Phrase (.chain .sum)) (gap : Gap) {r : Refusal} (h : t.evaluation 0 = .error r)
    (hsite : r.site ≠ .chain) :
    let line := t.text ++ gap.chars
    ∃ cause, cause ≠ .custom ArithmeticError.outOfRange.message ∧ ∃ k < r.offset,
      place line k ≠ place line r.offset ∧ evaluate line = .failure ⟨cause, place line k⟩ (place line 0) := by
  intro line
  have hfront : ¬ t.RefusedInFront := fun hfront => hsite (t.reading_of_refusedInFront 0 hfront h).1
  obtain ⟨cause, hcause, hfailure⟩ := evaluate_of_refusal t gap hfront h
  refine ⟨cause, ?_, hfailure⟩
  rintro rfl
  rcases hcause with hcause | hcause
  · cases hcause
  · exact not_told_outOfRange hcause

theorem value_refusal_not_told_of_negation :
    let least : Phrase (.chain .sum) := .chain (.chain (.opposite .none (.literal "9223372036854775807".toList
      nofun rfl)) .nil) (.cons .none .minus rfl (.chain (.literal ['1'] nofun rfl) .nil) .nil)
    let t : Phrase (.chain .sum) := .chain (.chain (.opposite .none (.bare (.group .none least .none))) .nil) .nil
    let line := "-(-9223372036854775807-1)".toList
    t.text = line ∧ t.evaluation 0 = .error ⟨.overflow, .negation, 25⟩ ∧
      ∃ cause, cause ≠ .custom "number out of range" ∧ ∃ k < 25, place line k ≠ place line 25 ∧
        evaluate line = .failure ⟨cause, place line k⟩ (place line 0) := by
  intro least t line
  have hrefusal : t.evaluation 0 = .error ⟨.overflow, .negation, 25⟩ := by decide +kernel
  exact ⟨by decide +kernel, hrefusal, value_refusal_not_told t .none hrefusal (by decide)⟩

/-- A literal out of range: the choice goes on to the other alternative, and misses a parenthesis there. -/
theorem value_refusal_lost_at_literal :
    let t : Phrase (.chain .sum) := .chain (.chain (.literal "9223372036854775808".toList nofun rfl) .nil) .nil
    let line := "9223372036854775808".toList
    t.text = line ∧ t.evaluation 0 = .error ⟨.outOfRange, .literal, 19⟩ ∧
      evaluate line = .failure ⟨.expected '(', place line 0⟩ (place line 0) ∧
      evaluate line ≠ .failure ⟨.custom "number out of range", place line 19⟩ (place line 0) := by
  intro t line
  have hfailure : evaluate line = (t.reading 0).answer line := evaluate_text t .none
  have hrefused : t.reading 0 = .refused (.expected '(') 0 := by decide +kernel
  rw [hrefused] at hfailure
  exact ⟨by decide +kernel, by decide +kernel, hfailure, fun htold => by cases hfailure.symm.trans htold⟩

end Parsing.Calculator
