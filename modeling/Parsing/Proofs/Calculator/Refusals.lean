import Mathlib.Control.Monad.Basic
import Parsing.Proofs.Calculator.Language
/-!
# Refusals — the first step of an evaluation that is refused

`Phrase.evaluation` goes through a phrase in the order of `Phrase.value` and, where there is no value, names the first
step that is refused: why, what kind of step it is, and at which offset that is to be told.  A literal is refused right
behind it, a negation right behind the negated operand, an operator right behind the whole chain it stands in.  Offsets
count the characters of the line before them.
-/
namespace Parsing.Calculator

open Decimal (nat)

inductive Site where
  | literal
  | negation
  | chain
deriving DecidableEq

/-- A refused step, and the offset where it is to be told. -/
structure Refusal where
  reason : ArithmeticError
  site : Site
  offset : Nat
deriving DecidableEq

/-- Why an operator without a result has none. -/
def Operator.refusal (op : Operator) (n : Int) : ArithmeticError :=
  if (op = .divide ∨ op = .remainder) ∧ n = 0 then .divisionByZero else .overflow

/-- A result, or the refusal of a step that has none. -/
def orRefuse (refusal : Refusal) : Option Int → Except Refusal Int
  | some v => .ok v
  | none => .error refusal

mutual

/-- The value of a phrase with so many characters before it, or the first refusal. -/
def Phrase.evaluation : {kind : Kind} → Phrase kind → Nat → Except Refusal Int
  | _, .number gap numeral, before =>
    orRefuse ⟨.outOfRange, .literal, before + (gap.chars.length + numeral.digits.length)⟩ (inRange (nat numeral.digits))
  | _, .group opening inner _, before => inner.evaluation (before + (opening.chars.length + 1))
  | _, .bare primary, before => primary.evaluation before
  | _, .opposite gap inner, before =>
    match inner.evaluation (before + (gap.chars.length + 1)) with
    | .ok n => orRefuse ⟨.overflow, .negation, before + (gap.chars.length + 1) + inner.text.length⟩ (inRange (-n))
    | .error refusal => .error refusal
  | _, .chain first links, before =>
    match first.evaluation before with
    | .ok m => links.evaluationFrom (before + first.text.length + links.text.length) (before + first.text.length) m
    | .error refusal => .error refusal

/-- The value of a chain that stops at an offset, once its members so far are worth so much. -/
def Links.evaluationFrom : {tier : Tier} → Links tier → Nat → Nat → Int → Except Refusal Int
  | _, .nil, _, _, m => .ok m
  | _, .cons gap op _ member more, stop, before, m =>
    match member.evaluation (before + (gap.chars.length + 1)) with
    | .ok n =>
      match op.result? m n with
      | some result =>
        more.evaluationFrom stop (before + (gap.chars.length + 1) + member.text.length) result
      | none => .error ⟨op.refusal n, .chain, stop⟩
    | .error refusal => .error refusal

end

theorem orRefuse_eq_ok {refusal : Refusal} {o : Option Int} {v : Int} : orRefuse refusal o = .ok v ↔ o = some v := by
  cases o <;> simp [orRefuse]

theorem orRefuse_eq_error {refusal other : Refusal} {o : Option Int} :
    orRefuse refusal o = .error other ↔ o = none ∧ refusal = other := by
  cases o <;> simp [orRefuse]

mutual

/-- **An evaluation comes to the value where there is one.** -/
theorem Phrase.evaluation_eq_ok : ∀ {kind : Kind} (t : Phrase kind) (before : Nat) {v : Int},
    t.evaluation before = .ok v ↔ t.value = some v
  | _, .number gap numeral, before, v => by rw [Phrase.evaluation, Phrase.value, orRefuse_eq_ok]
  | _, .group opening inner _, before, v => by rw [Phrase.evaluation, Phrase.value, inner.evaluation_eq_ok]
  | _, .bare primary, before, v => by rw [Phrase.evaluation, Phrase.value, primary.evaluation_eq_ok]
  | _, .opposite gap inner, before, v => by
    rw [Phrase.evaluation, Phrase.value, Option.bind_eq_some_iff]
    cases h : inner.evaluation (before + (gap.chars.length + 1)) with
    | ok n => simp [(inner.evaluation_eq_ok _).1 h, orRefuse_eq_ok]
    | error refusal =>
      have hvalue : ∀ n, inner.value ≠ some n := fun n hn => by rw [(inner.evaluation_eq_ok _).2 hn] at h; cases h
      simp [hvalue]
  | _, .chain first links, before, v => by
    rw [Phrase.evaluation, Phrase.value, Option.bind_eq_some_iff]
    cases h : first.evaluation before with
    | ok m => simp [(first.evaluation_eq_ok _).1 h, links.evaluationFrom_eq_ok]
    | error refusal =>
      have hvalue : ∀ n, first.value ≠ some n := fun n hn => by rw [(first.evaluation_eq_ok _).2 hn] at h; cases h
      simp [hvalue]

theorem Links.evaluationFrom_eq_ok : ∀ {tier : Tier} (links : Links tier) (stop before : Nat) {m v : Int},
    links.evaluationFrom stop before m = .ok v ↔ links.valueFrom m = some v
  | _, .nil, stop, before, m, v => by simp [Links.evaluationFrom, Links.valueFrom]
  | _, .cons gap op _ member more, stop, before, m, v => by
    rw [Links.evaluationFrom, Links.valueFrom, Option.bind_eq_some_iff]
    cases h : member.evaluation (before + (gap.chars.length + 1)) with
    | ok n =>
      cases hresult : op.result? m n with
      | some result => simp [(member.evaluation_eq_ok _).1 h, hresult, more.evaluationFrom_eq_ok]
      | none => simp [(member.evaluation_eq_ok _).1 h, hresult]
    | error refusal =>
      have hvalue : ∀ n, member.value ≠ some n := fun n hn => by rw [(member.evaluation_eq_ok _).2 hn] at h; cases h
      simp [hvalue]

end

theorem Phrase.value_of_refusal {kind : Kind} (t : Phrase kind) {before : Nat} {r : Refusal}
    (h : t.evaluation before = .error r) : t.value = none := by
  cases hv : t.value with
  | none => rfl
  | some v => rw [(t.evaluation_eq_ok before).2 hv] at h; cases h

theorem Links.valueFrom_of_refusal {tier : Tier} (links : Links tier) {stop before : Nat} {m : Int} {r : Refusal}
    (h : links.evaluationFrom stop before m = .error r) : links.valueFrom m = none := by
  cases hv : links.valueFrom m with
  | none => rfl
  | some v => rw [(links.evaluationFrom_eq_ok stop before).2 hv] at h; cases h

/-- **The checked operators refuse for the reason they should.** -/
theorem Operator.eq_refusal_of_apply {op : Operator} {m n : Int} {reason : ArithmeticError}
    (h : op.apply m n = .error reason) : reason = op.refusal n := by
  cases op with
  | plus => exact (checked_eq_error.1 h).1.symm
  | minus => exact (checked_eq_error.1 h).1.symm
  | times => exact (checked_eq_error.1 h).1.symm
  | divide =>
    rw [apply] at h
    by_cases hn : n = 0
    · rw [if_pos hn] at h
      cases h
      rw [refusal, if_pos ⟨Or.inl rfl, hn⟩]
    · rw [if_neg hn] at h
      rw [refusal, if_neg fun hzero => hn hzero.2]
      exact (checked_eq_error.1 h).1.symm
  | remainder =>
    rw [apply] at h
    by_cases hn : n = 0
    · rw [if_pos hn] at h
      cases h
      rw [refusal, if_pos ⟨Or.inr rfl, hn⟩]
    · rw [if_neg hn] at h
      rw [refusal, if_neg fun hzero => hn hzero.2]
      cases hquotient : checked .overflow (m.tdiv n) with
      | ok v => rw [hquotient] at h; cases h
      | error found =>
        rw [hquotient] at h
        cases h
        exact (checked_eq_error.1 hquotient).1.symm

theorem Operator.apply_of_result_eq_none {op : Operator} {m n : Int} (hm : Fits m) (h : op.result? m n = none) :
    op.apply m n = .error (op.refusal n) := by
  cases happly : op.apply m n with
  | ok v => rw [(apply_eq_ok hm).1 happly] at h; cases h
  | error reason => rw [eq_refusal_of_apply happly]

/-! ## Where a refusal comes from -/

theorem Phrase.evaluation_opposite_eq_error {gap : Gap} {inner : Phrase .unary} {before : Nat} {r : Refusal}
    (h : (Phrase.opposite gap inner).evaluation before = .error r) :
    inner.evaluation (before + (gap.chars.length + 1)) = .error r ∨
      r = ⟨.overflow, .negation, before + (gap.chars.length + 1) + inner.text.length⟩ := by
  rw [Phrase.evaluation] at h
  cases hinner : inner.evaluation (before + (gap.chars.length + 1)) with
  | ok n =>
    rw [hinner] at h
    exact Or.inr (orRefuse_eq_error.1 h).2.symm
  | error refusal =>
    rw [hinner] at h
    cases h
    exact Or.inl rfl

/-- A chain is refused by its first member, or behind it. -/
theorem Phrase.evaluation_chain_eq_error {tier : Tier} {first : Phrase tier.member} {links : Links tier} {before : Nat}
    {r : Refusal} (h : (Phrase.chain first links).evaluation before = .error r) :
    first.evaluation before = .error r ∨ ∃ m, first.value = some m ∧
      links.evaluationFrom (before + first.text.length + links.text.length) (before + first.text.length) m =
        .error r := by
  rw [Phrase.evaluation] at h
  cases hfirst : first.evaluation before with
  | ok m =>
    rw [hfirst] at h
    exact Or.inr ⟨m, (first.evaluation_eq_ok before).1 hfirst, h⟩
  | error refusal =>
    rw [hfirst] at h
    cases h
    exact Or.inl rfl

/-- A link is refused by its member, at its operator, or behind it. -/
theorem Links.evaluationFrom_cons_eq_error {tier : Tier} {gap : Gap} {op : Operator} {htier : op.tier = tier}
    {member : Phrase tier.member} {more : Links tier} {stop before : Nat} {m : Int} {r : Refusal}
    (h : (Links.cons gap op htier member more).evaluationFrom stop before m = .error r) :
    member.evaluation (before + (gap.chars.length + 1)) = .error r ∨ ∃ n, member.value = some n ∧
      ((op.result? m n = none ∧ r = ⟨op.refusal n, .chain, stop⟩) ∨ ∃ result, op.result? m n = some result ∧
        more.evaluationFrom stop (before + (gap.chars.length + 1) + member.text.length) result = .error r) := by
  rw [Links.evaluationFrom] at h
  cases hmember : member.evaluation (before + (gap.chars.length + 1)) with
  | ok n =>
    refine Or.inr ⟨n, (member.evaluation_eq_ok _).1 hmember, ?_⟩
    rw [hmember] at h
    cases hresult : op.result? m n with
    | some result =>
      simp only [hresult] at h
      exact Or.inr ⟨result, rfl, h⟩
    | none =>
      simp only [hresult] at h
      cases h
      exact Or.inl ⟨rfl, rfl⟩
  | error refusal =>
    rw [hmember] at h
    cases h
    exact Or.inl rfl

mutual

/-- **A refusal is told inside the phrase it belongs to**, and not at its front. -/
theorem Phrase.refusal_bounds : ∀ {kind : Kind} (t : Phrase kind) (before : Nat) {r : Refusal},
    t.evaluation before = .error r → before < r.offset ∧ r.offset ≤ before + t.text.length
  | _, .number gap numeral, before, r => by
    intro h
    rw [Phrase.evaluation, orRefuse_eq_error] at h
    obtain ⟨-, rfl⟩ := h
    have hdigits := List.length_pos_iff.2 numeral.ne_nil
    rw [Phrase.text, List.length_append]
    dsimp only
    omega
  | _, .group opening inner closing, before, r => by
    intro h
    have hinner := inner.refusal_bounds _ h
    rw [Phrase.length_group]
    omega
  | _, .bare primary, before, r => by
    intro h
    exact primary.refusal_bounds _ h
  | _, .opposite gap inner, before, r => by
    intro h
    rw [Phrase.length_opposite]
    rcases Phrase.evaluation_opposite_eq_error h with hinner | rfl
    · have := inner.refusal_bounds _ hinner
      omega
    · dsimp only
      omega
  | _, .chain first links, before, r => by
    intro h
    rw [Phrase.text, List.length_append]
    rcases Phrase.evaluation_chain_eq_error h with hfirst | ⟨m, -, hlinks⟩
    · have := first.refusal_bounds _ hfirst
      omega
    · have hpos := first.length_pos
      have := links.refusal_bounds _ _ (Nat.le_refl _) hlinks
      omega

theorem Links.refusal_bounds : ∀ {tier : Tier} (links : Links tier) (stop before : Nat) {m : Int} {r : Refusal},
    before + links.text.length ≤ stop → links.evaluationFrom stop before m = .error r →
      before < r.offset ∧ r.offset ≤ stop
  | _, .nil, stop, before, m, r => by
    intro _ h
    cases h
  | _, .cons gap op _ member more, stop, before, m, r => by
    intro hstop h
    rw [Links.length_cons] at hstop
    rcases Links.evaluationFrom_cons_eq_error h with hmember | ⟨n, -, ⟨-, rfl⟩ | ⟨result, -, hmore⟩⟩
    · have := member.refusal_bounds _ hmember
      omega
    · dsimp only
      omega
    · have := more.refusal_bounds _ _ (by omega) hmore
      omega

end

/-! ## Refusals in front -/

def Links.Valued : {tier : Tier} → Links tier → Prop
  | _, .nil => True
  | _, .cons _ _ _ member more => member.value.isSome ∧ more.Valued

/-- Along the first members of chains and through parentheses there is a chain whose members have values and which
itself has none. -/
def Phrase.RefusedInFront : {kind : Kind} → Phrase kind → Prop
  | _, .number _ _ => False
  | _, .group _ inner _ => inner.RefusedInFront
  | _, .bare primary => primary.RefusedInFront
  | _, .opposite _ _ => False
  | _, .chain first links =>
    match first.value with
    | some m => links.Valued ∧ links.valueFrom m = none
    | none => first.RefusedInFront

theorem Phrase.refusedInFront_of_value {tier : Tier} {first : Phrase tier.member} {links : Links tier} {m : Int}
    (h : first.value = some m) : (Phrase.chain first links).RefusedInFront ↔ links.Valued ∧ links.valueFrom m = none := by
  rw [Phrase.RefusedInFront, h]

theorem Phrase.refusedInFront_of_none {tier : Tier} {first : Phrase tier.member} {links : Links tier}
    (h : first.value = none) : (Phrase.chain first links).RefusedInFront ↔ first.RefusedInFront := by
  rw [Phrase.RefusedInFront, h]

instance Links.decidableValued : ∀ {tier : Tier} (links : Links tier), Decidable links.Valued
  | _, .nil => inferInstanceAs (Decidable True)
  | _, .cons _ _ _ member more =>
    have := more.decidableValued
    inferInstanceAs (Decidable (member.value.isSome ∧ more.Valued))

instance Phrase.decidableRefusedInFront : ∀ {kind : Kind} (t : Phrase kind), Decidable t.RefusedInFront
  | _, .number _ _ => inferInstanceAs (Decidable False)
  | _, .group _ inner _ => inner.decidableRefusedInFront
  | _, .bare primary => primary.decidableRefusedInFront
  | _, .opposite _ _ => inferInstanceAs (Decidable False)
  | _, .chain first _ =>
    match h : first.value with
    | some _ => decidable_of_iff _ (Phrase.refusedInFront_of_value h).symm
    | none =>
      have := first.decidableRefusedInFront
      decidable_of_iff _ (Phrase.refusedInFront_of_none h).symm

end Parsing.Calculator
