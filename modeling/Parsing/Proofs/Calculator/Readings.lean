import Parsing.Proofs.Calculator.Refusals
/-!
# Readings — what becomes of a phrase that is read

A parser of the calculator that is given a phrase need not match it: it may match a front part of it, or fail.
`Phrase.reading` says which, from the tree alone.  Two rules make it up.  A choice keeps the failure of its last
alternative only, so a refused number is told as a missing parenthesis, and so is a refused negation.  A loop ends at
the first failure, so a chain whose member fails is evaluated without that member and what is behind it.

A phrase with a value is read whole, and no other is (`Phrase.whole?_reading`).  The refusal of a phrase without one is
told where it belongs if it comes in front (`Phrase.reading_of_refusedInFront`); if not, the reading has come to its end
before that place (`Phrase.reading_endsBefore`).
-/
namespace Parsing.Calculator

open Decimal (nat)

/-- What becomes of a phrase: all of it is matched, or a part of it that stops before the sign of an operator, or none.
Places are counted in characters of the line. -/
inductive Reading where
  | whole (v : Int)
  | cut (v : Int) (stop sign : Nat)
  | refused (cause : TextCause) (place : Nat)
deriving DecidableEq

/-- What a loop over links matches, where it stops, and the sign it could not go on with. -/
structure Run where
  pairs : List (Operator × Int)
  stop : Nat
  sign? : Option Nat

namespace Reading

def whole? : Reading → Option Int
  | whole v => some v
  | cut _ _ _ => none
  | refused _ _ => none

/-- A value, or else a character missed at a place. -/
def orMissing (c : Char) (place : Nat) : Option Int → Reading
  | some v => whole v
  | none => refused (.expected c) place

def enclosed : Reading → Reading
  | whole v => whole v
  | cut _ _ sign => refused (.expected ')') sign
  | refused cause place => refused cause place

def followed (conclude : Int → Reading) : Reading → Reading
  | whole m => conclude m
  | cut v stop sign => cut v stop sign
  | refused cause place => refused cause place

/-- What becomes of a link and those behind it, by its member: `before` stands before the link and `sign` before its
operator. -/
def linked (op : Operator) (before sign : Nat) (rest : Run) : Reading → Run
  | whole n => ⟨(op, n) :: rest.pairs, rest.stop, rest.sign?⟩
  | cut n stop next => ⟨[(op, n)], stop, some next⟩
  | refused _ _ => ⟨[], before, some sign⟩

end Reading

def Run.conclude (run : Run) (m : Int) : Reading :=
  match evaluateChain m run.pairs, run.sign? with
  | .ok v, none => .whole v
  | .ok v, some sign => .cut v run.stop sign
  | .error reason, _ => .refused (.custom reason.message) run.stop

mutual

/-- What becomes of a phrase with so many characters before it. -/
def Phrase.reading : {kind : Kind} → Phrase kind → Nat → Reading
  | _, .number gap numeral, before => .orMissing '(' (before + gap.chars.length) (inRange (nat numeral.digits))
  | _, .group opening inner _, before => (inner.reading (before + (opening.chars.length + 1))).enclosed
  | _, .bare primary, before => primary.reading before
  | _, .opposite gap inner, before =>
    .orMissing '(' (before + gap.chars.length)
      ((inner.reading (before + (gap.chars.length + 1))).whole?.bind fun n => inRange (-n))
  | _, .chain first links, before =>
    (first.reading before).followed (links.run (before + first.text.length)).conclude

def Links.run : {tier : Tier} → Links tier → Nat → Run
  | _, .nil, before => ⟨[], before, none⟩
  | _, .cons gap op _ member more, before =>
    (member.reading (before + (gap.chars.length + 1))).linked op before (before + gap.chars.length)
      (more.run (before + (gap.chars.length + 1) + member.text.length))

end

/-! ## Read whole -/

theorem Reading.eq_whole_of_whole? {reading : Reading} {v : Int} (h : reading.whole? = some v) : reading = whole v := by
  cases reading with
  | whole n => exact congrArg whole (Option.some.inj h)
  | cut n stop sign => cases h
  | refused cause place => cases h

theorem Reading.whole?_orMissing (c : Char) (place : Nat) : ∀ o : Option Int, (orMissing c place o).whole? = o
  | some _ => rfl
  | none => rfl

theorem Reading.whole?_enclosed (reading : Reading) : reading.enclosed.whole? = reading.whole? := by
  cases reading <;> rfl

theorem Reading.whole?_followed (conclude : Int → Reading) (reading : Reading) :
    (reading.followed conclude).whole? = reading.whole?.bind fun m => (conclude m).whole? := by
  cases reading <;> rfl

theorem Run.whole?_conclude_of_sign {run : Run} {sign : Nat} (h : run.sign? = some sign) (m : Int) :
    (run.conclude m).whole? = none := by
  unfold conclude
  rw [h]
  cases evaluateChain m run.pairs <;> rfl

theorem Run.conclude_linked {op : Operator} {m n result : Int} (h : op.apply m n = .ok result) (before sign : Nat)
    (run : Run) : ((Reading.whole n).linked op before sign run).conclude m = run.conclude result := by
  unfold conclude
  rw [Reading.linked, evaluateChain, h]

theorem Run.conclude_linked_of_error {op : Operator} {m n : Int} {reason : ArithmeticError}
    (h : op.apply m n = .error reason) (before sign : Nat) (run : Run) :
    ((Reading.whole n).linked op before sign run).conclude m = .refused (.custom reason.message) run.stop := by
  unfold conclude
  rw [Reading.linked, evaluateChain, h]

mutual

/-- **A phrase is read whole if it has a value**, as that value, and only then. -/
theorem Phrase.whole?_reading : ∀ {kind : Kind} (t : Phrase kind) (before : Nat),
    (t.reading before).whole? = t.value
  | _, .number gap numeral, before => by rw [Phrase.reading, Reading.whole?_orMissing, Phrase.value]
  | _, .group opening inner _, before => by
    rw [Phrase.reading, Reading.whole?_enclosed, inner.whole?_reading, Phrase.value]
  | _, .bare primary, before => by rw [Phrase.reading, primary.whole?_reading, Phrase.value]
  | _, .opposite gap inner, before => by
    rw [Phrase.reading, Reading.whole?_orMissing, inner.whole?_reading, Phrase.value]
  | _, .chain first links, before => by
    rw [Phrase.reading, Reading.whole?_followed, first.whole?_reading, Phrase.value]
    cases hfirst : first.value with
    | none => rfl
    | some m => exact links.whole?_conclude _ (first.fits_of_value hfirst)

theorem Links.whole?_conclude : ∀ {tier : Tier} (links : Links tier) (before : Nat) {m : Int}, Fits m →
    ((links.run before).conclude m).whole? = links.valueFrom m
  | _, .nil, before, m, _ => rfl
  | _, .cons gap op _ member more, before, m, hm => by
    have hmember := member.whole?_reading (before + (gap.chars.length + 1))
    rw [Links.run, Links.valueFrom, ← hmember]
    cases member.reading (before + (gap.chars.length + 1)) with
    | whole n =>
      show _ = (op.result? m n).bind more.valueFrom
      cases hresult : op.result? m n with
      | some result =>
        rw [Run.conclude_linked ((Operator.apply_eq_ok hm).2 hresult)]
        exact more.whole?_conclude _ (Operator.fits_of_result hresult)
      | none =>
        rw [Run.conclude_linked_of_error (Operator.apply_of_result_eq_none hm hresult)]
        rfl
    | cut n stop sign => exact Run.whole?_conclude_of_sign rfl m
    | refused cause place => exact Run.whole?_conclude_of_sign rfl m

end

theorem Phrase.reading_of_value {kind : Kind} (t : Phrase kind) {v : Int} (h : t.value = some v) (before : Nat) :
    t.reading before = .whole v :=
  Reading.eq_whole_of_whole? ((t.whole?_reading before).trans h)

/-! ## Refused in front -/

/-- A run over members with values goes to the end of the links. -/
theorem Links.run_of_valued : ∀ {tier : Tier} (links : Links tier) (before : Nat), links.Valued →
    (links.run before).sign? = none ∧ (links.run before).stop = before + links.text.length
  | _, .nil, before, _ => ⟨rfl, rfl⟩
  | _, .cons gap op htier member more, before, h => by
    obtain ⟨hmember, hmore⟩ := h
    obtain ⟨n, hn⟩ := Option.isSome_iff_exists.1 hmember
    obtain ⟨hsign, hstop⟩ := more.run_of_valued (before + (gap.chars.length + 1) + member.text.length) hmore
    rw [Links.run, member.reading_of_value hn, Links.length_cons]
    exact ⟨hsign, hstop.trans (by omega)⟩

theorem Links.conclude_of_valued : ∀ {tier : Tier} (links : Links tier) (before : Nat) {m : Int} {r : Refusal},
    links.Valued → Fits m → links.evaluationFrom (before + links.text.length) before m = .error r →
      r.site = .chain ∧ (links.run before).conclude m = .refused (.custom r.reason.message) r.offset
  | _, .nil, before, m, r => by
    intro _ _ h
    cases h
  | _, .cons gap op htier member more, before, m, r => by
    intro hvalued hm h
    obtain ⟨hmember, hmore⟩ := hvalued
    have hstop := (more.run_of_valued (before + (gap.chars.length + 1) + member.text.length) hmore).2
    rw [Links.length_cons, ← Nat.add_assoc, ← Nat.add_assoc] at h
    rcases Links.evaluationFrom_cons_eq_error h with hrefused | ⟨n, hn, ⟨hresult, rfl⟩ | ⟨result, hresult, hrefused⟩⟩
    · rw [member.value_of_refusal hrefused] at hmember
      cases hmember
    · rw [Links.run, member.reading_of_value hn,
        Run.conclude_linked_of_error (Operator.apply_of_result_eq_none hm hresult), hstop]
      exact ⟨rfl, rfl⟩
    · rw [Links.run, member.reading_of_value hn, Run.conclude_linked ((Operator.apply_eq_ok hm).2 hresult)]
      exact more.conclude_of_valued _ hmore (Operator.fits_of_result hresult) hrefused

/-- **A refusal in front is told where it belongs.** -/
theorem Phrase.reading_of_refusedInFront : ∀ {kind : Kind} (t : Phrase kind) (before : Nat) {r : Refusal},
    t.RefusedInFront → t.evaluation before = .error r →
      r.site = .chain ∧ t.reading before = .refused (.custom r.reason.message) r.offset
  | _, .number _ _, before => by
    intro hfront _
    exact hfront.elim
  | _, .group opening inner _, before => by
    intro hfront h
    obtain ⟨hsite, hinner⟩ := inner.reading_of_refusedInFront _ hfront h
    rw [Phrase.reading, hinner]
    exact ⟨hsite, rfl⟩
  | _, .bare primary, before => by
    intro hfront h
    rw [Phrase.reading]
    exact primary.reading_of_refusedInFront _ hfront h
  | _, .opposite _ _, before => by
    intro hfront _
    exact hfront.elim
  | _, .chain first links, before => by
    intro hfront h
    rw [Phrase.reading]
    rcases Phrase.evaluation_chain_eq_error h with hfirst | ⟨m, hm, hlinks⟩
    · rw [Phrase.refusedInFront_of_none (first.value_of_refusal hfirst)] at hfront
      obtain ⟨hsite, hreading⟩ := first.reading_of_refusedInFront _ hfront hfirst
      rw [hreading]
      exact ⟨hsite, rfl⟩
    · rw [Phrase.refusedInFront_of_value hm] at hfront
      rw [first.reading_of_value hm]
      exact links.conclude_of_valued _ hfront.1 (first.fits_of_value hm) hlinks

/-! ## What a refused reading is told for -/

theorem eq_refusal_of_evaluateChain {reason : ArithmeticError} : ∀ (pairs : List (Operator × Int)) {m : Int},
    evaluateChain m pairs = .error reason → ∃ (op : Operator) (n : Int), reason = op.refusal n
  | [], _, h => by cases h
  | (op, n) :: pairs, m, h => by
    rw [evaluateChain] at h
    cases happly : op.apply m n with
    | ok result =>
      rw [happly] at h
      exact eq_refusal_of_evaluateChain pairs h
    | error found =>
      rw [happly] at h
      cases h
      exact ⟨op, n, Operator.eq_refusal_of_apply happly⟩

/-- A cause that a phrase can be refused for: a parenthesis that is missed, or an operator of some chain. -/
def Told (cause : TextCause) : Prop :=
  cause = .expected '(' ∨ cause = .expected ')' ∨ ∃ (op : Operator) (n : Int), cause = .custom (op.refusal n).message

/-- **Nothing else is told**, whatever the phrase was refused for. -/
theorem Phrase.told_of_reading : ∀ {kind : Kind} (t : Phrase kind) (before : Nat) {cause : TextCause} {found : Nat},
    t.reading before = .refused cause found → Told cause
  | _, .number gap numeral, before, cause, found => by
    intro h
    rw [Phrase.reading] at h
    cases hrange : inRange (nat numeral.digits) <;> rw [hrange] at h <;> cases h
    exact Or.inl rfl
  | _, .group opening inner _, before, cause, found => by
    intro h
    rw [Phrase.reading] at h
    cases hinner : inner.reading (before + (opening.chars.length + 1)) with
    | whole v => rw [hinner] at h; cases h
    | cut v stop sign =>
      rw [hinner] at h
      cases h
      exact Or.inr (Or.inl rfl)
    | refused inner' place =>
      rw [hinner] at h
      cases h
      exact inner.told_of_reading _ hinner
  | _, .bare primary, before, cause, found => primary.told_of_reading before
  | _, .opposite gap inner, before, cause, found => by
    intro h
    rw [Phrase.reading, inner.whole?_reading] at h
    cases hvalue : inner.value.bind fun n => inRange (-n) <;> rw [hvalue] at h <;> cases h
    exact Or.inl rfl
  | _, .chain first links, before, cause, found => by
    intro h
    rw [Phrase.reading] at h
    cases hfirst : first.reading before with
    | whole m =>
      rw [hfirst, Reading.followed, Run.conclude] at h
      split at h
      · cases h
      · cases h
      · rename_i reason hreason
        cases h
        obtain ⟨op, n, rfl⟩ := eq_refusal_of_evaluateChain _ hreason
        exact Or.inr (Or.inr ⟨op, n, rfl⟩)
    | cut v stop sign => rw [hfirst] at h; cases h
    | refused cause' place =>
      rw [hfirst] at h
      cases h
      exact first.told_of_reading _ hfirst

/-! ## Refused further on -/

/-- A reading that is not whole, at its end before a place. -/
def Reading.EndsBefore (place : Nat) : Reading → Prop
  | whole _ => False
  | cut _ stop sign => stop < place ∧ sign < place
  | refused _ found => found < place

/-- A run that does not go to the end of its links, at its end before a place. -/
def Run.EndsBefore (place : Nat) (run : Run) : Prop := ∃ sign, run.sign? = some sign ∧ run.stop < place ∧ sign < place

theorem Reading.EndsBefore.enclosed {place : Nat} : ∀ {reading : Reading}, reading.EndsBefore place →
    reading.enclosed.EndsBefore place
  | cut _ _ _, h => h.2
  | refused _ _, h => h

theorem Reading.EndsBefore.followed {place : Nat} (conclude : Int → Reading) : ∀ {reading : Reading},
    reading.EndsBefore place → (reading.followed conclude).EndsBefore place
  | cut _ _ _, h => h
  | refused _ _, h => h

theorem Run.EndsBefore.conclude {place : Nat} {run : Run} (h : run.EndsBefore place) (m : Int) :
    (run.conclude m).EndsBefore place := by
  obtain ⟨sign, hsign, hstop, hlt⟩ := h
  unfold Run.conclude
  rw [hsign]
  cases evaluateChain m run.pairs with
  | ok v => exact ⟨hstop, hlt⟩
  | error reason => exact hstop

theorem Run.EndsBefore.mono {place further : Nat} {run : Run} (h : run.EndsBefore place) (hle : place ≤ further) :
    run.EndsBefore further := by
  obtain ⟨sign, hsign, hstop, hlt⟩ := h
  exact ⟨sign, hsign, by omega, by omega⟩

theorem Links.run_of_refusal {tier : Tier} (gap : Gap) (op : Operator) (htier : op.tier = tier)
    (member : Phrase tier.member) (more : Links tier) {before : Nat} {r : Refusal}
    (h : member.evaluation (before + (gap.chars.length + 1)) = .error r)
    (hshort : ¬ member.RefusedInFront → (member.reading (before + (gap.chars.length + 1))).EndsBefore r.offset) :
    ((Links.cons gap op htier member more).run before).EndsBefore r.offset := by
  have hbounds := (member.refusal_bounds _ h).1
  have hrefused : Run.EndsBefore r.offset ⟨[], before, some (before + gap.chars.length)⟩ :=
    ⟨_, rfl, by dsimp only; omega, by omega⟩
  rw [Links.run]
  by_cases hfront : member.RefusedInFront
  · rw [(member.reading_of_refusedInFront _ hfront h).2]
    exact hrefused
  · have hends := hshort hfront
    cases hreading : member.reading (before + (gap.chars.length + 1)) with
    | whole n => rw [hreading] at hends; exact hends.elim
    | cut n stop sign =>
      rw [hreading] at hends
      exact ⟨sign, rfl, hends.1, hends.2⟩
    | refused cause place => exact hrefused

mutual

/-- **Where a refusal does not come in front, the reading ends before the place where it belongs.** -/
theorem Phrase.reading_endsBefore : ∀ {kind : Kind} (t : Phrase kind) (before : Nat) {r : Refusal},
    ¬ t.RefusedInFront → t.evaluation before = .error r → (t.reading before).EndsBefore r.offset
  | _, .number gap numeral, before, r => by
    intro _ h
    rw [Phrase.evaluation, orRefuse_eq_error] at h
    have hdigits := List.length_pos_iff.2 numeral.ne_nil
    have hplace : before + gap.chars.length < r.offset := by
      rw [← h.2]
      dsimp only
      omega
    rw [Phrase.reading, h.1]
    exact hplace
  | _, .group opening inner _, before, r => by
    intro hfront h
    rw [Phrase.reading]
    exact (inner.reading_endsBefore _ hfront h).enclosed
  | _, .bare primary, before, r => by
    intro hfront h
    rw [Phrase.reading]
    exact primary.reading_endsBefore _ hfront h
  | _, .opposite gap inner, before, r => by
    intro _ h
    have hnone := (Phrase.opposite gap inner).value_of_refusal h
    have hplace : before + gap.chars.length < r.offset := by
      rcases Phrase.evaluation_opposite_eq_error h with hinner | rfl
      · have := (inner.refusal_bounds _ hinner).1
        omega
      · dsimp only
        omega
    rw [Phrase.value] at hnone
    rw [Phrase.reading, inner.whole?_reading, hnone]
    exact hplace
  | _, .chain first links, before, r => by
    intro hfront h
    rw [Phrase.reading]
    rcases Phrase.evaluation_chain_eq_error h with hfirst | ⟨m, hm, hlinks⟩
    · rw [Phrase.refusedInFront_of_none (first.value_of_refusal hfirst)] at hfront
      exact (first.reading_endsBefore _ hfront hfirst).followed _
    · rw [Phrase.refusedInFront_of_value hm] at hfront
      rw [first.reading_of_value hm]
      have hvalued : ¬ links.Valued := fun hvalued => hfront ⟨hvalued, links.valueFrom_of_refusal hlinks⟩
      exact ((links.run_endsBefore _ hvalued).2 _ (Nat.le_refl _) hlinks).conclude m

theorem Links.run_endsBefore : ∀ {tier : Tier} (links : Links tier) (before : Nat), ¬ links.Valued →
    (links.run before).EndsBefore (before + links.text.length) ∧
      ∀ (stop : Nat) {m : Int} {r : Refusal}, before + links.text.length ≤ stop →
        links.evaluationFrom stop before m = .error r → (links.run before).EndsBefore r.offset
  | _, .nil, before => fun h => absurd trivial h
  | _, .cons gap op htier member more, before => by
    intro h
    rw [Links.length_cons, ← Nat.add_assoc, ← Nat.add_assoc]
    cases hmember : member.evaluation (before + (gap.chars.length + 1)) with
    | ok n =>
      have hn := (member.evaluation_eq_ok _).1 hmember
      have hmore : ¬ more.Valued := fun hmore => h ⟨by rw [hn]; rfl, hmore⟩
      obtain ⟨hend, hrefusal⟩ := more.run_endsBefore (before + (gap.chars.length + 1) + member.text.length) hmore
      rw [Links.run, member.reading_of_value hn]
      refine ⟨hend, fun stop m r hstop h => ?_⟩
      rcases Links.evaluationFrom_cons_eq_error h with hrefused | ⟨_, -, ⟨-, rfl⟩ | ⟨result, -, hrefused⟩⟩
      · rw [hmember] at hrefused
        cases hrefused
      · -- The chain is refused at its end, which the rest of the run does not come to.
        exact hend.mono hstop
      · exact hrefusal stop hstop hrefused
    | error refusal =>
      have hrun := Links.run_of_refusal gap op htier member more hmember fun hfront =>
        member.reading_endsBefore _ hfront hmember
      have hbounds := (member.refusal_bounds _ hmember).2
      refine ⟨hrun.mono (by omega), fun stop m r _ h => ?_⟩
      rw [Links.evaluationFrom, hmember] at h
      cases h
      exact hrun

end

end Parsing.Calculator
