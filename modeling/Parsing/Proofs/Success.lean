import Parsing.Proofs.Distinct
import Parsing.Proofs.Orderly
/-!
# Success — when combinators succeed, and when loops do

Each combinator succeeds under a condition on the successes of its parts, which an iff states.  A loop goes along a row
of matches, each begun where the one before ended (`Parser.Row`).  Whatever a loop yields is such a row, and where a
parser always moves on, the loop without an upper bound goes along the whole row up to the first failure
(`Parser.repeated_of_row`).
-/
namespace Parsing

open Cursor (Distinct Reaches after left samePosition symbols)

variable {ι σ κ α β ζ : Type}

namespace Outcome

theorem andThen_eq_success {o : Outcome κ ι α} {next : α → ι → Outcome κ ι β} {result : β} {rest : ι} :
    o.andThen next = .success result rest ↔
      ∃ value between, o = .success value between ∧ next value between = .success result rest := by
  cases o with
  | success value between =>
    constructor
    · exact fun h => ⟨value, between, rfl, h⟩
    · rintro ⟨_, _, ⟨⟩, h⟩
      exact h
  | failure fault input => simp
  | aborted why => simp

theorem map_eq_success {o : Outcome κ ι α} {f : α → β} {result : β} {rest : ι} :
    o.map f = .success result rest ↔ ∃ value, o = .success value rest ∧ f value = result := by
  rw [map, andThen_eq_success]
  constructor
  · rintro ⟨value, _, h, ⟨⟩⟩
    exact ⟨value, h, rfl⟩
  · rintro ⟨value, h, rfl⟩
    exact ⟨value, rest, h, rfl⟩

theorem restoring_eq_success {o : Outcome κ ι α} {input rest : ι} {result : α} :
    o.restoring input = .success result rest ↔ o = .success result rest := by
  cases o <;> simp [restoring]

theorem recover_eq_success {o : Outcome κ ι α} {next : ι → Outcome κ ι α} {result : α} {rest : ι} :
    o.recover next = .success result rest ↔
      o = .success result rest ∨ ∃ fault input, o = .failure fault input ∧ next input = .success result rest := by
  cases o with
  | success value between => simp [recover]
  | failure fault input =>
    constructor
    · exact fun h => Or.inr ⟨fault, input, rfl, h⟩
    · rintro (h | ⟨_, _, ⟨⟩, h⟩)
      · cases h
      · exact h
  | aborted why => simp [recover]

end Outcome

namespace Parser

variable {p q : Parser ι κ α} {r : Parser ι κ β} {x rest : ι} {value : α} {result : β}

theorem map_eq_success {f : α → β} :
    p.map f x = .success result rest ↔ ∃ value, p x = .success value rest ∧ f value = result :=
  Outcome.map_eq_success

theorem withValue_eq_success :
    p.withValue result x = .success result rest ↔ ∃ value, p x = .success value rest := by
  rw [withValue, map_eq_success]
  simp

theorem eq_of_withValue_eq_success {given : β} (h : p.withValue given x = .success result rest) : given = result := by
  obtain ⟨_, -, h⟩ := map_eq_success.1 h
  exact h

theorem tryMap_eq_success [Seed ζ κ] {f : α → Except ζ β} :
    p.tryMap f x = .success result rest ↔ ∃ value, p x = .success value rest ∧ f value = .ok result := by
  rw [tryMap, Outcome.andThen_eq_success]
  constructor
  · rintro ⟨value, between, h, hf⟩
    cases hv : f value with
    | ok w =>
      rw [hv] at hf
      cases hf
      exact ⟨value, h, hv⟩
    | error seed => rw [hv] at hf; cases hf
  · rintro ⟨value, h, hf⟩
    exact ⟨value, rest, h, by rw [hf]⟩

theorem andThen_eq_success {both : α × β} :
    p.andThen r x = .success both rest ↔
      ∃ between, p x = .success both.1 between ∧ r between = .success both.2 rest := by
  rw [andThen, Outcome.andThen_eq_success]
  constructor
  · rintro ⟨value, between, h, hr⟩
    obtain ⟨second, hs, rfl⟩ := Outcome.map_eq_success.1 hr
    exact ⟨between, h, Outcome.restoring_eq_success.1 hs⟩
  · rintro ⟨between, h, hr⟩
    exact ⟨both.1, between, h, Outcome.map_eq_success.2 ⟨both.2, Outcome.restoring_eq_success.2 hr, rfl⟩⟩

theorem skipThen_eq_success :
    p.skipThen r x = .success result rest ↔
      ∃ value between, p x = .success value between ∧ r between = .success result rest := by
  simp only [skipThen, Outcome.andThen_eq_success, Outcome.restoring_eq_success]

theorem thenSkip_eq_success :
    p.thenSkip r x = .success value rest ↔
      ∃ between skipped, p x = .success value between ∧ r between = .success skipped rest := by
  rw [thenSkip, Outcome.andThen_eq_success]
  constructor
  · rintro ⟨w, between, h, hr⟩
    obtain ⟨skipped, hs, rfl⟩ := Outcome.map_eq_success.1 hr
    exact ⟨between, skipped, h, Outcome.restoring_eq_success.1 hs⟩
  · rintro ⟨between, skipped, h, hr⟩
    exact ⟨value, between, h, Outcome.map_eq_success.2 ⟨skipped, Outcome.restoring_eq_success.2 hr, rfl⟩⟩

theorem orElse_of_success (h : p x = .success value rest) (q : Parser ι κ α) :
    p.orElse q x = .success value rest :=
  Outcome.recover_eq_success.2 (Or.inl h)

/-- The parser fails at the cursor, for whatever cause. -/
def Fails (p : Parser ι κ α) (x : ι) : Prop := ∃ fault input, p x = .failure fault input

theorem Fails.map (h : p.Fails x) (f : α → β) : (p.map f).Fails x := by
  obtain ⟨fault, input, h⟩ := h
  exact ⟨fault, input, by rw [Parser.map, h, Outcome.map_failure]⟩

theorem Fails.tryMap [Seed ζ κ] (h : p.Fails x) (f : α → Except ζ β) : (p.tryMap f).Fails x := by
  obtain ⟨fault, input, h⟩ := h
  exact ⟨fault, input, by rw [Parser.tryMap, h, Outcome.andThen_failure]⟩

theorem Fails.andThen (h : p.Fails x) (r : Parser ι κ β) : (p.andThen r).Fails x := by
  obtain ⟨fault, input, h⟩ := h
  exact ⟨fault, input, by rw [Parser.andThen, h, Outcome.andThen_failure]⟩

theorem Fails.skipThen (h : p.Fails x) (r : Parser ι κ β) : (p.skipThen r).Fails x := by
  obtain ⟨fault, input, h⟩ := h
  exact ⟨fault, input, by rw [Parser.skipThen, h, Outcome.andThen_failure]⟩

theorem Fails.recognize (h : p.Fails x) : p.recognize.Fails x := by
  obtain ⟨fault, input, h⟩ := h
  exact ⟨fault, input, by rw [Parser.recognize, h, Outcome.andThen_failure]⟩

theorem fails_skipThen {between : ι} (h : p x = .success value between) (hr : r.Fails between) :
    (p.skipThen r).Fails x := by
  obtain ⟨fault, input, hr⟩ := hr
  exact ⟨fault, x, by rw [skipThen, h, Outcome.andThen_success, hr, Outcome.restoring_failure]⟩

/-- A match whose value is rejected is a failure. -/
theorem fails_tryMap [Seed ζ κ] {f : α → Except ζ β} (h : p x = .success value rest) (hf : ∀ v, f value ≠ .ok v) :
    (p.tryMap f).Fails x := by
  cases hv : f value with
  | ok v => exact absurd hv (hf v)
  | error seed => exact ⟨_, _, by rw [Parser.tryMap, h, Outcome.andThen_success, hv]⟩

theorem fails_andThen {between : ι} (h : p x = .success value between) (hr : r.Fails between) :
    (p.andThen r).Fails x := by
  obtain ⟨fault, input, hr⟩ := hr
  exact ⟨fault, x, by
    rw [Parser.andThen, h, Outcome.andThen_success, hr, Outcome.restoring_failure, Outcome.map_failure]⟩

variable [Cursor ι σ]

theorem complete_eq_success [Cause κ] :
    p.complete x = .success value rest ↔ p x = .success value rest ∧ Cursor.isEmpty rest = true := by
  rw [complete, Outcome.andThen_eq_success]
  constructor
  · rintro ⟨w, between, h, hr⟩
    split at hr
    · rename_i he
      cases hr
      exact ⟨h, he⟩
    · cases hr
  · rintro ⟨h, he⟩
    exact ⟨value, rest, h, if_pos he⟩

theorem complete_of_more [Cause κ] (h : p x = .success value rest) (hmore : Cursor.isEmpty rest = false) :
    p.complete x = .failure ⟨Cause.endExpected, rest⟩ x := by
  rw [complete, h, Outcome.andThen_success, hmore, if_neg Bool.false_ne_true]

/-- **The second of two alternatives is tried from the same cursor**, where the first one fails. -/
theorem orElse_eq_success {parts : Parts ι α} (hp : p.Orderly parts) :
    p.orElse q x = .success value rest ↔
      p x = .success value rest ∨ ∃ fault, p x = .failure fault x ∧ q x = .success value rest := by
  have ho := hp x
  refine Outcome.recover_eq_success.trans ?_
  constructor
  · rintro (h | ⟨fault, input, h, hq⟩)
    · exact Or.inl h
    · rw [h] at ho
      rw [ho.1] at h hq
      exact Or.inr ⟨fault, h, hq⟩
  · rintro (h | ⟨fault, h, hq⟩)
    · exact Or.inl h
    · exact Or.inr ⟨fault, x, h, hq⟩

theorem orElse_eq_of_fails {parts : Parts ι α} (hp : p.Orderly parts) (h : p.Fails x) : p.orElse q x = q x := by
  obtain ⟨fault, input, h⟩ := h
  exact ((hp x).recover_eq q).trans (by rw [h, Outcome.recover])

theorem Fails.orElse {parts : Parts ι α} (hp : p.Orderly parts) (h : p.Fails x) (hq : q.Fails x) :
    (p.orElse q).Fails x := by
  obtain ⟨fault, input, hq⟩ := hq
  exact ⟨fault, input, by rw [orElse_eq_of_fails hp h, hq]⟩

/-! ## One symbol -/

theorem next_of_symbols_cons {a : σ} {as : List σ} (h : symbols x = a :: as) :
    Cursor.next x = some (a, after 1 x) ∧ symbols (after 1 x) = as := by
  cases hn : Cursor.next x with
  | none => rw [Cursor.symbols_of_next_eq_none hn] at h; cases h
  | some step =>
    obtain ⟨b, y⟩ := step
    have hy : after 1 x = y := by rw [Cursor.after_succ_of_some hn, Cursor.after_zero]
    rw [Cursor.symbols_of_next_eq_some hn] at h
    obtain ⟨rfl, hs⟩ := List.cons.inj h
    rw [hy]
    exact ⟨rfl, hs⟩

theorem satisfying_eq_success [Cause κ] {holds : σ → Bool} {a : σ} :
    (satisfying holds : Parser ι κ σ) x = .success a rest ↔ Cursor.next x = some (a, rest) ∧ holds a = true := by
  unfold satisfying
  cases Cursor.next x with
  | none => simp
  | some step =>
    obtain ⟨b, y⟩ := step
    dsimp only
    split
    · rename_i hb
      constructor
      · rintro ⟨⟩
        exact ⟨rfl, hb⟩
      · rintro ⟨⟨⟩, -⟩
        rfl
    · rename_i hb
      constructor
      · rintro ⟨⟩
      · rintro ⟨⟨⟩, ha⟩
        exact absurd ha hb

/-- Where no symbol satisfies the predicate, the parser fails on the spot. -/
theorem satisfying_eq_failure [Cause κ] {holds : σ → Bool} (h : ∀ a ∈ (symbols x).head?, holds a = false) :
    (satisfying holds : Parser ι κ σ) x =
      .failure ⟨if (symbols x).isEmpty then Cause.moreNeeded else Cause.invalid, x⟩ x := by
  unfold satisfying
  cases hn : Cursor.next x with
  | none => rw [Cursor.symbols_of_next_eq_none hn]; rfl
  | some step =>
    obtain ⟨a, y⟩ := step
    rw [Cursor.symbols_of_next_eq_some hn] at h ⊢
    have ha : holds a = false := h a rfl
    dsimp only
    rw [ha]
    rfl

theorem exactly_eq_success [DecidableEq σ] {expected a : σ} {cause : κ} :
    exactly expected cause x = .success a rest ↔ Cursor.next x = some (a, rest) ∧ a = expected := by
  unfold exactly
  cases Cursor.next x with
  | none => simp
  | some step =>
    obtain ⟨b, y⟩ := step
    dsimp only
    split
    · rename_i hb
      constructor
      · rintro ⟨⟩
        exact ⟨rfl, hb⟩
      · rintro ⟨⟨⟩, -⟩
        rfl
    · rename_i hb
      constructor
      · rintro ⟨⟩
      · rintro ⟨⟨⟩, ha⟩
        exact absurd ha hb

theorem exactly_eq_failure [DecidableEq σ] {expected : σ} {cause : κ} (h : (symbols x).head? ≠ some expected) :
    exactly expected cause x = .failure ⟨cause, x⟩ x := by
  unfold exactly
  cases hn : Cursor.next x with
  | none => rfl
  | some step =>
    obtain ⟨a, y⟩ := step
    rw [Cursor.symbols_of_next_eq_some hn] at h
    have ha : a ≠ expected := fun heq => h (by rw [heq]; rfl)
    exact if_neg ha

/-! ## A literal -/

theorem literalFrom_of_symbols [DecidableEq σ] {cause : σ → κ} {start : ι} {tail : List σ} :
    ∀ (expected : List σ) {x : ι}, symbols x = expected ++ tail →
      literalFrom cause start expected x = .success () (after expected.length x)
  | [], _, _ => rfl
  | a :: more, x, h => by
    obtain ⟨hn, hs⟩ := next_of_symbols_cons h
    have ha : exactly a (cause a) x = .success a (after 1 x) := exactly_eq_success.2 ⟨hn, rfl⟩
    rw [literalFrom, ha, List.length_cons, Nat.add_comm, Cursor.after_add]
    exact literalFrom_of_symbols more hs

/-- **At the first symbol that differs a literal fails**, for the cause that the expected one gives. -/
theorem literalFrom_of_differs [DecidableEq σ] {cause : σ → κ} {start : ι} {a : σ} {more tail : List σ}
    (ha : tail.head? ≠ some a) : ∀ (common : List σ) {x : ι}, symbols x = common ++ tail →
      literalFrom cause start (common ++ a :: more) x = .failure ⟨cause a, after common.length x⟩ start
  | [], x, h => by
    have hfail : exactly a (cause a) x = .failure ⟨cause a, x⟩ x :=
      exactly_eq_failure (by rw [h]; exact ha)
    rw [List.nil_append, literalFrom, hfail]
    rfl
  | b :: common, x, h => by
    obtain ⟨hn, hs⟩ := next_of_symbols_cons h
    have hb : exactly b (cause b) x = .success b (after 1 x) := exactly_eq_success.2 ⟨hn, rfl⟩
    rw [List.cons_append, literalFrom, hb, List.length_cons, Nat.add_comm, Cursor.after_add]
    exact literalFrom_of_differs ha common hs

omit [Cursor ι σ] in
/-- A list begins another, or there is a place where they part. -/
theorem isPrefix_or_differs [DecidableEq σ] : ∀ (expected as : List σ), expected <+: as ∨
    ∃ common a more tail, expected = common ++ a :: more ∧ as = common ++ tail ∧ tail.head? ≠ some a
  | [], as => .inl List.nil_prefix
  | a :: more, [] => .inr ⟨[], a, more, [], rfl, rfl, nofun⟩
  | a :: more, b :: as => by
    by_cases hab : b = a
    · subst hab
      rcases isPrefix_or_differs more as with h | ⟨common, c, rest, tail, rfl, rfl, hne⟩
      · exact .inl (List.cons_prefix_cons.2 ⟨rfl, h⟩)
      · exact .inr ⟨b :: common, c, rest, tail, rfl, rfl, hne⟩
    · exact .inr ⟨[], a, more, b :: as, rfl, rfl, fun h => hab (Option.some.inj h)⟩

theorem literal_of_symbols [DecidableEq σ] {expected tail : List σ} {cause : σ → κ} (value : α)
    (h : symbols x = expected ++ tail) :
    literal expected cause value x = .success value (after expected.length x) := by
  rw [literal, literalFrom_of_symbols expected h, Outcome.map_success]

theorem fails_literal [DecidableEq σ] {expected : List σ} {cause : σ → κ} (value : α)
    (h : ¬ expected <+: symbols x) : (literal expected cause value : Parser ι κ α).Fails x := by
  obtain ⟨common, a, more, tail, rfl, hs, ha⟩ := (isPrefix_or_differs expected (symbols x)).resolve_left h
  exact ⟨_, _, by rw [literal, literalFrom_of_differs ha common hs, Outcome.map_failure]⟩

/-- **A literal matches where the symbols at hand begin with it.** -/
theorem literal_eq_success [DecidableEq σ] {expected : List σ} {cause : σ → κ} {given : α} :
    literal expected cause given x = .success value rest ↔
      value = given ∧ expected <+: symbols x ∧ rest = after expected.length x := by
  constructor
  · intro h
    rcases Classical.em (expected <+: symbols x) with ⟨tail, htail⟩ | hno
    · rw [literal_of_symbols given htail.symm] at h
      cases h
      exact ⟨rfl, ⟨tail, htail⟩, rfl⟩
    · obtain ⟨fault, input, hfails⟩ : (literal expected cause given).Fails x := fails_literal given hno
      rw [hfails] at h
      cases h
  · rintro ⟨rfl, ⟨tail, htail⟩, rfl⟩
    exact literal_of_symbols value htail.symm

/-! ## Rows of matches -/

omit [Cursor ι σ] in
/-- Matches of one parser in a row, each begun where the one before ended. -/
inductive Row (p : Parser ι κ α) : ι → List α → ι → Prop
  | nil (x : ι) : Row p x [] x
  | cons {x y rest : ι} {value : α} {values : List α} : p x = .success value y → Row p y values rest →
      Row p x (value :: values) rest

/-- **What a loop yields is a row of matches.** -/
theorem row_of_repeatedFrom {range : Repetition} {start rest : ι} :
    ∀ (rounds count : Nat) (x : ι) (values : List α),
      repeatedFrom p range start rounds count x = .success values rest → p.Row x values rest
  | 0, _, _, _, h => by cases h
  | rounds + 1, count, x, values, h => by
    unfold repeatedFrom at h
    split at h
    · cases h
      exact .nil _
    · cases ho : p x with
      | success value y =>
        rw [ho] at h
        dsimp only at h
        split at h
        · cases h
          exact .cons ho (.nil _)
        · obtain ⟨more, hm, rfl⟩ := Outcome.map_eq_success.1 h
          exact .cons ho (row_of_repeatedFrom rounds (count + 1) y more hm)
      | failure fault input =>
        rw [ho] at h
        dsimp only at h
        split at h
        · cases h
        · cases h
          exact .nil _
      | aborted why => rw [ho] at h; cases h

theorem row_of_repeated {range : Repetition} {values : List α} (h : p.repeated range x = .success values rest) :
    p.Row x values rest :=
  row_of_repeatedFrom _ _ _ _ h

/-- A parser each of whose matches takes at least a symbol. -/
def Progresses (p : Parser ι κ α) : Prop := ∀ ⦃x rest value⦄, p x = .success value rest → left rest < left x

theorem Progresses.skipThen {parts : Parts ι α} (hp : p.Orderly parts) (hr : r.Progresses) :
    (p.skipThen r).Progresses := by
  intro x rest result h
  obtain ⟨value, between, hbetween, hrest⟩ := skipThen_eq_success.1 h
  exact Nat.lt_of_lt_of_le (hr hrest) (hp.advances hbetween).left_le

theorem Row.length_le (hp : p.Progresses) {values : List α} (h : p.Row x values rest) :
    values.length + left rest ≤ left x := by
  induction h with
  | nil x => simp
  | cons ho _ ih =>
    have := hp ho
    rw [List.length_cons]
    omega

omit [Cursor ι σ] in
/-- Matches in a row can be taken apart anywhere. -/
theorem Row.exists_between {behind : List α} : ∀ {before : List α} {x : ι}, p.Row x (before ++ behind) rest →
    ∃ y, p.Row x before y ∧ p.Row y behind rest
  | [], x, h => ⟨x, .nil x, h⟩
  | _ :: _, _, .cons hfirst hrow =>
    have ⟨y, hbefore, hbehind⟩ := exists_between hrow
    ⟨y, .cons hfirst hbefore, hbehind⟩

/-- A parser that progresses and is never given up matches in a row up to a failure. -/
theorem Progresses.exists_row (hp : p.Progresses) (hruns : ∀ x, (∃ value rest, p x = .success value rest) ∨ p.Fails x)
    (x : ι) : ∃ values rest, p.Row x values rest ∧ p.Fails rest := by
  rcases hruns x with ⟨value, y, h⟩ | hfails
  · have hlt := hp h
    obtain ⟨values, rest, hrow, hrest⟩ := hp.exists_row hruns y
    exact ⟨value :: values, rest, .cons h hrow, hrest⟩
  · exact ⟨[], x, .nil x, hfails⟩
termination_by left x

/-- **A loop of a parser that progresses goes along the whole row up to the failure.** -/
theorem repeatedFrom_of_row [Distinct ι] {parts : Parts ι α} (ho : p.Orderly parts) (hp : p.Progresses) (least : Nat)
    (start : ι) {values : List α} {fault : Fault κ ι} {input : ι} (hrow : p.Row x values rest)
    (hfail : p rest = .failure fault input) : ∀ (rounds count : Nat), values.length < rounds →
      repeatedFrom p (.atLeast least) start rounds count x =
        if count + values.length < least then .failure fault start else .success values rest := by
  induction hrow with
  | nil x =>
    intro rounds count hrounds
    obtain ⟨rounds, rfl⟩ := Nat.exists_eq_succ_of_ne_zero (Nat.ne_of_gt hrounds)
    unfold repeatedFrom
    rw [if_neg (by simp [Repetition.isFull, Repetition.atLeast]), hfail]
    rfl
  | @cons x y rest value values hx _ ih =>
    intro rounds count hrounds
    obtain ⟨rounds, rfl⟩ := Nat.exists_eq_succ_of_ne_zero (Nat.ne_of_gt (Nat.zero_lt_of_lt hrounds))
    have hplace := (Cursor.Distinct.tellsApart x).not_samePosition (ho.advances hx) (hp hx)
    unfold repeatedFrom
    rw [if_neg (by simp [Repetition.isFull, Repetition.atLeast]), hx]
    dsimp only
    rw [hplace, Bool.false_and, if_neg Bool.false_ne_true, ih hfail rounds (count + 1) (by simpa using hrounds)]
    rw [List.length_cons, show count + 1 + values.length = count + (values.length + 1) by omega]
    split <;> rfl

/-- **Repeating a parser that progresses, with no upper bound, yields the row up to the first failure**, and fails with
that one where the row is too short. -/
theorem repeated_of_row [Distinct ι] {parts : Parts ι α} (ho : p.Orderly parts) (hp : p.Progresses) (least : Nat)
    {values : List α} {fault : Fault κ ι} {input : ι} (hrow : p.Row x values rest)
    (hfail : p rest = .failure fault input) :
    p.repeated (.atLeast least) x = if values.length < least then .failure fault x else .success values rest := by
  have hlength := hrow.length_le hp
  unfold repeated
  rw [repeatedFrom_of_row ho hp least x hrow hfail _ 0 (by omega), Nat.zero_add]

theorem progresses_satisfying [Cause κ] (holds : σ → Bool) : (satisfying holds : Parser ι κ σ).Progresses := by
  intro x rest a h
  have hl := Cursor.left_of_next_eq_some (satisfying_eq_success.1 h).1
  omega

theorem row_satisfying [Cause κ] {holds : σ → Bool} {tail : List σ} : ∀ (as : List σ) {x : ι},
    symbols x = as ++ tail → (∀ a ∈ as, holds a = true) →
      (satisfying holds : Parser ι κ σ).Row x as (after as.length x)
  | [], x, _, _ => .nil x
  | a :: as, x, h, ha => by
    obtain ⟨hn, hs⟩ := next_of_symbols_cons h
    rw [List.length_cons, Nat.add_comm, Cursor.after_add]
    exact .cons (satisfying_eq_success.2 ⟨hn, ha a List.mem_cons_self⟩)
      (row_satisfying as hs fun b hb => ha b (List.mem_cons_of_mem _ hb))

/-- **Repeating a test of one symbol takes the longest run of symbols that pass it.** -/
theorem repeated_satisfying [Cause κ] [Distinct ι] {holds : σ → Bool} {as tail : List σ} (least : Nat)
    (h : symbols x = as ++ tail) (ha : ∀ a ∈ as, holds a = true) (htail : ∀ a ∈ tail.head?, holds a = false) :
    ((satisfying holds : Parser ι κ σ).repeated (.atLeast least)) x =
      if as.length < least then
        .failure ⟨if tail.isEmpty then Cause.moreNeeded else Cause.invalid, after as.length x⟩ x
      else .success as (after as.length x) := by
  have hrest : symbols (after as.length x) = tail := Cursor.symbols_after_length h
  have hfail : (satisfying holds : Parser ι κ σ) (after as.length x) = _ :=
    satisfying_eq_failure (by rw [hrest]; exact htail)
  rw [repeated_of_row (orderly_satisfying holds) (progresses_satisfying holds) least (row_satisfying as h ha) hfail,
    hrest]

end Parser
end Parsing
