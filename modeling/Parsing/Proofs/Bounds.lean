import Mathlib.Order.Bounds.Basic
import Parsing.Proofs.Loops
import Parsing.Proofs.Settling
/-!
# Bounds — the counts that a repetition is allowed, and those it comes to

Two bounds allow the 64-bit counts between them.  They are kept as a least and a greatest count, both included, which
says the same of all bounds but two: nothing is below zero, and nothing is above the largest count.  An end before zero
is kept as zero, a beginning behind the largest count as the largest.  So bounds with no count between them are refused,
unless the repetition is left with one of these (`Repetition.exists_ofBounds_eq_error_iff`).

A repetition then counts within its range.  Its loop keeps the count at or below the greatest one, is over without
another attempt once it is there, and succeeds nowhere below the least one (`Parser.RepeatsFrom.le_greatest`,
`Parser.RepeatsFrom.ends_at_greatest`, `Parser.RepeatsFrom.least_le`).  No answer of the parser to a further attempt
could change what the repetition comes to (`Parser.repeated_congr_below`).

Main statement: `repetition_keeps_to_bounds`.
-/
namespace Parsing

namespace Bound

/-- The largest count as a bound has it. -/
def largest : UInt64 := .ofNat largestCount

theorem toNat_le_largestCount (count : UInt64) : count.toNat ≤ largestCount := Nat.le_pred_of_lt count.toNat_lt_size

/-- The counts that a lower bound allows. -/
def above : Bound → Set Nat
  | included count => Set.Ici count.toNat
  | excluded count => Set.Ioi count.toNat
  | unbounded => Set.univ

/-- The counts that an upper bound allows. -/
def below : Bound → Set Nat
  | included count => Set.Iic count.toNat
  | excluded count => Set.Iio count.toNat
  | unbounded => Set.univ

variable {lower upper : Bound}

theorem least_le_largestCount (lower : Bound) : lower.least ≤ largestCount := by
  cases lower with
  | included count => exact toNat_le_largestCount count
  | excluded count => exact Nat.min_le_right _ _
  | unbounded => exact Nat.zero_le _

/-- **The counts above a lower bound are those from its least count on**, unless it excludes the largest. -/
theorem mem_above_iff (h : lower ≠ excluded largest) {n : Nat} : n ∈ lower.above ↔ lower.least ≤ n := by
  cases lower with
  | included count => exact Iff.rfl
  | excluded count =>
    have hne : count.toNat ≠ largestCount := fun heq => h (congrArg excluded (UInt64.toNat_inj.1 heq))
    have hle := toNat_le_largestCount count
    have hleast : (excluded count).least = count.toNat + 1 := Nat.min_eq_left (by omega)
    rw [hleast]
    exact Iff.rfl
  | unbounded => exact ⟨fun _ => Nat.zero_le n, fun _ => Set.mem_univ n⟩

/-- **The counts below an upper bound are those up to its greatest count**, unless it excludes zero. -/
theorem mem_below_iff (h : upper ≠ excluded 0) {n : Nat} :
    n ∈ upper.below ↔ ∀ greatest ∈ upper.greatest?, n ≤ greatest := by
  cases upper with
  | included count => simp [below, greatest?]
  | excluded count =>
    have hne : count.toNat ≠ 0 := fun heq => h (congrArg excluded (UInt64.toNat_inj.1 heq))
    simp only [below, greatest?, Set.mem_Iio, Option.mem_def, Option.some.injEq, forall_eq']
    omega
  | unbounded => simp [below, greatest?]

theorem isGreatest_below_iff (h : upper ≠ excluded 0) {greatest : Nat} :
    IsGreatest upper.below greatest ↔ upper.greatest? = some greatest := by
  have hmem (n : Nat) := mem_below_iff h (n := n)
  cases hg : upper.greatest? with
  | none =>
    rw [hg] at hmem
    refine ⟨fun hgreatest => ?_, nofun⟩
    have hle := hgreatest.2 ((hmem (greatest + 1)).2 nofun)
    exact absurd hle (Nat.not_succ_le_self greatest)
  | some most =>
    simp only [hg, Option.mem_def, Option.some.injEq, forall_eq'] at hmem
    constructor
    · rintro ⟨hle, hgreatest⟩
      exact congrArg some (Nat.le_antisymm (hgreatest ((hmem most).2 (Nat.le_refl most))) ((hmem greatest).1 hle))
    · intro heq
      obtain rfl := Option.some.inj heq
      exact ⟨(hmem most).2 (Nat.le_refl most), fun n hn => (hmem n).1 hn⟩

/-- No 64-bit count is allowed by both bounds. -/
def Apart (lower upper : Bound) : Prop := ∀ n : UInt64, n.toNat ∉ lower.above ∩ upper.below

/-- Bounds that end before zero and do not begin behind it. -/
def EndsBeforeZero (lower upper : Bound) : Prop := (lower = included 0 ∨ lower = unbounded) ∧ upper = excluded 0

/-- Bounds that begin behind the largest count and do not end before it. -/
def BeginsBehindLargest (lower upper : Bound) : Prop :=
  lower = excluded largest ∧ (upper = unbounded ∨ upper = included largest)

instance (lower upper : Bound) : Decidable (lower.EndsBeforeZero upper) := inferInstanceAs (Decidable (_ ∧ _))

instance (lower upper : Bound) : Decidable (lower.BeginsBehindLargest upper) := inferInstanceAs (Decidable (_ ∧ _))

theorem apart_of_excluded_zero (lower : Bound) : lower.Apart (excluded 0) := fun _ h => absurd h.2 (Nat.not_lt_zero _)

theorem apart_of_excluded_largest (upper : Bound) : (excluded largest).Apart upper := by
  rintro n ⟨habove, -⟩
  have hle := toNat_le_largestCount n
  have hlt : largestCount < n.toNat := habove
  omega

theorem least_pos_iff (lower : Bound) : 0 < lower.least ↔ ¬ (lower = included 0 ∨ lower = unbounded) := by
  have hlargest : 0 < largestCount := by decide
  cases lower with
  | included count =>
    have hzero : count.toNat = 0 ↔ count = 0 := UInt64.toNat_inj (b := 0)
    simp only [least, included.injEq, reduceCtorEq, or_false, ← hzero]
    exact Nat.pos_iff_ne_zero
  | excluded count => simp [least, hlargest]
  | unbounded => simp [least]

theorem greatest_lt_iff (upper : Bound) :
    (∃ greatest ∈ upper.greatest?, greatest < largestCount) ↔ ¬ (upper = unbounded ∨ upper = included largest) := by
  cases upper with
  | included count =>
    have hle := toNat_le_largestCount count
    have hlargest : count.toNat = largestCount ↔ count = largest := UInt64.toNat_inj (b := largest)
    simp only [greatest?, Option.mem_def, Option.some.injEq, exists_eq_left', included.injEq, reduceCtorEq, false_or,
      ← hlargest]
    omega
  | excluded count =>
    have hle := toNat_le_largestCount count
    have hlargest : 0 < largestCount := by decide
    simp only [greatest?, Option.mem_def, Option.some.injEq, exists_eq_left', reduceCtorEq, or_self, not_false_eq_true,
      iff_true]
    omega
  | unbounded => simp [greatest?]

/-- **Elsewhere bounds are apart just where the least count is above the greatest.** -/
theorem apart_iff (hlower : lower ≠ excluded largest) (hupper : upper ≠ excluded 0) :
    lower.Apart upper ↔ ∃ greatest ∈ upper.greatest?, greatest < lower.least := by
  constructor
  · intro h
    have hleast : (UInt64.ofNat lower.least).toNat = lower.least :=
      UInt64.toNat_ofNat_of_lt (Nat.lt_succ_of_le lower.least_le_largestCount)
    -- If not, both bounds would allow the least count.
    by_contra hnone
    refine h (.ofNat lower.least) ⟨?_, ?_⟩ <;> rw [hleast]
    · exact (mem_above_iff hlower).2 (Nat.le_refl _)
    · refine (mem_below_iff hupper).2 fun greatest hg => ?_
      exact Nat.le_of_not_lt fun hlt => hnone ⟨greatest, hg, hlt⟩
  · rintro ⟨greatest, hg, hlt⟩ n ⟨habove, hbelow⟩
    have hle := (mem_above_iff hlower).1 habove
    have hge := (mem_below_iff hupper).1 hbelow greatest hg
    omega

end Bound

namespace Repetition

open Parsing.Bound (Apart EndsBeforeZero BeginsBehindLargest largest)

variable {lower upper : Bound} {range : Repetition}

theorem ends_of_ofBounds_eq_ok (h : ofBounds lower upper = .ok range) :
    range.least = lower.least ∧ range.greatest? = upper.greatest? := by
  unfold ofBounds at h
  split at h
  · rename_i hg
    cases h
    exact ⟨rfl, hg.symm⟩
  · rename_i greatest hg
    split at h
    · cases h
      exact ⟨rfl, hg.symm⟩
    · cases h

theorem exists_ofBounds_eq_ok (h : ¬ ∃ e, ofBounds lower upper = .error e) :
    ∃ range, ofBounds lower upper = .ok range := by
  cases hb : ofBounds lower upper with
  | ok range => exact ⟨range, rfl⟩
  | error e => exact absurd ⟨e, hb⟩ h

theorem exists_ofBounds_eq_error :
    (∃ e, ofBounds lower upper = .error e) ↔ ∃ greatest ∈ upper.greatest?, greatest < lower.least := by
  simp only [ofBounds_eq_error_iff]
  constructor
  · rintro ⟨e, hleast, hg, hlt⟩
    exact ⟨e.greatest, hg, hleast ▸ hlt⟩
  · rintro ⟨greatest, hg, hlt⟩
    exact ⟨⟨lower.least, greatest⟩, rfl, hg, hlt⟩

/-- **A range is refused where its bounds are apart**, with two exceptions. -/
theorem exists_ofBounds_eq_error_iff (lower upper : Bound) : (∃ e, ofBounds lower upper = .error e) ↔
    lower.Apart upper ∧ ¬ EndsBeforeZero lower upper ∧ ¬ BeginsBehindLargest lower upper := by
  rw [exists_ofBounds_eq_error]
  by_cases hlower : lower = .excluded largest
  · subst hlower
    have hleast : (Bound.excluded largest).least = largestCount := rfl
    have hzero : ¬ EndsBeforeZero (.excluded largest) upper := by simp [EndsBeforeZero]
    rw [hleast, Bound.greatest_lt_iff]
    simp only [Bound.apart_of_excluded_largest, hzero, BeginsBehindLargest, true_and, not_false_eq_true]
  by_cases hupper : upper = .excluded 0
  · subst hupper
    have hgreatest : (∃ greatest ∈ (Bound.excluded 0).greatest?, greatest < lower.least) ↔ 0 < lower.least := by
      simp [Bound.greatest?]
    have hlargest : ¬ BeginsBehindLargest lower (.excluded 0) := fun h => hlower h.1
    rw [hgreatest, Bound.least_pos_iff]
    simp only [Bound.apart_of_excluded_zero, hlargest, EndsBeforeZero, and_true, true_and, not_false_eq_true]
  · rw [Bound.apart_iff hlower hupper]
    exact ⟨fun h => ⟨h, fun hzero => hupper hzero.2, fun hlargest => hlower hlargest.1⟩, And.left⟩

theorem not_excluded_of_ofBounds_eq_ok (h : ofBounds lower upper = .ok range) (hzero : ¬ EndsBeforeZero lower upper)
    (hlargest : ¬ BeginsBehindLargest lower upper) : lower ≠ .excluded largest ∧ upper ≠ .excluded 0 := by
  have hmeet : ¬ lower.Apart upper := by
    intro hapart
    obtain ⟨e, he⟩ := (exists_ofBounds_eq_error_iff lower upper).2 ⟨hapart, hzero, hlargest⟩
    rw [h] at he
    cases he
  constructor
  · rintro rfl
    exact hmeet (Bound.apart_of_excluded_largest upper)
  · rintro rfl
    exact hmeet (Bound.apart_of_excluded_zero lower)

/-- **Apart from the exceptions, a range has the counts that both its bounds allow.** -/
theorem mem_bounds_iff (h : ofBounds lower upper = .ok range) (hzero : ¬ EndsBeforeZero lower upper)
    (hlargest : ¬ BeginsBehindLargest lower upper) {n : Nat} :
    n ∈ lower.above ∩ upper.below ↔ range.least ≤ n ∧ ∀ greatest ∈ range.greatest?, n ≤ greatest := by
  obtain ⟨hlower, hupper⟩ := not_excluded_of_ofBounds_eq_ok h hzero hlargest
  obtain ⟨hleast, hgreatest⟩ := ends_of_ofBounds_eq_ok h
  rw [Set.mem_inter_iff, Bound.mem_above_iff hlower, Bound.mem_below_iff hupper, hleast, hgreatest]

theorem greatest?_of_isGreatest (h : ofBounds lower upper = .ok range) (hzero : ¬ EndsBeforeZero lower upper)
    (hlargest : ¬ BeginsBehindLargest lower upper) {greatest : Nat} (hg : IsGreatest upper.below greatest) :
    range.greatest? = some greatest := by
  obtain ⟨-, hupper⟩ := not_excluded_of_ofBounds_eq_ok h hzero hlargest
  rw [(ends_of_ofBounds_eq_ok h).2]
  exact (Bound.isGreatest_below_iff hupper).1 hg

theorem isFull_eq_false_iff {count greatest : Nat} (hg : range.greatest? = some greatest) :
    range.isFull count = false ↔ count < greatest := by
  simp [isFull, hg]

end Repetition

namespace Parser

variable {ι σ κ α : Type} [Cursor ι σ] {p q : Parser ι κ α} {range : Repetition} {start x : ι}
  {count hits misses greatest : Nat} {o : Outcome κ ι (List α)}

/-! ## The loop within its range -/

/-- A loop that succeeds is a run. -/
theorem repeatsFrom_of_success {rest : ι} : ∀ (rounds count : Nat) (x : ι) (values : List α),
    repeatedFrom p range start rounds count x = .success values rest →
      ∃ misses, p.RepeatsFrom range start count x values.length misses (.success values rest)
  | 0, _, _, _, h => by cases h
  | rounds + 1, count, x, values, h => by
    unfold repeatedFrom at h
    split at h
    · rename_i hfull
      cases h
      exact ⟨0, .full hfull⟩
    rename_i hfull
    have hfull : range.isFull count = false := Bool.not_eq_true _ ▸ hfull
    cases ho : p x with
    | success value y =>
      rw [ho] at h
      dsimp only at h
      split at h
      · rename_i hstop
        cases h
        exact ⟨0, .stalled hfull ho (by simpa using hstop)⟩
      · rename_i hgo
        obtain ⟨more, hmore, rfl⟩ := Outcome.map_eq_success.1 h
        obtain ⟨misses, hrun⟩ := repeatsFrom_of_success rounds (count + 1) y more hmore
        exact ⟨misses, .matched hfull ho (by simpa using hgo) hrun⟩
    | failure fault given =>
      rw [ho] at h
      dsimp only at h
      split at h
      · cases h
      · rename_i hcount
        cases h
        exact ⟨1, .enough hfull ho hcount⟩
    | aborted why => rw [ho] at h; cases h

namespace RepeatsFrom

/-- **The count stays at or below the greatest.** -/
theorem le_greatest (hrun : p.RepeatsFrom range start count x hits misses o) (hg : range.greatest? = some greatest)
    (hcount : count ≤ greatest) : count + hits ≤ greatest := by
  induction hrun with
  | full _ | short _ _ _ | enough _ _ _ | aborted _ _ => exact hcount
  | stalled hfull _ _ => exact (Repetition.isFull_eq_false_iff hg).1 hfull
  | matched hfull _ _ _ ih =>
    have hle := ih ((Repetition.isFull_eq_false_iff hg).1 hfull)
    omega

/-- **A loop that has come to the greatest count is over**: its parser is not run again, neither to match nor to fail
nor to give up. -/
theorem ends_at_greatest (hrun : p.RepeatsFrom range start count x hits misses o) (hg : range.greatest? = some greatest)
    (hcount : count + hits = greatest) : misses = 0 ∧ ∃ values rest, o = .success values rest := by
  induction hrun with
  | full _ | stalled _ _ _ => exact ⟨rfl, _, _, rfl⟩
  | matched _ _ _ _ ih =>
    obtain ⟨hmisses, values, rest, rfl⟩ := ih (by omega)
    exact ⟨hmisses, _, _, rfl⟩
  | short hfull _ _ | enough hfull _ _ | aborted hfull _ =>
    -- The parser was run, so there was room below the greatest count.
    have hlt := (Repetition.isFull_eq_false_iff hg).1 hfull
    omega

theorem length_eq (hrun : p.RepeatsFrom range start count x hits misses o) :
    ∀ values rest, o = .success values rest → values.length = hits := by
  induction hrun with
  | full _ | stalled _ _ _ | enough _ _ _ =>
    rintro _ _ ⟨⟩
    rfl
  | matched _ _ _ _ ih =>
    intro values rest ho
    obtain ⟨others, hothers, rfl⟩ := Outcome.map_eq_success.1 ho
    rw [List.length_cons, ih others rest hothers]
  | short _ _ _ | aborted _ _ => rintro _ _ ⟨⟩

/-- **A loop succeeds nowhere below the least count.** -/
theorem least_le (hrun : p.RepeatsFrom range start count x hits misses o) :
    ∀ values rest, o = .success values rest → range.least ≤ count + hits := by
  induction hrun with
  | full hfull =>
    refine fun _ _ _ => Nat.le_of_not_lt fun hlt => ?_
    have hroom := Repetition.isFull_eq_false hlt
    rw [Nat.add_zero, hfull] at hroom
    cases hroom
  | stalled _ _ hstop => exact fun _ _ _ => hstop.2
  | matched _ _ _ _ ih =>
    intro values rest ho
    obtain ⟨others, hothers, -⟩ := Outcome.map_eq_success.1 ho
    have hle := ih others rest hothers
    omega
  | short _ _ _ | aborted _ _ => rintro _ _ ⟨⟩
  | enough _ _ hcount => exact fun _ _ _ => Nat.le_of_not_lt hcount

/-- **A run that succeeds has matched within the range.** -/
theorem within {values : List α} {rest : ι}
    (hrun : p.RepeatsFrom range start 0 x hits misses (.success values rest)) :
    range.least ≤ hits ∧ ∀ greatest ∈ range.greatest?, hits ≤ greatest := by
  have hleast := hrun.least_le values rest rfl
  rw [Nat.zero_add] at hleast
  refine ⟨hleast, fun greatest hg => ?_⟩
  have hle := hrun.le_greatest hg (Nat.zero_le greatest)
  rwa [Nat.zero_add] at hle

end RepeatsFrom

theorem length_within_of_repeated {values : List α} {rest : ι} (h : p.repeated range x = .success values rest) :
    range.least ≤ values.length ∧ ∀ greatest ∈ range.greatest?, values.length ≤ greatest := by
  obtain ⟨misses, hrun⟩ := repeatsFrom_of_success _ _ _ _ h
  exact hrun.within

/-- **What a parser answers behind the greatest count of matches does not matter**: it is not asked. -/
theorem repeated_congr_below (hg : range.greatest? = some greatest)
    (h : ∀ values y, p.Row x values y → values.length < greatest → q y = p y) :
    q.repeated range x = p.repeated range x :=
  (repeated_congr_of_room fun values y hrow hroom =>
    (h values y hrow ((Repetition.isFull_eq_false_iff hg).1 hroom)).symm).symm

end Parser

open Parsing.Bound (largest)

/-- **A repetition keeps to its bounds.**  Bounds are refused just where no 64-bit count is allowed by both, with two
exceptions.  Those that end before zero, and do not begin behind it, are taken and allow no match: the parser is not
even run.  Those that begin behind the largest count, and do not end before it, are taken for that count or more.  With
all other bounds that are taken, any parser and any cursor, a repetition that succeeds has as many values as both bounds
allow.  So has its loop without a bound on its rounds; and once it has matched as often as the upper bound allows, it is
over, without another match, a failure to match, or an abort.  What the parser would come to there does not matter. -/
theorem repetition_keeps_to_bounds (lower upper : Bound) :
    ((∃ e, Repetition.ofBounds lower upper = .error e) ↔
      lower.Apart upper ∧ ¬ lower.EndsBeforeZero upper ∧ ¬ lower.BeginsBehindLargest upper) ∧
    (lower.EndsBeforeZero upper → lower.Apart upper ∧ ∃ range, Repetition.ofBounds lower upper = .ok range ∧
      ∀ {ι σ κ α : Type} [Cursor ι σ] (p : Parser ι κ α) (x : ι), p.repeated range x = .success [] x) ∧
    (lower.BeginsBehindLargest upper → lower.Apart upper ∧ ∃ range, Repetition.ofBounds lower upper = .ok range ∧
      range.least = largestCount ∧ range.greatest? = upper.greatest? ∧
      ∀ {ι σ κ α : Type} [Cursor ι σ] (p : Parser ι κ α) (x : ι) values rest,
        p.repeated range x = .success values rest → largestCount ≤ values.length) ∧
    ∀ range, Repetition.ofBounds lower upper = .ok range → ¬ lower.EndsBeforeZero upper →
      ¬ lower.BeginsBehindLargest upper → ∀ {ι σ κ α : Type} [Cursor ι σ] (p : Parser ι κ α) (x : ι),
        (∀ values rest, p.repeated range x = .success values rest → values.length ∈ lower.above ∩ upper.below) ∧
        (∀ hits misses o, p.RepeatsFrom range x 0 x hits misses o →
          (∀ values rest, o = .success values rest → values.length = hits ∧ hits ∈ lower.above ∩ upper.below) ∧
          ∀ greatest, IsGreatest upper.below greatest →
            hits ≤ greatest ∧ (hits = greatest → misses = 0 ∧ ∃ values rest, o = .success values rest)) ∧
        ∀ greatest, IsGreatest upper.below greatest → ∀ q : Parser ι κ α,
          (∀ values y, p.Row x values y → values.length < greatest → q y = p y) →
            q.repeated range x = p.repeated range x := by
  have hrefused := Repetition.exists_ofBounds_eq_error_iff lower upper
  refine ⟨hrefused, fun hzero => ?_, fun hlargest => ?_, fun range hrange hzero hlargest => ?_⟩
  · obtain ⟨range, hrange⟩ := Repetition.exists_ofBounds_eq_ok fun h => (hrefused.1 h).2.1 hzero
    obtain ⟨-, rfl⟩ := hzero
    refine ⟨Bound.apart_of_excluded_zero lower, range, hrange, fun p x => ?_⟩
    have hfull : range.isFull 0 = true := by
      rw [Repetition.isFull, (Repetition.ends_of_ofBounds_eq_ok hrange).2]
      rfl
    rw [Parser.repeated, Parser.repeatedFrom, if_pos hfull]
  · obtain ⟨range, hrange⟩ := Repetition.exists_ofBounds_eq_ok fun h => (hrefused.1 h).2.2 hlargest
    obtain ⟨hleast, hgreatest⟩ := Repetition.ends_of_ofBounds_eq_ok hrange
    obtain ⟨rfl, -⟩ := hlargest
    exact ⟨Bound.apart_of_excluded_largest upper, range, hrange, hleast, hgreatest,
      fun p x values rest h => hleast.symm.trans_le (Parser.length_within_of_repeated h).1⟩
  · have hwithin {n : Nat} := Repetition.mem_bounds_iff (n := n) hrange hzero hlargest
    have hmost {greatest : Nat} (hg : IsGreatest upper.below greatest) :=
      Repetition.greatest?_of_isGreatest hrange hzero hlargest hg
    intro ι σ κ α _ p x
    refine ⟨fun values rest h => hwithin.2 (Parser.length_within_of_repeated h), fun hits misses o hrun => ⟨?_, ?_⟩,
      fun greatest hg q hq => Parser.repeated_congr_below (hmost hg) hq⟩
    · rintro values rest rfl
      exact ⟨hrun.length_eq values rest rfl, hwithin.2 hrun.within⟩
    · intro greatest hg
      have hle := hrun.le_greatest (hmost hg) (Nat.zero_le greatest)
      have hends := hrun.ends_at_greatest (hmost hg)
      rw [Nat.zero_add] at hle hends
      exact ⟨hle, hends⟩

/-- More than one letter and fewer than four, and a parser that is given up behind the third; three letters at least and
two at most; fewer than no letters; and more than the largest count of them. -/
theorem repetition_keeps_to_bounds_of_letters :
    let letter : Parser Text TextCause Char := .satisfying Char.isAlpha
    let x := Text.ofString "abcd"
    let wary : Parser Text TextCause Char := fun y => if y.offset = 3 then .aborted (.defect "asked") else letter y
    let few : Repetition := .between 2 3 (by decide)
    (Repetition.ofBounds (.excluded 1) (.excluded 4) = .ok few ∧ IsGreatest (Bound.excluded 4).below 3 ∧
      letter.repeated few x = .success ['a', 'b', 'c'] ⟨3, ['d']⟩ ∧
      ['a', 'b', 'c'].length ∈ (Bound.excluded 1).above ∩ (Bound.excluded 4).below ∧
      wary.repeated few x = .success ['a', 'b', 'c'] ⟨3, ['d']⟩) ∧
    (∃ e, Repetition.ofBounds (.included 3) (.included 2) = .error e) ∧
    (∃ range, Repetition.ofBounds .unbounded (.excluded 0) = .ok range ∧
      ∀ y, wary.repeated range y = .success [] y) ∧
    ∃ range, Repetition.ofBounds (.excluded largest) .unbounded = .ok range ∧ range.least = UInt64.size - 1 := by
  intro letter x wary few
  have hfew : Repetition.ofBounds (.excluded 1) (.excluded 4) = .ok few := rfl
  have hletters : letter.repeated few x = .success ['a', 'b', 'c'] ⟨3, ['d']⟩ := rfl
  have hgreatest : IsGreatest (Bound.excluded 4).below 3 := (Bound.isGreatest_below_iff (by decide)).2 rfl
  have hwary : ∀ values y, letter.Row x values y → values.length < 3 → wary y = letter y := by
    have hoffset {y : Text} (h : y.offset ≠ 3) : wary y = letter y := if_neg h
    rintro values y (_ | ⟨⟨⟩, _ | ⟨⟨⟩, _ | ⟨⟨⟩, hrow⟩⟩⟩) hlength
    · exact hoffset (by decide)
    · exact hoffset (by decide)
    · exact hoffset (by decide)
    · simp at hlength
      omega
  obtain ⟨hbounds, -, hsame⟩ :=
    (repetition_keeps_to_bounds (.excluded 1) (.excluded 4)).2.2.2 few hfew (by decide) (by decide) letter x
  refine ⟨⟨hfew, hgreatest, hletters, hbounds _ _ hletters, (hsame 3 hgreatest wary hwary).trans hletters⟩, ?_, ?_, ?_⟩
  · refine (repetition_keeps_to_bounds (.included 3) (.included 2)).1.2 ⟨?_, by decide, by decide⟩
    rintro n ⟨habove, hbelow⟩
    exact absurd (Nat.le_trans habove hbelow) (by decide)
  · obtain ⟨-, range, hrange, hnone⟩ := (repetition_keeps_to_bounds .unbounded (.excluded 0)).2.1 ⟨.inr rfl, rfl⟩
    exact ⟨range, hrange, hnone wary⟩
  · obtain ⟨-, range, hrange, hleast, -⟩ :=
      (repetition_keeps_to_bounds (.excluded largest) .unbounded).2.2.1 ⟨rfl, .inl rfl⟩
    exact ⟨range, hrange, hleast⟩

end Parsing
