import Mathlib.Order.Bounds.Basic
import Parsing.Proofs.Unrolling
/-!
# Greedy repetition — where a repetition stops, and with what

A parser matches in a row from a cursor as long as it succeeds, and the row is the only one of its length
(`Parser.Row.unique`).  Behind some of its matches a repetition has reason to stop: the range allows no more, the parser
fails, or the match has taken nothing (`Parser.StopsAt`).  It stops at the first of these that is not below the least
count, and fails only where the parser fails below it.

`Parser.Traced` says this of an outcome.  A parser has one traced outcome at most (`Parser.Traced.unique`), and what a
repetition comes to is traced (`Parser.traced_repeated`), by induction along the unrolled loop; so the two are the same
(`repetition_is_greedy`).
-/
namespace Parsing

open Cursor (left Reaches TellsApart samePosition)

namespace Parser

variable {ι σ κ α : Type} {p : Parser ι κ α} {x y z rest : ι} {value : α} {values more : List α}

theorem not_fails_of_success (h : p x = .success value y) : ¬ p.Fails x := by
  rintro ⟨fault, given, hfails⟩
  rw [h] at hfails
  cases hfails

theorem not_fails_of_aborted {why : Abort} (h : p x = .aborted why) : ¬ p.Fails x := by
  rintro ⟨fault, given, hfails⟩
  rw [h] at hfails
  cases hfails

/-! ## Rows -/

/-- The parser does not match here. -/
def Stuck (p : Parser ι κ α) (x : ι) : Prop := ∀ value rest, p x ≠ .success value rest

theorem stuck_of_failure {fault : Fault κ ι} {given : ι} (h : p x = .failure fault given) : p.Stuck x := by
  intro value rest hx
  rw [h] at hx
  cases hx

theorem stuck_of_aborted {why : Abort} (h : p x = .aborted why) : p.Stuck x := by
  intro value rest hx
  rw [h] at hx
  cases hx

theorem row_cons_iff (h : p x = .success value y) {first : α} :
    p.Row x (first :: values) rest ↔ first = value ∧ p.Row y values rest := by
  constructor
  · rintro (_ | ⟨hfirst, hrow⟩)
    rw [h] at hfirst
    cases hfirst
    exact ⟨rfl, hrow⟩
  · rintro ⟨rfl, hrow⟩
    exact .cons h hrow

namespace Row

theorem reaches [Cursor ι σ] {parts : Parts ι α} (hp : p.Orderly parts) (h : p.Row x values y) : Reaches x y := by
  induction h with
  | nil => exact Reaches.refl _
  | cons ho _ ih => exact (hp.advances ho).trans ih

theorem append (h : p.Row x values y) (h' : p.Row y more z) : p.Row x (values ++ more) z := by
  induction h with
  | nil => exact h'
  | cons ho _ ih => exact .cons ho (ih h')

theorem replicate (h : p x = .success value x) : ∀ (count : Nat), p.Row x (List.replicate count value) x
  | 0 => .nil x
  | count + 1 => .cons h (replicate h count)

/-- **The longer of two rows goes on from the shorter.** -/
theorem exists_append (h : p.Row x values y) (h' : p.Row x more z) (hle : values.length ≤ more.length) :
    ∃ behind, more = values ++ behind ∧ p.Row y behind z := by
  induction h generalizing more with
  | nil => exact ⟨more, rfl, h'⟩
  | cons ho _ ih =>
    cases more with
    | nil => simp at hle
    | cons first more =>
      obtain ⟨rfl, hmore⟩ := (row_cons_iff ho).1 h'
      obtain ⟨behind, rfl, hbehind⟩ := ih hmore (by simpa using hle)
      exact ⟨behind, rfl, hbehind⟩

theorem unique (h : p.Row x values y) (h' : p.Row x more z) (hlength : values.length = more.length) :
    values = more ∧ y = z := by
  obtain ⟨behind, rfl, hbehind⟩ := h.exists_append h' (by omega)
  obtain rfl : behind = [] := by simpa using hlength
  cases hbehind
  exact ⟨(List.append_nil _).symm, rfl⟩

/-- **No row is longer than one at whose end the parser does not match.** -/
theorem length_le_of_stuck (h : p.Row x values y) (hstuck : p.Stuck y) (h' : p.Row x more z) :
    more.length ≤ values.length := by
  by_contra hlt
  obtain ⟨behind, rfl, hbehind⟩ := h.exists_append h' (by omega)
  cases hbehind with
  | nil => simp at hlt
  | cons ho _ => exact hstuck _ _ ho

theorem end_unique (h : p.Row x values y) (hstuck : p.Stuck y) (h' : p.Row x more z) (hstuck' : p.Stuck z) : y = z :=
  (h.unique h' (Nat.le_antisymm (h'.length_le_of_stuck hstuck' h) (h.length_le_of_stuck hstuck h'))).2

end Row

/-! ## Reasons to stop -/

variable [Cursor ι σ] {parts : Parts ι α} {range : Repetition} {count : Nat}

/-- Matches in a row, of which the last one took nothing: it ended at the place where it began. -/
inductive Stalled (p : Parser ι κ α) : ι → List α → ι → Prop
  | last {x y : ι} {value : α} : p x = .success value y → samePosition y x = true → Stalled p x [value] y
  | cons {x y rest : ι} {value : α} {values : List α} : p x = .success value y → Stalled p y values rest →
      Stalled p x (value :: values) rest

/-- What may stop a repetition behind so many matches in a row. -/
inductive StopsAt (p : Parser ι κ α) (range : Repetition) (x : ι) (count : Nat) : Prop
  | full (h : range.greatest? = some count)
  | failed {values : List α} {y : ι} (hrow : p.Row x values y) (hcount : values.length = count) (h : p.Fails y)
  | stalled {values : List α} {y : ι} (h : p.Stalled x values y) (hcount : values.length = count)

/-- The counts at which a repetition may stop, those below the least count left out. -/
def stops (p : Parser ι κ α) (range : Repetition) (x : ι) : Set Nat :=
  {count | range.least ≤ count ∧ p.StopsAt range x count}

theorem stalled_cons_iff (h : p x = .success value y) {first : α} :
    p.Stalled x (first :: values) rest ↔
      first = value ∧ (values = [] ∧ rest = y ∧ samePosition y x = true ∨ p.Stalled y values rest) := by
  constructor
  · rintro (⟨hfirst, hplace⟩ | ⟨hfirst, hstalled⟩) <;> rw [h] at hfirst <;> cases hfirst
    · exact ⟨rfl, .inl ⟨rfl, rfl, hplace⟩⟩
    · exact ⟨rfl, .inr hstalled⟩
  · rintro ⟨rfl, ⟨rfl, rfl, hplace⟩ | hstalled⟩
    · exact .last h hplace
    · exact .cons h hstalled

/-- **A match that stays in its place can be had again**, where places are told apart. -/
theorem Stalled.again (hp : p.Orderly parts) (h : p.Stalled x values rest) (hx : TellsApart x) :
    ∃ before last, values = before ++ [last] ∧ p.Row x before rest ∧ p rest = .success last rest := by
  induction h with
  | @last x y value ho hplace =>
    obtain rfl := (hx (hp.advances ho) (Reaches.refl x)).1 hplace
    exact ⟨[], value, rfl, .nil _, ho⟩
  | @cons x y rest value values ho _ ih =>
    obtain ⟨before, last, rfl, hrow, hlast⟩ := ih (hx.of_reaches (hp.advances ho))
    exact ⟨value :: before, last, rfl, .cons ho hrow, hlast⟩

theorem Row.stalled (h : p.Row x values y) (hlast : p y = .success value y) (hplace : samePosition y y = true) :
    p.Stalled x (values ++ [value]) y := by
  induction h with
  | nil => exact .last hlast hplace
  | cons ho _ ih => exact .cons ho (ih hlast hplace)

/-- **A row stalls where its last match ended at the place where it began**, where places are told apart. -/
theorem stalled_iff_again (hp : p.Orderly parts) (hx : TellsApart x) : p.Stalled x values rest ↔
    ∃ before last, values = before ++ [last] ∧ p.Row x before rest ∧ p rest = .success last rest := by
  constructor
  · exact fun h => h.again hp hx
  · rintro ⟨before, last, rfl, hrow, hlast⟩
    exact hrow.stalled hlast (hx.samePosition_self rest (hrow.reaches hp))

theorem zero_not_mem_stops (h : ¬ p.Fails x) (hfull : range.isFull 0 = false) : 0 ∉ p.stops range x := by
  rintro ⟨-, hfull' | ⟨hrow, hcount, hfails⟩ | ⟨hstalled, hcount⟩⟩
  · simp [Repetition.isFull, hfull'] at hfull
  · obtain rfl := List.length_eq_zero_iff.1 hcount
    cases hrow
    exact h hfails
  · cases hstalled <;> simp at hcount

/-- **Behind the first match, the reasons to stop are those that the rest of the range gives there.** -/
theorem succ_mem_stops_iff (h : p x = .success value y) (hfull : range.isFull 0 = false)
    (hgo : ¬ (samePosition y x = true ∧ range.least ≤ 1)) :
    count + 1 ∈ p.stops range x ↔ count ∈ p.stops (range.behind 1) y := by
  have hleast : range.least ≤ count + 1 ↔ (range.behind 1).least ≤ count := by
    simp only [Repetition.behind]
    omega
  have hgreatest : range.greatest? = some (count + 1) ↔ (range.behind 1).greatest? = some count := by
    cases hg : range.greatest? with
    | none => simp [Repetition.behind, hg]
    | some greatest =>
      have hpos : greatest ≠ 0 := by simpa [Repetition.isFull, hg] using hfull
      simp only [Repetition.behind, hg, Option.map_some, Option.some.injEq]
      omega
  constructor
  · rintro ⟨hle, hstop⟩
    refine ⟨hleast.1 hle, ?_⟩
    rcases hstop with hfull' | @⟨_ | ⟨first, values⟩, z, hrow, hcount, hfails⟩ |
      @⟨_ | ⟨first, values⟩, z, hstalled, hcount⟩
    · exact .full (hgreatest.1 hfull')
    · simp at hcount
    · exact .failed ((row_cons_iff h).1 hrow).2 (by simpa using hcount) hfails
    · simp at hcount
    · obtain ⟨rfl, -, hplace⟩ | hstalled := ((stalled_cons_iff h).1 hstalled).2
      · -- The first match itself stalls, and the loop went on only because it was short of the least count.
        obtain rfl : count = 0 := by simpa using hcount.symm
        exact absurd ⟨hplace, hle⟩ hgo
      · exact .stalled hstalled (by simpa using hcount)
  · rintro ⟨hle, hstop⟩
    refine ⟨hleast.2 hle, ?_⟩
    rcases hstop with hfull' | ⟨hrow, hcount, hfails⟩ | ⟨hstalled, hcount⟩
    · exact .full (hgreatest.2 hfull')
    · exact .failed (.cons h hrow) (by simp [hcount]) hfails
    · exact .stalled (.cons h hstalled) (by simp [hcount])

/-! ## Traced outcomes -/

/-- An outcome as the matches in a row make it: a success stops at the first reason not below the least count, a failure
is that of the parser below the least count, and an abort is that of the parser before any such reason. -/
def Traced (p : Parser ι κ α) (range : Repetition) (x : ι) : Outcome κ ι (List α) → Prop
  | .success values rest => p.Row x values rest ∧ IsLeast (p.stops range x) values.length
  | .failure fault input =>
    input = x ∧ ∃ values y given, p.Row x values y ∧ values.length < range.least ∧ p y = .failure fault given
  | .aborted why =>
    ∃ values y, p.Row x values y ∧ p y = .aborted why ∧ ∀ count ≤ values.length, count ∉ p.stops range x

theorem traced_full (hfull : range.isFull 0 = true) : p.Traced range x (.success [] x) := by
  obtain ⟨greatest, hg, rfl⟩ : ∃ greatest, range.greatest? = some greatest ∧ greatest = 0 := by
    simpa [Repetition.isFull, Option.any_eq_true] using hfull
  exact ⟨.nil x, ⟨range.least_le 0 hg, .full hg⟩, fun _ _ => Nat.zero_le _⟩

theorem traced_failure {fault : Fault κ ι} {given : ι} (h : p x = .failure fault given) :
    p.Traced range x (if 0 < range.least then .failure fault x else .success [] x) := by
  split
  · rename_i hshort
    exact ⟨rfl, [], x, given, .nil x, hshort, h⟩
  · rename_i hshort
    exact ⟨.nil x, ⟨Nat.le_of_not_lt hshort, .failed (.nil x) rfl ⟨fault, given, h⟩⟩, fun _ _ => Nat.zero_le _⟩

theorem traced_aborted {why : Abort} (h : p x = .aborted why) (hfull : range.isFull 0 = false) :
    p.Traced range x (.aborted why) := by
  refine ⟨[], x, .nil x, h, fun count hle hcount => ?_⟩
  obtain rfl := Nat.le_zero.1 hle
  exact zero_not_mem_stops (not_fails_of_aborted h) hfull hcount

theorem traced_stalled (h : p x = .success value y) (hfull : range.isFull 0 = false) (hplace : samePosition y x = true)
    (hleast : range.least ≤ 1) : p.Traced range x (.success [value] y) := by
  refine ⟨.cons h (.nil y), ⟨hleast, .stalled (.last h hplace) rfl⟩, fun count hcount => ?_⟩
  cases count with
  | zero => exact absurd hcount (zero_not_mem_stops (not_fails_of_success h) hfull)
  | succ count => exact Nat.succ_le_succ (Nat.zero_le _)

/-- **A traced outcome behind the first match is one from before it.** -/
theorem Traced.cons (h : p x = .success value y) (hfull : range.isFull 0 = false)
    (hgo : ¬ (samePosition y x = true ∧ range.least ≤ 1)) {o : Outcome κ ι (List α)}
    (ho : p.Traced (range.behind 1) y o) : p.Traced range x ((o.restoring x).map (value :: ·)) := by
  cases o with
  | success values rest =>
    obtain ⟨hrow, hmem, hleast⟩ := ho
    refine ⟨.cons h hrow, (succ_mem_stops_iff h hfull hgo).2 hmem, fun count hcount => ?_⟩
    cases count with
    | zero => exact absurd hcount (zero_not_mem_stops (not_fails_of_success h) hfull)
    | succ count => exact Nat.succ_le_succ (hleast ((succ_mem_stops_iff h hfull hgo).1 hcount))
  | failure fault input =>
    obtain ⟨-, values, z, given, hrow, hlength, hfails⟩ := ho
    refine ⟨rfl, value :: values, z, given, .cons h hrow, ?_, hfails⟩
    simp only [Repetition.behind] at hlength
    rw [List.length_cons]
    omega
  | aborted why =>
    obtain ⟨values, z, hrow, haborted, hstops⟩ := ho
    refine ⟨value :: values, z, .cons h hrow, haborted, fun count hle hcount => ?_⟩
    cases count with
    | zero => exact zero_not_mem_stops (not_fails_of_success h) hfull hcount
    | succ count => exact hstops count (by simpa using hle) ((succ_mem_stops_iff h hfull hgo).1 hcount)

/-- **What a repetition comes to is traced.** -/
theorem traced_repeated (hp : p.Orderly parts) : ∀ (size : Nat) {range : Repetition} {x : ι}, TellsApart x →
    range.least + left x < size → p.Traced range x (p.repeated range x)
  | 0, _, _, _, h => absurd h (Nat.not_lt_zero _)
  | size + 1, range, x, hx, hsize => by
    have ho := hp x
    rw [repeated_eq hp range hx.samePosition_self]
    cases hfull : range.isFull 0 with
    | true => exact traced_full hfull
    | false =>
      rw [if_neg Bool.false_ne_true]
      cases h : p x with
      | success value rest =>
        rw [h] at ho
        dsimp only
        split
        · rename_i hstop
          obtain ⟨hplace, hleast⟩ : samePosition rest x = true ∧ range.least ≤ 1 := by simpa using hstop
          exact traced_stalled h hfull hplace hleast
        · rename_i hgo
          have hgo : ¬ (samePosition rest x = true ∧ range.least ≤ 1) := by simpa using hgo
          refine .cons h hfull hgo (traced_repeated hp size (hx.of_reaches ho.1) ?_)
          have hle := ho.1.left_le
          have hleast : (range.behind 1).least = range.least - 1 := rfl
          by_cases hlt : left rest < left x
          · omega
          · -- The match took nothing, so more than one is asked for.
            have hplace := (hx ho.1 (Reaches.refl x)).2 (ho.1.eq_of_left_eq_self (by omega))
            have : ¬ range.least ≤ 1 := fun hle => hgo ⟨hplace, hle⟩
            omega
      | failure fault given => exact traced_failure h
      | aborted why => exact traced_aborted h hfull

/-- **An outcome of matches in a row is determined.** -/
theorem Traced.unique {o o' : Outcome κ ι (List α)} (h : p.Traced range x o) (h' : p.Traced range x o') : o = o' := by
  -- A row that ends where the parser does not match is as long as can be, and one that is long enough has a stop.
  cases o with
  | success values rest =>
    obtain ⟨hrow, hleast⟩ := h
    cases o' with
    | success values' rest' =>
      obtain ⟨hrow', hleast'⟩ := h'
      obtain ⟨rfl, rfl⟩ := hrow.unique hrow' (hleast.unique hleast')
      rfl
    | failure fault input =>
      obtain ⟨-, values', y, given, hrow', hshort, hfails⟩ := h'
      have := hrow'.length_le_of_stuck (stuck_of_failure hfails) hrow
      have := hleast.1.1
      omega
    | aborted why =>
      obtain ⟨values', y, hrow', haborted, hno⟩ := h'
      exact absurd hleast.1 (hno _ (hrow'.length_le_of_stuck (stuck_of_aborted haborted) hrow))
  | failure fault input =>
    obtain ⟨rfl, values, y, given, hrow, hshort, hfails⟩ := h
    cases o' with
    | success values' rest =>
      have := hrow.length_le_of_stuck (stuck_of_failure hfails) h'.1
      have := h'.2.1.1
      omega
    | failure fault' input' =>
      obtain ⟨rfl, values', y', given', hrow', -, hfails'⟩ := h'
      obtain rfl := hrow.end_unique (stuck_of_failure hfails) hrow' (stuck_of_failure hfails')
      rw [hfails] at hfails'
      cases hfails'
      rfl
    | aborted why =>
      obtain ⟨values', y', hrow', haborted, -⟩ := h'
      obtain rfl := hrow.end_unique (stuck_of_failure hfails) hrow' (stuck_of_aborted haborted)
      rw [hfails] at haborted
      cases haborted
  | aborted why =>
    obtain ⟨values, y, hrow, haborted, hno⟩ := h
    cases o' with
    | success values' rest => exact absurd h'.2.1 (hno _ (hrow.length_le_of_stuck (stuck_of_aborted haborted) h'.1))
    | failure fault input =>
      obtain ⟨-, values', y', given, hrow', -, hfails⟩ := h'
      obtain rfl := hrow.end_unique (stuck_of_aborted haborted) hrow' (stuck_of_failure hfails)
      rw [haborted] at hfails
      cases hfails
    | aborted why' =>
      obtain ⟨values', y', hrow', haborted', -⟩ := h'
      obtain rfl := hrow.end_unique (stuck_of_aborted haborted) hrow' (stuck_of_aborted haborted')
      rw [haborted] at haborted'
      cases haborted'
      rfl

theorem repeated_eq_iff_traced (hp : p.Orderly parts) (hx : TellsApart x) {o : Outcome κ ι (List α)} :
    p.repeated range x = o ↔ p.Traced range x o := by
  have h := traced_repeated hp _ hx (Nat.lt_succ_self (range.least + left x))
  constructor
  · rintro rfl
    exact h
  · exact h.unique

end Parser

/-- **Repetition is greedy within its range.**  It fails where the parser fails behind fewer matches in a row than the
least count, with that fault.  It succeeds with the first so many matches, no fewer than the least count and no more
than the greatest, behind which the range is full, the parser fails, or the last match has taken nothing; such a match
can be had again, with the same value.  So where a match takes nothing before the least count is met, the repetition
makes up for the rest with it.  Only a parser that gives up makes it give up. -/
theorem repetition_is_greedy {ι σ κ α : Type} [Cursor ι σ] {parts : Parts ι α} {p : Parser ι κ α}
    (hp : p.Composed parts) {x : ι} (hx : TellsApart x) (range : Repetition) :
    (∀ fault input, p.repeated range x = .failure fault input ↔
      input = x ∧ ∃ values y given, p.Row x values y ∧ values.length < range.least ∧ p y = .failure fault given) ∧
    (∀ values rest, p.repeated range x = .success values rest ↔
      p.Row x values rest ∧ (∀ greatest ∈ range.greatest?, values.length ≤ greatest) ∧
        IsLeast {count | range.least ≤ count ∧ p.StopsAt range x count} values.length) ∧
    (∀ why, p.repeated range x = .aborted why ↔
      ∃ values y, p.Row x values y ∧ p y = .aborted why ∧
        ∀ count ≤ values.length, ¬ (range.least ≤ count ∧ p.StopsAt range x count)) ∧
    (∀ values rest, p.Stalled x values rest →
      ∃ before last, values = before ++ [last] ∧ p.Row x before rest ∧ p rest = .success last rest) ∧
    ∀ before last y, p.Row x before y → before.length < range.least → p y = .success last y →
      p.repeated range x = .success (before ++ List.replicate (range.least - before.length) last) y := by
  have htraced {o : Outcome κ ι (List α)} : p.repeated range x = o ↔ p.Traced range x o :=
    Parser.repeated_eq_iff_traced hp.orderly hx
  refine ⟨fun _ _ => htraced, fun values rest => ?_, fun _ => htraced, fun _ _ h => h.again hp.orderly hx,
    fun before last y hbefore hshort hlast => ?_⟩
  · rw [htraced]
    constructor
    · rintro ⟨hrow, hleast⟩
      exact ⟨hrow, fun greatest hg => hleast.2 ⟨range.least_le greatest hg, .full hg⟩, hleast⟩
    · rintro ⟨hrow, -, hleast⟩
      exact ⟨hrow, hleast⟩
  · obtain ⟨missing, hmissing⟩ : ∃ missing, range.least - before.length = missing + 1 :=
      Nat.exists_eq_succ_of_ne_zero (by omega)
    have hplace := hx.samePosition_self y (hbefore.reaches hp.orderly)
    have hlength : (before ++ List.replicate missing last ++ [last]).length = range.least := by simp; omega
    rw [hmissing, List.replicate_succ', ← List.append_assoc, htraced]
    have hrow := hbefore.append (.replicate hlast missing)
    have hstop : p.StopsAt range x _ := .stalled (hrow.stalled hlast hplace) rfl
    exact ⟨hrow.append (.cons hlast (.nil y)), ⟨hlength.ge, hstop⟩, fun count h => hlength.trans_le h.1⟩

/-- Signs that may be missing, one to three and at least three of them, and three letters of which one is missing. -/
theorem repetition_is_greedy_of_signs_and_letters :
    let sign : Parser Text TextCause (Option Char) := (Parser.character '-').optional
    let letter : Parser Text TextCause Char := .satisfying Char.isAlpha
    IsLeast {count | 1 ≤ count ∧ sign.StopsAt (.between 1 3 (by decide)) (Text.ofString "-a") count} 2 ∧
      sign.repeated (.atLeast 3) (Text.ofString "-a") = .success [some '-', none, none] ⟨1, ['a']⟩ ∧
      letter.repeated (.times 3) (Text.ofString "ab1") =
        .failure ⟨.general .invalid, ⟨2, ['1']⟩⟩ (Text.ofString "ab1") := by
  intro sign letter
  have hsign : sign.Composed Parts.none.found := (Parser.composed_character '-').optional
  have hletter : letter.Composed Parts.none := .satisfying Char.isAlpha
  have hplaces (x : Text) : TellsApart x := Cursor.Distinct.tellsApart x
  have hone : sign.repeated (.between 1 3 (by decide)) (Text.ofString "-a") = .success [some '-', none] ⟨1, ['a']⟩ :=
    rfl
  refine ⟨(((repetition_is_greedy hsign (hplaces _) _).2.1 _ _).1 hone).2.2, ?_, ?_⟩
  · exact (repetition_is_greedy hsign (hplaces _) (.atLeast 3)).2.2.2.2 [some '-'] none ⟨1, ['a']⟩
      (.cons rfl (.nil _)) (by decide) rfl
  · exact ((repetition_is_greedy hletter (hplaces _) (.times 3)).1 _ _).2
      ⟨rfl, ['a', 'b'], ⟨2, ['1']⟩, ⟨2, ['1']⟩, .cons rfl (.cons rfl (.nil _)), by decide, rfl⟩

end Parsing
