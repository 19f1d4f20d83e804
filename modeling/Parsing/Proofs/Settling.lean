import Parsing.Proofs.Greedy
/-!
# Settling — what a run asks of its parts, and whether it is given up

A combinator asks its parts at some cursors only: what comes second is run where the first part ended, or where it
failed, and what is repeated is run at the ends of rows, as long as there is room in the range.  Parsers that agree
there can take each other's place (`Parser.skipThen_congr`, `Parser.orElse_congr`, `Parser.repeated_congr_of_room`), and
where the parts succeed or fail when asked the whole does (`Outcome.Settles`, `Parser.repeated_settles`).  Both are
needed for parsers that call themselves, where nothing is known yet of the cursors that are not asked.
-/
namespace Parsing

open Cursor (Distinct)

variable {ι σ κ α β ζ : Type}

/-! ## Outcomes that are successes or failures -/

/-- The outcome of a run that is not given up. -/
def Outcome.Settles (o : Outcome κ ι α) : Prop := ∀ why, o ≠ .aborted why

namespace Outcome

@[simp] theorem settles_success (value : α) (rest : ι) : (success value rest : Outcome κ ι α).Settles := nofun

@[simp] theorem settles_failure (fault : Fault κ ι) (input : ι) : (failure fault input : Outcome κ ι α).Settles := nofun

namespace Settles

variable {o : Outcome κ ι α}

theorem success_or_failure (h : o.Settles) :
    (∃ value rest, o = .success value rest) ∨ ∃ fault input, o = .failure fault input := by
  cases o with
  | success value rest => exact .inl ⟨value, rest, rfl⟩
  | failure fault input => exact .inr ⟨fault, input, rfl⟩
  | aborted why => exact absurd rfl (h why)

theorem andThen {next : α → ι → Outcome κ ι β} (h : o.Settles)
    (hnext : ∀ value rest, o = success value rest → (next value rest).Settles) : (o.andThen next).Settles := by
  cases o with
  | success value rest => exact hnext value rest rfl
  | failure fault input => exact settles_failure fault input
  | aborted why => exact absurd rfl (h why)

theorem map (h : o.Settles) (f : α → β) : (o.map f).Settles := h.andThen fun _ _ _ => settles_success _ _

theorem restoring (h : o.Settles) (input : ι) : (o.restoring input).Settles := by
  cases o with
  | success value rest => exact settles_success value rest
  | failure fault given => exact settles_failure fault input
  | aborted why => exact absurd rfl (h why)

end Settles
end Outcome

namespace Parser

/-! ## What combinators ask of their parts -/

section Parts

variable {p p' : Parser ι κ α} {q q' : Parser ι κ β} {x : ι}

theorem skipThen_congr (h : ∀ value y, p x = .success value y → q y = q' y) : p.skipThen q x = p.skipThen q' x := by
  rw [skipThen, skipThen]
  cases hp : p x with
  | success value y => rw [Outcome.andThen_success, Outcome.andThen_success, h value y hp]
  | failure fault input => rfl
  | aborted why => rfl

theorem thenSkip_congr (h : p x = p' x) : p.thenSkip q x = p'.thenSkip q x := by
  rw [thenSkip, thenSkip, h]

theorem complete_congr [Cursor ι σ] [Cause κ] (h : p x = p' x) : p.complete x = p'.complete x := by
  rw [complete, complete, h]

theorem tryMap_congr [Seed ζ κ] {f : α → Except ζ β} (h : p x = p' x) : p.tryMap f x = p'.tryMap f x := by
  rw [tryMap, tryMap, h]

theorem andThen_congr (hp : p x = p' x) (hq : ∀ value y, p x = .success value y → q y = q' y) :
    p.andThen q x = p'.andThen q' x := by
  rw [andThen, andThen, ← hp]
  cases h : p x with
  | success value y => rw [Outcome.andThen_success, Outcome.andThen_success, hq value y h]
  | failure fault input => rfl
  | aborted why => rfl

theorem orElse_congr [Cursor ι σ] {parts : Parts ι α} {r r' : Parser ι κ α} (ho : p.Orderly parts) (hp : p x = p' x)
    (hr : p.Fails x → r x = r' x) : p.orElse r x = p'.orElse r' x := by
  have hx := ho x
  rw [orElse, orElse, ← hp]
  cases h : p x with
  | success value y => rfl
  | failure fault input =>
    rw [h] at hx
    obtain rfl := hx.1
    exact hr ⟨fault, input, h⟩
  | aborted why => rfl

variable [Cursor ι σ]

theorem repeatedFrom_congr_row (range : Repetition) (start : ι) : ∀ (rounds count : Nat) (x : ι),
    (∀ values y, p.Row x values y → range.isFull (count + values.length) = false → p y = p' y) →
      repeatedFrom p range start rounds count x = repeatedFrom p' range start rounds count x
  | 0, _, _, _ => rfl
  | rounds + 1, count, x, h => by
    unfold repeatedFrom
    cases hfull : range.isFull count with
    | true => rfl
    | false =>
      rw [← h [] x (.nil x) hfull]
      cases hp : p x with
      | success value y =>
        have hmore := repeatedFrom_congr_row range start rounds (count + 1) y fun values z hrow hroom =>
          h (value :: values) z (.cons hp hrow) (by rwa [List.length_cons, Nat.add_comm values.length, ← Nat.add_assoc])
        dsimp only
        rw [hmore]
      | failure fault input => rfl
      | aborted why => rfl

/-- **A repetition runs its parser only at the ends of rows behind which its range allows more.** -/
theorem repeated_congr_of_room {range : Repetition}
    (h : ∀ values y, p.Row x values y → range.isFull values.length = false → p y = p' y) :
    p.repeated range x = p'.repeated range x :=
  repeatedFrom_congr_row range x _ _ x fun values y hrow hroom => h values y hrow (by rwa [Nat.zero_add] at hroom)

theorem repeated_congr {range : Repetition} (h : ∀ values y, p.Row x values y → p y = p' y) :
    p.repeated range x = p'.repeated range x :=
  repeated_congr_of_room fun values y hrow _ => h values y hrow

/-- **A repetition settles where its parser does**, at the ends of rows. -/
theorem repeated_settles [Distinct ι] {parts : Parts ι α} (ho : p.Orderly parts) {range : Repetition}
    (h : ∀ values y, p.Row x values y → (p y).Settles) : (p.repeated range x).Settles := by
  intro why hwhy
  have htraced : p.Traced range x (p.repeated range x) :=
    traced_repeated ho _ (Distinct.tellsApart x) (Nat.lt_succ_self _)
  rw [hwhy] at htraced
  obtain ⟨values, y, hrow, haborted, -⟩ := htraced
  exact h values y hrow why haborted

theorem orElse_settles {parts : Parts ι α} {r : Parser ι κ α} (ho : p.Orderly parts) (hp : (p x).Settles)
    (hr : p.Fails x → (r x).Settles) : (p.orElse r x).Settles := by
  have hx := (ho x).recover_eq r
  rw [orElse, hx]
  cases h : p x with
  | success value y => exact Outcome.settles_success value y
  | failure fault input => exact hr ⟨fault, input, h⟩
  | aborted why => exact absurd h (hp why)

end Parts

theorem tryMap_settles [Seed ζ κ] {p : Parser ι κ α} {x : ι} (h : (p x).Settles) (f : α → Except ζ β) :
    (p.tryMap f x).Settles := by
  refine h.andThen fun value rest _ => ?_
  cases f value with
  | ok result => exact Outcome.settles_success result rest
  | error seed => exact Outcome.settles_failure _ x

end Parser
end Parsing
