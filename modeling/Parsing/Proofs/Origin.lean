import Parsing.Proofs.Isolation
import Parsing.Proofs.Locating
/-!
# Origin — where coordinates are counted from

A located cursor may be anywhere in a text, with any line and column; counting the same characters from line 1, column 1
gives other coordinates.  The two differ by a shift (`Located.shift`): lines by as many as lie before, columns likewise
while the line is still the first, and not at all behind the first break.  Counting keeps this relation, along a line
and from one line to the next, so it is a simulation (`Located.simulates_shifted`), and a parser comes to the same from
both, coordinates shifted (`origin_shifts_coordinates`).  It does not matter where a break falls, nor that a parser goes
back over one.
-/
namespace Parsing

open Cursor (InStep Reaches Truthful after left symbols)

/-- **Related cursors lead to related cursors**, by as many steps. -/
theorem Cursor.Simulates.after {ι ι' σ : Type} [Cursor ι σ] [Cursor ι' σ] {R : ι → ι' → Prop}
    (hR : Cursor.Simulates R) : ∀ (count : Nat) {x : ι} {y : ι'}, R x y → R (Cursor.after count x) (Cursor.after count y)
  | 0, _, _, h => h
  | count + 1, x, y, h => by
    cases hn : Cursor.next x with
    | none =>
      rw [Cursor.after_of_none hn, Cursor.after_of_none (hR.next_none h hn)]
      exact h
    | some step =>
      obtain ⟨a, x'⟩ := step
      obtain ⟨y', hn', hy⟩ := hR.next_some h hn
      rw [Cursor.after_succ_of_some hn, Cursor.after_succ_of_some hn']
      exact hR.after count hy

namespace Located

variable {ι ι' : Type} [Cursor ι Char] [Cursor ι' Char]

/-- What coordinates counted from line 1, column 1 are when counted from an origin: lines go on from the origin's, and
so do columns on the first line; behind a break columns start anew. -/
def shift (origin place : Nat × Nat) : Nat × Nat :=
  (origin.1 + place.1 - 1, if place.1 = 1 then origin.2 + place.2 - 1 else place.2)

theorem shift_start (origin : Nat × Nat) : shift origin (1, 1) = origin := rfl

/-- Coordinates counted from an origin, and those counted from line 1, column 1. -/
def ShiftedBy (origin shifted place : Nat × Nat) : Prop :=
  1 ≤ place.1 ∧ 1 ≤ place.2 ∧ shifted = shift origin place

/-- **Counting keeps a shift.**  A break takes the line away from the first, so the column is no longer shifted. -/
theorem counting_shiftedBy (origin : Nat × Nat) : Counting (ShiftedBy origin) where
  along := by
    rintro line column line' column' ⟨hline, hcolumn, h⟩
    obtain ⟨rfl, rfl⟩ := Prod.mk.inj h
    refine ⟨hline, Nat.le_add_left 1 _, Prod.ext rfl ?_⟩
    dsimp only [shift] at hcolumn ⊢
    by_cases hfirst : line' = 1
    · rw [if_pos hfirst, if_pos hfirst]
      omega
    · rw [if_neg hfirst, if_neg hfirst]
  across := by
    rintro line column line' column' ⟨hline, hcolumn, h⟩
    obtain ⟨rfl, -⟩ := Prod.mk.inj h
    refine ⟨Nat.le_add_left 1 _, Nat.le_refl 1, Prod.ext ?_ ?_⟩
    · dsimp only [shift] at hline ⊢
      omega
    · dsimp only [shift] at hline ⊢
      rw [if_neg (by omega)]

theorem Counting.flip {K : Nat × Nat → Nat × Nat → Prop} (hK : Counting K) : Counting (flip K) where
  along h := hK.along h
  across h := hK.across h

/-- Located cursors over related cursors, the first counted from an origin, the second from line 1, column 1. -/
def Shifted (origin : Nat × Nat) (R : ι → ι' → Prop) (x : Located ι) (x' : Located ι') : Prop :=
  R x.inner x'.inner ∧ ShiftedBy origin x.coordinates x'.coordinates

/-- **A shift is a simulation.** -/
theorem simulates_shifted {R : ι → ι' → Prop} (hR : Cursor.Simulates R) (origin : Nat × Nat) :
    Cursor.Simulates (Shifted origin R) :=
  simulates_counting hR (counting_shiftedBy origin)

theorem shiftedBy_start (origin : Nat × Nat) : ShiftedBy origin origin (1, 1) :=
  ⟨Nat.le_refl 1, Nat.le_refl 1, (shift_start origin).symm⟩

/-- How many symbols are left, and line and column as counted from an origin. -/
def sightFrom (origin : Nat × Nat) (x : Located ι) : Nat × Nat × Nat := (left x, shift origin x.coordinates)

/-- The symbols, and line and column of both ends as counted from an origin. -/
def stretchSightFrom (origin : Nat × Nat) (s : Stretch (Located ι)) : List Char × (Nat × Nat) × (Nat × Nat) :=
  (symbols s, shift origin s.start.coordinates, shift origin s.stop.coordinates)

/-- **The coordinates of a located cursor inside another** are those of the other, shifted to where the inner one stood
when the other was made around it. -/
theorem inner_coordinates_of_reaches {x : Located ι} {y : Located (Located ι)} (h : Reaches (ofCursor x) y) :
    y.inner.coordinates = shift x.coordinates y.coordinates := by
  obtain ⟨count, -, rfl⟩ := h
  have hR := simulates_counting (simulates (ι := ι)) (counting_shiftedBy x.coordinates).flip
  have hafter := hR.after count (x := ofCursor x) (y := x) ⟨rfl, shiftedBy_start x.coordinates⟩
  rw [inner_after]
  exact hafter.2.2.2

end Located

end Parsing
