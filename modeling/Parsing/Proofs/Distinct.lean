import Parsing.Proofs.Reach
/-!
# Distinct positions — cursors that tell their places apart

On most types of cursors, two cursors reached from one start are at the same place only if they are the same cursor
(`Cursor.Distinct`); slices of elements without width are the exception.  There a stretch between two reached cursors
holds exactly the symbols between them (`Cursor.TellsApart.symbols_stretch_after`).
-/
namespace Parsing
namespace Cursor

variable {ι σ : Type} [Cursor ι σ]

/-- Cursors of a type that tells places apart. -/
class Distinct (ι : Type) {σ : Type} [Cursor ι σ] : Prop where
  samePosition_iff : ∀ {x y z : ι}, Reaches x y → Reaches x z → (samePosition y z = true ↔ y = z)

/-- It is enough that a cursor is at its own place, and at that of no other cursor ahead of it. -/
theorem distinct_of_ahead (hself : ∀ x : ι, samePosition x x = true)
    (hahead : ∀ {y z : ι}, Reaches y z → samePosition y z = true ∨ samePosition z y = true → y = z) : Distinct ι where
  samePosition_iff := by
    intro x y z hy hz
    constructor
    · intro h
      rcases Nat.le_total (left z) (left y) with hle | hle
      · exact hahead (hy.of_left_le hz hle) (Or.inl h)
      · exact (hahead (hz.of_left_le hy hle) (Or.inr h)).symm
    · rintro rfl
      exact hself y

instance [Distinct ι] : SelfSame ι := ⟨fun x => (Distinct.samePosition_iff (Reaches.refl x) (Reaches.refl x)).2 rfl⟩

/-- From this cursor on, two cursors are at the same place only if they are the same cursor. -/
def TellsApart (x : ι) : Prop := ∀ ⦃y z : ι⦄, Reaches x y → Reaches x z → (samePosition y z = true ↔ y = z)

theorem Distinct.tellsApart [Distinct ι] (x : ι) : TellsApart x := fun _ _ => Distinct.samePosition_iff

namespace TellsApart

variable {x y : ι} (hx : TellsApart x)
include hx

theorem of_reaches (h : Reaches x y) : TellsApart y := fun _ _ hz hw => hx (h.trans hz) (h.trans hw)

theorem samePosition_self : ∀ y, Reaches x y → samePosition y y = true := fun _ hy => (hx hy hy).2 rfl

/-- **A cursor with less left is at another place.** -/
theorem not_samePosition (h : Reaches x y) (hlt : left y < left x) : samePosition y x = false := by
  rw [Bool.eq_false_iff]
  intro hs
  rw [hx h (Reaches.refl x)] at hs
  rw [hs] at hlt
  omega

end TellsApart

/-- **Cursors ahead of one cursor are at the same place exactly when as much is left at both.** -/
theorem samePosition_iff_left_eq [Distinct ι] {x y z : ι} (hy : Reaches x y) (hz : Reaches x z) :
    samePosition y z = true ↔ left y = left z :=
  (Distinct.samePosition_iff hy hz).trans ⟨congrArg left, hy.eq_of_left_eq hz⟩

end Cursor

open Cursor (Distinct Reaches after left)

namespace Text

theorem offset_add_le_offset_after : ∀ (count : Nat) (x : Text), count ≤ left x →
    x.offset + count ≤ (after count x).offset
  | 0, x, _ => Nat.le_refl _
  | count + 1, ⟨offset, []⟩, h => absurd h (Nat.not_succ_le_zero _)
  | count + 1, ⟨offset, c :: cs⟩, h => by
    have hn : Cursor.next (⟨offset, c :: cs⟩ : Text) = some (c, ⟨offset + c.utf8Size, cs⟩) := rfl
    have hl := Cursor.left_of_next_eq_some hn
    have ih := offset_add_le_offset_after count ⟨offset + c.utf8Size, cs⟩ (by omega)
    have hc := c.utf8Size_pos
    rw [Cursor.after_succ_of_some hn]
    dsimp only at ih ⊢
    omega

/-- **Texts tell places apart**: the byte offset grows with every step. -/
instance : Distinct Text := Cursor.distinct_of_ahead (fun x => by simp) (by
  rintro y _ ⟨count, hle, rfl⟩ h
  have hoffset : y.offset = (after count y).offset := by
    rcases h with h | h
    · exact (samePosition_iff _ _).1 h
    · exact ((samePosition_iff _ _).1 h).symm
  have hgrow := offset_add_le_offset_after count y hle
  have hzero : count = 0 := by omega
  rw [hzero, Cursor.after_zero])

end Text

/-- Elements that take room. -/
class Width.Positive (σ : Type) [Width σ] : Prop where
  bytes_pos : 0 < Width.bytes σ

instance : Width.Positive Int := ⟨by decide⟩
instance : Width.Positive UInt8 := ⟨by decide⟩

namespace Slice

variable {σ : Type} [Width σ]

theorem index_after : ∀ (count : Nat) (x : Slice σ), count ≤ left x → (after count x).index = x.index + count
  | 0, x, _ => rfl
  | count + 1, ⟨index, []⟩, h => absurd h (Nat.not_succ_le_zero _)
  | count + 1, ⟨index, a :: as⟩, h => by
    have hn : Cursor.next (⟨index, a :: as⟩ : Slice σ) = some (a, ⟨index + 1, as⟩) := rfl
    have hl := Cursor.left_of_next_eq_some hn
    rw [Cursor.after_succ_of_some hn, index_after count ⟨index + 1, as⟩ (by omega)]
    dsimp only
    omega

/-- **Slices of elements that take room tell places apart**: the index grows with every step, and so does the
address. -/
instance [Width.Positive σ] : Distinct (Slice σ) := Cursor.distinct_of_ahead Cursor.SelfSame.samePosition_self (by
  rintro y _ ⟨count, hle, rfl⟩ h
  have haddress : y.address = (after count y).address := by
    rcases h with h | h
    · exact beq_iff_eq.1 h
    · exact (beq_iff_eq.1 h).symm
  have hindex := Nat.eq_of_mul_eq_mul_left Width.Positive.bytes_pos haddress
  rw [index_after count y hle] at hindex
  have hzero : count = 0 := by omega
  rw [hzero, Cursor.after_zero])

end Slice

/-- **Located cursors tell places apart** when the ones in them do: line and column follow from the place. -/
instance {ι : Type} [Cursor ι Char] [Distinct ι] : Distinct (Located ι) where
  samePosition_iff := by
    intro x y z hy hz
    have hinner := Distinct.samePosition_iff (Located.reaches_inner hy) (Located.reaches_inner hz)
    constructor
    · intro h
      have hleft : left y = left z := by
        show left y.inner = left z.inner
        rw [hinner.1 h]
      exact hy.eq_of_left_eq hz hleft
    · rintro rfl
      exact hinner.2 rfl

/-- **Stretches tell places apart** when the cursors in them do, for they move their starts alone. -/
instance {ι σ : Type} [Cursor ι σ] [Distinct ι] : Distinct (Stretch ι) where
  samePosition_iff := by
    intro s t u ht hu
    obtain ⟨htstop, htstart⟩ := Stretch.start_of_reaches ht
    obtain ⟨hustop, hustart⟩ := Stretch.start_of_reaches hu
    have hstart : Cursor.samePosition t u = true ↔ t.start = u.start := Distinct.samePosition_iff htstart hustart
    rw [hstart]
    constructor
    · intro h
      calc t = ⟨t.start, t.stop⟩ := rfl
        _ = ⟨u.start, u.stop⟩ := by rw [h, htstop, hustop]
    · exact congrArg Stretch.start

namespace Cursor.TellsApart

variable {ι σ : Type} [Cursor ι σ] {x y : ι}

/-- **Between a cursor and the one some steps ahead lie just the symbols stepped over.** -/
theorem symbols_stretch_after : ∀ (count : Nat) {x : ι}, TellsApart x → count ≤ left x →
    symbols (⟨x, after count x⟩ : Stretch ι) = (symbols x).take count
  | 0, x, hx, _ => by
    rw [List.take_zero]
    exact symbols_of_next_eq_none
      (Stretch.next_eq_none_of_samePosition (hx.samePosition_self x (Reaches.refl x)))
  | count + 1, x, hx, h => by
    cases hn : next x with
    | none =>
      rw [left, symbols_of_next_eq_none hn] at h
      exact absurd h (Nat.not_succ_le_zero _)
    | some step =>
      obtain ⟨a, y⟩ := step
      have hl := left_of_next_eq_some hn
      have hplace : samePosition x (after (count + 1) x) = false := by
        rw [Bool.eq_false_iff]
        intro hs
        rw [hx (Reaches.refl x) (reaches_after _ x)] at hs
        have hleft := left_after (count + 1) x
        rw [← hs] at hleft
        omega
      have hnext := Stretch.next_eq_map_of_not_samePosition (s := ⟨x, after (count + 1) x⟩) hplace
      rw [hn, Option.map_some] at hnext
      rw [symbols_of_next_eq_some hnext, symbols_of_next_eq_some hn, List.take_succ_cons,
        after_succ_of_some hn, symbols_stretch_after count (hx.of_reaches (Reaches.of_next hn)) (by omega)]

/-- **A stretch and what is left at its stop make up what is left at its start.** -/
theorem symbols_stretch_append (hx : TellsApart x) (h : Reaches x y) :
    symbols (⟨x, y⟩ : Stretch ι) ++ symbols y = symbols x := by
  obtain ⟨count, hle, rfl⟩ := h
  rw [hx.symbols_stretch_after count hle, symbols_after, List.take_append_drop]

/-- The stretch over some symbols holds them. -/
theorem symbols_stretch_of_append {as tail : List σ} (hx : TellsApart x) (h : symbols x = as ++ tail) :
    symbols (⟨x, after as.length x⟩ : Stretch ι) = as := by
  have happend := hx.symbols_stretch_append (reaches_after as.length x)
  rw [symbols_after_length h, h] at happend
  exact List.append_cancel_right happend

end Cursor.TellsApart

theorem Stretch.symbols_of_after {ι σ : Type} [Cursor ι σ] [Distinct ι] (count : Nat) (x : ι) (h : count ≤ left x) :
    Cursor.symbols (⟨x, after count x⟩ : Stretch ι) = (Cursor.symbols x).take count :=
  (Distinct.tellsApart x).symbols_stretch_after count h

/-- **What is left of a stretch is what is left at its start, less what is left at its stop.** -/
theorem Stretch.left_eq_sub {ι σ : Type} [Cursor ι σ] [Distinct ι] {a b : ι} (h : Reaches a b) :
    left (⟨a, b⟩ : Stretch ι) = left a - left b := by
  obtain ⟨count, hle, rfl⟩ := h
  rw [left, symbols_of_after count a hle, List.length_take, Cursor.left_after, ← left]
  omega

end Parsing
