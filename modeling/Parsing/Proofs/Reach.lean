import Parsing.Cursor.Indexed
import Parsing.Cursor.Located
import Parsing.Cursor.Stretch
/-!
# Reach — where stepping leads

`after count x` is the cursor that `count` steps lead to from `x`; at the end of the input a step stays where it is.  A
cursor is reached from another by at most as many steps as there are symbols left (`Reaches`), so what is reached never
lies behind the end.  On a stretch this end is its stop: stepping keeps the stop, and no position reached from the start
lies behind it (`Stretch.within_of_reaches`).
-/
namespace Parsing
namespace Cursor

variable {ι σ : Type} [Cursor ι σ]

/-- The cursor that so many steps lead to. -/
def after (count : Nat) (x : ι) : ι := (advanceBySteps next count x).2

/-- The second cursor comes out of the first by so many steps, no more than there are symbols left. -/
def Reaches (x y : ι) : Prop := ∃ count ≤ left x, after count x = y

@[simp] theorem after_zero (x : ι) : after 0 x = x := rfl

theorem after_succ_of_some {x y : ι} {a : σ} (h : next x = some (a, y)) (count : Nat) :
    after (count + 1) x = after count y := by
  simp only [after, advanceBySteps, h]

theorem after_of_none {x : ι} (h : next x = none) : ∀ (count : Nat), after count x = x
  | 0 => rfl
  | count + 1 => by simp only [after, advanceBySteps, h]

/-- **Steps add up.** -/
theorem after_add : ∀ (j k : Nat) (x : ι), after (j + k) x = after k (after j x)
  | 0, k, x => by rw [Nat.zero_add, after_zero]
  | j + 1, k, x => by
    cases h : next x with
    | none => rw [after_of_none h, after_of_none h, after_of_none h]
    | some step =>
      obtain ⟨a, y⟩ := step
      rw [Nat.succ_add, after_succ_of_some h, after_succ_of_some h, after_add j k y]

/-- **So many steps drop so many symbols.** -/
theorem symbols_after : ∀ (count : Nat) (x : ι), symbols (after count x) = (symbols x).drop count
  | 0, x => by rw [after_zero, List.drop_zero]
  | count + 1, x => by
    cases h : next x with
    | none => rw [after_of_none h, symbols_of_next_eq_none h, List.drop_nil]
    | some step =>
      obtain ⟨a, y⟩ := step
      rw [after_succ_of_some h, symbols_after count y, symbols_of_next_eq_some h, List.drop_succ_cons]

theorem symbols_after_length {x : ι} {as tail : List σ} (h : symbols x = as ++ tail) :
    symbols (after as.length x) = tail := by
  rw [symbols_after, h, List.drop_left]

theorem left_after (count : Nat) (x : ι) : left (after count x) = left x - count := by
  rw [left, symbols_after, List.length_drop, left]

theorem after_eq_after_left : ∀ (count : Nat) (x : ι), left x ≤ count → after count x = after (left x) x
  | 0, x, h => by rw [Nat.le_zero.1 h]
  | count + 1, x, h => by
    cases hn : next x with
    | none => rw [after_of_none hn, after_of_none hn]
    | some step =>
      obtain ⟨a, y⟩ := step
      have hl := left_of_next_eq_some hn
      rw [hl, after_succ_of_some hn, after_succ_of_some hn, after_eq_after_left count y (by omega)]

theorem reaches_after (count : Nat) (x : ι) : Reaches x (after count x) := by
  rcases Nat.le_total count (left x) with h | h
  · exact ⟨count, h, rfl⟩
  · exact ⟨left x, Nat.le_refl _, (after_eq_after_left count x h).symm⟩

namespace Reaches

theorem refl (x : ι) : Reaches x x := ⟨0, Nat.zero_le _, rfl⟩

theorem trans {x y z : ι} (hxy : Reaches x y) (hyz : Reaches y z) : Reaches x z := by
  obtain ⟨j, -, rfl⟩ := hxy
  obtain ⟨k, -, rfl⟩ := hyz
  rw [← after_add]
  exact reaches_after _ x

theorem of_next {x y : ι} {a : σ} (h : next x = some (a, y)) : Reaches x y := by
  have hy : after 1 x = y := by rw [after_succ_of_some h, after_zero]
  exact hy ▸ reaches_after 1 x

theorem left_le {x y : ι} (h : Reaches x y) : left y ≤ left x := by
  obtain ⟨count, -, rfl⟩ := h
  rw [left_after]
  exact Nat.sub_le _ _

/-- **The number of symbols left tells cursors reached from one start apart.** -/
theorem eq_of_left_eq {x y z : ι} (hy : Reaches x y) (hz : Reaches x z) (h : left y = left z) : y = z := by
  obtain ⟨j, hj, rfl⟩ := hy
  obtain ⟨k, hk, rfl⟩ := hz
  rw [left_after, left_after] at h
  rw [show j = k by omega]

theorem eq_of_left_eq_self {x y : ι} (h : Reaches x y) (hl : left y = left x) : y = x :=
  eq_of_left_eq h (refl x) hl

theorem of_left_le {x y z : ι} (hy : Reaches x y) (hz : Reaches x z) (h : left z ≤ left y) : Reaches y z := by
  obtain ⟨j, hj, rfl⟩ := hy
  obtain ⟨k, hk, rfl⟩ := hz
  rw [left_after, left_after] at h
  have hjk : after k x = after (k - j) (after j x) := by rw [← after_add, show j + (k - j) = k by omega]
  rw [hjk]
  exact reaches_after _ _

/-- **A cursor reached from another lacks the symbols between them.** -/
theorem exists_front {x y : ι} (h : Reaches x y) :
    ∃ front, y = after front.length x ∧ symbols x = front ++ symbols y := by
  obtain ⟨count, hle, rfl⟩ := h
  refine ⟨(symbols x).take count, ?_, ?_⟩
  · rw [List.length_take_of_le hle]
  · rw [symbols_after, List.take_append_drop]

theorem eq_after {x y : ι} {as : List σ} (h : Reaches x y) (hs : symbols x = as ++ symbols y) : y = after as.length x := by
  obtain ⟨front, hy, hx⟩ := h.exists_front
  rwa [List.append_cancel_right (hx.symm.trans hs)] at hy

end Reaches

/-- Cursors of a type that finds every cursor at the place of itself. -/
class SelfSame (ι : Type) {σ : Type} [Cursor ι σ] : Prop where
  samePosition_self : ∀ x : ι, samePosition x x = true

end Cursor

open Cursor (after Reaches SelfSame samePosition)

variable {ι σ : Type} [Cursor ι σ]

instance : SelfSame Text := ⟨fun x => by simp⟩

instance [Width σ] : SelfSame (Slice σ) := ⟨fun x => by simp [Cursor.samePosition]⟩

instance : SelfSame (Indexed σ) := ⟨fun x => by simp [Cursor.samePosition]⟩

instance {ι : Type} [Cursor ι Char] [SelfSame ι] : SelfSame (Located ι) :=
  ⟨fun x => SelfSame.samePosition_self x.inner⟩

instance [SelfSame ι] : SelfSame (Stretch ι) := ⟨fun s => SelfSame.samePosition_self s.start⟩

namespace Located

variable {ι : Type} [Cursor ι Char]

theorem next_of_inner_none {x : Located ι} (h : Cursor.next x.inner = none) : Cursor.next x = none := by
  show Located.next x = none
  rw [Located.next, h]

theorem next_of_inner_some {x : Located ι} {y : ι} {c : Char} (h : Cursor.next x.inner = some (c, y)) :
    ∃ line column, Cursor.next x = some (c, ⟨y, line, column⟩) := by
  show ∃ line column, Located.next x = some (c, ⟨y, line, column⟩)
  rw [Located.next, h]
  dsimp only
  split
  · exact ⟨_, _, rfl⟩
  · exact ⟨_, _, rfl⟩

/-- **Steps of a located cursor are steps of the one in it.** -/
theorem inner_after : ∀ (count : Nat) (x : Located ι), (after count x).inner = after count x.inner
  | 0, _ => rfl
  | count + 1, x => by
    cases hi : Cursor.next x.inner with
    | none => rw [Cursor.after_of_none (next_of_inner_none hi), Cursor.after_of_none hi]
    | some step =>
      obtain ⟨c, y⟩ := step
      obtain ⟨line, column, hx⟩ := next_of_inner_some hi
      rw [Cursor.after_succ_of_some hx, Cursor.after_succ_of_some hi, inner_after count]

theorem reaches_inner {x y : Located ι} (h : Reaches x y) : Reaches x.inner y.inner := by
  obtain ⟨count, -, rfl⟩ := h
  rw [inner_after]
  exact Cursor.reaches_after count x.inner

end Located

namespace Stretch

theorem next_eq_none_of_samePosition {s : Stretch ι} (h : samePosition s.start s.stop = true) :
    Cursor.next s = none := if_pos h

theorem next_eq_map_of_not_samePosition {s : Stretch ι} (h : samePosition s.start s.stop = false) :
    Cursor.next s = (Cursor.next s.start).map fun step => (step.1, { s with start := step.2 }) := by
  show Stretch.next s = _
  rw [Stretch.next, Stretch.isEmpty, h]
  rfl

/-- A step of a stretch keeps its stop and is a step of its start, which does not stand at the stop. -/
theorem next_eq_some {s t : Stretch ι} {a : σ} (h : Cursor.next s = some (a, t)) :
    samePosition s.start s.stop = false ∧ Cursor.next s.start = some (a, t.start) ∧ t.stop = s.stop := by
  cases hs : samePosition s.start s.stop with
  | true => rw [next_eq_none_of_samePosition hs] at h; cases h
  | false =>
    rw [next_eq_map_of_not_samePosition hs] at h
    obtain ⟨⟨b, y⟩, hy, heq⟩ := Option.map_eq_some_iff.1 h
    cases heq
    exact ⟨rfl, hy, rfl⟩

/-- Whatever its stop, a stretch keeps it and moves its start along. -/
theorem start_after : ∀ (count : Nat) (s : Stretch ι),
    (after count s).stop = s.stop ∧ Reaches s.start (after count s).start
  | 0, s => ⟨rfl, Reaches.refl _⟩
  | count + 1, s => by
    cases hn : Cursor.next s with
    | none =>
      rw [Cursor.after_of_none hn]
      exact ⟨rfl, Reaches.refl _⟩
    | some step =>
      obtain ⟨a, t⟩ := step
      obtain ⟨-, hstart, hstop⟩ := next_eq_some hn
      obtain ⟨h1, h2⟩ := start_after count t
      rw [Cursor.after_succ_of_some hn, h1, hstop]
      exact ⟨rfl, (Reaches.of_next hstart).trans h2⟩

theorem start_of_reaches {s t : Stretch ι} (h : Reaches s t) : t.stop = s.stop ∧ Reaches s.start t.start := by
  obtain ⟨count, -, rfl⟩ := h
  exact start_after count s

/-- **Steps of a stretch whose start reaches its stop keep the stop ahead.** -/
theorem after_within [SelfSame ι] : ∀ (count : Nat) (s : Stretch ι), Reaches s.start s.stop →
    (after count s).stop = s.stop ∧ Reaches s.start (after count s).start ∧ Reaches (after count s).start s.stop
  | 0, s, h => ⟨rfl, Reaches.refl _, h⟩
  | count + 1, s, h => by
    cases hn : Cursor.next s with
    | none =>
      rw [Cursor.after_of_none hn]
      exact ⟨rfl, Reaches.refl _, h⟩
    | some step =>
      obtain ⟨a, t⟩ := step
      obtain ⟨hne, hstart, hstop⟩ := next_eq_some hn
      have hstep := Reaches.of_next hstart
      -- The stop is not at the start, so it is reached from the cursor behind the first symbol.
      have hleft : Cursor.left s.stop ≤ Cursor.left t.start := by
        have hl := Cursor.left_of_next_eq_some hstart
        have hle := h.left_le
        by_cases heq : Cursor.left s.stop = Cursor.left s.start
        · rw [h.eq_of_left_eq_self heq, SelfSame.samePosition_self] at hne
          cases hne
        · omega
      have ht : Reaches t.start t.stop := by
        rw [hstop]
        exact hstep.of_left_le h hleft
      obtain ⟨h1, h2, h3⟩ := after_within count t ht
      rw [Cursor.after_succ_of_some hn, h1, hstop]
      exact ⟨rfl, hstep.trans h2, hstop ▸ h3⟩

/-- **A stretch reached from another has its stop, and starts between its start and its stop.** -/
theorem within_of_reaches [SelfSame ι] {s t : Stretch ι} (h : Reaches s t) (hs : Reaches s.start s.stop) :
    t.stop = s.stop ∧ Reaches s.start t.start ∧ Reaches t.start s.stop := by
  obtain ⟨count, -, rfl⟩ := h
  exact after_within count s hs

end Stretch
end Parsing
