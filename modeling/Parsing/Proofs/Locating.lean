import Parsing.Proofs.Naturality
import Parsing.Proofs.Reach
/-!
# Locating — coordinates change nothing else

A located cursor does what the cursor it wraps does, and counts.  So the relation between a located cursor and the one
in it is a simulation (`Located.simulates`), and a grammar run at a located cursor comes to what it comes to at the
wrapped one, with coordinates (`locating_is_transparent`).  The wrapped cursor may be a located one itself.
-/
namespace Parsing

variable {ι ι' κ : Type}

/-- An outcome of a grammar with all its cursors seen through a map, those in its value included. -/
def Outcome.through (f : ι → ι') : Outcome κ ι (Value (Stretch ι)) → Outcome κ ι' (Value (Stretch ι'))
  | success value rest => success (value.map (Stretch.map f)) (f rest)
  | failure fault input => failure ⟨fault.cause, f fault.position⟩ (f input)
  | aborted why => aborted why

/-- **Outcomes related by a map are one outcome and what is seen of it.** -/
theorem Outcome.Related.eq_through {f : ι → ι'} {o : Outcome κ ι (Value (Stretch ι))}
    {o' : Outcome κ ι' (Value (Stretch ι'))}
    (h : o.Related Eq (fun x x' => x' = f x) (Value.Alike (Stretch.Related fun x x' => x' = f x)) o') :
    o' = o.through f := by
  cases h with
  | success hv hr =>
    have hstretch : ∀ (s : Stretch ι) (s' : Stretch ι'), s.Related (fun x x' => x' = f x) s' → s' = s.map f := by
      rintro ⟨start, stop⟩ ⟨start', stop'⟩ ⟨hstart, hstop⟩
      dsimp only at hstart hstop
      rw [hstart, hstop, Stretch.map]
    rw [hv.eq_map hstretch, hr, through]
  | failure hc hp hi => rw [hc, hp, hi, through]
  | aborted why => rfl

namespace Located

variable [Cursor ι Char]

/-- **A located cursor steps as the one in it steps.** -/
theorem simulates : Cursor.Simulates fun (x : Located ι) (y : ι) => y = x.inner where
  next_none := by
    rintro x _ rfl h
    cases hi : Cursor.next x.inner with
    | none => rfl
    | some step =>
      obtain ⟨line, column, hx⟩ := next_of_inner_some hi
      rw [hx] at h
      cases h
  next_some := by
    rintro x _ y a rfl h
    cases hi : Cursor.next x.inner with
    | none =>
      rw [next_of_inner_none hi] at h
      cases h
    | some step =>
      obtain ⟨line, column, hx⟩ := next_of_inner_some hi
      rw [hx] at h
      cases h
      exact ⟨_, rfl, rfl⟩
  samePosition := by
    rintro x _ y _ rfl rfl
    rfl
  isEmpty := by
    rintro x _ rfl
    rfl
  size? := by
    rintro x _ rfl
    rfl

end Located

/-- **Locating is transparent.**  An expression comes to outcomes of one kind at a located cursor and at the one it
wraps, with the same cause, and with rests, positions of faults, cursors given back and stretches in the values that
agree but for coordinates.  For a grammar this means that its outcome at the wrapped cursor is its outcome at the
located one with all coordinates left out, its rules unrolled to any depth, that of `Grammar.parse` included. -/
theorem locating_is_transparent :
    (∀ {ι κ α α' : Type} [Cursor ι Char] {V : α → α' → Prop} {p : Parser (Located ι) κ α} {p' : Parser ι κ α'},
      Parser.Twins (fun x y => y = x.inner) Eq V p p' → ∀ x : Located ι,
        (p x).Related Eq (fun x y => y = x.inner) V (p' x.inner)) ∧
    ∀ {ι κ ζ : Type} [Cursor ι Char] [Cause κ] [Seed ζ κ] (p : Grammar Char ζ) (rules : Rules Char ζ) (x : Located ι),
      (p.parse rules x.inner : Outcome κ ι (Value (Stretch ι))) =
        (p.parse rules x : Outcome κ (Located ι) (Value (Stretch (Located ι)))).through Located.inner ∧
      ∀ depth, (p.run (rules.call depth) x.inner : Outcome κ ι (Value (Stretch ι))) =
        (p.run (rules.call depth) x : Outcome κ (Located ι) (Value (Stretch (Located ι)))).through Located.inner := by
  constructor
  · intro ι κ α α' _ V p p' h x
    exact h.related Located.simulates x x.inner rfl
  · intro ι κ ζ _ _ _ p rules x
    have hC : Cause.Simulates (Eq : κ → κ → Prop) := Cause.simulates_eq κ
    have hζ : Seed.Simulates ζ (Eq : κ → κ → Prop) := fun _ => rfl
    have hR : Cursor.Simulates fun (x : Located ι) (y : ι) => y = x.inner := Located.simulates
    constructor
    · exact ((Grammar.twins_parse hC hζ hR p rules).related hR x x.inner rfl).eq_through
    · intro depth
      have hcall := Grammar.twins_call hC hζ hR rules depth
      exact ((Grammar.twins_run hC hζ hR hcall p).related hR x x.inner rfl).eq_through

theorem locating_is_transparent_of_digits :
    let x : Located Text := ⟨⟨5, ['4', '2', '+']⟩, 2, 3⟩
    let y : Located Text := ⟨⟨7, ['+']⟩, 2, 5⟩
    (Calculator.digits : Parser (Located Text) TextCause _) x = .success ⟨x, y⟩ y ∧
      (Calculator.digits : Parser Text TextCause _) x.inner = .success ⟨x.inner, y.inner⟩ y.inner := by
  intro x y
  have hx : (Calculator.digits : Parser (Located Text) TextCause _) x = .success ⟨x, y⟩ y := rfl
  have h := locating_is_transparent.1 (Calculator.twins_digits (R := fun (x : Located Text) y => y = x.inner)) x
  rw [hx] at h
  generalize (Calculator.digits : Parser Text TextCause _) x.inner = o at h ⊢
  cases h with
  | @success _ s _ rest hs hr =>
    obtain ⟨start, stop⟩ := s
    obtain ⟨hstart, hstop⟩ := hs
    dsimp only at hstart hstop
    rw [hstart, hstop, hr]
    exact ⟨hx, rfl⟩

end Parsing
