import Parsing.Proofs.Agreement
import Parsing.Proofs.Coordinates
import Parsing.Proofs.Naturality
/-!
# Isolation — a stretch as input is its symbols and nothing more

The cursor in a stretch still sees what lies behind the stop; the stretch ends only because it compares places.  On a
source, a type of cursors that tell places apart and know their ends, that is enough: the stretch from one cursor to
another steps, compares and ends like any source that holds just the symbols between them (`Stretch.simulates_copy`).
Counting lines and columns keeps this (`Located.simulates_over`), the look behind a CR included.  So a parser run on the
stretch comes to what it comes to on the copy (`stretch_isolates`).
-/
namespace Parsing

open Cursor (after left Reaches Truthful samePosition symbols)

variable {ι ι' σ κ τ υ : Type}

/-- Cursors that tell places apart, know whether they stand at the end, and know how many symbols are left either all of
them or none. -/
class Cursor.Source (ι : Type) {σ : Type} [Cursor ι σ] : Prop extends Cursor.Distinct ι where
  isEmpty_iff : ∀ {x : ι}, isEmpty x = true ↔ symbols x = []
  size?_eq : (∀ x : ι, size? x = none) ∨ ∀ x : ι, size? x = some (left x)

instance : Cursor.Source Text where
  isEmpty_iff := List.isEmpty_iff
  size?_eq := Or.inl fun _ => rfl

instance [Width σ] [Width.Positive σ] : Cursor.Source (Slice σ) where
  isEmpty_iff := List.isEmpty_iff
  size?_eq := Or.inr fun _ => rfl

/-- The symbols stepped over on the way from one cursor to another. -/
def Cursor.between [Cursor ι σ] (a b : ι) : List σ := (symbols a).take (left a - left b)

/-! ## In step -/

namespace Cursor

variable [Cursor ι σ] [Cursor ι' σ]

/-- Cursors that as many steps lead to, each from its start. -/
def InStep (x : ι) (x' : ι') (y : ι) (y' : ι') : Prop := ∃ count, y = after count x ∧ y' = after count x'

variable {x : ι} {x' : ι'}

theorem InStep.symbols_eq (hs : symbols x = symbols x') {y : ι} {y' : ι'} (h : InStep x x' y y') :
    symbols y = symbols y' := by
  obtain ⟨count, rfl, rfl⟩ := h
  rw [symbols_after, symbols_after, hs]

/-- **Truthful cursors over the same symbols simulate each other**, if both know how many are left or neither does. -/
theorem simulates_inStep (hx : Truthful x) (hx' : Truthful x') (hs : symbols x = symbols x')
    (hsize : size? x = size? x') : Simulates (InStep x x') where
  next_none := by
    intro y y' h hn
    rw [next_eq_none_iff] at hn ⊢
    rw [← h.symbols_eq hs, hn]
  next_some := by
    intro y y' z a h hn
    have hy := h.symbols_eq hs
    obtain ⟨count, rfl, rfl⟩ := h
    rw [symbols_of_next_eq_some hn] at hy
    cases hn' : next (after count x') with
    | none => rw [symbols_of_next_eq_none hn'] at hy; cases hy
    | some step =>
      obtain ⟨b, z'⟩ := step
      rw [symbols_of_next_eq_some hn'] at hy
      obtain ⟨rfl, -⟩ := List.cons.inj hy
      refine ⟨z', rfl, count + 1, ?_, ?_⟩
      · rw [after_add, after_succ_of_some hn, after_zero]
      · rw [after_add, after_succ_of_some hn', after_zero]
  samePosition := by
    intro y y' z z' hy hz
    have hly : left y = left y' := congrArg List.length (hy.symbols_eq hs)
    have hlz : left z = left z' := congrArg List.length (hz.symbols_eq hs)
    obtain ⟨j, rfl, rfl⟩ := hy
    obtain ⟨k, rfl, rfl⟩ := hz
    rw [Bool.eq_iff_iff, hx.samePosition_iff (reaches_after j x) (reaches_after k x),
      hx'.samePosition_iff (reaches_after j x') (reaches_after k x'), hly, hlz]
  isEmpty := by
    intro y y' h
    have hl : left y = left y' := congrArg List.length (h.symbols_eq hs)
    obtain ⟨count, rfl, rfl⟩ := h
    rw [Bool.eq_iff_iff, hx.isEmpty_iff (reaches_after count x), hx'.isEmpty_iff (reaches_after count x'), hl]
  size? := by
    intro y y' h
    have hl : left y = left y' := congrArg List.length (h.symbols_eq hs)
    obtain ⟨count, rfl, rfl⟩ := h
    -- What both know at their starts they know all along.
    rcases hx.size?_eq with hnone | hsome <;> rcases hx'.size?_eq with hnone' | hsome'
    · rw [hnone (reaches_after count x), hnone' (reaches_after count x')]
    · rw [hnone (Reaches.refl x), hsome' (Reaches.refl x')] at hsize
      cases hsize
    · rw [hsome (Reaches.refl x), hnone' (Reaches.refl x')] at hsize
      cases hsize
    · rw [hsome (reaches_after count x), hsome' (reaches_after count x'), hl]

theorem Source.truthful [Source ι] (x : ι) : Truthful x where
  isEmpty_iff := by
    intro y _
    rw [Source.isEmpty_iff, left, List.length_eq_zero_iff]
  size?_eq := Source.size?_eq.imp (fun hnone y _ => hnone y) fun hsome y _ => hsome y
  samePosition_iff := samePosition_iff_left_eq

end Cursor

/-! ## Stretches -/

namespace Stretch

variable [Cursor ι σ]

/-- **Between a cursor and one reached from it lie just the symbols stepped over.** -/
theorem symbols_eq_between [Cursor.Distinct ι] {a b : ι} (h : Reaches a b) :
    Cursor.symbols (⟨a, b⟩ : Stretch ι) = Cursor.between a b := by
  obtain ⟨count, hle, rfl⟩ := h
  rw [symbols_of_after count a hle, Cursor.between, Cursor.left_after, Nat.sub_sub_self hle]

variable [Cursor.Source ι]

/-- A stretch knows its size where cursors of its source do. -/
theorem size?_eq_of_source {a b y : ι} (hab : Reaches a b) (hy : Cursor.symbols (⟨a, b⟩ : Stretch ι) = Cursor.symbols y) :
    Cursor.size? (⟨a, b⟩ : Stretch ι) = Cursor.size? y := by
  have hl : left y = left a - left b := by rw [← left_eq_sub hab, left, left, hy]
  change Stretch.size? _ = _
  rw [Stretch.size?]
  rcases Cursor.Source.size?_eq (ι := ι) (σ := σ) with hsize | hsize
  · rw [hsize, hsize, hsize]
  · rw [hsize, hsize, hsize, hl]
    exact if_pos hab.left_le

/-- The stretch between two cursors after some steps, and a copy of it after as many. -/
def Copies (a b y : ι) (s : Stretch ι) (z : ι) : Prop := ∃ count, s = after count ⟨a, b⟩ ∧ z = after count y

/-- **A stretch simulates a source of just its symbols.** -/
theorem simulates_copy {a b y : ι} (hab : Reaches a b) (hy : Cursor.symbols y = Cursor.between a b) :
    Cursor.Simulates (Copies a b y) :=
  have hs : Cursor.symbols (⟨a, b⟩ : Stretch ι) = Cursor.symbols y := (symbols_eq_between hab).trans hy.symm
  Cursor.simulates_inStep (truthful (Cursor.Source.truthful a) hab) (Cursor.Source.truthful y) hs
    (size?_eq_of_source hab hs)

end Stretch

/-! ## Coordinates -/

namespace Located

variable [Cursor ι Char] [Cursor ι' Char] {R : ι → ι' → Prop}

/-- A relation between coordinates that counting keeps: along a line, and from one line to the next. -/
structure Counting (K : Nat × Nat → Nat × Nat → Prop) : Prop where
  along : ∀ {line column line' column'}, K (line, column) (line', column') → K (line, column + 1) (line', column' + 1)
  across : ∀ {line column line' column'}, K (line, column) (line', column') → K (line + 1, 1) (line' + 1, 1)

/-- **Counting keeps a simulation**: related cursors show the same character, and the same one behind it, so both go
along their lines or both go on to the next. -/
theorem simulates_counting (hR : Cursor.Simulates R) {K : Nat × Nat → Nat × Nat → Prop} (hK : Counting K) :
    Cursor.Simulates fun (x : Located ι) (x' : Located ι') =>
      R x.inner x'.inner ∧ K x.coordinates x'.coordinates where
  next_none := by
    rintro x x' ⟨hinner, -⟩ h
    rw [Cursor.next_eq_none_iff, symbols_eq_inner] at h ⊢
    rw [← hR.symbols_eq hinner, h]
  next_some := by
    rintro x x' y c ⟨hinner, hcoordinates⟩ h
    change Located.next x = _ at h
    unfold Located.next at h
    cases hi : Cursor.next x.inner with
    | none => rw [hi] at h; cases h
    | some step =>
      obtain ⟨d, z⟩ := step
      obtain ⟨z', hi', hz⟩ := hR.next_some hinner hi
      have hafter : (Cursor.next z).map (·.1) = (Cursor.next z').map (·.1) := by
        rw [Cursor.next_map_fst, Cursor.next_map_fst, hR.symbols_eq hz]
      change ∃ y', Located.next x' = _ ∧ _
      unfold Located.next
      rw [hi']
      rw [hi] at h
      dsimp only at h ⊢
      rw [← hafter]
      by_cases hb : breaksLine d ((Cursor.next z).map (·.1)) = true
      · rw [if_pos hb] at h ⊢
        cases h
        exact ⟨_, rfl, hz, hK.across hcoordinates⟩
      · rw [if_neg hb] at h ⊢
        cases h
        exact ⟨_, rfl, hz, hK.along hcoordinates⟩
  samePosition := fun h h' => hR.samePosition h.1 h'.1
  isEmpty := fun h => hR.isEmpty h.1
  size? := fun h => hR.size? h.1

/-- Located cursors over related cursors, with the same coordinates. -/
def Over (R : ι → ι' → Prop) (x : Located ι) (x' : Located ι') : Prop :=
  R x.inner x'.inner ∧ x.coordinates = x'.coordinates

theorem counting_eq : Counting Eq where
  along h := by
    obtain ⟨hline, hcolumn⟩ := Prod.mk.inj h
    rw [hline, hcolumn]
  across h := by rw [(Prod.mk.inj h).1]

theorem simulates_over (hR : Cursor.Simulates R) : Cursor.Simulates (Over R) := simulates_counting hR counting_eq

end Located

/-! ## What is seen of an outcome -/

/-- An outcome of a grammar, with its cursors and the stretches in its value seen through two views. -/
def Outcome.view (cursor : ι → τ) (stretch : Stretch ι → υ) :
    Outcome κ ι (Value (Stretch ι)) → Outcome κ τ (Value υ)
  | success value rest => success (value.map stretch) (cursor rest)
  | failure fault input => failure ⟨fault.cause, cursor fault.position⟩ (cursor input)
  | aborted why => aborted why

theorem Value.Alike.map_eq {S T U : Type} {P : S → T → Prop} {f : S → U} {g : T → U} (h : ∀ s t, P s t → f s = g t)
    {v : Value S} {w : Value T} (hvw : v.Alike P w) : v.map f = w.map g := by
  obtain ⟨u, rfl, rfl⟩ := hvw
  rw [map_map, map_map]
  congr 1
  funext q
  exact h _ _ q.property

section Views

variable [Cursor ι σ] [Cursor ι' σ] {R : ι → ι' → Prop} {cursor : ι → τ} {cursor' : ι' → τ} {stretch : Stretch ι → υ}
  {stretch' : Stretch ι' → υ}

omit [Cursor ι σ] [Cursor ι' σ] in
/-- **Related outcomes look the same** through views that cannot tell related cursors apart. -/
theorem Outcome.Related.view_eq (hcursor : ∀ x x', R x x' → cursor x = cursor' x')
    (hstretch : ∀ s s', Stretch.Related R s s' → stretch s = stretch' s') {o : Outcome κ ι (Value (Stretch ι))}
    {o' : Outcome κ ι' (Value (Stretch ι'))} (h : o.Related Eq R (Value.Alike (Stretch.Related R)) o') :
    o.view cursor stretch = o'.view cursor' stretch' := by
  cases h with
  | success hv hr => rw [view, view, hv.map_eq hstretch, hcursor _ _ hr]
  | failure hc hp hi => rw [view, view, hc, hcursor _ _ hp, hcursor _ _ hi]
  | aborted why => rfl

/-- **A grammar looks the same at related cursors**, its rules unrolled to any depth. -/
theorem Grammar.view_eq {ζ : Type} [DecidableEq σ] [Symbol σ] [Cause κ] [Seed ζ κ] (hR : Cursor.Simulates R)
    (hcursor : ∀ x x', R x x' → cursor x = cursor' x')
    (hstretch : ∀ s s', Stretch.Related R s s' → stretch s = stretch' s') {x : ι} {x' : ι'} (hx : R x x')
    (p : Grammar σ ζ) (rules : Rules σ ζ) :
    (p.parse rules x : Outcome κ ι _).view cursor stretch = (p.parse rules x' : Outcome κ ι' _).view cursor' stretch' ∧
      ∀ depth, (p.run (rules.call depth) x : Outcome κ ι _).view cursor stretch =
        (p.run (rules.call depth) x' : Outcome κ ι' _).view cursor' stretch' := by
  have hC : Cause.Simulates (Eq : κ → κ → Prop) := Cause.simulates_eq κ
  have hζ : Seed.Simulates ζ (Eq : κ → κ → Prop) := fun _ => rfl
  constructor
  · exact ((twins_parse hC hζ hR p rules).related hR x x' hx).view_eq hcursor hstretch
  · intro depth
    have hcall := twins_call hC hζ hR rules depth
    exact ((twins_run hC hζ hR hcall p).related hR x x' hx).view_eq hcursor hstretch

end Views

namespace Located

variable [Cursor ι Char]

/-- How many symbols are left, and line and column. -/
def sight (x : Located ι) : Nat × Nat × Nat := (left x, x.coordinates)

/-- The symbols, and line and column of both ends. -/
def stretchSight (s : Stretch (Located ι)) : List Char × (Nat × Nat) × (Nat × Nat) :=
  (symbols s, s.start.coordinates, s.stop.coordinates)

end Located

/-- **A stretch isolates its symbols.**  An expression comes to outcomes of one kind on the stretch from one cursor of a
source to another and on a source of just the symbols between them: with the same cause and related values, and with as
many symbols left at the rests, at the positions of the faults and at the cursors given back.  The outcome of a grammar
has equal values, its stretches compared by their symbols.  The same holds where both are located, and then lines and
columns agree too. -/
theorem stretch_isolates :
    (∀ {ι σ : Type} [Cursor ι σ] [Cursor.Source ι] {a b y : ι}, Reaches a b → symbols y = Cursor.between a b →
      (∀ {κ α α' : Type} {V : α → α' → Prop} {p : Parser (Stretch ι) κ α} {p' : Parser ι κ α'},
        Parser.Twins (Stretch.Copies a b y) Eq V p p' →
          (p ⟨a, b⟩).Related Eq (fun s z => left s = left z) V (p' y)) ∧
      (∀ s t, Stretch.Related (Stretch.Copies a b y) s t → symbols s = symbols t) ∧
      ∀ {κ ζ : Type} [DecidableEq σ] [Symbol σ] [Cause κ] [Seed ζ κ] (p : Grammar σ ζ) (rules : Rules σ ζ),
        (p.parse rules ⟨a, b⟩ : Outcome κ (Stretch ι) _).view left symbols =
          (p.parse rules y : Outcome κ ι _).view left symbols ∧
        ∀ depth, (p.run (rules.call depth) ⟨a, b⟩ : Outcome κ (Stretch ι) _).view left symbols =
          (p.run (rules.call depth) y : Outcome κ ι _).view left symbols) ∧
    ∀ {ι : Type} [Cursor ι Char] [Cursor.Source ι] {a b y : ι}, Reaches a b → symbols y = Cursor.between a b →
      (∀ {κ α α' : Type} {V : α → α' → Prop} {p : Parser (Located (Stretch ι)) κ α} {p' : Parser (Located ι) κ α'},
        Parser.Twins (Located.Over (Stretch.Copies a b y)) Eq V p p' →
          (p (.ofCursor ⟨a, b⟩)).Related Eq (fun x x' => x.sight = x'.sight) V (p' (.ofCursor y))) ∧
      (∀ s t, Stretch.Related (Located.Over (Stretch.Copies a b y)) s t →
        Located.stretchSight s = Located.stretchSight t) ∧
      ∀ {κ ζ : Type} [Cause κ] [Seed ζ κ] (p : Grammar Char ζ) (rules : Rules Char ζ),
        (p.parse rules (.ofCursor ⟨a, b⟩) : Outcome κ (Located (Stretch ι)) _).view Located.sight Located.stretchSight =
          (p.parse rules (.ofCursor y) : Outcome κ (Located ι) _).view Located.sight Located.stretchSight ∧
        ∀ depth, (p.run (rules.call depth) (.ofCursor ⟨a, b⟩) : Outcome κ (Located (Stretch ι)) _).view Located.sight
            Located.stretchSight =
          (p.run (rules.call depth) (.ofCursor y) : Outcome κ (Located ι) _).view Located.sight
            Located.stretchSight := by
  constructor
  · intro ι σ _ _ a b y hab hy
    have hR := Stretch.simulates_copy hab hy
    have hstart : Stretch.Copies a b y ⟨a, b⟩ y := ⟨0, rfl, rfl⟩
    have hleft : ∀ s z, Stretch.Copies a b y s z → left s = left z := fun _ _ h => hR.left_eq h
    have hsymbols : ∀ s t, Stretch.Related (Stretch.Copies a b y) s t → symbols s = symbols t :=
      fun _ _ h => hR.stretch_symbols_eq h
    refine ⟨fun h => (h.related hR _ _ hstart).along hleft, hsymbols, ?_⟩
    intro κ ζ _ _ _ _ p rules
    exact p.view_eq hR hleft hsymbols hstart rules
  · intro ι _ _ a b y hab hy
    have hR := Located.simulates_over (Stretch.simulates_copy hab hy)
    have hstart : Located.Over (Stretch.Copies a b y) (.ofCursor ⟨a, b⟩) (.ofCursor y) := ⟨⟨0, rfl, rfl⟩, rfl⟩
    have hsight : ∀ x x', Located.Over (Stretch.Copies a b y) x x' → x.sight = x'.sight := by
      intro x x' h
      rw [Located.sight, Located.sight, hR.left_eq h, h.2]
    have hstretch : ∀ s t, Stretch.Related (Located.Over (Stretch.Copies a b y)) s t →
        Located.stretchSight s = Located.stretchSight t := by
      intro s t h
      have hsymbols : symbols s = symbols t := hR.stretch_symbols_eq h
      rw [Located.stretchSight, Located.stretchSight, hsymbols, h.1.2, h.2.2]
    refine ⟨fun h => (h.related hR _ _ hstart).along hsight, hstretch, ?_⟩
    intro κ ζ _ _ p rules
    exact p.view_eq hR hsight hstretch hstart rules

theorem stretch_isolates_before_line_feed :
    let a := Text.ofString "a\r\nb"
    let b : Text := ⟨2, ['\n', 'b']⟩
    let y := Text.ofString "a\r"
    let p : Grammar Char TextCause := .recognize (.repeated .anySymbol .any)
    let seen : Outcome TextCause _ _ := .success (.stretch (['a', '\r'], (1, 1), (2, 1))) (0, 2, 1)
    Reaches a b ∧ symbols y = Cursor.between a b ∧
      (p.parse [] (.ofCursor y) : Outcome TextCause (Located Text) _).view Located.sight Located.stretchSight = seen ∧
      (p.parse [] (.ofCursor ⟨a, b⟩) : Outcome TextCause (Located (Stretch Text)) _).view Located.sight
        Located.stretchSight = seen := by
  intro a b y p seen
  have hab : Reaches a b := ⟨2, by decide, rfl⟩
  have hy : symbols y = Cursor.between a b := rfl
  have hcopy : (p.parse [] (.ofCursor y) : Outcome TextCause (Located Text) _).view Located.sight
      Located.stretchSight = seen := rfl
  exact ⟨hab, hy, hcopy, ((stretch_isolates.2 hab hy).2.2 p []).1.trans hcopy⟩

end Parsing
