import Mathlib.Algebra.GroupWithZero.Nat
import Parsing.Proofs.Composed
import Parsing.Proofs.Coordinates
import Parsing.Proofs.Greedy
/-!
# Line breaks — a parser and a cursor that count the same ones

`Parser.newline` finds a line break by trying CR LF, LF and CR in this order; a located cursor finds it by looking one
character ahead, and takes the CR of a CR LF for a column.  Over one break (`BreaksOver`) they come to the same: the
parser takes all of it, and the cursor counts its last character.

So a repetition that takes a break where there is one, and one character elsewhere, matches as many breaks as lines are
added, match by match (`Parser.Row.line_eq`).

Main statement: `newline_takes_what_lines_count`.
-/
namespace Parsing

open Cursor (Distinct Reaches after left symbols)

/-- A text begins with a line break of so many characters. -/
inductive BreaksOver : List Char → Nat → Prop
  | crLf (more : List Char) : BreaksOver ('\r' :: '\n' :: more) 2
  | lf (more : List Char) : BreaksOver ('\n' :: more) 1
  | cr {more : List Char} (hmore : more.head? ≠ some '\n') : BreaksOver ('\r' :: more) 1

/-- **A text begins with a line break where it begins with LF or CR.** -/
theorem exists_breaksOver {s : List Char} :
    (∃ count, BreaksOver s count) ↔ s.head? = some '\n' ∨ s.head? = some '\r' := by
  constructor
  · rintro ⟨_, _ | _ | _⟩
    · exact .inr rfl
    · exact .inl rfl
    · exact .inr rfl
  · rintro (h | h)
    · obtain ⟨more, rfl⟩ := List.head?_eq_some_iff.1 h
      exact ⟨1, .lf more⟩
    · obtain ⟨more, rfl⟩ := List.head?_eq_some_iff.1 h
      by_cases hmore : more.head? = some '\n'
      · obtain ⟨behind, rfl⟩ := List.head?_eq_some_iff.1 hmore
        exact ⟨2, .crLf behind⟩
      · exact ⟨1, .cr hmore⟩

theorem BreaksOver.length {s : List Char} {count : Nat} (h : BreaksOver s count) : 0 < count ∧ count ≤ s.length := by
  cases h <;> simp

namespace Parser

variable {ι : Type} [Cursor ι Char] {x rest : ι}

/-! ## The parser of one break -/

theorem fails_character {c : Char} (h : (symbols x).head? ≠ some c) : (character c).Fails x :=
  ⟨_, _, exactly_eq_failure h⟩

theorem character_of_symbols {c : Char} {more : List Char} (h : symbols x = c :: more) :
    character c x = .success c (after 1 x) :=
  exactly_eq_success.2 ⟨(next_of_symbols_cons h).1, rfl⟩

theorem composed_crLf :
    (((character '\r').andThen (character '\n')).withValue () : Parser ι TextCause Unit).Composed Parts.none :=
  ((composed_character '\r').andThen (composed_character '\n')).withValue fun _ => id

theorem composed_lf : ((character '\n').withValue () : Parser ι TextCause Unit).Composed Parts.none :=
  (composed_character '\n').withValue fun _ => id

/-- **The parser takes the break the text begins with**, all of it. -/
theorem newline_of_breaksOver {s : List Char} {count : Nat} (h : BreaksOver s count) (hs : symbols x = s) :
    newline x = .success () (after count x) := by
  cases h with
  | crLf more =>
    have hreturn := character_of_symbols hs
    have hfeed := character_of_symbols (next_of_symbols_cons hs).2
    rw [← Cursor.after_add] at hfeed
    exact orElse_of_success (withValue_eq_success.2 ⟨('\r', '\n'), andThen_eq_success.2 ⟨_, hreturn, hfeed⟩⟩) _
  | lf more =>
    have hreturn : (character '\r').Fails x := fails_character (by rw [hs]; simp)
    rw [newline, orElse_eq_of_fails composed_crLf.orderly ((hreturn.andThen _).map _)]
    exact orElse_of_success (withValue_eq_success.2 ⟨_, character_of_symbols hs⟩) _
  | cr hmore =>
    -- The first alternative takes the CR, fails behind it and goes back; so the last one takes it again.
    have hreturn := character_of_symbols hs
    have hfeed : (character '\n').Fails x := fails_character (by rw [hs]; simp)
    have hbehind : (character '\n').Fails (after 1 x) := fails_character (by rwa [(next_of_symbols_cons hs).2])
    rw [newline, orElse_eq_of_fails composed_crLf.orderly ((fails_andThen hreturn hbehind).map _),
      orElse_eq_of_fails composed_lf.orderly (hfeed.map _)]
    exact withValue_eq_success.2 ⟨_, hreturn⟩

theorem fails_newline (h : ¬ ∃ count, BreaksOver (symbols x) count) : newline.Fails x := by
  rw [exists_breaksOver, not_or] at h
  have hfeed := fails_character h.1
  have hreturn := fails_character h.2
  exact ((hreturn.andThen _).map _).orElse composed_crLf.orderly
    ((hfeed.map _).orElse composed_lf.orderly (hreturn.map _))

theorem newline_or_fails (x : ι) :
    (∃ count, BreaksOver (symbols x) count ∧ newline x = .success () (after count x)) ∨
      (¬ ∃ count, BreaksOver (symbols x) count) ∧ newline.Fails x := by
  by_cases hbreak : ∃ count, BreaksOver (symbols x) count
  · obtain ⟨count, hcount⟩ := hbreak
    exact .inl ⟨count, hcount, newline_of_breaksOver hcount rfl⟩
  · exact .inr ⟨hbreak, fails_newline hbreak⟩

theorem newline_eq_success : newline x = .success () rest ↔
    ∃ count, BreaksOver (symbols x) count ∧ rest = after count x := by
  constructor
  · intro h
    rcases newline_or_fails x with ⟨count, hcount, hnewline⟩ | ⟨-, hfails⟩
    · rw [hnewline] at h
      cases h
      exact ⟨count, hcount, rfl⟩
    · exact absurd hfails (not_fails_of_success h)
  · rintro ⟨count, hcount, rfl⟩
    exact newline_of_breaksOver hcount rfl

end Parser

/-! ## The cursor over one break -/

namespace Located

variable {ι : Type} [Cursor ι Char] {x : Located ι}

theorem coordinates_step {c : Char} {more : List Char} (hs : symbols x = c :: more) :
    (after 1 x).coordinates = if BreaksAt (c :: more) 0 then (x.line + 1, 1) else (x.line, x.column + 1) :=
  coordinates_next (k := 0) hs (Parser.next_of_symbols_cons hs).1

/-- **The cursor counts the break the text begins with**, behind all of it. -/
theorem coordinates_of_breaksOver {s : List Char} {count : Nat} (h : BreaksOver s count) (hs : symbols x = s) :
    (after count x).coordinates = (x.line + 1, 1) := by
  cases h with
  | crLf more =>
    have hreturn : (after 1 x).coordinates = (x.line, x.column + 1) := by
      rw [coordinates_step hs, if_neg (by simp [BreaksAt])]
    have hfeed := coordinates_step (Parser.next_of_symbols_cons hs).2
    rw [if_pos (.inl rfl), ← Cursor.after_add] at hfeed
    rw [hfeed, (Prod.mk.inj hreturn).1]
  | lf more => rw [coordinates_step hs, if_pos (.inl rfl)]
  | cr hmore => rw [coordinates_step hs, if_pos (.inr ⟨rfl, by rwa [List.getElem?_cons_succ, ← List.head?_eq_getElem?]⟩)]

theorem line_of_not_breaksOver {c : Char} {y : Located ι} (h : ¬ ∃ count, BreaksOver (symbols x) count)
    (hnext : Cursor.next x = some (c, y)) : y.line = x.line := by
  rw [exists_breaksOver, not_or, List.head?_eq_getElem?] at h
  have hbreak : ¬ BreaksAt (symbols x) 0 := fun hat => hat.elim h.1 fun hreturn => h.2 hreturn.1
  have hstep : y.coordinates = (x.line, x.column + 1) := by
    rw [coordinates_next (k := 0) rfl hnext, if_neg hbreak]
  exact (Prod.mk.inj hstep).1

theorem coordinates_newline {rest : Located ι} (h : Parser.newline x = .success () rest) :
    rest.line = x.line + 1 ∧ rest.column = 1 := by
  obtain ⟨count, hcount, rfl⟩ := Parser.newline_eq_success.1 h
  exact Prod.mk.inj (coordinates_of_breaksOver hcount rfl)

end Located

/-! ## Breaks along a text -/

namespace Parser

section Tally

variable {ι : Type} [Cursor ι Char] {x rest : ι} {value : Nat}

/-- Matches a line break, for the value one, or else any one character, for zero. -/
def tally : Parser ι TextCause Nat := (newline.withValue 1).orElse (anySymbol.withValue 0)

theorem composed_one : ((newline : Parser ι TextCause Unit).withValue 1).Composed Parts.none :=
  composed_newline.withValue fun _ => id

theorem composed_tally : (tally : Parser ι TextCause Nat).Composed Parts.none :=
  composed_one.orElse (Composed.anySymbol.withValue fun _ => id)

theorem tally_of_newline (h : newline x = .success () rest) : tally x = .success 1 rest :=
  orElse_of_success (withValue_eq_success.2 ⟨_, h⟩) _

theorem tally_of_next {c : Char} (h : newline.Fails x) (hnext : Cursor.next x = some (c, rest)) :
    tally x = .success 0 rest := by
  have hany : (anySymbol : Parser ι TextCause Char) x = .success c rest := by rw [anySymbol, hnext]
  rw [tally, orElse_eq_of_fails composed_one.orderly (h.map _)]
  exact withValue_eq_success.2 ⟨c, hany⟩

theorem tally_of_end (h : newline.Fails x) (hnext : Cursor.next x = none) : tally.Fails x := by
  have hany : (anySymbol : Parser ι TextCause Char).Fails x := ⟨_, _, by rw [anySymbol, hnext]⟩
  exact (h.map _).orElse composed_one.orderly (hany.map _)

/-- **A match is a line break for one, or one character for zero**, the second where there is no line break. -/
theorem tally_eq_success : tally x = .success value rest ↔
    value = 1 ∧ newline x = .success () rest ∨
      value = 0 ∧ newline.Fails x ∧ ∃ c, Cursor.next x = some (c, rest) := by
  constructor
  · intro h
    rcases newline_or_fails x with ⟨count, -, hnewline⟩ | ⟨-, hfails⟩
    · rw [tally_of_newline hnewline] at h
      cases h
      exact .inl ⟨rfl, hnewline⟩
    · cases hnext : Cursor.next x with
      | none => exact absurd (tally_of_end hfails hnext) (not_fails_of_success h)
      | some step =>
        rw [tally_of_next hfails hnext] at h
        cases h
        exact .inr ⟨rfl, hfails, step.1, rfl⟩
  · rintro (⟨rfl, hnewline⟩ | ⟨rfl, hfails, c, hnext⟩)
    · exact tally_of_newline hnewline
    · exact tally_of_next hfails hnext

/-- **There is a match wherever the text goes on.** -/
theorem tally_or_end (x : ι) : (∃ value rest, tally x = .success value rest) ∨ symbols x = [] ∧ tally.Fails x := by
  rcases newline_or_fails x with ⟨count, -, hnewline⟩ | ⟨-, hfails⟩
  · exact .inl ⟨1, _, tally_of_newline hnewline⟩
  · cases hnext : Cursor.next x with
    | none => exact .inr ⟨Cursor.symbols_of_next_eq_none hnext, tally_of_end hfails hnext⟩
    | some step => exact .inl ⟨0, step.2, tally_of_next hfails hnext⟩

theorem symbols_of_fails_tally (h : tally.Fails x) : symbols x = [] := by
  rcases tally_or_end x with ⟨value, rest, hmatch⟩ | ⟨hend, -⟩
  · exact absurd h (not_fails_of_success hmatch)
  · exact hend

theorem progresses_tally : (tally : Parser ι TextCause Nat).Progresses := by
  intro x rest value h
  rcases tally_eq_success.1 h with ⟨-, hnewline⟩ | ⟨-, -, c, hnext⟩
  · obtain ⟨count, hcount, rfl⟩ := newline_eq_success.1 hnewline
    have ⟨hpos, hle⟩ := hcount.length
    rw [Cursor.left_after, left]
    omega
  · exact Cursor.left_of_next_eq_some hnext ▸ Nat.lt_succ_self _

end Tally

/-- **One match adds as many lines as its value says.** -/
theorem line_of_tally {ι : Type} [Cursor ι Char] {x y : Located ι} {value : Nat} (h : tally x = .success value y) :
    y.line = x.line + value := by
  rcases tally_eq_success.1 h with ⟨rfl, hnewline⟩ | ⟨rfl, hfails, c, hnext⟩
  · exact (Located.coordinates_newline hnewline).1
  · rcases newline_or_fails x with ⟨count, -, hnewline⟩ | ⟨hnone, -⟩
    · exact absurd hfails (not_fails_of_success hnewline)
    · exact Located.line_of_not_breaksOver hnone hnext

/-- **Matches in a row add as many lines as their values say.** -/
theorem Row.line_eq {ι : Type} [Cursor ι Char] {x rest : Located ι} {values : List Nat} (h : tally.Row x values rest) :
    rest.line = x.line + values.sum := by
  induction h with
  | nil => rfl
  | cons hfirst _ ih => rw [ih, line_of_tally hfirst, List.sum_cons, Nat.add_assoc]

end Parser

/-- **Behind no more steps than 32 bits count, lines and columns are no more than 32 bits count.** -/
theorem Located.coordinates_lt {ι : Type} [Cursor ι Char] {s : ι} (hsize : (symbols s).length < UInt32.size - 1)
    {y : Located ι} (h : Reaches (Located.ofCursor s) y) : y.line < UInt32.size ∧ y.column < UInt32.size := by
  obtain ⟨count, hcount, rfl⟩ := h
  obtain ⟨hline, hcolumn⟩ := Prod.mk.inj (Located.coordinates_after s count hcount)
  have hle : count ≤ (symbols s).length := hcount
  have hl := lineAt_le (symbols s) count
  have hc := columnAt_le (symbols s) count
  rw [hline, hcolumn]
  omega

/-- **The breaks that `newline` takes are those that lines are counted by.**  At a located cursor anywhere it matches
just where the next character is LF or CR, and its rest is at the start of the next line.  From the start of a text,
repeating a match of a break, for the value one, or else of any one character, for zero, takes all of the text.  The
values add up to one less than the line at the end; each match for one is a break and adds a line, and each for zero is
where there is none and stays on its line.  No line or column on the way outgrows 32 bits. -/
theorem newline_takes_what_lines_count :
    (∀ {ι : Type} [Cursor ι Char] (x : Located ι),
      ((∃ rest, Parser.newline x = .success () rest) ↔
        (symbols x).head? = some '\n' ∨ (symbols x).head? = some '\r') ∧
      ∀ rest, Parser.newline x = .success () rest → rest.line = x.line + 1 ∧ rest.column = 1) ∧
    ∀ {ι : Type} [Cursor ι Char] [Distinct ι] (s : ι), (symbols s).length < UInt32.size - 1 →
      ∃ values rest, Parser.tally.repeated .any (Located.ofCursor s) = .success values rest ∧ symbols rest = [] ∧
        values.sum + 1 = rest.line ∧
        (∀ before value behind, values = before ++ value :: behind →
          ∃ y z, Parser.tally.Row (Located.ofCursor s) before y ∧ Parser.tally y = .success value z ∧
            Parser.tally.Row z behind rest ∧
            (value = 1 ∧ Parser.newline y = .success () z ∧ z.line = y.line + 1 ∨
              value = 0 ∧ Parser.newline.Fails y ∧ z.line = y.line)) ∧
        ∀ y, Reaches (Located.ofCursor s) y → y.line < UInt32.size ∧ y.column < UInt32.size := by
  refine ⟨fun x => ⟨?_, fun rest => Located.coordinates_newline⟩, fun s hsize => ?_⟩
  · rw [← exists_breaksOver]
    simp only [Parser.newline_eq_success]
    exact ⟨fun ⟨_, count, hcount, _⟩ => ⟨count, hcount⟩, fun ⟨count, hcount⟩ => ⟨_, count, hcount, rfl⟩⟩
  · obtain ⟨values, rest, hrow, hstop⟩ := Parser.progresses_tally.exists_row
      (fun x => (Parser.tally_or_end x).imp_right And.right) (Located.ofCursor s)
    have hend := Parser.symbols_of_fails_tally hstop
    obtain ⟨fault, input, hfails⟩ := hstop
    have hrepeated := Parser.repeated_of_row Parser.composed_tally.orderly Parser.progresses_tally 0 hrow hfails
    have hline : rest.line = 1 + values.sum := hrow.line_eq
    refine ⟨values, rest, hrepeated.trans (if_neg (Nat.not_lt_zero _)), hend, by omega, ?_,
      fun y => Located.coordinates_lt hsize⟩
    rintro before value behind rfl
    obtain ⟨y, hbefore, hmore⟩ := hrow.exists_between
    obtain _ | @⟨_, z, _, _, _, hvalue, hbehind⟩ := hmore
    have hadded := Parser.line_of_tally hvalue
    refine ⟨y, z, hbefore, hvalue, hbehind, ?_⟩
    rcases Parser.tally_eq_success.1 hvalue with ⟨rfl, hnewline⟩ | ⟨rfl, hnone, -⟩
    · exact .inl ⟨rfl, hnewline, hadded⟩
    · exact .inr ⟨rfl, hnone, hadded⟩

/-- A CR alone, a CR LF and an LF behind a letter; and the CR LF at the end of a line further on. -/
theorem newline_takes_what_lines_count_of_mixture :
    let s := Text.ofString "a\r\r\n\n"
    let x : Located Text := ⟨Text.ofString "\r\nb", 7, 3⟩
    (symbols s).length < UInt32.size - 1 ∧
      (∃ values rest, Parser.tally.repeated .any (Located.ofCursor s) = .success values rest ∧ values = [0, 1, 1, 1] ∧
        rest.line = 4) ∧
      ∃ rest, Parser.newline x = .success () rest ∧ symbols rest = ['b'] ∧ (rest.line, rest.column) = (8, 1) := by
  intro s x
  have hsize : (symbols s).length < UInt32.size - 1 := by decide
  have hrun : Parser.tally.repeated .any (Located.ofCursor s) = .success [0, 1, 1, 1] ⟨⟨5, []⟩, 4, 1⟩ := rfl
  have hbreak : Parser.newline x = .success () ⟨⟨2, ['b']⟩, 8, 1⟩ := rfl
  obtain ⟨values, rest, hvalues, -, hsum, -⟩ := newline_takes_what_lines_count.2 s hsize
  obtain ⟨hline, hcolumn⟩ := (newline_takes_what_lines_count.1 x).2 _ hbreak
  refine ⟨hsize, ⟨values, rest, hvalues, ?_⟩, _, hbreak, rfl, Prod.ext hline hcolumn⟩
  rw [hrun] at hvalues
  cases hvalues
  exact ⟨rfl, hsum.symm⟩

end Parsing
