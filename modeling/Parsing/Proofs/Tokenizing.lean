import Mathlib.Data.List.Chain
import Parsing.Proofs.Greedy
import Parsing.Proofs.Recognized
/-!
# Tokenizing — stretches that follow one another

A loop over a recognizing parser cuts its input into stretches.  What a repetition yields is a row of matches, so each
stretch starts where the one before stopped and nothing lies between them.  What a list yields alternates with matches
of its delimiter (`Parser.Alternation`), so what lies between two stretches is what the delimiter took there.  The
attempt that ends a loop leaves no trace: the rest is where the last match ended.

Main statement: `tokens_cover_the_input`.
-/
namespace Parsing

open Cursor (Reaches TellsApart symbols)

variable {ι σ κ ν α β : Type}

/-- Stretches with what lies between each and the next. -/
def Stretch.withGaps : List (Stretch ι) → List (Stretch ι)
  | [] => []
  | [s] => [s]
  | s :: t :: more => s :: ⟨s.stop, t.start⟩ :: withGaps (t :: more)

namespace Parser

variable {p : Parser ι κ α} {d : Parser ι ν β} {x rest : ι} {spans : List (Stretch ι)}

/-! ## Rows of stretches -/

theorem Row.match_of_mem {q : Parser ι κ α} {values : List α} (h : q.Row x values rest) {value : α}
    (hmem : value ∈ values) : ∃ y z, q y = .success value z := by
  induction h with
  | nil => cases hmem
  | cons ho _ ih =>
    rcases List.mem_cons.1 hmem with rfl | hmem
    · exact ⟨_, _, ho⟩
    · exact ih hmem

/-- **In a row, each stretch starts where the one before stopped**, the first at the cursor, and the rest is where the
last one stopped. -/
theorem Row.starts_eq (h : p.recognize.Row x spans rest) : spans.map (·.start) ++ [rest] = x :: spans.map (·.stop) := by
  induction h with
  | nil => rfl
  | cons ho _ ih =>
    obtain ⟨rfl, -⟩ := recognize_eq_success.1 ho
    rw [List.map_cons, List.map_cons, List.cons_append, ih]

theorem Row.symbols_append [Cursor ι σ] {parts : Parts ι α} (hp : p.Orderly parts)
    (h : p.recognize.Row x spans rest) (hx : TellsApart x) :
    spans.flatMap symbols ++ symbols rest = symbols x := by
  induction h with
  | nil => rfl
  | cons ho _ ih =>
    obtain ⟨rfl, value, hvalue⟩ := recognize_eq_success.1 ho
    have hreach := hp.advances hvalue
    rw [List.flatMap_cons, List.append_assoc, ih (hx.of_reaches hreach), hx.symbols_stretch_append hreach]

/-! ## Elements and delimiters by turns -/

/-- Matches of elements with matches of delimiters between them, each begun where the one before ended. -/
inductive Alternation (p : Parser ι κ α) (d : Parser ι ν β) : ι → List α → ι → Prop
  | last {x rest : ι} {value : α} (h : p x = .success value rest) : Alternation p d x [value] rest
  | cons {x y z rest : ι} {value : α} {between : β} {values : List α} (h : p x = .success value y)
      (hd : d y = .success between z) (hmore : Alternation p d z values rest) : Alternation p d x (value :: values) rest

theorem alternation_of_separatedFrom [Cursor ι σ] {start : ι} : ∀ (rounds : Nat) {x y : ι} {first : α}
    {values : List α}, p x = .success first y → separatedFrom p d start rounds y = .success values rest →
      p.Alternation d x (first :: values) rest
  | 0, _, _, _, _, _, hlist => by cases hlist
  | rounds + 1, x, y, first, values, h, hlist => by
    rw [separatedFrom] at hlist
    cases hd : d y with
    | success between behind =>
      rw [hd] at hlist
      dsimp only at hlist
      cases hp : p behind with
      | success value z =>
        rw [hp] at hlist
        dsimp only at hlist
        split at hlist
        · cases hlist
          exact .cons h hd (.last hp)
        · obtain ⟨more, hmore, rfl⟩ := Outcome.map_eq_success.1 hlist
          exact .cons h hd (alternation_of_separatedFrom rounds hp hmore)
      | failure fault given => rw [hp] at hlist; cases hlist
      | aborted why => rw [hp] at hlist; cases hlist
    | failure fault given =>
      rw [hd] at hlist
      cases hlist
      exact .last h
    | aborted why => rw [hd] at hlist; cases hlist

/-- **What a list yields are elements that alternate with delimiters.** -/
theorem alternation_of_separated [Cursor ι σ] {values : List α} (h : p.separated d x = .success values rest) :
    p.Alternation d x values rest := by
  obtain ⟨first, y, hfirst, h⟩ := Outcome.andThen_eq_success.1 h
  obtain ⟨more, hmore, rfl⟩ := Outcome.map_eq_success.1 h
  exact alternation_of_separatedFrom _ hfirst hmore

namespace Alternation

theorem match_of_mem {values : List α} (h : p.Alternation d x values rest) {value : α} (hmem : value ∈ values) :
    ∃ y z, p y = .success value z := by
  induction h with
  | last h =>
    obtain rfl := List.mem_singleton.1 hmem
    exact ⟨_, _, h⟩
  | cons h _ _ ih =>
    rcases List.mem_cons.1 hmem with rfl | hmem
    · exact ⟨_, _, h⟩
    · exact ih hmem

theorem start_head (h : p.recognize.Alternation d x spans rest) : spans.head?.map (·.start) = some x := by
  cases h with
  | last h | cons h _ _ =>
    obtain ⟨rfl, -⟩ := recognize_eq_success.1 h
    rfl

theorem stop_last (h : p.recognize.Alternation d x spans rest) : spans.getLast?.map (·.stop) = some rest := by
  induction h with
  | last h =>
    obtain ⟨rfl, -⟩ := recognize_eq_success.1 h
    rfl
  | @cons _ _ _ _ _ _ values _ _ hmore ih =>
    cases values with
    | nil => cases hmore
    | cons second more => rwa [List.getLast?_cons_cons]

/-- **Between two stretches lies what the delimiter takes behind the first.** -/
theorem gaps_isChain (h : p.recognize.Alternation d x spans rest) :
    spans.IsChain fun s t => d.recognize s.stop = .success ⟨s.stop, t.start⟩ t.start := by
  induction h with
  | last h => exact List.isChain_singleton _
  | @cons x y z _ _ between values h hd hmore ih =>
    obtain ⟨rfl, -⟩ := recognize_eq_success.1 h
    cases values with
    | nil => cases hmore
    | cons second more =>
      obtain rfl : second.start = z := by simpa using hmore.start_head
      exact List.isChain_cons_cons.2 ⟨recognize_eq_success.2 ⟨rfl, between, hd⟩, ih⟩

theorem symbols_append [Cursor ι σ] {parts : Parts ι α} {others : Parts ι β} (hp : p.Orderly parts)
    (hd : d.Orderly others) (h : p.recognize.Alternation d x spans rest) (hx : TellsApart x) :
    (Stretch.withGaps spans).flatMap symbols ++ symbols rest = symbols x := by
  induction h with
  | last h =>
    obtain ⟨rfl, value, hvalue⟩ := recognize_eq_success.1 h
    rw [Stretch.withGaps, List.flatMap_singleton]
    exact hx.symbols_stretch_append (hp.advances hvalue)
  | @cons x y z rest _ _ values h hbetween hmore ih =>
    obtain ⟨rfl, value, hvalue⟩ := recognize_eq_success.1 h
    have hxy := hp.advances hvalue
    have hyz := hd.advances hbetween
    cases values with
    | nil => cases hmore
    | cons second more =>
      obtain rfl : second.start = z := by simpa using hmore.start_head
      have hy := hx.of_reaches hxy
      rw [Stretch.withGaps, List.flatMap_cons, List.flatMap_cons, List.append_assoc, List.append_assoc,
        ih (hy.of_reaches hyz), hy.symbols_stretch_append hyz, hx.symbols_stretch_append hxy]

end Alternation

theorem recognize_at_start {s : Stretch ι} (h : ∃ y z, p.recognize y = .success s z) :
    p.recognize s.start = .success s s.stop := by
  obtain ⟨y, z, h⟩ := h
  obtain ⟨rfl, -⟩ := recognize_eq_success.1 h
  exact h

end Parser

/-- **Tokenizing loses and duplicates nothing.**  The stretches of a repetition are matches that follow one another: the
first starts at the input, each starts where the one before stopped, and the rest is where the last one stopped, or the
input where there is none; their symbols and those of the rest are the symbols of the input.  The stretches of a list
are matches too, the first from the input on, the last up to the rest, and from the stop of each to the start of the
next the delimiter matches; their symbols, those between them and those of the rest are the symbols of the input. -/
theorem tokens_cover_the_input [Cursor ι σ] {parts : Parts ι α} {others : Parts ι β} {p : Parser ι κ α}
    {d : Parser ι ν β} (hp : p.Composed parts) (hd : d.Composed others) {x : ι} (hx : TellsApart x) :
    (∀ range spans rest, p.recognize.repeated range x = .success spans rest →
      (∀ s ∈ spans, p.recognize s.start = .success s s.stop) ∧
      spans.map (·.start) ++ [rest] = x :: spans.map (·.stop) ∧
      spans.flatMap symbols ++ symbols rest = symbols x) ∧
    ∀ spans rest, p.recognize.separated d x = .success spans rest →
      (∀ s ∈ spans, p.recognize s.start = .success s s.stop) ∧
      spans.head?.map (·.start) = some x ∧ spans.getLast?.map (·.stop) = some rest ∧
      (spans.IsChain fun s t => d.recognize s.stop = .success ⟨s.stop, t.start⟩ t.start) ∧
      (Stretch.withGaps spans).flatMap symbols ++ symbols rest = symbols x := by
  constructor
  · intro range spans rest h
    have hrow := Parser.row_of_repeated h
    exact ⟨fun s hs => Parser.recognize_at_start (hrow.match_of_mem hs), hrow.starts_eq,
      hrow.symbols_append hp.orderly hx⟩
  · intro spans rest h
    have hlist := Parser.alternation_of_separated h
    exact ⟨fun s hs => Parser.recognize_at_start (hlist.match_of_mem hs), hlist.start_head, hlist.stop_last,
      hlist.gaps_isChain, hlist.symbols_append hp.orderly hd.orderly hx⟩

/-- Signs that may be missing, at least two of them, and words and commas that may all be missing. -/
theorem tokens_cover_the_input_of_signs_and_words :
    let sign : Parser Text TextCause (Option Char) := (Parser.character '-').optional
    let word : Parser Text TextCause (List Char) := (Parser.satisfying Char.isAlpha).repeated .any
    let comma : Parser Text TextCause (Option Char) := (Parser.character ',').optional
    (sign.recognize.repeated (.atLeast 2) (Text.ofString "-a") =
        .success [⟨⟨0, ['-', 'a']⟩, ⟨1, ['a']⟩⟩, ⟨⟨1, ['a']⟩, ⟨1, ['a']⟩⟩] ⟨1, ['a']⟩ ∧
      [⟨0, ['-', 'a']⟩, ⟨1, ['a']⟩] ++ [⟨1, ['a']⟩] = Text.ofString "-a" :: [⟨1, ['a']⟩, ⟨1, ['a']⟩]) ∧
    ∃ spans rest, word.recognize.separated comma (Text.ofString "ab,c1") = .success spans rest ∧
      spans.map symbols = [['a', 'b'], ['c'], []] ∧
      (spans.IsChain fun s t => comma.recognize s.stop = .success ⟨s.stop, t.start⟩ t.start) ∧
      (Stretch.withGaps spans).flatMap symbols ++ symbols rest = ['a', 'b', ',', 'c', '1'] := by
  intro sign word comma
  have hsign : sign.Composed Parts.none.found := (Parser.composed_character '-').optional
  have hcomma : comma.Composed Parts.none.found := (Parser.composed_character ',').optional
  have hword : word.Composed Parts.none.items := (Parser.Composed.satisfying Char.isAlpha).repeated _
  have hplaces (x : Text) : TellsApart x := Cursor.Distinct.tellsApart x
  constructor
  · have h : sign.recognize.repeated (.atLeast 2) (Text.ofString "-a") =
        .success [⟨⟨0, ['-', 'a']⟩, ⟨1, ['a']⟩⟩, ⟨⟨1, ['a']⟩, ⟨1, ['a']⟩⟩] ⟨1, ['a']⟩ := rfl
    exact ⟨h, ((tokens_cover_the_input hsign hcomma (hplaces _)).1 _ _ _ h).2.1⟩
  · have h : word.recognize.separated comma (Text.ofString "ab,c1") = .success [⟨⟨0, ['a', 'b', ',', 'c', '1']⟩,
        ⟨2, [',', 'c', '1']⟩⟩, ⟨⟨3, ['c', '1']⟩, ⟨4, ['1']⟩⟩, ⟨⟨4, ['1']⟩, ⟨4, ['1']⟩⟩] ⟨4, ['1']⟩ := rfl
    obtain ⟨-, -, -, hgaps, happend⟩ := (tokens_cover_the_input hword hcomma (hplaces _)).2 _ _ h
    exact ⟨_, _, h, rfl, hgaps, happend⟩

end Parsing
