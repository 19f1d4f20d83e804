import Parsing.Proofs.Delimited
import Parsing.Proofs.Tokenizing
import Parsing.Proofs.Words
/-!
# Splitting — lists of words as the inverse of joining

A list of words with a string between them splits what joining words with that string has put together.  A word is as
long as it can be, so it stops before a delimiter only because the first character of the delimiter is none of a word;
the characters behind that one may be, and an unfinished delimiter may stand behind the last word.  Behind the first
word the list goes along a row of pairs, each a delimiter and a word (`Parser.row_of_words`); in the other direction the
words and delimiters it matched by turns make up what it consumed (`Parser.Alternation.symbols_eq_join`).

Main statement: `splitting_inverts_joining`.
-/
namespace Parsing

open Cursor (Distinct Reaches TellsApart after left symbols)

theorem intercalate_cons {σ : Type} (sep : List σ) : ∀ (first : List σ) (more : List (List σ)),
    sep.intercalate (first :: more) = first ++ more.flatMap (sep ++ ·)
  | first, [] => by rw [List.intercalate_singleton, List.flatMap_nil, List.append_nil]
  | first, second :: more => by
    rw [List.intercalate_cons_cons, intercalate_cons sep second more, List.flatMap_cons, List.append_assoc,
      List.append_assoc]

namespace Parser

variable {ι : Type} [Cursor ι Char] {w : Char → Bool} {d : String} {x rest : ι} {items : List (List Char)}
  {tail : List Char}

theorem composed_string (d : String) : (string d : Parser ι TextCause String).Composed Parts.none :=
  .literal d.toList TextCause.expected fun _ => id

omit [Cursor ι Char] in
theorem head_delimiter (hd : ∃ c ∈ d.toList.head?, w c = false) (tail : List Char) :
    ∀ c ∈ (d.toList ++ tail).head?, w c = false := by
  intro c hc
  obtain ⟨first, hfirst, hw⟩ := hd
  rw [List.head?_append, Option.mem_def.1 hfirst] at hc
  cases hc
  exact hw

omit [Cursor ι Char] in
/-- Behind a word comes no character of a word: there is a delimiter, or what follows the last word. -/
theorem head_behind_word (hd : ∃ c ∈ d.toList.head?, w c = false) (htail : ∀ c ∈ tail.head?, w c = false)
    (items : List (List Char)) : ∀ c ∈ (items.flatMap (d.toList ++ ·) ++ tail).head?, w c = false := by
  cases items with
  | nil => exact htail
  | cons item items =>
    rw [List.flatMap_cons, List.append_assoc, List.append_assoc]
    exact head_delimiter hd _

theorem delimiter_then_word [Distinct ι] {item : List Char} (hitem : IsWord w item)
    (htail : ∀ c ∈ tail.head?, w c = false) (h : symbols x = d.toList ++ (item ++ tail)) :
    ∃ s, ((string d).skipThen (word w) : Parser ι TextCause (Stretch ι)) x =
      .success s (after (d.toList ++ item).length x) ∧ symbols s = item := by
  have hbehind : symbols (after d.toList.length x) = item ++ tail := Cursor.symbols_after_length h
  have hword : (word w : Parser ι TextCause (Stretch ι)) _ = _ := word_of_symbols hbehind hitem htail
  refine ⟨_, skipThen_eq_success.2 ⟨d, _, literal_of_symbols d h, ?_⟩,
    (Distinct.tellsApart _).symbols_stretch_of_append hbehind⟩
  rw [hword, List.length_append, Cursor.after_add]

/-- **Words with delimiters before them are a row of pairs.** -/
theorem row_of_words [Distinct ι] (hd : ∃ c ∈ d.toList.head?, w c = false) (htail : ∀ c ∈ tail.head?, w c = false) :
    ∀ (items : List (List Char)) {x : ι}, (∀ item ∈ items, IsWord w item) →
      symbols x = items.flatMap (d.toList ++ ·) ++ tail →
      ∃ spans, ((string d).skipThen (word w) : Parser ι TextCause (Stretch ι)).Row x spans
        (after (items.flatMap (d.toList ++ ·)).length x) ∧ spans.map symbols = items
  | [], x, _, _ => ⟨[], .nil x, rfl⟩
  | item :: items, x, hitems, h => by
    rw [List.flatMap_cons, List.append_assoc] at h
    obtain ⟨s, hpair, hs⟩ := delimiter_then_word (hitems item List.mem_cons_self) (head_behind_word hd htail items)
      (by rw [h, List.append_assoc])
    obtain ⟨spans, hrow, hspans⟩ := row_of_words hd htail items
      (fun other hother => hitems other (List.mem_cons_of_mem _ hother)) (Cursor.symbols_after_length h)
    rw [List.flatMap_cons, List.length_append, Cursor.after_add]
    exact ⟨s :: spans, .cons hpair hrow, by rw [List.map_cons, hs, hspans]⟩

/-- **A list of words goes along joined words**, up to where no delimiter follows, or to a delimiter without a word. -/
theorem separated_of_join [Distinct ι] (hd : ∃ c ∈ d.toList.head?, w c = false) (htail : ∀ c ∈ tail.head?, w c = false)
    (hne : items ≠ []) (hitems : ∀ item ∈ items, IsWord w item)
    (h : symbols x = d.toList.intercalate items ++ tail) :
    ∃ spans rest, spans.map symbols = items ∧ rest = after (d.toList.intercalate items).length x ∧
      ((string d : Parser ι TextCause String).Fails rest →
        (word w : Parser ι TextCause (Stretch ι)).separated (string d) x = .success spans rest) ∧
      ∀ between behind fault given, (string d : Parser ι TextCause String) rest = .success between behind →
        (word w : Parser ι TextCause (Stretch ι)) behind = .failure fault given →
        (word w : Parser ι TextCause (Stretch ι)).separated (string d) x = .failure fault x := by
  obtain ⟨first, more, rfl⟩ := List.exists_cons_of_ne_nil hne
  rw [intercalate_cons, List.append_assoc] at h
  have hfirst : (word w : Parser ι TextCause (Stretch ι)) x = _ :=
    word_of_symbols h (hitems first List.mem_cons_self) (head_behind_word hd htail more)
  obtain ⟨spans, hrow, hspans⟩ := row_of_words hd htail more
    (fun item hitem => hitems item (List.mem_cons_of_mem _ hitem)) (Cursor.symbols_after_length h)
  have hlist := separated_of_row (composed_word w).orderly (composed_string d).orderly
    (progresses_word.skipThen (composed_string d).orderly) hfirst hrow
  refine ⟨_, _, ?_, ?_, hlist⟩
  · rw [List.map_cons, hspans, (Distinct.tellsApart x).symbols_stretch_of_append h]
  · rw [intercalate_cons, List.length_append, Cursor.after_add]

/-- **Words and delimiters that were matched by turns make up what was consumed.** -/
theorem Alternation.symbols_eq_join [Distinct ι] {spans : List (Stretch ι)}
    (h : (word w : Parser ι TextCause (Stretch ι)).Alternation (string d : Parser ι TextCause String) x spans rest) :
    d.toList.intercalate (spans.map symbols) ++ symbols rest = symbols x := by
  induction h with
  | last h =>
    obtain ⟨rfl, hreach⟩ := (Composed.repeated (.satisfying w) _).exists_reaches h
    rw [List.map_singleton, List.intercalate_singleton, (Distinct.tellsApart _).symbols_stretch_append hreach]
  | @cons x y z rest s _ spans h hbetween hmore ih =>
    obtain ⟨rfl, hreach⟩ := (Composed.repeated (.satisfying w) _).exists_reaches h
    obtain ⟨-, ⟨behind, hbehind⟩, rfl⟩ := literal_eq_success.1 hbetween
    rw [Cursor.symbols_after_length hbehind.symm] at ih
    cases spans with
    | nil => cases hmore
    | cons second more =>
      rw [List.map_cons, List.map_cons, List.intercalate_cons_cons, ← List.map_cons, List.append_assoc, ih,
        List.append_assoc, hbehind, (Distinct.tellsApart _).symbols_stretch_append hreach]

end Parser

/-- **Splitting inverts joining, and joining inverts splitting.**  Words joined by a string whose first character is
none of a word split into just these words, up to what follows if that begins neither with such a character nor with the
string.  Where the string follows and no word behind it, the list fails there and gives back its input.  What any text
splits into, joined again and followed by the rest, is the text. -/
theorem splitting_inverts_joining {ι : Type} [Cursor ι Char] [Distinct ι] {w : Char → Bool} {d : String}
    (hd : ∃ c ∈ d.toList.head?, w c = false) :
    let split : Parser ι TextCause (List (Stretch ι)) := (Parser.word w).separated (Parser.string d)
    (∀ (items : List (List Char)) (tail : List Char) (x : ι), items ≠ [] → (∀ item ∈ items, IsWord w item) →
      (∀ c ∈ tail.head?, w c = false) → ¬ d.toList <+: tail → symbols x = d.toList.intercalate items ++ tail →
      ∃ spans rest, split x = .success spans rest ∧ spans.map symbols = items ∧
        rest = after (d.toList.intercalate items).length x ∧ symbols rest = tail) ∧
    (∀ (items : List (List Char)) (tail : List Char) (x : ι), items ≠ [] → (∀ item ∈ items, IsWord w item) →
      (∀ c ∈ tail.head?, w c = false) → symbols x = d.toList.intercalate items ++ d.toList ++ tail →
      split x = .failure ⟨if tail.isEmpty then Cause.moreNeeded else Cause.invalid,
        after (d.toList.intercalate items ++ d.toList).length x⟩ x) ∧
    ∀ (x : ι) spans rest, split x = .success spans rest →
      (∀ s ∈ spans, IsWord w (symbols s)) ∧ d.toList.intercalate (spans.map symbols) ++ symbols rest = symbols x := by
  intro split
  refine ⟨fun items tail x hne hitems htail hno h => ?_, fun items tail x hne hitems htail h => ?_,
    fun x spans rest h => ?_⟩
  · obtain ⟨spans, rest, hspans, hrest, hlist, -⟩ := Parser.separated_of_join hd htail hne hitems h
    have hbehind : symbols rest = tail := hrest ▸ Cursor.symbols_after_length h
    exact ⟨spans, rest, hlist (Parser.fails_literal d (hbehind ▸ hno)), hspans, hrest, hbehind⟩
  · rw [List.append_assoc] at h
    obtain ⟨spans, rest, -, rfl, -, hlist⟩ :=
      Parser.separated_of_join hd (Parser.head_delimiter hd tail) hne hitems h
    have hdelimiter := Cursor.symbols_after_length h
    have hbehind := Cursor.symbols_after_length hdelimiter
    have hmissing : (Parser.word w : Parser ι TextCause (Stretch ι)) _ = _ :=
      Parser.word_eq_failure (hbehind.symm ▸ htail)
    refine (hlist _ _ _ _ (Parser.literal_of_symbols d hdelimiter) hmissing).trans ?_
    rw [hbehind, List.length_append, Cursor.after_add]
  · have hlist := Parser.alternation_of_separated h
    refine ⟨fun s hs => ?_, hlist.symbols_eq_join⟩
    obtain ⟨_, _, hword⟩ := hlist.match_of_mem hs
    exact Parser.isWord_of_word hword

/-- Words of letters between commas with an `a` behind them, before an unfinished delimiter and before a whole one, with
lines and columns. -/
theorem splitting_inverts_joining_of_letters :
    let split : Parser (Located Text) TextCause (List (Stretch (Located Text))) :=
      (Parser.word Char.isAlpha).separated (Parser.string ",a")
    let x := Located.ofCursor (Text.ofString "ab,aa,ac,;")
    let y := Located.ofCursor (Text.ofString "ab,aa,a")
    (∃ spans rest, split x = .success spans rest ∧ spans.map symbols = [['a', 'b'], ['a'], ['c']] ∧
      rest = after 8 x ∧ symbols rest = [',', ';'] ∧
      [',', 'a'].intercalate (spans.map symbols) ++ symbols rest = "ab,aa,ac,;".toList) ∧
    split y = .failure ⟨.general .moreNeeded, after 7 y⟩ y := by
  intro split x y
  have hd : ∃ c ∈ ",a".toList.head?, Char.isAlpha c = false := ⟨',', rfl, by decide⟩
  obtain ⟨hjoined, hends, hsplit⟩ := splitting_inverts_joining (ι := Located Text) hd
  obtain ⟨spans, rest, h, hspans, hrest, htail⟩ :=
    hjoined [['a', 'b'], ['a'], ['c']] [',', ';'] x (by decide) (by simp [IsWord]) (by simp) (by decide) rfl
  refine ⟨⟨spans, rest, h, hspans, hrest, htail, (hsplit x spans rest h).2⟩, ?_⟩
  exact hends [['a', 'b'], ['a']] [] y (by decide) (by simp [IsWord]) (by simp) rfl

end Parsing
