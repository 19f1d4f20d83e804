import Parsing.Proofs.Greedy
import Parsing.Proofs.Literals
import Parsing.Proofs.Words
/-!
# Reserved words — identifiers that are not on a list

An identifier is the longest run of characters of a kind, excepted where one of some reserved words is written and no
character of the kind follows (`Grammar.reserved`).  The choice among the reserved words commits to the first that the
text begins with, so a word must not hide a longer one behind it on the list.  Then the exception is met just where the
whole run is reserved: a word that the text begins with lies within the run, and is all of it where none of the kind
follows.

Main statement: `identifier_is_longest_run_not_reserved`.
-/
namespace Parsing

open Cursor (Distinct after left symbols)

/-! ## Parsers of mapped values -/

namespace Parser

variable {ι κ ν α β : Type} (p : Parser ι κ α) (f : α → β)

/-- **A stretch is the same whatever becomes of the value.** -/
theorem recognize_map : (p.map f).recognize = p.recognize :=
  funext fun x => (p x).andThen_map f _

theorem repeatedFrom_map {σ : Type} [Cursor ι σ] (range : Repetition) (start : ι) : ∀ (rounds count : Nat) (x : ι),
    repeatedFrom (p.map f) range start rounds count x = (repeatedFrom p range start rounds count x).map (List.map f)
  | 0, _, _ => rfl
  | rounds + 1, count, x => by
    rw [repeatedFrom, repeatedFrom, map]
    by_cases hfull : range.isFull count = true
    · rw [if_pos hfull, if_pos hfull]
      rfl
    rw [if_neg hfull, if_neg hfull]
    cases p x with
    | success value rest =>
      dsimp only [Outcome.map_success]
      by_cases hstop : (Cursor.samePosition rest x && range.least ≤ count + 1) = true
      · rw [if_pos hstop, if_pos hstop]
        rfl
      · rw [if_neg hstop, if_neg hstop, repeatedFrom_map range start rounds (count + 1) rest, Outcome.map_map,
          Outcome.map_map]
        rfl
    | failure fault given =>
      dsimp only [Outcome.map_failure]
      by_cases hcount : count < range.least
      · rw [if_pos hcount, if_pos hcount]
        rfl
      · rw [if_neg hcount, if_neg hcount]
        rfl
    | aborted why => rfl

/-- **Repeating a mapped parser maps each value.** -/
theorem repeated_map {σ : Type} [Cursor ι σ] (range : Repetition) :
    (p.map f).repeated range = (p.repeated range).map (List.map f) :=
  funext fun x => repeatedFrom_map p f range x _ 0 x

/-! ## Where a pattern must not be -/

variable [Cause κ] {p} {excluded : Parser ι ν β} {x rest : ι}

theorem notFollowedBy_of_fails (h : p.Fails x) : p.notFollowedBy x = .success () x := by
  obtain ⟨fault, given, h⟩ := h
  rw [notFollowedBy, h]

theorem fails_notFollowedBy {value : α} (h : p x = .success value rest) : p.notFollowedBy.Fails x :=
  ⟨_, _, by rw [notFollowedBy, h]⟩

/-- **Where the exception is met, there is no match**, whatever else is there. -/
theorem butNot_of_success {value : β} (h : excluded x = .success value rest) :
    p.butNot excluded x = .failure ⟨Cause.excluded, x⟩ x := by
  rw [butNot, h]

theorem butNot_of_fails (h : excluded.Fails x) : p.butNot excluded x = p x := by
  obtain ⟨fault, given, h⟩ := h
  rw [butNot, h]

end Parser

/-! ## The first word that a text begins with -/

/-- The first word on a list that a text begins with. -/
def firstWord? (words : List String) (s : List Char) : Option String := words.find? fun k => k.toList.isPrefixOf s

/-- Reserved words, each of the kind, on a list where none begins a longer one behind it. -/
structure Reservable (w : Char → Bool) (words : List String) : Prop where
  isWord : ∀ k ∈ words, IsWord w k.toList
  ordered : words.Pairwise fun k l => k.toList <+: l.toList → k = l

section Lists

variable {w : Char → Bool} {s : List Char} {words : List String} {k : String}

theorem firstWord?_eq_some : firstWord? words s = some k ↔
    k.toList <+: s ∧ ∃ before behind, words = before ++ k :: behind ∧ ∀ j ∈ before, ¬ j.toList <+: s := by
  rw [firstWord?, List.find?_eq_some_iff_append]
  simp only [List.isPrefixOf_iff_prefix, Bool.not_eq_true', ← Bool.not_eq_true, exists_and_right]

theorem firstWord?_eq_none : firstWord? words s = none ↔ ∀ k ∈ words, ¬ k.toList <+: s := by
  simp [firstWord?]

/-- **A word that a text begins with lies within the longest run of its kind.** -/
theorem IsWord.isPrefix_takeWhile {k : List Char} (hk : IsWord w k) (h : k <+: s) : k <+: s.takeWhile w := by
  obtain ⟨tail, rfl⟩ := h
  exact ⟨tail.takeWhile w, (List.takeWhile_append_of_pos hk.2).symm⟩

/-- **A reserved run is the first reserved word that the text begins with**: one before it would lie within the run, and
so begin a longer word behind it. -/
theorem Reservable.firstWord?_eq (h : Reservable w words) (hk : k ∈ words) (hrun : k.toList = s.takeWhile w) :
    firstWord? words s = some k := by
  have hbegins : k.toList <+: s := hrun ▸ List.takeWhile_prefix w
  induction words with
  | nil => cases hk
  | cons l words ih =>
    by_cases hl : l.toList <+: s
    · have hwithin : l.toList <+: k.toList := hrun ▸ (h.isWord l List.mem_cons_self).isPrefix_takeWhile hl
      have heq : l = k := by
        rcases List.mem_cons.1 hk with rfl | hk
        · rfl
        · exact List.rel_of_pairwise_cons h.ordered hk hwithin
      exact heq ▸ List.find?_cons_of_pos (List.isPrefixOf_iff_prefix.2 hl)
    · have hmore : k ∈ words := (List.mem_cons.1 hk).resolve_left fun heq => hl (heq ▸ hbegins)
      rw [firstWord?, List.find?_cons_of_neg (by simpa using hl)]
      exact ih ⟨fun j hj => h.isWord j (List.mem_cons_of_mem l hj), h.ordered.of_cons⟩ hmore

end Lists

/-! ## Grammars of words -/

namespace Grammar

/-- As many characters of a kind as there are, at least one, recognized. -/
def word (w : Char → Bool) : Grammar Char TextCause := .recognize (.repeated (.satisfying w) (.atLeast 1))

/-- The first of some words that matches, where no character of a kind follows. -/
def reserved (w : Char → Bool) (words : List String) : Grammar Char TextCause :=
  .andThen (choice (words.map string)) (.notFollowedBy (.satisfying w))

variable {ι : Type} [Cursor ι Char] {call : String → Parser ι TextCause (Value (Stretch ι))} {w : Char → Bool}
  {words : List String} {x : ι}

variable (call) in
theorem run_word (w : Char → Bool) (x : ι) : (word w).run call x = (Parser.word w x).map Value.stretch := by
  have hmapped : (word w).run call =
      ((((Parser.satisfying w).map fun a => (Symbol.value a).lift).repeated (.atLeast 1)).map
        Value.list).recognize.map Value.stretch := rfl
  rw [hmapped, Parser.recognize_map, Parser.repeated_map, Parser.recognize_map]
  rfl

theorem run_string_of_isPrefix {k : String} (h : k.toList <+: symbols x) :
    (string k).run call x = .success (.text k) (after k.toList.length x) :=
  Parser.literal_eq_success.2 ⟨rfl, h, rfl⟩

theorem fails_string {k : String} (h : ¬ k.toList <+: symbols x) : ((string k).run call).Fails x :=
  Parser.fails_literal _ h

theorem choice_eq_iff (hcall : ∀ name, (call name).Composed Value.parts) {ps : List (Grammar Char TextCause)}
    (hps : ps ≠ []) {o : Outcome TextCause ι (Value (Stretch ι))} : (choice ps).run call x = o ↔
      ∃ before p behind, ps = before ++ p :: behind ∧ (∀ q ∈ before, (q.run call).Fails x) ∧ p.run call x = o ∧
        ((p.run call).Fails x → behind = []) := by
  obtain ⟨p, more, rfl⟩ := List.exists_cons_of_ne_nil hps
  rw [choice_eq_firstOf hcall, firstOf_eq_iff]

/-- **A choice among words takes the first that the text begins with.** -/
theorem run_choice_string (hcall : ∀ name, (call name).Composed Value.parts) {k : String}
    (h : firstWord? words (symbols x) = some k) :
    (choice (words.map string)).run call x = .success (.text k) (after k.toList.length x) := by
  obtain ⟨hbegins, before, behind, rfl, hbefore⟩ := firstWord?_eq_some.1 h
  have hmatch : (string k).run call x = _ := run_string_of_isPrefix hbegins
  refine (choice_eq_iff hcall (by simp)).2 ⟨before.map string, string k, behind.map string, ?_, ?_, hmatch, ?_⟩
  · rw [List.map_append, List.map_cons]
  · exact List.forall_mem_map.2 fun j hj => fails_string (hbefore j hj)
  · exact fun hfails => absurd hfails (Parser.not_fails_of_success hmatch)

theorem fails_choice_string (hcall : ∀ name, (call name).Composed Value.parts) (hne : words ≠ [])
    (h : firstWord? words (symbols x) = none) : ((choice (words.map string)).run call).Fails x := by
  have hnone := firstWord?_eq_none.1 h
  have hlast : ((string (words.getLast hne)).run call).Fails x := fails_string (hnone _ (List.getLast_mem hne))
  obtain ⟨fault, given, hfails⟩ := id hlast
  refine ⟨fault, given, (choice_eq_iff hcall (by simpa using hne)).2
    ⟨words.dropLast.map string, string (words.getLast hne), [], ?_, ?_, hfails, fun _ => rfl⟩⟩
  · rw [← List.map_singleton, ← List.map_append, List.dropLast_concat_getLast hne]
  · exact List.forall_mem_map.2 fun j hj => fails_string (hnone j (List.dropLast_subset words hj))

theorem run_notFollowedBy_of_head (h : ∀ c ∈ (symbols x).head?, w c = false) :
    (notFollowedBy (satisfying w : Grammar Char TextCause)).run call x = .success .unit x := by
  have hnone : (Parser.satisfying w : Parser ι TextCause Char).Fails x := ⟨_, _, Parser.satisfying_eq_failure h⟩
  exact Parser.withValue_eq_success.2 ⟨(), Parser.notFollowedBy_of_fails (hnone.map _)⟩

theorem fails_notFollowedBy_of_symbols {c : Char} {more : List Char} (h : symbols x = c :: more) (hc : w c = true) :
    ((notFollowedBy (satisfying w : Grammar Char TextCause)).run call).Fails x := by
  have hmatch : (Parser.satisfying w : Parser ι TextCause Char) x = .success c (after 1 x) :=
    Parser.satisfying_eq_success.2 ⟨(Parser.next_of_symbols_cons h).1, hc⟩
  have hvalue : (satisfying w : Grammar Char TextCause).run call x = .success (.char c) (after 1 x) :=
    Parser.map_eq_success.2 ⟨c, hmatch, rfl⟩
  exact (Parser.fails_notFollowedBy hvalue).map _

/-- **Where the whole run is reserved, the exception is met**: behind the run there is none of the kind. -/
theorem reserved_of_mem (hcall : ∀ name, (call name).Composed Value.parts) (h : Reservable w words)
    (hmem : (symbols x).takeWhile w ∈ words.map String.toList) :
    ∃ value rest, (reserved w words).run call x = .success value rest := by
  obtain ⟨k, hk, hrun⟩ := List.mem_map.1 hmem
  have hchoice := run_choice_string hcall (h.firstWord?_eq hk hrun)
  have hrest : symbols (after k.toList.length x) = (symbols x).dropWhile w := by
    rw [hrun, Cursor.symbols_after_length List.takeWhile_append_dropWhile.symm]
  have hend : (notFollowedBy (satisfying w : Grammar Char TextCause)).run call _ = _ :=
    run_notFollowedBy_of_head (hrest ▸ head_dropWhile w (symbols x))
  exact ⟨_, _, Parser.map_eq_success.2 ⟨(_, _), Parser.andThen_eq_success.2 ⟨_, hchoice, hend⟩, rfl⟩⟩

/-- **Where the run is not reserved, the exception is not met**: behind a word that is less than the run there is more
of the kind. -/
theorem fails_reserved (hcall : ∀ name, (call name).Composed Value.parts) (hne : words ≠ []) (h : Reservable w words)
    (hmem : (symbols x).takeWhile w ∉ words.map String.toList) : ((reserved w words).run call).Fails x := by
  cases hfirst : firstWord? words (symbols x) with
  | none => exact ((fails_choice_string hcall hne hfirst).andThen _).map _
  | some k =>
    obtain ⟨hbegins, before, behind, rfl, -⟩ := firstWord?_eq_some.1 hfirst
    have hk : k ∈ before ++ k :: behind := List.mem_append_right before List.mem_cons_self
    obtain ⟨more, hmore⟩ := (h.isWord k hk).isPrefix_takeWhile hbegins
    have hchoice := run_choice_string hcall hfirst
    cases more with
    | nil =>
      rw [List.append_nil] at hmore
      exact absurd (List.mem_map.2 ⟨k, hk, hmore⟩) hmem
    | cons c more =>
      have hc : w c = true := by
        have hmem : c ∈ (symbols x).takeWhile w := hmore ▸ List.mem_append_right _ List.mem_cons_self
        exact List.all_eq_true.1 List.all_takeWhile c hmem
      -- The choice takes `k` for good, and `c` stands behind it: longer words on the list are not tried.
      have hs : symbols x = k.toList ++ c :: (more ++ (symbols x).dropWhile w) := by
        rw [← List.cons_append, ← List.append_assoc, hmore, List.takeWhile_append_dropWhile]
      exact (Parser.fails_andThen hchoice
        (fails_notFollowedBy_of_symbols (Cursor.symbols_after_length hs) hc)).map _

/-- **The exception is met where the run is reserved**, and elsewhere the identifier is a word. -/
theorem run_identifier [Distinct ι] (hcall : ∀ name, (call name).Composed Value.parts) (hne : words ≠ [])
    (h : Reservable w words) (x : ι) : (butNot (word w) (reserved w words)).run call x =
      if (symbols x).takeWhile w ∈ words.map String.toList then .failure ⟨.general .excluded, x⟩ x
      else (Parser.word w x).map Value.stretch := by
  split
  · rename_i hmem
    obtain ⟨value, rest, hreserved⟩ := reserved_of_mem hcall h hmem
    exact Parser.butNot_of_success hreserved
  · rename_i hmem
    exact (Parser.butNot_of_fails (fails_reserved hcall hne h hmem)).trans (run_word call w x)

end Grammar

/-- **An identifier is the longest run of its kind, if that is not reserved.**  Among the reserved words none begins a
longer one behind it.  Then the run matches just where there is one and it is no reserved word, and the match is all of
it.  A run that is reserved is excluded, whatever comes behind it; where there is no run, more is needed at the end of
the input, and elsewhere the character is invalid.  Each of these faults is where the identifier was to begin, and gives
back its input. -/
theorem identifier_is_longest_run_not_reserved {ι : Type} [Cursor ι Char] [Distinct ι] {w : Char → Bool}
    {words : List String} (hne : words ≠ []) (hwords : Reservable w words) (rules : Rules Char TextCause) (x : ι) :
    let run := (symbols x).takeWhile w
    let identifier := Grammar.butNot (Grammar.word w) (Grammar.reserved w words)
    (∀ value rest, identifier.parse rules x = (.success value rest : Outcome TextCause ι _) ↔
      (run ≠ [] ∧ run ∉ words.map String.toList) ∧ value = .stretch ⟨x, rest⟩ ∧ rest = after run.length x) ∧
    (symbols (⟨x, after run.length x⟩ : Stretch ι) = run ∧
      symbols (after run.length x) = (symbols x).dropWhile w) ∧
    (run ∈ words.map String.toList →
      identifier.parse rules x = .failure ⟨TextCause.general .excluded, x⟩ x) ∧
    (run = [] → identifier.parse rules x =
      .failure ⟨TextCause.general (if (symbols x).isEmpty then .moreNeeded else .invalid), x⟩ x) := by
  intro run identifier
  have hparse : identifier.parse rules x =
      if run ∈ words.map String.toList then .failure ⟨.general .excluded, x⟩ x
      else (Parser.word w x : Outcome TextCause ι _).map Value.stretch :=
    Grammar.run_identifier (Grammar.composed_call rules _) hne hwords x
  have hsplit : symbols x = run ++ (symbols x).dropWhile w := List.takeWhile_append_dropWhile.symm
  refine ⟨fun value rest => ?_,
    ⟨(Distinct.tellsApart x).symbols_stretch_of_append hsplit, Cursor.symbols_after_length hsplit⟩,
    fun hmem => hparse.trans (if_pos hmem), fun hrun => ?_⟩
  · rw [hparse, Parser.word_eq]
    by_cases hmem : run ∈ words.map String.toList
    · rw [if_pos hmem]
      exact ⟨nofun, fun h => absurd hmem h.1.2⟩
    by_cases hrun : run = []
    · rw [if_neg hmem, if_pos hrun]
      exact ⟨nofun, fun h => absurd hrun h.1.1⟩
    rw [if_neg hmem, if_neg hrun, Outcome.map_success]
    constructor
    · rintro ⟨⟩
      exact ⟨⟨hrun, hmem⟩, rfl, rfl⟩
    · rintro ⟨-, rfl, rfl⟩
      rfl
  · -- A reserved word has a character, so an empty run is none.
    have hmem : run ∉ words.map String.toList := by
      intro hmem
      obtain ⟨k, hk, hempty⟩ := List.mem_map.1 hmem
      exact (hwords.isWord k hk).1 (hempty.trans hrun)
    rw [hparse, if_neg hmem, Parser.word_eq, if_pos hrun, Outcome.map_failure]
    split <;> rfl

/-- A keyword that begins another, each of them written, and words that go on behind them or part from them. -/
theorem identifier_is_longest_run_not_reserved_of_keywords :
    let words := ["letter", "let", "if"]
    let identifier : Grammar Char TextCause := .butNot (.word Char.isAlpha) (.reserved Char.isAlpha words)
    let x := Text.ofString "lets!"
    (words ≠ [] ∧ Reservable Char.isAlpha words) ∧
      identifier.parse [] x = (.success (.stretch ⟨x, ⟨4, ['!']⟩⟩) ⟨4, ['!']⟩ : Outcome TextCause Text _) ∧
      symbols (⟨x, ⟨4, ['!']⟩⟩ : Stretch Text) = ['l', 'e', 't', 's'] ∧
      identifier.parse [] (Text.ofString "letter") =
        .failure ⟨TextCause.general .excluded, Text.ofString "letter"⟩ (Text.ofString "letter") ∧
      identifier.parse [] (Text.ofString "") =
        .failure ⟨TextCause.general .moreNeeded, Text.ofString ""⟩ (Text.ofString "") := by
  intro words identifier x
  have hne : words ≠ [] := List.cons_ne_nil _ _
  have hwords : Reservable Char.isAlpha words := by
    refine ⟨?_, by decide⟩
    simp only [words, List.forall_mem_cons, IsWord]
    exact ⟨⟨nofun, List.all_eq_true.1 rfl⟩, ⟨nofun, List.all_eq_true.1 rfl⟩, ⟨nofun, List.all_eq_true.1 rfl⟩, nofun⟩
  have h (y : Text) := identifier_is_longest_run_not_reserved hne hwords [] y
  refine ⟨⟨hne, hwords⟩, ((h x).1 _ _).2 ⟨⟨?_, ?_⟩, rfl, rfl⟩, (h x).2.1.1, (h _).2.2.1 ?_, (h _).2.2.2 ?_⟩
  all_goals decide

end Parsing
