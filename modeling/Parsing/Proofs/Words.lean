import Parsing.Proofs.Composed
import Parsing.Proofs.Success
/-!
# Words — longest runs of symbols that satisfy a predicate

A word is one symbol or more of a kind, recognized.  Where the symbols at hand are of the kind up to one that is not,
or up to the end, the word is the stretch of those; where the first is not of the kind there is no word, and the fault
is right there (`Parser.word_eq_success`).
-/
namespace Parsing

open Cursor (Distinct after left symbols)

/-- What is left behind the longest run of elements of a kind begins with none of the kind. -/
theorem head_dropWhile {σ : Type} (holds : σ → Bool) (as : List σ) :
    ∀ a ∈ (as.dropWhile holds).head?, holds a = false := by
  intro a ha
  have h := List.head?_dropWhile_not holds as
  rw [Option.mem_def.1 ha] at h
  simpa using h

/-- One or more symbols that satisfy a predicate. -/
def IsWord {σ : Type} (holds : σ → Bool) (as : List σ) : Prop := as ≠ [] ∧ ∀ a ∈ as, holds a = true

namespace Parser

variable {ι σ κ : Type} [Cursor ι σ] [Cause κ] {holds : σ → Bool} {x rest : ι} {as tail : List σ}

/-- Matches as many symbols that satisfy a predicate as there are, at least one, and yields their stretch. -/
def word (holds : σ → Bool) : Parser ι κ (Stretch ι) := ((satisfying holds).repeated (.atLeast 1)).recognize

theorem composed_word (holds : σ → Bool) : (word holds : Parser ι κ (Stretch ι)).Composed Parts.itself :=
  ((Composed.satisfying holds).repeated (.atLeast 1)).recognize

variable [Distinct ι]

/-- **A word goes on to the last symbol of its kind**, and must have one. -/
theorem word_of_symbols (h : symbols x = as ++ tail) (has : IsWord holds as)
    (htail : ∀ a ∈ tail.head?, holds a = false) :
    (word holds : Parser ι κ (Stretch ι)) x = .success ⟨x, after as.length x⟩ (after as.length x) := by
  have hlength : ¬ as.length < 1 := Nat.not_lt.2 (List.length_pos_iff.2 has.1)
  rw [word, recognize, repeated_satisfying 1 h has.2 htail, if_neg hlength, Outcome.andThen_success]

theorem word_eq_failure (h : ∀ a ∈ (symbols x).head?, holds a = false) :
    (word holds : Parser ι κ (Stretch ι)) x =
      .failure ⟨if (symbols x).isEmpty then Cause.moreNeeded else Cause.invalid, x⟩ x := by
  have hnone : ∀ a ∈ ([] : List σ), holds a = true := fun a ha => absurd ha List.not_mem_nil
  have hrepeated : (satisfying holds : Parser ι κ σ).repeated (.atLeast 1) x = .failure _ x :=
    (repeated_satisfying 1 (List.nil_append _).symm hnone h).trans (if_pos Nat.zero_lt_one)
  rw [word, recognize, hrepeated, Outcome.andThen_failure]
  rfl

/-- **A word is the longest run of symbols of its kind**, and fails where there is none. -/
theorem word_eq (holds : σ → Bool) (x : ι) : (word holds : Parser ι κ (Stretch ι)) x =
    if (symbols x).takeWhile holds = [] then
      .failure ⟨if (symbols x).isEmpty then Cause.moreNeeded else Cause.invalid, x⟩ x
    else .success ⟨x, after ((symbols x).takeWhile holds).length x⟩ (after ((symbols x).takeWhile holds).length x) := by
  have hsplit := (List.takeWhile_append_dropWhile (p := holds) (l := symbols x)).symm
  have htail := head_dropWhile holds (symbols x)
  by_cases hne : (symbols x).takeWhile holds = []
  · rw [hne, List.nil_append] at hsplit
    rw [if_pos hne, word_eq_failure (hsplit ▸ htail)]
  · rw [if_neg hne, word_of_symbols hsplit ⟨hne, List.all_eq_true.1 List.all_takeWhile⟩ htail]

/-- **There is a word just where the symbols at hand begin with some of its kind**, and it is the stretch of those. -/
theorem word_eq_success {s : Stretch ι} : (word holds : Parser ι κ (Stretch ι)) x = .success s rest ↔
    ∃ as tail, symbols x = as ++ tail ∧ IsWord holds as ∧ (∀ a ∈ tail.head?, holds a = false) ∧ s = ⟨x, rest⟩ ∧
      rest = after as.length x := by
  constructor
  · intro h
    rw [word_eq] at h
    split at h
    · cases h
    · rename_i hne
      cases h
      exact ⟨_, _, List.takeWhile_append_dropWhile.symm, ⟨hne, List.all_eq_true.1 List.all_takeWhile⟩,
        head_dropWhile holds (symbols x), rfl, rfl⟩
  · rintro ⟨as, tail, h, has, htail, rfl, rfl⟩
    exact word_of_symbols h has htail

theorem progresses_word : (word holds : Parser ι κ (Stretch ι)).Progresses := by
  intro x rest s h
  obtain ⟨as, tail, hs, has, -, -, rfl⟩ := word_eq_success.1 h
  have hlength := List.length_pos_iff.2 has.1
  rw [Cursor.left_after, left, hs, List.length_append]
  omega

theorem isWord_of_word {s : Stretch ι} (h : (word holds : Parser ι κ (Stretch ι)) x = .success s rest) :
    IsWord holds (symbols s) := by
  obtain ⟨as, tail, hs, has, -, rfl, rfl⟩ := word_eq_success.1 h
  rwa [(Distinct.tellsApart x).symbols_stretch_of_append hs]

end Parser
end Parsing
