import Parsing.Parser.Repeat
import Parsing.Proofs.Reach
/-!
# Orderly parsers — what every combinator keeps

A parser is orderly when each of its outcomes is: a success leaves a cursor reached from the one given, a failure gives
back the very cursor it was given and has its fault at a cursor reached from there, and the stretches in a value lie
ahead, stop behind start.  The halves need each other: a combinator that goes on from where a failure left it, as
`optional` and `orElse` do, moves forward only because failures give back what they got.

There is one lemma for each primitive and each combinator.  A loop keeps the cursor it started from beside the one it
has come to, and its lemma is an induction on the rounds.
-/
namespace Parsing

open Cursor (Reaches)

variable {ι σ κ ν α β ζ : Type}

/-- Which stretches count as parts of a value: those in it that `recognize` made. -/
abbrev Parts (ι α : Type) := α → Stretch ι → Prop

namespace Parts

/-- Values without parts. -/
def none : Parts ι α := fun _ _ => False

/-- A stretch is the one part of itself. -/
def itself : Parts ι (Stretch ι) := fun s t => t = s

/-- The parts of what was found, if anything was. -/
def found (parts : Parts ι α) : Parts ι (Option α) := fun values s => ∃ value ∈ values, parts value s

/-- The parts of all items. -/
def items (parts : Parts ι α) : Parts ι (List α) := fun values s => ∃ value ∈ values, parts value s

/-- The parts of two values. -/
def both (first : Parts ι α) (second : Parts ι β) : Parts ι (α × β) := fun values s =>
  first values.1 s ∨ second values.2 s

theorem items_cons {parts : Parts ι α} {value : α} {values : List α} {s : Stretch ι}
    (h : items parts (value :: values) s) : parts value s ∨ items parts values s := by
  obtain ⟨w, hw, hs⟩ := h
  rcases List.mem_cons.1 hw with rfl | hw
  · exact Or.inl hs
  · exact Or.inr ⟨w, hw, hs⟩

end Parts

variable [Cursor ι σ]

/-- A stretch ahead of a cursor: its start is reached from there, and its stop from its start. -/
structure Stretch.Ahead (x : ι) (s : Stretch ι) : Prop where
  start : Reaches x s.start
  stop : Reaches s.start s.stop

theorem Stretch.Ahead.of_reaches {x y : ι} {s : Stretch ι} (hs : s.Ahead y) (h : Reaches x y) : s.Ahead x :=
  ⟨h.trans hs.start, hs.stop⟩

namespace Outcome

/-- An outcome that moves forward from a cursor where it succeeds, and goes back to it where it fails. -/
def Orderly (parts : Parts ι α) (x : ι) : Outcome κ ι α → Prop
  | success value rest => Reaches x rest ∧ ∀ s, parts value s → s.Ahead x
  | failure fault input => input = x ∧ Reaches x fault.position
  | aborted _ => True

/-- The cursors an outcome shows: the one behind the match, or the one given back and that of the fault. -/
def cursors : Outcome κ ι α → List ι
  | success _ rest => [rest]
  | failure fault input => [input, fault.position]
  | aborted _ => []

namespace Orderly

variable {parts : Parts ι α} {others : Parts ι β} {x y : ι}

theorem reaches_of_mem {o : Outcome κ ι α} (h : o.Orderly parts x) : ∀ y ∈ o.cursors, Reaches x y := by
  intro y hy
  cases o with
  | success value rest =>
    rw [List.mem_singleton.1 hy]
    exact h.1
  | failure fault input =>
    rcases List.mem_cons.1 hy with rfl | hy
    · rw [h.1]
      exact Reaches.refl x
    · rw [List.mem_singleton.1 hy]
      exact h.2
  | aborted why => cases hy

/-- What comes after a success may start from anything reached, its parts from anything ahead. -/
theorem andThen {o : Outcome κ ι α} {next : α → ι → Outcome κ ι β} (h : o.Orderly parts x)
    (hnext : ∀ value rest, Reaches x rest → (∀ s, parts value s → s.Ahead x) → (next value rest).Orderly others x) :
    (o.andThen next).Orderly others x := by
  cases o with
  | success value rest => exact hnext value rest h.1 h.2
  | failure fault input => exact h
  | aborted why => trivial

theorem map {o : Outcome κ ι α} {f : α → β} (h : o.Orderly parts x)
    (hf : ∀ value s, others (f value) s → parts value s ∨ s.Ahead x) : (o.map f).Orderly others x :=
  h.andThen fun value _ hrest hparts =>
    ⟨hrest, fun s hs => (hf value s hs).elim (hparts s) id⟩

/-- **A failure further on, given the cursor to go back to, is a failure there.** -/
theorem restoring {o : Outcome κ ι α} (h : o.Orderly parts y) (hxy : Reaches x y) :
    (o.restoring x).Orderly parts x := by
  cases o with
  | success value rest => exact ⟨hxy.trans h.1, fun s hs => (h.2 s hs).of_reaches hxy⟩
  | failure fault input => exact ⟨rfl, hxy.trans h.2⟩
  | aborted why => trivial

/-- **Giving back the input changes nothing**: a failure has given it back already. -/
theorem restoring_eq {o : Outcome κ ι α} (h : o.Orderly parts x) : o.restoring x = o := by
  cases o with
  | failure fault input => rw [h.1, restoring_failure]
  | success value rest => rfl
  | aborted why => rfl

/-- Where the outcome is a failure, what comes next starts from the same cursor. -/
theorem recover_eq {o : Outcome κ ι α} (h : o.Orderly parts x) (next : ι → Outcome κ ι α) :
    o.recover next = o.recover fun _ => next x := by
  rw [← h.restoring_eq]
  cases o <;> rfl

theorem recover {o : Outcome κ ι α} {next : ι → Outcome κ ι α} (h : o.Orderly parts x)
    (hnext : (next x).Orderly parts x) : (o.recover next).Orderly parts x := by
  cases o with
  | success value rest => exact h
  | failure fault input => rw [← h.1] at hnext ⊢; exact hnext
  | aborted why => trivial

theorem fewer {o : Outcome κ ι α} {some : Parts ι α} (h : o.Orderly parts x)
    (hsome : ∀ value s, some value s → parts value s) : o.Orderly some x := by
  cases o with
  | success value rest => exact ⟨h.1, fun s hs => h.2 s (hsome value s hs)⟩
  | failure fault input => exact h
  | aborted why => trivial

end Orderly
end Outcome

namespace Parser

/-- A parser whose outcome is orderly at every cursor. -/
def Orderly (parts : Parts ι α) (p : Parser ι κ α) : Prop := ∀ x, (p x).Orderly parts x

/-- A parser whose matches all end at a cursor reached from where they began. -/
def Advances (p : Parser ι κ α) : Prop := ∀ ⦃x rest value⦄, p x = .success value rest → Reaches x rest

variable {parts : Parts ι α} {others : Parts ι β} {p q : Parser ι κ α}

theorem Orderly.advances (hp : p.Orderly parts) : p.Advances := fun x rest value h => by
  have ho := hp x
  rw [h] at ho
  exact ho.1

/-! ## One symbol, or none -/

theorem orderly_yielding {value : α} (hvalue : ∀ s, ¬ parts value s) :
    (yielding value : Parser ι κ α).Orderly parts := fun x =>
  ⟨Reaches.refl x, fun s hs => absurd hs (hvalue s)⟩

theorem orderly_anySymbol [Cause κ] : (anySymbol : Parser ι κ σ).Orderly Parts.none := fun x => by
  unfold anySymbol
  cases h : Cursor.next x with
  | none => exact ⟨rfl, Reaches.refl x⟩
  | some step => exact ⟨Reaches.of_next h, fun _ => False.elim⟩

theorem orderly_satisfying [Cause κ] (holds : σ → Bool) :
    (satisfying holds : Parser ι κ σ).Orderly Parts.none := fun x => by
  unfold satisfying
  cases h : Cursor.next x with
  | none => exact ⟨rfl, Reaches.refl x⟩
  | some step =>
    dsimp only
    split
    · exact ⟨Reaches.of_next h, fun _ => False.elim⟩
    · exact ⟨rfl, Reaches.refl x⟩

theorem orderly_endOfInput [Cause κ] : (endOfInput : Parser ι κ Unit).Orderly Parts.none := fun x => by
  unfold endOfInput
  split
  · exact ⟨Reaches.refl x, fun _ => False.elim⟩
  · exact ⟨rfl, Reaches.refl x⟩

theorem orderly_exactly [DecidableEq σ] (expected : σ) (cause : κ) :
    (exactly expected cause : Parser ι κ σ).Orderly Parts.none := fun x => by
  unfold exactly
  cases h : Cursor.next x with
  | none => exact ⟨rfl, Reaches.refl x⟩
  | some step =>
    dsimp only
    split
    · exact ⟨Reaches.of_next h, fun _ => False.elim⟩
    · exact ⟨rfl, Reaches.refl x⟩

/-- Along a literal, the walk stays ahead of where it started and fails back to there. -/
theorem orderly_literalFrom [DecidableEq σ] (cause : σ → κ) (start : ι) :
    ∀ (expected : List σ) (x : ι), Reaches start x → (literalFrom cause start expected x).Orderly Parts.none start
  | [], x, h => ⟨h, fun _ => False.elim⟩
  | a :: more, x, h => by
    have ha := orderly_exactly a (cause a) x
    unfold literalFrom
    cases ho : exactly a (cause a) x with
    | success value rest =>
      rw [ho] at ha
      exact orderly_literalFrom cause start more rest (h.trans ha.1)
    | failure fault input =>
      rw [ho] at ha
      exact ⟨rfl, h.trans ha.2⟩
    | aborted why => trivial

theorem orderly_literal [DecidableEq σ] (expected : List σ) (cause : σ → κ) {value : α}
    (hvalue : ∀ s, ¬ parts value s) : (literal expected cause value : Parser ι κ α).Orderly parts := fun x =>
  (orderly_literalFrom cause x expected x (Reaches.refl x)).map fun _ s hs => absurd hs (hvalue s)

/-! ## Mappings -/

theorem Orderly.map (hp : p.Orderly parts) {f : α → β} (hf : ∀ value s, others (f value) s → parts value s) :
    (p.map f).Orderly others := fun x =>
  (hp x).map fun value s hs => Or.inl (hf value s hs)

theorem Orderly.tryMap [Seed ζ κ] (hp : p.Orderly parts) {f : α → Except ζ β}
    (hf : ∀ value result s, f value = .ok result → others result s → parts value s) :
    (p.tryMap f).Orderly others := fun x =>
  (hp x).andThen fun value rest hrest hparts => by
    cases h : f value with
    | ok result => exact ⟨hrest, fun s hs => hparts s (hf value result s h hs)⟩
    | error seed => exact ⟨rfl, hrest⟩

theorem Orderly.mapSoundly (hp : p.Orderly parts) {f : α → Except String β}
    (hf : ∀ value result s, f value = .ok result → others result s → parts value s) :
    (p.mapSoundly f).Orderly others := fun x =>
  (hp x).andThen fun value rest hrest hparts => by
    cases h : f value with
    | ok result => exact ⟨hrest, fun s hs => hparts s (hf value result s h hs)⟩
    | error message => trivial

theorem Orderly.judged [Seed ζ κ] (hp : p.Orderly parts) {f : α → Verdict ζ β}
    (hf : ∀ value result s, f value = .accept result → others result s → parts value s) :
    (p.judged f).Orderly others := fun x =>
  (hp x).andThen fun value rest hrest hparts => by
    cases h : f value with
    | accept result => exact ⟨hrest, fun s hs => hparts s (hf value result s h hs)⟩
    | reject seed => exact ⟨rfl, hrest⟩
    | defect message => trivial

theorem Orderly.withValue (hp : p.Orderly parts) {value : β} (hvalue : ∀ s, ¬ others value s) :
    (p.withValue value).Orderly others :=
  hp.map fun _ s hs => absurd hs (hvalue s)

theorem Orderly.fewer {some : Parts ι α} (hp : p.Orderly parts) (hsome : ∀ value s, some value s → parts value s) :
    p.Orderly some := fun x =>
  (hp x).fewer hsome

/-! ## Looking ahead and around -/

theorem Orderly.complete [Cause κ] (hp : p.Orderly parts) : p.complete.Orderly parts := fun x =>
  (hp x).andThen fun value rest hrest hparts => by
    split
    · exact ⟨hrest, hparts⟩
    · exact ⟨rfl, hrest⟩

theorem Orderly.recognize (hp : p.Orderly parts) : p.recognize.Orderly Parts.itself := fun x =>
  (hp x).andThen fun value rest hrest _ => ⟨hrest, fun s hs => by
    have : s = ⟨x, rest⟩ := hs
    rw [this]
    exact ⟨Reaches.refl x, hrest⟩⟩

theorem Orderly.lookahead (hp : p.Orderly parts) : p.lookahead.Orderly parts := fun x =>
  (hp x).andThen fun _ _ _ hparts => ⟨Reaches.refl x, hparts⟩

theorem Orderly.notFollowedBy [Cause κ] (_ : p.Orderly parts) : p.notFollowedBy.Orderly Parts.none := fun x => by
  unfold Parser.notFollowedBy
  cases p x with
  | success value rest => exact ⟨rfl, Reaches.refl x⟩
  | failure fault input => exact ⟨Reaches.refl x, fun _ => False.elim⟩
  | aborted why => trivial

theorem Orderly.butNot [Cause κ] (hp : p.Orderly parts) (excluded : Parser ι ν β) :
    (p.butNot excluded).Orderly parts := fun x => by
  unfold Parser.butNot
  cases excluded x with
  | success value rest => exact ⟨rfl, Reaches.refl x⟩
  | failure fault input => exact hp x
  | aborted why => trivial

/-- **Nothing is found at the very cursor where the failure began**, for that is the one it gives back. -/
theorem Orderly.optional (hp : p.Orderly parts) : p.optional.Orderly parts.found := fun x => by
  have h := hp x
  unfold Parser.optional
  cases ho : p x with
  | success value rest =>
    rw [ho] at h
    refine ⟨h.1, fun s hs => ?_⟩
    obtain ⟨w, hw, hs⟩ := hs
    cases hw
    exact h.2 s hs
  | failure fault input =>
    rw [ho] at h
    refine ⟨h.1 ▸ Reaches.refl x, fun s hs => ?_⟩
    obtain ⟨w, hw, -⟩ := hs
    cases hw
  | aborted why => trivial

/-! ## One after the other, one or the other -/

theorem Orderly.andThen {q : Parser ι κ β} (hp : p.Orderly parts) (hq : q.Orderly others) :
    (p.andThen q).Orderly (parts.both others) := fun x =>
  (hp x).andThen fun first rest hrest hparts =>
    ((hq rest).restoring hrest).map fun second s hs => by
      rcases hs with hs | hs
      · exact Or.inr (hparts s hs)
      · exact Or.inl hs

theorem Orderly.skipThen {q : Parser ι κ β} (hp : p.Orderly parts) (hq : q.Orderly others) :
    (p.skipThen q).Orderly others := fun x =>
  (hp x).andThen fun _ rest hrest _ => (hq rest).restoring hrest

theorem Orderly.thenSkip {q : Parser ι κ β} (hp : p.Orderly parts) (hq : q.Orderly others) :
    (p.thenSkip q).Orderly parts := fun x =>
  (hp x).andThen fun _ rest hrest hparts =>
    ((hq rest).restoring hrest).map fun _ s hs => Or.inr (hparts s hs)

theorem Orderly.orElse (hp : p.Orderly parts) (hq : q.Orderly parts) : (p.orElse q).Orderly parts := fun x =>
  (hp x).recover (hq x)

/-! ## Loops -/

theorem orderly_repeatedFrom (hp : p.Orderly parts) (range : Repetition) (start : ι) :
    ∀ (rounds count : Nat) (x : ι), Reaches start x →
      (repeatedFrom p range start rounds count x).Orderly parts.items start
  | 0, _, _, _ => trivial
  | rounds + 1, count, x, hx => by
    have hnil : (Outcome.success [] x : Outcome κ ι (List α)).Orderly parts.items start :=
      ⟨hx, fun s ⟨_, hw, _⟩ => absurd hw List.not_mem_nil⟩
    have h := hp x
    unfold repeatedFrom
    split
    · exact hnil
    · cases ho : p x with
      | success value rest =>
        rw [ho] at h
        have hvalue : ∀ s, parts value s → s.Ahead start := fun s hs => (h.2 s hs).of_reaches hx
        dsimp only
        split
        · refine ⟨hx.trans h.1, fun s ⟨w, hw, hs⟩ => ?_⟩
          rw [List.mem_singleton.1 hw] at hs
          exact hvalue s hs
        · refine (orderly_repeatedFrom hp range start rounds (count + 1) rest (hx.trans h.1)).map fun values s hs => ?_
          exact (Parts.items_cons hs).symm.imp id (hvalue s)
      | failure fault input =>
        rw [ho] at h
        dsimp only
        split
        · exact ⟨rfl, hx.trans h.2⟩
        · exact hnil
      | aborted why => trivial

theorem Orderly.repeated (hp : p.Orderly parts) (range : Repetition) : (p.repeated range).Orderly parts.items :=
  fun x => orderly_repeatedFrom hp range x _ 0 x (Reaches.refl x)

theorem orderly_separatedFrom {delimiter : Parser ι ν β} (hp : p.Orderly parts) (hd : delimiter.Orderly others)
    (start : ι) : ∀ (rounds : Nat) (x : ι), Reaches start x →
      (separatedFrom p delimiter start rounds x).Orderly parts.items start
  | 0, _, _ => trivial
  | rounds + 1, x, hx => by
    have hdelimiter := hd x
    unfold separatedFrom
    cases hod : delimiter x with
    | success between behind =>
      rw [hod] at hdelimiter
      have hbehind := hx.trans hdelimiter.1
      have h := hp behind
      dsimp only
      cases ho : p behind with
      | success value rest =>
        rw [ho] at h
        have hvalue : ∀ s, parts value s → s.Ahead start := fun s hs => (h.2 s hs).of_reaches hbehind
        dsimp only
        split
        · refine ⟨hbehind.trans h.1, fun s ⟨w, hw, hs⟩ => ?_⟩
          rw [List.mem_singleton.1 hw] at hs
          exact hvalue s hs
        · refine (orderly_separatedFrom hp hd start rounds rest (hbehind.trans h.1)).map fun values s hs => ?_
          exact (Parts.items_cons hs).symm.imp id (hvalue s)
      | failure fault input =>
        rw [ho] at h
        exact ⟨rfl, hbehind.trans h.2⟩
      | aborted why => trivial
    | failure fault input => exact ⟨hx, fun s ⟨_, hw, _⟩ => absurd hw List.not_mem_nil⟩
    | aborted why => trivial

theorem Orderly.separated {delimiter : Parser ι ν β} (hp : p.Orderly parts) (hd : delimiter.Orderly others) :
    (p.separated delimiter).Orderly parts.items := fun x =>
  (hp x).andThen fun _ rest hrest hparts =>
    (orderly_separatedFrom hp hd x _ rest hrest).map fun _ s hs => (Parts.items_cons hs).symm.imp id (hparts s)

end Parser
end Parsing
