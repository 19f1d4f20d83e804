import Mathlib.Data.List.Forall2
import Parsing.Parser.Repeat
/-!
# Related runs — one parser at two types of cursors

A relation between two types of cursors is a simulation (`Cursor.Simulates`) when related cursors step alike, compare
alike and know alike of their ends.  The combinators use no more of a cursor than that, so parsers whose parts keep a
simulation keep it themselves: at related cursors they come to related outcomes.  There is one lemma for each primitive
and each combinator; the loops are inductions on the rounds, of which related cursors have the same number.
-/
namespace Parsing

variable {ι ι' σ : Type} [Cursor ι σ] [Cursor ι' σ]

/-- Related cursors step to related cursors over the same symbol, and agree on places, ends and sizes. -/
structure Cursor.Simulates (R : ι → ι' → Prop) : Prop where
  next_none : ∀ {x x'}, R x x' → Cursor.next x = none → Cursor.next x' = none
  next_some : ∀ {x x' y a}, R x x' → Cursor.next x = some (a, y) → ∃ y', Cursor.next x' = some (a, y') ∧ R y y'
  samePosition : ∀ {x x' y y'}, R x x' → R y y' → Cursor.samePosition x y = Cursor.samePosition x' y'
  isEmpty : ∀ {x x'}, R x x' → Cursor.isEmpty x = Cursor.isEmpty x'
  size? : ∀ {x x'}, R x x' → Cursor.size? x = Cursor.size? x'

/-- Stretches between related cursors. -/
def Stretch.Related (R : ι → ι' → Prop) (s : Stretch ι) (s' : Stretch ι') : Prop :=
  R s.start s'.start ∧ R s.stop s'.stop

namespace Cursor.Simulates

variable {R : ι → ι' → Prop} (hR : Cursor.Simulates R)
include hR

theorem symbols_of_eq : ∀ (as : List σ) {x : ι} {x' : ι'}, R x x' → Cursor.symbols x = as → Cursor.symbols x' = as
  | [], x, x', h, hx => Cursor.next_eq_none_iff.1 (hR.next_none h (Cursor.next_eq_none_iff.2 hx))
  | a :: as, x, x', h, hx => by
    cases hn : Cursor.next x with
    | none => rw [Cursor.symbols_of_next_eq_none hn] at hx; cases hx
    | some step =>
      obtain ⟨b, y⟩ := step
      rw [Cursor.symbols_of_next_eq_some hn] at hx
      obtain ⟨y', hn', hy⟩ := hR.next_some h hn
      obtain ⟨rfl, hy'⟩ := List.cons.inj hx
      rw [Cursor.symbols_of_next_eq_some hn', symbols_of_eq as hy hy']

/-- **The same symbols are left at related cursors.** -/
theorem symbols_eq {x : ι} {x' : ι'} (h : R x x') : Cursor.symbols x = Cursor.symbols x' :=
  (hR.symbols_of_eq _ h rfl).symm

theorem left_eq {x : ι} {x' : ι'} (h : R x x') : Cursor.left x = Cursor.left x' := by
  rw [Cursor.left, hR.symbols_eq h, Cursor.left]

theorem walk_eq {stop : ι} {stop' : ι'} (hs : R stop stop') : ∀ (as : List σ) {x : ι} {x' : ι'}, R x x' →
    Stretch.walk stop as x = Stretch.walk stop' as x'
  | [], _, _, _ => rfl
  | _ :: more, x, x', h => by
    unfold Stretch.walk
    rw [hR.samePosition h hs]
    split
    · rfl
    · cases hn : Cursor.next x with
      | none => rw [hR.next_none h hn]
      | some step =>
        obtain ⟨b, y⟩ := step
        obtain ⟨y', hn', hy⟩ := hR.next_some h hn
        rw [hn']
        exact congrArg (b :: ·) (walk_eq hs more hy)

theorem stretch_symbols_eq {s : Stretch ι} {s' : Stretch ι'} (h : s.Related R s') : s.symbols = s'.symbols := by
  rw [Stretch.symbols, Stretch.symbols, hR.symbols_eq h.1]
  exact hR.walk_eq h.2 _ h.1

/-- **Related stretches cannot be told apart by what they show.** -/
theorem excerpt_eq {s : Stretch ι} {s' : Stretch ι'} (h : s.Related R s') : s.excerpt = s'.excerpt := by
  have hsymbols := hR.stretch_symbols_eq h
  have hsize : s.size? = s'.size? := by
    rw [Stretch.size?, Stretch.size?, hR.size? h.1, hR.size? h.2]
  rw [Stretch.excerpt, Stretch.excerpt, Stretch.length, Stretch.length, hsymbols, hsize]

end Cursor.Simulates

variable {κ κ' ν ν' α α' β β' ζ : Type}

/-- Outcomes of one kind, with related values, cursors and causes. -/
inductive Outcome.Related {ι ι' κ κ' α α' : Type} (C : κ → κ' → Prop) (R : ι → ι' → Prop) (V : α → α' → Prop) :
    Outcome κ ι α → Outcome κ' ι' α' → Prop
  | success {value value' rest rest'} : V value value' → R rest rest' →
      Related C R V (.success value rest) (.success value' rest')
  | failure {cause cause' place place' input input'} : C cause cause' → R place place' → R input input' →
      Related C R V (.failure ⟨cause, place⟩ input) (.failure ⟨cause', place'⟩ input')
  | aborted (why : Abort) : Related C R V (.aborted why) (.aborted why)

/-- Parsers with related outcomes at related cursors. -/
def Parser.Related (C : κ → κ' → Prop) (R : ι → ι' → Prop) (V : α → α' → Prop) (p : Parser ι κ α)
    (p' : Parser ι' κ' α') : Prop :=
  ∀ x x', R x x' → (p x).Related C R V (p' x')

/-- A relation of causes that holds between the words of both types for each mismatch. -/
structure Cause.Simulates [Cause κ] [Cause κ'] (C : κ → κ' → Prop) : Prop where
  moreNeeded : C Cause.moreNeeded Cause.moreNeeded
  endExpected : C Cause.endExpected Cause.endExpected
  invalid : C Cause.invalid Cause.invalid
  excluded : C Cause.excluded Cause.excluded

theorem Cause.simulates_eq (κ : Type) [Cause κ] : Cause.Simulates (Eq : κ → κ → Prop) := ⟨rfl, rfl, rfl, rfl⟩

/-- A relation of causes that holds between what each seed stands for in both types. -/
def Seed.Simulates (ζ : Type) [Seed ζ κ] [Seed ζ κ'] (C : κ → κ' → Prop) : Prop :=
  ∀ z : ζ, C (Seed.cause z) (Seed.cause z)

variable {C : κ → κ' → Prop} {R : ι → ι' → Prop} {V : α → α' → Prop} {W : β → β' → Prop}

namespace Outcome.Related

omit [Cursor ι σ] [Cursor ι' σ]

theorem andThen {o : Outcome κ ι α} {o' : Outcome κ' ι' α'} {next : α → ι → Outcome κ ι β}
    {next' : α' → ι' → Outcome κ' ι' β'} (h : o.Related C R V o')
    (hnext : ∀ value value' rest rest', V value value' → R rest rest' →
      (next value rest).Related C R W (next' value' rest')) : (o.andThen next).Related C R W (o'.andThen next') := by
  cases h with
  | success hv hr => exact hnext _ _ _ _ hv hr
  | failure hc hp hi => exact .failure hc hp hi
  | aborted why => exact .aborted why

theorem map {o : Outcome κ ι α} {o' : Outcome κ' ι' α'} {f : α → β} {f' : α' → β'} (h : o.Related C R V o')
    (hf : ∀ value value', V value value' → W (f value) (f' value')) : (o.map f).Related C R W (o'.map f') :=
  h.andThen fun _ _ _ _ hv hr => .success (hf _ _ hv) hr

theorem wider {U : α → α' → Prop} {o : Outcome κ ι α} {o' : Outcome κ' ι' α'} (h : o.Related C R V o')
    (hU : ∀ value value', V value value' → U value value') : o.Related C R U o' := by
  cases h with
  | success hv hr => exact .success (hU _ _ hv) hr
  | failure hc hp hi => exact .failure hc hp hi
  | aborted why => exact .aborted why

/-- Cursors related more closely than asked. -/
theorem along {Q : ι → ι' → Prop} {o : Outcome κ ι α} {o' : Outcome κ' ι' α'} (h : o.Related C R V o')
    (hQ : ∀ x x', R x x' → Q x x') : o.Related C Q V o' := by
  cases h with
  | success hv hr => exact .success hv (hQ _ _ hr)
  | failure hc hp hi => exact .failure hc (hQ _ _ hp) (hQ _ _ hi)
  | aborted why => exact .aborted why

theorem restoring {o : Outcome κ ι α} {o' : Outcome κ' ι' α'} {x : ι} {x' : ι'} (h : o.Related C R V o')
    (hx : R x x') : (o.restoring x).Related C R V (o'.restoring x') := by
  cases h with
  | success hv hr => exact .success hv hr
  | failure hc hp _ => exact .failure hc hp hx
  | aborted why => exact .aborted why

theorem recover {o : Outcome κ ι α} {o' : Outcome κ' ι' α'} {next : ι → Outcome κ ι α} {next' : ι' → Outcome κ' ι' α'}
    (h : o.Related C R V o') (hnext : ∀ x x', R x x' → (next x).Related C R V (next' x')) :
    (o.recover next).Related C R V (o'.recover next') := by
  cases h with
  | success hv hr => exact .success hv hr
  | failure _ _ hi => exact hnext _ _ hi
  | aborted why => exact .aborted why

end Outcome.Related

namespace Parser

variable {p : Parser ι κ α} {p' : Parser ι' κ' α'} {q : Parser ι κ β} {q' : Parser ι' κ' β'} {D : ν → ν' → Prop}
  {e : Parser ι ν β} {e' : Parser ι' ν' β'}

/-! ## One symbol, or none -/

omit [Cursor ι σ] [Cursor ι' σ] in
theorem related_yielding {value : α} {value' : α'} (h : V value value') :
    (yielding value : Parser ι κ α).Related C R V (yielding value' : Parser ι' κ' α') :=
  fun _ _ hx => .success h hx

section Primitives

variable (hR : Cursor.Simulates R)
include hR

theorem related_anySymbol [Cause κ] [Cause κ'] (hC : Cause.Simulates C) :
    (anySymbol : Parser ι κ σ).Related C R Eq (anySymbol : Parser ι' κ' σ) := fun x x' hx => by
  unfold anySymbol
  cases hn : Cursor.next x with
  | none =>
    rw [hR.next_none hx hn]
    exact .failure hC.moreNeeded hx hx
  | some step =>
    obtain ⟨y', hn', hy⟩ := hR.next_some hx hn
    rw [hn']
    exact .success rfl hy

theorem related_satisfying [Cause κ] [Cause κ'] (hC : Cause.Simulates C) (holds : σ → Bool) :
    (satisfying holds : Parser ι κ σ).Related C R Eq (satisfying holds : Parser ι' κ' σ) := fun x x' hx => by
  unfold satisfying
  cases hn : Cursor.next x with
  | none =>
    rw [hR.next_none hx hn]
    exact .failure hC.moreNeeded hx hx
  | some step =>
    obtain ⟨y', hn', hy⟩ := hR.next_some hx hn
    rw [hn']
    dsimp only
    split
    · exact .success rfl hy
    · exact .failure hC.invalid hx hx

theorem related_endOfInput [Cause κ] [Cause κ'] (hC : Cause.Simulates C) :
    (endOfInput : Parser ι κ Unit).Related C R Eq (endOfInput : Parser ι' κ' Unit) := fun x x' hx => by
  unfold endOfInput
  rw [hR.isEmpty hx]
  split
  · exact .success rfl hx
  · exact .failure hC.endExpected hx hx

theorem related_exactly [DecidableEq σ] (expected : σ) {cause : κ} {cause' : κ'} (hc : C cause cause') :
    (exactly expected cause : Parser ι κ σ).Related C R Eq (exactly expected cause' : Parser ι' κ' σ) :=
  fun x x' hx => by
    unfold exactly
    cases hn : Cursor.next x with
    | none =>
      rw [hR.next_none hx hn]
      exact .failure hc hx hx
    | some step =>
      obtain ⟨y', hn', hy⟩ := hR.next_some hx hn
      rw [hn']
      dsimp only
      split
      · exact .success rfl hy
      · exact .failure hc hx hx

theorem related_literalFrom [DecidableEq σ] {cause : σ → κ} {cause' : σ → κ'} (hc : ∀ a, C (cause a) (cause' a))
    {start : ι} {start' : ι'} (hs : R start start') : ∀ (expected : List σ) (x : ι) (x' : ι'), R x x' →
      (literalFrom cause start expected x).Related C R Eq (literalFrom cause' start' expected x')
  | [], _, _, hx => .success rfl hx
  | a :: more, x, x', hx => by
    have ha := related_exactly hR a (hc a) x x' hx
    unfold literalFrom
    generalize exactly a (cause a) x = o at ha ⊢
    generalize exactly a (cause' a) x' = o' at ha ⊢
    cases ha with
    | success _ hr => exact related_literalFrom hc hs more _ _ hr
    | failure hc hp _ => exact .failure hc hp hs
    | aborted why => exact .aborted why

theorem related_literal [DecidableEq σ] {cause : σ → κ} {cause' : σ → κ'} (hc : ∀ a, C (cause a) (cause' a))
    (expected : List σ) {value : α} {value' : α'} (h : V value value') :
    (literal expected cause value : Parser ι κ α).Related C R V (literal expected cause' value' : Parser ι' κ' α') :=
  fun x x' hx => (related_literalFrom hR hc hx expected x x' hx).map fun _ _ _ => h

theorem Related.complete [Cause κ] [Cause κ'] (hC : Cause.Simulates C)
    (hp : p.Related C R V p') : p.complete.Related C R V p'.complete := fun x x' hx =>
  (hp x x' hx).andThen fun value value' rest rest' hv hr => by
    rw [hR.isEmpty hr]
    split
    · exact .success hv hr
    · exact .failure hC.endExpected hr hx

end Primitives

/-! ## Mappings -/

section Mappings

omit [Cursor ι σ] [Cursor ι' σ]

theorem Related.map (hp : p.Related C R V p') {f : α → β} {f' : α' → β'}
    (hf : ∀ value value', V value value' → W (f value) (f' value')) : (p.map f).Related C R W (p'.map f') :=
  fun x x' hx => (hp x x' hx).map hf

theorem Related.withValue (hp : p.Related C R V p') {value : β} {value' : β'} (h : W value value') :
    (p.withValue value).Related C R W (p'.withValue value') :=
  hp.map fun _ _ _ => h

/-- What two mappings make of related values: related results, or the same complaint. -/
inductive Results (W : β → β' → Prop) : Except ζ β → Except ζ β' → Prop
  | ok {result result'} : W result result' → Results W (.ok result) (.ok result')
  | error (seed : ζ) : Results W (.error seed) (.error seed)

theorem Related.tryMap [Seed ζ κ] [Seed ζ κ'] (hζ : Seed.Simulates ζ C) (hp : p.Related C R V p')
    {f : α → Except ζ β} {f' : α' → Except ζ β'}
    (hf : ∀ value value', V value value' → Results W (f value) (f' value')) :
    (p.tryMap f).Related C R W (p'.tryMap f') := fun x x' hx =>
  (hp x x' hx).andThen fun value value' rest rest' hv hr => by
    have h := hf value value' hv
    generalize f value = r at h ⊢
    generalize f' value' = r' at h ⊢
    cases h with
    | ok hw => exact .success hw hr
    | error seed => exact .failure (hζ seed) hr hx

theorem Related.mapSoundly (hp : p.Related C R V p') {f : α → Except String β} {f' : α' → Except String β'}
    (hf : ∀ value value', V value value' → Results W (f value) (f' value')) :
    (p.mapSoundly f).Related C R W (p'.mapSoundly f') := fun x x' hx =>
  (hp x x' hx).andThen fun value value' rest rest' hv hr => by
    have h := hf value value' hv
    generalize f value = r at h ⊢
    generalize f' value' = r' at h ⊢
    cases h with
    | ok hw => exact .success hw hr
    | error message => exact .aborted _

/-- What two judges make of related values: related results, the same seed, or the same complaint. -/
inductive Verdicts (W : β → β' → Prop) : Verdict ζ β → Verdict ζ β' → Prop
  | accept {result result'} : W result result' → Verdicts W (.accept result) (.accept result')
  | reject (seed : ζ) : Verdicts W (.reject seed) (.reject seed)
  | defect (message : String) : Verdicts W (.defect message) (.defect message)

theorem Related.judged [Seed ζ κ] [Seed ζ κ'] (hζ : Seed.Simulates ζ C)
    (hp : p.Related C R V p') {f : α → Verdict ζ β} {f' : α' → Verdict ζ β'}
    (hf : ∀ value value', V value value' → Verdicts W (f value) (f' value')) :
    (p.judged f).Related C R W (p'.judged f') := fun x x' hx =>
  (hp x x' hx).andThen fun value value' rest rest' hv hr => by
    have h := hf value value' hv
    generalize f value = r at h ⊢
    generalize f' value' = r' at h ⊢
    cases h with
    | accept hw => exact .success hw hr
    | reject seed => exact .failure (hζ seed) hr hx
    | defect message => exact .aborted _

end Mappings

/-! ## Looking ahead and around, one after the other, one or the other -/

section Combinators

omit [Cursor ι σ] [Cursor ι' σ]

theorem Related.recognize (hp : p.Related C R V p') : p.recognize.Related C R (Stretch.Related R) p'.recognize :=
  fun x x' hx => (hp x x' hx).andThen fun _ _ _ _ _ hr => .success ⟨hx, hr⟩ hr

theorem Related.lookahead (hp : p.Related C R V p') : p.lookahead.Related C R V p'.lookahead := fun x x' hx =>
  (hp x x' hx).andThen fun _ _ _ _ hv _ => .success hv hx

theorem Related.notFollowedBy [Cause κ] [Cause κ'] (hC : Cause.Simulates C)
    (hp : p.Related C R V p') : p.notFollowedBy.Related C R Eq p'.notFollowedBy := fun x x' hx => by
  have h := hp x x' hx
  unfold Parser.notFollowedBy
  generalize p x = o at h ⊢
  generalize p' x' = o' at h ⊢
  cases h with
  | success _ _ => exact .failure hC.excluded hx hx
  | failure _ _ _ => exact .success rfl hx
  | aborted why => exact .aborted why

theorem Related.butNot [Cause κ] [Cause κ'] (hC : Cause.Simulates C)
    (hp : p.Related C R V p') (he : e.Related D R W e') : (p.butNot e).Related C R V (p'.butNot e') := fun x x' hx => by
  have h := he x x' hx
  unfold Parser.butNot
  generalize e x = o at h ⊢
  generalize e' x' = o' at h ⊢
  cases h with
  | success _ _ => exact .failure hC.excluded hx hx
  | failure _ _ _ => exact hp x x' hx
  | aborted why => exact .aborted why

theorem Related.optional (hp : p.Related C R V p') : p.optional.Related C R (Option.Rel V) p'.optional :=
  fun x x' hx => by
    have h := hp x x' hx
    unfold Parser.optional
    generalize p x = o at h ⊢
    generalize p' x' = o' at h ⊢
    cases h with
    | success hv hr => exact .success (.some hv) hr
    | failure _ _ hi => exact .success .none hi
    | aborted why => exact .aborted why

theorem Related.andThen (hp : p.Related C R V p') (hq : q.Related C R W q') :
    (p.andThen q).Related C R (fun v v' => V v.1 v'.1 ∧ W v.2 v'.2) (p'.andThen q') := fun x x' hx =>
  (hp x x' hx).andThen fun _ _ _ _ hv hr => ((hq _ _ hr).restoring hx).map fun _ _ hw => ⟨hv, hw⟩

theorem Related.skipThen (hp : p.Related C R V p') (hq : q.Related C R W q') :
    (p.skipThen q).Related C R W (p'.skipThen q') := fun x x' hx =>
  (hp x x' hx).andThen fun _ _ _ _ _ hr => (hq _ _ hr).restoring hx

theorem Related.thenSkip (hp : p.Related C R V p') (hq : q.Related C R W q') :
    (p.thenSkip q).Related C R V (p'.thenSkip q') := fun x x' hx =>
  (hp x x' hx).andThen fun _ _ _ _ hv hr => ((hq _ _ hr).restoring hx).map fun _ _ _ => hv

theorem Related.orElse {q : Parser ι κ α} {q' : Parser ι' κ' α'} (hp : p.Related C R V p') (hq : q.Related C R V q') :
    (p.orElse q).Related C R V (p'.orElse q') := fun x x' hx =>
  (hp x x' hx).recover hq

end Combinators

/-! ## Loops -/

section Loops

variable (hR : Cursor.Simulates R)
include hR

theorem related_repeatedFrom (hp : p.Related C R V p') (range : Repetition) {start : ι} {start' : ι'}
    (hs : R start start') : ∀ (rounds count : Nat) (x : ι) (x' : ι'), R x x' →
      (repeatedFrom p range start rounds count x).Related C R (List.Forall₂ V)
        (repeatedFrom p' range start' rounds count x')
  | 0, _, _, _, _ => .aborted _
  | rounds + 1, count, x, x', hx => by
    have h := hp x x' hx
    unfold repeatedFrom
    split
    · exact .success .nil hx
    · generalize p x = o at h ⊢
      generalize p' x' = o' at h ⊢
      cases h with
      | success hv hr =>
        dsimp only
        rw [hR.samePosition hr hx]
        split
        · exact .success (.cons hv .nil) hr
        · exact (related_repeatedFrom hp range hs rounds (count + 1) _ _ hr).map fun _ _ hvs => .cons hv hvs
      | failure hc hp _ =>
        dsimp only
        split
        · exact .failure hc hp hs
        · exact .success .nil hx
      | aborted why => exact .aborted why

theorem Related.repeated (hp : p.Related C R V p') (range : Repetition) :
    (p.repeated range).Related C R (List.Forall₂ V) (p'.repeated range) := fun x x' hx => by
  unfold Parser.repeated
  rw [hR.left_eq hx]
  exact related_repeatedFrom hR hp range hx _ 0 x x' hx

theorem related_separatedFrom (hp : p.Related C R V p') (he : e.Related D R W e') {start : ι} {start' : ι'}
    (hs : R start start') : ∀ (rounds : Nat) (x : ι) (x' : ι'), R x x' →
      (separatedFrom p e start rounds x).Related C R (List.Forall₂ V) (separatedFrom p' e' start' rounds x')
  | 0, _, _, _ => .aborted _
  | rounds + 1, x, x', hx => by
    have hd := he x x' hx
    unfold separatedFrom
    generalize e x = d at hd ⊢
    generalize e' x' = d' at hd ⊢
    cases hd with
    | success _ hbehind =>
      have h := hp _ _ hbehind
      dsimp only
      generalize p _ = o at h ⊢
      generalize p' _ = o' at h ⊢
      cases h with
      | success hv hr =>
        dsimp only
        rw [hR.samePosition hr hx]
        split
        · exact .success (.cons hv .nil) hr
        · exact (related_separatedFrom hp he hs rounds _ _ hr).map fun _ _ hvs => .cons hv hvs
      | failure hc hp _ => exact .failure hc hp hs
      | aborted why => exact .aborted why
    | failure _ _ _ => exact .success .nil hx
    | aborted why => exact .aborted why

theorem Related.separated (hp : p.Related C R V p') (he : e.Related D R W e') :
    (p.separated e).Related C R (List.Forall₂ V) (p'.separated e') := fun x x' hx => by
  unfold Parser.separated
  rw [hR.left_eq hx]
  exact (hp x x' hx).andThen fun _ _ _ _ hv hr =>
    (related_separatedFrom hR hp he hx _ _ _ hr).map fun _ _ hvs => .cons hv hvs

end Loops

end Parser
end Parsing
