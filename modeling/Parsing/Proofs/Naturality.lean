import Parsing.Grammar.Balanced
import Parsing.Proofs.Twins
/-!
# Naturality — grammars run alike at related cursors

Two values are alike when they differ in their stretches alone and those are related in pairs: when both come out of one
value over the pairs (`Value.Alike`).  An action is natural, so on alike values it does what it would do on that one
value, seen from either side.  With the lemmas for the combinators it follows that a grammar run at cursors that a
simulation relates comes to related outcomes (`Grammar.related_run`), to any depth of rule calls.
-/
namespace Parsing
namespace Value

variable {S T : Type} {P : S → T → Prop}

/-- Values with related stretches in the same places, and the same all around them. -/
def Alike (P : S → T → Prop) (v : Value S) (w : Value T) : Prop :=
  ∃ u : Value {q : S × T // P q.1 q.2}, u.map (·.val.1) = v ∧ u.map (·.val.2) = w

namespace Alike

theorem lift (v : Value Empty) : Alike P v.lift v.lift := ⟨v.lift, map_lift _ v, map_lift _ v⟩

theorem unit : Alike P .unit .unit := ⟨.unit, rfl, rfl⟩

theorem stretch {s : S} {t : T} (h : P s t) : Alike P (.stretch s) (.stretch t) := ⟨.stretch ⟨(s, t), h⟩, rfl, rfl⟩

theorem found {o : Option (Value S)} {o' : Option (Value T)} (h : Option.Rel (Alike P) o o') :
    Alike P (o.elim .none .some) (o'.elim .none .some) := by
  cases h with
  | none => exact ⟨.none, rfl, rfl⟩
  | some h =>
    obtain ⟨u, rfl, rfl⟩ := h
    exact ⟨.some u, rfl, rfl⟩

theorem exists_items {vs : List (Value S)} {ws : List (Value T)} (h : List.Forall₂ (Alike P) vs ws) :
    ∃ us : List (Value {q : S × T // P q.1 q.2}), mapItems (·.val.1) us = vs ∧ mapItems (·.val.2) us = ws := by
  induction h with
  | nil => exact ⟨[], rfl, rfl⟩
  | cons h _ ih =>
    obtain ⟨u, rfl, rfl⟩ := h
    obtain ⟨us, rfl, rfl⟩ := ih
    exact ⟨u :: us, rfl, rfl⟩

theorem list {vs : List (Value S)} {ws : List (Value T)} (h : List.Forall₂ (Alike P) vs ws) :
    Alike P (.list vs) (.list ws) := by
  obtain ⟨us, rfl, rfl⟩ := exists_items h
  exact ⟨.list us, rfl, rfl⟩

theorem tuple {vs : List (Value S)} {ws : List (Value T)} (h : List.Forall₂ (Alike P) vs ws) :
    Alike P (.tuple vs) (.tuple ws) := by
  obtain ⟨us, rfl, rfl⟩ := exists_items h
  exact ⟨.tuple us, rfl, rfl⟩

/-- Where the second of each pair is made out of the first, alike values are one value and what is made of it. -/
theorem eq_map {f : S → T} (hP : ∀ s t, P s t → t = f s) {v : Value S} {w : Value T} (h : Alike P v w) :
    w = v.map f := by
  obtain ⟨u, rfl, rfl⟩ := h
  rw [map_map]
  congr 1
  funext q
  exact hP _ _ q.property

end Alike
end Value

variable {σ ζ S T : Type} {P : S → T → Prop} {view : S → Excerpt σ} {view' : T → Excerpt σ}

/-- **A mapping makes alike values of alike values**, if it cannot tell their stretches apart. -/
theorem Transform.results (f : Transform σ) (hview : ∀ s t, P s t → view s = view' t) {v : Value S} {w : Value T}
    (h : v.Alike P w) : Parser.Results (Value.Alike P) (f.apply view v) (f.apply view' w) := by
  obtain ⟨u, rfl, rfl⟩ := h
  have hu : (fun q : {q : S × T // P q.1 q.2} => view q.val.1) = fun q => view' q.val.2 :=
    funext fun q => hview _ _ q.property
  rw [f.natural, f.natural, hu]
  cases f.apply (fun q : {q : S × T // P q.1 q.2} => view' q.val.2) u with
  | ok r => exact .ok ⟨r, rfl, rfl⟩
  | error message => exact .error message

/-- **A check judges alike values alike**, if it cannot tell their stretches apart. -/
theorem Check.verdicts (f : Check σ ζ) (hview : ∀ s t, P s t → view s = view' t) {v : Value S} {w : Value T}
    (h : v.Alike P w) : Parser.Verdicts (Value.Alike P) (f.apply view v) (f.apply view' w) := by
  obtain ⟨u, rfl, rfl⟩ := h
  have hu : (fun q : {q : S × T // P q.1 q.2} => view q.val.1) = fun q => view' q.val.2 :=
    funext fun q => hview _ _ q.property
  rw [f.natural, f.natural, hu]
  cases f.apply (fun q : {q : S × T // P q.1 q.2} => view' q.val.2) u with
  | accept r => exact .accept ⟨r, rfl, rfl⟩
  | reject seed => exact .reject seed
  | defect message => exact .defect message

namespace Grammar

variable {ι ι' κ κ' : Type} [DecidableEq σ] [Symbol σ] [Cursor ι σ] [Cursor ι' σ] [Cause κ] [Cause κ'] [Seed ζ κ]
  [Seed ζ κ'] {C : κ → κ' → Prop} {R : ι → ι' → Prop}

/-- Parsers of one grammar at two types of cursors, with alike values. -/
abbrev Twins (C : κ → κ' → Prop) (R : ι → ι' → Prop) (p : Parser ι κ (Value (Stretch ι)))
    (p' : Parser ι' κ' (Value (Stretch ι'))) : Prop :=
  Parser.Twins R C (Value.Alike (Stretch.Related R)) p p'

/-- **A grammar is its own twin** at related cursors, once its rules are. -/
theorem twins_run (hC : Cause.Simulates C) (hζ : Seed.Simulates ζ C) (hR : Cursor.Simulates R)
    {call : String → Parser ι κ (Value (Stretch ι))} {call' : String → Parser ι' κ' (Value (Stretch ι'))}
    (hcall : ∀ name, Twins C R (call name) (call' name)) : ∀ (p : Grammar σ ζ), Twins C R (p.run call) (p.run call')
  | anySymbol => (Parser.Twins.anySymbol hC).map fun _ _ h => h ▸ Value.Alike.lift _
  | endOfInput => (Parser.Twins.endOfInput hC).withValue Value.Alike.unit
  | yielding value => .yielding C (Value.Alike.lift value)
  | satisfying holds => (Parser.Twins.satisfying hC holds).map fun _ _ h => h ▸ Value.Alike.lift _
  | exactly symbol seed => (Parser.Twins.exactly symbol (hζ seed)).map fun _ _ h => h ▸ Value.Alike.lift _
  | literal symbols seed value => .literal symbols (fun a => hζ (seed a)) (Value.Alike.lift value)
  | map p f => (twins_run hC hζ hR hcall p).mapSoundly fun _ _ h => f.results (fun _ _ hs => hR.excerpt_eq hs) h
  | tryMap p f => .judged hζ (twins_run hC hζ hR hcall p) fun _ _ h => f.verdicts (fun _ _ hs => hR.excerpt_eq hs) h
  | withValue p value => (twins_run hC hζ hR hcall p).withValue (Value.Alike.lift value)
  | complete p => .complete hC (twins_run hC hζ hR hcall p)
  | recognize p => (twins_run hC hζ hR hcall p).recognize.map fun _ _ h => Value.Alike.stretch h
  | notFollowedBy p => (Parser.Twins.notFollowedBy hC (twins_run hC hζ hR hcall p)).withValue Value.Alike.unit
  | lookahead p => (twins_run hC hζ hR hcall p).lookahead
  | optional p => (twins_run hC hζ hR hcall p).optional.map fun _ _ h => Value.Alike.found h
  | repeated p range => ((twins_run hC hζ hR hcall p).repeated range).map fun _ _ h => Value.Alike.list h
  | butNot p excluded => .butNot hC (twins_run hC hζ hR hcall p) (twins_run hC hζ hR hcall excluded)
  | separated p delimiter =>
    ((twins_run hC hζ hR hcall p).separated (twins_run hC hζ hR hcall delimiter)).map fun _ _ h => Value.Alike.list h
  | andThen p q => ((twins_run hC hζ hR hcall p).andThen (twins_run hC hζ hR hcall q)).map fun _ _ h =>
      Value.Alike.tuple (.cons h.1 (.cons h.2 .nil))
  | orElse p q => (twins_run hC hζ hR hcall p).orElse (twins_run hC hζ hR hcall q)
  | skipThen p q => (twins_run hC hζ hR hcall p).skipThen (twins_run hC hζ hR hcall q)
  | thenSkip p q => (twins_run hC hζ hR hcall p).thenSkip (twins_run hC hζ hR hcall q)
  | rule name => hcall name

/-- **Rules are their own twins**, at every depth of calls. -/
theorem twins_call (hC : Cause.Simulates C) (hζ : Seed.Simulates ζ C) (hR : Cursor.Simulates R) (rules : Rules σ ζ) :
    ∀ (depth : Nat) (name : String), Twins C R (rules.call depth name) (rules.call depth name)
  | 0, _ => .stopped _ _ _
  | depth + 1, name => by
    unfold Rules.call
    cases rules.find? name with
    | none => exact .stopped _ _ _
    | some p => exact twins_run hC hζ hR (twins_call hC hζ hR rules depth) p

theorem twins_parse (hC : Cause.Simulates C) (hζ : Seed.Simulates ζ C) (hR : Cursor.Simulates R) (p : Grammar σ ζ)
    (rules : Rules σ ζ) : Twins C R (p.parse rules) (p.parse rules) :=
  .computed (p := fun x => p.run (rules.call (rules.depthAt x))) (q := fun x => p.run (rules.call (rules.depthAt x)))
    fun x x' hx => by
      have hdepth : rules.depthAt x = rules.depthAt x' := by
        rw [Rules.depthAt, Rules.depthAt, hR.left_eq hx]
      rw [hdepth]
      exact twins_run hC hζ hR (twins_call hC hζ hR rules _) p

end Grammar
end Parsing
