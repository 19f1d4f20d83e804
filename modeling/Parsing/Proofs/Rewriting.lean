import Mathlib.Data.List.Forall2
import Parsing.Proofs.Composed
/-!
# Rewriting — combinators that stand for others

Several combinators could be done without: what they match and yield, and how they fail, is what others do together.
Each is code of its own all the same, and gives back input in its own way: `optional` and `butNot` hand on the cursor
that a failed parser gave back, where repetitions and pairs keep the one they started from.  That these are the same
cursor is the promise all composed parsers keep, and the equations rest on it (`Parser.Derived.eq`).

A derived combinator may then be put for another anywhere in an expression, under loops and in rules that call each
other (`Parser.Rewritten`, `Grammar.Rewritten`): no outcome changes (`rewriting_keeps_outcomes`).
-/
namespace Parsing

section Equations

variable {ι σ κ α β γ ζ : Type}

namespace Parser

/-! ## Derived combinators -/

theorem map_map (p : Parser ι κ α) (f : α → β) (g : β → γ) : (p.map f).map g = p.map fun value => g (f value) :=
  funext fun x => (p x).map_map f g

theorem mapSoundly_map (p : Parser ι κ α) (f : α → β) (g : β → Except String γ) :
    (p.map f).mapSoundly g = p.mapSoundly fun value => g (f value) :=
  funext fun x => (p x).andThen_map f _

theorem mapSoundly_ok (p : Parser ι κ α) (f : α → β) : (p.mapSoundly fun value => .ok (f value)) = p.map f := rfl

/-- **A mapping is a check that accepts what it makes.** -/
theorem map_eq_tryMap [Seed ζ κ] (p : Parser ι κ α) (f : α → β) :
    p.map f = p.tryMap fun value => (.ok (f value) : Except ζ β) := rfl

theorem mapSoundly_eq_judged [Seed ζ κ] (p : Parser ι κ α) (f : α → Except String β) :
    p.mapSoundly f = p.judged fun value =>
      match f value with
      | .ok result => (.accept result : Verdict ζ β)
      | .error message => .defect message := by
  funext x
  unfold mapSoundly judged
  congr 1
  funext value rest
  dsimp only
  cases f value <;> rfl

theorem skipThen_eq_map_andThen (p : Parser ι κ α) (q : Parser ι κ β) : p.skipThen q = (p.andThen q).map (·.2) := by
  funext x
  change _ = ((p x).andThen fun first rest => ((q rest).restoring x).map (first, ·)).map (·.2)
  rw [Outcome.map_andThen]
  simp only [Outcome.map_map, Outcome.map_id]
  rfl

theorem thenSkip_eq_map_andThen (p : Parser ι κ α) (q : Parser ι κ β) : p.thenSkip q = (p.andThen q).map (·.1) := by
  funext x
  change _ = ((p x).andThen fun first rest => ((q rest).restoring x).map (first, ·)).map (·.1)
  rw [Outcome.map_andThen]
  simp only [Outcome.map_map]
  rfl

theorem withValue_skipThen (p : Parser ι κ α) (value : γ) (q : Parser ι κ β) :
    (p.withValue value).skipThen q = p.skipThen q :=
  funext fun x => (p x).andThen_map _ _

theorem thenSkip_withValue (p : Parser ι κ α) (q : Parser ι κ β) (value : γ) :
    p.thenSkip (q.withValue value) = p.thenSkip q := by
  funext x
  change ((p x).andThen fun first rest => (((q rest).map fun _ => value).restoring x).map fun _ => first) = _
  simp only [Outcome.restoring_map, Outcome.map_map]
  rfl

variable [Cursor ι σ]

/-- **Matching all of the input is matching up to its end.** -/
theorem complete_eq_thenSkip [Cause κ] (p : Parser ι κ α) : p.complete = p.thenSkip endOfInput := by
  funext x
  unfold complete thenSkip endOfInput
  congr 1
  funext value rest
  split <;> rfl

/-- **Matching or nothing is repeating at most once.**  Where `p` fails, the one stays at the cursor given back and the
other at its start. -/
theorem optional_eq_map_repeated {parts : Parts ι α} {p : Parser ι κ α} (hp : p.Orderly parts) :
    p.optional = (p.repeated (.atMost 1)).map List.head? := by
  funext x
  have hrounds : max (Repetition.atMost 1).least (Cursor.left x + 1) + 1 = Cursor.left x + 1 + 1 :=
    congrArg (· + 1) (Nat.max_eq_right (Nat.zero_le _))
  change _ = (repeatedFrom p (.atMost 1) x _ 0 x).map List.head?
  rw [hrounds]
  unfold optional repeatedFrom
  rw [if_neg (show ¬ (Repetition.atMost 1).isFull 0 = true by decide)]
  cases ho : p x with
  | success value rest =>
    -- One match fills the range, so the loop ends behind it whether or not it moved on.
    have hfull : repeatedFrom p (.atMost 1) x (Cursor.left x + 1) (0 + 1) rest = .success [] rest := if_pos rfl
    dsimp only
    rw [hfull]
    split <;> rfl
  | failure fault input =>
    have hx := hp x
    rw [ho] at hx
    rw [hx.1]
    rfl
  | aborted why => rfl

/-- **Excluding is looking ahead for what must not follow.** -/
theorem butNot_eq_skipThen [Cause κ] {parts : Parts ι α} {p : Parser ι κ α} (hp : p.Orderly parts)
    (excluded : Parser ι κ β) : p.butNot excluded = excluded.notFollowedBy.skipThen p := by
  funext x
  unfold butNot skipThen notFollowedBy
  cases excluded x with
  | success value rest => rfl
  | failure fault input => exact (hp x).restoring_eq.symm
  | aborted why => rfl

end Parser
end Equations

namespace Parser

/-- A derived combinator, and the combinators it stands for. -/
inductive Derived {ι σ : Type} [Cursor ι σ] : {κ α : Type} → Parser ι κ α → Parser ι κ α → Prop
  | map {κ α β ζ} [Seed ζ κ] (p : Parser ι κ α) (f : α → β) :
      Derived (p.map f) (p.tryMap fun value => (.ok (f value) : Except ζ β))
  | mapSoundly {κ α β ζ} [Seed ζ κ] (p : Parser ι κ α) (f : α → Except String β) :
      Derived (p.mapSoundly f) (p.judged fun value =>
        match f value with
        | .ok result => (.accept result : Verdict ζ β)
        | .error message => .defect message)
  | withValue {κ α β} (p : Parser ι κ α) (value : β) : Derived (p.withValue value) (p.map fun _ => value)
  | skipThen {κ α β} (p : Parser ι κ α) (q : Parser ι κ β) : Derived (p.skipThen q) ((p.andThen q).map (·.2))
  | thenSkip {κ α β} (p : Parser ι κ α) (q : Parser ι κ β) : Derived (p.thenSkip q) ((p.andThen q).map (·.1))
  | complete {κ α} [Cause κ] (p : Parser ι κ α) : Derived p.complete (p.thenSkip endOfInput)
  | optional {κ α} {parts : Parts ι α} {p : Parser ι κ α} (hp : p.Composed parts) :
      Derived p.optional ((p.repeated (.atMost 1)).map List.head?)
  | butNot {κ α β} [Cause κ] {parts : Parts ι α} {p : Parser ι κ α} (hp : p.Composed parts)
      (excluded : Parser ι κ β) : Derived (p.butNot excluded) (excluded.notFollowedBy.skipThen p)

/-- **A derived combinator is what it stands for.** -/
theorem Derived.eq {ι σ κ α : Type} [Cursor ι σ] {p p' : Parser ι κ α} (h : Derived p p') : p = p' := by
  cases h with
  | map p f => exact map_eq_tryMap p f
  | mapSoundly p f => exact mapSoundly_eq_judged p f
  | withValue p value => rfl
  | skipThen p q => exact skipThen_eq_map_andThen p q
  | thenSkip p q => exact thenSkip_eq_map_andThen p q
  | complete p => exact complete_eq_thenSkip p
  | optional hp => exact optional_eq_map_repeated hp.orderly
  | butNot hp excluded => exact butNot_eq_skipThen hp.orderly excluded

/-! ## Anywhere in an expression -/

/-- An expression, and the same with derived combinators in it replaced by those they stand for, at any depth.  In an
expression computed from the input they may be replaced differently at each cursor, and rules are unrolled. -/
inductive Rewritten {ι σ : Type} [Cursor ι σ] : {κ α : Type} → Parser ι κ α → Parser ι κ α → Prop
  | same {κ α} (p : Parser ι κ α) : Rewritten p p
  | derived {κ α} {p p' : Parser ι κ α} (h : Derived p p') : Rewritten p p'
  | trans {κ α} {p q r : Parser ι κ α} (hpq : Rewritten p q) (hqr : Rewritten q r) : Rewritten p r
  | computed {κ α} {p p' : ι → Parser ι κ α} (h : ∀ x, Rewritten (p x) (p' x)) :
      Rewritten (fun x => p x x) fun x => p' x x
  | map {κ α β} {p p' : Parser ι κ α} (h : Rewritten p p') (f : α → β) : Rewritten (p.map f) (p'.map f)
  | tryMap {κ α β ζ} [Seed ζ κ] {p p' : Parser ι κ α} (h : Rewritten p p') (f : α → Except ζ β) :
      Rewritten (p.tryMap f) (p'.tryMap f)
  | mapSoundly {κ α β} {p p' : Parser ι κ α} (h : Rewritten p p') (f : α → Except String β) :
      Rewritten (p.mapSoundly f) (p'.mapSoundly f)
  | judged {κ α β ζ} [Seed ζ κ] {p p' : Parser ι κ α} (h : Rewritten p p') (f : α → Verdict ζ β) :
      Rewritten (p.judged f) (p'.judged f)
  | withValue {κ α β} {p p' : Parser ι κ α} (h : Rewritten p p') (value : β) :
      Rewritten (p.withValue value) (p'.withValue value)
  | complete {κ α} [Cause κ] {p p' : Parser ι κ α} (h : Rewritten p p') : Rewritten p.complete p'.complete
  | recognize {κ α} {p p' : Parser ι κ α} (h : Rewritten p p') : Rewritten p.recognize p'.recognize
  | lookahead {κ α} {p p' : Parser ι κ α} (h : Rewritten p p') : Rewritten p.lookahead p'.lookahead
  | notFollowedBy {κ α} [Cause κ] {p p' : Parser ι κ α} (h : Rewritten p p') :
      Rewritten p.notFollowedBy p'.notFollowedBy
  | optional {κ α} {p p' : Parser ι κ α} (h : Rewritten p p') : Rewritten p.optional p'.optional
  | repeated {κ α} {p p' : Parser ι κ α} (h : Rewritten p p') (range : Repetition) :
      Rewritten (p.repeated range) (p'.repeated range)
  | butNot {κ ν α β} [Cause κ] {p p' : Parser ι κ α} {e e' : Parser ι ν β} (h : Rewritten p p') (he : Rewritten e e') :
      Rewritten (p.butNot e) (p'.butNot e')
  | separated {κ ν α β} {p p' : Parser ι κ α} {d d' : Parser ι ν β} (h : Rewritten p p') (hd : Rewritten d d') :
      Rewritten (p.separated d) (p'.separated d')
  | andThen {κ α β} {p p' : Parser ι κ α} {q q' : Parser ι κ β} (hp : Rewritten p p') (hq : Rewritten q q') :
      Rewritten (p.andThen q) (p'.andThen q')
  | orElse {κ α} {p p' q q' : Parser ι κ α} (hp : Rewritten p p') (hq : Rewritten q q') :
      Rewritten (p.orElse q) (p'.orElse q')
  | skipThen {κ α β} {p p' : Parser ι κ α} {q q' : Parser ι κ β} (hp : Rewritten p p') (hq : Rewritten q q') :
      Rewritten (p.skipThen q) (p'.skipThen q')
  | thenSkip {κ α β} {p p' : Parser ι κ α} {q q' : Parser ι κ β} (hp : Rewritten p p') (hq : Rewritten q q') :
      Rewritten (p.thenSkip q) (p'.thenSkip q')

/-- **Rewriting an expression does not change the parser.** -/
theorem Rewritten.eq {ι σ κ α : Type} [Cursor ι σ] {p p' : Parser ι κ α} (h : Rewritten p p') : p = p' := by
  induction h with
  | same p => rfl
  | derived h => exact h.eq
  | trans _ _ ihpq ihqr => exact ihpq.trans ihqr
  | computed _ ih => exact funext fun x => congrFun (ih x) x
  | map _ f ih => rw [ih]
  | tryMap _ f ih => rw [ih]
  | mapSoundly _ f ih => rw [ih]
  | judged _ f ih => rw [ih]
  | withValue _ value ih => rw [ih]
  | complete _ ih => rw [ih]
  | recognize _ ih => rw [ih]
  | lookahead _ ih => rw [ih]
  | notFollowedBy _ ih => rw [ih]
  | optional _ ih => rw [ih]
  | repeated _ range ih => rw [ih]
  | butNot _ _ ih ihe => rw [ih, ihe]
  | separated _ _ ih ihd => rw [ih, ihd]
  | andThen _ _ ihp ihq => rw [ihp, ihq]
  | orElse _ _ ihp ihq => rw [ihp, ihq]
  | skipThen _ _ ihp ihq => rw [ihp, ihq]
  | thenSkip _ _ ihp ihq => rw [ihp, ihq]

end Parser

/-! ## Anywhere in a grammar and its rules -/

namespace Transform

variable {σ : Type}

/-- Puts a fixed value in the place of any value. -/
def constant (value : Value Empty) : Transform σ where
  apply _ _ := .ok value.lift
  natural f _ _ := congrArg Except.ok (value.map_lift f).symm

/-- The first item of a list, if there is one. -/
def first : Transform σ where
  apply _ v := .ok (((v.item? 0).map Value.some).getD .none)
  natural f _ v := by
    rw [Value.item?_map]
    cases v.item? 0 <;> rfl

end Transform

namespace Grammar

/-- A grammar, and the same with derived grammars in it replaced by those they stand for, at any depth. -/
inductive Rewritten {σ ζ : Type} : Grammar σ ζ → Grammar σ ζ → Prop
  | same (p : Grammar σ ζ) : Rewritten p p
  | trans {p q r : Grammar σ ζ} (hpq : Rewritten p q) (hqr : Rewritten q r) : Rewritten p r
  | mapLaw (p : Grammar σ ζ) (f : Transform σ) : Rewritten (.map p f) (.tryMap p (.ofTransform f))
  | withValueLaw (p : Grammar σ ζ) (value : Value Empty) : Rewritten (.withValue p value) (.map p (.constant value))
  | skipThenLaw (p q : Grammar σ ζ) : Rewritten (.skipThen p q) (.map (.andThen p q) (.item 1))
  | thenSkipLaw (p q : Grammar σ ζ) : Rewritten (.thenSkip p q) (.map (.andThen p q) (.item 0))
  | completeLaw (p : Grammar σ ζ) : Rewritten (.complete p) (.thenSkip p .endOfInput)
  | optionalLaw (p : Grammar σ ζ) : Rewritten (.optional p) (.map (.repeated p (.atMost 1)) .first)
  | butNotLaw (p excluded : Grammar σ ζ) : Rewritten (.butNot p excluded) (.skipThen (.notFollowedBy excluded) p)
  | map {p p' : Grammar σ ζ} (h : Rewritten p p') (f : Transform σ) : Rewritten (.map p f) (.map p' f)
  | tryMap {p p' : Grammar σ ζ} (h : Rewritten p p') (f : Check σ ζ) : Rewritten (.tryMap p f) (.tryMap p' f)
  | withValue {p p' : Grammar σ ζ} (h : Rewritten p p') (value : Value Empty) :
      Rewritten (.withValue p value) (.withValue p' value)
  | complete {p p' : Grammar σ ζ} (h : Rewritten p p') : Rewritten (.complete p) (.complete p')
  | recognize {p p' : Grammar σ ζ} (h : Rewritten p p') : Rewritten (.recognize p) (.recognize p')
  | notFollowedBy {p p' : Grammar σ ζ} (h : Rewritten p p') : Rewritten (.notFollowedBy p) (.notFollowedBy p')
  | lookahead {p p' : Grammar σ ζ} (h : Rewritten p p') : Rewritten (.lookahead p) (.lookahead p')
  | optional {p p' : Grammar σ ζ} (h : Rewritten p p') : Rewritten (.optional p) (.optional p')
  | repeated {p p' : Grammar σ ζ} (h : Rewritten p p') (range : Repetition) :
      Rewritten (.repeated p range) (.repeated p' range)
  | butNot {p p' e e' : Grammar σ ζ} (hp : Rewritten p p') (he : Rewritten e e') :
      Rewritten (.butNot p e) (.butNot p' e')
  | separated {p p' d d' : Grammar σ ζ} (hp : Rewritten p p') (hd : Rewritten d d') :
      Rewritten (.separated p d) (.separated p' d')
  | andThen {p p' q q' : Grammar σ ζ} (hp : Rewritten p p') (hq : Rewritten q q') :
      Rewritten (.andThen p q) (.andThen p' q')
  | orElse {p p' q q' : Grammar σ ζ} (hp : Rewritten p p') (hq : Rewritten q q') :
      Rewritten (.orElse p q) (.orElse p' q')
  | skipThen {p p' q q' : Grammar σ ζ} (hp : Rewritten p p') (hq : Rewritten q q') :
      Rewritten (.skipThen p q) (.skipThen p' q')
  | thenSkip {p p' q q' : Grammar σ ζ} (hp : Rewritten p p') (hq : Rewritten q q') :
      Rewritten (.thenSkip p q) (.thenSkip p' q')

section Runs

variable {ι σ κ ζ : Type} [DecidableEq σ] [Symbol σ] [Cursor ι σ] [Cause κ] [Seed ζ κ]
variable (call : String → Parser ι κ (Value (Stretch ι)))

theorem run_tryMap_ofTransform (p : Grammar σ ζ) (f : Transform σ) :
    (tryMap p (.ofTransform f)).run call = (map p f).run call := by
  rw [run, run, @Parser.mapSoundly_eq_judged ι κ _ _ ζ]
  congr 1
  funext value
  unfold Check.ofTransform
  dsimp only
  cases f.apply Stretch.excerpt value <;> rfl

theorem run_map_item_andThen (p q : Grammar σ ζ) :
    (map (andThen p q) (.item 1)).run call = (skipThen p q).run call ∧
      (map (andThen p q) (.item 0)).run call = (thenSkip p q).run call := by
  simp only [run, Parser.mapSoundly_map, Parser.skipThen_eq_map_andThen, Parser.thenSkip_eq_map_andThen]
  exact ⟨rfl, rfl⟩

theorem run_thenSkip_endOfInput (p : Grammar σ ζ) :
    (thenSkip p endOfInput).run call = (complete p).run call := by
  simp only [run, Parser.thenSkip_withValue, Parser.complete_eq_thenSkip]

variable {call}

theorem run_map_first_repeated (hcall : ∀ name, (call name).Composed Value.parts) (p : Grammar σ ζ) :
    (map (repeated p (.atMost 1)) .first).run call = (optional p).run call := by
  simp only [run, Parser.mapSoundly_map, Parser.map_map, Parser.optional_eq_map_repeated (composed_run hcall p).orderly]
  rw [← Parser.mapSoundly_ok]
  congr 1
  funext values
  cases values <;> rfl

theorem run_skipThen_notFollowedBy (hcall : ∀ name, (call name).Composed Value.parts) (p excluded : Grammar σ ζ) :
    (skipThen (notFollowedBy excluded) p).run call = (butNot p excluded).run call := by
  simp only [run, Parser.withValue_skipThen, Parser.butNot_eq_skipThen (composed_run hcall p).orderly]

/-- **Rewriting a grammar does not change its parser**, where rules keep the promise of composed parsers. -/
theorem Rewritten.run_eq (hcall : ∀ name, (call name).Composed Value.parts) {p p' : Grammar σ ζ} (h : p.Rewritten p') :
    p.run call = p'.run call := by
  induction h with
  | same p => rfl
  | trans _ _ ihpq ihqr => exact ihpq.trans ihqr
  | mapLaw p f => exact (run_tryMap_ofTransform call p f).symm
  | withValueLaw p value => rfl
  | skipThenLaw p q => exact (run_map_item_andThen call p q).1.symm
  | thenSkipLaw p q => exact (run_map_item_andThen call p q).2.symm
  | completeLaw p => exact (run_thenSkip_endOfInput call p).symm
  | optionalLaw p => exact (run_map_first_repeated hcall p).symm
  | butNotLaw p excluded => exact (run_skipThen_notFollowedBy hcall p excluded).symm
  | map _ f ih => rw [run, run, ih]
  | tryMap _ f ih => rw [run, run, ih]
  | withValue _ value ih => rw [run, run, ih]
  | complete _ ih => rw [run, run, ih]
  | recognize _ ih => rw [run, run, ih]
  | notFollowedBy _ ih => rw [run, run, ih]
  | lookahead _ ih => rw [run, run, ih]
  | optional _ ih => rw [run, run, ih]
  | repeated _ range ih => rw [run, run, ih]
  | butNot _ _ ihp ihe => rw [run, run, ihp, ihe]
  | separated _ _ ihp ihd => rw [run, run, ihp, ihd]
  | andThen _ _ ihp ihq => rw [run, run, ihp, ihq]
  | orElse _ _ ihp ihq => rw [run, run, ihp, ihq]
  | skipThen _ _ ihp ihq => rw [run, run, ihp, ihq]
  | thenSkip _ _ ihp ihq => rw [run, run, ihp, ihq]

end Runs
end Grammar

namespace Rules

variable {ι σ κ ζ : Type} {rules rules' : Rules σ ζ}

/-- Rules of the same names in the same order, their grammars rewritten. -/
def Rewritten (rules rules' : Rules σ ζ) : Prop :=
  List.Forall₂ (fun rule rule' => rule.1 = rule'.1 ∧ rule.2.Rewritten rule'.2) rules rules'

/-- **A name finds rewritten grammars, or none in either.** -/
theorem Rewritten.find? (h : Rewritten rules rules') (name : String) :
    Option.Rel Grammar.Rewritten (rules.find? name) (rules'.find? name) := by
  induction h with
  | nil => exact .none
  | @cons rule rule' more more' hrule _ ih =>
    unfold Rules.find? at ih ⊢
    rw [List.find?_cons, List.find?_cons, ← hrule.1]
    cases rule.1 == name with
    | true => exact .some hrule.2
    | false => exact ih

variable [DecidableEq σ] [Symbol σ] [Cursor ι σ] [Cause κ] [Seed ζ κ]

/-- **Rewriting rules does not change their parsers**, at any depth of calls. -/
theorem Rewritten.call_eq (h : Rewritten rules rules') : ∀ (depth : Nat) (name : String),
    (rules.call depth name : Parser ι κ (Value (Stretch ι))) = rules'.call depth name
  | 0, _ => rfl
  | depth + 1, name => by
    have hcalls : (rules.call depth : String → Parser ι κ (Value (Stretch ι))) = rules'.call depth :=
      funext (h.call_eq depth)
    have hfind := h.find? name
    unfold Rules.call
    -- What a rule calls is unrolled one step less deep.
    generalize rules.find? name = found at hfind ⊢
    generalize rules'.find? name = found' at hfind ⊢
    cases hfind with
    | none => rfl
    | some hp => exact (hp.run_eq (Grammar.composed_call rules depth)).trans (by rw [hcalls])

end Rules

/-- **Derived combinators are what they stand for, in every context.**  Replacing them by what they stand for, anywhere
in an expression or in a grammar and the rules it calls, changes no outcome: neither value nor rest, nor the cause and
position of a fault, nor the cursor given back. -/
theorem rewriting_keeps_outcomes :
    (∀ {ι σ κ α : Type} [Cursor ι σ] {p p' : Parser ι κ α}, p.Rewritten p' → ∀ x : ι, p x = p' x) ∧
    ∀ {ι σ κ ζ : Type} [DecidableEq σ] [Symbol σ] [Cursor ι σ] [Cause κ] [Seed ζ κ] {p p' : Grammar σ ζ}
      {rules rules' : Rules σ ζ}, p.Rewritten p' → rules.Rewritten rules' → ∀ x : ι,
        (p.parse rules x : Outcome κ ι (Value (Stretch ι))) = p'.parse rules' x ∧
        ∀ depth, (p.run (rules.call depth) x : Outcome κ ι (Value (Stretch ι))) = p'.run (rules'.call depth) x := by
  constructor
  · intro ι σ κ α _ p p' h x
    exact congrFun h.eq x
  · intro ι σ κ ζ _ _ _ _ _ p p' rules rules' hp hrules x
    have hrun (depth : Nat) :
        (p.run (rules.call depth) x : Outcome κ ι (Value (Stretch ι))) = p'.run (rules'.call depth) x := by
      rw [hp.run_eq (Grammar.composed_call rules depth), funext (hrules.call_eq depth)]
    have hdepth : rules.depthAt x = rules'.depthAt x := congrArg (· * (Cursor.left x + 1)) hrules.length_eq
    refine ⟨?_, hrun⟩
    unfold Grammar.parse
    rw [hrun, hdepth]

/-- Signed letters in a loop, and characters up to a bracket by a rule that calls itself. -/
theorem rewriting_keeps_outcomes_under_loop_and_rule :
    let sign : Parser Text TextCause Char := .character '-'
    let letter : Parser Text TextCause Char := .satisfying Char.isAlpha
    let inside : Grammar Char TextCause := .butNot .anySymbol (.character ')')
    let notClosing : Grammar Char TextCause := .notFollowedBy (.character ')')
    let rules : Rules Char TextCause := [("more", .optional (.andThen inside (.rule "more")))]
    let rules' : Rules Char TextCause :=
      [("more", .map (.repeated (.andThen (.skipThen notClosing .anySymbol) (.rule "more")) (.atMost 1)) .first)]
    (∀ x : Text, (sign.optional.skipThen letter).repeated .any x =
      (((sign.repeated (.atMost 1)).map List.head?).skipThen letter).repeated .any x) ∧
    (∀ x : Text, (Grammar.rule "more").parse rules x =
      ((Grammar.rule "more").parse rules' x : Outcome TextCause Text _)) ∧
    (∃ value rest, (Grammar.rule "more").parse rules' (Text.ofString "ab)") =
      (.success value rest : Outcome TextCause Text _) ∧ rest = ⟨2, [')']⟩) := by
  intro sign letter inside notClosing rules rules'
  have hletters : ((sign.optional.skipThen letter).repeated .any).Rewritten
      ((((sign.repeated (.atMost 1)).map List.head?).skipThen letter).repeated .any) :=
    .repeated (.skipThen (.derived (.optional (Parser.composed_character '-'))) (.same letter)) _
  have hrules : rules.Rewritten rules' := by
    refine .cons ⟨rfl, ?_⟩ .nil
    exact .trans (.optionalLaw _)
      (.map (.repeated (.andThen (.butNotLaw .anySymbol (.character ')')) (.same _)) _) .first)
  refine ⟨rewriting_keeps_outcomes.1 hletters, fun x => (rewriting_keeps_outcomes.2 (.same _) hrules x).1, ?_⟩
  have h : ((Grammar.rule "more").parse rules (Text.ofString "ab)") : Outcome TextCause Text _) =
      (Grammar.rule "more").parse rules' (Text.ofString "ab)") :=
    (rewriting_keeps_outcomes.2 (.same (.rule "more")) hrules (Text.ofString "ab)")).1
  rw [← h]
  exact ⟨_, _, rfl, rfl⟩

end Parsing
