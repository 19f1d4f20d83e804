import Mathlib.Logic.Relation
import Parsing.Proofs.Composed
import Parsing.Proofs.Loops
/-!
# Ending — parsers that never run on

A run that would never end comes to `Abort.endless`.  Loops do not come to it (`Parsing.Proofs.Loops`), and the other
combinators only pass it on, so parsers put together without rules that call themselves end on every input
(`Parser.NonRecursive.ends`).  Rules may still call each other: where none comes back to itself, the rules being called
at any moment are all different, so there are never more of them than rules, and no call is refused for its depth
(`Rules.NonRecursive.call`).

Main statement: `loops_end`.
-/
namespace Parsing

open Cursor (SelfSame left)

/-- Parsers put together from the primitives and the combinators, and nothing else.  What a parser refers to may depend
on its input, but there is no way back to the parser itself. -/
inductive Parser.NonRecursive {ι σ : Type} [Cursor ι σ] : {κ α : Type} → Parser ι κ α → Prop
  | computed {κ α} {p : ι → Parser ι κ α} (hp : ∀ x, NonRecursive (p x)) : NonRecursive fun x => p x x
  | yielding {κ α} (value : α) : NonRecursive (yielding value : Parser ι κ α)
  | anySymbol {κ} [Cause κ] : NonRecursive (anySymbol : Parser ι κ σ)
  | satisfying {κ} [Cause κ] (holds : σ → Bool) : NonRecursive (satisfying holds : Parser ι κ σ)
  | endOfInput {κ} [Cause κ] : NonRecursive (endOfInput : Parser ι κ Unit)
  | exactly {κ} [DecidableEq σ] (expected : σ) (cause : κ) : NonRecursive (exactly expected cause : Parser ι κ σ)
  | literal {κ α} [DecidableEq σ] (expected : List σ) (cause : σ → κ) (value : α) :
      NonRecursive (literal expected cause value : Parser ι κ α)
  | map {κ α β} {p : Parser ι κ α} (hp : NonRecursive p) (f : α → β) : NonRecursive (p.map f)
  | tryMap {κ α β ζ} [Seed ζ κ] {p : Parser ι κ α} (hp : NonRecursive p) (f : α → Except ζ β) :
      NonRecursive (p.tryMap f)
  | mapSoundly {κ α β} {p : Parser ι κ α} (hp : NonRecursive p) (f : α → Except String β) :
      NonRecursive (p.mapSoundly f)
  | judged {κ α β ζ} [Seed ζ κ] {p : Parser ι κ α} (hp : NonRecursive p) (f : α → Verdict ζ β) :
      NonRecursive (p.judged f)
  | withValue {κ α β} {p : Parser ι κ α} (hp : NonRecursive p) (value : β) : NonRecursive (p.withValue value)
  | complete {κ α} [Cause κ] {p : Parser ι κ α} (hp : NonRecursive p) : NonRecursive p.complete
  | recognize {κ α} {p : Parser ι κ α} (hp : NonRecursive p) : NonRecursive p.recognize
  | lookahead {κ α} {p : Parser ι κ α} (hp : NonRecursive p) : NonRecursive p.lookahead
  | notFollowedBy {κ α} [Cause κ] {p : Parser ι κ α} (hp : NonRecursive p) : NonRecursive p.notFollowedBy
  | optional {κ α} {p : Parser ι κ α} (hp : NonRecursive p) : NonRecursive p.optional
  | repeated {κ α} {p : Parser ι κ α} (hp : NonRecursive p) (range : Repetition) : NonRecursive (p.repeated range)
  | butNot {κ ν α β} [Cause κ] {p : Parser ι κ α} {excluded : Parser ι ν β} (hp : NonRecursive p)
      (he : NonRecursive excluded) : NonRecursive (p.butNot excluded)
  | separated {κ ν α β} {p : Parser ι κ α} {delimiter : Parser ι ν β} (hp : NonRecursive p)
      (hd : NonRecursive delimiter) : NonRecursive (p.separated delimiter)
  | andThen {κ α β} {p : Parser ι κ α} {q : Parser ι κ β} (hp : NonRecursive p) (hq : NonRecursive q) :
      NonRecursive (p.andThen q)
  | orElse {κ α} {p q : Parser ι κ α} (hp : NonRecursive p) (hq : NonRecursive q) : NonRecursive (p.orElse q)
  | skipThen {κ α β} {p : Parser ι κ α} {q : Parser ι κ β} (hp : NonRecursive p) (hq : NonRecursive q) :
      NonRecursive (p.skipThen q)
  | thenSkip {κ α β} {p : Parser ι κ α} {q : Parser ι κ β} (hp : NonRecursive p) (hq : NonRecursive q) :
      NonRecursive (p.thenSkip q)

variable {ι σ κ ν α β ζ : Type}

/-- The outcome of a run that ends, be it by giving up on a defective mapping. -/
def Outcome.Ends (o : Outcome κ ι α) : Prop := o ≠ .aborted .endless

namespace Outcome

@[simp] theorem ends_success (value : α) (rest : ι) : (success value rest : Outcome κ ι α).Ends := by
  rintro ⟨⟩

@[simp] theorem ends_failure (fault : Fault κ ι) (input : ι) : (failure fault input : Outcome κ ι α).Ends := by
  rintro ⟨⟩

@[simp] theorem ends_defect (message : String) : (aborted (.defect message) : Outcome κ ι α).Ends := by
  rintro ⟨⟩

namespace Ends

variable {o : Outcome κ ι α}

theorem andThen {next : α → ι → Outcome κ ι β} (h : o.Ends) (hnext : ∀ value rest, (next value rest).Ends) :
    (o.andThen next).Ends := by
  cases o with
  | success value rest => exact hnext value rest
  | failure fault input => exact ends_failure fault input
  | aborted why =>
    rintro ⟨⟩
    exact h rfl

theorem map (h : o.Ends) (f : α → β) : (o.map f).Ends := h.andThen fun _ _ => ends_success _ _

theorem restoring (h : o.Ends) (input : ι) : (o.restoring input).Ends := by
  cases o with
  | success value rest => exact ends_success value rest
  | failure fault given => exact ends_failure fault input
  | aborted why => exact h

theorem recover {next : ι → Outcome κ ι α} (h : o.Ends) (hnext : ∀ input, (next input).Ends) :
    (o.recover next).Ends := by
  cases o with
  | success value rest => exact ends_success value rest
  | failure fault input => exact hnext input
  | aborted why => exact h

end Ends
end Outcome

/-! ## Parsers without recursion -/

namespace Parser

variable [Cursor ι σ] {p : Parser ι κ α} {d : Parser ι ν β} {parts : Parts ι α} {range : Repetition} {x start : ι}
  {count hits misses more : Nat} {o : Outcome κ ι (List α)}

theorem Composed.without (hp : p.Composed parts) : p.Composed Parts.none := hp.fewer fun _ _ => False.elim

theorem NonRecursive.composed (h : p.NonRecursive) : p.Composed Parts.none := by
  induction h with
  | computed _ ih => exact .computed ih
  | yielding value => exact .yielding fun _ => id
  | anySymbol => exact .anySymbol
  | satisfying holds => exact .satisfying holds
  | endOfInput => exact .endOfInput
  | exactly expected cause => exact .exactly expected cause
  | literal expected cause value => exact .literal expected cause fun _ => id
  | map _ f ih => exact ih.map f fun _ _ => False.elim
  | tryMap _ f ih => exact ih.tryMap f fun _ _ _ _ => False.elim
  | mapSoundly _ f ih => exact ih.mapSoundly f fun _ _ _ _ => False.elim
  | judged _ f ih => exact ih.judged f fun _ _ _ _ => False.elim
  | withValue _ value ih => exact ih.withValue fun _ => id
  | complete _ ih => exact ih.complete
  | recognize _ ih => exact ih.recognize.without
  | lookahead _ ih => exact ih.lookahead
  | notFollowedBy _ ih => exact ih.notFollowedBy
  | optional _ ih => exact ih.optional.without
  | repeated _ range ih => exact (ih.repeated range).without
  | butNot _ _ ih ihe => exact ih.butNot ihe
  | separated _ _ ih ihd => exact (ih.separated ihd).without
  | andThen _ _ ih ihq => exact (ih.andThen ihq).without
  | orElse _ _ ih ihq => exact ih.orElse ihq
  | skipThen _ _ ih ihq => exact ih.skipThen ihq
  | thenSkip _ _ ih ihq => exact ih.thenSkip ihq

theorem NonRecursive.advances (h : p.NonRecursive) : p.Advances := h.composed.orderly.advances

/-- Giving up with a parser that ends is ending, whatever was to come of it. -/
theorem ends_of_aborted (h : (p x).Ends) {why : Abort} (hwhy : p x = .aborted why) :
    (.aborted why : Outcome ν ι β).Ends := by
  rintro ⟨⟩
  exact h hwhy

theorem exactly_ends [DecidableEq σ] (expected : σ) (cause : κ) (x : ι) : (exactly expected cause x).Ends := by
  unfold exactly
  split
  · split <;> simp
  · simp

theorem literalFrom_ends [DecidableEq σ] (cause : σ → κ) (start : ι) : ∀ (expected : List σ) (x : ι),
    (literalFrom cause start expected x).Ends
  | [], _ => Outcome.ends_success _ _
  | a :: more, x => by
    unfold literalFrom
    cases h : exactly a (cause a) x with
    | success value rest => exact literalFrom_ends cause start more rest
    | failure fault given => exact Outcome.ends_failure fault start
    | aborted why => exact ends_of_aborted (exactly_ends a (cause a) x) h

/-- **Where the parser ends, so does its repetition.** -/
theorem RepeatsFrom.ends (hrun : p.RepeatsFrom range start count x hits misses o) (h : ∀ y, (p y).Ends) : o.Ends := by
  induction hrun with
  | full _ | stalled _ _ _ | enough _ _ _ => exact Outcome.ends_success _ _
  | short _ _ _ => exact Outcome.ends_failure _ _
  | matched _ _ _ _ ih => exact ih.map _
  | aborted _ hwhy => exact ends_of_aborted (h _) hwhy

theorem SeparatesFrom.ends (hrun : p.SeparatesFrom d start x more o) (hp : ∀ y, (p y).Ends) (hd : ∀ y, (d y).Ends) :
    o.Ends := by
  induction hrun with
  | last _ | stalled _ _ _ => exact Outcome.ends_success _ _
  | missing _ _ => exact Outcome.ends_failure _ _
  | matched _ _ _ _ ih => exact ih.map _
  | stopped hwhy => exact ends_of_aborted (hd _) hwhy
  | aborted _ hwhy => exact ends_of_aborted (hp _) hwhy

theorem repeated_ends [SelfSame ι] (hp : p.Advances) (h : ∀ y, (p y).Ends) (range : Repetition) (x : ι) :
    (p.repeated range x).Ends := by
  obtain ⟨hits, misses, o, hrun⟩ := exists_repeatsFrom hp range x 0 x
  rw [hrun.repeated_eq hp]
  exact hrun.ends h

theorem separated_ends [SelfSame ι] (hp : p.Advances) (hd : d.Advances) (h : ∀ y, (p y).Ends) (h' : ∀ y, (d y).Ends)
    (x : ι) : (p.separated d x).Ends := by
  cases hfirst : p x with
  | success first y =>
    obtain ⟨more, o, hrun⟩ := exists_separatesFrom hp hd x y
    rw [hrun.separated_eq hp hd hfirst]
    exact (hrun.ends h h').map _
  | failure fault given =>
    rw [separated, hfirst]
    exact Outcome.ends_failure fault given
  | aborted why =>
    rw [separated, hfirst]
    exact ends_of_aborted (h x) hfirst

/-- **Parsers without recursion end on every input.** -/
theorem NonRecursive.ends [SelfSame ι] (h : p.NonRecursive) : ∀ x, (p x).Ends := by
  induction h with
  | computed _ ih => exact fun x => ih x x
  | yielding value => exact fun _ => Outcome.ends_success _ _
  | anySymbol =>
    intro x
    unfold Parser.anySymbol
    split <;> simp
  | satisfying holds =>
    intro x
    unfold Parser.satisfying
    split
    · split <;> simp
    · simp
  | endOfInput =>
    intro x
    unfold Parser.endOfInput
    split <;> simp
  | exactly expected cause => exact exactly_ends expected cause
  | literal expected cause value => exact fun x => (literalFrom_ends cause x expected x).map _
  | map _ f ih => exact fun x => (ih x).map f
  | tryMap _ f ih => exact fun x => (ih x).andThen fun value _ => by cases f value <;> simp
  | mapSoundly _ f ih => exact fun x => (ih x).andThen fun value _ => by cases f value <;> simp
  | judged _ f ih => exact fun x => (ih x).andThen fun value _ => by cases f value <;> simp
  | withValue _ value ih => exact fun x => (ih x).map _
  | complete _ ih => exact fun x => (ih x).andThen fun _ _ => by split <;> simp
  | recognize _ ih => exact fun x => (ih x).andThen fun _ _ => Outcome.ends_success _ _
  | lookahead _ ih => exact fun x => (ih x).andThen fun _ _ => Outcome.ends_success _ _
  | notFollowedBy _ ih =>
    intro x
    unfold Parser.notFollowedBy
    split
    · simp
    · simp
    · exact ends_of_aborted (ih x) ‹_›
  | optional _ ih =>
    intro x
    unfold Parser.optional
    split
    · simp
    · simp
    · exact ends_of_aborted (ih x) ‹_›
  | repeated hp range ih => exact repeated_ends hp.advances ih range
  | butNot _ _ ih ihe =>
    intro x
    unfold Parser.butNot
    split
    · simp
    · exact ih x
    · exact ends_of_aborted (ihe x) ‹_›
  | separated hp hd ih ihd => exact separated_ends hp.advances hd.advances ih ihd
  | andThen _ _ ih ihq => exact fun x => (ih x).andThen fun _ rest => ((ihq rest).restoring x).map _
  | orElse _ _ ih ihq => exact fun x => (ih x).recover ihq
  | skipThen _ _ ih ihq => exact fun x => (ih x).andThen fun _ rest => (ihq rest).restoring x
  | thenSkip _ _ ih ihq => exact fun x => (ih x).andThen fun _ rest => ((ihq rest).restoring x).map _

end Parser

/-! ## Rules that do not come back to themselves -/

/-- The names of the rules that a grammar calls. -/
def Grammar.calls : Grammar σ ζ → List String
  | anySymbol | endOfInput | yielding _ | satisfying _ | exactly _ _ | literal _ _ _ => []
  | map p _ | tryMap p _ | withValue p _ | complete p | recognize p | notFollowedBy p => p.calls
  | lookahead p | optional p | repeated p _ => p.calls
  | butNot p q | separated p q | andThen p q | orElse p q | skipThen p q | thenSkip p q => p.calls ++ q.calls
  | rule name => [name]

namespace Rules

/-- The first rule calls the second. -/
def Calls (rules : Rules σ ζ) (name called : String) : Prop := ∃ p, rules.find? name = some p ∧ called ∈ p.calls

/-- Rules that call only rules there are, and of which none comes back to itself by calls. -/
structure NonRecursive (rules : Rules σ ζ) : Prop where
  defined : ∀ {name called}, rules.Calls name called → (rules.find? called).isSome
  acyclic : ∀ name, ¬ Relation.TransGen rules.Calls name name

variable {rules : Rules σ ζ} {name : String}

/-- A rule that leads to another is there. -/
theorem isSome_of_transGen {called : String} (h : Relation.TransGen rules.Calls name called) :
    (rules.find? name).isSome := by
  obtain ⟨_, ⟨p, hp, -⟩, -⟩ := Relation.TransGen.head'_iff.1 h
  exact Option.isSome_iff_exists.2 ⟨p, hp⟩

theorem mem_names_of_find? (h : (rules.find? name).isSome) : name ∈ rules.map (·.1) := by
  obtain ⟨p, hp⟩ := Option.isSome_iff_exists.1 h
  obtain ⟨rule, hrule, -⟩ := Option.map_eq_some_iff.1 hp
  have hname := List.find?_some hrule
  exact List.mem_map.2 ⟨rule, List.mem_of_find?_eq_some hrule, beq_iff_eq.1 hname⟩

end Rules

section Calls

variable [DecidableEq σ] [Symbol σ] [Cursor ι σ] [Cause κ] [Seed ζ κ]

/-- **A grammar is without recursion once the rules it calls are.** -/
theorem Grammar.nonRecursive_run {call : String → Parser ι κ (Value (Stretch ι))} : ∀ (p : Grammar σ ζ),
    (∀ name ∈ p.calls, (call name).NonRecursive) → (p.run call).NonRecursive
  | anySymbol, _ => Parser.NonRecursive.anySymbol.map _
  | endOfInput, _ => Parser.NonRecursive.endOfInput.withValue _
  | yielding _, _ => .yielding _
  | satisfying holds, _ => (Parser.NonRecursive.satisfying holds).map _
  | exactly symbol _, _ => (Parser.NonRecursive.exactly symbol _).map _
  | literal symbols _ _, _ => .literal symbols _ _
  | map p _, h => (nonRecursive_run p h).mapSoundly _
  | tryMap p _, h => (nonRecursive_run p h).judged _
  | withValue p _, h => (nonRecursive_run p h).withValue _
  | complete p, h => (nonRecursive_run p h).complete
  | recognize p, h => (nonRecursive_run p h).recognize.map _
  | notFollowedBy p, h => (nonRecursive_run p h).notFollowedBy.withValue _
  | lookahead p, h => (nonRecursive_run p h).lookahead
  | optional p, h => (nonRecursive_run p h).optional.map _
  | repeated p range, h => ((nonRecursive_run p h).repeated range).map _
  | butNot p q, h => by
    obtain ⟨hp, hq⟩ := List.forall_mem_append.1 h
    exact (nonRecursive_run p hp).butNot (nonRecursive_run q hq)
  | separated p q, h => by
    obtain ⟨hp, hq⟩ := List.forall_mem_append.1 h
    exact ((nonRecursive_run p hp).separated (nonRecursive_run q hq)).map _
  | andThen p q, h => by
    obtain ⟨hp, hq⟩ := List.forall_mem_append.1 h
    exact ((nonRecursive_run p hp).andThen (nonRecursive_run q hq)).map _
  | orElse p q, h => by
    obtain ⟨hp, hq⟩ := List.forall_mem_append.1 h
    exact (nonRecursive_run p hp).orElse (nonRecursive_run q hq)
  | skipThen p q, h => by
    obtain ⟨hp, hq⟩ := List.forall_mem_append.1 h
    exact (nonRecursive_run p hp).skipThen (nonRecursive_run q hq)
  | thenSkip p q, h => by
    obtain ⟨hp, hq⟩ := List.forall_mem_append.1 h
    exact (nonRecursive_run p hp).thenSkip (nonRecursive_run q hq)
  | rule name, h => h name (List.mem_singleton_self name)

/-- **A rule that does not come back to itself is without recursion**, at a depth of calls that lets all rules be called
at once.  The rules being called at some moment lead to the one called next, so that one is another. -/
theorem Rules.NonRecursive.call {rules : Rules σ ζ} (h : rules.NonRecursive) : ∀ (depth : Nat) {calling : List String}
    {name : String}, calling.Nodup → (∀ caller ∈ calling, Relation.TransGen rules.Calls caller name) →
      (rules.find? name).isSome → rules.length ≤ depth + calling.length →
      (rules.call depth name : Parser ι κ (Value (Stretch ι))).NonRecursive
  | depth, calling, name, hnodup, hpath, hname, hdepth => by
    have hnew : name ∉ calling := fun hmem => h.acyclic name (hpath name hmem)
    have hnodup' : (name :: calling).Nodup := List.nodup_cons.2 ⟨hnew, hnodup⟩
    have hnames : name :: calling ⊆ rules.map (·.1) := List.cons_subset.2
      ⟨mem_names_of_find? hname, fun caller hcaller => mem_names_of_find? (isSome_of_transGen (hpath caller hcaller))⟩
    have hlength := hnodup'.length_le_of_subset hnames
    rw [List.length_cons, List.length_map] at hlength
    cases depth with
    | zero => omega
    | succ depth =>
      obtain ⟨p, hp⟩ := Option.isSome_iff_exists.1 hname
      unfold Rules.call
      rw [hp]
      refine Grammar.nonRecursive_run p fun called hcalled => ?_
      have hcall : rules.Calls name called := ⟨p, hp, hcalled⟩
      refine call h depth hnodup' ?_ (h.defined hcall) (by rw [List.length_cons]; omega)
      exact List.forall_mem_cons.2 ⟨.single hcall, fun caller hcaller => (hpath caller hcaller).tail hcall⟩

theorem Grammar.parse_ends [SelfSame ι] {rules : Rules σ ζ} (h : rules.NonRecursive) {p : Grammar σ ζ}
    (hp : ∀ name ∈ p.calls, (rules.find? name).isSome) (x : ι) : (p.parse rules x : Outcome κ ι _).Ends := by
  have hdepth : rules.length ≤ rules.depthAt x := Nat.le_mul_of_pos_right _ (Nat.succ_pos _)
  have hrun : Parser.NonRecursive (p.run (rules.call (rules.depthAt x)) : Parser ι κ _) :=
    p.nonRecursive_run fun name hname => h.call _ List.nodup_nil (List.forall_mem_nil _) (hp name hname) hdepth
  exact hrun.ends x

end Calls

/-- **Loops end, and so does every parser without recursion.**  Where matches move forward, the loop of a repetition has
a run from every cursor, and every run has no more matches than the least count, or one more than there are symbols
left, misses once at most, and comes to what the repetition does.  So it is with the loop of a list, which collects two
elements more than there are symbols left, at most.  Neither asks that a cursor be told apart from any other.  Parsers
put together from the primitives and the combinators end on every input, and so do grammars whose rules do not come back
to themselves. -/
theorem loops_end :
    (∀ {ι σ κ α : Type} [Cursor ι σ] [SelfSame ι] {p : Parser ι κ α}, p.Advances → ∀ range x,
      (∃ hits misses o, p.RepeatsFrom range x 0 x hits misses o) ∧
      ∀ hits misses o, p.RepeatsFrom range x 0 x hits misses o →
        hits ≤ max range.least (left x + 1) ∧ misses ≤ 1 ∧ p.repeated range x = o) ∧
    (∀ {ι σ κ ν α β : Type} [Cursor ι σ] [SelfSame ι] {p : Parser ι κ α} {d : Parser ι ν β}, p.Advances →
      d.Advances → ∀ x first y, p x = .success first y →
        (∃ more o, p.SeparatesFrom d x y more o) ∧
        ∀ more o, p.SeparatesFrom d x y more o → more + 1 ≤ left x + 2 ∧ p.separated d x = o.map (first :: ·) ∧
          ∀ values rest, p.separated d x = .success values rest → values.length = more + 1) ∧
    (∀ {ι σ κ α : Type} [Cursor ι σ] [SelfSame ι] {p : Parser ι κ α}, p.NonRecursive → ∀ x, (p x).Ends) ∧
    ∀ {ι σ κ ζ : Type} [DecidableEq σ] [Symbol σ] [Cursor ι σ] [SelfSame ι] [Cause κ] [Seed ζ κ] {rules : Rules σ ζ}
      {p : Grammar σ ζ}, rules.NonRecursive → (∀ name ∈ p.calls, (rules.find? name).isSome) →
      ∀ x : ι, (p.parse rules x : Outcome κ ι _).Ends := by
  refine ⟨fun {ι σ κ α _ _ p} hp range x => ⟨Parser.exists_repeatsFrom hp range x 0 x, fun hits misses o hrun => ?_⟩,
    fun {ι σ κ ν α β _ _ p d} hp hd x first y hfirst => ⟨Parser.exists_separatesFrom hp hd x y, fun more o hrun => ?_⟩,
    fun h => h.ends, fun h hp x => Grammar.parse_ends h hp x⟩
  · obtain ⟨hhits, hmisses⟩ := hrun.bounds hp
    rw [Nat.zero_add, Nat.zero_add] at hhits
    exact ⟨hhits, hmisses, hrun.repeated_eq hp⟩
  · have hlist := hrun.separated_eq hp hd hfirst
    have hmore := hrun.le_left hp hd
    have hle := (hp hfirst).left_le
    refine ⟨by omega, hlist, fun values rest h => ?_⟩
    obtain ⟨others, ho, rfl⟩ := Outcome.map_eq_success.1 (hlist.symm.trans h)
    rw [List.length_cons, hrun.length_eq others rest ho]

/-- Elements without width, which are all at one place, at least five of them where there are two; letters and commas
that may all be missing; lists of these again and again; and words in lists, as rules. -/
theorem loops_end_of_units_and_words :
    let unit : Parser (Slice Unit) PlainCause (Option Unit) := Parser.anySymbol.optional
    let x : Slice Unit := .ofList [(), ()]
    let letter : Parser Text TextCause (Option Char) := (Parser.satisfying Char.isAlpha).optional
    let comma : Parser Text TextCause (Option Char) := (Parser.character ',').optional
    let rules : Rules Char TextCause := [("list", .separated (.rule "word") (.exactly ',' (.expected ','))),
      ("word", .repeated (.satisfying Char.isAlpha) .any)]
    (∃ hits misses, unit.RepeatsFrom (.atLeast 5) x 0 x hits misses
      (.success [some (), some (), none, none, none] ⟨2, []⟩) ∧ hits ≤ 5 ∧ misses ≤ 1) ∧
    (∃ more, letter.SeparatesFrom comma (Text.ofString "a,b") ⟨1, [',', 'b']⟩ more (.success [some 'b', none] ⟨3, []⟩) ∧
      more + 1 ≤ 5) ∧
    (∀ y, ((letter.separated comma).repeated .any y).Ends) ∧
    ∀ y : Text, ((Grammar.rule "list").parse rules y : Outcome TextCause Text _).Ends := by
  intro unit x letter comma rules
  have hunit : unit.NonRecursive := Parser.NonRecursive.anySymbol.optional
  have hletter : letter.NonRecursive := (Parser.NonRecursive.satisfying Char.isAlpha).optional
  have hcomma : comma.NonRecursive := (Parser.NonRecursive.exactly ',' _).optional
  have hcalls {name called : String} (h : rules.Calls name called) : name = "list" ∧ called = "word" := by
    obtain ⟨p, hp, hcalled⟩ := h
    by_cases hlist : name = "list"
    · subst hlist
      cases hp
      exact ⟨rfl, List.mem_singleton.1 hcalled⟩
    · by_cases hword : name = "word"
      · subst hword
        cases hp
        exact absurd hcalled List.not_mem_nil
      · have hnone : rules.find? name = none := by simp [rules, Rules.find?, Ne.symm hlist, Ne.symm hword]
        rw [hnone] at hp
        cases hp
  have hrules : rules.NonRecursive := by
    refine ⟨fun h => ?_, fun name h => ?_⟩
    · rw [(hcalls h).2]
      rfl
    · obtain ⟨_, hfirst, -⟩ := Relation.TransGen.head'_iff.1 h
      obtain ⟨_, -, hlast⟩ := Relation.TransGen.tail'_iff.1 h
      exact absurd ((hcalls hfirst).1.symm.trans (hcalls hlast).2) (by decide)
  refine ⟨?_, ?_, loops_end.2.2.1 ((hletter.separated hcomma).repeated .any), ?_⟩
  · obtain ⟨⟨hits, misses, o, hrun⟩, hall⟩ := loops_end.1 hunit.advances (.atLeast 5) x
    obtain ⟨hhits, hmisses, rfl⟩ := hall hits misses o hrun
    exact ⟨hits, misses, hrun, hhits, hmisses⟩
  · obtain ⟨⟨more, o, hrun⟩, hall⟩ :=
      loops_end.2.1 hletter.advances hcomma.advances (Text.ofString "a,b") (some 'a') ⟨1, [',', 'b']⟩ rfl
    obtain ⟨hmore, hlist, -⟩ := hall more o hrun
    obtain ⟨others, rfl, hothers⟩ := Outcome.map_eq_success.1 hlist.symm
    cases hothers
    exact ⟨more, hrun, hmore⟩
  · have hlist : ∀ name ∈ (Grammar.rule "list" : Grammar Char TextCause).calls, (rules.find? name).isSome := by
      intro name hname
      rw [List.mem_singleton.1 hname]
      rfl
    exact loops_end.2.2.2 hrules hlist

end Parsing
