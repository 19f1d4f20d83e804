import Parsing.Proofs.Composed
import Parsing.Proofs.Success
/-!
# Sequences — balanced trees read from left to right

`Grammar.sequence` and `Grammar.choice` put their grammars in balanced trees, and `Value.ungroup` takes a tuple apart
along splits of its own.  None of this shows: a sequence is the loop that runs its grammars in turn
(`Grammar.sequence_eq_inTurn`), and a choice is the loop that tries them in order (`Grammar.choice_eq_firstOf`).  A tree
and a loop agree because both loops can be split anywhere, so also where the tree is split (`Grammar.inTurn_append`,
`Grammar.firstOf_append`); at the leaves they agree because a failed grammar gives back its input.

Main statement: `sequence_and_choice_in_order`, when a sequence and a choice come to which outcome.
-/
namespace Parsing

section Outcomes

variable {ι σ κ α : Type}

theorem Outcome.eq_of_map_eq {o stopped : Outcome κ ι α} {f : α → α} (h : ∀ value rest, stopped ≠ .success value rest)
    (heq : o.map f = stopped) : o = stopped := by
  cases o with
  | success value rest => exact absurd heq.symm (h _ _)
  | failure _ _ | aborted _ => exact heq

theorem Outcome.map_eq_failure {β : Type} {o : Outcome κ ι α} {f : α → β} {fault : Fault κ ι} {input : ι} :
    o.map f = .failure fault input ↔ o = .failure fault input := by
  cases o <;> simp

theorem Outcome.map_eq_aborted {β : Type} {o : Outcome κ ι α} {f : α → β} {why : Abort} :
    o.map f = .aborted why ↔ o = .aborted why := by
  cases o <;> simp

theorem Outcome.recover_recover (o : Outcome κ ι α) (f g : ι → Outcome κ ι α) :
    (o.recover f).recover g = o.recover fun x => (f x).recover g := by
  cases o <;> rfl

theorem Parser.recover_of_not_fails {p : Parser ι κ α} {x : ι} (h : ¬ p.Fails x) (next : ι → Outcome κ ι α) :
    (p x).recover next = p x := by
  cases ho : p x with
  | failure fault input => exact absurd ⟨fault, input, ho⟩ h
  | success _ _ | aborted _ => rfl

end Outcomes

namespace Grammar

variable {ι σ κ ζ : Type} [DecidableEq σ] [Symbol σ] [Cursor ι σ] [Cause κ] [Seed ζ κ]
variable (call : String → Parser ι κ (Value (Stretch ι)))

/-! ## Grammars in turn -/

/-- Matches of grammars in turn, each begun where the one before ended. -/
inductive InTurn : List (Grammar σ ζ) → ι → List (Value (Stretch ι)) → ι → Prop
  | nil (x : ι) : InTurn [] x [] x
  | cons {p : Grammar σ ζ} {ps : List (Grammar σ ζ)} {x y rest : ι} {value : Value (Stretch ι)}
      {values : List (Value (Stretch ι))} : p.run call x = .success value y → InTurn ps y values rest →
        InTurn (p :: ps) x (value :: values) rest

/-- Runs grammars in turn and collects their values.  The first failure fails the loop that began at `start`. -/
def inTurn (start : ι) : List (Grammar σ ζ) → ι → Outcome κ ι (List (Value (Stretch ι)))
  | [], x => .success [] x
  | p :: ps, x => ((p.run call x).restoring start).andThen fun value y => (inTurn start ps y).map (value :: ·)

/-- **The loop can be split anywhere.** -/
theorem inTurn_append (start : ι) (qs : List (Grammar σ ζ)) : ∀ (ps : List (Grammar σ ζ)) (x : ι),
    inTurn call start (ps ++ qs) x =
      (inTurn call start ps x).andThen fun values y => (inTurn call start qs y).map (values ++ ·)
  | [], x => (Outcome.map_id _).symm
  | p :: ps, x => by
    rw [List.cons_append, inTurn, inTurn, Outcome.andThen_andThen]
    congr 1
    funext value y
    rw [inTurn_append start qs ps y, Outcome.map_andThen, Outcome.andThen_map]
    simp only [Outcome.map_map, List.cons_append]

/-- The loop that began elsewhere differs only in what it gives back. -/
theorem inTurn_restoring (start input : ι) : ∀ (ps : List (Grammar σ ζ)) (x : ι),
    (inTurn call start ps x).restoring input = inTurn call input ps x
  | [], _ => rfl
  | p :: ps, x => by
    rw [inTurn, inTurn]
    cases p.run call x with
    | success value y =>
      change ((inTurn call start ps y).map (value :: ·)).restoring input = (inTurn call input ps y).map (value :: ·)
      rw [Outcome.restoring_map, inTurn_restoring start input ps y]
    | failure fault given => rfl
    | aborted why => rfl

theorem inTurn_eq_success {start rest : ι} : ∀ {ps : List (Grammar σ ζ)} {x : ι} {values : List (Value (Stretch ι))},
    inTurn call start ps x = .success values rest ↔ InTurn call ps x values rest
  | [], _, _ => by
    constructor
    · rintro ⟨⟩
      exact .nil _
    · rintro ⟨⟩
      rfl
  | p :: ps, _, _ => by
    rw [inTurn, Outcome.andThen_eq_success]
    constructor
    · rintro ⟨value, y, hp, hps⟩
      obtain ⟨more, hmore, rfl⟩ := Outcome.map_eq_success.1 hps
      exact .cons (Outcome.restoring_eq_success.1 hp) (inTurn_eq_success.1 hmore)
    · rintro (_ | ⟨hp, hps⟩)
      exact ⟨_, _, Outcome.restoring_eq_success.2 hp, Outcome.map_eq_success.2 ⟨_, inTurn_eq_success.2 hps, rfl⟩⟩

/-- **The loop stops at the first grammar that does not match**, with what that one comes to. -/
theorem inTurn_eq_stopped {start : ι} (stopped : Outcome κ ι (List (Value (Stretch ι))))
    (h : ∀ values rest, stopped ≠ .success values rest) {ps : List (Grammar σ ζ)} {x : ι} :
    inTurn call start ps x = stopped ↔
      ∃ before p after values y, ps = before ++ p :: after ∧ InTurn call before x values y ∧
        inTurn call start [p] y = stopped := by
  constructor
  · induction ps generalizing x with
    | nil => exact fun heq => absurd heq.symm (h _ _)
    | cons q qs ih =>
      intro heq
      cases ho : q.run call x with
      | success value y =>
        rw [inTurn, ho] at heq
        obtain ⟨before, p, after, values, z, rfl, hbefore, hp⟩ := ih (Outcome.eq_of_map_eq h heq)
        exact ⟨q :: before, p, after, value :: values, z, rfl, .cons ho hbefore, hp⟩
      | failure _ _ | aborted _ =>
        -- What is behind a grammar that does not match is not looked at.
        refine ⟨[], q, qs, [], x, rfl, .nil x, ?_⟩
        rw [← heq, inTurn, inTurn, ho]
        rfl
  · rintro ⟨before, p, after, values, y, rfl, hbefore, hp⟩
    rw [inTurn_append, (inTurn_eq_success call).2 hbefore, Outcome.andThen_success, ← List.singleton_append,
      inTurn_append, hp]
    cases stopped with
    | success values rest => exact absurd rfl (h values rest)
    | failure _ _ | aborted _ => rfl

theorem inTurn_singleton_eq_failure {start input y : ι} {fault : Fault κ ι} {p : Grammar σ ζ} :
    inTurn call start [p] y = .failure fault input ↔ input = start ∧ ∃ given, p.run call y = .failure fault given := by
  rw [inTurn]
  cases p.run call y with
  | success value rest => simp [inTurn]
  | failure f given => simp [eq_comm, and_comm]
  | aborted why => simp

theorem inTurn_singleton_eq_aborted {start y : ι} {why : Abort} {p : Grammar σ ζ} :
    inTurn call start [p] y = .aborted why ↔ p.run call y = .aborted why := by
  rw [inTurn]
  cases p.run call y with
  | success value rest => simp [inTurn]
  | failure f given => simp
  | aborted why => simp

theorem inTurn_eq_failure {start input x : ι} {fault : Fault κ ι} {ps : List (Grammar σ ζ)} :
    inTurn call start ps x = .failure fault input ↔
      input = start ∧ ∃ before p after values y given, ps = before ++ p :: after ∧ InTurn call before x values y ∧
        p.run call y = .failure fault given := by
  rw [inTurn_eq_stopped call (.failure fault input) fun _ _ => nofun]
  simp only [inTurn_singleton_eq_failure]
  constructor
  · rintro ⟨before, p, after, values, y, heq, hbefore, hinput, given, hp⟩
    exact ⟨hinput, before, p, after, values, y, given, heq, hbefore, hp⟩
  · rintro ⟨hinput, before, p, after, values, y, given, heq, hbefore, hp⟩
    exact ⟨before, p, after, values, y, heq, hbefore, hinput, given, hp⟩

theorem inTurn_eq_aborted {start x : ι} {why : Abort} {ps : List (Grammar σ ζ)} :
    inTurn call start ps x = .aborted why ↔
      ∃ before p after values y, ps = before ++ p :: after ∧ InTurn call before x values y ∧
        p.run call y = .aborted why := by
  rw [inTurn_eq_stopped call (.aborted why) fun _ _ => nofun]
  simp only [inTurn_singleton_eq_aborted]

variable {call}

/-- **A pair of trees that are loops is the loop over both**, their values taken apart one after the other. -/
theorem map_run_andThen {first second : Grammar σ ζ} {ps qs : List (Grammar σ ζ)}
    {open₁ open₂ openBoth : Value (Stretch ι) → List (Value (Stretch ι))}
    (h₁ : ∀ x, (first.run call x).map open₁ = inTurn call x ps x)
    (h₂ : ∀ x, (second.run call x).map open₂ = inTurn call x qs x)
    (hopen : ∀ v w, openBoth (.tuple [v, w]) = open₁ v ++ open₂ w) (x : ι) :
    ((andThen first second).run call x).map openBoth = inTurn call x (ps ++ qs) x :=
  calc ((andThen first second).run call x).map openBoth
    _ = (first.run call x).andThen fun v y =>
          ((second.run call y).restoring x).map fun w => openBoth (.tuple [v, w]) := by
        rw [run]
        change ((((first.run call x).andThen fun v y => ((second.run call y).restoring x).map (v, ·)).map _).map _) = _
        rw [Outcome.map_map, Outcome.map_andThen]
        simp only [Outcome.map_map]
    _ = (first.run call x).andThen fun v y => (((second.run call y).map open₂).restoring x).map (open₁ v ++ ·) := by
        simp only [hopen, Outcome.restoring_map, Outcome.map_map]
    _ = (inTurn call x ps x).andThen fun values y => (inTurn call x qs y).map (values ++ ·) := by
        rw [← h₁, Outcome.andThen_map]
        simp only [h₂, inTurn_restoring]
    _ = inTurn call x (ps ++ qs) x := (inTurn_append call x qs ps x).symm

/-- **A balanced tree of pairs is the loop**, its pairs taken apart along the same splits. -/
theorem map_ungroup_run_balance (hcall : ∀ name, (call name).Composed Value.parts) {ps : List (Grammar σ ζ)}
    (hps : ps ≠ []) (x : ι) :
    ((balance andThen (yielding .unit) ps).run call x).map (Value.ungroup ps.length) = inTurn call x ps x := by
  induction ps using balance.induct generalizing x with
  | case1 => exact absurd rfl hps
  | case2 p =>
    rw [balance, inTurn, ((composed_run hcall p).orderly x).restoring_eq]
    congr 1
    funext value
    rw [List.length_singleton, Value.ungroup]
  | case3 p q more ih₁ ih₂ =>
    have hlength : (p :: q :: more).length = more.length + 2 := rfl
    have hfirst : (p :: q :: more).take ((p :: q :: more).length / 2) ≠ [] := by simp
    have hsecond : (p :: q :: more).drop ((p :: q :: more).length / 2) ≠ [] := by
      rw [Ne, List.drop_eq_nil_iff, hlength]
      omega
    rw [balance, map_run_andThen (ih₁ hfirst) (ih₂ hsecond), List.take_append_drop]
    intro v w
    rw [List.length_take_of_le (Nat.div_le_self _ 2), List.length_drop, hlength, Value.ungroup]

/-- **A sequence is the loop that runs its grammars in turn.** -/
theorem sequence_eq_inTurn (hcall : ∀ name, (call name).Composed Value.parts) {ps : List (Grammar σ ζ)} (hps : ps ≠ [])
    (x : ι) : (sequence ps).run call x = (inTurn call x ps x).map .tuple := by
  rw [← map_ungroup_run_balance hcall hps, Outcome.map_map]
  rfl

/-! ## Grammars in order -/

variable (call) in
/-- Tries grammars in order at one cursor, up to the first that does not fail. -/
def firstOf (x : ι) : Grammar σ ζ → List (Grammar σ ζ) → Outcome κ ι (Value (Stretch ι))
  | p, [] => p.run call x
  | p, q :: qs => (p.run call x).recover fun _ => firstOf x q qs

/-- **This loop can be split anywhere too.** -/
theorem firstOf_append (x : ι) (q : Grammar σ ζ) (qs : List (Grammar σ ζ)) : ∀ (p : Grammar σ ζ) (ps : List _),
    firstOf call x p (ps ++ q :: qs) = (firstOf call x p ps).recover fun _ => firstOf call x q qs
  | p, [] => rfl
  | p, r :: rs => by
    rw [List.cons_append, firstOf, firstOf, firstOf_append x q qs r rs, Outcome.recover_recover]

/-- **A balanced tree of alternatives is the loop**: where one half fails, the other starts from the same cursor. -/
theorem run_balance_orElse (hcall : ∀ name, (call name).Composed Value.parts) (x : ι) {p : Grammar σ ζ}
    {ps qs : List (Grammar σ ζ)} (hqs : qs = p :: ps) :
    (balance orElse (yielding .unit) qs).run call x = firstOf call x p ps := by
  induction qs using balance.induct generalizing p ps with
  | case1 => cases hqs
  | case2 q =>
    cases hqs
    rw [balance, firstOf]
  | case3 q r more ih₁ ih₂ =>
    cases hqs
    have hhalf : (q :: r :: more).length / 2 = more.length / 2 + 1 := Nat.add_div_right more.length Nat.two_pos
    rw [hhalf] at ih₁ ih₂
    have hsecond : (r :: more).drop (more.length / 2) ≠ [] := by
      rw [Ne, List.drop_eq_nil_iff, List.length_cons]
      omega
    -- Neither half is empty, so the second one too has a first grammar to try.
    obtain ⟨c, cs, hc⟩ := List.exists_cons_of_ne_nil hsecond
    have hsplit : r :: more = (r :: more).take (more.length / 2) ++ c :: cs := by rw [← hc, List.take_append_drop]
    rw [balance, hhalf, run]
    calc (((balance orElse _ _).run call).orElse ((balance orElse _ _).run call)) x
      _ = ((balance orElse _ _).run call x).recover fun _ => (balance orElse _ _).run call x :=
          ((composed_run hcall _).orderly x).recover_eq _
      _ = (firstOf call x q ((r :: more).take (more.length / 2))).recover fun _ => firstOf call x c cs := by
          rw [ih₁ (List.take_succ_cons ..), ih₂ hc]
      _ = firstOf call x q (r :: more) := by rw [← firstOf_append, ← hsplit]

theorem choice_eq_firstOf (hcall : ∀ name, (call name).Composed Value.parts) (p : Grammar σ ζ) (ps : List (Grammar σ ζ))
    (x : ι) : (choice (p :: ps)).run call x = firstOf call x p ps := run_balance_orElse hcall x rfl

theorem firstOf_eq_iff {x : ι} {o : Outcome κ ι (Value (Stretch ι))} {p : Grammar σ ζ} {ps : List (Grammar σ ζ)} :
    firstOf call x p ps = o ↔
      ∃ before q after, p :: ps = before ++ q :: after ∧ (∀ r ∈ before, (r.run call).Fails x) ∧ q.run call x = o ∧
        ((q.run call).Fails x → after = []) := by
  induction ps generalizing p with
  | nil =>
    constructor
    · exact fun h => ⟨[], p, [], rfl, fun _ hr => absurd hr List.not_mem_nil, h, fun _ => rfl⟩
    · rintro ⟨before, q, after, heq, -, hq, -⟩
      cases before with
      | nil => cases heq; exact hq
      | cons b bs => simp at heq
  | cons r rs ih =>
    rw [firstOf]
    -- Only a failure hands over to the rest of the list; anything else is the outcome.
    by_cases hp : (p.run call).Fails x
    · obtain ⟨fault, input, hfailure⟩ := id hp
      rw [hfailure, Outcome.recover, ih]
      constructor
      · rintro ⟨before, q, after, heq, hbefore, hq⟩
        exact ⟨p :: before, q, after, congrArg (p :: ·) heq, List.forall_mem_cons.2 ⟨hp, hbefore⟩, hq⟩
      · rintro ⟨before, q, after, heq, hbefore, hq, hafter⟩
        cases before with
        | nil => cases heq; exact absurd (hafter hp) (List.cons_ne_nil _ _)
        | cons b bs =>
          obtain ⟨rfl, hmore⟩ := List.cons.inj heq
          exact ⟨bs, q, after, hmore, (List.forall_mem_cons.1 hbefore).2, hq, hafter⟩
    · rw [Parser.recover_of_not_fails hp]
      constructor
      · exact fun h => ⟨[], p, r :: rs, rfl, fun _ hr => absurd hr List.not_mem_nil, h, fun hq => absurd hq hp⟩
      · rintro ⟨before, q, after, heq, hbefore, hq, -⟩
        cases before with
        | nil => cases heq; exact hq
        | cons b bs =>
          obtain ⟨rfl, -⟩ := List.cons.inj heq
          exact absurd (hbefore p List.mem_cons_self) hp

end Grammar

/-- **A sequence matches from left to right, and a choice is ordered.**  A sequence yields the flat tuple of the values
of its grammars, each run where the one before stopped; where it fails, the fault is that of the first one that fails,
and the cursor given back is its own.  A choice comes to what the first grammar that does not fail comes to at its own
cursor, and where all fail, to what the last one comes to. -/
theorem sequence_and_choice_in_order {ι σ κ ζ : Type} [DecidableEq σ] [Symbol σ] [Cursor ι σ] [Cause κ] [Seed ζ κ]
    {call : String → Parser ι κ (Value (Stretch ι))} (hcall : ∀ name, (call name).Composed Value.parts)
    {ps : List (Grammar σ ζ)} (hps : ps ≠ []) (x : ι) :
    ((∀ v rest, (Grammar.sequence ps).run call x = .success v rest ↔
        ∃ values, v = .tuple values ∧ Grammar.InTurn call ps x values rest) ∧
      (∀ fault input, (Grammar.sequence ps).run call x = .failure fault input ↔
        input = x ∧ ∃ before p after values y given, ps = before ++ p :: after ∧
          Grammar.InTurn call before x values y ∧ p.run call y = .failure fault given) ∧
      ∀ why, (Grammar.sequence ps).run call x = .aborted why ↔
        ∃ before p after values y, ps = before ++ p :: after ∧
          Grammar.InTurn call before x values y ∧ p.run call y = .aborted why) ∧
    ∀ o, (Grammar.choice ps).run call x = o ↔
      ∃ before p after, ps = before ++ p :: after ∧ (∀ q ∈ before, (q.run call).Fails x) ∧ p.run call x = o ∧
        ((p.run call).Fails x → after = []) := by
  refine ⟨⟨fun v rest => ?_, fun fault input => ?_, fun why => ?_⟩, ?_⟩
  · rw [Grammar.sequence_eq_inTurn hcall hps, Outcome.map_eq_success]
    simp only [Grammar.inTurn_eq_success, eq_comm, and_comm]
  · rw [Grammar.sequence_eq_inTurn hcall hps, Outcome.map_eq_failure, Grammar.inTurn_eq_failure]
  · rw [Grammar.sequence_eq_inTurn hcall hps, Outcome.map_eq_aborted, Grammar.inTurn_eq_aborted]
  · obtain ⟨p, more, rfl⟩ := List.exists_cons_of_ne_nil hps
    intro o
    rw [Grammar.choice_eq_firstOf hcall, Grammar.firstOf_eq_iff]

/-- Five letters in turn where the fourth is another one, and one of the five where it is the third. -/
theorem sequence_and_choice_in_order_of_letters :
    let letters : List (Grammar Char TextCause) := ['a', 'b', 'c', 'd', 'e'].map Grammar.character
    let call : String → Parser Text TextCause (Value (Stretch Text)) := Rules.call ([] : Rules Char TextCause) 0
    letters ≠ [] ∧
      (Grammar.sequence letters).run call (Text.ofString "abcfe") =
        .failure ⟨.expected 'd', ⟨3, ['f', 'e']⟩⟩ (Text.ofString "abcfe") ∧
      (Grammar.sequence letters).run call (Text.ofString "abcde") =
        .success (.tuple (['a', 'b', 'c', 'd', 'e'].map .char)) ⟨5, []⟩ ∧
      (Grammar.choice letters).run call (Text.ofString "cd") = .success (.char 'c') ⟨1, ['d']⟩ := by
  intro letters call
  have hcall : ∀ name, (call name).Composed Value.parts := Grammar.composed_call _ 0
  have hletters : letters ≠ [] := List.cons_ne_nil _ _
  have h (x : Text) := sequence_and_choice_in_order hcall hletters x
  refine ⟨hletters, ((h _).1.2.1 _ _).2 ?_, ((h _).1.1 _ _).2 ?_, ((h _).2 _).2 ?_⟩
  · exact ⟨rfl, [_, _, _], _, [_], _, _, _, rfl, .cons rfl (.cons rfl (.cons rfl (.nil _))), rfl⟩
  · exact ⟨_, rfl, .cons rfl (.cons rfl (.cons rfl (.cons rfl (.cons rfl (.nil _)))))⟩
  · refine ⟨[.character 'a', .character 'b'], .character 'c', _, rfl, ?_, rfl, ?_⟩
    · exact List.forall_mem_cons.2 ⟨⟨_, _, rfl⟩, List.forall_mem_singleton.2 ⟨_, _, rfl⟩⟩
    · rintro ⟨_, _, ⟨⟩⟩

end Parsing
