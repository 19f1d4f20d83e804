import Mathlib.Logic.Relation
import Mathlib.Order.WellFounded
import Parsing.Proofs.Calculator.Grounds
import Parsing.Proofs.Coordinates
import Parsing.Proofs.Settling
/-!
# Recursion — the calculator always answers

The parsers of the kinds call each other (`Kind.body`): a chain its members, an operand itself behind a minus or else a
primary, a primary a sum behind a parenthesis.  `Calls` says which calls a run makes, and where.  They are all the calls
there are: the outcome depends on nothing else of the parsers called (`Kind.body_congr`).  Every call leaves less of the
line or, with as much left, is one to a lower kind, so calls do not go on for ever (`Calls.reaches`).  Hence there is
just one family of parsers that satisfies the recursion, and the calculator's parsers, which have so many levels as there
are characters left, are that family (`Kind.parse_eq_body`, `Kind.eq_parse_of_eq_body`).

A run of them succeeds or fails (`Kind.parse_settles`): loops and choices give up only with a parser in them, and by
induction on the calls none does.

Main statement: `calculator_always_answers`.
-/
namespace Parsing.Calculator

open Cursor (Distinct Reaches left symbols)
open Decimal (isDigit nat)
open Parsing.Parser (blanks satisfying)
open Unicode (isWhiteSpace)

variable {ι : Type} [Cursor ι Char]

/-! ## The recursion -/

/-- The parsers of the kinds, each put together from parsers of the kinds it calls. -/
def Kind.body (call : Kind → Parser ι TextCause Int) : Kind → Parser ι TextCause Int
  | .primary => atom (call (.chain .sum))
  | .unary => (((token '-').skipThen (call .unary)).tryMap negate).orElse (call .primary)
  | .chain tier => Calculator.chain tier.operator (call tier.member)

/-- The parser of a kind as the calculator runs it: with so many levels as there are characters left. -/
def Kind.parse (kind : Kind) : Parser ι TextCause Int := fun x => kind.parser (left x) x

/-- To run the first kind at the first cursor is to run the second kind at the second one, among other things. -/
inductive Calls (call : Kind → Parser ι TextCause Int) : Kind × ι → Kind × ι → Prop
  /-- A primary that is no number goes on behind a parenthesis. -/
  | inner {x y : ι} {c : Char} (hnumber : (number : Parser ι TextCause Int).Fails x)
      (hopen : token '(' x = .success c y) : Calls call (.primary, x) (.chain .sum, y)
  /-- An operand is tried behind a minus. -/
  | opposite {x y : ι} {c : Char} (hminus : token '-' x = .success c y) : Calls call (.unary, x) (.unary, y)
  /-- An operand that is none behind a minus is a primary. -/
  | bare {x : ι} (h : (((token '-').skipThen (call .unary)).tryMap negate).Fails x) :
      Calls call (.unary, x) (.primary, x)
  | first (tier : Tier) (x : ι) : Calls call (.chain tier, x) (tier.member, x)
  /-- A later member comes behind the first one, some links and one more operator. -/
  | later {tier : Tier} {x y z w : ι} {m : Int} {pairs : List (Operator × Int)} {op : Operator}
      (hfirst : call tier.member x = .success m y) (hrow : (tier.operator.andThen (call tier.member)).Row y pairs z)
      (hop : tier.operator z = .success op w) : Calls call (.chain tier, x) (tier.member, w)

/-- The parsers are what the recursion comes to, and it comes to an end. -/
structure Kind.Solves (call : Kind → Parser ι TextCause Int) : Prop where
  /-- A kind does what its body does with them, and with all parsers that do the same where the kind calls them. -/
  body_eq : ∀ (kind : Kind) (x : ι) (other : Kind → Parser ι TextCause Int),
    (∀ callee y, Calls call (kind, x) (callee, y) → other callee y = call callee y) → kind.body other x = call kind x
  /-- No other parsers satisfy the recursion. -/
  eq_of_eq_body : ∀ other : Kind → Parser ι TextCause Int, (∀ kind x, other kind x = kind.body other x) → other = call
  /-- There are no calls on and on. -/
  wellFounded : WellFounded fun b a => Calls call a b
  /-- Between two calls of one kind the input gets shorter. -/
  left_lt : ∀ (kind : Kind) (x y : ι), Relation.TransGen (Calls call) (kind, x) (kind, y) →
    Reaches x y ∧ left y < left x

/-- No step of a run of the parsers is undefined. -/
structure Kind.Safe (call : Kind → Parser ι TextCause Int) : Prop where
  /-- What is read as a number are digits, so that none is less than a zero. -/
  digits : ∀ (x : ι) (found : Stretch ι) (rest : ι), Calculator.digits x = .success found rest →
    ∀ c ∈ found.symbols, '0'.toNat ≤ c.toNat ∧ c.toNat ≤ '9'.toNat
  /-- Numbers are exact or out of range. -/
  number : ∀ (cs : List Char) (v : Int), readDigits cs = .ok v ↔ inRange (nat cs) = some v
  /-- All values are signed 64-bit integers. -/
  fits : ∀ (kind : Kind) (x : ι) (v : Int) (rest : ι), call kind x = .success v rest → Fits v
  /-- Opposites are exact or out of range. -/
  opposite : ∀ n v : Int, negate n = .ok v ↔ inRange (-n) = some v
  /-- Behind its first member and some links, an operator of a chain is applied to signed 64-bit integers, and has its
  exact result or is refused. -/
  operator : ∀ (tier : Tier) (x y z : ι) (m n value : Int) (done : List (Operator × Int)) (op : Operator),
    call tier.member x = .success m y → (tier.operator.andThen (call tier.member)).Row y (done ++ [(op, n)]) z →
      evaluateChain m done = .ok value → Fits value ∧ Fits n ∧
        ((∃ v, op.apply value n = .ok v ∧ op.result? value n = some v) ∨
          ∃ reason, op.apply value n = .error reason ∧ op.Refuses value n reason)
  /-- What is repeated takes a character at least. -/
  blank_progresses : (satisfying isWhiteSpace : Parser ι TextCause Char).Progresses
  digit_progresses : (satisfying isDigit : Parser ι TextCause Char).Progresses
  link_progresses : ∀ tier : Tier, (tier.operator.andThen (call tier.member)).Progresses

/-- The order of kinds among calls that leave as much. -/
def Kind.rank : Kind → Nat
  | .primary => 0
  | .unary => 1
  | .chain .product => 2
  | .chain .sum => 3

/-- What goes down with each call. -/
def weight (a : Kind × ι) : Nat := 4 * left a.2 + a.1.rank

theorem Kind.rank_lt (kind : Kind) : kind.rank < 4 := by
  cases kind with
  | chain tier => cases tier <;> decide
  | _ => decide

theorem Tier.rank_member_lt (tier : Tier) : tier.member.rank < (Kind.chain tier).rank := by
  cases tier <;> decide

theorem weight_lt_of_left_lt {a b : Kind × ι} (h : left b.2 < left a.2) : weight b < weight a := by
  have hrank := b.1.rank_lt
  unfold weight
  omega

variable {call call' : Kind → Parser ι TextCause Int} {kind : Kind} {x : ι}

/-- **The parsers called matter only where they are called.** -/
theorem Kind.body_congr (ho : ∀ kind, (call kind).Orderly Parts.none)
    (h : ∀ callee y, Calls call (kind, x) (callee, y) → call callee y = call' callee y) :
    kind.body call x = kind.body call' x := by
  cases kind with
  | primary =>
    refine Parser.orElse_congr composed_number.orderly rfl fun hnumber => Parser.thenSkip_congr ?_
    exact Parser.skipThen_congr fun c y hopen => h _ y (.inner hnumber hopen)
  | unary =>
    refine Parser.orElse_congr (orderly_opposite (ho .unary)) (Parser.tryMap_congr ?_) fun hfails => h _ x (.bare hfails)
    exact Parser.skipThen_congr fun c y hminus => h _ y (.opposite hminus)
  | chain tier =>
    refine Parser.tryMap_congr (Parser.andThen_congr (h _ x (.first tier x)) fun m y hfirst => ?_)
    refine Parser.repeated_congr fun pairs z hrow => Parser.andThen_congr rfl fun op w hop => ?_
    exact h _ w (.later hfirst hrow hop)

variable [Distinct ι]

/-! ## Calls end -/

/-- **A call leads on, and leaves less or goes to a lower kind.** -/
theorem Calls.reaches (ho : ∀ kind, (call kind).Orderly Parts.none) {a b : Kind × ι} (h : Calls call a b) :
    Reaches a.2 b.2 ∧ weight b < weight a := by
  cases h with
  | inner _ hopen =>
    exact ⟨(composed_token '(').orderly.advances hopen, weight_lt_of_left_lt (progresses_token hopen)⟩
  | opposite hminus =>
    exact ⟨(composed_token '-').orderly.advances hminus, weight_lt_of_left_lt (progresses_token hminus)⟩
  | bare _ => exact ⟨Reaches.refl _, Nat.lt_succ_self _⟩
  | first tier x => exact ⟨Reaches.refl x, Nat.add_lt_add_left tier.rank_member_lt _⟩
  | @later tier x y z w m pairs op hfirst hrow hop =>
    have hz : Reaches x z := (ho tier.member).advances hfirst |>.trans
      (hrow.reaches (tier.orderly_operator.andThen (ho tier.member)))
    have hlt := tier.progresses_operator hop
    exact ⟨hz.trans (tier.orderly_operator.advances hop), weight_lt_of_left_lt (Nat.lt_of_lt_of_le hlt hz.left_le)⟩

omit [Distinct ι] in
theorem Kind.orderly_parse (kind : Kind) : (kind.parse : Parser ι TextCause Int).Orderly Parts.none :=
  fun x => (kind.composed_parser (left x)).orderly x

/-- **Calls do not go on for ever.** -/
theorem wellFounded_calls : WellFounded fun b a : Kind × ι => Calls Kind.parse a b :=
  Subrelation.wf (fun h => (h.reaches Kind.orderly_parse).2) (measure weight).wf

/-- What holds of a kind at a cursor once it holds of all that is called there holds everywhere. -/
@[elab_as_elim]
theorem Calls.induction {motive : Kind → ι → Prop}
    (step : ∀ kind x, (∀ callee y, Calls Kind.parse (kind, x) (callee, y) → motive callee y) → motive kind x)
    (kind : Kind) (x : ι) : motive kind x :=
  wellFounded_calls.induction (C := fun a => motive a.1 a.2) (kind, x) fun a ih =>
    step a.1 a.2 fun callee y hcall => ih (callee, y) hcall

theorem reaches_of_transGen {a b : Kind × ι} (h : Relation.TransGen (Calls Kind.parse) a b) :
    Reaches a.2 b.2 ∧ weight b < weight a := by
  induction h with
  | single h => exact h.reaches Kind.orderly_parse
  | tail _ h ih =>
    obtain ⟨hreaches, hlt⟩ := h.reaches Kind.orderly_parse
    exact ⟨ih.1.trans hreaches, Nat.lt_trans hlt ih.2⟩

/-- **Between two calls of one kind the input gets shorter.** -/
theorem left_lt_of_transGen {kind : Kind} {x y : ι} (h : Relation.TransGen (Calls Kind.parse) (kind, x) (kind, y)) :
    Reaches x y ∧ left y < left x := by
  obtain ⟨hreaches, hlt⟩ := reaches_of_transGen h
  refine ⟨hreaches, ?_⟩
  simp only [weight] at hlt
  omega

/-! ## The calculator's parsers satisfy the recursion -/

/-- **With as many levels as there are characters left, or more, a parser does what the recursion says.** -/
theorem Kind.parser_eq_body (kind : Kind) (x : ι) : ∀ levels, left x ≤ levels →
    kind.parser levels x = kind.body Kind.parse x := by
  induction kind, x using Calls.induction with
  | step kind x ih =>
    -- What is called does not depend on the levels either, as long as there are enough.
    have hstable {callee : Kind} {y : ι} (hcall : Calls Kind.parse (kind, x) (callee, y)) {levels : Nat}
        (hlevels : left y ≤ levels) : callee.parse y = callee.parser levels y :=
      (ih callee y hcall _ (Nat.le_refl _)).trans (ih callee y hcall levels hlevels).symm
    intro levels hlevels
    cases kind with
    | primary =>
      have hbody : Kind.primary.body Kind.parse x = Kind.primary.body (fun _ => expression levels) x := by
        refine Kind.body_congr Kind.orderly_parse fun callee y hcall => ?_
        cases hcall with
        | inner hnumber hopen =>
          have hlt := progresses_token hopen
          obtain ⟨fewer, rfl⟩ := Nat.exists_eq_succ_of_ne_zero (show levels ≠ 0 by omega)
          exact hstable (.inner hnumber hopen) (by omega)
      exact hbody.symm
    | unary =>
      let call : Kind → Parser ι TextCause Int
        | .unary => operand levels
        | callee => callee.parser levels
      have hbody : Kind.unary.body Kind.parse x = Kind.unary.body call x := by
        refine Kind.body_congr Kind.orderly_parse fun callee y hcall => ?_
        cases hcall with
        | opposite hminus =>
          have hlt := progresses_token hminus
          obtain ⟨fewer, rfl⟩ := Nat.exists_eq_succ_of_ne_zero (show levels ≠ 0 by omega)
          exact hstable (.opposite hminus) (by omega)
        | bare hfails => exact hstable (.bare hfails) hlevels
      exact hbody.symm
    | chain tier =>
      have hbody : (Kind.chain tier).body Kind.parse x = (Kind.chain tier).body (Kind.parser levels) x := by
        refine Kind.body_congr Kind.orderly_parse fun callee y hcall => hstable hcall ?_
        exact Nat.le_trans (hcall.reaches Kind.orderly_parse).1.left_le hlevels
      rw [Kind.parser_chain]
      exact hbody.symm

theorem Kind.parse_eq_body (kind : Kind) (x : ι) : kind.parse x = kind.body Kind.parse x :=
  kind.parser_eq_body x (left x) (Nat.le_refl _)

/-- **Nothing but what is called there bears on what a parser comes to.** -/
theorem Kind.body_eq_parse {call : Kind → Parser ι TextCause Int} {kind : Kind} {x : ι}
    (h : ∀ callee y, Calls Kind.parse (kind, x) (callee, y) → call callee y = callee.parse y) :
    kind.body call x = kind.parse x := by
  rw [kind.parse_eq_body]
  exact (Kind.body_congr Kind.orderly_parse fun callee y hcall => (h callee y hcall).symm).symm

/-- **No other parsers satisfy the recursion.** -/
theorem Kind.eq_parse_of_eq_body {call : Kind → Parser ι TextCause Int}
    (h : ∀ kind x, call kind x = kind.body call x) : call = Kind.parse := by
  funext kind x
  induction kind, x using Calls.induction with
  | step kind x ih =>
    rw [h]
    exact Kind.body_eq_parse ih

/-- **The calculator's parsers are what the recursion comes to.** -/
theorem Kind.solves_parse : Kind.Solves (Kind.parse : Kind → Parser ι TextCause Int) where
  body_eq _ _ _ := Kind.body_eq_parse
  eq_of_eq_body _ := Kind.eq_parse_of_eq_body
  wellFounded := wellFounded_calls
  left_lt _ _ _ := left_lt_of_transGen

/-! ## Every run settles -/

theorem token_settles (c : Char) (x : ι) : (token c x : Outcome TextCause ι Char).Settles := by
  by_cases h : ahead (symbols x) = some c
  · obtain ⟨rest, hrest⟩ := exists_token_success h
    rw [hrest]
    exact Outcome.settles_success c rest
  · rw [token_eq_failure h]
    exact Outcome.settles_failure _ x

theorem operator_settles (tier : Tier) (x : ι) : (tier.operator x : Outcome TextCause ι Operator).Settles := by
  have hsign (op : Operator) : (op.parser x : Outcome TextCause ι Operator).Settles := (token_settles op.sign x).map _
  cases tier with
  | product =>
    refine Parser.orElse_settles (Operator.orderly .times) (hsign .times) fun _ => ?_
    exact Parser.orElse_settles (Operator.orderly .divide) (hsign .divide) fun _ => hsign .remainder
  | sum => exact Parser.orElse_settles (Operator.orderly .plus) (hsign .plus) fun _ => hsign .minus

theorem number_settles (x : ι) : (number x : Outcome TextCause ι Int).Settles := by
  refine Parser.tryMap_settles ?_ _
  rw [Parser.skipThen, blanks_eq, Outcome.andThen_success, digits_eq_word, Parser.word_eq]
  split
  · exact Outcome.settles_failure _ x
  · exact Outcome.settles_success _ _

/-- **Every kind succeeds or fails at every cursor**, as all that it calls there does. -/
theorem Kind.parse_settles (kind : Kind) (x : ι) : (kind.parse x).Settles := by
  induction kind, x using Calls.induction with
  | step kind x ih =>
    rw [kind.parse_eq_body]
    cases kind with
    | primary =>
      refine Parser.orElse_settles composed_number.orderly (number_settles x) fun hnumber => ?_
      refine Outcome.Settles.andThen ?_ fun _ y _ => ((token_settles ')' y).restoring x).map _
      exact (token_settles '(' x).andThen fun _ y hopen => (ih _ y (.inner hnumber hopen)).restoring x
    | unary =>
      refine Parser.orElse_settles (orderly_opposite (Kind.orderly_parse .unary)) (Parser.tryMap_settles ?_ _)
        fun hfails => ih _ x (.bare hfails)
      exact (token_settles '-' x).andThen fun _ y hminus => (ih _ y (.opposite hminus)).restoring x
    | chain tier =>
      have hlink := tier.orderly_operator.andThen (Kind.orderly_parse (ι := ι) tier.member)
      refine Parser.tryMap_settles ((ih _ x (.first tier x)).andThen fun m y hfirst => ?_) _
      refine ((Parser.repeated_settles hlink fun pairs z hrow => ?_).restoring x).map _
      exact (operator_settles tier z).andThen fun op w hop => ((ih _ w (.later hfirst hrow hop)).restoring z).map _

/-! ## What a run computes with -/

/-- **What is read as a number are digits**, so that none is less than a zero. -/
theorem isDigit_of_digits {x rest : ι} {found : Stretch ι}
    (h : (digits : Parser ι TextCause (Stretch ι)) x = .success found rest) :
    ∀ c ∈ found.symbols, '0'.toNat ≤ c.toNat ∧ c.toNat ≤ '9'.toNat := by
  rw [digits_eq_word] at h
  intro c hc
  have hdigit := (Parser.isWord_of_word h).2 c hc
  rw [isDigit, Bool.and_eq_true, decide_eq_true_eq, decide_eq_true_eq] at hdigit
  exact hdigit

theorem Kind.reads_parser (depth : Nat) : ∀ kind : Kind, Reads kind (kind.parser depth : Parser ι TextCause Int)
  | .primary => reads_atom (reads_expression depth)
  | .unary => reads_operand (depth + 1)
  | .chain .product => reads_chain .product (reads_operand (depth + 1))
  | .chain .sum => reads_expression (depth + 1)

theorem Kind.fits_of_parse {kind : Kind} {x rest : ι} {v : Int} (h : kind.parse x = .success v rest) : Fits v := by
  obtain ⟨t, -, hv⟩ := kind.reads_parser (left x) h
  exact t.fits_of_value hv

/-- The two sides of each operator that a chain comes to. -/
theorem fits_of_row {tier : Tier} {x y z : ι} {m n value : Int} {done : List (Operator × Int)} {op : Operator}
    (hfirst : tier.member.parse x = .success m y)
    (hrow : (tier.operator.andThen tier.member.parse).Row y (done ++ [(op, n)]) z)
    (hvalue : evaluateChain m done = .ok value) : Fits value ∧ Fits n := by
  have hm := Kind.fits_of_parse hfirst
  refine ⟨fits_of_results done hm ((evaluateChain_eq_ok done hm).1 hvalue), ?_⟩
  obtain ⟨between, -, hlast⟩ := hrow.exists_between
  cases hlast with
  | cons hpair _ =>
    obtain ⟨w, -, hmember⟩ := Parser.andThen_eq_success.1 hpair
    exact Kind.fits_of_parse hmember

/-- **No step of the calculator's parsers is undefined.** -/
theorem Kind.safe_parse : Kind.Safe (Kind.parse : Kind → Parser ι TextCause Int) where
  digits _ _ _ := isDigit_of_digits
  number _ _ := readDigits_eq_ok
  fits _ _ _ _ := Kind.fits_of_parse
  opposite _ _ := checked_eq_ok
  operator tier x y z m n value done op hfirst hrow hvalue := by
    obtain ⟨hleft, hright⟩ := fits_of_row hfirst hrow hvalue
    exact ⟨hleft, hright, op.result_or_refuses n hleft⟩
  blank_progresses := Parser.progresses_satisfying _
  digit_progresses := Parser.progresses_satisfying _
  link_progresses tier := progresses_link (Kind.orderly_parse tier.member)

/-- **No line or column of a line is more than one above its length.** -/
theorem coordinates_le {line : List Char} {x : Located Text} (h : Reaches (.ofCursor ⟨0, line⟩) x) :
    x.line ≤ line.length + 1 ∧ x.column ≤ line.length + 1 := by
  obtain ⟨count, hle, rfl⟩ := h
  obtain ⟨hline, hcolumn⟩ := Prod.ext_iff.1 (Located.coordinates_after (⟨0, line⟩ : Text) count hle)
  have hle : count + 1 ≤ line.length + 1 := Nat.succ_le_succ hle
  exact ⟨hline.trans_le ((lineAt_le line count).trans hle), hcolumn.trans_le ((columnAt_le line count).trans hle)⟩

/-! ## Lines -/

omit [Distinct ι] in
theorem calculation_eq (x : ι) :
    calculation x = (((Kind.chain .sum).parse.thenSkip blanks).complete x : Outcome TextCause ι Int) :=
  Parser.complete_congr (Parser.thenSkip_congr rfl)

theorem calculation_settles (x : ι) : (calculation x : Outcome TextCause ι Int).Settles := by
  rw [calculation_eq]
  refine Outcome.Settles.andThen (((Kind.chain .sum).parse_settles x).andThen fun v y _ => ?_) fun v rest _ => ?_
  · rw [blanks_eq]
    exact Outcome.settles_success v _
  · split
    · exact Outcome.settles_success v rest
    · exact Outcome.settles_failure _ x

end Parsing.Calculator
