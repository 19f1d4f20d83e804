import Parsing.Proofs.Calculator.Readings
import Parsing.Proofs.Calculator.Tokens
/-!
# Phrases — the parsers come to the readings

On the text of a phrase the parser of its kind does what `Phrase.reading` says, unless what comes behind would make the
phrase longer (`Kind.Ends`).  Choices fall through to the right alternative, because the character ahead makes the
others fail.  Loops stop at the end of the phrase, because no operator of theirs is ahead there, or before it, at a
member that fails or was cut.  What is cut is followed by the sign of an operator (`CutAt`), so no parenthesis closes
there and no loop around goes on with it.

Main statement: `Phrase.read`, by recursion on the tree with what comes behind as a parameter.
-/
namespace Parsing.Calculator

open Cursor (Distinct after left symbols)
open Decimal (isDigit nat)
open Unicode (isWhiteSpace)

variable {ι : Type} [Cursor ι Char]

/-! ## The parsers of the kinds -/

/-- The parser of a kind, with so many levels of operands and one more. -/
def Kind.parser (depth : Nat) : Kind → Parser ι TextCause Int
  | .primary => atom (expression depth)
  | .unary => operand (depth + 1)
  | .chain .product => Calculator.chain multiplicative (operand (depth + 1))
  | .chain .sum => expression (depth + 1)

theorem Kind.parser_chain (depth : Nat) (tier : Tier) :
    ((Kind.chain tier).parser depth : Parser ι TextCause Int) =
      Calculator.chain tier.operator (tier.member.parser depth) := by
  cases tier <;> rfl

theorem Kind.composed_parser (depth : Nat) : ∀ kind : Kind,
    (kind.parser depth : Parser ι TextCause Int).Composed Parts.none
  | .primary => composed_atom (composed_sum (composed_operand depth))
  | .unary => composed_operand (depth + 1)
  | .chain .product => composed_chain composed_multiplicative (composed_operand (depth + 1))
  | .chain .sum => composed_sum (composed_operand (depth + 1))

theorem Kind.orderly_member (depth : Nat) (tier : Tier) :
    (tier.member.parser depth : Parser ι TextCause Int).Orderly Parts.none :=
  (tier.member.composed_parser depth).orderly

theorem Tier.orderly_operator (tier : Tier) : (tier.operator : Parser ι TextCause Operator).Orderly Parts.none := by
  cases tier with
  | product => exact composed_multiplicative.orderly
  | sum => exact composed_additive.orderly

theorem orderly_opposite {inner : Parser ι TextCause Int} (h : inner.Orderly Parts.none) :
    (((token '-').skipThen inner).tryMap negate).Orderly Parts.none :=
  ((composed_token '-').orderly.skipThen h).tryMap fun _ _ _ _ hs => hs

theorem orderly_negative (depth : Nat) :
    (((token '-').skipThen (operand depth)).tryMap negate : Parser ι TextCause Int).Orderly Parts.none :=
  orderly_opposite (composed_operand depth).orderly

/-! ## Where a phrase ends -/

/-- Whether an operator behind a phrase of the kind would go on with it. -/
def Kind.Joins : Kind → Operator → Prop
  | .primary, _ => False
  | .unary, _ => False
  | .chain .product, op => op.tier = .product
  | .chain .sum, _ => True

/-- Nothing at the front makes a phrase of the kind before it longer. -/
def Kind.Ends (kind : Kind) (tail : List Char) : Prop :=
  (∀ c ∈ tail.head?, isDigit c = false) ∧ ∀ op, kind.Joins op → ahead tail ≠ some op.sign

theorem Kind.joins_chain {tier : Tier} {op : Operator} :
    (Kind.chain tier).Joins op ↔ op.tier = tier ∨ tier.member.Joins op := by
  cases tier <;> cases op <;> simp [Kind.Joins, Tier.member, Operator.tier]

theorem Tier.not_joins_member {tier : Tier} {op : Operator} (h : op.tier = tier) : ¬ tier.member.Joins op := by
  subst h
  cases op <;> simp [Kind.Joins, Tier.member, Operator.tier]

/-- A phrase ends before blanks if what is behind them does not go on with it. -/
theorem Kind.ends_gap_append (kind : Kind) (gap : Gap) {tail : List Char}
    (hblank : ∀ c ∈ tail.head?, isWhiteSpace c = false) (hdigit : ∀ c ∈ tail.head?, isDigit c = false)
    (hsign : ∀ op, kind.Joins op → tail.head? ≠ some op.sign) : kind.Ends (gap.chars ++ tail) := by
  constructor
  · intro c hc
    cases hg : gap.chars with
    | nil =>
      rw [hg, List.nil_append] at hc
      exact hdigit c hc
    | cons d more =>
      rw [hg, List.cons_append, List.head?_cons] at hc
      obtain rfl := Option.some.inj hc
      exact isDigit_of_isWhiteSpace (gap.blank d (by rw [hg]; exact List.mem_cons_self))
  · intro op hop
    rw [gap.ahead_append hblank]
    exact hsign op hop

/-- Links or nothing more end the first member of a chain. -/
theorem Links.ends_member {tier : Tier} {tail : List Char} (h : (Kind.chain tier).Ends tail) :
    ∀ links : Links tier, tier.member.Ends (links.text ++ tail)
  | .nil => by
    rw [Links.text, List.nil_append]
    exact ⟨h.1, fun op hop => h.2 op (Kind.joins_chain.2 (Or.inr hop))⟩
  | .cons gap op htier member more => by
    rw [Links.text, List.append_assoc, List.cons_append]
    refine Kind.ends_gap_append _ gap (head_cons op.isWhiteSpace_sign _) (head_cons op.isDigit_sign _) ?_
    intro other hother heq
    obtain rfl := Operator.sign_injective (Option.some.inj heq)
    exact Tier.not_joins_member htier hother

/-! ## Where a reading ends -/

/-- The outcome of a parser that began and could have finished at places of a line. -/
def Reading.outcome (line : ι) (before finish : Nat) : Reading → Outcome TextCause ι Int
  | whole v => .success v (after finish line)
  | cut v stop _ => .success v (after stop line)
  | refused cause place => .failure ⟨cause, after place line⟩ (after before line)

/-- Behind a place, after blanks, stands the sign of an operator that would go on with a phrase of the kind. -/
def CutAt (kind : Kind) (line : ι) (stop sign : Nat) : Prop :=
  pastBlanks (after stop line) = after sign line ∧
    ∃ op, kind.Joins op ∧ (symbols (after sign line)).head? = some op.sign

/-- The parser comes to the reading between two places, and what the reading says of a cut is so. -/
def Reading.Describes (kind : Kind) (line : ι) (before finish : Nat) (p : Parser ι TextCause Int) (reading : Reading) :
    Prop :=
  p (after before line) = reading.outcome line before finish ∧
    ∀ v stop sign, reading = .cut v stop sign → CutAt kind line stop sign

/-- A run is what the loop over operators and members makes of the links between two places. -/
structure Run.Describes (tier : Tier) (depth : Nat) (line : ι) (before finish : Nat) (run : Run) : Prop where
  row : (tier.operator.andThen (tier.member.parser depth)).Row (after before line) run.pairs (after run.stop line)
  fails : (tier.operator.andThen (tier.member.parser depth)).Fails (after run.stop line)
  stop_eq : run.sign? = none → run.stop = finish
  cutAt : ∀ sign ∈ run.sign?, CutAt (.chain tier) line run.stop sign

namespace CutAt

variable {kind : Kind} {tier : Tier} {line : ι} {stop sign : Nat}

theorem ahead_eq (h : CutAt kind line stop sign) :
    ∃ op, kind.Joins op ∧ ahead (symbols (after stop line)) = some op.sign := by
  obtain ⟨hpast, op, hop, hsign⟩ := h
  exact ⟨op, hop, by rw [ahead_eq_head, hpast, hsign]⟩

theorem of_member (h : CutAt tier.member line stop sign) : CutAt (.chain tier) line stop sign := by
  obtain ⟨hpast, op, hop, hsign⟩ := h
  exact ⟨hpast, op, Kind.joins_chain.2 (Or.inr hop), hsign⟩

/-- A loop stops before an operator that belongs to its member. -/
theorem fails_operator [Distinct ι] (h : CutAt tier.member line stop sign) :
    (tier.operator : Parser ι TextCause Operator).Fails (after stop line) := by
  obtain ⟨op, hop, hahead⟩ := h.ahead_eq
  refine Tier.operator_fails fun other hother heq => ?_
  rw [hahead] at heq
  obtain rfl := Operator.sign_injective (Option.some.inj heq)
  exact Tier.not_joins_member hother hop

theorem of_link (gap : Gap) {op : Operator} (htier : op.tier = tier) {tail : List Char}
    (h : symbols (after stop line) = gap.chars ++ op.sign :: tail) :
    CutAt (.chain tier) line stop (stop + gap.chars.length) := by
  obtain ⟨hpast, hs⟩ := gap.pastBlanks_eq h (head_cons op.isWhiteSpace_sign tail)
  have hplace : pastBlanks (after stop line) = after (stop + gap.chars.length) line := by rw [hpast, Cursor.after_add]
  exact ⟨hplace, op, Kind.joins_chain.2 (Or.inl htier), by rw [← hplace, hs, List.head?_cons]⟩

end CutAt

theorem Run.Describes.outcome_conclude {tier : Tier} {depth : Nat} {line : ι} {before finish : Nat} {run : Run}
    (h : run.Describes tier depth line before finish) (m : Int) (start : Nat) :
    (run.conclude m).outcome line start finish =
      match evaluateChain m run.pairs with
      | .ok v => .success v (after run.stop line)
      | .error reason => .failure ⟨.custom reason.message, after run.stop line⟩ (after start line) := by
  unfold conclude
  cases evaluateChain m run.pairs with
  | ok v =>
    cases hsign : run.sign? with
    | none => rw [h.stop_eq hsign]; rfl
    | some sign => rfl
  | error reason => rfl

theorem Run.Describes.cutAt_conclude {tier : Tier} {depth : Nat} {line : ι} {before finish : Nat} {run : Run}
    (h : run.Describes tier depth line before finish) {m v : Int} {stop sign : Nat}
    (hcut : run.conclude m = .cut v stop sign) : CutAt (.chain tier) line stop sign := by
  unfold conclude at hcut
  cases hsign : run.sign? with
  | none =>
    rw [hsign] at hcut
    cases hv : evaluateChain m run.pairs <;> rw [hv] at hcut <;> cases hcut
  | some found =>
    have hfound := h.cutAt found hsign
    rw [hsign] at hcut
    cases hv : evaluateChain m run.pairs with
    | ok n =>
      rw [hv] at hcut
      cases hcut
      exact hfound
    | error reason => rw [hv] at hcut; cases hcut

/-! ## The parsers on the way -/

variable [Distinct ι]

theorem progresses_link {tier : Tier} {member : Parser ι TextCause Int} (hm : member.Orderly Parts.none) :
    (tier.operator.andThen member).Progresses := by
  intro x rest pair hx
  obtain ⟨between, hop, hmember⟩ := Parser.andThen_eq_success.1 hx
  exact Nat.lt_of_le_of_lt (hm.advances hmember).left_le (tier.progresses_operator hop)

/-- Where no minus is ahead, an operand is a primary. -/
theorem operand_eq_atom (depth : Nat) {x : ι} (h : ahead (symbols x) ≠ some '-') :
    operand (depth + 1) x = atom (expression depth) x :=
  Parser.orElse_eq_of_fails (orderly_negative depth) (((token_fails h).skipThen _).tryMap _)

theorem ahead_primary : ∀ (t : Phrase .primary) (tail : List Char), ahead (t.text ++ tail) ≠ some '-'
  | .number gap numeral, tail => by
    obtain ⟨d, hd, hdigit⟩ := numeral.exists_head tail
    rw [Phrase.text, List.append_assoc, gap.ahead_append (numeral.isWhiteSpace_head tail), hd]
    rintro ⟨⟩
    exact absurd hdigit (by decide)
  | .group opening inner closing, tail => by
    rw [Phrase.text, List.append_assoc, List.cons_append, opening.ahead_append (head_cons (by decide) _)]
    rintro ⟨⟩

/-- Where no number is matched and no parenthesis opens, the parenthesis is what is missed. -/
theorem atom_eq_failure (inner : Parser ι TextCause Int) {x : ι} (hnumber : (number : Parser ι TextCause Int).Fails x)
    (hahead : ahead (symbols x) ≠ some '(') : atom inner x = .failure ⟨.expected '(', pastBlanks x⟩ x := by
  rw [atom, Parser.orElse_eq_of_fails composed_number.orderly hnumber, Parser.thenSkip, Parser.skipThen,
    token_eq_failure hahead]
  rfl

theorem atom_of_opening (inner : Parser ι TextCause Int) (opening : Gap) {x : ι} {body : List Char}
    (h : symbols x = opening.chars ++ '(' :: body) :
    atom inner x = ((inner (after (opening.chars.length + 1) x)).restoring x).andThen fun value rest =>
      ((token ')' rest).restoring x).map fun _ => value := by
  have hahead : ahead (symbols x) = some '(' := by
    rw [h, opening.ahead_append (head_cons (by decide) body), List.head?_cons]
  have hnumber : (number : Parser ι TextCause Int).Fails x := by
    refine number_fails ?_
    rw [hahead]
    rintro c ⟨⟩
    decide
  rw [atom, Parser.orElse_eq_of_fails composed_number.orderly hnumber, Parser.thenSkip, Parser.skipThen,
    token_matches opening (by decide) h, Outcome.andThen_success]

/-- Behind a minus an operand that is not negated is no match: the choice goes back to before the minus. -/
theorem operand_eq_failure {depth : Nat} (gap : Gap) {x : ι} {tail : List Char}
    (h : symbols x = gap.chars ++ '-' :: tail)
    (hfails : (((token '-').skipThen (operand depth)).tryMap negate : Parser ι TextCause Int).Fails x) :
    operand (depth + 1) x = .failure ⟨.expected '(', after gap.chars.length x⟩ x := by
  obtain ⟨hpast, -⟩ := gap.pastBlanks_eq h (head_cons (by decide) tail)
  have hahead : ahead (symbols x) = some '-' := by
    rw [h, gap.ahead_append (head_cons (by decide) tail), List.head?_cons]
  have hnumber : (number : Parser ι TextCause Int).Fails x := by
    refine number_fails ?_
    rw [hahead]
    rintro c ⟨⟩
    decide
  have hatom := atom_eq_failure (expression depth) hnumber (by rw [hahead]; decide)
  rw [hpast] at hatom
  exact (Parser.orElse_eq_of_fails (orderly_negative depth) hfails).trans hatom

/-- A chain is worth what its row is worth, once the row has come to its end. -/
theorem chain_eq {tier : Tier} {member : Parser ι TextCause Int} (hm : member.Orderly Parts.none) {x y rest : ι}
    {m : Int} {pairs : List (Operator × Int)} (hfirst : member x = .success m y)
    (hrow : (tier.operator.andThen member).Row y pairs rest) (hstop : (tier.operator.andThen member).Fails rest) :
    chain tier.operator member x =
      match evaluateChain m pairs with
      | .ok v => .success v rest
      | .error reason => .failure ⟨.custom reason.message, rest⟩ x := by
  obtain ⟨fault, input, hstop⟩ := hstop
  have hloop := Parser.repeated_of_row (tier.orderly_operator.andThen hm) (progresses_link hm) 0 hrow hstop
  rw [if_neg (Nat.not_lt_zero _)] at hloop
  have hpair : (member.andThen ((tier.operator.andThen member).repeated .any)) x = .success (m, pairs) rest :=
    Parser.andThen_eq_success.2 ⟨y, hfirst, hloop⟩
  rw [chain, Parser.tryMap, hpair, Outcome.andThen_success]
  dsimp only
  cases evaluateChain m pairs <;> rfl

omit [Distinct ι] in
theorem chain_eq_failure {tier : Tier} {member : Parser ι TextCause Int} {x input : ι} {fault : Fault TextCause ι}
    (hfirst : member x = .failure fault input) : chain tier.operator member x = .failure fault input := by
  rw [chain, Parser.tryMap, Parser.andThen, hfirst]
  rfl

/-! ## One production at a time -/

namespace Reading

theorem not_cut_orMissing {c : Char} {place : Nat} {v : Int} {stop sign : Nat} :
    ∀ {o : Option Int}, orMissing c place o ≠ cut v stop sign
  | some _ => nofun
  | none => nofun

theorem describes_number (inner : Parser ι TextCause Int) (gap : Gap) (numeral : Numeral) {line : ι} {before : Nat}
    {tail : List Char} (hs : symbols (after before line) = gap.chars ++ (numeral.digits ++ tail))
    (htail : ∀ c ∈ tail.head?, isDigit c = false) :
    (orMissing '(' (before + gap.chars.length) (inRange (nat numeral.digits))).Describes .primary line before
      (before + (gap.chars.length + numeral.digits.length)) (atom inner) := by
  refine ⟨?_, fun v stop sign h => absurd h not_cut_orMissing⟩
  cases hrange : inRange (nat numeral.digits) with
  | some v =>
    have hnumber := number_matches gap numeral hs htail hrange
    rw [← Cursor.after_add] at hnumber
    exact Parser.orElse_of_success hnumber _
  | none =>
    have hahead : ahead (symbols (after before line)) ≠ some '(' := by
      obtain ⟨d, hd, hdigit⟩ := numeral.exists_head tail
      rw [hs, gap.ahead_append (numeral.isWhiteSpace_head tail), hd]
      rintro ⟨⟩
      exact absurd hdigit (by decide)
    have hatom := atom_eq_failure inner (number_refuses gap numeral hs htail hrange) hahead
    rw [(gap.pastBlanks_eq hs (numeral.isWhiteSpace_head tail)).1, ← Cursor.after_add] at hatom
    exact hatom

theorem Describes.group {inner : Parser ι TextCause Int} {reading : Reading} (opening closing : Gap) {line : ι}
    {before middle : Nat} {body tail : List Char}
    (h : reading.Describes (.chain .sum) line (before + (opening.chars.length + 1)) middle inner)
    (hs : symbols (after before line) = opening.chars ++ '(' :: body)
    (hclose : symbols (after middle line) = closing.chars ++ ')' :: tail) :
    reading.enclosed.Describes .primary line before (middle + (closing.chars.length + 1)) (atom inner) := by
  obtain ⟨hinner, hcut⟩ := h
  have hatom := atom_of_opening inner opening hs
  rw [← Cursor.after_add, hinner] at hatom
  refine ⟨hatom.trans ?_, fun v stop sign heq => by cases reading <;> cases heq⟩
  cases reading with
  | whole v =>
    have hclosed := token_matches closing (by decide) hclose
    rw [← Cursor.after_add] at hclosed
    simp only [outcome, enclosed, Outcome.restoring_success, Outcome.andThen_success, hclosed, Outcome.map_success]
  | cut v stop sign =>
    have hcut := hcut v stop sign rfl
    obtain ⟨op, -, hahead⟩ := hcut.ahead_eq
    have hmissing : ahead (symbols (after stop line)) ≠ some ')' := by
      rw [hahead]
      cases op <;> decide
    simp only [outcome, enclosed, Outcome.restoring_success, Outcome.andThen_success, token_eq_failure hmissing, hcut.1,
      Outcome.restoring_failure, Outcome.map_failure]
  | refused cause place => rfl

theorem Describes.opposite {depth : Nat} {reading : Reading} (gap : Gap) {line : ι} {before finish : Nat}
    {body : List Char} (h : reading.Describes .unary line (before + (gap.chars.length + 1)) finish (operand depth))
    (hs : symbols (after before line) = gap.chars ++ '-' :: body) :
    (orMissing '(' (before + gap.chars.length) (reading.whole?.bind fun n => inRange (-n))).Describes .unary line before
      finish (operand (depth + 1)) := by
  obtain ⟨hinner, hcut⟩ := h
  refine ⟨?_, fun v stop sign h => absurd h not_cut_orMissing⟩
  have hminus := token_matches gap (by decide) hs
  rw [← Cursor.after_add] at hminus
  cases reading with
  | whole n =>
    have hskip := Parser.skipThen_eq_success.2 ⟨_, _, hminus, hinner⟩
    show operand (depth + 1) (after before line) = outcome line before finish (orMissing _ _ (inRange (-n)))
    cases hrange : inRange (-n) with
    | some v =>
      have hnegate : negate n = .ok v := checked_eq_ok.2 hrange
      exact Parser.orElse_of_success (Parser.tryMap_eq_success.2 ⟨n, hskip, hnegate⟩) _
    | none =>
      have hnegate : ∀ v, negate n ≠ .ok v := by
        intro v hv
        rw [checked_eq_ok.1 hv] at hrange
        cases hrange
      have hoperand := operand_eq_failure gap hs (Parser.fails_tryMap hskip hnegate)
      rw [← Cursor.after_add] at hoperand
      exact hoperand
  | cut v stop sign =>
    -- No operator goes on with an operand, so this reading does not occur.
    obtain ⟨-, op, hop, -⟩ := hcut v stop sign rfl
    exact hop.elim
  | refused cause place =>
    have hskip := Parser.fails_skipThen hminus ⟨_, _, hinner⟩
    have hoperand := operand_eq_failure gap hs (hskip.tryMap negate)
    rw [← Cursor.after_add] at hoperand
    exact hoperand

theorem Describes.chain {tier : Tier} {depth : Nat} {reading : Reading} {run : Run} {line : ι}
    {before middle finish : Nat} (h : reading.Describes tier.member line before middle (tier.member.parser depth))
    (hrun : run.Describes tier depth line middle finish) :
    (reading.followed run.conclude).Describes (.chain tier) line before finish ((Kind.chain tier).parser depth) := by
  obtain ⟨hfirst, hcut⟩ := h
  rw [Kind.parser_chain]
  cases reading with
  | whole m =>
    refine ⟨?_, fun v stop sign h => hrun.cutAt_conclude h⟩
    rw [chain_eq (Kind.orderly_member depth tier) hfirst hrun.row hrun.fails]
    exact (hrun.outcome_conclude m before).symm
  | cut v stop sign =>
    have hcut := hcut v stop sign rfl
    have hstop := hcut.fails_operator.andThen (tier.member.parser depth)
    refine ⟨chain_eq (Kind.orderly_member depth tier) hfirst (.nil _) hstop, ?_⟩
    rintro _ _ _ ⟨⟩
    exact hcut.of_member
  | refused cause place => exact ⟨chain_eq_failure hfirst, nofun⟩

theorem Describes.link {tier : Tier} {depth : Nat} {reading : Reading} {run : Run} (gap : Gap) {op : Operator}
    (htier : op.tier = tier) {line : ι} {before middle finish : Nat} {body : List Char}
    (h : reading.Describes tier.member line (before + (gap.chars.length + 1)) middle (tier.member.parser depth))
    (hs : symbols (after before line) = gap.chars ++ op.sign :: body)
    (hrun : run.Describes tier depth line middle finish) :
    (reading.linked op before (before + gap.chars.length) run).Describes tier depth line before finish := by
  obtain ⟨hmember, hcut⟩ := h
  have hop := Tier.operator_matches htier gap hs
  rw [← Cursor.after_add] at hop
  cases reading with
  | whole n =>
    exact ⟨.cons (Parser.andThen_eq_success.2 ⟨_, hop, hmember⟩) hrun.row, hrun.fails, hrun.stop_eq, hrun.cutAt⟩
  | cut n stop sign =>
    have hcut := hcut n stop sign rfl
    refine ⟨.cons (Parser.andThen_eq_success.2 ⟨_, hop, hmember⟩) (.nil _), hcut.fails_operator.andThen _, nofun, ?_⟩
    rintro _ ⟨⟩
    exact hcut.of_member
  | refused cause place =>
    refine ⟨.nil _, Parser.fails_andThen hop ⟨_, _, hmember⟩, nofun, ?_⟩
    rintro _ ⟨⟩
    exact CutAt.of_link gap htier hs

end Reading

/-! ## Phrases are read -/

mutual

/-- **The parser of a kind comes to the reading of a phrase**, where nothing goes on with it and the operands may nest
as deep as it is long. -/
theorem Phrase.read : ∀ {kind : Kind} (t : Phrase kind) (depth before : Nat) (line : ι) (tail : List Char),
    t.text.length ≤ depth + 1 → symbols (after before line) = t.text ++ tail → kind.Ends tail →
      (t.reading before).Describes kind line before (before + t.text.length) (kind.parser depth)
  | _, .number gap numeral, depth, before, line, tail => by
    intro _ hs hends
    rw [Phrase.text, List.append_assoc] at hs
    rw [Phrase.reading, Phrase.text, List.length_append]
    exact Reading.describes_number (expression depth) gap numeral hs hends.1
  | _, .group opening inner closing, depth, before, line, tail => by
    intro hroom hs hends
    rw [Phrase.length_group] at hroom
    rw [Phrase.text] at hs
    simp only [List.append_assoc, List.cons_append, List.nil_append] at hs
    -- The parentheses leave room for one level less.
    obtain ⟨depth, rfl⟩ : ∃ less, depth = less + 1 := ⟨depth - 1, by omega⟩
    have hclosing : (Kind.chain .sum).Ends (closing.chars ++ ')' :: tail) := by
      refine Kind.ends_gap_append _ closing (head_cons (by decide) _) (head_cons (by decide) _) ?_
      intro op _ heq
      rw [List.head?_cons] at heq
      cases op <;> cases heq
    have hbody := opening.symbols_after hs
    rw [← Cursor.after_add] at hbody
    have hclose := Cursor.symbols_after_length hbody
    rw [← Cursor.after_add] at hclose
    have hinner := inner.read depth _ line _ (by omega) hbody hclosing
    have hfinish : before + (Phrase.group opening inner closing).text.length =
        before + (opening.chars.length + 1) + inner.text.length + (closing.chars.length + 1) := by
      rw [Phrase.length_group]
      omega
    rw [Phrase.reading, hfinish]
    exact hinner.group opening closing hs hclose
  | _, .bare primary, depth, before, line, tail => by
    intro hroom hs hends
    rw [Phrase.text] at hroom hs
    have hahead : ahead (symbols (after before line)) ≠ some '-' := by
      rw [hs]
      exact ahead_primary primary tail
    obtain ⟨hprimary, hcut⟩ := primary.read depth before line _ hroom hs hends
    exact ⟨(operand_eq_atom depth hahead).trans hprimary, hcut⟩
  | _, .opposite gap inner, depth, before, line, tail => by
    intro hroom hs hends
    rw [Phrase.length_opposite] at hroom
    rw [Phrase.text, List.append_assoc, List.cons_append] at hs
    have hpos := inner.length_pos
    obtain ⟨depth, rfl⟩ : ∃ less, depth = less + 1 := ⟨depth - 1, by omega⟩
    have hbody := gap.symbols_after hs
    rw [← Cursor.after_add] at hbody
    have hinner := inner.read depth _ line _ (by omega) hbody hends
    rw [Phrase.reading, Phrase.length_opposite, ← Nat.add_assoc]
    exact hinner.opposite gap hs
  | _, .chain first links, depth, before, line, tail => by
    intro hroom hs hends
    rw [Phrase.text, List.length_append] at hroom
    rw [Phrase.text, List.append_assoc] at hs
    have hfirst := first.read depth before line _ (by omega) hs (Links.ends_member hends links)
    have hlinks := Cursor.symbols_after_length hs
    rw [← Cursor.after_add] at hlinks
    have hrun := links.read depth _ line tail (by omega) hlinks hends
    rw [Phrase.reading, Phrase.text, List.length_append, ← Nat.add_assoc]
    exact hfirst.chain hrun

theorem Links.read : ∀ {tier : Tier} (links : Links tier) (depth before : Nat) (line : ι) (tail : List Char),
    links.text.length ≤ depth + 1 → symbols (after before line) = links.text ++ tail → (Kind.chain tier).Ends tail →
      (links.run before).Describes tier depth line before (before + links.text.length)
  | tier, .nil, depth, before, line, tail => by
    intro _ hs hends
    rw [Links.text, List.nil_append] at hs
    have hstop : ∀ op : Operator, op.tier = tier → ahead (symbols (after before line)) ≠ some op.sign := by
      intro op htier
      rw [hs]
      exact hends.2 op (Kind.joins_chain.2 (Or.inl htier))
    exact ⟨.nil _, (Tier.operator_fails hstop).andThen _, fun _ => rfl, nofun⟩
  | _, .cons gap op htier member more, depth, before, line, tail => by
    intro hroom hs hends
    rw [Links.length_cons] at hroom
    rw [Links.text] at hs
    simp only [List.append_assoc, List.cons_append] at hs
    have hbody := gap.symbols_after hs
    rw [← Cursor.after_add] at hbody
    have hmore := Cursor.symbols_after_length hbody
    rw [← Cursor.after_add] at hmore
    have hmember := member.read depth _ line _ (by omega) hbody (Links.ends_member hends more)
    have hrun := more.read depth _ line tail (by omega) hmore hends
    rw [Links.run, Links.length_cons, ← Nat.add_assoc, ← Nat.add_assoc]
    exact hmember.link gap htier hs hrun

end

end Parsing.Calculator
