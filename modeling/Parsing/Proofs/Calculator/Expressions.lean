import Parsing.Proofs.Calculator.Phrases
/-!
# Expressions — the calculator accepts and evaluates its language

What a parser of the calculator matches is the text of a phrase worth the value (`Reads`).  Conversely the text of a
phrase that has a value is read whole (`Phrase.reading_of_value`), so it is matched whole and evaluated to the value
(`Phrase.accepted`), unless what comes next would make the phrase longer (`Kind.Ends`).

Main statement: evaluating a line yields a value just if the line is written by a phrase worth that value, with blanks
behind it (`evaluate_success_iff_phrase`).
-/
namespace Parsing.Calculator

open Cursor (Distinct after left symbols)
open Decimal (isDigit)
open Unicode (isWhiteSpace)

variable {ι : Type} [Cursor ι Char]

/-! ## What is matched is a phrase -/

/-- What the parser matches is the text of a phrase of the kind, worth the value. -/
def Reads (kind : Kind) (p : Parser ι TextCause Int) : Prop :=
  ∀ ⦃x rest : ι⦄ ⦃v : Int⦄, p x = .success v rest →
    ∃ t : Phrase kind, symbols x = t.text ++ symbols rest ∧ t.value = some v

variable [Distinct ι]

theorem reads_atom {inner : Parser ι TextCause Int} (h : Reads (.chain .sum) inner) : Reads .primary (atom inner) := by
  intro x rest v hx
  rcases (Parser.orElse_eq_success composed_number.orderly).1 hx with hnumber | ⟨-, -, hgroup⟩
  · obtain ⟨gap, numeral, hs, hv⟩ := number_reads hnumber
    exact ⟨.number gap numeral, by rw [hs, Phrase.text, List.append_assoc], by rw [Phrase.value, hv]⟩
  · obtain ⟨between, _, hbody, hclose⟩ := Parser.thenSkip_eq_success.1 hgroup
    obtain ⟨_, behind, hopen, hinner⟩ := Parser.skipThen_eq_success.1 hbody
    obtain ⟨opening, ho⟩ := token_reads hopen
    obtain ⟨t, ht, hv⟩ := h hinner
    obtain ⟨closing, hc⟩ := token_reads hclose
    refine ⟨.group opening t closing, ?_, by rw [Phrase.value, hv]⟩
    rw [ho, ht, hc, Phrase.text]
    simp only [List.append_assoc, List.cons_append, List.nil_append]

/-- What a loop over operators and members matches are links, and the members are worth what the loop yields. -/
theorem exists_links {tier : Tier} {member : Parser ι TextCause Int} (h : Reads tier.member member) {x rest : ι}
    {pairs : List (Operator × Int)} (hrow : (tier.operator.andThen member).Row x pairs rest) :
    ∃ links : Links tier, symbols x = links.text ++ symbols rest ∧ links.operations? = some pairs := by
  induction hrow with
  | nil x => exact ⟨.nil, by rw [Links.text, List.nil_append], by rw [Links.operations?]⟩
  | @cons x y rest pair pairs hx _ ih =>
    obtain ⟨op, n⟩ := pair
    obtain ⟨between, hop, hmember⟩ := Parser.andThen_eq_success.1 hx
    obtain ⟨htier, gap, hgap⟩ := Tier.operator_reads hop
    obtain ⟨t, ht, hn⟩ := h hmember
    obtain ⟨links, hlinks, hpairs⟩ := ih
    refine ⟨.cons gap op htier t links, ?_, ?_⟩
    · rw [hgap, ht, hlinks, Links.text]
      simp only [List.append_assoc, List.cons_append]
    · rw [Links.operations?, hn, hpairs]
      rfl

/-- Before it is evaluated, a chain that is matched is a phrase whose members have values. -/
theorem exists_chain {tier : Tier} {member : Parser ι TextCause Int} (h : Reads tier.member member) {x rest : ι}
    {m : Int} {pairs : List (Operator × Int)}
    (hx : (member.andThen ((tier.operator.andThen member).repeated .any)) x = .success (m, pairs) rest) :
    ∃ (first : Phrase tier.member) (links : Links tier), symbols x = (Phrase.chain first links).text ++ symbols rest ∧
      first.value = some m ∧ links.operations? = some pairs := by
  obtain ⟨between, hfirst, hmore⟩ := Parser.andThen_eq_success.1 hx
  obtain ⟨first, htext, hm⟩ := h hfirst
  obtain ⟨links, hlinks, hpairs⟩ := exists_links h (Parser.row_of_repeated hmore)
  exact ⟨first, links, by rw [htext, hlinks, Phrase.text, List.append_assoc], hm, hpairs⟩

theorem reads_chain (tier : Tier) {member : Parser ι TextCause Int} (h : Reads tier.member member) :
    Reads (.chain tier) (chain tier.operator member) := by
  intro x rest v hx
  obtain ⟨⟨m, pairs⟩, hpair, hv⟩ := Parser.tryMap_eq_success.1 hx
  obtain ⟨first, links, htext, hm, hpairs⟩ := exists_chain h hpair
  refine ⟨.chain first links, htext, ?_⟩
  rw [Phrase.value, hm, Option.bind_some, links.valueFrom_of_operations hpairs]
  exact (evaluateChain_eq_ok pairs (first.fits_of_value hm)).1 hv

theorem reads_sum {member : Parser ι TextCause Int} (h : Reads .unary member) : Reads (.chain .sum) (sum member) :=
  reads_chain .sum (reads_chain .product h)

theorem reads_operand : ∀ (depth : Nat), Reads .unary (operand depth : Parser ι TextCause Int)
  | 0 => by
    intro x rest v hx
    cases hx
  | depth + 1 => by
    intro x rest v hx
    rcases (Parser.orElse_eq_success (orderly_negative depth)).1 hx with hnegative | ⟨-, -, hprimary⟩
    · obtain ⟨n, hn, hv⟩ := Parser.tryMap_eq_success.1 hnegative
      obtain ⟨_, between, hminus, hinner⟩ := Parser.skipThen_eq_success.1 hn
      obtain ⟨gap, hgap⟩ := token_reads hminus
      obtain ⟨t, ht, hvalue⟩ := reads_operand depth hinner
      refine ⟨.opposite gap t, ?_, ?_⟩
      · rw [hgap, ht, Phrase.text, List.append_assoc, List.cons_append]
      · rw [Phrase.value, hvalue, Option.bind_some]
        exact checked_eq_ok.1 hv
    · obtain ⟨t, ht, hv⟩ := reads_atom (reads_sum (reads_operand depth)) hprimary
      exact ⟨.bare t, by rw [ht, Phrase.text], by rw [Phrase.value, hv]⟩

theorem reads_expression (depth : Nat) : Reads (.chain .sum) (expression depth : Parser ι TextCause Int) :=
  reads_sum (reads_operand depth)

/-- **A phrase with a value is matched whole and evaluated to it**, where nothing goes on with it and the operands may
nest as deep as it is long. -/
theorem Phrase.accepted {kind : Kind} (t : Phrase kind) (depth : Nat) (x : ι) (tail : List Char) {v : Int}
    (hv : t.value = some v) (hroom : t.text.length ≤ depth + 1) (hs : symbols x = t.text ++ tail)
    (hends : kind.Ends tail) : ∃ rest, kind.parser depth x = .success v rest ∧ symbols rest = tail := by
  have hread := (t.read depth 0 x tail hroom hs hends).1
  rw [t.reading_of_value hv 0, Nat.zero_add] at hread
  exact ⟨_, hread, Cursor.symbols_after_length hs⟩

/-! ## Lines -/

theorem isEmpty_iff_symbols_eq_nil (x : Located Text) : Cursor.isEmpty x = true ↔ symbols x = [] :=
  List.isEmpty_iff

/-- **The calculator accepts and evaluates just its language.**  A line has a value if and only if it is the text of a
phrase worth that value, with or without blanks behind it. -/
theorem evaluate_success_iff_phrase (line : List Char) (v : Int) :
    (∃ rest, evaluate line = .success v rest) ↔
      ∃ (t : Phrase (.chain .sum)) (gap : Gap), line = t.text ++ gap.chars ∧ t.value = some v := by
  have hline : symbols (Located.ofCursor (⟨0, line⟩ : Text)) = line := rfl
  constructor
  · rintro ⟨rest, h⟩
    obtain ⟨hmatch, hempty⟩ := Parser.complete_eq_success.1 h
    obtain ⟨between, _, hexpression, hblanks⟩ := Parser.thenSkip_eq_success.1 hmatch
    obtain ⟨t, ht, hv⟩ := reads_expression _ hexpression
    obtain ⟨gap, hgap⟩ := exists_gap between
    rw [blanks_eq] at hblanks
    cases hblanks
    rw [isEmpty_iff_symbols_eq_nil] at hempty
    rw [hline, hgap, hempty, List.append_nil] at ht
    exact ⟨t, gap, ht, hv⟩
  · rintro ⟨t, gap, hs, hv⟩
    have hnil : ∀ {holds : Char → Bool}, ∀ c ∈ ([] : List Char).head?, holds c = false := by
      rintro holds c ⟨⟩
    have hends : (Kind.chain .sum).Ends gap.chars := by
      have h := Kind.ends_gap_append (.chain .sum) gap hnil hnil (fun op _ => nofun)
      rw [List.append_nil] at h
      exact h
    have hroom : t.text.length ≤ left (Located.ofCursor (⟨0, line⟩ : Text)) + 1 := by
      rw [left, hline, hs, List.length_append]
      omega
    obtain ⟨y, hy, hsy⟩ := t.accepted _ _ gap.chars hv hroom (hline.trans hs) hends
    have hpast := (gap.pastBlanks_eq (hsy.trans (List.append_nil _).symm) hnil).2
    refine ⟨pastBlanks y, Parser.complete_eq_success.2 ⟨?_, (isEmpty_iff_symbols_eq_nil _).2 hpast⟩⟩
    exact Parser.thenSkip_eq_success.2 ⟨y, (), hy, blanks_eq y⟩

end Parsing.Calculator
