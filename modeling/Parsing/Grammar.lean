import Parsing.Grammar.Action
import Parsing.Parser.Text
/-!
# Grammars — parsers written down as data

A grammar is a parser as a value: it can be built, taken apart and replaced in parts, and it runs at every type of
cursor over its symbols.  `Grammar.run` says what it means in terms of the combinators of `Parsing.Parser`.  Grammars
refer to each other by rule names; `Rules.call` looks them up, to a depth of calls that `Grammar.parse` takes large
enough for every run that ends.
-/
namespace Parsing

/-- A grammar over symbols `σ` whose checks and literals reject with seeds `ζ`. -/
inductive Grammar (σ ζ : Type) : Type 1 where
  | anySymbol
  | endOfInput
  | yielding (value : Value Empty)
  | satisfying (holds : σ → Bool)
  | exactly (symbol : σ) (seed : ζ)
  | literal (symbols : List σ) (seed : σ → ζ) (value : Value Empty)
  | map (p : Grammar σ ζ) (f : Transform σ)
  | tryMap (p : Grammar σ ζ) (f : Check σ ζ)
  | withValue (p : Grammar σ ζ) (value : Value Empty)
  | complete (p : Grammar σ ζ)
  | recognize (p : Grammar σ ζ)
  | notFollowedBy (p : Grammar σ ζ)
  | lookahead (p : Grammar σ ζ)
  | optional (p : Grammar σ ζ)
  | repeated (p : Grammar σ ζ) (range : Repetition)
  | butNot (p excluded : Grammar σ ζ)
  | separated (p delimiter : Grammar σ ζ)
  | andThen (p q : Grammar σ ζ)
  | orElse (p q : Grammar σ ζ)
  | skipThen (p q : Grammar σ ζ)
  | thenSkip (p q : Grammar σ ζ)
  | rule (name : String)

namespace Grammar

variable {ι σ κ ζ : Type} [DecidableEq σ] [Symbol σ] [Cursor ι σ] [Cause κ] [Seed ζ κ]

/-- The parser that a grammar stands for, given the parsers of its rules. -/
def run (call : String → Parser ι κ (Value (Stretch ι))) : Grammar σ ζ → Parser ι κ (Value (Stretch ι))
  | anySymbol => Parser.anySymbol.map fun a => (Symbol.value a).lift
  | endOfInput => Parser.endOfInput.withValue .unit
  | yielding value => Parser.yielding value.lift
  | satisfying holds => (Parser.satisfying holds).map fun a => (Symbol.value a).lift
  | exactly symbol seed => (Parser.exactly symbol (Seed.cause seed)).map fun a => (Symbol.value a).lift
  | literal symbols seed value => Parser.literal symbols (fun a => Seed.cause (seed a)) value.lift
  | map p f => (run call p).mapSoundly (f.apply Stretch.excerpt)
  | tryMap p f => (run call p).judged (f.apply Stretch.excerpt)
  | withValue p value => (run call p).withValue value.lift
  | complete p => (run call p).complete
  | recognize p => (run call p).recognize.map .stretch
  | notFollowedBy p => (run call p).notFollowedBy.withValue .unit
  | lookahead p => (run call p).lookahead
  | optional p => (run call p).optional.map fun found => found.elim .none .some
  | repeated p range => ((run call p).repeated range).map .list
  | butNot p excluded => (run call p).butNot (run call excluded)
  | separated p delimiter => ((run call p).separated (run call delimiter)).map .list
  | andThen p q => ((run call p).andThen (run call q)).map fun (v, w) => .tuple [v, w]
  | orElse p q => (run call p).orElse (run call q)
  | skipThen p q => (run call p).skipThen (run call q)
  | thenSkip p q => (run call p).thenSkip (run call q)
  | rule name => call name

end Grammar

/-- Named grammars. -/
abbrev Rules (σ ζ : Type) := List (String × Grammar σ ζ)

namespace Rules

variable {ι σ κ ζ : Type} [DecidableEq σ] [Symbol σ] [Cursor ι σ] [Cause κ] [Seed ζ κ]

/-- The grammar of a rule, the first one of its name. -/
def find? (rules : Rules σ ζ) (name : String) : Option (Grammar σ ζ) :=
  (List.find? (fun rule => rule.1 == name) rules).map (·.2)

/-- The parser of a rule, for rule calls nested up to a depth. -/
def call (rules : Rules σ ζ) : Nat → String → Parser ι κ (Value (Stretch ι))
  | 0, _ => fun _ => .aborted .endless
  | depth + 1, name => fun x =>
    match rules.find? name with
    | none => .aborted (.defect s!"no rule {name}")
    | some p => p.run (rules.call depth) x

/-- The depth of nested calls at a cursor: one for each rule and each position from there on.  A deeper nest calls some
rule again at the position where it is being called, and so never ends. -/
def depthAt (rules : Rules σ ζ) (x : ι) : Nat := rules.length * (Cursor.left x + 1)

end Rules

/-- Runs a grammar at a cursor. -/
def Grammar.parse {ι σ κ ζ : Type} [DecidableEq σ] [Symbol σ] [Cursor ι σ] [Cause κ] [Seed ζ κ] (p : Grammar σ ζ)
    (rules : Rules σ ζ) (x : ι) : Outcome κ ι (Value (Stretch ι)) :=
  p.run (rules.call (rules.depthAt x)) x

end Parsing
