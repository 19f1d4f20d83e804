import Parsing.Printing.Field
import Parsing.Proofs.Agreement
import Parsing.Proofs.Composed
import Parsing.Proofs.Success
/-!
# Recognized stretches — what was matched, read in four ways

`Parser.recognize` yields the stretch from where a match began to where it ended.  What lies in it can be stepped
through, counted by subtraction, cut out of the source, or printed; each has a definition of its own.  They agree, for
whatever a parser leaves is reached from where it began: the symbols of the stretch are those that the rest lacks, their
number is what subtracting gives, and a cut by bytes falls between characters.

Main statement: `recognize_yields_what_was_matched`.
-/
namespace Parsing

open Cursor (after left symbols Distinct Reaches TellsApart Tower Truthful)
open Printing (Field Printable)

/-! ## Stretches of cursors -/

namespace Stretch

variable {ι σ : Type} [Cursor ι σ] {a b : ι}

theorem isEmpty_iff [Distinct ι] (h : Reaches a b) : (⟨a, b⟩ : Stretch ι).isEmpty = true ↔ b = a :=
  (Distinct.samePosition_iff (Reaches.refl a) h).trans eq_comm

theorem left_add_left [Distinct ι] (h : Reaches a b) : left (⟨a, b⟩ : Stretch ι) + left b = left a := by
  rw [left_eq_sub h, Nat.sub_add_cancel h.left_le]

/-- **Subtracting sizes counts the symbols**, where sizes are known. -/
theorem size?_eq_some [Distinct ι] (ha : Truthful a) (h : Reaches a b) {size : Nat}
    (hsize : (⟨a, b⟩ : Stretch ι).size? = some size) : size = left (⟨a, b⟩ : Stretch ι) := by
  rcases (Stretch.truthful ha h).size?_eq with hnone | hsome
  · rw [show size? _ = none from hnone (Reaches.refl _)] at hsize
    cases hsize
  · rw [show size? _ = some _ from hsome (Reaches.refl _)] at hsize
    exact (Option.some.inj hsize).symm

theorem length_eq_left [Distinct ι] (ha : Truthful a) (h : Reaches a b) :
    (⟨a, b⟩ : Stretch ι).length = left (⟨a, b⟩ : Stretch ι) := by
  unfold length
  cases hsize : size? (⟨a, b⟩ : Stretch ι) with
  | none => rfl
  | some size => exact size?_eq_some ha h hsize

end Stretch

/-! ## Cutting out of a text -/

namespace Text

theorem byteCount_append : ∀ (cs ds : List Char), byteCount (cs ++ ds) = byteCount cs + byteCount ds
  | [], ds => (Nat.zero_add _).symm
  | c :: cs, ds => by rw [List.cons_append, byteCount, byteCount, byteCount_append cs ds, Nat.add_assoc]

/-- **As many bytes as some characters have hold just these characters.** -/
theorem takeBytes_byteCount : ∀ (cs ds : List Char), takeBytes (byteCount cs) (cs ++ ds) = some cs
  | [], ds => by rw [byteCount, takeBytes]
  | c :: cs, ds => by
    obtain ⟨more, hmore⟩ : ∃ more, c.utf8Size + byteCount cs = more + 1 :=
      Nat.exists_eq_add_one.2 (Nat.add_pos_left c.utf8Size_pos _)
    rw [byteCount, hmore, List.cons_append, takeBytes, ← hmore, if_pos (Nat.le_add_right _ _), Nat.add_sub_cancel_left,
      takeBytes_byteCount cs ds, Option.map_some]

/-- **Cutting by bytes gives the characters between two cursors**, the second reached from the first. -/
theorem between?_eq {x y : Text} (h : Reaches x y) : between? x y = some (symbols (⟨x, y⟩ : Stretch Text)) := by
  have happend : symbols (⟨x, y⟩ : Stretch Text) ++ y.rest = x.rest :=
    (Distinct.tellsApart x).symbols_stretch_append h
  rw [between?, ← happend, byteCount_append, if_pos (Nat.le_add_left _ _), Nat.add_sub_cancel, takeBytes_byteCount]

end Text

/-- **Counting lines and columns leaves the symbols of a stretch as they are.** -/
theorem Located.symbols_stretch_inner {ι : Type} [Cursor ι Char] [Distinct ι] {x y : Located ι} (h : Reaches x y) :
    symbols ((⟨x, y⟩ : Stretch (Located ι)).map Located.inner) = symbols (⟨x, y⟩ : Stretch (Located ι)) := by
  have hinner := (Distinct.tellsApart x.inner).symbols_stretch_append (reaches_inner h)
  have houter := (Distinct.tellsApart x).symbols_stretch_append h
  exact List.append_cancel_right (hinner.trans houter.symm)

theorem Slice.between?_eq {σ : Type} [Width σ] [Width.Positive σ] {x y : Slice σ} (h : Reaches x y) :
    between? x y = some (symbols (⟨x, y⟩ : Stretch (Slice σ))) := by
  have happend : symbols (⟨x, y⟩ : Stretch (Slice σ)) ++ y.rest = x.rest :=
    (Distinct.tellsApart x).symbols_stretch_append h
  rw [between?, ← happend, List.length_append, if_pos (Nat.le_add_left _ _), Nat.add_sub_cancel, List.take_left]

/-- **Printed plainly, a stretch of characters is its characters.** -/
theorem Stretch.print_plain {ι : Type} [Cursor ι Char] (s : Stretch ι) : s.print Field.plain = symbols s := by
  have hchar (c : Char) : Printable.print Field.plain c = [c] := Field.pad_plain .left _
  rw [print, funext hchar, List.flatMap_singleton']

/-! ## Recognizing -/

namespace Parser

variable {ι κ α : Type} {p : Parser ι κ α} {x rest : ι}

theorem recognize_eq_success {s : Stretch ι} :
    p.recognize x = .success s rest ↔ s = ⟨x, rest⟩ ∧ ∃ value, p x = .success value rest := by
  rw [recognize, Outcome.andThen_eq_success]
  constructor
  · rintro ⟨value, between, h, ⟨⟩⟩
    exact ⟨rfl, value, h⟩
  · rintro ⟨rfl, value, h⟩
    exact ⟨value, rest, h, rfl⟩

theorem recognize_eq_failure {fault : Fault κ ι} {input : ι} :
    p.recognize x = .failure fault input ↔ p x = .failure fault input := by
  rw [recognize]
  cases p x <;> simp

theorem recognize_eq_aborted {why : Abort} : p.recognize x = .aborted why ↔ p x = .aborted why := by
  rw [recognize]
  cases p x <;> simp

/-- A recognized stretch ends where the rest begins, which is reached from where it starts. -/
theorem Composed.exists_reaches {σ : Type} [Cursor ι σ] {parts : Parts ι α} (hp : p.Composed parts) {s : Stretch ι}
    (h : p.recognize x = .success s rest) : s = ⟨x, rest⟩ ∧ Reaches x rest := by
  obtain ⟨rfl, value, h⟩ := recognize_eq_success.1 h
  exact ⟨rfl, hp.orderly.advances h⟩

end Parser

/-- **Recognizing yields just what was matched.**  It succeeds, fails and gives up where the parser does, with the same
rest and the same fault.  The symbols of the stretch and those of the rest are the symbols ahead of the parser; the
length of the stretch, its size by subtraction and the number of its symbols are what the rest has less; and it is empty
when the rest is where the parser began.  Cut out of a text, with or without lines and columns, or out of a slice, the
stretch is its symbols, which is also what it prints as. -/
theorem recognize_yields_what_was_matched :
    (∀ {ι σ κ α : Type} [Cursor ι σ] {parts : Parts ι α} {p : Parser ι κ α}, p.Composed parts →
      ∀ {x : ι}, Tower x →
        (∀ fault input, p.recognize x = .failure fault input ↔ p x = .failure fault input) ∧
        (∀ why, p.recognize x = .aborted why ↔ p x = .aborted why) ∧
        (∀ s rest, p.recognize x = .success s rest ↔ s = ⟨x, rest⟩ ∧ ∃ value, p x = .success value rest) ∧
        ∀ s rest, p.recognize x = .success s rest →
          symbols s ++ symbols rest = symbols x ∧
          s.length + left rest = left x ∧ (symbols s).length + left rest = left x ∧
          (∀ size, s.size? = some size → size + left rest = left x) ∧ (s.isEmpty = true ↔ rest = x)) ∧
    (∀ {κ α : Type} {parts : Parts Text α} {p : Parser Text κ α}, p.Composed parts → ∀ {x s rest},
      p.recognize x = .success s rest → s.text? = some (symbols s) ∧ s.print Field.plain = symbols s) ∧
    (∀ {κ α : Type} {parts : Parts (Located Text) α} {p : Parser (Located Text) κ α}, p.Composed parts →
      ∀ {x s rest}, p.recognize x = .success s rest →
        (s.map Located.inner).text? = some (symbols s) ∧ s.print Field.plain = symbols s) ∧
    ∀ {σ κ α : Type} [Width σ] [Width.Positive σ] {parts : Parts (Slice σ) α} {p : Parser (Slice σ) κ α},
      p.Composed parts → ∀ {x s rest}, p.recognize x = .success s rest → s.elements? = some (symbols s) ∧
        ∀ [Printable σ], s.print Field.plain = (symbols s).flatMap (Printable.print Field.plain) := by
  refine ⟨fun {ι σ κ α _ parts p} hp x hx => ?_, fun {κ α parts p} hp x s rest h => ?_,
    fun {κ α parts p} hp x s rest h => ?_, fun {σ κ α _ _ parts p} hp x s rest h => ?_⟩
  · have hdistinct : Distinct ι := hx.distinct
    refine ⟨fun _ _ => Parser.recognize_eq_failure, fun _ => Parser.recognize_eq_aborted,
      fun _ _ => Parser.recognize_eq_success, fun s rest h => ?_⟩
    obtain ⟨rfl, hreach⟩ := hp.exists_reaches h
    have hcount := Stretch.left_add_left hreach
    refine ⟨(Distinct.tellsApart x).symbols_stretch_append hreach, ?_, hcount, fun size hsize => ?_,
      Stretch.isEmpty_iff hreach⟩
    · rw [Stretch.length_eq_left hx.truthful hreach, hcount]
    · rw [Stretch.size?_eq_some hx.truthful hreach hsize, hcount]
  · obtain ⟨rfl, hreach⟩ := hp.exists_reaches h
    exact ⟨Text.between?_eq hreach, Stretch.print_plain _⟩
  · obtain ⟨rfl, hreach⟩ := hp.exists_reaches h
    have hcut := Text.between?_eq (Located.reaches_inner hreach)
    exact ⟨hcut.trans (congrArg some (Located.symbols_stretch_inner hreach)), Stretch.print_plain _⟩
  · obtain ⟨rfl, hreach⟩ := hp.exists_reaches h
    exact ⟨Slice.between?_eq hreach, rfl⟩

/-- Letters of one and of two bytes up to a mark, with lines and columns, and two bytes of a slice. -/
theorem recognize_yields_what_was_matched_before_mark :
    let p : Parser (Located Text) TextCause (List Char) := (Parser.satisfying (· != '!')).repeated .any
    let x : Located Text := .ofCursor (Text.ofString "né!")
    let q : Parser (Slice UInt8) PlainCause (UInt8 × UInt8) := Parser.anySymbol.andThen Parser.anySymbol
    let y : Slice UInt8 := .ofList [7, 10, 12]
    (∃ s rest, p.recognize x = .success s rest ∧ symbols s ++ symbols rest = ['n', 'é', '!'] ∧
      s.length + left rest = 3 ∧ s.isEmpty = false ∧ (s.map Located.inner).text? = some ['n', 'é'] ∧
      s.print Field.plain = ['n', 'é']) ∧
    ∃ s rest, q.recognize y = .success s rest ∧ s.size? = some 2 ∧ s.elements? = some [7, 10] ∧
      s.print Field.plain = ['7', '1', '0'] := by
  intro p x q y
  have hp : p.Composed Parts.none.items := (Parser.Composed.satisfying _).repeated _
  have hq : q.Composed (Parts.none.both Parts.none) := Parser.Composed.anySymbol.andThen .anySymbol
  have hx : p.recognize x = .success ⟨x, ⟨⟨3, ['!']⟩, 1, 3⟩⟩ ⟨⟨3, ['!']⟩, 1, 3⟩ := rfl
  have hy : q.recognize y = .success ⟨y, ⟨2, [12]⟩⟩ ⟨2, [12]⟩ := rfl
  obtain ⟨happend, hlength, -, -, hempty⟩ :=
    (recognize_yields_what_was_matched.1 hp ((Tower.text _).located 1 1)).2.2.2 _ _ hx
  obtain ⟨htext, hprint⟩ := recognize_yields_what_was_matched.2.2.1 hp hx
  obtain ⟨helements, hbytes⟩ := recognize_yields_what_was_matched.2.2.2 hq hy
  refine ⟨⟨_, _, hx, happend, hlength, ?_, htext, hprint⟩, _, _, hy, rfl, helements, hbytes⟩
  rw [Bool.eq_false_iff, Ne, hempty]
  exact fun h => absurd (congrArg Located.column h) (by decide)

end Parsing
