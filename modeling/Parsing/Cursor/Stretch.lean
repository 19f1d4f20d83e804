import Parsing.Cursor.Text
import Parsing.Cursor.Slice
/-!
# Stretches — what lies between two cursors, and a cursor itself

A stretch runs from a start to a stop.  As a cursor it moves its start and ends where the start comes to the place of
the stop, so a parser run on a stretch sees nothing behind it.  A stretch whose stop lies before its start never comes
to its stop and runs to the end of the input.
-/
namespace Parsing

/-- The stretch of input from one cursor up to another. -/
structure Stretch (ι : Type) where
  start : ι
  stop : ι

/-- What can be seen of a stretch without its place: its symbols and its length. -/
structure Excerpt (σ : Type) where
  symbols : List σ
  length : Nat

namespace Stretch

open Cursor (samePosition size?)

variable {ι σ : Type} [Cursor ι σ]

/-- A stretch is empty when it starts and stops at the same place. -/
def isEmpty (s : Stretch ι) : Bool := samePosition s.start s.stop

def next (s : Stretch ι) : Option (σ × Stretch ι) :=
  if s.isEmpty then none else (Cursor.next s.start).map fun (a, y) => (a, { s with start := y })

/-- Walks from a cursor towards a stop, along a list as long as what is left at the cursor. -/
def walk (stop : ι) : List σ → ι → List σ
  | [], _ => []
  | _ :: more, x =>
    if samePosition x stop then []
    else match Cursor.next x with
      | none => []
      | some (a, y) => a :: walk stop more y

/-- The symbols of a stretch in order. -/
def symbols (s : Stretch ι) : List σ := walk s.stop (Cursor.symbols s.start) s.start

/-- **The symbols of a stretch are what stepping yields.** -/
theorem symbols_eq (s : Stretch ι) : s.symbols = s.next.elim [] fun step => step.1 :: step.2.symbols := by
  obtain ⟨start, stop⟩ := s
  have h := Cursor.symbols_eq start
  cases hn : Cursor.next start with
  | none =>
    rw [hn] at h
    cases he : samePosition start stop <;> simp [symbols, next, isEmpty, h, hn, he, walk]
  | some step =>
    obtain ⟨a, y⟩ := step
    rw [hn] at h
    cases he : samePosition start stop <;> simp [symbols, next, isEmpty, h, hn, he, walk]

/-- The length by subtraction: what is left at the start less what is left at the stop, where both are known and the
second is not the larger. -/
def size? (s : Stretch ι) : Option Nat :=
  match Cursor.size? s.start, Cursor.size? s.stop with
  | some m, some n => if n ≤ m then some (m - n) else none
  | _, _ => none

instance : Cursor (Stretch ι) σ where
  next := next
  samePosition s t := samePosition s.start t.start
  symbols := symbols
  symbols_eq := symbols_eq
  size? := size?
  isEmpty := isEmpty

/-- The number of symbols, by subtraction where the input knows its size and by walking elsewhere. -/
def length (s : Stretch ι) : Nat := s.size?.getD s.symbols.length

/-- The symbols and the length of a stretch. -/
def excerpt (s : Stretch ι) : Excerpt σ := ⟨s.symbols, s.length⟩

/-- Two stretches are equal when their starts and their stops are. -/
instance {ι : Type} [BEq ι] : BEq (Stretch ι) := ⟨fun s t => s.start == t.start && s.stop == t.stop⟩

/-- The same stretch, seen through a map of cursors. -/
def map {ι κ : Type} (f : ι → κ) (s : Stretch ι) : Stretch κ := ⟨f s.start, f s.stop⟩

/-- The text of a stretch over a text, cut out by byte counts. -/
def text? (s : Stretch Text) : Option (List Char) := Text.between? s.start s.stop

/-- The elements of a stretch over a slice, cut out by element counts. -/
def elements? {σ : Type} (s : Stretch (Slice σ)) : Option (List σ) := Slice.between? s.start s.stop

end Stretch
end Parsing
