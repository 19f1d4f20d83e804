import Parsing.Calculator.Session
import Parsing.Proofs.Calculator.Grounds
import Parsing.Proofs.Coordinates
/-!
# Carets — where the calculator points in a rejected line

A rejected line is answered by one line: a caret under the column of the fault, and the column.  The column is that of a
located cursor, for which a CR ends a line; a line of the input ends at LF or CR LF only and may have other CRs in it.
So the column is counted from the last CR before the fault, and the caret stands under the fault just if there is none.

Main statement: `caret_under_fault_iff`.
-/
namespace Parsing

open Cursor (left symbols)

/-! ## Columns in a text -/

/-- **On its first line, the column of an offset is the offset**, counted from 1, and on no other. -/
theorem columnAt_eq_iff (s : List Char) (k : Nat) : columnAt s k = k + 1 ↔ ∀ i < k, ¬ BreaksAt s i := by
  induction k with
  | zero => exact ⟨fun _ _ h => absurd h (Nat.not_lt_zero _), fun _ => rfl⟩
  | succ k ih =>
    rw [columnAt_succ, Nat.forall_lt_succ_right]
    by_cases hb : BreaksAt s k
    · rw [if_pos hb]
      exact ⟨nofun, fun h => absurd hb h.2⟩
    · rw [if_neg hb, Nat.succ_inj, ih]
      exact ⟨fun h => ⟨h, hb⟩, And.left⟩

/-- In a text without LF it is the CRs that break lines. -/
theorem breaksAt_iff_of_not_mem {s : List Char} (h : '\n' ∉ s) (i : Nat) : BreaksAt s i ↔ s[i]? = some '\r' := by
  have hline (j : Nat) : s[j]? ≠ some '\n' := fun hj => h (List.mem_of_getElem? hj)
  unfold BreaksAt
  simp [hline]

theorem columnAt_eq_iff_of_not_mem {s : List Char} (h : '\n' ∉ s) (k : Nat) :
    columnAt s k = k + 1 ↔ '\r' ∉ s.take k := by
  rw [columnAt_eq_iff, List.mem_iff_getElem?, not_exists]
  refine forall_congr' fun i => ?_
  rw [breaksAt_iff_of_not_mem h, List.getElem?_take]
  by_cases hi : i < k
  · simp [hi]
  · simp [hi]

namespace Calculator

open Unicode (isWhiteSpace)

/-! ## Lines of the input -/

theorem not_mem_dropReturn {c : Char} {line : List Char} (h : c ∉ line) : c ∉ dropReturn line := by
  unfold dropReturn
  split
  · exact fun hc => h (line.dropLast_sublist.mem hc)
  · exact h

theorem not_mem_of_mem_linesFrom : ∀ (text read : List Char), '\n' ∉ read → ∀ line ∈ linesFrom read text, '\n' ∉ line
  | [], read, h => by
    rw [linesFrom]
    split
    · exact List.forall_mem_nil _
    · exact List.forall_mem_singleton.2 h
  | c :: cs, read, h => by
    rw [linesFrom]
    split
    · exact List.forall_mem_cons.2 ⟨not_mem_dropReturn h, not_mem_of_mem_linesFrom cs [] List.not_mem_nil⟩
    · rename_i hc
      refine not_mem_of_mem_linesFrom cs (read ++ [c]) fun hmem => ?_
      rcases List.mem_append.1 hmem with hread | hlast
      · exact h hread
      · exact hc (List.mem_singleton.1 hlast).symm

/-- **No line has an LF in it.** -/
theorem not_mem_of_mem_lines {text line : List Char} (h : line ∈ lines text) : '\n' ∉ line :=
  not_mem_of_mem_linesFrom text [] List.not_mem_nil line h

/-- **Lines are replied to one after the other**, as long as none asks to leave. -/
theorem replies_append {before : List (List Char)} (h : farewell ∉ before) (more : List (List Char)) :
    replies (before ++ more) = replies before ++ replies more := by
  induction before with
  | nil => rfl
  | cons line before ih =>
    have hline : line ≠ farewell := (List.ne_of_not_mem_cons h).symm
    rw [List.cons_append, replies, replies, if_neg hline, if_neg hline, ih (List.not_mem_of_not_mem_cons h)]
    simp only [List.append_assoc]

/-! ## The line with the caret -/

/-- A line with a caret behind so many spaces, a column and a message. -/
def pointer (spaces column : Nat) (message : List Char) : List Char :=
  List.replicate spaces ' ' ++
    '^' :: (" column ".toList ++ (toString column).toList ++ ": ".toList ++ message ++ ['\n'])

theorem takeWhile_pointer (spaces column : Nat) (message : List Char) :
    (pointer spaces column message).takeWhile (· == ' ') = List.replicate spaces ' ' := by
  rw [pointer, List.takeWhile_append_of_pos fun c hc => beq_iff_eq.2 (List.eq_of_mem_replicate hc),
    List.takeWhile_cons_of_neg (by decide), List.append_nil]

theorem spaces_eq_of_pointer_eq {m n c d : Nat} {message : List Char} (h : pointer m c message = pointer n d message) :
    m = n := by
  have hspaces := congrArg (List.takeWhile (· == ' ')) h
  rw [takeWhile_pointer, takeWhile_pointer] at hspaces
  simpa using congrArg List.length hspaces

/-- **A caret and a message make one line**, if the message does. -/
theorem exists_body_pointer (spaces column : Nat) {message : List Char} (h : '\n' ∉ message) :
    ∃ body, pointer spaces column message = body ++ ['\n'] ∧ '\n' ∉ body := by
  refine ⟨List.replicate spaces ' ' ++ '^' :: (" column ".toList ++ (toString column).toList ++ ": ".toList ++ message),
    by simp [pointer], ?_⟩
  have hcolumn : '\n' ∉ Nat.toDigits 10 column := fun hc =>
    absurd (Nat.isDigit_of_mem_toDigits (by decide) (by decide) hc) (by decide)
  simp [hcolumn, h]

/-! ## Rejected lines -/

/-- **A fault is in its line**, behind as many characters as are not left there. -/
theorem position_eq_place {line : List Char} {fault : Fault TextCause (Located Text)} {given : Located Text}
    (h : evaluate line = .failure fault given) :
    left fault.position ≤ line.length ∧ fault.position = place line (line.length - left fault.position) := by
  have ho : (evaluate line).Orderly Parts.none (Located.ofCursor (⟨0, line⟩ : Text)) :=
    composed_calculation.orderly (Located.ofCursor (⟨0, line⟩ : Text))
  rw [h] at ho
  obtain ⟨count, hle, hcount⟩ := ho.2
  have hcount : place line count = fault.position := hcount
  have hle : count ≤ line.length := hle
  have hleft : left fault.position = line.length - count := by rw [← hcount, left_place]
  rw [hleft, Nat.sub_sub_self hle]
  exact ⟨Nat.sub_le _ _, hcount.symm⟩

theorem column_place {line : List Char} {k : Nat} (h : k ≤ line.length) : (place line k).column = columnAt line k :=
  congrArg Prod.snd (Located.coordinates_after (⟨0, line⟩ : Text) k h)

/-- **What is told of a line is told in one line.** -/
theorem not_mem_message {line : List Char} {fault : Fault TextCause (Located Text)} {given : Located Text}
    (h : evaluate line = .failure fault given) : '\n' ∉ fault.cause.message.toList := by
  have hexpected : ∀ c, c = '(' ∨ c = ')' → '\n' ∉ (TextCause.expected c).message.toList := by
    rintro c (rfl | rfl) <;> decide +kernel
  have hreason : ∀ reason : ArithmeticError, '\n' ∉ reason.message.toList := by
    intro reason
    cases reason <;> decide +kernel
  have hblames : (evaluate line).Blames _ := blames_calculation (Located.ofCursor (⟨0, line⟩ : Text))
  rw [h] at hblames
  rcases hblames with hend | @⟨c, hc, position⟩ | @⟨tier, before, behind, first, links, reason, hs, hrefused⟩
  · rw [hend]
    decide +kernel
  · exact hexpected c hc
  · exact hreason reason

theorem answer_of_failure {line : List Char} {fault : Fault TextCause (Located Text)} {given : Located Text}
    (h : evaluate line = .failure fault given) :
    answer line = pointer (fault.position.column + 1) fault.position.column fault.cause.message.toList := by
  have hpad : Printing.Field.padTo (fault.position.column + 2) .right ['^'] =
      List.replicate (fault.position.column + 1) ' ' ++ ['^'] := rfl
  -- The equation of `answer` would be checked by running the calculator on an unknown line.
  delta answer
  rw [h, pointer]
  simp only [hpad, List.append_assoc, List.cons_append, List.nil_append]

/-- **The caret stands under the fault if and only if no CR comes before it.**  A line that is neither blank nor asks to
leave, nor comes behind one that does, and that is rejected, is replied to between two prompts by one line.  The column
in it is that of the fault in a text where CRs break lines, and the caret stands one column further on than that, as
the line stands two columns behind its prompt.  So there are two spaces and one for each character before the fault,
and the column is one more than there are such characters, just if no CR is among these. -/
theorem caret_under_fault_iff (input : List Char) {before more : List (List Char)} {line : List Char}
    {fault : Fault TextCause (Located Text)} {given : Located Text} (hlines : lines input = before ++ line :: more)
    (hbefore : farewell ∉ before) (hline : line ≠ farewell) (hblank : line.all isWhiteSpace = false)
    (hfault : evaluate line = .failure fault given) :
    let k := line.length - left fault.position
    let message := fault.cause.message.toList
    fault.position = place line k ∧
      transcript input = greeting ++ prompt ++ replies before ++ reply line ++ prompt ++ replies more ∧
      (∃ body, reply line = body ++ ['\n'] ∧ '\n' ∉ body) ∧
      reply line = pointer (columnAt line k + 1) (columnAt line k) message ∧
      (reply line = pointer (2 + k) (k + 1) message ↔ '\r' ∉ line.take k) := by
  intro k message
  obtain ⟨-, hposition⟩ := position_eq_place hfault
  have hcolumn : fault.position.column = columnAt line k := by
    rw [hposition]
    exact column_place (Nat.sub_le _ _)
  have hreply : reply line = pointer (columnAt line k + 1) (columnAt line k) message := by
    rw [reply, hblank, if_neg Bool.false_ne_true, answer_of_failure hfault, hcolumn]
  have hmem : line ∈ lines input := by
    rw [hlines]
    exact List.mem_append_right _ List.mem_cons_self
  have hfeed := not_mem_of_mem_lines hmem
  refine ⟨hposition, ?_, ?_, hreply, ?_⟩
  · rw [transcript, hlines, replies_append hbefore, replies, if_neg hline]
    simp only [List.append_assoc]
  · rw [hreply]
    exact exists_body_pointer _ _ (not_mem_message hfault)
  · rw [hreply, ← columnAt_eq_iff_of_not_mem hfeed]
    constructor
    · intro h
      have hspaces := spaces_eq_of_pointer_eq h
      omega
    · intro h
      rw [h, Nat.add_comm 2 k]

theorem caret_under_fault_iff_of_division :
    let input := "2\r\n\n 1/0 \nq\n3".toList
    let line := " 1/0 ".toList
    lines input = ["2".toList, []] ++ line :: [['q'], ['3']] ∧
      evaluate line = .failure ⟨.custom "division by zero", place line 4⟩ (place line 0) ∧
      reply line = pointer 6 5 "division by zero".toList ∧
      transcript input = greeting ++ prompt ++ replies ["2".toList, []] ++ reply line ++ prompt ++ [] := by
  intro input line
  have hlines : lines input = ["2".toList, []] ++ line :: [['q'], ['3']] := by decide +kernel
  have hfailure : evaluate line = .failure ⟨.custom "division by zero", place line 4⟩ (place line 0) := by rfl
  obtain ⟨-, htranscript, -, -, hcaret⟩ :=
    caret_under_fault_iff input hlines (by decide) (by decide) (by decide) hfailure
  exact ⟨hlines, hfailure, hcaret.2 (by decide), htranscript⟩

/-- Behind a CR columns start again, so the caret stands under the first character and not under the fault. -/
theorem caret_not_under_fault_behind_return :
    let input := "1\rq\n2".toList
    let line := "1\rq".toList
    lines input = [line, ['2']] ∧
      evaluate line = .failure ⟨.general .endExpected, place line 2⟩ (place line 0) ∧
      reply line = pointer 2 1 "expected end of input".toList ∧
      reply line ≠ pointer (2 + 2) (2 + 1) "expected end of input".toList := by
  intro input line
  have hreply : reply line = pointer 2 1 "expected end of input".toList := by decide +kernel
  refine ⟨by decide +kernel, by rfl, hreply, ?_⟩
  rw [hreply]
  decide +kernel

end Calculator
end Parsing
