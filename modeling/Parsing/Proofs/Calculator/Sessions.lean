import Parsing.Proofs.Calculator.Carets
/-!
# Sessions — replies to one line after the other

A session carries nothing from one line to the next.  It prints the replies to its lines in order, each with a prompt
behind it, up to the first line that asks to leave (`replies_eq_flatMap`).  Splitting into lines carries nothing over
either: a text of whole lines is split into them whatever stands behind it (`lines_append`), and a line asks to leave
wherever its text stands between two ends of lines (`farewell_mem_lines_iff`).  So a session over two such texts is the
one over the first and then the one over the second without its opening, and nothing shows of what stands behind a line
that asks to leave.

Main statement: `transcript_joins_replies`.
-/
namespace Parsing.Calculator

/-! ## Replies -/

theorem replies_eq_flatMap : ∀ (ls : List (List Char)),
    replies ls = (ls.takeWhile (· != farewell)).flatMap fun line => reply line ++ prompt
  | [] => rfl
  | line :: more => by
    rw [replies]
    by_cases h : line = farewell
    · rw [if_pos h, List.takeWhile_cons_of_neg (by simp [h]), List.flatMap_nil]
    · rw [if_neg h, List.takeWhile_cons_of_pos (by simp [h]), List.flatMap_cons, replies_eq_flatMap more]

/-- **Behind a line that asks to leave nothing is replied to.** -/
theorem replies_farewell (more more' : List (List Char)) : ∀ (before : List (List Char)),
    replies (before ++ farewell :: more) = replies (before ++ farewell :: more')
  | [] => by
    rw [List.nil_append, List.nil_append, replies, replies, if_pos rfl, if_pos rfl]
  | line :: before => by
    rw [List.cons_append, List.cons_append, replies, replies, replies_farewell more more' before]

/-! ## Whole lines -/

/-- A text of whole lines: the last one has its end. -/
def WholeLines (text : List Char) : Prop := text = [] ∨ text.getLast? = some '\n'

instance (text : List Char) : Decidable (WholeLines text) := inferInstanceAs (Decidable (_ ∨ _))

/-- Behind these characters a line is over: they begin with an LF or a CR LF, or the text ends. -/
inductive EndsLine : List Char → Prop
  | nothing : EndsLine []
  | feed (more : List Char) : EndsLine ('\n' :: more)
  | returnFeed (more : List Char) : EndsLine ('\r' :: '\n' :: more)

/-- A line of the text asks to leave. -/
def AsksToLeave (text : List Char) : Prop :=
  ∃ before behind, text = before ++ farewell ++ behind ∧ WholeLines before ∧ EndsLine behind

theorem WholeLines.append {s t : List Char} (hs : WholeLines s) (ht : WholeLines t) : WholeLines (s ++ t) := by
  rcases ht with rfl | ht
  · rwa [List.append_nil]
  · exact .inr (by rw [List.getLast?_append, ht, Option.some_or])

theorem AsksToLeave.behind {s t : List Char} (hs : WholeLines s) (ht : AsksToLeave t) : AsksToLeave (s ++ t) := by
  obtain ⟨before, behind, rfl, hbefore, hbehind⟩ := ht
  exact ⟨s ++ before, behind, by simp only [List.append_assoc], hs.append hbefore, hbehind⟩

theorem linesFrom_append (t : List Char) : ∀ (s read : List Char), s.getLast? = some '\n' →
    linesFrom read (s ++ t) = linesFrom read s ++ linesFrom [] t
  | [], _, h => by cases h
  | [c], read, h => by
    obtain rfl : c = '\n' := Option.some.inj h
    rfl
  | c :: d :: cs, read, h => by
    have hlast : (d :: cs).getLast? = some '\n' := by rwa [List.getLast?_cons_cons] at h
    rw [List.cons_append, linesFrom, linesFrom, linesFrom_append t (d :: cs) [] hlast,
      linesFrom_append t (d :: cs) (read ++ [c]) hlast]
    split <;> rfl

/-- **A text of whole lines is split into them whatever stands behind it.** -/
theorem lines_append {s : List Char} (hs : WholeLines s) (t : List Char) : lines (s ++ t) = lines s ++ lines t := by
  rcases hs with rfl | hs
  · rfl
  · exact linesFrom_append t s [] hs

theorem exists_lines_farewell {behind : List Char} (h : EndsLine behind) :
    ∃ more, lines (farewell ++ behind) = farewell :: more := by
  cases h with
  | nothing => exact ⟨[], rfl⟩
  | feed more => exact ⟨lines more, rfl⟩
  | returnFeed more => exact ⟨lines more, rfl⟩

theorem eq_of_dropReturn_eq_farewell {line : List Char} (h : dropReturn line = farewell) :
    line = farewell ∨ line = farewell ++ ['\r'] := by
  unfold dropReturn at h
  split at h
  · rename_i hlast
    obtain ⟨front, rfl⟩ := List.getLast?_eq_some_iff.1 hlast
    rw [List.dropLast_concat] at h
    exact .inr (congrArg (· ++ ['\r']) h)
  · exact .inl h

theorem asksToLeave_of_mem_linesFrom : ∀ (text read : List Char), farewell ∈ linesFrom read text →
    AsksToLeave (read ++ text)
  | [], read, h => by
    rw [linesFrom] at h
    split at h
    · cases h
    · obtain rfl := List.mem_singleton.1 h
      exact ⟨[], [], rfl, .inl rfl, .nothing⟩
  | c :: cs, read, h => by
    rw [linesFrom] at h
    split at h
    · rename_i hc
      subst hc
      rcases List.mem_cons.1 h with hread | hmore
      · -- What was read of the line may end in the CR of a CR LF.
        rcases eq_of_dropReturn_eq_farewell hread.symm with rfl | rfl
        · exact ⟨[], '\n' :: cs, rfl, .inl rfl, .feed cs⟩
        · exact ⟨[], '\r' :: '\n' :: cs, rfl, .inl rfl, .returnFeed cs⟩
      · have hwhole : WholeLines (read ++ ['\n']) := .inr List.getLast?_concat
        have hbehind := (asksToLeave_of_mem_linesFrom cs [] hmore).behind hwhole
        rwa [List.append_assoc] at hbehind
    · have hmore := asksToLeave_of_mem_linesFrom cs (read ++ [c]) h
      rwa [List.append_assoc] at hmore

/-- **A line asks to leave just where its text stands between two ends of lines.** -/
theorem farewell_mem_lines_iff {text : List Char} : farewell ∈ lines text ↔ AsksToLeave text := by
  constructor
  · exact asksToLeave_of_mem_linesFrom text []
  · rintro ⟨before, behind, rfl, hbefore, hbehind⟩
    obtain ⟨more, hmore⟩ := exists_lines_farewell hbehind
    rw [List.append_assoc, lines_append hbefore, hmore]
    exact List.mem_append_right _ List.mem_cons_self

/-- **A session is the replies to its lines, one after the other.**  It prints a greeting and a prompt, and then for
each line up to the one that asks to leave what the line is replied to with, and a prompt.  So behind whole lines of
which none asks to leave, a text is replied to as it is in a session of its own; and behind a line that asks to leave,
it does not matter what the text goes on with, or how that line ends. -/
theorem transcript_joins_replies :
    (∀ text, transcript text = greeting ++ prompt ++
      ((lines text).takeWhile (· != farewell)).flatMap fun line => reply line ++ prompt) ∧
    (∀ s t, WholeLines s → ¬ AsksToLeave s →
      ∃ body, transcript t = greeting ++ prompt ++ body ∧ transcript (s ++ t) = transcript s ++ body) ∧
    ∀ before behind behind', WholeLines before → EndsLine behind → EndsLine behind' →
      transcript (before ++ farewell ++ behind) = transcript (before ++ farewell ++ behind') := by
  refine ⟨fun text => congrArg _ (replies_eq_flatMap _), fun s t hs hstay => ⟨replies (lines t), rfl, ?_⟩,
    fun before behind behind' hbefore hbehind hbehind' => ?_⟩
  · have hnone : farewell ∉ lines s := fun h => hstay (farewell_mem_lines_iff.1 h)
    rw [transcript, transcript, lines_append hs, replies_append hnone]
    simp only [List.append_assoc]
  · obtain ⟨more, hmore⟩ := exists_lines_farewell hbehind
    obtain ⟨more', hmore'⟩ := exists_lines_farewell hbehind'
    rw [transcript, transcript, List.append_assoc before, List.append_assoc before, lines_append hbefore,
      lines_append hbefore, hmore, hmore', replies_farewell more more']

/-- A sum, a blank line and a product; and a line that asks to leave, ended in CR LF and by the end of the input. -/
theorem transcript_joins_replies_of_sum_and_product :
    let s := "1+2\r\n\n".toList
    let t := "2*3\nq\n4".toList
    (WholeLines s ∧ ¬ AsksToLeave s) ∧ transcript t = greeting ++ prompt ++ "6\n> ".toList ∧
      transcript (s ++ t) = transcript s ++ "6\n> ".toList ∧
      transcript (s ++ farewell ++ "\r\n4".toList) = transcript (s ++ farewell ++ []) := by
  intro s t
  have hs : WholeLines s := by decide
  have hstay : ¬ AsksToLeave s := by
    rw [← farewell_mem_lines_iff]
    decide +kernel
  have ht : transcript t = greeting ++ prompt ++ "6\n> ".toList := by decide +kernel
  obtain ⟨body, hbody, hjoined⟩ := transcript_joins_replies.2.1 s t hs hstay
  obtain rfl : "6\n> ".toList = body := List.append_cancel_left (ht.symm.trans hbody)
  exact ⟨⟨hs, hstay⟩, ht, hjoined, transcript_joins_replies.2.2 s _ _ hs (.returnFeed ['4']) .nothing⟩

end Parsing.Calculator
