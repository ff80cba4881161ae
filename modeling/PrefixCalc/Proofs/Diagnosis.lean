import PrefixCalc.Proofs.Refusal

/-!
# Diagnostics point at the first fault

A text is viable (`Grammar.Viable`) if it can be completed to a line that is accepted. For lines
that do not start with a colon, the diagnostic of a rejected line divides it into the longest viable
beginning and the rest: what comes before the place it names is viable, and with the character there
it is not. What the diagnostic lists as expected are the characters that keep the text viable, apart
from blanks and digits, and the end of the text if the line could end there.

All of this is read off the stage at which the reader gets stuck: a text without a leading colon is
viable if and only if the stages run over it (`viable_of_run`, `exists_run_of_viable`).
-/

namespace PrefixCalc.Grammar

open Stage (Reaches Fails Stuck Closes)

/-! ## Outcomes of lines -/

/-- The rules that a line is tried as, in order. -/
def alternatives : List (Rule Command) :=
  Verb.all.map request ++ [program.map fun t => ⟨.eval, t⟩]

section
variable {c next : Cursor} {cmd : Command} {alt : Option Failure} {why : Failure}

/-- A line fails where all alternatives fail. -/
theorem line_of_choice_fail (h : Rule.choice alternatives c = .fail why) : line c = .fail why := by
  show Rule.keepLeft (Rule.choice alternatives) Rule.endOfInput c = .fail why
  rw [Rule.keepLeft, Rule.map, Rule.andThen_fail h]

/-- A line is read as an alternative that leaves nothing over. -/
theorem line_of_choice_ok (h : Rule.choice alternatives c = .ok cmd alt next)
    (hnext : next.rest = []) : line c = .ok cmd (Failure.furthest? alt none) next := by
  have hend : Rule.endOfInput next = .ok () none next := by
    rw [Rule.endOfInput, hnext]
  show Rule.keepLeft (Rule.choice alternatives) Rule.endOfInput c = _
  rw [Rule.keepLeft, Rule.map, Rule.andThen_ok_ok h hend]

/-- What an alternative leaves over is refused, unless it gave up further on. -/
theorem line_of_choice_rest (h : Rule.choice alternatives c = .ok cmd (some why) next)
    (hnext : next.rest ≠ []) : line c = .fail ((next.refuse [.endOfInput]).further why) := by
  have hend : Rule.endOfInput next = .fail (next.refuse [.endOfInput]) := by
    obtain ⟨x, xs, hx⟩ := List.exists_cons_of_ne_nil hnext
    rw [Rule.endOfInput, hx]
  show Rule.keepLeft (Rule.choice alternatives) Rule.endOfInput c = _
  rw [Rule.keepLeft, Rule.map, Rule.andThen_ok_fail h hend rfl]

end

section
variable {c : Cursor}

/-- Operands are read along the stages. -/
theorem followsStages_operand (n : Nat) : FollowsStages n operand :=
  fun d c _ hc => followsStages_operandUpTo (c.rest.length + 1) d c (Nat.lt_succ_self _) hc

/-- Programs are read along the stages. -/
theorem program_outcome (c : Cursor) : ApplicationOutcome 0 c (program c) :=
  (followsStages_operand c.rest.length).spacedApplication_outcome (Nat.le_refl _) .bare

/-- A request is refused where no colon stands. -/
theorem request_fail (h : c.rest.head? ≠ some ':') (verb : Verb) :
    request verb c = .fail (c.refuse [.char ':']) := by
  have hcolon := Rule.andThen_fail (s := Lexeme.keyword verb.name) (Rule.char_fail h)
  rw [request, Rule.map, Rule.keepRight, Rule.map, Rule.andThen_fail hcolon]

/-- Where no colon stands, requests leave it to the other alternatives, and a colon is expected. -/
theorem choiceAfter_requests (h : c.rest.head? ≠ some ':') (verbs : List Verb)
    (rs : List (Rule Command)) :
    Rule.choiceAfter (some (c.refuse [.char ':'])) (verbs.map request ++ rs) c =
      Rule.choiceAfter (some (c.refuse [.char ':'])) rs c := by
  induction verbs with
  | nil => rfl
  | cons verb verbs ih =>
    have hmerged : Failure.furthest? (some (c.refuse [.char ':'])) (some (c.refuse [.char ':'])) =
        some (c.refuse [.char ':']) := congrArg some (Failure.further_self _)
    rw [List.map_cons, List.cons_append, Rule.choiceAfter_fail (request_fail h verb), hmerged]
    exact ih

/-- Where no colon stands, a program is the only alternative. -/
theorem choice_eq (h : c.rest.head? ≠ some ':') : Rule.choice alternatives c =
    Rule.choiceAfter (some (c.refuse [.char ':'])) [program.map fun t => ⟨.eval, t⟩] c := by
  rw [← choiceAfter_requests h [.leaves, .branches, .tree]]
  exact Rule.choiceAfter_fail (request_fail h .eval) none _

section
variable {t : Term} {alt : Option Failure} {why : Failure} {next : Cursor}

/-- A line fails where its program fails, unless a colon could help. -/
theorem line_of_program_fail (h : c.rest.head? ≠ some ':') (hprogram : program c = .fail why) :
    line c = .fail (why.further (c.refuse [.char ':'])) := by
  have hbare : program.map (fun t => (⟨.eval, t⟩ : Command)) c = .fail why := by
    rw [Rule.map, hprogram]
  exact line_of_choice_fail ((choice_eq h).trans (Rule.choiceAfter_fail hbare _ []))

/-- Where a program stands, it is the alternative that is taken. -/
theorem choice_of_program_ok (h : c.rest.head? ≠ some ':') (hprogram : program c = .ok t alt next) :
    Rule.choice alternatives c = .ok ⟨.eval, t⟩ alt next := by
  have hbare : program.map (fun t => (⟨.eval, t⟩ : Command)) c = .ok ⟨.eval, t⟩ alt next := by
    rw [Rule.map, hprogram]
  exact (choice_eq h).trans (Rule.choiceAfter_ok hbare _ [])

end

/-- Where no colon stands, a line is read along the stages to the end of the text, or it fails at
the front, where a colon is expected as well, or further on where the stages get stuck. -/
theorem line_outcome (h : c.rest.head? ≠ some ':') :
    (∃ cmd alt next, line c = .ok cmd alt next ∧ next.rest = [] ∧
      Reaches .start c .done next) ∨
    (line c = .fail (c.refuseAs (.named "operator") (Stage.start.expected ++ [.char ':'])) ∧
      Stuck .start c.rest) ∨
    ∃ why, line c = .fail why ∧ c.pos < why.reach ∧ Fails .start c why := by
  have houtcome := program_outcome c
  cases hprogram : program c with
  | fail why =>
    rw [hprogram] at houtcome
    have hline := line_of_program_fail h hprogram
    rcases houtcome.cases with ⟨hstuck, rfl⟩ | ⟨-, -, -, -, -, -, hlt⟩
    · refine .inr (.inl ⟨hline.trans ?_, hstuck⟩)
      rw [Cursor.refuse_eq_refuseAs]
      exact congrArg Reply.fail Failure.further_refuseAs
    · refine .inr (.inr ⟨why, hline.trans ?_, hlt, houtcome⟩)
      exact congrArg Reply.fail (Failure.further_eq_left hlt)
  | ok t alt next =>
    rw [hprogram] at houtcome
    obtain ⟨hreach, hnext, why, rfl, hfails⟩ := houtcome
    have hchoice := choice_of_program_ok h hprogram
    by_cases hclose : Closes 0 next.rest
    · exact .inl ⟨_, _, next, line_of_choice_ok hchoice hclose, hclose, hreach⟩
    · have hlast := hfails.closer hnext hclose
      refine .inr (.inr ⟨_, line_of_choice_rest hchoice hclose, ?_, hreach.fails hlast⟩)
      have hpos := hreach.pos_lt (by decide)
      rw [Failure.reach_further]
      show c.pos < max next.pos why.reach
      omega

end

/-! ## Rejected and accepted texts -/

/-- What a reader that is stuck after `u` expected: at the front of a line also a colon. -/
def expectedAfter (u : List Char) (s : Stage) : List Expectation :=
  if u = [] then s.expected ++ [.char ':'] else s.expected

/-- A line without a leading colon that is accepted is a program of the stages. -/
theorem run_of_parse_ok {text : String} {cmd : Command} (hcolon : text.toList.head? ≠ some ':')
    (h : parse text = .ok cmd) : Stage.run .start text.toList = some .done := by
  rw [parse, Rule.read] at h
  rcases line_outcome (c := Cursor.ofText text) hcolon with
    ⟨cmd', alt, next, hline, hnext, u, hrest, -, hrun⟩ | ⟨hline, -⟩ | ⟨why, hline, -⟩
  · rw [hnext, List.append_nil] at hrest
    rw [← hrest] at hrun
    exact hrun
  · rw [hline] at h
    cases h
  · rw [hline] at h
    cases h

/-- A line without a leading colon that is rejected divides where the stages get stuck, and the
diagnostic says what is reported there. -/
theorem exists_stuck_of_parse_error {text : String} {diag : Diagnostic}
    (hcolon : text.toList.head? ≠ some ':') (h : parse text = .error diag) :
    ∃ u rest s, text.toList = u ++ rest ∧ Stage.run .start u = some s ∧ s.Stuck rest ∧
      diag = (Cursor.refuseAs ⟨u.length, rest⟩ (.named s.label) (expectedAfter u s)).diagnostic := by
  rw [parse, Rule.read] at h
  rcases line_outcome (c := Cursor.ofText text) hcolon with
    ⟨cmd, alt, next, hline, -⟩ | ⟨hline, hstuck⟩ | ⟨why, hline, hlt, hfails⟩
  · rw [hline] at h
    cases h
  · rw [hline] at h
    cases h
    exact ⟨[], text.toList, .start, rfl, rfl, hstuck, rfl⟩
  · rw [hline] at h
    cases h
    obtain ⟨s, ⟨q, rest⟩, ⟨u, hrest, hpos, hrun⟩, hstuck, rfl⟩ := hfails
    refine ⟨u, rest, s, hrest, hrun, hstuck, ?_⟩
    have hq : q = u.length := hpos.trans (Nat.zero_add _)
    have hu : u ≠ [] := by
      intro hu
      rw [hq, hu] at hlt
      exact absurd hlt (Nat.lt_irrefl 0)
    rw [expectedAfter, if_neg hu, hq]
    rfl

/-! ## Viable texts -/

/-- A line that is accepted. -/
def Accepted (u : List Char) : Prop := ∃ cmd, parse (String.ofList u) = .ok cmd

/-- A text that can be completed to a line that is accepted. -/
def Viable (u : List Char) : Prop := ∃ v, Accepted (u ++ v)

section
variable {u : List Char} {s : Stage}

/-- No program starts with a colon. -/
theorem head_ne_colon_of_run (h : Stage.run .start u = some s) : u.head? ≠ some ':' := by
  cases u with
  | nil => simp
  | cons x u =>
    intro hx
    cases hx
    rw [Stage.run_cons] at h
    cases h

/-- A program of the stages is accepted. -/
theorem accepted_of_run (h : Stage.run .start u = some .done) : Accepted u := by
  have htext : (String.ofList u).toList = u := String.toList_ofList
  cases hparse : parse (String.ofList u) with
  | ok cmd => exact ⟨cmd, hparse⟩
  | error diag =>
    have hcolon : (String.ofList u).toList.head? ≠ some ':' := by
      rw [htext]
      exact head_ne_colon_of_run h
    obtain ⟨u', rest, s, hu, hrun, hstuck, -⟩ := exists_stuck_of_parse_error hcolon hparse
    rw [htext] at hu
    rw [hu] at h
    obtain ⟨s', hrun', hrest⟩ := Stage.exists_run_of_append h
    cases hrun.symm.trans hrun'
    exact absurd hrest hstuck.run_ne_done

/-- A text over which the stages run is viable. -/
theorem viable_of_run (h : Stage.run .start u = some s) : Viable u := by
  obtain ⟨v, hv⟩ := s.exists_completion
  refine ⟨v, accepted_of_run ?_⟩
  rw [Stage.run_append, h]
  exact hv

/-- The stages run over a viable text that starts with a character other than a colon. -/
theorem exists_run_of_viable (hne : u ≠ []) (hcolon : u.head? ≠ some ':') (h : Viable u) :
    ∃ s, Stage.run .start u = some s := by
  obtain ⟨v, cmd, hparse⟩ := h
  have htext : (String.ofList (u ++ v)).toList = u ++ v := String.toList_ofList
  have hhead : (u ++ v).head? ≠ some ':' := by
    cases u with
    | nil => exact absurd rfl hne
    | cons x u => exact hcolon
  have hrun := run_of_parse_ok (by rwa [htext]) hparse
  rw [htext] at hrun
  obtain ⟨s, hs, -⟩ := Stage.exists_run_of_append hrun
  exact ⟨s, hs⟩

/-- One more character keeps a text viable if the stages can take it. -/
theorem viable_append_iff {x : Char} (hrun : Stage.run .start u = some s) (hx : u = [] → x ≠ ':') :
    Viable (u ++ [x]) ↔ ∃ s', s.step x = some s' := by
  have hstep : Stage.run .start (u ++ [x]) = s.step x := by
    rw [Stage.run_append, hrun]
    show s.run [x] = s.step x
    rw [Stage.run_cons]
    cases s.step x <;> rfl
  refine ⟨fun h => ?_, fun ⟨s', hs'⟩ => viable_of_run (hstep.trans hs')⟩
  have hcolon : (u ++ [x]).head? ≠ some ':' := by
    cases u with
    | nil => simpa using hx rfl
    | cons y u => exact head_ne_colon_of_run (u := y :: u) hrun
  obtain ⟨s', hs'⟩ := exists_run_of_viable (by simp) hcolon h
  exact ⟨s', hstep.symm.trans hs'⟩

/-- A colon is viable. -/
theorem viable_colon : Viable [':'] := by
  obtain ⟨cmd, h⟩ := accepted_of_run (u := ['+', '0']) rfl
  have hline := parse_eq_ok_iff.1 h
  rw [String.toList_ofList] at hline
  cases hline with
  | @bare _ t hprogram =>
    refine ⟨Verb.eval.name.toList ++ ['+', '0'], ⟨.eval, t⟩, parse_eq_ok_iff.2 ?_⟩
    rw [String.toList_ofList]
    exact .request .eval hprogram

/-- A text over which the stages run is accepted if they end there. -/
theorem accepted_iff (hrun : Stage.run .start u = some s) : Accepted u ↔ s = .done := by
  refine ⟨fun ⟨cmd, h⟩ => ?_, fun h => accepted_of_run (h ▸ hrun)⟩
  have htext : (String.ofList u).toList = u := String.toList_ofList
  have hdone := run_of_parse_ok (by rw [htext]; exact head_ne_colon_of_run hrun) h
  rw [htext, hrun] at hdone
  exact Option.some.inj hdone

end

/-! ## What diagnostics say -/

section
variable {u rest : List Char} {s : Stage} {x : Char}

/-- A stuck reader expects the characters that keep the text viable, apart from blanks and
digits. -/
theorem char_mem_expectedAfter_iff (hrun : Stage.run .start u = some s) :
    .char x ∈ expectedAfter u s ↔
      isBlank x = false ∧ x.isDigit = false ∧ Viable (u ++ [x]) := by
  by_cases hfront : u = [] ∧ x = ':'
  · -- The one character that the stages do not know of.
    obtain ⟨rfl, rfl⟩ := hfront
    have hmem : .char ':' ∈ expectedAfter [] s := List.mem_append_right _ (.head _)
    exact ⟨fun _ => ⟨by decide, by decide, viable_colon⟩, fun _ => hmem⟩
  · have hmem : .char x ∈ expectedAfter u s ↔ .char x ∈ s.expected := by
      unfold expectedAfter
      split
      · next hu =>
        have hx : x ≠ ':' := fun hx => hfront ⟨hu, hx⟩
        simp [hx]
      · exact Iff.rfl
    rw [hmem, Stage.char_mem_expected_iff, viable_append_iff hrun fun hu hx => hfront ⟨hu, hx⟩]

/-- A stuck reader expects the end of the text if the text is accepted as it is. -/
theorem endOfInput_mem_expectedAfter_iff (hrun : Stage.run .start u = some s) :
    .endOfInput ∈ expectedAfter u s ↔ Accepted u := by
  have hmem : .endOfInput ∈ expectedAfter u s ↔ .endOfInput ∈ s.expected := by
    unfold expectedAfter
    split
    · simp
    · exact Iff.rfl
  rw [hmem, Stage.endOfInput_mem_expected_iff, accepted_iff hrun]

/-- A reader that is stuck at a character cannot be helped by what comes after it. -/
theorem not_viable_of_stuck (hrun : Stage.run .start u = some s) (hstuck : s.Stuck (x :: rest))
    (hcolon : (u ++ x :: rest).head? ≠ some ':') : ¬ Viable (u ++ [x]) := by
  intro hviable
  have hx : u = [] → x ≠ ':' := by
    intro hu heq
    subst hu heq
    exact hcolon rfl
  obtain ⟨s', hs'⟩ := (viable_append_iff hrun hx).1 hviable
  have hnone : s.step x = none := hstuck
  cases hnone.symm.trans hs'

end

/-- The diagnostic of a rejected line without a leading colon starts at the first fault: what comes
before is viable and, unless the line just ends too early, not so with the character there, which is
the one it names. -/
theorem span_of_parse_error {text : String} {diag : Diagnostic}
    (hcolon : text.toList.head? ≠ some ':') (h : parse text = .error diag) :
    diag.span.start ≤ text.toList.length ∧
    Viable (text.toList.take diag.span.start) ∧
    (∀ hlt : diag.span.start < text.toList.length,
      diag.span = ⟨diag.span.start, diag.span.start + 1⟩ ∧
      diag.found = some (text.toList.get ⟨diag.span.start, hlt⟩) ∧
      ¬ Viable (text.toList.take (diag.span.start + 1))) ∧
    (diag.span.start = text.toList.length →
      diag.span = ⟨text.toList.length, text.toList.length⟩ ∧ diag.found = none) := by
  obtain ⟨u, rest, s, htext, hrun, hstuck, rfl⟩ := exists_stuck_of_parse_error hcolon h
  have htake : text.toList.take u.length = u := by rw [htext, List.take_left]
  have hlength : text.toList.length = u.length + rest.length := by rw [htext, List.length_append]
  rw [htext] at hcolon
  refine ⟨?_, ?_, ?_, ?_⟩
  · show u.length ≤ text.toList.length
    omega
  · show Viable (text.toList.take u.length)
    rw [htake]
    exact viable_of_run hrun
  · show ∀ hlt : u.length < text.toList.length,
      Span.mk u.length (u.length + (rest.take 1).length) = ⟨u.length, u.length + 1⟩ ∧
        rest.head? = some (text.toList.get ⟨u.length, hlt⟩) ∧
          ¬ Viable (text.toList.take (u.length + 1))
    intro hlt
    cases rest with
    | nil => exact absurd hlt (by simp only [hlength, List.length_nil]; omega)
    | cons x rest =>
      have htake' : text.toList.take (u.length + 1) = u ++ [x] := by
        rw [htext, List.take_length_add_append]
        rfl
      have hget : text.toList.get ⟨u.length, hlt⟩ = x := by simp [htext]
      rw [htake', hget]
      exact ⟨rfl, rfl, not_viable_of_stuck hrun hstuck hcolon⟩
  · show u.length = text.toList.length →
      Span.mk u.length (u.length + (rest.take 1).length) =
        ⟨text.toList.length, text.toList.length⟩ ∧ rest.head? = none
    intro heq
    have hrest : rest = [] := List.length_eq_zero_iff.1 (by omega)
    rw [← heq, hrest]
    exact ⟨rfl, rfl⟩

/-- After a minus sign a digit is missing, two levels down. -/
theorem span_of_missing_digit :
    "+ (* 2 -x)".toList.head? ≠ some ':' ∧
    parse "+ (* 2 -x)" = .error ⟨⟨8, 9⟩, .unexpected, some 'x', [], .named "number"⟩ ∧
    Viable "+ (* 2 -".toList ∧ ¬ Viable "+ (* 2 -x".toList := by
  have hcolon : "+ (* 2 -x)".toList.head? ≠ some ':' := by decide
  have h : parse "+ (* 2 -x)" =
      .error ⟨⟨8, 9⟩, .unexpected, some 'x', [], .named "number"⟩ := rfl
  obtain ⟨-, hviable, hfault, -⟩ := span_of_parse_error hcolon h
  obtain ⟨-, -, hnot⟩ := hfault (by decide)
  exact ⟨hcolon, h, hviable, hnot⟩

/-- What the diagnostic of a rejected line without a leading colon expects are the characters that
keep the text before the fault viable, apart from blanks and digits, and the end of the text if that
text is accepted. It is about an operator where one could stand, and about a number otherwise. -/
theorem expected_of_parse_error {text : String} {diag : Diagnostic}
    (hcolon : text.toList.head? ≠ some ':') (h : parse text = .error diag) :
    (∀ x, .char x ∈ diag.expected ↔
      isBlank x = false ∧ x.isDigit = false ∧
        Viable (text.toList.take diag.span.start ++ [x])) ∧
    (.endOfInput ∈ diag.expected ↔ Accepted (text.toList.take diag.span.start)) ∧
    (Viable (text.toList.take diag.span.start ++ ['+']) → diag.label = .named "operator") ∧
    (¬ Viable (text.toList.take diag.span.start ++ ['+']) → diag.label = .named "number") := by
  obtain ⟨u, rest, s, htext, hrun, hstuck, rfl⟩ := exists_stuck_of_parse_error hcolon h
  have htake : text.toList.take u.length = u := by rw [htext, List.take_left]
  have hplus := viable_append_iff (x := '+') hrun fun _ => by decide
  show (∀ x, .char x ∈ expectedAfter u s ↔ isBlank x = false ∧ x.isDigit = false ∧
      Viable (text.toList.take u.length ++ [x])) ∧
    (.endOfInput ∈ expectedAfter u s ↔ Accepted (text.toList.take u.length)) ∧
    (Viable (text.toList.take u.length ++ ['+']) → Label.named s.label = .named "operator") ∧
    (¬ Viable (text.toList.take u.length ++ ['+']) → Label.named s.label = .named "number")
  rw [htake]
  refine ⟨fun x => char_mem_expectedAfter_iff hrun, endOfInput_mem_expectedAfter_iff hrun,
    fun hviable => ?_, fun hnot => ?_⟩
  · obtain ⟨s', hs'⟩ := hplus.1 hviable
    rw [Stage.label_of_step hs']
  · have hnone : s.step '+' = none := by
      cases hs : s.step '+' with
      | none => rfl
      | some s' => exact absurd (hplus.2 ⟨s', hs⟩) hnot
    rw [Stage.label_of_not_step hnone]

/-- A bracket where the line could end or go on with another operand. -/
theorem expected_of_stray_bracket :
    "+ 1 ]".toList.head? ≠ some ':' ∧
    parse "+ 1 ]" = .error ⟨⟨4, 5⟩, .unexpected, some ']',
      [.endOfInput, .char '-', .char '('], .named "number"⟩ ∧
    Accepted "+ 1 ".toList ∧ Viable "+ 1 (".toList ∧ ¬ Viable "+ 1 )".toList ∧
    ¬ Viable "+ 1 +".toList := by
  have hcolon : "+ 1 ]".toList.head? ≠ some ':' := by decide
  have h : parse "+ 1 ]" = .error ⟨⟨4, 5⟩, .unexpected, some ']',
      [.endOfInput, .char '-', .char '('], .named "number"⟩ := rfl
  obtain ⟨hchar, hend, -, -⟩ := expected_of_parse_error hcolon h
  obtain ⟨-, -, hopen⟩ := (hchar '(').1 (by decide)
  have hclose := mt (hchar ')').2 (by decide)
  have hplus := mt (hchar '+').2 (by decide)
  exact ⟨hcolon, h, hend.1 (by decide), hopen, fun hviable => hclose ⟨by decide, by decide, hviable⟩,
    fun hviable => hplus ⟨by decide, by decide, hviable⟩⟩

end PrefixCalc.Grammar
