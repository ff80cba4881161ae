import PrefixCalc.Program
import PrefixCalc.Proofs.Answers
import PrefixCalc.Proofs.Placement

/-!
# What a session writes

A session answers each line on its own. With no log to show, all that is left of its emissions is a
greeting and then one emission for each line (`Session.reply`): the answer on the standard output,
or the report on the standard error (`Session.filter_transcript`). So the two streams of a whole run
are put together from what the lines add to them, in order (`Program.run_session`).
-/

namespace PrefixCalc

/-! ## Emissions without a log -/

namespace Log

/-- The filter for a run that is to show no log: warnings and errors only. -/
def Filter.quiet : Filter := [.everything (some .warn)]

end Log

/-- Without a filter from the environment and without the option for it, no log is shown. -/
theorem Environment.logFilter?_eq_quiet {env : Environment} (h : env.filter = none) :
    env.logFilter? false = some .quiet := by
  rw [Environment.logFilter?, h]
  rfl

namespace Session

/-- What is left of the response to a line when no log is shown: the answer to its command, or the
report of why it is none. -/
def reply (colour : Bool) (line : String) : Emission :=
  match Grammar.parse line with
  | .ok c => .out (c.run ++ "\n")
  | .error d => .err (Report.render colour sourceName line d)

/-- The program's own records are not shown. -/
theorem passes_note (message : String) (fields : List (String × String)) :
    (note message fields).passes .quiet = false := rfl

/-- Records of the evaluator are not shown. -/
theorem passes_noteStep (s : Step) : (noteStep s).passes .quiet = false := rfl

/-- One line leaves one emission. -/
theorem filter_respond (s : Session) (line : String) :
    (s.respond line).filter (Emission.passes .quiet) = [reply s.colour line] := by
  unfold respond reply
  cases Grammar.parse line with
  | ok c =>
    have hsteps : (c.steps.map noteStep).filter (Emission.passes .quiet) = [] := by
      rw [List.filter_eq_nil_iff]
      intro e he
      obtain ⟨step, -, rfl⟩ := List.mem_map.1 he
      rw [passes_noteStep]
      decide
    simp only [List.cons_append, List.filter_cons, passes_note, List.filter_append, hsteps]
    rfl
  | error d => rfl

/-- Without a prompt, an attempt to read leaves nothing. -/
theorem filter_beforeRead {s : Session} (h : s.prompt = none) :
    s.beforeRead.filter (Emission.passes .quiet) = [] := by
  rw [beforeRead, h]
  rfl

/-- A whole session leaves the greeting and one emission for each line, in order. -/
theorem filter_transcript {s : Session} (h : s.prompt = none) (input : Input) :
    (s.transcript input).filter (Emission.passes .quiet) =
      greeting ++ input.lines.map (reply s.colour) := by
  have hlines : (input.lines.flatMap fun line => s.beforeRead ++ s.respond line).filter
      (Emission.passes .quiet) = input.lines.map (reply s.colour) := by
    induction input.lines with
    | nil => rfl
    | cons line lines ih =>
      rw [List.flatMap_cons, List.filter_append, List.filter_append, filter_beforeRead h,
        filter_respond, ih]
      rfl
  have hgreeting : greeting.filter (Emission.passes .quiet) = greeting := rfl
  have hfarewell : (farewell input.stop).filter (Emission.passes .quiet) = [] := rfl
  rw [transcript, List.filter_append, List.filter_append, List.filter_append, hlines,
    filter_beforeRead h, hgreeting, hfarewell, List.append_nil, List.append_nil]

/-! ## The two streams -/

/-- What a line adds to the standard output of a session: the answer to its command, if it is one.
-/
def answer? (line : String) : Option String :=
  match Grammar.parse line with
  | .ok c => some (c.run ++ "\n")
  | .error _ => none

/-- What a line adds to the standard error of a session: the report of its diagnostic, if it has
one. -/
def report? (colour : Bool) (line : String) : Option String :=
  match Grammar.parse line with
  | .ok _ => none
  | .error d => Report.render? colour sourceName line [d]

section
variable {line : String}

theorem answer?_of_ok {c : Command} (h : Grammar.parse line = .ok c) :
    answer? line = some (c.run ++ "\n") := by
  unfold answer?
  rw [h]

theorem answer?_of_error {d : Diagnostic} (h : Grammar.parse line = .error d) :
    answer? line = none := by
  unfold answer?
  rw [h]

theorem report?_of_ok {c : Command} (h : Grammar.parse line = .ok c) (colour : Bool) :
    report? colour line = none := by
  unfold report?
  rw [h]

/-- A rejected line has a report, since that can be drawn. -/
theorem report?_of_error {d : Diagnostic} (h : Grammar.parse line = .error d) (colour : Bool) :
    report? colour line = some (Report.render colour sourceName line d) := by
  unfold report?
  rw [h]
  simp only [Report.render?, List.all_cons, List.all_nil, Grammar.isDrawable_of_parse_error h,
    Bool.and_true, if_true, List.map_cons, List.map_nil, String.join_cons, String.join_nil,
    String.append_empty]

end

/-- On the standard output, what is left of the response to a line is its answer, if it has one. -/
theorem stdout_reply (colour : Bool) (line : String) :
    (reply colour line).stdout = (answer? line).getD "" := by
  unfold reply answer?
  cases Grammar.parse line with
  | ok c => rfl
  | error d => rfl

/-- On the standard error, what is left of the response to a line is its report, if it has one. -/
theorem stderr_reply (time : String) (colour : Bool) (line : String) :
    (reply colour line).stderr time = (report? colour line).getD "" := by
  cases h : Grammar.parse line with
  | ok c =>
    rw [report?_of_ok h]
    unfold reply
    rw [h]
    rfl
  | error d =>
    rw [report?_of_error h]
    unfold reply
    rw [h]
    rfl

/-- Parts that may be absent make up the same text whether they are left out or empty. -/
theorem join_map_getD {α : Type} (part? : α → Option String) (xs : List α) :
    String.join (xs.map fun x => (part? x).getD "") = String.join (xs.filterMap part?) := by
  induction xs with
  | nil => rfl
  | cons x xs ih =>
    rw [List.map_cons, String.join_cons, ih, List.filterMap_cons]
    cases part? x with
    | none => exact String.empty_append
    | some text => exact String.join_cons.symm

/-- The lines put their answers on the standard output, in order. -/
theorem stdout_replies (colour : Bool) (lines : List String) :
    String.join ((lines.map (reply colour)).map Emission.stdout) =
      String.join (lines.filterMap answer?) := by
  rw [← join_map_getD, List.map_map]
  exact congrArg String.join (List.map_congr_left fun line _ => stdout_reply colour line)

/-- The lines put their reports on the standard error, in order. -/
theorem stderr_replies (time : String) (colour : Bool) (lines : List String) :
    String.join ((lines.map (reply colour)).map (Emission.stderr time)) =
      String.join (lines.filterMap (report? colour)) := by
  rw [← join_map_getD, List.map_map]
  exact congrArg String.join (List.map_congr_left fun line _ => stderr_reply time colour line)

end Session

/-- A report has a heading, whatever it is about. -/
theorem Report.render_ne_empty (colour : Bool) (name source : String) (d : Diagnostic) :
    Report.render colour name source d ≠ "" := by
  rw [Report.render, Report.lines, List.map_cons, String.join_cons]
  intro h
  obtain ⟨hheading, -⟩ := String.append_eq_empty_iff.1 h
  exact absurd (String.append_eq_empty_iff.1 hheading).2 (by decide)

namespace Program

/-- A run without a line of its own and without a log is a session that shows none. -/
theorem run_eq_transcript {env : Environment} {args : List String} {o : Options}
    (hargs : Options.ofArguments args = .ok o) (heval : o.eval = none)
    (hverbose : o.verbose = false) (hterm : env.isPlain = false) (hfilter : env.filter = none)
    (input : Input) :
    run env args input =
      ⟨(Session.transcript ⟨o.colour, none⟩ input).filter (Emission.passes .quiet), 0⟩ := by
  have hquiet : env.logFilter? o.verbose = some .quiet := by
    rw [hverbose, Environment.logFilter?_eq_quiet hfilter]
  have hplan : plan env args = .converse ⟨o.colour, none⟩ .quiet := by
    rw [plan, hargs]
    simp only [heval, hterm, hquiet]
    rfl
  rw [run, hplan]

/-- A session without a log greets and answers line by line. The answers to the lines that the
grammar accepts are all that follows the greeting on the standard output, each of them one line; the
reports of the lines that it rejects are all that is on the standard error; and each line adds to
exactly one of the two. -/
theorem run_session {env : Environment} {args : List String} {o : Options}
    (hargs : Options.ofArguments args = .ok o) (heval : o.eval = none)
    (hverbose : o.verbose = false) (hterm : env.isPlain = false) (hfilter : env.filter = none)
    (input : Input) :
    (run env args input).code = 0 ∧
      (run env args input).stdout = "polish 0.1.0\nUse (Ctrl + C) to Exit\n\n" ++
        String.join (input.lines.filterMap Session.answer?) ∧
      (∀ time, (run env args input).stderr time =
        String.join (input.lines.filterMap (Session.report? o.colour))) ∧
      ∀ line ∈ input.lines,
        (∃ c, Grammar.parse line = .ok c ∧ OneLine c.run ∧
          Session.answer? line = some (c.run ++ "\n") ∧ Session.report? o.colour line = none) ∨
        ∃ d report, Grammar.parse line = .error d ∧ report ≠ "" ∧
          Session.answer? line = none ∧ Session.report? o.colour line = some report := by
  rw [run_eq_transcript hargs heval hverbose hterm hfilter, Session.filter_transcript rfl]
  refine ⟨rfl, ?_, fun time => ?_, fun line _ => ?_⟩
  · rw [Outcome.stdout, List.map_append, String.join_append, Session.stdout_replies]
    rfl
  · rw [Outcome.stderr, List.map_append, String.join_append, Session.stderr_replies]
    exact String.empty_append
  · cases h : Grammar.parse line with
    | ok c =>
      exact .inl ⟨c, rfl, Grammar.oneLine_run_of_parse h, Session.answer?_of_ok h,
        Session.report?_of_ok h o.colour⟩
    | error d =>
      exact .inr ⟨d, _, rfl, Report.render_ne_empty _ _ _ d, Session.answer?_of_error h,
        Session.report?_of_error h o.colour⟩

/-- Three lines, of which the second is no command and the third has a line break in it. -/
theorem run_three_lines :
    let outcome := run ⟨"xterm", none⟩ ["--no-color"]
      ⟨["+ 1 2", "oops", ":tree *\x0b2 3"], .endOfInput⟩
    outcome.code = 0 ∧
      outcome.stdout = "polish 0.1.0\nUse (Ctrl + C) to Exit\n\n3\n* 2 3\n" ∧
      ∀ time, outcome.stderr time =
        "Error: Unexpected 'o'\n   ╭─[ <stdin>:1:1 ]\n   │\n 1 │ oops\n   │ ┬  \n" ++
          "   │ ╰── expected operator\n───╯\n" := by
  obtain ⟨hcode, hout, herr, -⟩ := @run_session ⟨"xterm", none⟩ ["--no-color"]
    ⟨none, "polish> ", false, false⟩ rfl rfl rfl (by decide +kernel) rfl
    ⟨["+ 1 2", "oops", ":tree *\x0b2 3"], .endOfInput⟩
  refine ⟨hcode, hout.trans ?_, fun time => (herr time).trans ?_⟩
  · decide +kernel
  · decide +kernel

end Program

end PrefixCalc
