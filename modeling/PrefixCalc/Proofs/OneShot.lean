import PrefixCalc.Proofs.Conversation

/-!
# One line as a whole run

With the option for it, a run is the response to one line (`Outcome.Answers`): the same answer that
a session gives, or the same report, and an exit code that tells which.

The line can stand in the same argument as the option, and then every line is responded to. As an
argument of its own it is read as a value only if it does not look like an option. The hyphen is
also an operator, so there are programs that do: they are complained about, and the run ends before
the grammar sees them (`Program.answers_eval_iff`).
-/

namespace PrefixCalc

namespace Options

/-- The argument is read as one or more options, never as a value: it starts with a hyphen and goes
on. -/
def LooksLikeOption (arg : String) : Prop := ∃ c cs, arg.toList = '-' :: c :: cs

/-! ## An option that waits for its value -/

namespace Reading

variable {r : Reading} {s : Setting}

/-- The arguments are read one after the other. -/
theorem takeAll_cons {arg : String} (h : arg ≠ "--") (r : Reading) (args : List String) :
    r.takeAll (arg :: args) = r.takeArgument arg >>= fun r => r.takeAll args := by
  rw [takeAll]
  · exact fun heq _ => h heq
  · exact fun _ _ heq _ => h heq

/-- An option that still waits for its value cannot be settled. -/
theorem settle_of_waiting (h : r.pending = some (s, none)) :
    r.settle = .error (.complain (.missingValue s)) := by
  rw [settle, h]

/-- No option may follow one that waits for its value. -/
theorem take_of_waiting (h : r.pending = some (s, none)) (switch : Switch)
    (attached : Option String) : ∃ e, r.take switch attached = .error (.complain e) := by
  have hsettle := settle_of_waiting h
  -- Every option settles the one before it first, unless it comes with a value that it cannot take.
  cases switch with
  | setting s' =>
    cases attached <;> exact ⟨.missingValue s, by rw [take, hsettle]; rfl⟩
  | flag f =>
    cases attached with
    | none => exact ⟨.missingValue s, by rw [take, hsettle]; rfl⟩
    | some value => exact ⟨_, rfl⟩
  | notice n =>
    cases attached with
    | none => exact ⟨.missingValue s, by rw [take, hsettle]; rfl⟩
    | some value => exact ⟨_, rfl⟩

/-- Nor may letters that stand for options. -/
theorem takeShorts_of_waiting (h : r.pending = some (s, none)) (c : Char) (cs : List Char) :
    ∃ e, r.takeShorts (c :: cs) = .error (.complain e) := by
  rw [takeShorts]
  split
  · exact ⟨_, rfl⟩
  · split
    · exact take_of_waiting h _ _
    · exact take_of_waiting h _ _
    · exact take_of_waiting h _ _
  · next switch _ _ =>
    obtain ⟨e, he⟩ := take_of_waiting h switch none
    exact ⟨e, by rw [he]; rfl⟩

/-- Whatever looks like an option is complained about where a value is waited for. -/
theorem takeArgument_of_waiting (h : r.pending = some (s, none)) {arg : String}
    (harg : LooksLikeOption arg) : ∃ e, r.takeArgument arg = .error (.complain e) := by
  obtain ⟨c, cs, harg⟩ := harg
  rw [takeArgument, harg]
  split
  · rw [takeLong]
    split
    · exact take_of_waiting h _ _
    · exact ⟨_, rfl⟩
  · exact takeShorts_of_waiting h _ _
  · next hne => exact absurd rfl (hne c cs)

/-- Any other argument is the value that is waited for. -/
theorem takeArgument_value (h : r.pending = some (s, none)) {arg : String}
    (harg : ¬ LooksLikeOption arg) :
    r.takeArgument arg = .ok { r with pending := some (s, some arg) } := by
  rw [takeArgument]
  split
  · next text heq => exact absurd ⟨'-', text, heq⟩ harg
  · next c cs _ heq => exact absurd ⟨c, cs, heq⟩ harg
  · rw [takeValue, h]

end Reading

/-! ## The line of a run -/

/-- The options of a run that only names its line. -/
def ofLine (line : String) : Options := ⟨some line, defaultPrompt, false, true⟩

/-- Nothing is set, and the line is waited for. -/
def Reading.awaitingLine : Reading := { Reading.start with pending := some (.eval, none) }

/-- After the option for a line, the line is waited for. -/
theorem ofArguments_eval (args : List String) :
    ofArguments ("-e" :: args) = (Reading.awaitingLine.takeAll args).map Reading.finish := by
  rw [ofArguments, Reading.takeAll_cons (by decide)]
  rfl

/-- An argument that does not look like an option is the line. -/
theorem ofArguments_eval_value {line : String} (h : ¬ LooksLikeOption line) :
    ofArguments ["-e", line] = .ok (ofLine line) := by
  have hne : line ≠ "--" := by
    rintro rfl
    exact h ⟨'-', [], rfl⟩
  rw [ofArguments_eval, Reading.takeAll_cons hne, Reading.takeArgument_value rfl h]
  rfl

/-- One that looks like an option is complained about. -/
theorem ofArguments_eval_option {line : String} (h : LooksLikeOption line) :
    ∃ e, ofArguments ["-e", line] = .error (.complain e) := by
  rw [ofArguments_eval]
  by_cases hend : line = "--"
  · subst hend
    exact ⟨.missingValue .eval, rfl⟩
  · have hwaiting : Reading.awaitingLine.pending = some (.eval, none) := rfl
    obtain ⟨e, he⟩ := Reading.takeArgument_of_waiting hwaiting h
    rw [Reading.takeAll_cons hend, he]
    exact ⟨e, rfl⟩

/-- In the same argument as the option, any text is the line. -/
theorem ofArguments_eval_attached (line : String) :
    ofArguments ["--eval=" ++ line] = .ok (ofLine line) := by
  have hchars : ("--eval=" ++ line).toList = '-' :: '-' :: ("eval=".toList ++ line.toList) := by
    rw [String.toList_append]
    rfl
  have hne : "--eval=" ++ line ≠ "--" := by
    intro h
    rw [h] at hchars
    cases hchars
  have htake : Reading.start.takeArgument ("--eval=" ++ line) =
      .ok { Reading.start with eval := some line, used := [.setting .eval] } := by
    rw [Reading.takeArgument, hchars]
    show Reading.start.take (.setting .eval) (some (String.ofList line.toList)) = _
    rw [String.ofList_toList]
    rfl
  rw [ofArguments, Reading.takeAll_cons hne, htake]
  rfl

end Options

/-! ## Runs -/

/-- The run is the response to a line: the answer of a session on the standard output and exit code
0, or its report on the standard error and exit code 1. -/
def Outcome.Answers (line : String) (o : Outcome) : Prop :=
  (∀ c, Grammar.parse line = .ok c → o.code = 0 ∧ o.stdout = c.run ++ "\n" ∧
    Session.answer? line = some o.stdout ∧ ∀ time, o.stderr time = "") ∧
  ∀ d, Grammar.parse line = .error d → o.code = 1 ∧ o.stdout = "" ∧
    ∀ time, Session.report? true line = some (o.stderr time)

namespace Program

variable {env : Environment}

/-- A run that is given its line responds to it. -/
theorem answers_of_ofArguments {args : List String} {line : String}
    (hargs : Options.ofArguments args = .ok (Options.ofLine line)) (hfilter : env.filter = none)
    (input : Input) : (run env args input).Answers line := by
  have hrun : run env args input =
      ⟨[Session.reply true line], if (Grammar.parse line).isOk then 0 else 1⟩ := by
    rw [run, plan, hargs]
    simp only [Options.ofLine, Environment.logFilter?_eq_quiet hfilter, respondOnce,
      Session.filter_respond]
  have hout : (run env args input).stdout = (Session.answer? line).getD "" := by
    rw [hrun, Outcome.stdout, ← Session.stdout_reply true line]
    simp
  have herr (time : String) :
      (run env args input).stderr time = (Session.report? true line).getD "" := by
    rw [hrun, Outcome.stderr, ← Session.stderr_reply time true line]
    simp
  refine ⟨fun c hc => ?_, fun d hd => ?_⟩
  · have hcode : (run env args input).code = 0 := by rw [hrun, hc]; rfl
    rw [Session.answer?_of_ok hc] at hout
    refine ⟨hcode, hout, ?_, fun time => ?_⟩
    · rw [hout, Session.answer?_of_ok hc]
      rfl
    · rw [herr, Session.report?_of_ok hc]
      rfl
  · have hcode : (run env args input).code = 1 := by rw [hrun, hd]; rfl
    rw [Session.answer?_of_error hd] at hout
    refine ⟨hcode, hout, fun time => ?_⟩
    rw [herr, Session.report?_of_error hd]
    rfl

/-- A run that responds to a line does not end with a complaint about its arguments. -/
theorem code_of_answers {o : Outcome} {line : String} (h : o.Answers line) : o.code < 2 := by
  cases hline : Grammar.parse line with
  | ok c => rw [(h.1 c hline).1]; decide
  | error d => rw [(h.2 d hline).1]; decide

/-- A line in the same argument as the option is always responded to. In an argument of its own it
is if and only if it does not look like an option; if it does, the run is a complaint about the
arguments and nothing else. -/
theorem answers_eval_iff (hfilter : env.filter = none) (line : String) (input : Input) :
    (run env ["--eval=" ++ line] input).Answers line ∧
    ((run env ["-e", line] input).Answers line ↔ ¬ Options.LooksLikeOption line) ∧
    (Options.LooksLikeOption line →
      ∃ e : UsageError, run env ["-e", line] input = ⟨[.err e.report], 2⟩) := by
  have hcomplain (h : Options.LooksLikeOption line) :
      ∃ e : UsageError, run env ["-e", line] input = ⟨[.err e.report], 2⟩ := by
    obtain ⟨e, he⟩ := Options.ofArguments_eval_option h
    exact ⟨e, by rw [run, plan, he]⟩
  refine ⟨answers_of_ofArguments (Options.ofArguments_eval_attached line) hfilter input,
    ⟨fun hanswers hoption => ?_, fun hvalue => ?_⟩, hcomplain⟩
  · obtain ⟨e, he⟩ := hcomplain hoption
    have hcode := code_of_answers hanswers
    rw [he] at hcode
    exact absurd hcode (Nat.lt_irrefl 2)
  · exact answers_of_ofArguments (Options.ofArguments_eval_value hvalue) hfilter input

/-- A program that a session answers, and a run with the program as an argument of its own does not.
-/
theorem not_answers_eval_minus :
    (∃ c, Grammar.parse "- 5 3" = .ok c ∧ c.run = "2") ∧
    (run ⟨"xterm", none⟩ ["-e", "- 5 3"] ⟨[], .endOfInput⟩).code = 2 ∧
    (run ⟨"xterm", none⟩ ["-e", "- 5 3"] ⟨[], .endOfInput⟩).stdout = "" ∧
    ¬ (run ⟨"xterm", none⟩ ["-e", "- 5 3"] ⟨[], .endOfInput⟩).Answers "- 5 3" := by
  have hcode : (run ⟨"xterm", none⟩ ["-e", "- 5 3"] ⟨[], .endOfInput⟩).code = 2 := rfl
  refine ⟨⟨_, rfl, by decide +kernel⟩, hcode, rfl, fun hanswers => ?_⟩
  have hlt := code_of_answers hanswers
  rw [hcode] at hlt
  exact absurd hlt (Nat.lt_irrefl 2)

/-- The same program with a blank in front is answered. -/
theorem answers_eval_blank_minus :
    let outcome := run ⟨"xterm", none⟩ ["-e", " - 5 3"] ⟨[], .endOfInput⟩
    outcome.Answers " - 5 3" ∧ outcome.code = 0 ∧ outcome.stdout = "2\n" := by
  have hvalue : ¬ Options.LooksLikeOption " - 5 3" := by
    rintro ⟨c, cs, h⟩
    cases h
  have hfilter : Environment.filter ⟨"xterm", none⟩ = none := rfl
  have hanswers := (answers_eval_iff hfilter " - 5 3" ⟨[], .endOfInput⟩).2.1.2 hvalue
  obtain ⟨hcode, hout, -⟩ := hanswers.1 _ rfl
  exact ⟨hanswers, hcode, hout.trans (by decide +kernel)⟩

end Program

end PrefixCalc
