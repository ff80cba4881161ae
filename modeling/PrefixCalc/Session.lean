import PrefixCalc.Command
import PrefixCalc.Grammar
import PrefixCalc.Input
import PrefixCalc.Log.Filter
import PrefixCalc.Options
import PrefixCalc.Report

/-!
# Sessions

What the program writes. Its writing is a list of emissions, in order: answers on the standard
output, reports and log records on the standard error. Log records are made in any case and left out
by the filter, so they change nothing else.

A session answers line after line until no more can be read, and no line has an effect on another.
With the option for it, the program responds to one line only and tells by its exit code whether it
could be read.
-/

namespace PrefixCalc

/-- A piece of what the program writes. -/
inductive Emission where
  /-- Text on the standard output. -/
  | out (text : String)
  /-- Text on the standard error. -/
  | err (text : String)
  /-- A log record, on the standard error. -/
  | log (record : Log.Record)
deriving DecidableEq, Repr

namespace Emission

/-- What an emission adds to the standard output. -/
def stdout : Emission → String
  | out text => text
  | _ => ""

/-- What an emission adds to the standard error at a time. -/
def stderr (time : String) : Emission → String
  | err text => text
  | log record => record.line time
  | out _ => ""

/-- Whether a filter lets an emission through. -/
def passes (filter : Log.Filter) : Emission → Bool
  | log record => filter.admits record
  | _ => true

end Emission

/-- How the program talks: whether its reports are coloured, and the prompt before each line, if one
is shown. -/
structure Session where
  colour : Bool
  prompt : Option String
deriving DecidableEq, Repr

namespace Session

/-- The name of the source in reports. -/
def sourceName : String := "<stdin>"

/-- A record of the program itself. -/
def note (message : String) (fields : List (String × String)) : Emission :=
  .log ⟨.debug, About.name, message, fields, []⟩

/-- A record of the evaluator. -/
def noteStep (s : Step) : Emission :=
  .log ⟨.trace, About.name ++ "::eval", "applied operator", s.fields, []⟩

/-- A record of the line editor. -/
def noteRead (message : String) : Emission :=
  .log ⟨.debug, "rustyline", message, [],
    ["log.target", "log.module_path", "log.file", "log.line"]⟩

/-- The response to a line: the answer to its command, or the report of why it is none. -/
def respond (s : Session) (line : String) : List Emission :=
  match Grammar.parse line with
  | .ok c =>
    note "parsed" [("cmd", c.describe)] :: c.steps.map noteStep ++ [.out (c.run ++ "\n")]
  | .error d =>
    [note "parse failed" [("count", "1")], .err (Report.render s.colour sourceName line d)]

/-- What is written at the start of a session. -/
def greeting : List Emission := [.out (About.title ++ "\nUse (Ctrl + C) to Exit\n\n")]

/-- What is written before each attempt to read a line. -/
def beforeRead (s : Session) : List Emission :=
  match s.prompt with
  | some prompt => [noteRead "unsupported terminal", .out prompt]
  | none => [noteRead "stdin is not a tty"]

/-- What is written when no line can be read. -/
def farewell (stop : ReadError) : List Emission :=
  [note ("stopped reading input: " ++ stop.message) []]

/-- All that is written in a session on an input. -/
def transcript (s : Session) (input : Input) : List Emission :=
  greeting ++ (input.lines.flatMap fun line => s.beforeRead ++ s.respond line) ++ s.beforeRead ++
    farewell input.stop

end Session

end PrefixCalc
