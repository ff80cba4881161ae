import PrefixCalc.Session

/-!
# The program

A run of the program, from its arguments, its environment and its input to what it writes and its
exit code. `Program.plan` is what is decided before any input is read; `Program.run` is a whole run.
-/

namespace PrefixCalc

/-- What the program takes from its environment: the kind of terminal, and the text of a log filter.
-/
structure Environment where
  terminal : String
  filter : Option String
deriving DecidableEq, Repr

namespace Environment

/-- Whether the line editor cannot work with the terminal, so that it shows a plain prompt. -/
def isPlain (env : Environment) : Bool :=
  ["dumb", "cons25", "emacs"].contains (env.terminal.map Char.toLower)

/-- The filter for a run. A filter from the environment wins over the options, if it can be read. If
it cannot even be cut into its parts there is no filter, and no run without one. -/
def logFilter? (env : Environment) (verbose : Bool) : Option Log.Filter :=
  let fallback : Log.Filter := [.everything (some (if verbose then .debug else .warn))]
  match env.filter.map Log.Filter.ofText with
  | none => some fallback
  | some (.ok filter) => some filter
  | some (.error .malformed) => some fallback
  | some (.error .insideCharacter) => none

end Environment

/-- What a run writes, and its exit code. -/
structure Outcome where
  emissions : List Emission
  code : Nat
deriving DecidableEq, Repr

namespace Outcome

/-- The standard output of a run. -/
def stdout (o : Outcome) : String := String.join (o.emissions.map Emission.stdout)

/-- The standard error of a run, all of it at one time. -/
def stderr (time : String) (o : Outcome) : String :=
  String.join (o.emissions.map (Emission.stderr time))

/-- A run that breaks off at its start. The exit code is that of a program that gave up, and there
is nothing of its own on either stream; a complaint of its runtime on the standard error is left out
here. -/
def brokenOff : Outcome := ⟨[], 101⟩

end Outcome

namespace Program

/-- What the arguments ask for: a run that is over without any input, or a session whose emissions
go through a filter. -/
inductive Plan where
  | finished (outcome : Outcome)
  | converse (session : Session) (filter : Log.Filter)

/-- The response to one line as a whole run. -/
def respondOnce (session : Session) (filter : Log.Filter) (line : String) : Outcome where
  emissions := (session.respond line).filter (Emission.passes filter)
  code := if (Grammar.parse line).isOk then 0 else 1

/-- What the arguments and the environment ask for. -/
def plan (env : Environment) (args : List String) : Plan :=
  match Options.ofArguments args with
  | .error (.complain e) => .finished ⟨[.err e.report], 2⟩
  | .error (.inform n) => .finished ⟨[.out (Options.noticeText n)], 0⟩
  | .ok o =>
    match env.logFilter? o.verbose, o.eval with
    | none, _ => .finished .brokenOff
    | some filter, some line => .finished (respondOnce ⟨o.colour, none⟩ filter line)
    | some filter, none =>
      .converse ⟨o.colour, if env.isPlain then some o.prompt else none⟩ filter

/-- A whole run. -/
def run (env : Environment) (args : List String) (input : Input) : Outcome :=
  match plan env args with
  | .finished outcome => outcome
  | .converse session filter => ⟨(session.transcript input).filter (Emission.passes filter), 0⟩

end Program

end PrefixCalc
