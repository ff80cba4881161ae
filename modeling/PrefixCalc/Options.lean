import PrefixCalc.Text.Similarity
import PrefixCalc.Text.Unstyled

/-!
# Command-line options

The options of the program and how they are read off its arguments. An option with a value takes it
from the same argument (`--eval=X`, `-eX`, `-e=X`) or from the next one, unless that starts with a
hyphen. Flags of one letter can stand together in one argument, and `--` ends the options.

A value from the next argument is put in place only when the next option turns up or the arguments
end; until then it is pending, and an argument that means nothing is complained about first.

A complaint reminds of the usage. For an option that does not exist the reminder names the options
used so far and the existing one that is spelled most alike, if any is.
-/

namespace PrefixCalc

namespace About

/-- The name of the program. -/
def name : String := "polish"

/-- The version of the program. -/
def version : String := "0.1.0"

/-- The line that says which program this is. -/
def title : String := name ++ " " ++ version

end About

/-- An option with a value. -/
inductive Setting where
  | eval
  | prompt
deriving DecidableEq, Repr

/-- An option that is on or off. -/
inductive Flag where
  | verbose
  | noColour
deriving DecidableEq, Repr

/-- An option that asks for a text about the program and nothing else. -/
inductive Notice where
  | help
  | version
deriving DecidableEq, Repr

/-- Any option. -/
inductive Switch where
  | setting (s : Setting)
  | flag (f : Flag)
  | notice (n : Notice)
deriving DecidableEq, Repr

namespace Switch

/-- All options, in the order of the help text. -/
def all : List Switch :=
  [setting .eval, setting .prompt, flag .verbose, flag .noColour, notice .help, notice .version]

/-- The long name of an option, without hyphens. -/
def long : Switch → String
  | setting .eval => "eval"
  | setting .prompt => "prompt"
  | flag .verbose => "verbose"
  | flag .noColour => "no-color"
  | notice .help => "help"
  | notice .version => "version"

/-- The option with a long name. -/
def ofLong? (name : String) : Option Switch := all.find? (·.long = name)

/-- The option with a one-letter name. -/
def ofShort? : Char → Option Switch
  | 'e' => some (setting .eval)
  | 'v' => some (flag .verbose)
  | 'h' => some (notice .help)
  | 'V' => some (notice .version)
  | _ => none

/-- An option as messages name it. -/
def shown (s : Switch) : String :=
  match s with
  | setting .eval => "--" ++ s.long ++ " <PROGRAM>"
  | setting .prompt => "--" ++ s.long ++ " <PROMPT>"
  | _ => "--" ++ s.long

/-- The options that make up a run, as a choice. Notices are not among them. -/
def choice : String :=
  "<" ++ "|".intercalate ((all.filter fun | notice _ => false | _ => true).map shown) ++ ">"

/-- How alike names have to be at least for one to be suggested instead of the other. -/
def leastSimilarity : Float := 0.7

/-- The better of a suggestion so far and another option, the latter if they are equally good. -/
def better (name : String) (best : Option (Float × Switch)) (s : Switch) :
    Option (Float × Switch) :=
  let score := similarity name.toList s.long.toList
  if score > leastSimilarity && (best.all fun (most, _) => most ≤ score) then some (score, s)
  else best

/-- The option whose long name is most like a name, if any is alike enough. -/
def suggestion? (name : String) : Option Switch := (all.foldl (better name) none).map Prod.snd

end Switch

/-- What is wrong with the arguments. -/
inductive UsageError where
  /-- There is no such option. It comes with the one that may be meant, and those used before. -/
  | unknownOption (name : String) (meant : Option Switch) (used : List Switch)
  | unexpectedArgument (arg : String)
  | missingValue (s : Setting)
  | repeated (s : Switch)
  /-- The option takes no value. It comes with those used before. -/
  | unexpectedValue (s : Switch) (value : String) (used : List Switch)
deriving DecidableEq, Repr

namespace UsageError

/-- The sentence that says what is wrong. -/
def message : UsageError → String
  | unknownOption name _ _ => "unexpected argument '--" ++ unstyled name ++ "' found"
  | unexpectedArgument arg => "unexpected argument '" ++ unstyled arg ++ "' found"
  | missingValue s =>
    "a value is required for '" ++ (Switch.setting s).shown ++ "' but none was supplied"
  | repeated s => "the argument '" ++ s.shown ++ "' cannot be used multiple times"
  | unexpectedValue s value _ =>
    "unexpected value '" ++ unstyled value ++ "' for '" ++ s.shown ++
      "' found; no more were expected"

/-- The advice that comes with a complaint. -/
def tip? : UsageError → Option String
  | unknownOption _ (some s) _ => some ("a similar argument exists: '--" ++ s.long ++ "'")
  | _ => none

/-- The usage in general. -/
def anyOptions : String := "[OPTIONS]"

/-- The usage with some options, or in general if there are none. -/
def usageWith : List Switch → String
  | [] => anyOptions
  | used => " ".intercalate (used.map Switch.shown)

/-- What stands after the program's name in the reminder of its usage, if there is a reminder. -/
def usage? : UsageError → Option String
  | missingValue _ => none
  | unknownOption _ none used => some (usageWith used)
  | unknownOption _ (some s) used => some (usageWith (if s ∈ used then used else used ++ [s]))
  | unexpectedValue s _ [] => some s.shown
  | unexpectedValue (.notice n) _ _ => some ((Switch.notice n).shown ++ " " ++ Switch.choice)
  | unexpectedValue _ _ _ => some Switch.choice
  | unexpectedArgument _ | repeated _ => some anyOptions

/-- The whole complaint about the arguments. -/
def report (e : UsageError) : String :=
  let tip := match e.tip? with
    | some text => "  tip: " ++ text ++ "\n\n"
    | none => ""
  let usage := match e.usage? with
    | some form => "Usage: " ++ About.name ++ " " ++ form ++ "\n\n"
    | none => ""
  "error: " ++ e.message ++ "\n\n" ++ tip ++ usage ++ "For more information, try '--help'.\n"

end UsageError

/-- How the program is to run. -/
structure Options where
  /-- The one line to respond to, instead of a session. -/
  eval : Option String
  /-- What is shown before each line of a session. -/
  prompt : String
  /-- Whether parsing is logged. -/
  verbose : Bool
  /-- Whether reports are coloured. -/
  colour : Bool
deriving DecidableEq, Repr

namespace Options

/-- The prompt that is shown if no other is asked for. -/
def defaultPrompt : String := About.name ++ "> "

/-- Why reading the arguments stops before their end. -/
inductive Halt where
  | complain (e : UsageError)
  | inform (n : Notice)
deriving DecidableEq, Repr

/-- What the arguments so far have set. -/
structure Reading where
  eval : Option String
  prompt : Option String
  verbose : Bool
  noColour : Bool
  /-- The options that have been set, in order. -/
  used : List Switch
  /-- The option whose value, if it has one already, is yet to be put in place. -/
  pending : Option (Setting × Option String)
deriving DecidableEq, Repr

namespace Reading

/-- Nothing is set. -/
def start : Reading := ⟨none, none, false, false, [], none⟩

/-- Puts a value in place. A second value is an error. -/
def assign (r : Reading) (s : Setting) (value : String) : Except Halt Reading :=
  let used := r.used ++ [.setting s]
  match s, r.eval, r.prompt with
  | .eval, none, _ => .ok { r with eval := some value, used }
  | .prompt, _, none => .ok { r with prompt := some value, used }
  | s, _, _ => .error (.complain (.repeated (.setting s)))

/-- Switches a flag on. Doing so twice is an error. -/
def raise (r : Reading) (f : Flag) : Except Halt Reading :=
  let used := r.used ++ [.flag f]
  match f, r.verbose, r.noColour with
  | .verbose, false, _ => .ok { r with verbose := true, used }
  | .noColour, _, false => .ok { r with noColour := true, used }
  | f, _, _ => .error (.complain (.repeated (.flag f)))

/-- Deals with the pending option: it must have got a value by now. -/
def settle (r : Reading) : Except Halt Reading :=
  match r.pending with
  | none => .ok r
  | some (s, none) => .error (.complain (.missingValue s))
  | some (s, some value) => { r with pending := none }.assign s value

/-- The options used so far, the pending one included if it has got its value; but a second value
for an option takes back its use. -/
def usedSoFar (r : Reading) : List Switch :=
  match r.pending with
  | some (s, some _) =>
    if .setting s ∈ r.used then r.used.erase (.setting s) else r.used ++ [.setting s]
  | _ => r.used

/-- An option, which settles the one before it, with the value attached to it, if any. -/
def take (r : Reading) (s : Switch) (attached : Option String) : Except Halt Reading := do
  match s, attached with
  | .setting s, some value => (← r.settle).assign s value
  | .setting s, none => return { ← r.settle with pending := some (s, none) }
  | .flag f, none => (← r.settle).raise f
  | .notice n, none => let _ ← r.settle; throw (.inform n)
  | s, some value => throw (.complain (.unexpectedValue s value r.used))

/-- An argument that starts with two hyphens, without them. -/
def takeLong (r : Reading) (text : List Char) : Except Halt Reading :=
  let name := String.ofList (text.takeWhile (· ≠ '='))
  let attached := match text.dropWhile (· ≠ '=') with
    | _ :: value => some (String.ofList value)
    | [] => none
  match Switch.ofLong? name with
  | some s => r.take s attached
  | none => .error (.complain (.unknownOption name (Switch.suggestion? name) r.usedSoFar))

/-- An argument that starts with one hyphen, without it: letters, of which one that takes a value
takes all that follows. -/
def takeShorts (r : Reading) : List Char → Except Halt Reading
  | [] => .ok r
  | c :: cs =>
    match Switch.ofShort? c with
    | none => .error (.complain (.unexpectedArgument ("-" ++ c.toString)))
    | some (.setting s) =>
      match cs with
      | [] => r.take (.setting s) none
      | '=' :: value => r.take (.setting s) (some (String.ofList value))
      | value => r.take (.setting s) (some (String.ofList value))
    | some s => do (← r.take s none).takeShorts cs

/-- An argument that is no option: the value of the pending option, or else out of place. -/
def takeValue (r : Reading) (arg : String) : Except Halt Reading :=
  match r.pending with
  | some (s, none) => .ok { r with pending := some (s, some arg) }
  | _ => .error (.complain (.unexpectedArgument arg))

/-- Any argument but `--`. -/
def takeArgument (r : Reading) (arg : String) : Except Halt Reading :=
  match arg.toList with
  | '-' :: '-' :: text => r.takeLong text
  | '-' :: c :: cs => r.takeShorts (c :: cs)
  | _ => r.takeValue arg

/-- All arguments. Nothing may follow `--`, since the program takes options only. -/
def takeAll (r : Reading) : List String → Except Halt Reading
  | [] => r.settle
  | "--" :: [] => r.settle
  | "--" :: arg :: _ => .error (.complain (.unexpectedArgument arg))
  | arg :: args => do (← r.takeArgument arg).takeAll args

/-- The options that have been set, and the defaults of the others. -/
def finish (r : Reading) : Options where
  eval := r.eval
  prompt := r.prompt.getD defaultPrompt
  verbose := r.verbose
  colour := !r.noColour

end Reading

/-- Reads the arguments of the program. -/
def ofArguments (args : List String) : Except Halt Options :=
  (Reading.start.takeAll args).map Reading.finish

/-- The text of a notice. -/
def noticeText : Notice → String
  | .version => About.title ++ "\n"
  | .help =>
    "Interactive evaluator for prefix-notation integer arithmetic\n" ++
    "\n" ++
    "Usage: " ++ About.name ++ " [OPTIONS]\n" ++
    "\n" ++
    "Options:\n" ++
    "  -e, --eval <PROGRAM>   Evaluate a single line, print the result and exit\n" ++
    "      --prompt <PROMPT>  Prompt shown before each line " ++
    "[default: \"" ++ defaultPrompt ++ "\"]\n" ++
    "  -v, --verbose          Log parsing and evaluation to stderr\n" ++
    "      --no-color         Print diagnostics without colors\n" ++
    "  -h, --help             Print help\n" ++
    "  -V, --version          Print version\n"

end Options

end PrefixCalc
