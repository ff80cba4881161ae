import PrefixCalc.Text.Basic

/-!
# Log records

A log record has a level, a target that says which part of the program it comes from, a message and
named fields. Records are shown up to a level, their ceiling.
-/

namespace PrefixCalc.Log

/-! ## Levels -/

/-- How important a record is; later levels are more detailed. -/
inductive Level where
  | error
  | warn
  | info
  | debug
  | trace
deriving DecidableEq, Repr

namespace Level

/-- The rank of a level, by detail. -/
def rank : Level → Nat
  | error => 1
  | warn => 2
  | info => 3
  | debug => 4
  | trace => 5

/-- A level as it is shown, five characters wide. -/
def column : Level → String
  | error => "ERROR"
  | warn => " WARN"
  | info => " INFO"
  | debug => "DEBUG"
  | trace => "TRACE"

end Level

/-- The most detailed level that is shown, or none at all. -/
abbrev Ceiling := Option Level

namespace Ceiling

/-- Whether records of a level are shown. -/
def admits (c : Ceiling) (l : Level) : Bool :=
  match c with
  | some most => l.rank ≤ most.rank
  | none => false

/-- The ceiling with a number. -/
def ofNumber? : Nat → Option Ceiling
  | 0 => some none
  | 1 => some (some .error)
  | 2 => some (some .warn)
  | 3 => some (some .info)
  | 4 => some (some .debug)
  | 5 => some (some .trace)
  | _ => none

/-- The ceiling that a word names, in any mixture of cases, or a number up to five, with or without
a plus sign. -/
def ofText? (text : List Char) : Option Ceiling :=
  match String.ofList (text.map Char.toLower) with
  | "off" => some none
  | "error" => some (some .error)
  | "warn" => some (some .warn)
  | "info" => some (some .info)
  | "debug" => some (some .debug)
  | "trace" => some (some .trace)
  | _ =>
    let digits := match text with
      | '+' :: ds => ds
      | ds => ds
    (Decimal.magnitude? digits).bind ofNumber?

end Ceiling

/-! ## Records -/

/-- A record of what the program does. -/
structure Record where
  level : Level
  target : String
  message : String
  /-- The fields that are shown after the message, with their values. -/
  fields : List (String × String)
  /-- The names of fields that are not shown. -/
  unshown : List String
deriving DecidableEq, Repr

namespace Record

/-- The message and the fields that are shown with it. -/
def text (r : Record) : String :=
  r.message ++ String.join (r.fields.map fun (name, value) => " " ++ name ++ "=" ++ value)

/-- The line of a record made at a time. -/
def line (time : String) (r : Record) : String :=
  time ++ " " ++ r.level.column ++ " " ++ r.target ++ ": " ++ r.text ++ "\n"

/-- The names of all fields. The message is one of them. -/
def fieldNames (r : Record) : List String := "message" :: r.fields.map Prod.fst ++ r.unshown

end Record

end PrefixCalc.Log
