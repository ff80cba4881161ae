import PrefixCalc.Ascending

/-!
# Diagnostics

What is said about a line that cannot be read: where it goes wrong, what stands there, and what
would have been accepted instead. `Diagnostic.header` and `Diagnostic.hint` are the two sentences
shown to the user. Positions count characters.
-/

namespace PrefixCalc

/-- The characters from `start` up to but not including `stop`. -/
structure Span where
  start : Nat
  stop : Nat
deriving DecidableEq, Repr

/-- Something that would have been accepted at a position. -/
inductive Expectation where
  | char (c : Char)
  | endOfInput
deriving DecidableEq, Repr

namespace Expectation

/-- An expectation as it is shown. -/
def text : Expectation → String
  | char c => "'" ++ c.toString ++ "'"
  | endOfInput => "end of input"

/-- The order of expectations: characters by code point, then the end of the input. -/
def before : Expectation → Expectation → Bool
  | char a, char b => a < b
  | char _, endOfInput => true
  | endOfInput, _ => false

end Expectation

/-- The name of what was expected as a whole, such as "number". -/
inductive Label where
  | unnamed
  | named (name : String)
  /-- Different names met at one position, so none is shown. -/
  | conflicting
deriving DecidableEq, Repr

namespace Label

/-- The label of two failures at one position. -/
def merge : Label → Label → Label
  | unnamed, l => l
  | l, unnamed => l
  | named a, named b => if a = b then named a else conflicting
  | _, _ => conflicting

/-- Gives a name to a label that has none to show. -/
def orNamed (name : String) : Label → Label
  | named a => named a
  | _ => named name

/-- The name to show, if there is one. -/
def name? : Label → Option String
  | named a => some a
  | _ => none

end Label

/-- What kind of fault a diagnostic reports. -/
inductive Reason where
  /-- A character, or the end of the input, that fits nowhere. -/
  | unexpected
  /-- A delimiter opened at `opened` that is not closed. -/
  | unclosed (delimiter : Char) (opened : Span)
  /-- A fault described in its own words. -/
  | custom (message : String)
deriving DecidableEq, Repr

/-- A fault in a text. `found` is the character at fault, or none at the end of the input;
`expected` lists what would have been accepted and stands for the set of its members. -/
structure Diagnostic where
  span : Span
  reason : Reason
  found : Option Char
  expected : List Expectation
  label : Label
deriving DecidableEq, Repr

namespace Diagnostic

/-- Two diagnostics of one position as one: the place and the character of the first, the
expectations of both. -/
def merge (a b : Diagnostic) : Diagnostic :=
  { a with
    expected := a.expected ++ b.expected.filter (· ∉ a.expected)
    label := a.label.merge b.label }

/-- The expectations in order, each once. -/
def expectations (d : Diagnostic) : List Expectation :=
  Ascending.ofList Expectation.before d.expected

/-- The sentence that heads a report. -/
def header (d : Diagnostic) : String :=
  match d.reason, d.found with
  | .unclosed delimiter _, _ => "Unclosed delimiter '" ++ delimiter.toString ++ "'"
  | .unexpected, some c => "Unexpected '" ++ c.toString ++ "'"
  | .unexpected, none => "Unexpected end of input"
  | .custom message, _ => message

/-- The sentence that stands at the place of the fault. The expectations are listed in the order of
their texts. -/
def hint (d : Diagnostic) : String :=
  match d.label.name?, Ascending.ofTexts (d.expected.map Expectation.text) with
  | some name, _ => "expected " ++ name
  | none, [] => "not expected here"
  | none, texts => "expected " ++ ", ".intercalate texts

end Diagnostic

end PrefixCalc
