import PrefixCalc.Term.Walk

/-!
# Commands

A command asks something of a program: its value, its number of literals or operators, or its
canonical text. Every answer is one line.

The log shows commands, terms and values spelled out: every part with its name. The texts in a term
that was read from a line hold operator characters, digits and hyphens only, so they are quoted as
they are.
-/

namespace PrefixCalc

/-- What is asked of a program. -/
inductive Verb where
  | eval
  | leaves
  | branches
  | tree
deriving DecidableEq, Repr

namespace Verb

/-- Every verb, in the order in which they are tried and listed. -/
def all : List Verb := [eval, leaves, branches, tree]

/-- The word that is written after a colon. -/
def name : Verb → String
  | eval => "eval"
  | leaves => "leaves"
  | branches => "branches"
  | tree => "tree"

/-- The words of all verbs. -/
def names : List String := all.map name

end Verb

/-- A program with what is asked of it. -/
structure Command where
  verb : Verb
  program : Term
deriving DecidableEq, Repr

/-- The answer to a command. -/
def Command.run (c : Command) : String :=
  match c.verb with
  | .eval => c.program.eval.text
  | .leaves => Decimal.digits c.program.leaves
  | .branches => Decimal.digits c.program.branches
  | .tree => c.program.text

/-- The computations performed in answering a command. Only `eval` computes. -/
def Command.steps (c : Command) : List Step :=
  match c.verb with
  | .eval => c.program.steps
  | _ => []

/-! ## Spelled out -/

/-- A text in quotes. -/
def quoted (text : String) : String := "\"" ++ text ++ "\""

namespace Term

mutual

/-- A term spelled out. -/
def describe : Term → String
  | .number text => "Number(" ++ quoted text ++ ")"
  | .apply form op first rest =>
    (match form with | .grouped => "Expr" | .bare => "Program") ++
      "(Application \x7b operator: " ++ quoted op ++ ", first: " ++ first.describe ++ ", rest: [" ++
      ", ".intercalate (describeAll rest) ++ "] \x7d)"

/-- Terms spelled out, one by one. -/
def describeAll : List Term → List String
  | [] => []
  | t :: ts => t.describe :: describeAll ts

end

end Term

/-- The name of a kind of error. -/
def EvalError.name : EvalError → String
  | divideByZero => "DivideByZero"
  | invalidOperator => "InvalidOperator"
  | invalidNumber => "InvalidNumber"

/-- A value spelled out. -/
def Value.describe : Value → String
  | .ok n => "Ok(" ++ Decimal.write n.toInt ++ ")"
  | .error e => "Err(" ++ e.name ++ ")"

/-- A verb spelled out. -/
def Verb.describe : Verb → String
  | eval => "Eval"
  | leaves => "Leaves"
  | branches => "Branches"
  | tree => "Tree"

/-- A command spelled out. -/
def Command.describe (c : Command) : String := c.verb.describe ++ "(" ++ c.program.describe ++ ")"

/-- The parts of a computation by name, spelled out. -/
def Step.fields (s : Step) : List (String × String) :=
  [("x", Decimal.write s.left.toInt), ("op", quoted s.op), ("y", Decimal.write s.right.toInt),
    ("result", s.result.describe)]

end PrefixCalc
