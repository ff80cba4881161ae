import PrefixCalc.Text.Basic

/-!
# Values and operators

The outcome of evaluating a term is a signed 64-bit word or an error. Errors are values: they take
the place of the word and travel outwards unchanged (`Value.combine`).

The six binary operators have their meaning on words. Arithmetic wraps around in two's complement;
quotients go toward zero and a remainder has the sign of the dividend; `^` is the bitwise exclusive
or.
-/

namespace PrefixCalc

/-! ## Values -/

/-- Why a term has no number. -/
inductive EvalError where
  /-- A quotient or remainder by zero. -/
  | divideByZero
  /-- Two operands met under a symbol that names no operator. -/
  | invalidOperator
  /-- A literal that is not an integer, or is out of the range of a word. -/
  | invalidNumber
deriving DecidableEq, Repr

/-- The line shown for an error. -/
def EvalError.message : EvalError → String
  | divideByZero => "Error: Cannot divide by zero"
  | invalidOperator => "Error: Invalid Operator"
  | invalidNumber => "Error: Invalid Number!"

/-- A word, or the error that took its place. -/
abbrev Value := Except EvalError Int64

namespace Value

/-- The value of a literal. -/
def ofLiteral (text : String) : Value :=
  match Decimal.word? text with
  | some n => .ok n
  | none => .error .invalidNumber

/-- The line shown for a value. -/
def text : Value → String
  | .ok n => Decimal.write n.toInt
  | .error e => e.message

end Value

/-! ## Operators -/

/-- A binary operator on words. -/
inductive Operator where
  | add
  | sub
  | mul
  | div
  | rem
  | xor
deriving DecidableEq, Repr

namespace Operator

/-- Every operator, in the order in which the symbols are listed. -/
def all : List Operator := [add, sub, mul, div, rem, xor]

/-- The character that stands for an operator. -/
def symbol : Operator → Char
  | add => '+'
  | sub => '-'
  | mul => '*'
  | div => '/'
  | rem => '%'
  | xor => '^'

/-- The characters that stand for operators. -/
def symbols : List Char := all.map symbol

/-- The operator that a text names: exactly one operator character. -/
def ofText? (text : String) : Option Operator :=
  all.find? fun op => text == op.symbol.toString

/-- The result of an operator on two words. Only a zero divisor has none. -/
def apply (op : Operator) (x y : Int64) : Value :=
  match op with
  | add => .ok (x + y)
  | sub => .ok (x - y)
  | mul => .ok (x * y)
  | div => if y = 0 then .error .divideByZero else .ok (x / y)
  | rem => if y = 0 then .error .divideByZero else .ok (x % y)
  | xor => .ok (x ^^^ y)

end Operator

/-- Two values under the operator that `op` names. An error of the left value wins over one of the
right value, and either wins over an `op` that names no operator. -/
def Value.combine (x : Value) (op : String) (y : Value) : Value := do
  let a ← x
  let b ← y
  match Operator.ofText? op with
  | some o => o.apply a b
  | none => .error .invalidOperator

end PrefixCalc
