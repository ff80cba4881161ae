import PrefixCalc.Command
import PrefixCalc.Lexeme

/-!
# The grammar of lines

A line is a program, or a colon, a verb and a program; a bare program is evaluated. A program is an
operator symbol and one or more operands. An operand is a number, or an application in parentheses.
Blanks may stand around every operand, inside parentheses and around the program, but not before a
colon.
-/

namespace PrefixCalc.Grammar

/-- A number literal. -/
def number : Rule Term := (Lexeme.signedDigits.map Term.number).named "number"

/-- An operator symbol. -/
def operator : Rule String := (Lexeme.symbol Operator.symbols).named "operator"

/-- An operator symbol and one or more operands. -/
def application (form : Form) (operand : Rule Term) : Rule Term :=
  (operator.andThen operand.spaced).andThen (Rule.many operand.spaced)
    |>.map fun ((op, first), rest) => .apply form op first rest

/-- An application in parentheses. -/
def group (operand : Rule Term) : Rule Term :=
  ((Rule.char '(').keepRight (application .grouped operand).spaced).keepLeft (Rule.char ')')

/-- An operand: a number or a group. -/
def operand : Rule Term := Rule.recursive fun inner => number.orElse (group inner)

/-- A program: a bare application with blanks around it. -/
def program : Rule Term := (application .bare operand).spaced

/-- A colon, a verb and a program. -/
def request (verb : Verb) : Rule Command :=
  ((Rule.char ':').andThen (Lexeme.keyword verb.name)).keepRight program
    |>.map fun t => ⟨verb, t⟩

/-- A whole line. -/
def line : Rule Command :=
  (Rule.choice (Verb.all.map request ++ [program.map fun t => ⟨.eval, t⟩])).keepLeft Rule.endOfInput

/-- Reads a line as a command, or says where and why it is not one. -/
def parse (text : String) : Except Diagnostic Command := line.read text

end PrefixCalc.Grammar
