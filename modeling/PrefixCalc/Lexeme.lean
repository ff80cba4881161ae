import PrefixCalc.Rule

/-!
# Lexemes

The words of a line: signed numbers, kept as they are written so that their range is checked only
when they are evaluated; single-character symbols; and keywords.
-/

namespace PrefixCalc.Lexeme

/-- An ASCII digit. -/
def digit : Rule Char := Rule.token Char.isDigit []

/-- An optional `-` and one or more ASCII digits, as written. -/
def signedDigits : Rule String :=
  (Rule.optional (Rule.char '-')).andThen (Rule.many1 digit)
    |>.map fun (sign, ds) => String.ofList (sign.toList ++ ds)

/-- One of the given characters, as a text. -/
def symbol (symbols : List Char) : Rule String :=
  (Rule.oneOf symbols).map Char.toString

/-- Whether an identifier can start with the character. -/
def isIdentStart (c : Char) : Bool := c.isAlpha || c == '_'

/-- Whether an identifier can go on with the character. -/
def isIdentRest (c : Char) : Bool := c.isAlphanum || c == '_'

/-- An ASCII letter or underscore and any number of those and digits. -/
def identifier : Rule String :=
  (Rule.token isIdentStart []).andThen (Rule.many (Rule.token isIdentRest []))
    |>.map fun (c, cs) => String.ofList (c :: cs)

/-- An identifier that is the given word. Another identifier is refused as a whole. -/
def keyword (word : String) : Rule Unit := fun c =>
  match identifier c with
  | .fail why => .fail why
  | .ok name alt next =>
    if name = word then .ok () alt next
    else .fail
      { reach := next.pos
        diagnostic :=
          { span := ⟨c.pos, next.pos⟩
            reason := .unexpected
            found := none
            expected := []
            label := .unnamed } }

end PrefixCalc.Lexeme
