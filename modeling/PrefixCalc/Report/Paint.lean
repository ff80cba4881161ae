/-!
# Coloured text

Text in pieces, each with the tint it is shown in. Colour is put on last: a piece is rendered
between escape sequences when colour is on, and as its bare text when it is off.
-/

namespace PrefixCalc

/-- A colour that a report uses. -/
inductive Tint where
  | red
  | yellow
  /-- The frame around the source. -/
  | margin
  /-- The frame beside lines that are not numbered. -/
  | skipped
  /-- Source text that nothing is said about. -/
  | unimportant
deriving DecidableEq, Repr

/-- The parameters of the escape sequence that switches a tint on. -/
def Tint.code : Tint → String
  | red => "31"
  | yellow => "33"
  | margin => "38;5;246"
  | skipped => "38;5;240"
  | unimportant => "38;5;249"

/-- A text in one tint, or in none. -/
structure Piece where
  tint : Option Tint
  text : String
deriving DecidableEq, Repr

namespace Piece

/-- Text without a tint. -/
def plain (text : String) : Piece := ⟨none, text⟩

/-- Text in a tint. -/
def inked (tint : Tint) (text : String) : Piece := ⟨some tint, text⟩

/-- The characters that a piece is sent as. -/
def render (colour : Bool) (p : Piece) : String :=
  match colour, p.tint with
  | true, some tint => "\x1b[" ++ tint.code ++ "m" ++ p.text ++ "\x1b[0m"
  | _, _ => p.text

/-- A line of pieces, ended by a line feed. -/
def renderLine (colour : Bool) (pieces : List Piece) : String :=
  String.join (pieces.map (render colour)) ++ "\n"

end Piece

end PrefixCalc
