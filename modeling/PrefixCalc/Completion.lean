import PrefixCalc.Ascending
import PrefixCalc.Text.Alphanumeric
import PrefixCalc.Text.ByteOffset

/-!
# Completion of command words

What can be offered to complete the line that is being typed. Positions count UTF-8 bytes. At the
very front every command is offered with its colon. After a colon and letters or numbers only, the
commands that go on from there are offered, to be put right after the colon. Anywhere else nothing
is offered.
-/

namespace PrefixCalc

/-- Candidates, and the position from which on they replace the text before the cursor. -/
structure Completion where
  start : Nat
  candidates : List String
deriving DecidableEq, Repr

namespace Completion

/-- The completions of a line with the cursor at byte `pos`, from a set of commands. There is no
answer for a position that is not between two characters of the line. -/
def at? (commands : List String) (line : String) (pos : Nat) : Option Completion :=
  let commands := Ascending.ofTexts commands
  if pos = 0 then some ⟨0, commands.map (":" ++ ·)⟩
  else
    (splitAtByte? pos line.toList).map fun
      | (':' :: typed, _) =>
        if typed.all isAlphanumeric then ⟨1, commands.filter (typed.isPrefixOf ·.toList)⟩
        else ⟨pos, []⟩
      | _ => ⟨pos, []⟩

end Completion

end PrefixCalc
