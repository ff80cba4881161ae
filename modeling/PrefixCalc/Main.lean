import PrefixCalc.Program
import Std.Time.Format
import Std.Time.Zoned

/-!
# Command line

The program as an executable: it reads the standard input line by line and writes what the session
says, as soon as it is said.
-/

namespace PrefixCalc.Main

/-- The current time, as log lines show it. -/
def now : IO String := do
  let time := Std.Time.DateTime.ofTimestamp (← Std.Time.Timestamp.now) .UTC
  return time.format "uuuu-MM-dd'T'HH:mm:ss.SSSSSS'Z'"

/-- Writes emissions in order. -/
def write (emissions : List Emission) : IO Unit := do
  for e in emissions do
    (← IO.getStdout).putStr e.stdout
    (← IO.getStderr).putStr (e.stderr (← now))
  (← IO.getStdout).flush

/-- Reads the bytes up to and including the next line feed. -/
partial def readRaw (input : IO.FS.Stream) (before : List UInt8) : IO (List UInt8) := do
  match (← input.read 1).toList with
  | [] => return before.reverse
  | b :: _ => if b = 10 then return (b :: before).reverse else readRaw input (b :: before)

/-- Responds to line after line until no more can be read, and gives the exit code. -/
partial def converse (session : Session) (filter : Log.Filter) (input : IO.FS.Stream) :
    IO Nat := do
  let emit emissions := write (emissions.filter (Emission.passes filter))
  emit session.beforeRead
  match ← readRaw input [] with
  | [] =>
    emit (Session.farewell .endOfInput)
    return 0
  | raw =>
    match Input.decode? raw with
    | none => return Outcome.brokenOff.code
    | some (.error stop) =>
      emit (Session.farewell stop)
      return 0
    | some (.ok line) =>
      emit (session.respond line)
      converse session filter input

end PrefixCalc.Main

/-- Runs the program. -/
def main (args : List String) : IO UInt32 := do
  let env : PrefixCalc.Environment :=
    { terminal := (← IO.getEnv "TERM").getD "", filter := ← IO.getEnv "RUST_LOG" }
  match PrefixCalc.Program.plan env args with
  | .finished outcome =>
    PrefixCalc.Main.write outcome.emissions
    return outcome.code.toUInt32
  | .converse session filter =>
    PrefixCalc.Main.write PrefixCalc.Session.greeting
    let code ← PrefixCalc.Main.converse session filter (← IO.getStdin)
    return code.toUInt32
