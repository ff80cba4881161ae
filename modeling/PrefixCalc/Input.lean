import PrefixCalc.Text.ByteOffset
import PrefixCalc.Text.Grapheme

/-!
# Lines of input

How the bytes of the input become lines. A line ends with a line feed, or at the end of the input;
it is given without the line feed and without a carriage return before it. A backspace character
erases the character before it, as a reader sees characters. The size of what is to be erased is
kept in one byte, though: of a character whose size does not fit, another number of bytes is erased,
and where these would end inside a code point the line editor breaks down (`Input.erase?`). Bytes
that are not UTF-8 end the input.
-/

namespace PrefixCalc

/-- Why no further line can be read. -/
inductive ReadError where
  | endOfInput
  | interrupted
  /-- The input itself fails, with the message that comes with it. -/
  | device (message : String)
deriving DecidableEq, Repr

/-- What is said about a failure to read. -/
def ReadError.message : ReadError → String
  | endOfInput => "EOF"
  | interrupted => "Interrupted"
  | device message => message

/-- Why the program cannot go on. -/
inductive SessionError where
  | lineEditor (e : ReadError)
  | io (message : String)
deriving DecidableEq, Repr

/-- What is said about a program that cannot go on. -/
def SessionError.message : SessionError → String
  | lineEditor e => "Line editor failure: " ++ e.message
  | io message => "I/O error: " ++ message

/-- The lines that an input delivers, and why it delivers no more. -/
structure Input where
  lines : List String
  stop : ReadError
deriving DecidableEq, Repr

namespace Input

/-- Divides bytes after each line feed. -/
def split : List UInt8 → List (List UInt8)
  | [] => []
  | b :: bs =>
    if b = 10 then [b] :: split bs
    else
      match split bs with
      | [] => [[b]]
      | l :: ls => (b :: l) :: ls

/-- Dividing bytes loses none. -/
theorem flatten_split (bs : List UInt8) : (split bs).flatten = bs := by
  fun_induction split bs with
  | case1 => rfl
  | case2 bs ih => simp [ih]
  | case3 b bs _ h ih => simp_all
  | case4 b bs _ l ls h ih => simp_all

/-- A line without its line feed and the carriage return before that. -/
def chomp (line : List Char) : List Char :=
  match line.reverse with
  | '\n' :: '\r' :: cs => cs.reverse
  | '\n' :: cs => cs.reverse
  | _ => line

/-- What typing a line has led to: its characters, the last one first, and the sizes in bytes of the
clusters that were typed and not erased, the last one first. A size is kept in one byte, so it
counts modulo 256. -/
structure Typed where
  reversed : List Char
  sizes : List UInt8

namespace Typed

/-- Nothing typed. -/
def start : Typed := ⟨[], []⟩

/-- Types a cluster. -/
def type (t : Typed) (cluster : List Char) : Typed :=
  ⟨cluster.reverse ++ t.reversed, (String.ofList cluster).utf8ByteSize.toUInt8 :: t.sizes⟩

/-- Takes as many bytes off the end as the last cluster has by its size; there is no way to do that
if they end inside a character. -/
def backspace? (t : Typed) : Option Typed :=
  match t.sizes with
  | [] => some t
  | size :: sizes => (bytesFrom? size.toNat t.reversed).map (⟨·, sizes⟩)

/-- Types a cluster, or erases if it is a backspace. -/
def press? (t : Typed) (cluster : List Char) : Option Typed :=
  if cluster = ['\x08'] then t.backspace? else some (t.type cluster)

end Typed

/-- A line after its backspaces have taken effect, if they can. -/
def erase? (line : List Char) : Option (List Char) :=
  ((Grapheme.clusters line).foldlM Typed.press? .start).map (·.reversed.reverse)

/-- Typing clusters without a backspace among them puts them behind what is there. -/
theorem reversed_foldlM_press? {clusters : List (List Char)} (h : ['\x08'] ∉ clusters) (t : Typed) :
    (clusters.foldlM Typed.press? t).map Typed.reversed =
      some (clusters.flatten.reverse ++ t.reversed) := by
  induction clusters generalizing t with
  | nil => simp
  | cons cluster clusters ih =>
    simp only [List.mem_cons, not_or] at h
    simp [ih h.2, Typed.press?, Typed.type, Ne.symm h.1]

/-- A line without a backspace stays as it is. -/
theorem erase?_eq_self {line : List Char} (h : '\x08' ∉ line) : erase? line = some line := by
  have hclusters : ['\x08'] ∉ Grapheme.clusters line := by
    intro hmem
    apply h
    rw [← Grapheme.flatten_clusters line]
    exact List.mem_flatten.2 ⟨_, hmem, List.mem_singleton.2 rfl⟩
  have htyped := reversed_foldlM_press? hclusters .start
  rw [Grapheme.flatten_clusters] at htyped
  obtain ⟨t, ht, hreversed⟩ := Option.map_eq_some_iff.1 htyped
  rw [erase?, ht, Option.map_some, hreversed, Typed.start, List.append_nil, List.reverse_reverse]

/-- What is said about bytes that are not UTF-8. -/
def undecodable : ReadError := .device "stream did not contain valid UTF-8"

/-- The line that some bytes stand for, or why they stand for none; nothing if the line editor
breaks down on them. -/
def decode? (bytes : List UInt8) : Option (Except ReadError String) :=
  match String.fromUTF8? bytes.toByteArray with
  | none => some (.error undecodable)
  | some text => (erase? (chomp text.toList)).map fun line => .ok (String.ofList line)

/-- The lines up to the first one that cannot be decoded, if the line editor holds out so long. -/
def ofRawLines? : List (List UInt8) → Option Input
  | [] => some ⟨[], .endOfInput⟩
  | raw :: raws => do
    match ← decode? raw with
    | .error stop => return ⟨[], stop⟩
    | .ok line =>
      let later ← ofRawLines? raws
      return ⟨line :: later.lines, later.stop⟩

/-- The input that some bytes make up, if the line editor does not break down on a line of it. -/
def ofBytes? (bytes : List UInt8) : Option Input := ofRawLines? (split bytes)

end Input

end PrefixCalc
