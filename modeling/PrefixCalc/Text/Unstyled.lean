/-!
# Text without escape sequences

What is left of a text when the control characters in it, and the sequences that tell a terminal to
change colours, titles and the like, are left out. Tabs, line breaks and form feeds stay. A sequence
that has no end in the text is left out as far as it goes.
-/

namespace PrefixCalc

namespace Unstyled

/-- A part of a control sequence before its last character. -/
inductive Stage where
  /-- Nothing but the introducer so far. -/
  | entry
  /-- Among the parameters. -/
  | parameters
  /-- Among the characters between the parameters and the end. -/
  | intermediates
deriving DecidableEq, Repr

/-- Where a place in a text is with respect to escape sequences. -/
inductive Place where
  /-- Outside of any. -/
  | ground
  /-- After the escape character. -/
  | escape
  /-- After the escape character and some intermediate characters. -/
  | escapeIntermediates
  /-- In a control sequence. -/
  | control (stage : Stage)
  /-- In a control sequence that is malformed. -/
  | malformed
  /-- In the head of a device control string. -/
  | device (stage : Stage)
  /-- In a string that lasts up to a string terminator. -/
  | string
  /-- In a command to the operating system, which lasts up to a bell. -/
  | command
deriving DecidableEq, Repr

/-- Whether a code point is an intermediate character of a sequence. -/
def isIntermediate (n : Nat) : Bool := 0x20 ≤ n && n ≤ 0x2F

/-- Whether a code point is a digit of a parameter or separates parameters. -/
def isParameter (n : Nat) : Bool := 0x30 ≤ n && n ≤ 0x3B

/-- Whether a code point is a mark that can only come first among the parameters. -/
def isPrivateMark (n : Nat) : Bool := 0x3C ≤ n && n ≤ 0x3F

/-- Whether a code point is the last character of a control sequence. -/
def isFinal (n : Nat) : Bool := 0x40 ≤ n && n ≤ 0x7E

/-- Whether a character has the string terminator among its bytes. -/
def holdsTerminator (c : Char) : Bool := (String.singleton c).toUTF8.toList.contains 0x9C

namespace Stage

/-- The stage after a character that is not the last of the sequence: none if it is out of place
there. -/
def next? (s : Stage) (n : Nat) : Option Stage :=
  if isIntermediate n then some intermediates
  else if isParameter n then if s = intermediates then none else some parameters
  else if isPrivateMark n then if s = entry then some parameters else none
  else some s

end Stage

namespace Place

/-- The place after a character. -/
def next (p : Place) (c : Char) : Place :=
  let n := c.toNat
  if n = 0x18 || n = 0x1A then ground
  else if n = 0x1B then escape
  else
    match p with
    | ground => ground
    | escape =>
      if isIntermediate n then escapeIntermediates
      else if c = '[' then control .entry
      else if c = ']' then command
      else if c = 'P' then device .entry
      else if c = 'X' || c = '^' || c = '_' then string
      else if 0x30 ≤ n && n ≤ 0x7E then ground
      else escape
    | escapeIntermediates => if 0x30 ≤ n && n ≤ 0x7E then ground else escapeIntermediates
    | control stage =>
      if isFinal n then ground
      else
        match stage.next? n with
        | some stage => control stage
        | none => malformed
    | malformed => if isFinal n then ground else malformed
    | device stage =>
      if isFinal n then string
      else
        match stage.next? n with
        | some stage => device stage
        | none => string
    | string => if holdsTerminator c then ground else string
    | command => if n = 0x07 then ground else command

/-- Whether a line break, tab or form feed stays at a place. -/
def keepsBreaks : Place → Bool
  | device _ | string | command => false
  | _ => true

end Place

/-- Whether a character is a tab, a line break or a form feed. -/
def isBreak (c : Char) : Bool := c = '\t' || c = '\n' || c = '\x0c' || c = '\r'

/-- Whether a character outside of any sequence stays. -/
def isShown (c : Char) : Bool := isBreak c || (0x20 ≤ c.toNat && c.toNat ≠ 0x7F)

/-- What stays of the text after a place. After a character that stays, the following ones stay as
long as they would do so outside of any sequence; one of them that is not in ASCII ends the
sequence. -/
def shown (p : Place) (staying : Bool) : List Char → List Char
  | [] => []
  | c :: cs =>
    if staying && isShown c then c :: shown (if c.toNat < 0x80 then p else .ground) true cs
    else if p.keepsBreaks && isBreak c then c :: shown p true cs
    else if p = .ground && isShown c then c :: shown p true cs
    else shown (p.next c) false cs

/-- Leaving characters out adds none and keeps the order of the others. -/
theorem shown_sublist (p : Place) (staying : Bool) (cs : List Char) :
    (shown p staying cs).Sublist cs := by
  fun_induction shown p staying cs with
  | case1 => exact .slnil
  | case2 | case3 | case4 => exact .cons_cons _ ‹_›
  | case5 => exact .cons _ ‹_›

end Unstyled

/-- A text without its escape sequences and control characters. -/
def unstyled (text : String) : String := String.ofList (Unstyled.shown .ground false text.toList)

end PrefixCalc
