import PrefixCalc.Text.Alphanumeric

/-!
# Patterns for field values

A log filter can ask for the value of a field, as a number or as a regular expression.
`Pattern.isWellFormed` decides whether a text is a regular expression: what is repeated must be
there, groups and classes must be closed, ranges must go upwards and escapes must be known.
Expressions that depend on tables of characters, as word boundaries and ignoring case do outside of
ASCII, are not supported. Neither is a counted repetition, since a filter has no room for its
closing brace.

The recognisers here go through a text with fuel: each step takes one character at least, so that
the length of the text is enough.
-/

namespace PrefixCalc.Log.Pattern

/-- What the flags of an expression say about a place in it. -/
structure Mode where
  ignoreCase : Bool
  /-- Characters outside of ASCII are taken as such, and not as bytes. -/
  unicode : Bool

/-- What an escape stands for. -/
inductive Escape where
  /-- One character. -/
  | literal (c : Char)
  /-- The start or the end of the text. -/
  | anchor
  /-- A place next to a word, or not next to one. -/
  | boundary
  /-- Digits, blanks or the characters of words; or all others. -/
  | category (negated : Bool)

/-- The number that hexadecimal digits denote. -/
def hexadecimal? (ds : List Char) : Option Nat :=
  ds.foldlM
    (fun n c =>
      if c.isDigit then some (16 * n + (c.toNat - '0'.toNat))
      else if 'a' ≤ c.toLower && c.toLower ≤ 'f' then
        some (16 * n + (c.toLower.toNat - 'a'.toNat + 10))
      else none)
    0

/-- The character whose code point is given by the first `n` characters, and what follows it. -/
def codePoint? (n : Nat) (cs : List Char) : Option (Escape × List Char) := do
  let digits := cs.take n
  guard (digits.length = n)
  let code ← hexadecimal? digits
  guard code.isValidChar
  return (.literal (Char.ofNat code), cs.drop n)

/-- Whether a backslash before the character makes it stand for itself. -/
def isEscapable (c : Char) : Bool :=
  c.toNat < 0x80 && !c.isAlphanum && c ≠ '<' && c ≠ '>'

/-- The escape that a text after a backslash starts with, and what follows it. -/
def escape? : List Char → Option (Escape × List Char)
  | [] => none
  | c :: cs =>
    match c with
    | 'x' => codePoint? 2 cs
    | 'u' => codePoint? 4 cs
    | 'U' => codePoint? 8 cs
    | 'd' | 's' | 'w' => some (.category false, cs)
    | 'D' | 'S' | 'W' => some (.category true, cs)
    | 'A' | 'z' => some (.anchor, cs)
    | 'b' | 'B' | '<' | '>' => some (.boundary, cs)
    | 'a' => some (.literal '\x07', cs)
    | 'f' => some (.literal '\x0c', cs)
    | 't' => some (.literal '\t', cs)
    | 'n' => some (.literal '\n', cs)
    | 'r' => some (.literal '\r', cs)
    | 'v' => some (.literal '\x0b', cs)
    | c => if isEscapable c then some (.literal c, cs) else none

namespace Mode

/-- The mode at the start of an expression. -/
def start : Mode := ⟨false, true⟩

/-- Whether letters are compared by a table of their cases. -/
def needsCaseTable (m : Mode) : Bool := m.ignoreCase && m.unicode

/-- Whether an escape is supported. -/
def supports (m : Mode) : Escape → Bool
  | .literal _ => !m.needsCaseTable
  | .anchor => true
  | .boundary => !m.unicode
  | .category negated => !m.unicode && !negated

/-- The mode after a flag is switched on or off; none if there is no such flag. -/
def set? (m : Mode) (value : Bool) : Char → Option Mode
  | 'i' => some { m with ignoreCase := value }
  | 'u' => some { m with unicode := value }
  | 'm' | 's' | 'U' | 'R' | 'x' => some m
  | _ => none

/-- The mode after all flags of a list, of which none comes twice. A hyphen switches those after it
off, and there must be one. -/
def setAll? (m : Mode) (flags : List Char) : Option Mode := do
  guard (flags.eraseDups.length = flags.length)
  guard (flags.getLast? ≠ some '-')
  let on := flags.takeWhile (· ≠ '-')
  let off := (flags.dropWhile (· ≠ '-')).drop 1
  off.foldlM (fun m c => m.set? false c) (← on.foldlM (fun m c => m.set? true c) m)

end Mode

/-! ## Classes of characters -/

/-- What follows the opening bracket of a class and what is special there: a caret, then hyphens or
a closing bracket that stand for themselves. Also says whether there is a caret. -/
def classHead (cs : List Char) : Bool × List Char :=
  let negated := cs.head? = some '^'
  let cs := if negated then cs.tail else cs
  match cs with
  | '-' :: _ => (negated, cs.dropWhile (· = '-'))
  | ']' :: rest => (negated, rest)
  | _ => (negated, cs)

/-- The member of a class that a text starts with, and what follows it. -/
def member? : List Char → Option (Escape × List Char)
  | [] => none
  | '\\' :: cs => escape? cs
  | c :: cs => some (.literal c, cs)

/-- What follows a class that is open `depth` times more than once; none if it is not well-formed.
-/
def afterClass? (mode : Mode) : Nat → Nat → List Char → Option (List Char)
  | 0, _, _ | _, _, [] => none
  | fuel + 1, depth, '[' :: cs =>
    let (negated, cs) := classHead cs
    if negated && !mode.unicode then none else afterClass? mode fuel (depth + 1) cs
  | fuel + 1, depth, ']' :: cs =>
    match depth with
    | 0 => some cs
    | depth + 1 => afterClass? mode fuel depth cs
  | fuel + 1, depth, '&' :: '&' :: cs | fuel + 1, depth, '-' :: '-' :: cs
  | fuel + 1, depth, '~' :: '~' :: cs => afterClass? mode fuel depth cs
  | fuel + 1, depth, cs => do
    let (first, after) ← member? cs
    guard (first matches .literal _ || (first matches .category _ && mode.supports first))
    match after with
    | '-' :: d :: rest =>
      if d = ']' || d = '-' then afterClass? mode fuel depth after
      else
        match first, ← member? (d :: rest) with
        | .literal low, (.literal high, after) =>
          if low ≤ high then afterClass? mode fuel depth after else none
        | _, _ => none
    | _ => afterClass? mode fuel depth after

/-! ## Expressions -/

/-- Whether a text can name a group. -/
def isGroupName : List Char → Bool
  | [] => false
  | c :: cs =>
    (c = '_' || (isAlphanumeric c && !c.isDigit)) &&
      cs.all fun c => c = '_' || c = '.' || c = '[' || c = ']' || isAlphanumeric c

/-- Whether the rest of an expression is well-formed after a place in it. `outer` are the modes
outside of the groups that are open there, `names` the names of groups so far, and `operand` says
whether there is something to repeat. -/
def isRest : Nat → List Mode → Mode → List (List Char) → Bool → List Char → Bool
  | _, outer, _, _, _, [] => outer.isEmpty
  | 0, _, _, _, _, _ => false
  | fuel + 1, outer, mode, names, operand, c :: cs =>
    match c with
    | '\\' =>
      match escape? cs with
      | some (e, cs) => mode.supports e && isRest fuel outer mode names true cs
      | none => false
    | '[' =>
      let (negated, cs) := classHead cs
      if mode.needsCaseTable || (negated && !mode.unicode) then false
      else
        match afterClass? mode cs.length 0 cs with
        | some cs => isRest fuel outer mode names true cs
        | none => false
    | '(' =>
      match cs with
      | '?' :: 'P' :: '<' :: cs | '?' :: '<' :: cs =>
        let name := cs.takeWhile (· ≠ '>')
        match cs.dropWhile (· ≠ '>') with
        | _ :: cs =>
          isGroupName name && !names.contains name &&
            isRest fuel (mode :: outer) mode (name :: names) false cs
        | [] => false
      | '?' :: cs =>
        let isEnd (c : Char) : Bool := c = ':' || c = ')'
        let flags := cs.takeWhile (!isEnd ·)
        match mode.setAll? flags, cs.dropWhile (!isEnd ·) with
        | some inner, ':' :: cs => isRest fuel (mode :: outer) inner names false cs
        | some inner, _ :: cs => !flags.isEmpty && isRest fuel outer inner names false cs
        | _, _ => false
      | cs => isRest fuel (mode :: outer) mode names false cs
    | ')' =>
      match outer with
      | mode :: outer => isRest fuel outer mode names true cs
      | [] => false
    | '|' => isRest fuel outer mode names false cs
    | '*' | '+' | '?' => operand && isRest fuel outer mode names true cs
    | '\x7b' => false
    | '.' => mode.unicode && isRest fuel outer mode names true cs
    | '^' | '$' => isRest fuel outer mode names true cs
    | c => mode.supports (.literal c) && isRest fuel outer mode names true cs

/-- Whether a text is a regular expression. -/
def isWellFormed (text : List Char) : Bool := isRest text.length [] .start [] false text

/-! ## Numbers -/

/-- Whether a text is empty or an exponent: `e`, an optional sign and digits. -/
def isExponent : List Char → Bool
  | [] => true
  | c :: cs =>
    let digits := match cs with
      | '+' :: ds | '-' :: ds => ds
      | ds => ds
    c.toLower = 'e' && !digits.isEmpty && digits.all Char.isDigit

/-- Whether a text is an unsigned decimal number, with or without a point and an exponent, or a word
for an infinite or undefined one. -/
def isNumber (text : List Char) : Bool :=
  let word := String.ofList (text.map Char.toLower)
  let whole := text.takeWhile Char.isDigit
  let rest := text.dropWhile Char.isDigit
  let (places, rest) := match rest with
    | '.' :: cs => (cs.takeWhile Char.isDigit, cs.dropWhile Char.isDigit)
    | cs => ([], cs)
  word = "inf" || word = "infinity" || word = "nan" || (whole ++ places ≠ [] && isExponent rest)

/-- Whether a filter can ask for a text as the value of a field: a number, which can have a plus
sign, or a regular expression. Numbers without that sign are among the regular expressions. -/
def isValue : List Char → Bool
  | '+' :: cs => isNumber cs
  | cs => isWellFormed cs

end PrefixCalc.Log.Pattern
