import PrefixCalc.Log.Pattern
import PrefixCalc.Log.Record
import PrefixCalc.Text.ByteOffset

/-!
# Log filters

A filter decides which log records are shown. It is written as a list of directives, separated by
commas. Of the directives that are about a record, the most specific one decides.

A directive is written `target[span{field=value}]=level`. It shows records up to a level: those
whose target starts with its target and that have its field. Each part can be missing; a single word
is a level if it is one, and else a target. A directive with a span or with the value of a field is
about spans of work. This program has none, so such a directive shows nothing.

There are two ways in which a directive cannot be read (`Fault`). One that is not written like this
only makes the filter void. One whose parts cannot be cut out of its text, because a cut falls
inside a character, ends the program.
-/

namespace PrefixCalc.Log

/-! ## Directives -/

/-- What a directive asks of a field: that it is there, or that it has a value. -/
structure FieldCondition where
  name : String
  value : Option String
deriving DecidableEq, Repr

/-- Shows some records up to a ceiling. -/
structure Directive where
  target : Option String
  span : Option String
  field : Option FieldCondition
  ceiling : Ceiling
deriving DecidableEq, Repr

namespace Directive

/-- Shows all records up to a ceiling. -/
def everything (ceiling : Ceiling) : Directive := ⟨none, none, none, ceiling⟩

/-- Whether a directive is about spans of work and not about records. -/
def isAboutSpans (d : Directive) : Bool :=
  d.span.isSome || (d.field.bind FieldCondition.value).isSome

/-- Whether a directive is about a record. -/
def isAbout (d : Directive) (r : Record) : Bool :=
  !d.isAboutSpans && (d.target.all fun t => t.toList.isPrefixOf r.target.toList) &&
    d.field.all fun f => r.fieldNames.contains f.name

/-- Whether a directive goes after another one that is about the same record, or is the same but for
the ceiling: one with a longer target goes first, then one with a field, then one with a later name
of it. -/
def yields (d e : Directive) : Bool :=
  let size (d : Directive) : Nat := (d.target.map (·.utf8ByteSize + 1)).getD 0
  let name (d : Directive) : Option String := d.field.map FieldCondition.name
  if size d ≠ size e then size d < size e
  else
    match name d, name e with
    | none, _ => true
    | some _, none => false
    | some n, some m => n ≤ m

/-! ## Reading -/

/-- Why a directive cannot be read. -/
inductive Fault where
  /-- It is not written as a directive. -/
  | malformed
  /-- A part of it starts or ends inside a character of the text. -/
  | insideCharacter
deriving DecidableEq, Repr

/-- Where reading has come to; a part that has begun comes with the byte offset of its start. -/
inductive Place where
  | beginning
  /-- In a target, or a level if nothing follows. -/
  | word (start : Nat)
  | span (start : Nat)
  | field (start : Nat)
  /-- After the field. -/
  | fieldEnd
  /-- After the span. -/
  | spanEnd
  | level (start : Nat)

/-- What has been read, and where reading has come to. -/
structure Reading where
  place : Place
  directive : Directive

/-- Whether a target can start with the character. -/
def isTargetStart (c : Char) : Bool := c = '-' || c = ':' || c = '_' || isAlphanumeric c

/-- Reads what is asked of a field: its name and, after an equals sign, its value. -/
def fieldOfText? (text : List Char) : Option FieldCondition :=
  match text.splitOn '=' with
  | name :: value :: _ =>
    if Pattern.isValue value then some ⟨String.ofList name, some (String.ofList value)⟩ else none
  | _ => if text.isEmpty then none else some ⟨String.ofList text, none⟩

/-- The value of something that can fail, if it does not, and else the fault. -/
def orFault {α : Type} (fault : Fault) : Option α → Except Fault α
  | some a => .ok a
  | none => .error fault

/-- Cuts the part between two byte offsets out of a text. -/
def cut (text : List Char) (start stop : Nat) : Except Fault (List Char) :=
  orFault .insideCharacter (bytesBetween? start stop text)

/-- Cuts the part from a byte offset on out of a text. -/
def cutFrom (text : List Char) (start : Nat) : Except Fault (List Char) :=
  orFault .insideCharacter (bytesFrom? start text)

namespace Reading

/-- The beginning, with everything to be shown. -/
def start : Reading := ⟨.beginning, everything (some .trace)⟩

/-- Goes past the character `c` at byte offset `i`. Parts are cut out of `text`. -/
def step (text : List Char) (r : Reading) (i : Nat) (c : Char) : Except Fault Reading :=
  let next := i + c.utf8Size
  match r.place with
  | .beginning =>
    if c = '[' then .ok { r with place := .span next }
    else if isTargetStart c then .ok { r with place := .word i }
    else .error .malformed
  | .word start =>
    if c = '=' || c = '[' then do
      let word ← cut text start i
      return {
        place := if c = '=' then .level next else .span next
        directive := { r.directive with target := some (String.ofList word) } }
    else .ok r
  | .span start =>
    if c = ']' then do
      let word ← cut text start i
      return ⟨.spanEnd, { r.directive with span := some (String.ofList word) }⟩
    else if c = '\x7b' then do
      let word ← cut text start i
      let span := if word.isEmpty then none else some (String.ofList word)
      return ⟨.field next, { r.directive with span }⟩
    else .ok r
  | .field start =>
    if c = '\x7d' then do
      let condition ← cut text start i
      let field ← orFault .malformed (fieldOfText? condition)
      return ⟨.fieldEnd, { r.directive with field := some field }⟩
    else .ok r
  | .fieldEnd => if c = ']' then .ok { r with place := .spanEnd } else .error .malformed
  | .spanEnd => if c = '=' then .ok { r with place := .level next } else .error .malformed
  | .level _ => .ok r

/-- Goes past characters of which the first is at byte offset `i`. -/
def steps (text : List Char) (r : Reading) : Nat → List Char → Except Fault Reading
  | _, [] => .ok r
  | i, c :: cs => do
    let r ← r.step text i c
    r.steps text (i + c.utf8Size) cs

/-- The directive that has been read at the end of `text`. -/
def finish (text : List Char) (r : Reading) : Except Fault Directive :=
  match r.place with
  | .word start => do
    let word ← cutFrom text start
    match Ceiling.ofText? word with
    | some ceiling => return everything ceiling
    | none => return { r.directive with target := some (String.ofList word) }
  | .level start => do
    match ← cutFrom text start with
    | [] => return r.directive
    | word =>
      let ceiling ← orFault .malformed (Ceiling.ofText? word)
      return { r.directive with ceiling }
  | .spanEnd => .ok r.directive
  | _ => .error .malformed

end Reading

/-- A text without the blanks around it. -/
def trim (text : List Char) : List Char :=
  ((text.dropWhile isBlank).reverse.dropWhile isBlank).reverse

/-- Reads a directive. It is divided by the characters of the text without the blanks around it, but
by their byte offsets there the parts are then cut out of the text with these blanks. So blanks in
front move every part, and a cut can fall inside a character. -/
def ofText (text : List Char) : Except Fault Directive := do
  let r ← Reading.start.steps text 0 (trim text)
  r.finish text

end Directive

/-! ## Filters -/

/-- A list of directives. -/
abbrev Filter := List Directive

namespace Filter

/-- The directive that decides about a record: the most specific one, the last of several. -/
def decisive? (f : Filter) (r : Record) : Option Directive :=
  (f.filter (·.isAbout r)).foldl
    (fun best d => if best.all (·.yields d) then some d else best)
    none

/-- Whether a record is shown. -/
def admits (f : Filter) (r : Record) : Bool :=
  (f.decisive? r).any fun d => d.ceiling.admits r.level

/-- The directives of the text of a filter, each as it is written. -/
def parts (text : String) : List (List Char) := (text.toList.splitOn ',').filter (!·.isEmpty)

/-- Reads a filter. Nothing but commas stands for errors only. The directives are read in order, and
the first one that cannot be read decides about the whole. -/
def ofText (text : String) : Except Directive.Fault Filter :=
  match parts text with
  | [] => .ok [.everything (some .error)]
  | parts => parts.mapM Directive.ofText

end Filter

end PrefixCalc.Log
