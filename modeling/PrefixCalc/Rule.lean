import PrefixCalc.Diagnostic
import PrefixCalc.Text.Basic

/-!
# Rules

A rule reads a value off the front of a text. It either succeeds, with the value and the place after
it, or fails. Both outcomes may carry a failure: a success keeps the furthest failure of the
branches that were given up on the way (its alternative), so that a later failure can say all that
would have been accepted at the same place. Failures are ranked by how far they reached
(`Failure.further`).

Rules are greedy and never look back: a repetition takes as many items as it can, a choice takes the
first rule that succeeds, and what follows has to make do with that.

`Rule.recursive` ties the knot of a rule that refers to itself. The rule is unrolled once more than
there are characters left, which is enough for a rule that reads at least one character before it
comes back to itself.
-/

namespace PrefixCalc

/-- A place in a text: how many characters come before it, and those that follow. -/
structure Cursor where
  pos : Nat
  rest : List Char
deriving DecidableEq, Repr

/-- A failed attempt: how far it reached and what it has to say. -/
structure Failure where
  reach : Nat
  diagnostic : Diagnostic
deriving DecidableEq, Repr

namespace Failure

/-- The failure that reached further. Of two that reached equally far, the first says where, and
both say what was expected. -/
def further (a b : Failure) : Failure :=
  if a.reach < b.reach then b
  else if b.reach < a.reach then a
  else { a with diagnostic := a.diagnostic.merge b.diagnostic }

/-- The further of two failures that may be absent; the second comes first in a tie. -/
def furthest? : Option Failure → Option Failure → Option Failure
  | some a, some b => some (b.further a)
  | some a, none => some a
  | none, b => b

/-- A failure with a name for what was expected, unless it has one. -/
def named (name : String) (f : Failure) : Failure :=
  { f with diagnostic := { f.diagnostic with label := f.diagnostic.label.orNamed name } }

end Failure

namespace Cursor

/-- The front of a text. -/
def ofText (text : String) : Cursor := ⟨0, text.toList⟩

/-- The place after the blank characters here. -/
def skipBlanks (c : Cursor) : Cursor :=
  ⟨c.pos + (c.rest.takeWhile isBlank).length, c.rest.dropWhile isBlank⟩

/-- The failure to read what stands here. -/
def refuse (c : Cursor) (expected : List Expectation) : Failure where
  reach := c.pos
  diagnostic :=
    { span := ⟨c.pos, c.pos + (c.rest.take 1).length⟩
      reason := .unexpected
      found := c.rest.head?
      expected := expected
      label := .unnamed }

end Cursor

/-- The outcome of a rule at a place. -/
inductive Reply (α : Type) where
  /-- The value, the furthest failure given up on the way to it, and the place after it. -/
  | ok (value : α) (alt : Option Failure) (next : Cursor)
  | fail (why : Failure)

/-- A rule is a function from places to outcomes. -/
abbrev Rule (α : Type) := Cursor → Reply α

namespace Rule

variable {α β : Type}

/-! ## Single characters -/

/-- One character of a class. -/
def token (accept : Char → Bool) (expected : List Expectation) : Rule Char := fun c =>
  match c.rest with
  | x :: xs => if accept x then .ok x none ⟨c.pos + 1, xs⟩ else .fail (c.refuse expected)
  | [] => .fail (c.refuse expected)

/-- Exactly the given character. -/
def char (x : Char) : Rule Char := token (· == x) [.char x]

/-- One of the given characters. -/
def oneOf (xs : List Char) : Rule Char := token (xs.contains ·) (xs.map .char)

/-- The end of the text. -/
def endOfInput : Rule Unit := fun c =>
  match c.rest with
  | [] => .ok () none c
  | _ :: _ => .fail (c.refuse [.endOfInput])

/-- The rule that accepts nothing. -/
def never : Rule α := fun c => .fail (c.refuse [])

/-! ## Combinations -/

/-- The same rule with another value. -/
def map (f : α → β) (r : Rule α) : Rule β := fun c =>
  match r c with
  | .ok a alt next => .ok (f a) alt next
  | .fail why => .fail why

/-- One rule, then another where the first one ended. -/
def andThen (r : Rule α) (s : Rule β) : Rule (α × β) := fun c =>
  match r c with
  | .fail why => .fail why
  | .ok a alt next =>
    match s next, alt with
    | .fail why, some given => .fail (why.further given)
    | .fail why, none => .fail why
    | .ok b alt' next', _ => .ok (a, b) (Failure.furthest? alt alt') next'

/-- One rule, then another whose value is kept alone. -/
def keepRight (r : Rule α) (s : Rule β) : Rule β := map Prod.snd (r.andThen s)

/-- One rule, then another whose value is dropped. -/
def keepLeft (r : Rule α) (s : Rule β) : Rule α := map Prod.fst (r.andThen s)

/-- The rule, or nothing at all if it fails. -/
def optional (r : Rule α) : Rule (Option α) := fun c =>
  match r c with
  | .ok a alt next => .ok (some a) alt next
  | .fail why => .ok none (some why) c

/-- The first rule, or the second if the first fails. -/
def orElse (r s : Rule α) : Rule α := fun c =>
  match r c with
  | .ok a alt next => .ok a alt next
  | .fail why =>
    match s c with
    | .ok a alt next => .ok a alt next
    | .fail why' => .fail (why.further why')

/-- The first rule of a list that succeeds, where `seen` is the furthest failure so far. -/
def choiceAfter (seen : Option Failure) : List (Rule α) → Rule α
  | [] => fun c => .fail (seen.getD (c.refuse []))
  | r :: rs => fun c =>
    match r c with
    | .ok a alt next => .ok a alt next
    | .fail why => choiceAfter (Failure.furthest? seen (some why)) rs c

/-- The first rule of a list that succeeds. -/
def choice (rs : List (Rule α)) : Rule α := choiceAfter none rs

/-- Names what the rule expects, in its failure and in its alternative. -/
def named (name : String) (r : Rule α) : Rule α := fun c =>
  match r c with
  | .ok a alt next => .ok a (alt.map (Failure.named name)) next
  | .fail why => .fail (why.named name)

/-- The rule with any blanks before and after it. -/
def spaced (r : Rule α) : Rule α := fun c =>
  match r c.skipBlanks with
  | .ok a alt next => .ok a alt next.skipBlanks
  | .fail why => .fail why

/-! ## Repetition and recursion -/

/-- At most `n` items, as many as there are. `alt` is the furthest failure given up so far. -/
def manyUpTo (r : Rule α) : Nat → Option Failure → Cursor → List α × Option Failure × Cursor
  | 0, alt, c => ([], alt, c)
  | n + 1, alt, c =>
    match r c with
    | .fail why => ([], Failure.furthest? alt (some why), c)
    | .ok a alt' next =>
      let (as, last) := manyUpTo r n (Failure.furthest? alt alt') next
      (a :: as, last)

/-- Items until the rule fails. Each item is taken to have at least one character, so there are not
more of them than characters left. -/
def manyAfter (r : Rule α) (alt : Option Failure) : Cursor → List α × Option Failure × Cursor :=
  fun c => manyUpTo r (c.rest.length + 1) alt c

/-- Any number of items, as many as there are. -/
def many (r : Rule α) : Rule (List α) := fun c =>
  let (as, alt, next) := manyAfter r none c
  .ok as alt next

/-- One or more items, as many as there are. -/
def many1 (r : Rule α) : Rule (List α) := fun c =>
  match r c with
  | .fail why => .fail why
  | .ok a alt next =>
    let (as, alt', next') := manyAfter r alt next
    .ok (a :: as) alt' next'

/-- A rule put into itself `n` times. -/
def unroll (f : Rule α → Rule α) : Nat → Rule α
  | 0, c => never c
  | n + 1, c => f (unroll f n) c

/-- A rule that may refer to itself after at least one character. -/
def recursive (f : Rule α → Rule α) : Rule α := fun c => unroll f (c.rest.length + 1) c

/-- Reads the front of a text. -/
def read (r : Rule α) (text : String) : Except Diagnostic α :=
  match r (Cursor.ofText text) with
  | .ok a _ _ => .ok a
  | .fail why => .error why.diagnostic

end Rule

end PrefixCalc
