import PrefixCalc.Term
import PrefixCalc.Value

/-!
# Walking a term

A walk folds a term from left to right. It visits a number through `Walker.number`. For an
application it walks the first operand, hands the result to `Walker.seed` together with the operator
symbol, and then walks each further operand and merges its result into the running one with
`Walker.combine`. The hooks act in a monad, so a walker may keep a state of any kind; the walkers
of this library are pure.

`Term.eval` is the value of a term: an application folds its operands from left to right under its
operator; a single operand is the value itself, whatever the operator. `Term.steps` lists the
computations that the evaluation performs, in order: the applications of a known operator to two
words. `Term.leaves` and `Term.branches` count number literals and operator symbols, and look at
neither of them.
-/

namespace PrefixCalc

universe u v

/-- What a walk does at numbers, at the first operand of an application and at its other ones. -/
structure Walker (m : Type u → Type v) (α : Type u) where
  /-- The result of a number literal. -/
  number : (text : String) → m α
  /-- The running result of an application after its first operand. -/
  seed : (op : String) → (first : α) → m α
  /-- The running result after one more operand. -/
  combine : (op : String) → (acc next : α) → m α

namespace Term

variable {m : Type u → Type v} {α : Type u} [Monad m]

mutual

/-- The result of walking a term. -/
def walk (w : Walker m α) : Term → m α
  | .number text => w.number text
  | .apply _ op first rest => do
    let a ← first.walk w
    let acc ← w.seed op a
    walkRest w op rest acc

/-- Walks further operands, starting from a running result. -/
def walkRest (w : Walker m α) (op : String) : List Term → α → m α
  | [], acc => pure acc
  | t :: ts, acc => do
    let next ← t.walk w
    let acc ← w.combine op acc next
    walkRest w op ts acc

end

end Term

/-! ## Evaluating -/

/-- Evaluates terms. -/
def Walker.eval : Walker Id Value where
  number text := Value.ofLiteral text
  seed _ first := first
  combine op acc next := acc.combine op next

/-- The value of a term. -/
def Term.eval (t : Term) : Value := (t.walk Walker.eval).run

/-- One computation: a known operator applied to two words. -/
structure Step where
  left : Int64
  op : String
  right : Int64
  result : Value

/-- The computation that combining two values performs, if it comes to one. -/
def Step.of? (x : Value) (op : String) (y : Value) : Option Step :=
  match x, y, Operator.ofText? op with
  | .ok a, .ok b, some o => some ⟨a, op, b, o.apply a b⟩
  | _, _, _ => none

/-- A value with the computations that led to it, in order. -/
structure Evaluation where
  value : Value
  steps : List Step

/-- Evaluates terms and keeps the computations. -/
def Walker.evaluation : Walker Id Evaluation where
  number text := ⟨Value.ofLiteral text, []⟩
  seed _ first := first
  combine op acc next :=
    ⟨acc.value.combine op next.value,
      acc.steps ++ next.steps ++ (Step.of? acc.value op next.value).toList⟩

/-- The computations that the evaluation of a term performs, in order. -/
def Term.steps (t : Term) : List Step := (t.walk Walker.evaluation).run.steps

/-! ## Counting -/

/-- Counts number literals. -/
def Walker.leaves : Walker Id Nat where
  number _ := 1
  seed _ first := first
  combine _ acc next := acc + next

/-- Counts operator symbols. -/
def Walker.branches : Walker Id Nat where
  number _ := 0
  seed _ first := first + 1
  combine _ acc next := acc + next

namespace Term

/-- The number of literals of a term. -/
def leaves (t : Term) : Nat := (t.walk Walker.leaves).run

/-- The number of operator symbols of a term. -/
def branches (t : Term) : Nat := (t.walk Walker.branches).run

end Term

end PrefixCalc
