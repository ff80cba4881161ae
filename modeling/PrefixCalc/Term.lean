/-!
# Terms

A term is a number literal or an operator symbol applied to one or more operands. An application is
written in parentheses (`Form.grouped`) or without (`Form.bare`); a program is a bare application
whose operands are numbers and grouped applications. Literals and symbols are kept as text, so that
a term can hold any text there and its meaning is settled only when it is evaluated.
-/

namespace PrefixCalc

/-- How an application is written. -/
inductive Form where
  /-- Between parentheses. -/
  | grouped
  /-- Without parentheses. -/
  | bare
deriving DecidableEq, Repr

/-- A number literal, or an operator symbol with its operands, of which there is at least one. -/
inductive Term where
  | number (text : String)
  | apply (form : Form) (op : String) (first : Term) (rest : List Term)
deriving Repr

namespace Term

mutual

/-- Equality of terms is decidable: same shape, same texts. -/
def decEq : (s t : Term) → Decidable (s = t)
  | .number a, .number b => decidable_of_iff (a = b) (by simp)
  | .number _, .apply .. => isFalse (by simp)
  | .apply .., .number _ => isFalse (by simp)
  | .apply f o s ss, .apply g p t ts =>
    have := decEq s t
    have := decEqs ss ts
    decidable_of_iff (f = g ∧ o = p ∧ s = t ∧ ss = ts) (by simp)

/-- Equality of operand lists is decidable. -/
def decEqs : (ss ts : List Term) → Decidable (ss = ts)
  | [], [] => isTrue rfl
  | [], _ :: _ => isFalse (by simp)
  | _ :: _, [] => isFalse (by simp)
  | s :: ss, t :: ts =>
    have := decEq s t
    have := decEqs ss ts
    decidable_of_iff (s = t ∧ ss = ts) (by simp)

end

instance : DecidableEq Term := decEq

/-- The operands of an application, in order; a number has none. -/
def operands : Term → List Term
  | number _ => []
  | apply _ _ first rest => first :: rest

/-- The same application without its parentheses. -/
def ungrouped : Term → Term
  | number text => number text
  | apply _ op first rest => apply .bare op first rest

mutual

/-- The term and all terms below it, each before its operands and operands in order. -/
def subterms : Term → List Term
  | .number text => [.number text]
  | .apply form op first rest => .apply form op first rest :: (first.subterms ++ subtermsOf rest)

/-- The terms in and below the operands. -/
def subtermsOf : List Term → List Term
  | [] => []
  | t :: ts => t.subterms ++ subtermsOf ts

end

mutual

/-- The canonical text of a term: single spaces, parentheses around grouped applications only. -/
def text : Term → String
  | .number text => text
  | .apply .grouped op first rest => "(" ++ op ++ " " ++ first.text ++ restText rest ++ ")"
  | .apply .bare op first rest => op ++ " " ++ first.text ++ restText rest

/-- The text of the operands after the first, each led by a space. -/
def restText : List Term → String
  | [] => ""
  | t :: ts => " " ++ t.text ++ restText ts

end

end Term

end PrefixCalc
