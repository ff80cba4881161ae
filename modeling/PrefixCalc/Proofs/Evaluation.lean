import PrefixCalc.Proofs.Walk
import PrefixCalc.Term.Walk

/-!
# The value of a term

The value of an application folds the values of its operands (`Term.eval_apply`). Errors are values,
so the fold goes on after an error, and which of several errors is left at the root is a matter of
order: the first error wins (`Term.eval_eq_first_created`).

Evaluating a term calls the hooks of the evaluator one after another (`Term.calls`). A call creates
an error (`Call.created?`) if it returns one although it was given none; every other error that a
call returns was given to it. The calls stand in a line and the values meet in a tree, so the proof
is an induction over the term. What carries it along the operands of an application is that an error
of the running value comes before all that the calls still to come create
(`Term.findSome?_restCalls`).
-/

namespace PrefixCalc

namespace Term

/-- The value of a number is that of its literal. -/
theorem eval_number (text : String) : (Term.number text).eval = Value.ofLiteral text := by
  rw [eval, walk]
  rfl

/-- The value of an application folds those of its operands. -/
theorem eval_apply (form : Form) (op : String) (first : Term) (rest : List Term) :
    (Term.apply form op first rest).eval =
      rest.foldl (fun acc t => acc.combine op t.eval) first.eval := by
  rw [eval, walk_apply]
  rfl

/-- The value of an application depends on its operands through their values only. -/
theorem eval_apply_values (form : Form) (op : String) (first : Term) (rest : List Term) :
    (Term.apply form op first rest).eval =
      (rest.map eval).foldl (fun acc y => acc.combine op y) first.eval := by
  rw [eval_apply, List.foldl_map]

end Term

/-! ## Errors of values and errors that calls create -/

namespace Value

/-- The error that a value is, if it is one. -/
def error? : Value → Option EvalError
  | .ok _ => none
  | .error e => some e

theorem error?_eq_some_iff {x : Value} {e : EvalError} : x.error? = some e ↔ x = .error e := by
  cases x with
  | ok n => simp [error?]
  | error e' => simp [error?]

theorem error?_eq_none_iff {x : Value} : x.error? = none ↔ ∃ n, x = .ok n := by
  cases x with
  | ok n => simp [error?]
  | error e => simp [error?]

/-- A literal has no word exactly if its text denotes none, and then it is an invalid number. -/
theorem error?_ofLiteral {text : String} {e : EvalError} :
    (ofLiteral text).error? = some e ↔ Decimal.word? text = none ∧ e = .invalidNumber := by
  unfold ofLiteral
  cases Decimal.word? text with
  | some n => simp [error?]
  | none => simp [error?, eq_comm]

/-- Two words combine as their operator says, if it is known. -/
theorem combine_ok (a b : Int64) (op : String) : combine (.ok a) op (.ok b) =
    match Operator.ofText? op with
    | some o => o.apply a b
    | none => .error .invalidOperator := rfl

/-- Two words have no value under an unknown operator, and no quotient or remainder by zero. -/
theorem error?_combine_ok {a b : Int64} {op : String} {e : EvalError} :
    (combine (.ok a) op (.ok b)).error? = some e ↔
      Operator.ofText? op = none ∧ e = .invalidOperator ∨
      (Operator.ofText? op = some .div ∨ Operator.ofText? op = some .rem) ∧ b = 0 ∧
        e = .divideByZero := by
  rw [combine_ok]
  cases Operator.ofText? op with
  | none => simp [error?, eq_comm]
  | some o =>
    cases o with
    | add | sub | mul | xor => simp [error?, Operator.apply]
    | div | rem =>
      by_cases hb : b = 0
      · simp [error?, Operator.apply, hb, eq_comm]
      · simp [error?, Operator.apply, hb]

end Value

namespace Call

/-- The error that a call creates: the one that it returns although it was given none. -/
def created? (call : Call Value) : Option EvalError :=
  if call.inputs.all (·.isOk) then call.result.error? else none

/-- A number is given no value, so an error of its literal is created there. -/
theorem created?_number (text : String) (x : Value) : (Call.number text x).created? = x.error? :=
  rfl

/-- The seed hands its value on, so it creates no error. -/
theorem created?_seed (op : String) (x : Value) : (Call.seed op x x).created? = none := by
  cases x with
  | ok n => rfl
  | error e => rfl

end Call

/-- The error of two values under an operator is that of the left one, or else that of the right
one, or else the one that combining them creates. -/
theorem Value.error?_combine (x : Value) (op : String) (y : Value) : (x.combine op y).error? =
    x.error?.or (y.error?.or (Call.combine op x y (x.combine op y)).created?) := by
  cases x with
  | error e => rfl
  | ok a =>
    cases y with
    | error e => rfl
    | ok b => rfl

namespace Call

/-- A call returns the error that it creates. -/
theorem result_of_created? {call : Call Value} {e : EvalError} (h : call.created? = some e) :
    call.result = .error e := by
  rw [created?] at h
  split at h
  · exact Value.error?_eq_some_iff.1 h
  · cases h

/-- A call of the evaluator creates an error at a literal that denotes no word, and where two words
meet under an unknown operator or with a zero divisor. -/
theorem created?_eq_some_iff {call : Call Value} (hcall : call.result = call.answer Walker.eval)
    {e : EvalError} : call.created? = some e ↔
      (∃ text result, call = .number text result ∧ Decimal.word? text = none ∧
        e = .invalidNumber) ∨
      ∃ op a b result, call = .combine op (.ok a) (.ok b) result ∧
        (Operator.ofText? op = none ∧ e = .invalidOperator ∨
          (Operator.ofText? op = some .div ∨ Operator.ofText? op = some .rem) ∧ b = 0 ∧
            e = .divideByZero) := by
  cases call with
  | number text result =>
    change result = Value.ofLiteral text at hcall
    rw [created?_number, hcall, Value.error?_ofLiteral]
    constructor
    · intro h
      exact .inl ⟨text, _, rfl, h⟩
    · rintro (⟨_, _, ⟨rfl, rfl⟩, h⟩ | ⟨_, _, _, _, ⟨⟩, _⟩)
      exact h
  | seed op first result =>
    change result = first at hcall
    rw [hcall, created?_seed]
    refine iff_of_false nofun ?_
    rintro (⟨_, _, ⟨⟩, _⟩ | ⟨_, _, _, _, ⟨⟩, _⟩)
  | combine op acc next result =>
    change result = acc.combine op next at hcall
    constructor
    · intro h
      -- Only two words leave it to this call to create an error.
      cases acc with
      | error => cases h
      | ok a =>
        cases next with
        | error => cases h
        | ok b =>
          change result.error? = some e at h
          rw [hcall] at h
          exact .inr ⟨op, a, b, result, rfl, Value.error?_combine_ok.1 h⟩
    · rintro (⟨_, _, ⟨⟩, _⟩ | ⟨op, a, b, _, ⟨rfl, rfl, rfl, rfl⟩, h⟩)
      change result.error? = some e
      rw [hcall]
      exact Value.error?_combine_ok.2 h

end Call

namespace Term

mutual

/-- The first error that a call creates is the error of the value. -/
theorem findSome?_calls : ∀ t : Term,
    (t.calls Walker.eval).findSome? Call.created? = t.eval.error?
  | .number text => by
    rw [calls_number, List.findSome?_singleton, eval_number]
    rfl
  | .apply form op first rest => by
    have hcalls : (Term.apply form op first rest).calls Walker.eval = first.calls Walker.eval ++
        .seed op first.eval first.eval :: restCalls Walker.eval op rest first.eval :=
      calls_apply Walker.eval form op first rest
    rw [hcalls, List.findSome?_append, findSome?_calls first, List.findSome?_cons,
      Call.created?_seed, eval_apply]
    exact findSome?_restCalls op rest first.eval

/-- An error of the running value comes before the errors that the calls of further operands create.
-/
theorem findSome?_restCalls (op : String) : ∀ (ts : List Term) (acc : Value),
    acc.error?.or ((restCalls Walker.eval op ts acc).findSome? Call.created?) =
      (ts.foldl (fun acc t => acc.combine op t.eval) acc).error?
  | [], acc => by
    rw [restCalls_nil, List.findSome?_nil, Option.or_none]
    rfl
  | t :: ts, acc => by
    have hcalls : restCalls Walker.eval op (t :: ts) acc = t.calls Walker.eval ++
        .combine op acc t.eval (acc.combine op t.eval) ::
          restCalls Walker.eval op ts (acc.combine op t.eval) :=
      restCalls_cons Walker.eval op t ts acc
    have hrest := findSome?_restCalls op ts (acc.combine op t.eval)
    rw [Value.error?_combine, Option.or_assoc, Option.or_assoc] at hrest
    rw [hcalls, List.findSome?_append, findSome?_calls t, List.foldl_cons, ← hrest,
      List.findSome?_cons]
    cases (Call.combine op acc t.eval (acc.combine op t.eval)).created? with
    | none => rfl
    | some e => rfl

end

/-- A term has a word for its value if no call of its evaluation creates an error, and otherwise the
error that the first such call creates. Calls that create one are those of a literal that denotes no
word, and of two words that meet under an unknown operator or with a zero divisor; they return it.
-/
theorem eval_eq_first_created (t : Term) :
    ((∃ n, t.eval = .ok n) ↔ ∀ call ∈ t.calls Walker.eval, call.created? = none) ∧
    (∀ e, t.eval = .error e ↔ ∃ before call after,
      t.calls Walker.eval = before ++ call :: after ∧ call.created? = some e ∧
        ∀ earlier ∈ before, earlier.created? = none) ∧
    ∀ call ∈ t.calls Walker.eval, ∀ e,
      (call.created? = some e ↔
        (∃ text result, call = .number text result ∧ Decimal.word? text = none ∧
          e = .invalidNumber) ∨
        ∃ op a b result, call = .combine op (.ok a) (.ok b) result ∧
          (Operator.ofText? op = none ∧ e = .invalidOperator ∨
            (Operator.ofText? op = some .div ∨ Operator.ofText? op = some .rem) ∧ b = 0 ∧
              e = .divideByZero)) ∧
      (call.created? = some e → call.result = .error e) := by
  have hfirst := findSome?_calls t
  refine ⟨?_, fun e => ?_, fun call hcall e => ?_⟩
  · rw [← Value.error?_eq_none_iff, ← hfirst]
    exact List.findSome?_eq_none_iff
  · rw [← Value.error?_eq_some_iff, ← hfirst]
    exact List.findSome?_eq_some_iff
  · have hresult := result_of_mem_calls Walker.eval t call hcall
    exact ⟨Call.created?_eq_some_iff hresult, Call.result_of_created?⟩

end Term

end PrefixCalc
