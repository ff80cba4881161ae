import Mathlib.Data.List.Perm.Basic
import Mathlib.Data.Option.NAry
import PrefixCalc.Proofs.Evaluation

/-!
# Regrouping and reordering operands

An application folds its operands from left to right, so a first operand under the same symbol can
be opened in place, whatever the symbol is (`Term.eval_apply_apply`).

A symbol computes `f` if `f` gives the word of any two words under it (`Value.Computes`); only
quotients, remainders and unknown symbols compute nothing. Values under such a symbol are words or
errors, and an error of one of them is never lost. If `f` is associative then so is the symbol on
all values, errors included, since both groupings keep the leftmost error
(`Value.Computes.combine_assoc`): an operand under the same symbol can be opened anywhere. If the
order of two words behind a third does not matter to `f`, the order of the operands after the first
does not matter to the value, up to the kind of an error (`Term.agree_foldl_of_perm`). With a
neutral word in front the first operand is one of those after the first, so all operands can be
reordered.
-/

namespace PrefixCalc

/-! ## Symbols that compute -/

/-- The two values are the same word, or both are errors. -/
def Value.Agree (x y : Value) : Prop :=
  (∃ n, x = .ok n ∧ y = .ok n) ∨ ∃ e e', x = .error e ∧ y = .error e'

/-- Any two words have a word under the symbol, the one that `f` gives. -/
def Value.Computes (op : String) (f : Int64 → Int64 → Int64) : Prop :=
  ∀ a b, Value.combine (.ok a) op (.ok b) = .ok (f a b)

/-- The symbol computes a commutative and associative operation with a neutral word. -/
structure Value.Pools (op : String) (f : Int64 → Int64 → Int64) (neutral : Int64) : Prop where
  computes : Computes op f
  assoc : Std.Associative f
  comm : Std.Commutative f
  neutral_left (a : Int64) : f neutral a = a

namespace Value

variable {op : String} {f : Int64 → Int64 → Int64} {x y z : Value}

theorem agree_iff_toOption_eq : Agree x y ↔ x.toOption = y.toOption := by
  cases x with
  | ok a =>
    cases y with
    | ok b => simp [Agree, Except.toOption, eq_comm]
    | error e => simp [Agree, Except.toOption]
  | error e =>
    cases y with
    | ok b => simp [Agree, Except.toOption]
    | error e' => simp [Agree, Except.toOption]

/-- The order of two words behind a third does not matter to what can be pooled. -/
theorem Pools.right_comm {neutral : Int64} (h : Pools op f neutral) (a b c : Int64) :
    f (f a b) c = f (f a c) b := by
  rw [h.assoc.assoc, h.comm.comm b c, ← h.assoc.assoc]

/-- Sums, products and exclusive ors can be pooled. -/
theorem exists_pools (h : op ∈ ["+", "*", "^"]) : ∃ f neutral, Pools op f neutral := by
  simp only [List.mem_cons, List.not_mem_nil, or_false] at h
  rcases h with rfl | rfl | rfl
  · exact ⟨(· + ·), 0, fun _ _ => rfl, inferInstance, inferInstance, Int64.zero_add⟩
  · exact ⟨(· * ·), 1, fun _ _ => rfl, inferInstance, inferInstance, Int64.one_mul⟩
  · exact ⟨(· ^^^ ·), 0, fun _ _ => rfl, inferInstance, inferInstance, fun _ => Int64.zero_xor⟩

theorem computes_sub : Computes "-" (· - ·) := fun _ _ => rfl

/-- A symbol that computes gives a word for two words and an error for anything else. -/
theorem Computes.toOption_combine (h : Computes op f) (x y : Value) :
    (x.combine op y).toOption = Option.map₂ f x.toOption y.toOption := by
  cases x with
  | error e => rfl
  | ok a =>
    cases y with
    | error e => rfl
    | ok b => rw [h]; rfl

/-- Of several errors the leftmost is kept, however the values are grouped. -/
theorem Computes.combine_assoc (h : Computes op f) (hf : Std.Associative f) (x y z : Value) :
    (x.combine op y).combine op z = x.combine op (y.combine op z) := by
  cases x with
  | error e => rfl
  | ok a =>
    cases y with
    | error e => rfl
    | ok b =>
      cases z with
      | error e => rw [h]; rfl
      | ok c => rw [h, h, h, h, hf.assoc]

end Value

namespace Term

variable {op : String} {f : Int64 → Int64 → Int64}

/-! ## Regrouping -/

/-- A first operand under the same symbol can be opened in place. -/
theorem eval_apply_apply (form inner : Form) (op : String) (first : Term)
    (rest others : List Term) :
    (Term.apply form op (.apply inner op first rest) others).eval =
      (Term.apply form op first (rest ++ others)).eval := by
  rw [eval_apply, eval_apply, eval_apply, List.foldl_append]

/-- Any operand under the same symbol can be opened in place if the symbol is associative. -/
theorem eval_apply_append_apply (h : Value.Computes op f) (hf : Std.Associative f)
    (form inner : Form) (first b : Term) (before bs after : List Term) :
    (Term.apply form op first (before ++ .apply inner op b bs :: after)).eval =
      (Term.apply form op first (before ++ b :: bs ++ after)).eval := by
  have hassoc : Std.Associative fun x y : Value => x.combine op y := ⟨h.combine_assoc hf⟩
  have hopen (acc : Value) : acc.combine op (Term.apply inner op b bs).eval =
      (bs.map eval).foldl (fun acc y => acc.combine op y) (acc.combine op b.eval) := by
    rw [eval_apply_values]
    exact List.foldl_assoc.symm
  rw [eval_apply_values, eval_apply_values]
  simp only [List.map_append, List.map_cons, List.foldl_append, List.foldl_cons, hopen]

/-! ## Reordering -/

/-- What is left of a fold over operands when the kinds of errors are forgotten. -/
theorem toOption_foldl (h : Value.Computes op f) (ts : List Term) (acc : Value) :
    (ts.foldl (fun acc t => acc.combine op t.eval) acc).toOption =
      ts.foldl (fun acc t => Option.map₂ f acc t.eval.toOption) acc.toOption :=
  (List.foldl_hom Except.toOption fun x t => (h.toOption_combine x t.eval).symm).symm

/-- Operands after the first can be reordered if the order of two words behind a third does not
matter. -/
theorem agree_foldl_of_perm (h : Value.Computes op f) (hf : ∀ a b c, f (f a b) c = f (f a c) b)
    {rest rest' : List Term} (hperm : rest.Perm rest') (acc : Value) :
    Value.Agree (rest.foldl (fun acc t => acc.combine op t.eval) acc)
      (rest'.foldl (fun acc t => acc.combine op t.eval) acc) := by
  rw [Value.agree_iff_toOption_eq, toOption_foldl h, toOption_foldl h]
  exact hperm.foldl_eq' (fun s _ t _ z => Option.map₂_right_comm hf) _

/-- With a neutral word in front, the first operand is one of those after the first. -/
theorem eval_apply_eq_foldl_cons {neutral : Int64} (h : Value.Pools op f neutral) (form : Form)
    (first : Term) (rest : List Term) : (Term.apply form op first rest).eval =
      (first :: rest).foldl (fun acc t => acc.combine op t.eval) (.ok neutral) := by
  have hfirst : Value.combine (.ok neutral) op first.eval = first.eval := by
    cases first.eval with
    | error e => rfl
    | ok a => rw [h.computes, h.neutral_left]
  rw [eval_apply, List.foldl_cons, hfirst]

/-- Under any symbol, known or not, a first operand that is an application of the symbol can be
opened in place without a change of the value. Under sums, products and exclusive ors the same holds
of any operand, and the order of all operands matters at most to the kind of an error; under
differences, so does the order of the operands after the first. -/
theorem eval_regrouped (op : String) :
    (∀ form inner first rest others, (Term.apply form op (.apply inner op first rest) others).eval =
      (Term.apply form op first (rest ++ others)).eval) ∧
    (op ∈ ["+", "*", "^"] →
      (∀ form inner first before b bs after,
        (Term.apply form op first (before ++ .apply inner op b bs :: after)).eval =
          (Term.apply form op first (before ++ b :: bs ++ after)).eval) ∧
      ∀ form first rest first' rest', (first :: rest).Perm (first' :: rest') →
        Value.Agree (Term.apply form op first rest).eval (Term.apply form op first' rest').eval) ∧
    (op = "-" → ∀ form first rest rest', rest.Perm rest' →
      Value.Agree (Term.apply form op first rest).eval (Term.apply form op first rest').eval) := by
  refine ⟨fun form inner first rest others => eval_apply_apply form inner op first rest others,
    fun hop => ?_, ?_⟩
  · obtain ⟨f, neutral, hpools⟩ := Value.exists_pools hop
    refine ⟨fun form inner first before b bs after => ?_, ?_⟩
    · exact eval_apply_append_apply hpools.computes hpools.assoc form inner first b before bs after
    · intro form first rest first' rest' hperm
      rw [eval_apply_eq_foldl_cons hpools, eval_apply_eq_foldl_cons hpools]
      exact agree_foldl_of_perm hpools.computes hpools.right_comm hperm _
  · rintro rfl form first rest rest' hperm
    have hsub (a b c : Int64) : a - b - c = a - c - b := by
      rw [Int64.sub_eq_add_neg, Int64.sub_eq_add_neg, Int64.sub_eq_add_neg, Int64.sub_eq_add_neg,
        Int64.add_assoc, Int64.add_comm (-b), ← Int64.add_assoc]
    rw [eval_apply, eval_apply]
    exact agree_foldl_of_perm Value.computes_sub hsub hperm _

/-- Operands with errors of two kinds: their order decides which one is left, and not whether there is
one. -/
theorem eval_regrouped_errors :
    let byZero : Term := .apply .grouped "/" (.number "1") [.number "0"]
    let large : Term := .number "9223372036854775808"
    [byZero, large].Perm [large, byZero] ∧
      (Term.apply .bare "+" byZero [large]).eval = .error .divideByZero ∧
      (Term.apply .bare "+" large [byZero]).eval = .error .invalidNumber ∧
      Value.Agree (Term.apply .bare "+" byZero [large]).eval
        (Term.apply .bare "+" large [byZero]).eval := by
  intro byZero large
  have hperm : [byZero, large].Perm [large, byZero] := .swap large byZero []
  have hagree := ((eval_regrouped "+").2.1 (by decide)).2 .bare byZero [large] large [byZero] hperm
  exact ⟨hperm, by decide +kernel, by decide +kernel, hagree⟩

-- Quotients are not associative: only a first operand can be opened.
example :
    (Term.apply .bare "/" (.number "8") [.apply .grouped "/" (.number "4") [.number "2"]]).eval ≠
      (Term.apply .bare "/" (.number "8") [.number "4", .number "2"]).eval := by decide +kernel

end Term

end PrefixCalc
