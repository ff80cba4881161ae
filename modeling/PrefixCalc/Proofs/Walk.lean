import PrefixCalc.Term.Walk

/-!
# What a walk calls

A walk of a pure walker is a fold over the operands of each application (`Term.walk_apply`). To say
in which order it calls the hooks, `Walker.logged` is a walker that does what another one does and
also writes down each call, with what the hook was given and what it returned; `Term.calls` are the
calls that a walk of it writes down. Writing them down has no effect on the result
(`Term.writes_walk`).

The calls of an application are those of its first operand, the call of the seed, and then for each
further operand its own calls and the call that merges its result (`Term.calls_apply`,
`Term.restCalls_cons`).
-/

namespace PrefixCalc

universe u v

namespace Term

/-- A property that passes from the operands of an application to the application holds of every
term. -/
@[elab_as_elim]
theorem inductionOnOperands {motive : Term → Prop} (t : Term)
    (number : ∀ text, motive (.number text))
    (apply : ∀ form op first rest, motive first → (∀ s ∈ rest, motive s) →
      motive (.apply form op first rest)) : motive t :=
  @Term.rec motive (fun ts => ∀ s ∈ ts, motive s) number apply
    (fun _ h => nomatch h)
    (fun _ _ hs hss s h => (List.mem_cons.1 h).elim (fun heq => heq ▸ hs) (hss s)) t

/-! ## Terms below a term -/

section
variable {form : Form} {op : String} {first s : Term} {rest : List Term}

/-- What is in or below operands is in or below one of them. -/
theorem mem_subtermsOf {ts : List Term} : s ∈ subtermsOf ts ↔ ∃ t ∈ ts, s ∈ t.subterms := by
  induction ts with
  | nil => simp [subtermsOf]
  | cons t ts ih => simp [subtermsOf, ih]

/-- A term in or below an application is the application, or in or below an operand of it. -/
theorem mem_subterms_apply : s ∈ (Term.apply form op first rest).subterms ↔
    s = .apply form op first rest ∨ ∃ t ∈ first :: rest, s ∈ t.subterms := by
  simp [subterms, mem_subtermsOf]

theorem mem_subterms_number {text : String} :
    s ∈ (Term.number text).subterms ↔ s = .number text := by
  simp [subterms]

theorem mem_subterms_self (t : Term) : t ∈ t.subterms := by
  cases t with
  | number text => simp [subterms]
  | apply form op first rest => simp [subterms]

end

/-! ## Pure walks are folds -/

section
variable {α : Type u} (w : Walker Id α)

/-- Walking further operands folds their results into the running one. -/
theorem walkRest_eq_foldl (op : String) (ts : List Term) (acc : α) :
    walkRest w op ts acc = ts.foldl (fun acc t => w.combine op acc (t.walk w)) acc := by
  induction ts generalizing acc with
  | nil => rw [walkRest]; rfl
  | cons t ts ih =>
    rw [walkRest, List.foldl_cons]
    exact ih _

/-- Walking an application folds the results of its operands, starting from the seed. -/
theorem walk_apply (form : Form) (op : String) (first : Term) (rest : List Term) :
    (Term.apply form op first rest).walk w =
      rest.foldl (fun acc t => w.combine op acc (t.walk w)) (w.seed op (first.walk w)) := by
  rw [walk]
  exact walkRest_eq_foldl w op rest _

end

end Term

/-! ## Calls of hooks -/

/-- A call of a hook: what it was given, and what it returned. -/
inductive Call (α : Type u) where
  | number (text : String) (result : α)
  | seed (op : String) (first result : α)
  | combine (op : String) (acc next result : α)

namespace Call

variable {α : Type u}

/-- The results of operands that the hook was given. -/
def inputs : Call α → List α
  | number _ _ => []
  | seed _ first _ => [first]
  | combine _ acc next _ => [acc, next]

/-- What the hook returned. -/
def result : Call α → α
  | number _ result => result
  | seed _ _ result => result
  | combine _ _ _ result => result

/-- What a pure walker returns when it is given what the call was given. -/
def answer (w : Walker Id α) : Call α → α
  | number text _ => w.number text
  | seed op first _ => w.seed op first
  | combine op acc next _ => w.combine op acc next

end Call

namespace Walker

variable {m : Type u → Type v} {α : Type u} [Monad m]

/-- Does what a hook does and writes the call down behind the earlier ones. -/
def log (call : α → Call α) (hook : m α) : StateT (List (Call α)) m α := do
  let result ← hook
  modify (· ++ [call result])
  return result

/-- Does what a walker does and writes down the calls of its hooks. -/
def logged (w : Walker m α) : Walker (StateT (List (Call α)) m) α where
  number text := log (.number text) (w.number text)
  seed op first := log (.seed op first) (w.seed op first)
  combine op acc next := log (.combine op acc next) (w.combine op acc next)

end Walker

/-! ## What a logged walk writes down -/

section
variable {α β γ : Type u}

/-- The computation returns `a` and writes `cs` down behind the earlier calls. -/
def Writes (x : StateT (List (Call α)) Id β) (a : β) (cs : List (Call α)) : Prop :=
  ∀ earlier, x.run earlier = (a, earlier ++ cs)

namespace Writes

variable {x : StateT (List (Call α)) Id β} {f : β → StateT (List (Call α)) Id γ} {a : β} {b : γ}
  {cs cs' : List (Call α)}

/-- What is written down can be read off a run with nothing written before. -/
theorem run_nil (h : Writes x a cs) : (x.run []).run.2 = cs := by
  rw [h []]
  rfl

/-- What is written down is what a run with nothing written before writes. -/
theorem self (h : Writes x a cs) : Writes x a (x.run []).run.2 := by
  rw [h.run_nil]
  exact h

/-- Returning a value writes nothing. -/
theorem pure (a : β) : Writes (Pure.pure a : StateT (List (Call α)) Id β) a [] := by
  intro earlier
  rw [List.append_nil]
  rfl

/-- Computations write one after the other. -/
theorem bind (h : Writes x a cs) (hf : Writes (f a) b cs') : Writes (x >>= f) b (cs ++ cs') := by
  intro earlier
  rw [StateT.run_bind, h earlier, ← List.append_assoc]
  exact hf (earlier ++ cs)

/-- A hook writes down its call. -/
theorem log (call : α → Call α) (hook : Id α) :
    Writes (Walker.log call hook) hook [call hook] := fun _ => rfl

end Writes

end

namespace Term

section
variable {α : Type u} (w : Walker Id α)

/-- The calls that a walk makes, in order. -/
def calls (t : Term) : List (Call α) := ((t.walk w.logged).run []).run.2

/-- The calls that walking further operands makes, in order. -/
def restCalls (op : String) (ts : List Term) (acc : α) : List (Call α) :=
  ((walkRest w.logged op ts acc).run []).run.2

section
variable {w} {op : String} {first t : Term} {rest ts : List Term} {acc : α} {cs cs' : List (Call α)}

theorem writes_number (text : String) : Writes ((Term.number text).walk w.logged)
    ((Term.number text).walk w) [.number text (w.number text)] := by
  rw [walk, walk]
  exact .log (.number text) (w.number text)

/-- An application writes down the calls of its first operand, that of the seed and those of the
further operands. -/
theorem writes_apply {form : Form} (hfirst : Writes (first.walk w.logged) (first.walk w) cs)
    (hrest : Writes (walkRest w.logged op rest (w.seed op (first.walk w)))
      (walkRest w op rest (w.seed op (first.walk w))) cs') :
    Writes ((Term.apply form op first rest).walk w.logged) ((Term.apply form op first rest).walk w)
      (cs ++ .seed op (first.walk w) (w.seed op (first.walk w)) :: cs') := by
  rw [walk, walk]
  exact hfirst.bind ((Writes.log (.seed op (first.walk w)) _).bind hrest)

/-- A further operand writes down its calls and the one that merges its result, before the operands
after it. -/
theorem writes_cons (ht : Writes (t.walk w.logged) (t.walk w) cs)
    (hts : Writes (walkRest w.logged op ts (w.combine op acc (t.walk w)))
      (walkRest w op ts (w.combine op acc (t.walk w))) cs') :
    Writes (walkRest w.logged op (t :: ts) acc) (walkRest w op (t :: ts) acc)
      (cs ++ .combine op acc (t.walk w) (w.combine op acc (t.walk w)) :: cs') := by
  rw [walkRest, walkRest]
  exact ht.bind ((Writes.log (.combine op acc (t.walk w)) _).bind hts)

end

mutual

/-- A logged walk returns what the walk returns, and writes down its calls. -/
theorem writes_walk : ∀ t : Term, Writes (t.walk w.logged) (t.walk w) (t.calls w)
  | .number text => (writes_number text).self
  | .apply _ op first rest =>
    (writes_apply (writes_walk first) (writes_walkRest op rest (w.seed op (first.walk w)))).self

/-- A logged walk of further operands returns what the walk returns, and writes down its calls. -/
theorem writes_walkRest (op : String) : ∀ (ts : List Term) (acc : α),
    Writes (walkRest w.logged op ts acc) (walkRest w op ts acc) (restCalls w op ts acc)
  | [], acc => by
    have h : Writes (walkRest w.logged op [] acc) (walkRest w op [] acc) [] := by
      rw [walkRest, walkRest]
      exact .pure acc
    exact h.self
  | t :: ts, acc =>
    (writes_cons (writes_walk t) (writes_walkRest op ts (w.combine op acc (t.walk w)))).self

end

/-- A number is one call. -/
theorem calls_number (text : String) :
    (Term.number text).calls w = [.number text (w.number text)] :=
  (writes_number text).run_nil

/-- The calls of an application are those of its first operand, that of the seed and those of the
further operands. -/
theorem calls_apply (form : Form) (op : String) (first : Term) (rest : List Term) :
    (Term.apply form op first rest).calls w = first.calls w ++
      .seed op (first.walk w) (w.seed op (first.walk w)) ::
        restCalls w op rest (w.seed op (first.walk w)) :=
  (writes_apply (writes_walk w first) (writes_walkRest w op rest _)).run_nil

theorem restCalls_nil (op : String) (acc : α) : restCalls w op [] acc = [] := by
  rw [restCalls, walkRest]
  rfl

/-- The calls of further operands are those of the next one, that which merges its result, and those
of the operands after it. -/
theorem restCalls_cons (op : String) (t : Term) (ts : List Term) (acc : α) :
    restCalls w op (t :: ts) acc = t.calls w ++
      .combine op acc (t.walk w) (w.combine op acc (t.walk w)) ::
        restCalls w op ts (w.combine op acc (t.walk w)) :=
  (writes_cons (writes_walk w t) (writes_walkRest w op ts _)).run_nil

mutual

/-- Every call of a walk returned what the walker returns for what the call was given. -/
theorem result_of_mem_calls : ∀ (t : Term), ∀ call ∈ t.calls w, call.result = call.answer w
  | .number text, call, hcall => by
    rw [calls_number, List.mem_singleton] at hcall
    rw [hcall]
    rfl
  | .apply _ op first rest, call, hcall => by
    rw [calls_apply] at hcall
    rcases List.mem_append.1 hcall with hcall | hcall
    · exact result_of_mem_calls first call hcall
    · rcases List.mem_cons.1 hcall with rfl | hcall
      · rfl
      · exact result_of_mem_restCalls op rest _ call hcall

/-- The same for the calls of further operands. -/
theorem result_of_mem_restCalls (op : String) : ∀ (ts : List Term) (acc : α),
    ∀ call ∈ restCalls w op ts acc, call.result = call.answer w
  | [], acc, call, hcall => by
    rw [restCalls_nil] at hcall
    cases hcall
  | t :: ts, acc, call, hcall => by
    rw [restCalls_cons] at hcall
    rcases List.mem_append.1 hcall with hcall | hcall
    · exact result_of_mem_calls t call hcall
    · rcases List.mem_cons.1 hcall with rfl | hcall
      · rfl
      · exact result_of_mem_restCalls op ts _ call hcall

end

end

end Term

end PrefixCalc
