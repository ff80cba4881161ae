import Mathlib.Data.List.Induction
import PrefixCalc.Proofs.Counting
import PrefixCalc.Proofs.Replacement

/-!
# What a walk visits, and when

A walker may keep a state of any kind, so what a call returns may depend on all calls before it.
`Term.visit` is what the walk of a term does from a given state on: the calls it makes, what it
returns and the state it leaves.

An application with one more operand is walked as the application without it, then the operand, and
then one call that merges the two results (`Term.walk_concat`). So a statement about all walks is
proved by taking operands off the end (`Term.inductionOnLast`). That makes the number of merging
calls one less than that of the literals, whatever the shape of the term: a literal makes none, and
each further operand brings one more than its own (`Term.count_kinds`).

`Term.Merges` says in which order the calls of an application are made and what is handed from one
to the next, and `Term.ComesTo` where among the calls of a whole term those of a part of it stand.
-/

namespace PrefixCalc

universe u v

namespace Term

/-! ## Taking operands off the end -/

/-- A property that holds of applications of one operand if it holds of the operand, and that passes
on to an application with one more operand, holds of every term. -/
@[elab_as_elim]
theorem inductionOnLast {motive : Term → Prop} (t : Term)
    (number : ∀ text, motive (.number text))
    (single : ∀ form op first, motive first → motive (.apply form op first []))
    (concat : ∀ form op first earlier last, motive (.apply form op first earlier) → motive last →
      motive (.apply form op first (earlier ++ [last]))) : motive t := by
  induction t using inductionOnOperands with
  | number text => exact number text
  | apply form op first rest ihfirst ihrest =>
    induction rest using List.reverseRecOn with
    | nil => exact single form op first ihfirst
    | append_singleton earlier last ih =>
      refine concat form op first earlier last (ih ?_) (ihrest last (by simp))
      intro t ht
      exact ihrest t (by simp [ht])

section
variable {m : Type u → Type v} {α : Type u} [Monad m] [LawfulMonad m] (w : Walker m α)
  (form : Form) (op : String) (first : Term)

theorem walkRest_concat (earlier : List Term) (last : Term) (acc : α) :
    walkRest w op (earlier ++ [last]) acc =
      walkRest w op earlier acc >>= fun acc => last.walk w >>= w.combine op acc := by
  induction earlier generalizing acc with
  | nil => simp [walkRest]
  | cons t ts ih => simp [walkRest, ih]

/-- An application of one operand is walked as the operand and then the seed. -/
theorem walk_single : (Term.apply form op first []).walk w = first.walk w >>= w.seed op := by
  simp [walk, walkRest]

/-- An application with one more operand is walked as the one without it, then the operand, and then
the two results are merged. -/
theorem walk_concat (earlier : List Term) (last : Term) :
    (Term.apply form op first (earlier ++ [last])).walk w =
      (Term.apply form op first earlier).walk w >>= fun acc =>
        last.walk w >>= w.combine op acc := by
  simp [walk, walkRest_concat]

end

end Term

/-! ## Visits -/

/-- What is done from some state on: the calls that are made, in order, what is returned at the end,
and the state that is left. -/
structure Visit (σ α : Type u) where
  calls : List (Call α)
  result : α
  after : σ

section
variable {σ α : Type u}

namespace Visit

/-- One visit, then another that starts in the state the first one leaves. -/
def andThen (v v' : Visit σ α) : Visit σ α := ⟨v.calls ++ v'.calls, v'.result, v'.after⟩

/-- The one call of a hook. -/
def ofHook (call : α → Call α) (hook : StateM σ α) (s : σ) : Visit σ α :=
  ⟨[call (hook.run s).run.1], (hook.run s).run.1, (hook.run s).run.2⟩

end Visit

/-- What the walk of a term does from the state `s` on. -/
def Term.visit (w : Walker (StateM σ) α) (t : Term) (s : σ) : Visit σ α :=
  let ((result, calls), after) := (((t.walk w.logged).run []).run s).run
  ⟨calls, result, after⟩

/-- A computation in two parts runs through the state that the first part leaves. -/
theorem run_bind_of_run {x : StateM σ α} {f : α → StateM σ α} {s s' : σ} {a : α} {r : α × σ}
    (h : (x.run s).run = (a, s')) (hf : ((f a).run s').run = r) : ((x >>= f).run s).run = r := by
  have hrun : ((x >>= f).run s).run = ((f (x.run s).run.1).run (x.run s).run.2).run := rfl
  rw [hrun, h]
  exact hf

/-- From the state `s`, the computation does what the visit says and writes its calls down behind
the earlier ones. -/
def Visits (x : StateT (List (Call α)) (StateM σ) α) (s : σ) (v : Visit σ α) : Prop :=
  ∀ earlier, ((x.run earlier).run s).run = ((v.result, earlier ++ v.calls), v.after)

namespace Visits

variable {x : StateT (List (Call α)) (StateM σ) α} {f : α → StateT (List (Call α)) (StateM σ) α}
  {s : σ} {v v' : Visit σ α}

/-- A hook makes its own call. -/
theorem log (call : α → Call α) (hook : StateM σ α) (s : σ) :
    Visits (Walker.log call hook) s (.ofHook call hook s) := fun _ => rfl

/-- Computations visit one after the other. -/
theorem bind (h : Visits x s v) (hf : Visits (f v.result) v.after v') :
    Visits (x >>= f) s (v.andThen v') := by
  intro earlier
  have hrun : (((x >>= f).run earlier).run s).run =
      let r := ((x.run earlier).run s).run
      (((f r.1.1).run r.1.2).run r.2).run := rfl
  rw [hrun, h, Visit.andThen, ← List.append_assoc]
  exact hf (earlier ++ v.calls)

theorem visit_eq {w : Walker (StateM σ) α} {t : Term} (h : Visits (t.walk w.logged) s v) :
    t.visit w s = v := by
  rw [Term.visit, h]
  rfl

end Visits

namespace Term

variable (w : Walker (StateM σ) α)

/-- A logged walk does what the visit of the term says. -/
theorem visits_walk (t : Term) (s : σ) : Visits (t.walk w.logged) s (t.visit w s) := by
  have hexists : ∃ v, Visits (t.walk w.logged) s v := by
    induction t using inductionOnLast generalizing s with
    | number text =>
      rw [walk]
      exact ⟨_, .log (.number text) (w.number text) s⟩
    | single form op first ih =>
      obtain ⟨v, hv⟩ := ih s
      rw [walk_single]
      exact ⟨_, hv.bind (.log (.seed op v.result) (w.seed op v.result) v.after)⟩
    | concat form op first earlier last ih ihlast =>
      obtain ⟨v, hv⟩ := ih s
      obtain ⟨u, hu⟩ := ihlast v.after
      rw [walk_concat]
      exact ⟨_, hv.bind (hu.bind
        (.log (.combine op v.result u.result) (w.combine op v.result u.result) u.after))⟩
  obtain ⟨v, hv⟩ := hexists
  rw [hv.visit_eq]
  exact hv

/-- A number is one call. -/
theorem visit_number (text : String) (s : σ) :
    (Term.number text).visit w s = .ofHook (.number text) (w.number text) s := by
  apply Visits.visit_eq
  rw [walk]
  exact .log (.number text) (w.number text) s

section
variable (form : Form) (op : String) (first : Term) (s : σ)

/-- An application of one operand makes the calls of the operand and that of the seed. -/
theorem visit_single : (Term.apply form op first []).visit w s =
    let v := first.visit w s
    v.andThen (.ofHook (.seed op v.result) (w.seed op v.result) v.after) := by
  apply Visits.visit_eq
  rw [walk_single]
  exact (visits_walk w first s).bind (.log (.seed op _) (w.seed op _) _)

/-- An application with one more operand makes the calls of the one without it, those of the
operand, and one that merges the two results. -/
theorem visit_concat (earlier : List Term) (last : Term) :
    (Term.apply form op first (earlier ++ [last])).visit w s =
      let v := (Term.apply form op first earlier).visit w s
      let u := last.visit w v.after
      v.andThen (u.andThen
        (.ofHook (.combine op v.result u.result) (w.combine op v.result u.result) u.after)) := by
  apply Visits.visit_eq
  rw [walk_concat]
  exact (visits_walk w _ s).bind
    ((visits_walk w last _).bind (.log (.combine op _ _) (w.combine op _ _) _))

end

/-- Writing the calls down has no effect on the walk. -/
theorem run_walk (t : Term) (s : σ) :
    ((t.walk w).run s).run = ((t.visit w s).result, (t.visit w s).after) := by
  induction t using inductionOnLast generalizing s with
  | number text =>
    rw [visit_number, walk]
    rfl
  | single form op first ih =>
    rw [visit_single, walk_single]
    exact run_bind_of_run (ih s) rfl
  | concat form op first earlier last ih ihlast =>
    rw [visit_concat, walk_concat]
    exact run_bind_of_run (ih s) (run_bind_of_run (ihlast _) rfl)

end Term

/-! ## How many calls -/

/-- Which hook a call is of. -/
inductive Call.Kind where
  | number
  | seed
  | combine
deriving DecidableEq, Repr

/-- The hook that was called. -/
def Call.kind : Call α → Kind
  | number .. => .number
  | seed .. => .seed
  | combine .. => .combine

/-- The text that was handed to the hook for numbers. -/
def Call.literal? : Call α → Option String
  | number text _ => some text
  | _ => none

namespace Term

/-- The text of a number. -/
def literal? : Term → Option String
  | .number text => some text
  | .apply .. => none

theorem subtermsOf_concat (earlier : List Term) (last : Term) :
    subtermsOf (earlier ++ [last]) = subtermsOf earlier ++ last.subterms := by
  induction earlier with
  | nil => simp [subtermsOf]
  | cons t ts ih => simp [subtermsOf, ih]

variable (w : Walker (StateM σ) α)

/-- A walk makes one call for each literal, one for each operator, and one less than literals to
merge results. -/
theorem count_kinds (t : Term) (s : σ) :
    ((t.visit w s).calls.map Call.kind).count .number = t.leaves ∧
    ((t.visit w s).calls.map Call.kind).count .seed = t.branches ∧
    ((t.visit w s).calls.map Call.kind).count .combine + 1 = t.leaves := by
  induction t using inductionOnLast generalizing s with
  | number text =>
    rw [visit_number, leaves_number, branches_number]
    simp [Visit.ofHook, Call.kind]
  | single form op first ih =>
    rw [visit_single, leaves_apply, branches_apply]
    simpa [Visit.andThen, Visit.ofHook, Call.kind] using ih s
  | concat form op first earlier last ih ihlast =>
    -- The last operand has one literal more than it merges, and one more call merges the operand.
    have hearlier := ih s
    have hlast := ihlast ((Term.apply form op first earlier).visit w s).after
    rw [leaves_apply, branches_apply] at hearlier
    rw [visit_concat, leaves_apply, branches_apply]
    simp [Visit.andThen, Visit.ofHook, Call.kind] at hearlier ⊢
    omega

/-- The literals are handed to the walker in the order in which they stand. -/
theorem filterMap_literal? (t : Term) (s : σ) :
    (t.visit w s).calls.filterMap Call.literal? = t.subterms.filterMap literal? := by
  induction t using inductionOnLast generalizing s with
  | number text =>
    rw [visit_number, subterms]
    simp [Visit.ofHook, Call.literal?, literal?]
  | single form op first ih =>
    rw [visit_single, subterms, subtermsOf]
    simp [Visit.andThen, Visit.ofHook, List.filterMap_cons, Call.literal?, literal?, ih]
  | concat form op first earlier last ih ihlast =>
    rw [visit_concat, subterms, subtermsOf_concat]
    simp only [Visit.andThen, Visit.ofHook, List.filterMap_append, ih, ihlast]
    simp [subterms, List.filterMap_cons, Call.literal?, literal?]

/-! ## In which order -/

/-- From the state `s`, the calls `cs` walk the first operand of an application and the further ones
and merge their results under `op` into `acc`, and leave the state `s'`. The call of the seed comes
right after the calls of the first operand, and is handed its result; each merging call comes right
after the calls of its operand, and is handed what the call of the seed or the merging call before
it returned, and the result of the operand. -/
inductive Merges (w : Walker (StateM σ) α) (op : String) (first : Term) (s : σ) :
    (further : List Term) → (cs : List (Call α)) → (acc : α) → (s' : σ) → Prop
  | seed {acc : α} {s' : σ} :
      ((w.seed op (first.visit w s).result).run (first.visit w s).after).run = (acc, s') →
      Merges w op first s [] ((first.visit w s).calls ++
        [.seed op (first.visit w s).result acc]) acc s'
  | combine {earlier : List Term} {operand : Term} {cs : List (Call α)} {acc acc' : α}
      {mid s' : σ} : Merges w op first s earlier cs acc mid →
      ((w.combine op acc (operand.visit w mid).result).run (operand.visit w mid).after).run =
        (acc', s') →
      Merges w op first s (earlier ++ [operand]) (cs ++ ((operand.visit w mid).calls ++
        [.combine op acc (operand.visit w mid).result acc'])) acc' s'

/-- The walk of `t` from the state `s` comes to the term `u` at a position in the state `s'`, after
the calls `lead`: those that walk and merge the operands before, at each level on the way. -/
inductive ComesTo (w : Walker (StateM σ) α) :
    (t : Term) → (s : σ) → (p : List Nat) → (lead : List (Call α)) → (u : Term) → (s' : σ) → Prop
  | here {t : Term} {s : σ} : ComesTo w t s [] [] t s
  | first {form : Form} {op : String} {first u : Term} {rest : List Term} {s s' : σ} {p : List Nat}
      {lead : List (Call α)} : ComesTo w first s p lead u s' →
      ComesTo w (.apply form op first rest) s (0 :: p) lead u s'
  | further {form : Form} {op : String} {first operand u : Term} {earlier others : List Term}
      {s mid s' : σ} {acc : α} {p : List Nat} {cs lead : List (Call α)} :
      Merges w op first s earlier cs acc mid → ComesTo w operand mid p lead u s' →
      ComesTo w (.apply form op first (earlier ++ operand :: others)) s
        ((earlier.length + 1) :: p) (cs ++ lead) u s'

/-- The calls of an application merge its operands. -/
theorem merges_visit (form : Form) (op : String) (first : Term) (rest : List Term) (s : σ) :
    let v := (Term.apply form op first rest).visit w s
    Merges w op first s rest v.calls v.result v.after := by
  induction rest using List.reverseRecOn with
  | nil =>
    rw [visit_single]
    exact .seed rfl
  | append_singleton earlier last ih =>
    rw [visit_concat]
    exact .combine ih rfl

/-- The calls of an application start with those of its first operand. -/
theorem exists_calls_first (form : Form) (op : String) (first : Term) (rest : List Term) (s : σ) :
    ∃ more, ((Term.apply form op first rest).visit w s).calls =
      (first.visit w s).calls ++ more := by
  induction rest using List.reverseRecOn with
  | nil =>
    rw [visit_single]
    exact ⟨_, rfl⟩
  | append_singleton earlier last ih =>
    obtain ⟨more, hmore⟩ := ih
    rw [visit_concat, Visit.andThen, hmore, List.append_assoc]
    exact ⟨_, rfl⟩

/-- The calls of an application start with those that merge its operands up to any of them, and go
on with those of that operand. -/
theorem exists_calls_further (form : Form) (op : String) (first operand : Term)
    (earlier others : List Term) (s : σ) :
    let v := (Term.apply form op first earlier).visit w s
    ∃ more, ((Term.apply form op first (earlier ++ operand :: others)).visit w s).calls =
      v.calls ++ (operand.visit w v.after).calls ++ more := by
  intro v
  induction others using List.reverseRecOn with
  | nil =>
    rw [visit_concat, Visit.andThen, Visit.andThen, ← List.append_assoc]
    exact ⟨_, rfl⟩
  | append_singleton others last ih =>
    obtain ⟨more, hmore⟩ := ih
    rw [← List.cons_append, ← List.append_assoc, visit_concat, Visit.andThen, hmore,
      List.append_assoc _ more]
    exact ⟨_, rfl⟩

/-- The calls of the term at a position stand together among those of the whole term, at the place
where the walk comes to it. -/
theorem exists_comesTo {t u : Term} {p : List Nat} (hu : t.at? p = some u) (s : σ) :
    ∃ lead trail s', ComesTo w t s p lead u s' ∧
      (t.visit w s).calls = lead ++ (u.visit w s').calls ++ trail := by
  induction p generalizing t s with
  | nil =>
    cases hu
    exact ⟨[], [], s, .here, by simp⟩
  | cons i p ih =>
    obtain ⟨operand, hoperand, hbelow⟩ := at?_cons_eq_some_iff.1 hu
    cases t with
    | number text => simp [operands] at hoperand
    | apply form op first rest =>
      cases i with
      | zero =>
        obtain rfl : first = operand := by simpa [operands] using hoperand
        obtain ⟨lead, trail, s', hcomes, hcalls⟩ := ih hbelow s
        obtain ⟨more, hmore⟩ := exists_calls_first w form op first rest s
        refine ⟨lead, trail ++ more, s', .first hcomes, ?_⟩
        rw [hmore, hcalls, List.append_assoc]
      | succ i =>
        obtain ⟨earlier, others, rfl, rfl⟩ : ∃ earlier others,
            rest = earlier ++ operand :: others ∧ earlier.length = i := by
          obtain ⟨hi, rfl⟩ := List.getElem?_eq_some_iff.1 hoperand
          simp only [operands, List.length_cons] at hi
          refine ⟨rest.take i, rest.drop (i + 1), ?_, by rw [List.length_take]; omega⟩
          simp [operands]
        obtain ⟨lead, trail, s', hcomes, hcalls⟩ :=
          ih hbelow ((Term.apply form op first earlier).visit w s).after
        obtain ⟨more, hmore⟩ := exists_calls_further w form op first operand earlier others s
        refine ⟨_, trail ++ more, s', .further (merges_visit w form op first earlier s) hcomes, ?_⟩
        rw [hmore, hcalls]
        simp

/-- A walk makes one call for each literal, one for each operator, and one less than literals to
merge results, whatever the walker does with its state. It hands the literals to the walker in the
order in which they stand in the term. The calls of each part of the term stand together at the
place where the walk comes to the part; and those of an application walk and merge its operands in
order. -/
theorem walk_visits_once (w : Walker (StateM σ) α) (t : Term) (s : σ) :
    ((t.walk w).run s).run = ((t.visit w s).result, (t.visit w s).after) ∧
    ((t.visit w s).calls.map Call.kind).count .number = t.leaves ∧
    ((t.visit w s).calls.map Call.kind).count .seed = t.branches ∧
    ((t.visit w s).calls.map Call.kind).count .combine + 1 = t.leaves ∧
    (t.visit w s).calls.filterMap Call.literal? = t.subterms.filterMap literal? ∧
    ∀ p u, t.at? p = some u → ∃ lead trail s', ComesTo w t s p lead u s' ∧
      (t.visit w s).calls = lead ++ (u.visit w s').calls ++ trail ∧
      ∀ form op first rest, u = .apply form op first rest →
        Merges w op first s' rest (u.visit w s').calls (u.visit w s').result
          (u.visit w s').after := by
  obtain ⟨hnumber, hseed, hcombine⟩ := count_kinds w t s
  refine ⟨run_walk w t s, hnumber, hseed, hcombine, filterMap_literal? w t s, ?_⟩
  intro p u hu
  obtain ⟨lead, trail, s', hcomes, hcalls⟩ := exists_comesTo w hu s
  refine ⟨lead, trail, s', hcomes, hcalls, ?_⟩
  rintro form op first rest rfl
  exact merges_visit w form op first rest s'

end Term

end

/-- Hands out the numbers of its calls. -/
def Walker.tickets : Walker (StateM Nat) Nat where
  number _ := modifyGet fun n => (n, n + 1)
  seed _ _ := modifyGet fun n => (n, n + 1)
  combine _ _ _ := modifyGet fun n => (n, n + 1)

/-- A group of two operands and one of a single operand, which is merged by no call of its own. -/
theorem Term.walk_visits_once_tickets :
    let product : Term := .apply .grouped "*" (.number "2") [.number "3"]
    let t : Term := .apply .bare "+" (.number "1")
      [product, .apply .grouped "-" (.number "4") []]
    let calls := (t.visit Walker.tickets 0).calls
    ((t.walk Walker.tickets).run 0).run = (9, 10) ∧
    (calls.map Call.kind).count .number = 4 ∧ (calls.map Call.kind).count .seed = 3 ∧
    (calls.map Call.kind).count .combine = 3 ∧
    calls.filterMap Call.literal? = ["1", "2", "3", "4"] ∧
    ∃ lead trail s, ComesTo Walker.tickets t 0 [1] lead product s ∧
      calls = lead ++ (product.visit Walker.tickets s).calls ++ trail ∧
      Merges Walker.tickets "*" (.number "2") s [.number "3"]
        (product.visit Walker.tickets s).calls (product.visit Walker.tickets s).result
        (product.visit Walker.tickets s).after := by
  intro product t calls
  obtain ⟨-, hnumber, hseed, hcombine, hliterals, hparts⟩ := walk_visits_once Walker.tickets t 0
  have hleaves : t.leaves = 4 := by decide +kernel
  have hbranches : t.branches = 3 := by decide +kernel
  obtain ⟨lead, trail, s, hcomes, hcalls, hmerges⟩ := hparts [1] product rfl
  refine ⟨by decide +kernel, hnumber.trans hleaves, hseed.trans hbranches, ?_, hliterals,
    lead, trail, s, hcomes, hcalls, hmerges _ _ _ _ rfl⟩
  exact Nat.succ.inj (hcombine.trans hleaves)

end PrefixCalc
