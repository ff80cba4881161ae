/-!
# Finite sets as ascending lists

A set that is shown to the user is shown in order and without repetition. `Ascending.ofList` is the
strictly ascending list of the members of a list; it depends on neither their order nor their
multiplicity.
-/

namespace PrefixCalc.Ascending

variable {α : Type}

/-- Puts an element in its place in an ascending list, unless it is there already. -/
def insert (before : α → α → Bool) (a : α) : List α → List α
  | [] => [a]
  | b :: bs =>
    if before a b then a :: b :: bs
    else if before b a then b :: insert before a bs
    else b :: bs

/-- The members of a list in strictly ascending order. -/
def ofList (before : α → α → Bool) (as : List α) : List α :=
  as.foldr (insert before) []

/-- Putting an element in its place adds it and loses nothing, if only an equal one is neither
before nor after it. -/
theorem mem_insert {before : α → α → Bool}
    (htotal : ∀ a b, before a b = false → before b a = false → a = b) {x a : α} {bs : List α} :
    x ∈ insert before a bs ↔ x = a ∨ x ∈ bs := by
  induction bs with
  | nil => simp [insert]
  | cons b bs ih =>
    rw [insert]
    split
    · simp
    · split
      · simp [ih, or_left_comm]
      · next hab hba => simp [htotal a b (by simpa using hab) (by simpa using hba)]

/-- The ascending list has the members of the list. -/
theorem mem_ofList {before : α → α → Bool}
    (htotal : ∀ a b, before a b = false → before b a = false → a = b) {x : α} {as : List α} :
    x ∈ ofList before as ↔ x ∈ as := by
  induction as with
  | nil => rfl
  | cons a as ih => rw [ofList, List.foldr_cons, mem_insert htotal, List.mem_cons, ← ih, ofList]

/-- Putting an element in its place leaves an ascending list ascending. -/
theorem pairwise_insert {before : α → α → Bool}
    (htotal : ∀ a b, before a b = false → before b a = false → a = b)
    (htrans : ∀ a b c, before a b → before b c → before a c) (a : α) {bs : List α}
    (h : bs.Pairwise (before · ·)) : (insert before a bs).Pairwise (before · ·) := by
  induction bs with
  | nil => simp [insert]
  | cons b bs ih =>
    obtain ⟨hb, hbs⟩ := List.pairwise_cons.1 h
    rw [insert]
    split
    · next hab =>
      refine List.pairwise_cons.2 ⟨fun x hx => ?_, h⟩
      rcases List.mem_cons.1 hx with rfl | hx
      · exact hab
      · exact htrans a b x hab (hb x hx)
    · split
      · next hba =>
        refine List.pairwise_cons.2 ⟨fun x hx => ?_, ih hbs⟩
        rcases (mem_insert htotal).1 hx with rfl | hx
        · exact hba
        · exact hb x hx
      · exact h

/-- The ascending list is ascending. -/
theorem pairwise_ofList {before : α → α → Bool}
    (htotal : ∀ a b, before a b = false → before b a = false → a = b)
    (htrans : ∀ a b c, before a b → before b c → before a c) (as : List α) :
    (ofList before as).Pairwise (before · ·) := by
  induction as with
  | nil => exact .nil
  | cons a as ih => exact pairwise_insert htotal htrans a ih

/-- The members of a list of texts, ascending by code points. -/
def ofTexts (texts : List String) : List String :=
  ofList (fun a b => a < b) texts

/-- Of two different texts one comes before the other. -/
theorem eq_of_not_lt (a b : String) (hab : decide (a < b) = false) (hba : decide (b < a) = false) :
    a = b :=
  String.le_antisymm (of_decide_eq_false hba) (of_decide_eq_false hab)

/-- The ascending list of texts has the texts of the list. -/
theorem mem_ofTexts {text : String} {texts : List String} :
    text ∈ ofTexts texts ↔ text ∈ texts :=
  mem_ofList eq_of_not_lt

/-- The ascending list of texts is strictly ascending by code points. -/
theorem pairwise_ofTexts (texts : List String) : (ofTexts texts).Pairwise (· < ·) := by
  have hascending := pairwise_ofList eq_of_not_lt
    (fun a b c hab hbc => decide_eq_true (String.lt_trans (of_decide_eq_true hab)
      (of_decide_eq_true hbc))) texts
  exact hascending.imp of_decide_eq_true

end PrefixCalc.Ascending
