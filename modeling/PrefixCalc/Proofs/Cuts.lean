import Mathlib.Data.List.DropRight
import PrefixCalc.Program

/-!
# Where log filters are cut

The parts of a directive are cut out of its text at byte offsets that were counted without the
blanks in front of it. A cut that falls between two characters (`IsBoundary`) gives a part; one that
falls inside a character ends the run. Reading goes from character to character and begins a part
only where a character begins, so if the offsets of all characters are boundaries of the text, then
no cut fails (`Log.Directive.Reading.Anchored`, kept by a step, by a run of steps and at the end).

They are boundaries if nothing is in front that they leave out, and also if every character has one
byte. So a directive that cannot be cut has a blank in front and a character outside ASCII
(`Log.Directive.blank_and_wide_of_insideCharacter`). A filter breaks the run exactly if the first of
its directives that cannot be read is such a one (`Environment.logFilter?_eq_none_iff`).
-/

namespace PrefixCalc

/-! ## Boundaries -/

/-- Byte `n` of a text is the first one of a character, or the end of the text. -/
def IsBoundary (text : List Char) (n : Nat) : Prop :=
  ∃ before after, text = before ++ after ∧ (String.ofList before).utf8ByteSize = n

theorem utf8ByteSize_ofList_append (cs ds : List Char) :
    (String.ofList (cs ++ ds)).utf8ByteSize =
      (String.ofList cs).utf8ByteSize + (String.ofList ds).utf8ByteSize := by
  rw [String.ofList_append, String.utf8ByteSize_append]

section
variable {text : List Char} {start stop : Nat}

theorem IsBoundary.exists_bytesFrom? (h : IsBoundary text start) :
    ∃ part, bytesFrom? start text = some part := by
  obtain ⟨before, after, rfl, rfl⟩ := h
  exact ⟨after, by rw [bytesFrom?, splitAtByte?_append, Option.map_some]⟩

/-- There is a part between two boundaries. -/
theorem IsBoundary.exists_bytesBetween? (hstart : IsBoundary text start)
    (hstop : IsBoundary text stop) (hle : start ≤ stop) :
    ∃ part, bytesBetween? start stop text = some part := by
  obtain ⟨before, after, rfl, rfl⟩ := hstart
  obtain ⟨upTo, rest, heq, rfl⟩ := hstop
  -- Both fronts of the text start it, so the one with more bytes goes on from the other.
  obtain ⟨part, rfl⟩ : before <+: upTo := by
    rcases List.prefix_or_prefix_of_prefix (List.prefix_append before after)
      (heq ▸ List.prefix_append upTo rest) with hfront | ⟨extra, rfl⟩
    · exact hfront
    · rw [utf8ByteSize_ofList_append] at hle
      cases extra with
      | nil => simp
      | cons c extra =>
        have hpos := c.utf8Size_pos
        rw [utf8ByteSize_ofList_cons] at hle
        omega
  rw [List.append_assoc, List.append_cancel_left_eq] at heq
  refine ⟨part, ?_⟩
  rw [bytesBetween?, splitAtByte?_append, utf8ByteSize_ofList_append, Nat.add_sub_cancel_left, heq]
  simp [splitAtByte?_append]

/-- A text of ASCII characters has as many bytes as characters. -/
theorem utf8ByteSize_of_ascii {cs : List Char} (h : ∀ c ∈ cs, c.toNat < 0x80) :
    (String.ofList cs).utf8ByteSize = cs.length := by
  induction cs with
  | nil => rfl
  | cons c cs ih =>
    have hsize : c.utf8Size = 1 := Char.utf8Size_eq_one_iff.2 (Nat.le_of_lt_succ (h c (.head _)))
    rw [utf8ByteSize_ofList_cons, hsize, ih fun d hd => h d (.tail _ hd), List.length_cons,
      Nat.add_comm]

/-- In a text of ASCII characters every offset is a boundary. -/
theorem isBoundary_of_ascii (h : ∀ c ∈ text, c.toNat < 0x80) {n : Nat} (hn : n ≤ text.length) :
    IsBoundary text n := by
  refine ⟨text.take n, text.drop n, (List.take_append_drop n text).symm, ?_⟩
  rw [utf8ByteSize_of_ascii fun c hc => h c (List.mem_of_mem_take hc), List.length_take,
    Nat.min_eq_left hn]

end

namespace Log

/-! ## Directives -/

namespace Directive

/-- Nothing was cut inside a character: the result has the property, or the text is malformed. -/
def CutsWell {α : Type} (P : α → Prop) : Except Fault α → Prop
  | .ok a => P a
  | .error fault => fault = .malformed

section
variable {α β : Type} {P : α → Prop} {Q : β → Prop}

theorem CutsWell.bind {x : Except Fault α} {f : α → Except Fault β} (hx : CutsWell P x)
    (hf : ∀ a, P a → CutsWell Q (f a)) : CutsWell Q (x >>= f) := by
  cases x with
  | ok a => exact hf a hx
  | error fault => exact hx

theorem cutsWell_malformed (a? : Option α) : CutsWell (fun _ => True) (orFault .malformed a?) := by
  cases a? with
  | some a => trivial
  | none => rfl

end

/-- The byte offset at which the part begins that reading is in, if it is in one. -/
def Place.start? : Place → Option Nat
  | word start | span start | field start | level start => some start
  | beginning | fieldEnd | spanEnd => none

section
variable {text : List Char} {start stop i : Nat} {c : Char}

theorem cutsWell_cut (hstart : IsBoundary text start) (hstop : IsBoundary text stop)
    (hle : start ≤ stop) : CutsWell (fun _ => True) (cut text start stop) := by
  obtain ⟨part, hpart⟩ := hstart.exists_bytesBetween? hstop hle
  rw [cut, hpart]
  trivial

theorem cutsWell_cutFrom (hstart : IsBoundary text start) :
    CutsWell (fun _ => True) (cutFrom text start) := by
  obtain ⟨part, hpart⟩ := hstart.exists_bytesFrom?
  rw [cutFrom, hpart]
  trivial

namespace Reading

/-- The part that reading is in, if it is in one, began at a boundary, and not after byte `i`. -/
def Anchored (text : List Char) (i : Nat) (r : Reading) : Prop :=
  ∀ start, r.place.start? = some start → IsBoundary text start ∧ start ≤ i

variable {r : Reading}

theorem anchored_of_start? (h : r.place.start? = none) : r.Anchored text i := by
  intro start hstart
  rw [h] at hstart
  cases hstart

theorem anchored_of_boundary (h : r.place.start? = some start) (hstart : IsBoundary text start)
    (hle : start ≤ i) : r.Anchored text i := by
  intro s hs
  rw [h] at hs
  cases hs
  exact ⟨hstart, hle⟩

theorem Anchored.mono (h : r.Anchored text i) (hle : i ≤ stop) : r.Anchored text stop :=
  fun start hstart => ⟨(h start hstart).1, (h start hstart).2.trans hle⟩

/-- A step past a character between two boundaries cuts between characters, and if it begins a part
then at one of the two. -/
theorem cutsWell_step (hr : r.Anchored text i) (hi : IsBoundary text i)
    (hnext : IsBoundary text (i + c.utf8Size)) :
    CutsWell (Anchored text (i + c.utf8Size)) (r.step text i c) := by
  have hle := Nat.le_add_right i c.utf8Size
  have hon : CutsWell (Anchored text (i + c.utf8Size)) (.ok r) := hr.mono hle
  obtain ⟨place, directive⟩ := r
  cases place with
  | beginning =>
    rw [step]
    dsimp only
    split
    · exact anchored_of_boundary rfl hnext (Nat.le_refl _)
    · split
      · exact anchored_of_boundary rfl hi hle
      · rfl
  | word start =>
    obtain ⟨hstart, hbefore⟩ := hr start rfl
    rw [step]
    dsimp only
    split
    · have hplace : (if c = '=' then Place.level (i + c.utf8Size)
          else .span (i + c.utf8Size)).start? = some (i + c.utf8Size) := by
        split <;> rfl
      refine (cutsWell_cut hstart hi hbefore).bind fun word _ => ?_
      exact anchored_of_boundary hplace hnext (Nat.le_refl _)
    · exact hon
  | span start =>
    obtain ⟨hstart, hbefore⟩ := hr start rfl
    rw [step]
    dsimp only
    split
    · exact (cutsWell_cut hstart hi hbefore).bind fun word _ => anchored_of_start? rfl
    · split
      · refine (cutsWell_cut hstart hi hbefore).bind fun word _ => ?_
        exact anchored_of_boundary rfl hnext (Nat.le_refl _)
      · exact hon
  | field start =>
    obtain ⟨hstart, hbefore⟩ := hr start rfl
    rw [step]
    dsimp only
    split
    · refine (cutsWell_cut hstart hi hbefore).bind fun condition _ => ?_
      exact (cutsWell_malformed _).bind fun field _ => anchored_of_start? rfl
    · exact hon
  | fieldEnd =>
    rw [step]
    dsimp only
    split
    · exact anchored_of_start? rfl
    · rfl
  | spanEnd =>
    rw [step]
    dsimp only
    split
    · exact anchored_of_boundary rfl hnext (Nat.le_refl _)
    · rfl
  | level start => exact hon

/-- Steps past characters that all lie between boundaries cut between characters. -/
theorem cutsWell_steps {cs : List Char} (hr : r.Anchored text i)
    (hcs : ∀ read rest, cs = read ++ rest →
      IsBoundary text (i + (String.ofList read).utf8ByteSize)) :
    CutsWell (fun r => ∃ n, Anchored text n r) (r.steps text i cs) := by
  induction cs generalizing r i with
  | nil => exact ⟨i, hr⟩
  | cons c cs ih =>
    have hi : IsBoundary text i := hcs [] (c :: cs) rfl
    have hafter (read rest : List Char) (h : cs = read ++ rest) :
        IsBoundary text (i + c.utf8Size + (String.ofList read).utf8ByteSize) := by
      have hboundary := hcs (c :: read) rest (by rw [h, List.cons_append])
      rwa [utf8ByteSize_ofList_cons, ← Nat.add_assoc] at hboundary
    have hnext : IsBoundary text (i + c.utf8Size) := hafter [] cs rfl
    exact (cutsWell_step hr hi hnext).bind fun r hr => ih hr hafter

/-- At the end, the part that reading is in is cut off where it began. -/
theorem cutsWell_finish (hr : r.Anchored text i) :
    CutsWell (fun _ => True) (r.finish text) := by
  obtain ⟨place, directive⟩ := r
  cases place with
  | word start =>
    refine (cutsWell_cutFrom (hr start rfl).1).bind fun word _ => ?_
    dsimp only
    split <;> trivial
  | level start =>
    refine (cutsWell_cutFrom (hr start rfl).1).bind fun word _ => ?_
    dsimp only
    split
    · trivial
    · exact (cutsWell_malformed _).bind fun ceiling _ => trivial
  | spanEnd => trivial
  | beginning | span | field | fieldEnd => rfl

end Reading

/-- If the characters of a directive lie between boundaries of its text, blanks included, it can be
cut. -/
theorem cutsWell_ofText (h : ∀ read rest, trim text = read ++ rest →
    IsBoundary text (String.ofList read).utf8ByteSize) :
    CutsWell (fun _ => True) (ofText text) := by
  have hcs (read rest : List Char) (hread : trim text = read ++ rest) :
      IsBoundary text (0 + (String.ofList read).utf8ByteSize) := by
    rw [Nat.zero_add]
    exact h read rest hread
  have hstart : Reading.start.Anchored text 0 := Reading.anchored_of_start? rfl
  exact (Reading.cutsWell_steps hstart hcs).bind fun r ⟨_, hr⟩ => Reading.cutsWell_finish hr

/-- A text is the blanks in front of it, then the text without the blanks around it, and more. -/
theorem exists_append_trim (text : List Char) :
    ∃ back, text = text.takeWhile isBlank ++ (trim text ++ back) := by
  obtain ⟨back, hback⟩ := List.rdropWhile_prefix isBlank (text.dropWhile isBlank)
  refine ⟨back, ?_⟩
  have htrim : trim text ++ back = text.dropWhile isBlank := hback
  rw [htrim, List.takeWhile_append_dropWhile]

/-- A directive with no blank in front can be cut: its offsets leave nothing out. -/
theorem cutsWell_of_front (h : ∀ c cs, text = c :: cs → isBlank c = false) :
    CutsWell (fun _ => True) (ofText text) := by
  have hfront : text.takeWhile isBlank = [] := by
    cases text with
    | nil => rfl
    | cons c cs => exact List.takeWhile_cons_of_neg (by simp [h c cs rfl])
  obtain ⟨back, hback⟩ := exists_append_trim text
  refine cutsWell_ofText fun read rest hread => ⟨read, rest ++ back, ?_, rfl⟩
  rw [hfront, hread, List.nil_append, List.append_assoc] at hback
  exact hback

/-- A directive of ASCII characters can be cut: its offsets are boundaries whatever they leave out.
-/
theorem cutsWell_of_ascii (h : ∀ c ∈ text, c.toNat < 0x80) :
    CutsWell (fun _ => True) (ofText text) := by
  obtain ⟨back, hback⟩ := exists_append_trim text
  refine cutsWell_ofText fun read rest hread => ?_
  have hsub : read.Sublist text := by
    rw [hback, hread]
    simp [List.append_assoc]
  rw [utf8ByteSize_of_ascii fun c hc => h c (hsub.subset hc)]
  exact isBoundary_of_ascii h hsub.length_le

/-- A directive that cannot be cut has a blank in front and a character outside ASCII. -/
theorem blank_and_wide_of_insideCharacter (h : ofText text = .error .insideCharacter) :
    (∃ c cs, text = c :: cs ∧ isBlank c = true) ∧ ∃ c ∈ text, 0x80 ≤ c.toNat := by
  have hcut : ¬ CutsWell (fun _ => True) (ofText text) := by
    rw [h]
    exact nofun
  constructor
  · by_contra hfront
    refine hcut (cutsWell_of_front fun c cs htext => ?_)
    exact Bool.eq_false_iff.2 fun hc => hfront ⟨c, cs, htext, hc⟩
  · by_contra hascii
    refine hcut (cutsWell_of_ascii fun c hc => ?_)
    exact Nat.lt_of_not_le fun hwide => hascii ⟨c, hc, hwide⟩

end

end Directive

/-! ## Filters -/

namespace Filter

/-- Reading a filter breaks off: the first of its directives that cannot be read is one that cannot
be cut. -/
def Breaks (text : String) : Prop :=
  ∃ before part after, parts text = before ++ part :: after ∧
    (∀ earlier ∈ before, ∃ d, Directive.ofText earlier = .ok d) ∧
    Directive.ofText part = .error .insideCharacter

section
variable {α β ε : Type} {e : ε}

/-- Two things done one after the other fail as the first one does, or else as the second one does.
-/
theorem bind_eq_error_iff {x : Except ε α} {f : α → Except ε β} :
    (x >>= f) = .error e ↔ x = .error e ∨ ∃ a, x = .ok a ∧ f a = .error e := by
  cases x with
  | ok a =>
    change f a = .error e ↔ _
    simp
  | error fault =>
    change Except.error fault = .error e ↔ _
    simp

/-- Reading one after the other fails as the first one does that fails. -/
theorem mapM_eq_error_iff {f : α → Except ε β} {xs : List α} :
    xs.mapM f = .error e ↔ ∃ before x after, xs = before ++ x :: after ∧
      (∀ y ∈ before, ∃ b, f y = .ok b) ∧ f x = .error e := by
  induction xs with
  | nil => simp [pure, Except.pure]
  | cons x xs ih =>
    have hrest (b : β) : (do let bs ← xs.mapM f; pure (b :: bs)) = .error e ↔
        xs.mapM f = .error e := by
      simp [bind_eq_error_iff, pure, Except.pure]
    rw [List.mapM_cons, bind_eq_error_iff]
    simp only [hrest, ih]
    constructor
    · rintro (hx | ⟨b, hx, before, y, after, rfl, hbefore, hy⟩)
      · exact ⟨[], x, xs, rfl, nofun, hx⟩
      · exact ⟨x :: before, y, after, rfl, List.forall_mem_cons.2 ⟨⟨b, hx⟩, hbefore⟩, hy⟩
    · rintro ⟨before, y, after, heq, hbefore, hy⟩
      cases before with
      | nil =>
        cases heq
        exact .inl hy
      | cons z before =>
        cases heq
        obtain ⟨⟨b, hx⟩, hbefore⟩ := List.forall_mem_cons.1 hbefore
        exact .inr ⟨b, hx, before, y, after, rfl, hbefore, hy⟩

end

/-- A filter cannot be read because of a cut exactly if reading it breaks off. -/
theorem ofText_eq_insideCharacter_iff {text : String} :
    ofText text = .error .insideCharacter ↔ Breaks text := by
  rw [Breaks, ← mapM_eq_error_iff, ofText]
  cases parts text with
  | nil => simp [pure, Except.pure]
  | cons part parts => rfl

end Filter

end Log

/-! ## Environments -/

namespace Environment

/-- There is a log filter in the environment that breaks off the run. -/
def Breaks (env : Environment) : Prop :=
  ∃ text, env.filter = some text ∧ Log.Filter.Breaks text

/-- A run has a filter for its log exactly if the environment does not break it off. -/
theorem logFilter?_eq_none_iff {env : Environment} {verbose : Bool} :
    env.logFilter? verbose = none ↔ env.Breaks := by
  simp only [Breaks, ← Log.Filter.ofText_eq_insideCharacter_iff]
  rw [logFilter?]
  cases env.filter with
  | none => simp
  | some text =>
    cases htext : Log.Filter.ofText text with
    | ok filter => simp [htext]
    | error fault =>
      cases fault with
      | malformed => simp [htext]
      | insideCharacter => simp [htext]

instance (env : Environment) : Decidable env.Breaks :=
  decidable_of_iff (env.logFilter? false = none) logFilter?_eq_none_iff

end Environment

end PrefixCalc
