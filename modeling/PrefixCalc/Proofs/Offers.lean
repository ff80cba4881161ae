import Mathlib.Data.List.Sort
import PrefixCalc.Completion

/-!
# What completion offers

A command goes on from what was typed (`Completion.GoesOn`) if it starts with that, once it has its
colon, and what was typed after the colon are letters and numbers. At every place between two
characters of a line, the lines that completion leads to are those of the commands that go on from
the text before the place, each with its colon and in ascending order (`Completion.leads_after`).
Candidates come in two forms, with the colon at the front of the line and without it further on; put
behind the text that is kept they are the same lines.

The text after the place is never looked at (`Completion.at?_append`), and of the commands only the
set counts (`Ascending.ofTexts_congr`). Only a place that is not between two characters of the line
has no answer (`Completion.at?_eq_none_iff`).
-/

namespace PrefixCalc

/-- The ascending list depends on neither the order nor the multiplicity of the texts. -/
theorem Ascending.ofTexts_congr {texts texts' : List String}
    (h : ∀ text, text ∈ texts ↔ text ∈ texts') : ofTexts texts = ofTexts texts' := by
  apply List.Pairwise.eq_of_mem_iff (pairwise_ofTexts texts) (pairwise_ofTexts texts')
  intro text
  rw [mem_ofTexts, mem_ofTexts, h]

namespace Completion

/-- The command, with its colon, starts with what was typed, and what was typed after the colon are
letters and numbers. -/
def GoesOn (typed command : String) : Prop :=
  typed.toList <+: (":" ++ command).toList ∧ ∀ x ∈ typed.toList.tail, isAlphanumeric x = true

instance (typed command : String) : Decidable (GoesOn typed command) :=
  inferInstanceAs (Decidable (_ ∧ _))

/-- The lines that an offer leads to, where `kept` is the text that the candidates are put behind. -/
def lines (kept : String) (offer : Completion) : List String :=
  offer.candidates.map (kept ++ ·)

/-- What is offered after a typed text. -/
def after (commands : List String) (typed : String) : Completion :=
  match typed.toList with
  | [] => ⟨0, (Ascending.ofTexts commands).map (":" ++ ·)⟩
  | ':' :: word =>
    if word.all isAlphanumeric then
      ⟨1, (Ascending.ofTexts commands).filter (word.isPrefixOf ·.toList)⟩
    else ⟨typed.utf8ByteSize, []⟩
  | _ => ⟨typed.utf8ByteSize, []⟩

/-! ## Places in a line -/

/-- Behind a typed text, what is offered depends on that text only. -/
theorem at?_append (commands : List String) (typed rest : String) :
    at? commands (typed ++ rest) typed.utf8ByteSize = some (after commands typed) := by
  have hsplit : splitAtByte? typed.utf8ByteSize (typed ++ rest).toList =
      some (typed.toList, rest.toList) := by
    rw [String.toList_append]
    simpa using splitAtByte?_append typed.toList rest.toList
  cases htyped : typed.toList with
  | nil =>
    have hzero : typed.utf8ByteSize = 0 := by simpa using htyped
    rw [at?, if_pos hzero, after, htyped]
  | cons x xs =>
    have hpos : typed.utf8ByteSize ≠ 0 := by
      intro hzero
      rw [String.utf8ByteSize_eq_zero_iff] at hzero
      rw [hzero] at htyped
      cases htyped
    rw [at?, if_neg hpos, hsplit, htyped, Option.map_some, after, htyped]
    split
    · next heq =>
      cases heq
      rfl
    · next hcolon =>
      split
      · next heq =>
        cases heq
      · next heq =>
        cases heq
        exact absurd rfl (hcolon _ _)
      · rfl

/-- There is an answer at the places between two characters of the line, and at no other. -/
theorem at?_eq_none_iff {commands : List String} {line : String} {pos : Nat} :
    at? commands line pos = none ↔ ¬ (String.Pos.Raw.mk pos).IsValid line := by
  rw [String.Pos.Raw.isValid_iff_exists_append]
  constructor
  · rintro hnone ⟨typed, rest, rfl, hpos⟩
    obtain rfl : pos = typed.utf8ByteSize := congrArg String.Pos.Raw.byteIdx hpos
    rw [at?_append] at hnone
    cases hnone
  · intro hinvalid
    have hpos : pos ≠ 0 := by
      rintro rfl
      exact hinvalid ⟨"", line, String.empty_append.symm, rfl⟩
    rw [at?, if_neg hpos, Option.map_eq_none_iff]
    cases hsplit : splitAtByte? pos line.toList with
    | none => rfl
    | some parts =>
      obtain ⟨before, rest⟩ := parts
      have hline := append_of_splitAtByte? hsplit
      have hsize := utf8ByteSize_of_splitAtByte? hsplit
      refine absurd ⟨String.ofList before, String.ofList rest, ?_, ?_⟩ hinvalid
      · rw [← String.ofList_append, hline, String.ofList_toList]
      · rw [← hsize]
        rfl

/-! ## Commands that go on -/

/-- The lines of the commands that go on from what was typed, in ascending order. -/
def continuations (commands : List String) (typed : String) : List String :=
  ((Ascending.ofTexts commands).filter (GoesOn typed ·)).map (":" ++ ·)

section
variable {commands : List String} {typed command : String} {word : List Char}

theorem toList_colon_append (command : String) :
    (":" ++ command).toList = ':' :: command.toList := by simp

/-- After a colon, the commands that go on are those that start with the word behind it. -/
theorem goesOn_of_colon (h : typed.toList = ':' :: word) :
    GoesOn typed command ↔ word <+: command.toList ∧ ∀ x ∈ word, isAlphanumeric x = true := by
  rw [GoesOn, h, toList_colon_append, List.cons_prefix_cons, List.tail_cons, eq_self, true_and]

/-- No command goes on from anything but a colon. -/
theorem not_goesOn {x : Char} (h : typed.toList = x :: word) (hx : x ≠ ':') :
    ¬ GoesOn typed command := by
  rintro ⟨hstarts, -⟩
  rw [h, toList_colon_append, List.cons_prefix_cons] at hstarts
  exact hx hstarts.1

/-- A command of letters and numbers goes on from everything that it starts with. -/
theorem goesOn_iff_isPrefix (hcommand : ∀ x ∈ command.toList, isAlphanumeric x = true) :
    GoesOn typed command ↔ typed.toList <+: (":" ++ command).toList := by
  refine ⟨And.left, fun hstarts => ⟨hstarts, fun x hx => ?_⟩⟩
  rw [toList_colon_append] at hstarts
  cases htyped : typed.toList with
  | nil => simp [htyped] at hx
  | cons y word =>
    rw [htyped, List.cons_prefix_cons] at hstarts
    rw [htyped, List.tail_cons] at hx
    exact hcommand x (hstarts.2.subset hx)

theorem mem_continuations {text : String} : text ∈ continuations commands typed ↔
    ∃ command ∈ commands, text = ":" ++ command ∧ GoesOn typed command := by
  simp only [continuations, List.mem_map, List.mem_filter, Ascending.mem_ofTexts,
    decide_eq_true_iff]
  constructor
  · rintro ⟨command, ⟨hmem, hgoes⟩, rfl⟩
    exact ⟨command, hmem, rfl, hgoes⟩
  · rintro ⟨command, hmem, rfl, hgoes⟩
    exact ⟨command, ⟨hmem, hgoes⟩, rfl⟩

/-- The lines stay ascending with a colon in front of each. -/
theorem pairwise_continuations (commands : List String) (typed : String) :
    (continuations commands typed).Pairwise (· < ·) := by
  rw [continuations, List.pairwise_map]
  refine ((Ascending.pairwise_ofTexts commands).filter _).imp fun {a b} hab => ?_
  rw [String.lt_iff] at hab ⊢
  simpa using hab

/-! ## What the candidates lead to -/

/-- The candidates are put behind a first part of what was typed, and then they are the lines of the
commands that go on from it. -/
def Leads (commands : List String) (typed : String) (offer : Completion) : Prop :=
  ∃ kept later, typed = kept ++ later ∧ kept.utf8ByteSize = offer.start ∧
    offer.lines kept = continuations commands typed

/-- At the front of the line every command goes on, and the candidates have their colons. -/
theorem leads_front (commands : List String) :
    Leads commands "" ⟨0, (Ascending.ofTexts commands).map (":" ++ ·)⟩ := by
  refine ⟨"", "", rfl, rfl, ?_⟩
  have hall (command : String) : GoesOn "" command := ⟨List.nil_prefix, nofun⟩
  simp [lines, continuations, hall]

/-- After a colon and letters and numbers, the colon is kept. -/
theorem leads_word (htyped : typed.toList = ':' :: word) (hword : word.all isAlphanumeric = true) :
    Leads commands typed
      ⟨1, (Ascending.ofTexts commands).filter (word.isPrefixOf ·.toList)⟩ := by
  refine ⟨":", String.ofList word, ?_, rfl, ?_⟩
  · rw [← String.toList_inj, htyped, toList_colon_append, String.toList_ofList]
  · rw [lines, continuations]
    congr 1
    apply List.filter_congr
    intro command _
    rw [Bool.eq_iff_iff, List.isPrefixOf_iff_prefix, decide_eq_true_iff, goesOn_of_colon htyped,
      and_iff_left (List.all_eq_true.1 hword)]

/-- Where no command goes on, all that was typed is kept and there are no candidates. -/
theorem leads_nothing (hnone : ∀ command, ¬ GoesOn typed command) :
    Leads commands typed ⟨typed.utf8ByteSize, []⟩ := by
  refine ⟨typed, "", String.append_empty.symm, rfl, ?_⟩
  simp [lines, continuations, hnone]

/-- Whatever was typed, what is offered leads to the lines of the commands that go on from it. -/
theorem leads_after (commands : List String) (typed : String) :
    Leads commands typed (after commands typed) := by
  rw [after]
  split
  · next htyped =>
    obtain rfl : typed = "" := String.toList_eq_nil_iff.1 htyped
    exact leads_front commands
  · next word htyped =>
    split
    · next hword => exact leads_word htyped hword
    · next hword =>
      refine leads_nothing fun command hgoes => hword ?_
      exact List.all_eq_true.2 ((goesOn_of_colon htyped).1 hgoes).2
  · next hempty hcolon =>
    cases htyped : typed.toList with
    | nil => exact absurd htyped hempty
    | cons x word =>
      refine leads_nothing fun command => not_goesOn htyped ?_
      rintro rfl
      exact hcolon word htyped

end

/-! ## Offers -/

/-- At every place of a line that has the bytes of a first part of it, completion has an answer: the
candidates replace the text from a place on that is not behind the cursor, and the lines that they
lead to are, strictly ascending by code points, those of the commands that go on from that first
part, which are all that start with it if commands are made of letters and numbers. The answer
depends on that part and on the set of commands only. At the other places, which are not at the
front and are beyond the line or inside a character, there is none. -/
theorem offers_exactly (commands : List String) (line : String) (pos : Nat) :
    (∀ typed rest, line = typed ++ rest → typed.utf8ByteSize = pos →
      (∃ offer kept later, at? commands line pos = some offer ∧ offer.start ≤ pos ∧
        line = kept ++ later ∧ kept.utf8ByteSize = offer.start ∧
        (offer.lines kept).Pairwise (· < ·) ∧
        (∀ text, text ∈ offer.lines kept ↔
          ∃ command ∈ commands, text = ":" ++ command ∧ GoesOn typed command) ∧
        ((∀ command ∈ commands, ∀ x ∈ command.toList, isAlphanumeric x = true) →
          ∀ text, text ∈ offer.lines kept ↔
            ∃ command ∈ commands, text = ":" ++ command ∧ typed.toList <+: text.toList)) ∧
      ∀ commands' rest', (∀ command, command ∈ commands' ↔ command ∈ commands) →
        at? commands' (typed ++ rest') pos = at? commands line pos) ∧
    (at? commands line pos = none ↔
      0 < pos ∧ (line.utf8ByteSize < pos ∨ ¬ (String.Pos.Raw.mk pos).IsValid line)) := by
  constructor
  · rintro typed rest rfl rfl
    obtain ⟨kept, later, hkept, hstart, hlines⟩ := leads_after commands typed
    refine ⟨⟨after commands typed, kept, later ++ rest, at?_append commands typed rest, ?_, ?_,
      hstart, ?_, ?_, ?_⟩, ?_⟩
    · rw [← hstart, hkept, String.utf8ByteSize_append]
      exact Nat.le_add_right _ _
    · rw [← String.append_assoc, ← hkept]
    · rw [hlines]
      exact pairwise_continuations commands typed
    · intro text
      rw [hlines, mem_continuations]
    · intro halphanumeric text
      rw [hlines, mem_continuations]
      refine exists_congr fun command => and_congr_right fun hmem => and_congr_right ?_
      rintro rfl
      exact goesOn_iff_isPrefix (halphanumeric command hmem)
    · intro commands' rest' hsame
      rw [at?_append, at?_append, after, after, Ascending.ofTexts_congr hsame]
  · rw [at?_eq_none_iff]
    constructor
    · intro hinvalid
      refine ⟨Nat.pos_of_ne_zero ?_, .inr hinvalid⟩
      rintro rfl
      exact hinvalid String.Pos.Raw.isValid_zero
    · rintro ⟨-, hbeyond | hinvalid⟩
      · exact fun hvalid => Nat.not_lt_of_le hvalid.le_utf8ByteSize hbeyond
      · exact hinvalid

/-- A word with a character of two bytes: the place behind the word is counted in bytes, a command
that was given twice is offered once, the order is that of code points, and inside the character
there is no answer. -/
theorem offers_after_accent :
    ":ét+ 1" = ":ét" ++ "+ 1" ∧ ":ét".utf8ByteSize = 4 ∧
    at? ["été", "eval", "étude", "été"] ":ét+ 1" 4 = some ⟨1, ["étude", "été"]⟩ ∧
    at? ["étude", "été", "eval"] ":ét" 4 = some ⟨1, ["étude", "été"]⟩ ∧
    at? ["été", "eval", "étude", "été"] ":ét+ 1" 2 = none := by
  have hoffer : at? ["été", "eval", "étude", "été"] ":ét+ 1" 4 = some ⟨1, ["étude", "été"]⟩ := by
    decide +kernel
  have hset (command : String) : command ∈ ["étude", "été", "eval"] ↔
      command ∈ ["été", "eval", "étude", "été"] := by
    simp only [List.mem_cons, List.not_mem_nil, or_false]
    tauto
  have hsame := ((offers_exactly ["été", "eval", "étude", "été"] ":ét+ 1" 4).1 ":ét" "+ 1" rfl rfl).2
    ["étude", "été", "eval"] "" hset
  rw [hoffer] at hsame
  refine ⟨rfl, rfl, hoffer, hsame, ?_⟩
  exact (offers_exactly _ _ 2).2.2 ⟨by decide, .inr (by decide +kernel)⟩

end Completion

end PrefixCalc
