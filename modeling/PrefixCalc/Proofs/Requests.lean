import PrefixCalc.Completion
import PrefixCalc.Proofs.Parsing

/-!
# A verb only selects what is asked

A line that starts with a colon and an identifier is a request if the identifier is the word of a
verb, and then it asks what the verb asks of the program that the rest of the line is by itself. Any
other identifier is refused, in particular one that is only the beginning of a verb's word or only
starts with one: the identifier of a line ends before the first character that cannot belong to it
(`Lexeme.identifier_unique`). So the words that can stand after a colon are those that completion
offers.
-/

namespace PrefixCalc

/-! ## Lines with and without a verb -/

/-- The words of the verbs are listed. -/
theorem Verb.mem_names {word : String} : word ∈ names ↔ ∃ verb : Verb, verb.name = word := by
  refine ⟨?_, ?_⟩
  · intro h
    obtain ⟨verb, -, hname⟩ := List.mem_map.1 h
    exact ⟨verb, hname⟩
  · rintro ⟨verb, rfl⟩
    refine List.mem_map.2 ⟨verb, ?_, rfl⟩
    cases verb <;> simp [all]

namespace Derivation

section
variable {s word : List Char} {cmd : Command}

/-- A line that does not start with a colon is a program, which is evaluated. -/
theorem line_iff_program (hcolon : s.head? ≠ some ':') :
    Line s cmd ↔ ∃ t, Program s t ∧ cmd = ⟨.eval, t⟩ := by
  refine ⟨?_, ?_⟩
  · intro h
    cases h with
    | bare h => exact ⟨_, h, rfl⟩
    | request verb h => exact absurd rfl hcolon
  · rintro ⟨t, h, rfl⟩
    exact .bare h

/-- A line that starts with a colon and an identifier is the request of the verb with that word over
the program after it. -/
theorem line_colon_iff (hword : Lexeme.IsIdentifier word)
    (hs : s.head?.any Lexeme.isIdentRest = false) :
    Line (':' :: (word ++ s)) cmd ↔
      ∃ verb : Verb, ∃ t, verb.name.toList = word ∧ Program s t ∧ cmd = ⟨verb, t⟩ := by
  refine ⟨?_, ?_⟩
  · generalize hline : ':' :: (word ++ s) = line
    intro h
    cases h with
    | bare h =>
      rw [← hline] at h
      exact absurd rfl h.head_ne_colon
    | @request s' t verb h =>
      -- The identifier is read off the line in one way only.
      obtain ⟨rfl, rfl⟩ := Lexeme.identifier_unique (Lexeme.isIdentifier_name verb)
        h.head_not_identRest hword hs (List.cons.inj hline).2.symm
      exact ⟨verb, t, rfl, h, rfl⟩
  · rintro ⟨verb, t, rfl, h, rfl⟩
    exact .request verb h

end

end Derivation

/-! ## Words that are offered -/

/-- At the front of a line, the commands that completion offers are those it is given, each with its
colon. -/
theorem Completion.exists_offered_iff {commands : List String} {line word : String} :
    (∃ offer, at? commands line 0 = some offer ∧ ":" ++ word ∈ offer.candidates) ↔
      word ∈ commands := by
  have hoffer : at? commands line 0 =
      some ⟨0, (Ascending.ofTexts commands).map (":" ++ ·)⟩ := rfl
  rw [hoffer]
  refine ⟨?_, ?_⟩
  · rintro ⟨offer, heq, h⟩
    cases heq
    obtain ⟨word', hword', heq⟩ := List.mem_map.1 h
    obtain rfl := (String.append_right_inj ":").1 heq
    exact Ascending.mem_ofTexts.1 hword'
  · intro h
    exact ⟨_, rfl, List.mem_map.2 ⟨word, Ascending.mem_ofTexts.2 h, rfl⟩⟩

namespace Grammar

open PrefixCalc.Derivation

section
variable {word text : String}

/-- A colon, an identifier and a text are a request if the identifier is the word of a verb and the
text is derived as a program. -/
theorem parse_colon_iff_program (hword : Lexeme.IsIdentifier word.toList)
    (hident : text.toList.head?.any Lexeme.isIdentRest = false) {cmd : Command} :
    parse (":" ++ word ++ text) = .ok cmd ↔
      ∃ verb : Verb, ∃ t, verb.name = word ∧ Program text.toList t ∧ cmd = ⟨verb, t⟩ := by
  have hline : (":" ++ word ++ text).toList = ':' :: (word.toList ++ text.toList) := by simp
  simp only [parse_eq_ok_iff, hline, line_colon_iff hword hident, String.toList_inj]

/-- A colon, an identifier and a text are a request if the identifier is the word of a verb and the
text by itself is read as a program. -/
theorem parse_colon_iff (hword : Lexeme.IsIdentifier word.toList)
    (hcolon : text.toList.head? ≠ some ':')
    (hident : text.toList.head?.any Lexeme.isIdentRest = false) {cmd : Command} :
    parse (":" ++ word ++ text) = .ok cmd ↔ ∃ verb : Verb, ∃ t,
      verb.name = word ∧ parse text = .ok ⟨.eval, t⟩ ∧ cmd = ⟨verb, t⟩ := by
  rw [parse_colon_iff_program hword hident]
  refine ⟨?_, ?_⟩
  · rintro ⟨verb, t, hname, h, rfl⟩
    exact ⟨verb, t, hname, parse_eq_ok_iff.2 (.bare h), rfl⟩
  · rintro ⟨verb, t, rfl, h, rfl⟩
    obtain ⟨t', h, heq⟩ := (line_iff_program hcolon).1 (parse_eq_ok_iff.1 h)
    cases heq
    exact ⟨verb, t, rfl, h, rfl⟩

/-- The words that can stand after a colon are those of the verbs. -/
theorem exists_parse_colon_iff (hword : Lexeme.IsIdentifier word.toList) :
    (∃ text cmd, text.toList.head?.any Lexeme.isIdentRest = false ∧
      parse (":" ++ word ++ text) = .ok cmd) ↔ word ∈ Verb.names := by
  refine ⟨?_, ?_⟩
  · rintro ⟨text, cmd, hident, h⟩
    obtain ⟨verb, t, hname, -⟩ := (parse_colon_iff_program hword hident).1 h
    exact Verb.mem_names.2 ⟨verb, hname⟩
  · intro h
    obtain ⟨verb, hname⟩ := Verb.mem_names.1 h
    have hprogram : parse " + 1" = .ok ⟨.eval, .apply .bare "+" (.number "1") []⟩ := rfl
    exact ⟨" + 1", ⟨verb, _⟩, by decide,
      (parse_colon_iff hword (by decide) (by decide)).2 ⟨verb, _, hname, hprogram, rfl⟩⟩

/-- A colon, an identifier and a text that does not go on with the identifier are a request if and
only if the identifier is the word of a verb and the text by itself is a program; the request is
that verb over that program. So `:eval` before a text changes nothing about what it stands for, and
the words that some text makes a request are those that completion offers. -/
theorem parse_colon_iff_parse_bare (hword : Lexeme.IsIdentifier word.toList)
    (hcolon : text.toList.head? ≠ some ':')
    (hident : text.toList.head?.any Lexeme.isIdentRest = false) :
    (∀ cmd, parse (":" ++ word ++ text) = .ok cmd ↔ word ∈ Verb.names ∧ ∃ verb : Verb, ∃ t,
      verb.name = word ∧ parse text = .ok ⟨.eval, t⟩ ∧ cmd = ⟨verb, t⟩) ∧
    (∀ cmd, parse (":eval" ++ text) = .ok cmd ↔ parse text = .ok cmd) ∧
    ∀ line, (∃ offer, Completion.at? Verb.names line 0 = some offer ∧
        ":" ++ word ∈ offer.candidates) ↔
      ∃ program cmd, program.toList.head?.any Lexeme.isIdentRest = false ∧
        parse (":" ++ word ++ program) = .ok cmd := by
  refine ⟨fun cmd => ?_, fun cmd => ?_, fun line => ?_⟩
  · rw [parse_colon_iff hword hcolon hident]
    refine ⟨?_, fun h => h.2⟩
    rintro ⟨verb, t, hname, h⟩
    exact ⟨Verb.mem_names.2 ⟨verb, hname⟩, verb, t, hname, h⟩
  · have heval : parse (":" ++ "eval" ++ text) = .ok cmd ↔ _ :=
      parse_colon_iff (Lexeme.isIdentifier_name .eval) hcolon hident
    refine heval.trans ⟨?_, fun h => ?_⟩
    · rintro ⟨verb, t, hname, h, rfl⟩
      obtain rfl : verb = .eval := Lexeme.name_injective hname
      exact h
    · obtain ⟨t, -, rfl⟩ := (line_iff_program hcolon).1 (parse_eq_ok_iff.1 h)
      exact ⟨.eval, t, rfl, h, rfl⟩
  · rw [Completion.exists_offered_iff, exists_parse_colon_iff hword]

/-- The word of one verb, without a blank after it, and the beginning of another. -/
theorem parse_colon_leaves_tre :
    parse ":leaves+1(*2 3)" = .ok ⟨.leaves, .apply .bare "+" (.number "1")
      [.apply .grouped "*" (.number "2") [.number "3"]]⟩ ∧
    ∀ cmd, parse ":tre + 1" ≠ .ok cmd := by
  have hleaves := @parse_colon_iff_parse_bare "leaves" "+1(*2 3)"
    (Lexeme.isIdentifier_name .leaves) (by decide) (by decide)
  have htre := @parse_colon_iff_parse_bare "tre" " + 1"
    ⟨rfl, List.all_eq_true.1 rfl⟩ (by decide) (by decide)
  refine ⟨(hleaves.1 _).2 ⟨by decide, .leaves, _, rfl, rfl, rfl⟩, fun cmd h => ?_⟩
  exact absurd ((htre.1 cmd).1 h).1 (by decide)

end

end Grammar

end PrefixCalc
