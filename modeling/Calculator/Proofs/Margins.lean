/-
Blanks at the ends of a text.

Blanks behind a text change nothing in it, and blanks in front of it only move it.  So a line that
is read without the blanks at its ends has the value of the whole line, or the same fault at a
place that is counted from behind the blanks.

* `Text.exists_trim_eq`, `Text.trim_trim` — a text is its trimmed form between blanks;
* `Infix.tokens_trim`, `words_trim` — the tokens and the words of a text are those of its trimmed
  form, moved behind the blanks in front;
* `Mode.evaluate_trim` — so is its evaluation, in any mode;
* `Mode.toPostfix_trimEnd` — without the blanks behind it, a text is converted as with them.
-/
import Mathlib.Data.List.DropRight
import Calculator.Proofs.Layout
import Calculator.Session

namespace Calculator

namespace Text

/-- The number of blanks in front of a text. -/
def margin (text : List Char) : Nat := (text.takeWhile isBlank).length

/-- A text without the blanks behind it. -/
abbrev trimEnd (text : List Char) : List Char := text.rdropWhile isBlank

theorem exists_trimEnd_eq (text : List Char) :
    ∃ blanks, (∀ c ∈ blanks, isBlank c = true) ∧ trimEnd text ++ blanks = text :=
  ⟨text.rtakeWhile isBlank, fun _ => List.mem_rtakeWhile_imp, List.rdropWhile_append_rtakeWhile⟩

theorem trim_eq_trimEnd (text : List Char) : trim text = trimEnd (text.dropWhile isBlank) := rfl

/-- A text is its trimmed form between blanks. -/
theorem exists_trim_eq (text : List Char) :
    ∃ blanks, (∀ c ∈ blanks, isBlank c = true) ∧
      text.takeWhile isBlank ++ (trim text ++ blanks) = text := by
  obtain ⟨blanks, hblanks, heq⟩ := exists_trimEnd_eq (text.dropWhile isBlank)
  refine ⟨blanks, hblanks, ?_⟩
  rw [trim_eq_trimEnd, heq, List.takeWhile_append_dropWhile]

/-- A text that does not begin with a blank is trimmed at its end only. -/
theorem trim_cons {c : Char} (hc : isBlank c = false) (text : List Char) :
    trim (c :: text) = trimEnd (c :: text) := by
  rw [trim_eq_trimEnd, List.dropWhile_cons_of_neg (by simp [hc])]

/-- The blanks behind a text are those behind its last part, if that is not blank as a whole. -/
theorem trimEnd_append (front text : List Char) :
    trimEnd (front ++ text) =
      if trimEnd text = [] then trimEnd front else front ++ trimEnd text := by
  simp only [List.rdropWhile, List.reverse_append, List.dropWhile_append, List.isEmpty_iff,
    List.reverse_eq_nil_iff]
  split
  · rfl
  · rw [List.reverse_append, List.reverse_reverse]

theorem trim_trim (text : List Char) : trim (trim text) = trim text := by
  cases htrim : trim text with
  | nil => rfl
  | cons c rest =>
    -- what is left begins as the text did behind its blanks
    have hprefix : c :: rest <+: text.dropWhile isBlank := by
      rw [← htrim]
      exact List.rdropWhile_prefix isBlank _
    have hc : isBlank c = false := by
      obtain ⟨behind, hbehind⟩ := hprefix
      have hnot := List.head?_dropWhile_not isBlank text
      rw [← hbehind] at hnot
      simpa using hnot
    rw [trim_cons hc, ← htrim]
    exact List.rdropWhile_idempotent isBlank _

end Text

/-- Items that are read over blanks are those of the trimmed text, behind the blanks in front. -/
theorem MovesWithText.map_trim {α : Type} {read : Nat → List Char → List (Located α)}
    (hread : MovesWithText read)
    (hblank : ∀ c, Text.isBlank c = true → ∀ position text,
      read position (c :: text) = read (position + 1) text)
    (hbehind : ∀ {blanks}, (∀ c ∈ blanks, Text.isBlank c = true) → ∀ position text,
      read position (text ++ blanks) = read position text)
    (text : List Char) :
    (read 0 (Text.trim text)).map (Located.move (· + Text.margin text)) = read 0 text := by
  obtain ⟨blanks, hblanks, heq⟩ := Text.exists_trim_eq text
  have hmargin : ∀ c ∈ text.takeWhile Text.isBlank, Text.isBlank c = true :=
    List.all_eq_true.mp List.all_takeWhile
  have hskip := Scanner.skip_append hblank hmargin 0 (Text.trim text ++ blanks)
  rw [heq, hbehind hblanks] at hskip
  rw [hskip]
  apply hread.map_move
  intro i _
  show 0 + i + Text.margin text = 0 + Text.margin text + i
  omega

/-! ### Tokens -/

namespace Infix

theorem tokensFrom_append_blanks {blanks : List Char}
    (h : ∀ c ∈ blanks, Text.isBlank c = true) (position : Nat) (text : List Char) :
    tokensFrom position (text ++ blanks) = tokensFrom position text := by
  cases blanks with
  | nil => rw [List.append_nil]
  | cons c blanks =>
    have hc : c.isDigit = false := Text.isDigit_of_isBlank (h c List.mem_cons_self)
    have hskip := Scanner.skip_append @tokensFrom_blank h (position + text.length) []
    rw [List.append_nil, tokensFrom_nil] at hskip
    rw [tokensFrom_append hc, hskip, List.append_nil]

/-- Blanks behind a text have no tokens. -/
theorem tokens_trimEnd (text : List Char) : tokens (Text.trimEnd text) = tokens text := by
  obtain ⟨blanks, hblanks, heq⟩ := Text.exists_trimEnd_eq text
  have happend := tokensFrom_append_blanks hblanks 0 (Text.trimEnd text)
  rw [tokens_eq_tokensFrom, ← happend, heq, ← tokens_eq_tokensFrom]

/-- **The tokens of a text are those of its trimmed form**, moved behind the blanks in front. -/
theorem tokens_trim (text : List Char) :
    (tokens (Text.trim text)).map (Located.move (· + Text.margin text)) = tokens text := by
  rw [tokens_eq_tokensFrom, tokens_eq_tokensFrom]
  exact movesWithText_tokensFrom.map_trim @tokensFrom_blank tokensFrom_append_blanks text

/-- Texts with the same tokens at the same places are converted alike. -/
theorem toPostfix_congr {e e' : String} (h : tokens e.toList = tokens e'.toList)
    (strictness : Strictness) : toPostfix strictness e' = toPostfix strictness e := by
  have hmove : (tokens e.toList).map (Located.move id) = tokens e'.toList := by
    rw [← h]
    exact List.map_id _
  rw [(sameReadings_of_move hmove).toPostfix strictness]
  cases toPostfix strictness e with
  | ok listed => rfl
  | error fault => exact congrArg Except.error fault.move_id

end Infix

/-! ### Words -/

theorem wordsFrom_append_blanks {blanks : List Char}
    (h : ∀ c ∈ blanks, Text.isBlank c = true) (position : Nat) (text : List Char) :
    wordsFrom position (text ++ blanks) = wordsFrom position text := by
  cases blanks with
  | nil => rw [List.append_nil]
  | cons c blanks =>
    have hskip := Scanner.skip_append @wordsFrom_blank h (position + text.length) []
    rw [List.append_nil, wordsFrom_nil] at hskip
    rw [wordsFrom_append_blank (h c List.mem_cons_self), hskip, List.append_nil]

/-- **The words of a text are those of its trimmed form**, moved behind the blanks in front. -/
theorem words_trim (text : List Char) :
    (words (Text.trim text)).map (Located.move (· + Text.margin text)) = words text := by
  rw [words_eq_wordsFrom, words_eq_wordsFrom]
  exact movesWithText_wordsFrom.map_trim @wordsFrom_blank wordsFrom_append_blanks text

/-! ### Readings -/

namespace Mode

/-- **A text is evaluated as its trimmed form**, in any mode; the place of a fault is counted
from the start of the text. -/
theorem evaluate_trim (mode : Mode) (text : String) :
    mode.evaluate text =
      (mode.evaluate (String.ofList (Text.trim text.toList))).mapError
        (Fault.move (· + Text.margin text.toList)) := by
  obtain ⟨_ | _, strictness⟩ := mode
  · refine (Infix.sameReadings_of_move ?_).evaluate strictness
    rw [String.toList_ofList]
    exact Infix.tokens_trim text.toList
  · refine Postfix.outcome_evaluate_of_move ?_
    rw [String.toList_ofList]
    exact words_trim text.toList

/-- Blanks behind a text do not matter when it is converted. -/
theorem toPostfix_trimEnd (mode : Mode) (text : String) :
    mode.toPostfix (String.ofList (Text.trimEnd text.toList)) = mode.toPostfix text := by
  have htokens : Infix.tokens text.toList =
      Infix.tokens (String.ofList (Text.trimEnd text.toList)).toList := by
    rw [String.toList_ofList, Infix.tokens_trimEnd]
  rw [toPostfix, toPostfix, Infix.toPostfix_congr htokens]

end Mode

end Calculator
