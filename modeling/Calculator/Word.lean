/-
Words.

The words of a text are its longest pieces without blanks, each with the position of its
first character.

* `Word.poll` — one call of the lexer of words;
* `words` — the words of a text.
-/
import Calculator.Fault
import Calculator.Scanner

namespace Calculator

namespace Word

/-- Whether a character belongs to a word. -/
abbrev isPart (c : Char) : Bool := !Text.isBlank c

/-- One call for a word: what is found, and the scanner that the next call starts from. -/
def poll (s : Scanner Char) : Option (Located (List Char)) × Scanner Char :=
  match s.skipBlanks.skipWhile isPart with
  | (true, s') => (some ⟨s.skipBlanks.offset, s'.lexeme⟩, s'.discard)
  | (false, s') => (none, s')

theorem remaining_lt_of_poll {s s' : Scanner Char} {word : Located (List Char)}
    (h : poll s = (some word, s')) : s'.remaining < s.remaining := by
  have hblank := s.remaining_skipBlanks_le
  have hword := s.skipBlanks.remaining_skipWhile_le isPart
  revert h
  fun_cases poll s with
  | case1 s₁ hs =>
    rintro ⟨⟩
    rw [hs] at hword
    simp only [Bool.toNat_true] at hword
    simp only [Scanner.remaining_discard]
    omega
  | case2 => simp

end Word

/-- The words of a text, from left to right. -/
def words (text : List Char) : List (Located (List Char)) :=
  (Scanner.ofList text).collect Word.poll Word.remaining_lt_of_poll

end Calculator
