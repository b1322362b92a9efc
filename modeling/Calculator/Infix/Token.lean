/-
Tokens of infix notation.

A token is a run of digits, as long as possible, or a single character that is no blank.

* `Infix.Token` — what a token can be;
* `Token.poll` — one call of the lexer;
* `Infix.tokens` — the tokens of a text, each with the position of its first character.

Design notes.  A number keeps its digits: whether it is a value is for the reader of the
tokens to say, and a number that is none is quoted as it was written.
-/
import Calculator.Fault
import Calculator.Scanner

namespace Calculator.Infix

/-- A token of a text in infix notation. -/
inductive Token where
  /-- A run of the digits `0` to `9`. -/
  | number (digits : List Char)
  | operator (op : Operator)
  | opening
  | closing
  /-- A character that has no meaning in an expression. -/
  | stray (c : Char)
deriving DecidableEq, Repr

namespace Token

/-- The token of a single character that is neither a digit nor a blank. -/
def ofChar : Char → Token
  | '(' => opening
  | ')' => closing
  | c =>
    match Operator.ofChar? c with
    | some op => operator op
    | none => stray c

def text : Token → List Char
  | number digits => digits
  | operator op => [op.symbol]
  | opening => ['(']
  | closing => [')']
  | stray c => [c]

/-- One call for a token: what is found, and the scanner that the next call starts from. -/
def poll (s : Scanner Char) : Option (Located Token) × Scanner Char :=
  match s.skipBlanks.skipWhile Char.isDigit with
  | (true, s') => (some ⟨s.skipBlanks.offset, number s'.lexeme⟩, s'.discard)
  | (false, s') =>
    match s'.next? with
    | (some c, s'') => (some ⟨s.skipBlanks.offset, ofChar c⟩, s''.discard)
    | (none, s'') => (none, s'')

theorem remaining_lt_of_poll {s s' : Scanner Char} {token : Located Token}
    (h : poll s = (some token, s')) : s'.remaining < s.remaining := by
  have hblank := s.remaining_skipBlanks_le
  have hdigits := s.skipBlanks.remaining_skipWhile_le Char.isDigit
  revert h
  fun_cases poll s with
  | case1 s₁ hs =>
    rintro ⟨⟩
    rw [hs] at hdigits
    simp only [Bool.toNat_true] at hdigits
    simp only [Scanner.remaining_discard]
    omega
  | case2 s₁ hs c s₂ hc =>
    rintro ⟨⟩
    have hchar := Scanner.remaining_next?_lt hc
    rw [hs] at hdigits
    simp only [Bool.toNat_false] at hdigits
    simp only [Scanner.remaining_discard]
    omega
  | case3 => simp

@[simp] theorem text_ofChar (c : Char) : (ofChar c).text = [c] := by
  fun_cases ofChar c with
  | case1 => rfl
  | case2 => rfl
  | case3 c _ _ op h => rw [Operator.ofChar?_eq_some_iff.1 h]; rfl
  | case4 => rfl

end Token

/-- The tokens of a text, from left to right. -/
def tokens (text : List Char) : List (Located Token) :=
  (Scanner.ofList text).collect Token.poll Token.remaining_lt_of_poll

end Calculator.Infix
