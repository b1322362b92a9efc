/-
Reading infix notation.

A text is checked for its parentheses before its tokens are looked at; a strict reader also
refuses a text that has none.

* `Infix.check` — the check that comes first;
* `Infix.program` — the program of a text, without that check;
* `Infix.evaluate` — the evaluation of a text;
* `Infix.toPostfix` — the same expression in postfix order, without applying an operator.
-/
import Calculator.Infix.Yard
import Calculator.Parentheses
import Calculator.Postfix.Machine

namespace Calculator.Infix

/-- Whether infix texts must contain parentheses. -/
inductive Strictness where
  | lenient
  | strict
deriving DecidableEq, Repr

/-- Fails if parentheses are required and there is no pair of them, and otherwise if they are
not balanced. -/
def check (strictness : Strictness) (text : String) : Except Fault Unit :=
  if strictness = .strict && !Parentheses.hasPair text.toList then .error .noParentheses
  else Parentheses.check text.toList

def program (text : String) : Postfix.Program := Yard.run [] (tokens text.toList)

/-- The evaluation of a text in infix notation.  Nothing is reduced if the check fails. -/
def evaluate (strictness : Strictness) (text : String) : Evaluation :=
  match check strictness text with
  | .ok () => (program text).evaluate
  | .error fault => { reductions := [], outcome := .error fault }

/-- The tokens of a text in postfix order.  Whether they have a value is left open. -/
def toPostfix (strictness : Strictness) (text : String) : Except Fault (List Postfix.Token) :=
  match check strictness text with
  | .ok () => (program text).tokens
  | .error fault => .error fault

end Calculator.Infix
