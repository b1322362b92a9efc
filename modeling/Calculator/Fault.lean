/-
Places in a text, and the ways in which an evaluation fails.

A `Located` item remembers the position at which it was read: the number of code points of the
text in front of it.  Faults point at a text through these positions.  A `Fault` names the cause
and, where the cause has a place, the position of the character that is to blame.
`Fault.message` is the only wording of each.
-/
import Calculator.Operator.Basic

namespace Calculator

/-- An item together with the position of its first character in a text. -/
structure Located (α : Type) where
  /-- The number of characters of the text in front of the item. -/
  position : Nat
  item : α
deriving DecidableEq, Repr

/-- Why an expression has no value. -/
inductive Fault where
  /-- A character of an infix text that begins no token. -/
  | strayCharacter (c : Char) (position : Nat)
  /-- A word of a postfix text that is neither an operator nor an integer. -/
  | malformedWord (word : String) (position : Nat)
  /-- An opening parenthesis that is never closed. -/
  | unclosedParen (position : Nat)
  /-- A closing parenthesis with nothing open in front of it. -/
  | unopenedParen (position : Nat)
  /-- A parenthesis without its partner, found while operators are put in order. -/
  | unbalancedParen (position : Nat)
  | missingOperands (op : Operator) (position : Nat)
  /-- An expression that leaves no value, or more than one. -/
  | leftover (count : Nat)
  | divisionByZero
  | remainderByZero
  | noParentheses
  | overflow (op : Operator)
  /-- An integer that is written correctly and is no value. -/
  | literalTooLarge (lexeme : String)
  /-- A character used as an operator that stands for none. -/
  | unknownOperator (c : Char)
deriving DecidableEq, Repr

/-- The wording of a fault.  Characters and words stand in it as they were written. -/
def Fault.message : Fault → String
  | strayCharacter c position => s!"invalid character '{c}' at position {position}"
  | malformedWord word position => s!"invalid token '{word}' at position {position}"
  | unclosedParen position => s!"unmatched opening parenthesis at position {position}"
  | unopenedParen position => s!"unmatched closing parenthesis at position {position}"
  | unbalancedParen position => s!"mismatched parentheses at position {position}"
  | missingOperands op position => s!"operator '{op}' at position {position} needs two operands"
  | leftover count => s!"invalid expression: {count} values left after evaluation"
  | divisionByZero => "division by zero"
  | remainderByZero => "modulo by zero"
  | noParentheses => "expression must contain parentheses"
  | overflow op => s!"integer overflow applying '{op}'"
  | literalTooLarge lexeme => s!"integer literal out of range: {lexeme}"
  | unknownOperator c => s!"unknown operator '{c}'"

end Calculator
