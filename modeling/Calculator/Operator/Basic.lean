/-
The binary operators.

Both notations have the same five operators, each written as one character.

* `Operator.ofChar?`, `Operator.symbol` — an operator and its character;
* `Operator.precedence` — how strongly an operator binds in infix notation;
* `Operator.ofChar?_eq_some_iff` — a character stands for an operator exactly if it is the
  symbol of that operator.
-/

namespace Calculator

inductive Operator where
  | add
  | sub
  | mul
  | div
  | rem
deriving DecidableEq, Repr

namespace Operator

/-- The character that stands for the operator. -/
def symbol : Operator → Char
  | add => '+'
  | sub => '-'
  | mul => '*'
  | div => '/'
  | rem => '%'

/-- The operator that a character stands for. -/
def ofChar? : Char → Option Operator
  | '+' => some add
  | '-' => some sub
  | '*' => some mul
  | '/' => some div
  | '%' => some rem
  | _ => none

/-- Multiplication, division and remainder bind more strongly than addition and
subtraction. -/
def precedence : Operator → Nat
  | add | sub => 1
  | mul | div | rem => 2

/-- The precedence of the operator that a character stands for; any other character binds
less than every operator. -/
def precedenceOf (c : Char) : Nat := ((ofChar? c).map precedence).getD 0

instance : ToString Operator := ⟨fun op => op.symbol.toString⟩

@[simp] theorem ofChar?_symbol (op : Operator) : ofChar? op.symbol = some op := by
  cases op <;> rfl

/-- A character stands for an operator exactly if it is the symbol of that operator. -/
theorem ofChar?_eq_some_iff {c : Char} {op : Operator} :
    ofChar? c = some op ↔ c = op.symbol := by
  constructor
  · fun_cases ofChar? c <;> rintro ⟨⟩ <;> rfl
  · rintro rfl
    exact ofChar?_symbol op

end Operator

end Calculator
