/-
Applying an operator to two values.

The result is the exact one or a fault.  Division truncates toward zero, and the remainder
has the sign of the dividend, so that quotient and remainder belong together; a remainder
therefore needs its quotient to be a value too.

* `Operator.apply` — the operator on two values;
* `Operator.applyChar` — the same, with the operator given by its character.
-/
import Calculator.Fault
import Calculator.Value

namespace Calculator.Operator

/-- The value of an exact result, or an overflow of the operator that gave it. -/
def settle (op : Operator) (exact : Int) : Except Fault Value :=
  match Value.ofInt? exact with
  | some v => .ok v
  | none => .error (.overflow op)

/-- Applies an operator to its left and right operand. -/
def apply (op : Operator) (left right : Value) : Except Fault Value :=
  match op with
  | add => op.settle (left.toInt + right.toInt)
  | sub => op.settle (left.toInt - right.toInt)
  | mul => op.settle (left.toInt * right.toInt)
  | div =>
    if right.toInt = 0 then .error .divisionByZero
    else op.settle (left.toInt.tdiv right.toInt)
  | rem =>
    if right.toInt = 0 then .error .remainderByZero
    else do
      -- the quotient is not used, but there is no remainder without it
      let _ ← op.settle (left.toInt.tdiv right.toInt)
      op.settle (left.toInt.tmod right.toInt)

/-- Applies the operator that a character stands for. -/
def applyChar (left right : Value) (c : Char) : Except Fault Value :=
  match ofChar? c with
  | some op => op.apply left right
  | none => .error (.unknownOperator c)

end Calculator.Operator
