/-
The stack machine.

A number goes on top of the operands; an operator takes the two on top, the right one first,
and leaves its result.

* `Operands.reduce` — one operator on the operands;
* `Postfix.execute` — the code of a program, with the reductions that it makes;
* `Program.evaluate` — a program that starts without operands and has to leave exactly one.

Design notes.  The reductions made in front of a fault are kept, so a trace shows how far an
evaluation came.
-/
import Calculator.Operator.Apply
import Calculator.Postfix.Program

namespace Calculator

/-- An operator that was applied, with its operands and its result. -/
structure Reduction where
  left : Value
  op : Operator
  right : Value
  result : Value
deriving DecidableEq

def Reduction.line (r : Reduction) : String :=
  s!"reduce: {r.left} {r.op} {r.right} = {r.result}"

/-- The operands of a machine, the top one first. -/
abbrev Operands := List Value

/-- Applies an operator to the two operands on top.  The operands that were taken off are gone
even if it fails. -/
def Operands.reduce (op : Located Operator) : Operands → Except Fault Reduction × Operands
  | right :: left :: below =>
    match op.item.apply left right with
    | .ok result => (.ok ⟨left, op.item, right, result⟩, result :: below)
    | .error fault => (.error fault, below)
  | _ => (.error (.missingOperands op.item op.position), [])

/-- What came of an expression. -/
structure Evaluation where
  reductions : List Reduction
  /-- The value of the expression, or what went wrong behind the last reduction. -/
  outcome : Except Fault Value

namespace Postfix

/-- Carries out code on a stack of operands: the reductions made, and the operands at the
end. -/
def execute : List (Located Token) → Operands → List Reduction × Except Fault Operands
  | [], operands => ([], .ok operands)
  | ⟨_, .number value⟩ :: code, operands => execute code (value :: operands)
  | ⟨position, .operator op⟩ :: code, operands =>
    match operands.reduce ⟨position, op⟩ with
    | (.ok reduction, operands') => (execute code operands').map (reduction :: ·) id
    | (.error fault, _) => ([], .error fault)

/-- The single value on a stack of operands. -/
def single : Operands → Except Fault Value
  | [value] => .ok value
  | operands => .error (.leftover operands.length)

/-- Carries out a program from its start.  A program that was not read to its end has no
value. -/
def Program.evaluate (p : Program) : Evaluation :=
  match execute p.code [] with
  | (reductions, .error fault) => ⟨reductions, .error fault⟩
  | (reductions, .ok operands) =>
    match p.fault with
    | some fault => ⟨reductions, .error fault⟩
    | none => ⟨reductions, single operands⟩

end Postfix

end Calculator
