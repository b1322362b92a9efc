/-
Programs in postfix order.

A text of either notation becomes a `Program`: code for a stack of operands, and the fault at
which the reading of the text stopped, if it did.  What the code does comes first, so a fault
of the code wins over the fault of the reading.

* `Postfix.Token`, `Postfix.render` — a number or an operator, and the text of a list of them;
* `Program.tokens` — the code as an expression, if it is one: every operator finds two operands
  and one value stays at the end.  No operator is applied.
-/
import Calculator.Fault
import Calculator.Value

namespace Calculator.Postfix

/-! ### Tokens -/

/-- A step of an expression in postfix order. -/
inductive Token where
  | number (value : Value)
  | operator (op : Operator)
deriving DecidableEq

/-- The text of a token: a number in decimal notation, or the symbol of an operator. -/
def Token.text : Token → List Char
  | number value => value.text
  | operator op => [op.symbol]

/-- The texts of the tokens with one space between neighbours. -/
def render (tokens : List Token) : String :=
  String.ofList ([' '].intercalate (tokens.map Token.text))

/-! ### Programs -/

/-- Code for a stack of operands, as far as it could be read. -/
structure Program where
  code : List (Located Token)
  /-- What stopped the reading behind the last step. -/
  fault : Option Fault
deriving DecidableEq

namespace Program

/-- The program that carries out some more steps first. -/
def after (steps : List (Located Token)) (p : Program) : Program :=
  { p with code := steps ++ p.code }

/-- The program that has no steps and stops at a fault. -/
def failed (fault : Fault) : Program := { code := [], fault := some fault }

end Program

/-- The number of operands after the code, if it starts on `count` of them. -/
def countAfter (count : Nat) : List (Located Token) → Except Fault Nat
  | [] => .ok count
  | ⟨_, .number _⟩ :: code => countAfter (count + 1) code
  | ⟨position, .operator op⟩ :: code =>
    if count < 2 then .error (.missingOperands op position) else countAfter (count - 1) code

/-- The tokens of a program that was read to its end and leaves one value. -/
def Program.tokens (p : Program) : Except Fault (List Token) := do
  let count ← countAfter 0 p.code
  match p.fault with
  | some fault => .error fault
  | none => if count = 1 then .ok (p.code.map Located.item) else .error (.leftover count)

end Calculator.Postfix
