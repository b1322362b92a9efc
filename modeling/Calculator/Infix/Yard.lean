/-
Putting infix tokens in postfix order.

The tokens are read once from left to right.  Numbers go straight into the code; operators and
opening parentheses wait in a `Yard`, the last one in front.  A waiting operator leaves the
yard when an operator that does not bind more strongly follows, when the parenthesis around it
closes, or at the end.

* `Yard.step` — what one token does to the yard, and the code that leaves it;
* `Yard.drain` — the end of the text;
* `Yard.run` — the program of a list of tokens.

Design notes.  The order of the code does not depend on what is done with it: the same program
is evaluated, or listed as an expression.  A fault stops the reading, and the code that left
the yard up to there stands in front of it.
-/
import Calculator.Infix.Token
import Calculator.Postfix.Program

namespace Calculator.Infix

/-- What waits in the yard. -/
inductive Pending where
  /-- A parenthesis that was opened and not yet closed. -/
  | opening
  /-- An operator whose right operand is not yet complete. -/
  | operator (op : Operator)
deriving DecidableEq, Repr

/-- Operators and parentheses that wait, the last one first. -/
abbrev Yard := List (Located Pending)

namespace Yard

/-- Lets the operators in front leave the yard as long as they satisfy `p`.  A parenthesis
stops them. -/
def release (p : Operator → Bool) : Yard → List (Located Postfix.Token) × Yard
  | ⟨position, .operator op⟩ :: behind =>
    if p op then (release p behind).map (⟨position, .operator op⟩ :: ·) id
    else ([], ⟨position, .operator op⟩ :: behind)
  | yard => ([], yard)

/-- What a token does: the code that leaves the yard, and the yard that follows or the fault
that stops the reading. -/
def step (yard : Yard) (token : Located Token) :
    List (Located Postfix.Token) × Except Fault Yard :=
  match token.item with
  | .number digits =>
    match Value.ofInt? (Text.natOfDigits digits) with
    | some value => ([⟨token.position, .number value⟩], .ok yard)
    | none => ([], .error (.literalTooLarge (String.ofList digits)))
  | .operator op =>
    -- operators of equal precedence leave too: all of them associate to the left
    match yard.release (fun waiting => op.precedence ≤ waiting.precedence) with
    | (code, behind) => (code, .ok (⟨token.position, .operator op⟩ :: behind))
  | .opening => ([], .ok (⟨token.position, .opening⟩ :: yard))
  | .closing =>
    match yard.release (fun _ => true) with
    | (code, _ :: behind) => (code, .ok behind)
    | (code, []) => (code, .error (.unbalancedParen token.position))
  | .stray c => ([], .error (.strayCharacter c token.position))

/-- The end of the text: every operator leaves.  A parenthesis in their way was never
closed. -/
def drain (yard : Yard) : Postfix.Program :=
  match yard.release (fun _ => true) with
  | (code, opening :: _) => { code, fault := some (.unbalancedParen opening.position) }
  | (code, []) => { code, fault := none }

/-- The program of the tokens that follow on a yard. -/
def run (yard : Yard) : List (Located Token) → Postfix.Program
  | [] => yard.drain
  | token :: rest =>
    match yard.step token with
    | (code, .ok yard') => (run yard' rest).after code
    | (code, .error fault) => (Postfix.Program.failed fault).after code

end Yard

end Calculator.Infix
