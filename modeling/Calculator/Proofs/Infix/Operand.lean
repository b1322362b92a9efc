/-
Operands in the yard.

Operators leave the yard late: `2 + 3` is only applied when the next token is read.  Still, tokens
that make up an operand act as a piece of code.  They do so wherever what waits in front of them
stays there and what follows sets off all that is still waiting.

* `HoldsBack` — yards that leave an operand of some strength in one piece;
* `Operand` — tokens that act as a program on all of these yards, in front of all tokens that
  complete them;
* `Operand.run_eq` — alone, they are read as that program;
* `Operand.node` — an operator makes an operand of two;
* `Operand.group`, `Operand.group_run` — parentheses make one of any tokens that leave nothing
  open, whether these are an operand themselves or not.
-/
import Calculator.Proofs.Infix.Yard

namespace Calculator.Infix.Yard

open Postfix (Program)

/-- Whether nothing in front of the yard can take an operand of the given strength apart. -/
def HoldsBack (strength : Nat) : Yard → Prop
  | ⟨_, .operator op⟩ :: _ => op.precedence < strength
  | _ => True

/-- An operator that binds more strongly than the one that waits in front just waits, too. -/
theorem HoldsBack.step_operator {op : Operator} {yard : Yard}
    (h : HoldsBack op.precedence yard) (position : Nat) :
    yard.step ⟨position, .operator op⟩ = ([], .ok (⟨position, .operator op⟩ :: yard)) := by
  rw [Yard.step_operator]
  rcases yard with _ | ⟨⟨at', _ | waiting⟩, behind⟩
  · rfl
  · rfl
  · have hwaiting : waiting.precedence < op.precedence := h
    rw [Yard.release_operator_of_neg (by simpa using hwaiting)]

theorem HoldsBack.mono {strength strength' : Nat} {yard : Yard} (h : HoldsBack strength yard)
    (hle : strength ≤ strength') : HoldsBack strength' yard := by
  rcases yard with _ | ⟨⟨at', _ | waiting⟩, behind⟩
  · trivial
  · trivial
  · exact Nat.lt_of_lt_of_le h hle

/-- Tokens that act as a program: on every yard that holds back what waits there, and in front of
all tokens that complete the operand, they make its code and leave the yard as it was. -/
structure Operand (strength : Nat) (tokens : List (Located Token)) (p : Program) : Prop where
  run_append {yard : Yard} {rest : List (Located Token)} :
    HoldsBack strength yard → Completes strength rest →
      yard.run (tokens ++ rest) = p.andThen (yard.run rest)

namespace Operand

/-- Alone, an operand is read as its program. -/
theorem run_eq {strength : Nat} {tokens : List (Located Token)} {p : Program}
    (h : Operand strength tokens p) : run [] tokens = p := by
  have hyard : HoldsBack strength [] := trivial
  have hrun := h.run_append hyard .nil
  rw [List.append_nil] at hrun
  exact hrun.trans p.andThen_empty

theorem number_of_some {digits : List Char} {v : Value}
    (h : Value.ofInt? (Text.natOfDigits digits) = some v) (strength position : Nat) :
    Operand strength [⟨position, .number digits⟩]
      { code := [⟨position, .number v⟩], fault := none } := by
  constructor
  intro yard rest _ _
  exact run_cons_of_ok (step_number_of_some h yard position) rest

theorem number_of_none {digits : List Char}
    (h : Value.ofInt? (Text.natOfDigits digits) = none) (strength position : Nat) :
    Operand strength [⟨position, .number digits⟩]
      (.failed (.literalTooLarge (String.ofList digits))) := by
  constructor
  intro yard rest _ _
  exact run_cons_of_error (step_number_of_none h yard position) rest

/-- An operator between two operands makes one of them, if it does not break them apart. -/
theorem node {op : Operator} {l r : Nat} {before behind : List (Located Token)}
    {first second : Program} (hbefore : Operand l before first)
    (hbehind : Operand r behind second) (hl : op.precedence ≤ l) (hr : op.precedence < r)
    (position : Nat) :
    Operand op.precedence (before ++ ⟨position, .operator op⟩ :: behind)
      (first.andThen (second.andThen { code := [⟨position, .operator op⟩], fault := none })) := by
  constructor
  intro yard rest hyard hrest
  -- the operator completes the left operand, and waits in front of the right one
  have hbreak : Completes l (⟨position, .operator op⟩ :: (behind ++ rest)) := .operator hl
  have hwait : HoldsBack r (⟨position, .operator op⟩ :: yard) := hr
  rw [List.append_assoc, List.cons_append, hbefore.run_append (hyard.mono hl) hbreak,
    run_cons_of_ok (hyard.step_operator position),
    hbehind.run_append hwait (hrest.mono (Nat.le_of_lt hr)), run_operator hrest position yard,
    Program.andThen_assoc, Program.andThen_assoc]
  rfl

/-- An operand in parentheses cannot be broken apart, so it has any strength. -/
theorem group {strength : Nat} {tokens : List (Located Token)} {p : Program}
    (h : Operand strength tokens p) (strength' start stop : Nat) :
    Operand strength' (⟨start, .opening⟩ :: tokens ++ [⟨stop, .closing⟩]) p := by
  constructor
  intro yard rest _ _
  -- the parenthesis holds back all that waits, and its partner completes what is inside
  have hwait : HoldsBack strength (⟨start, .opening⟩ :: yard) := trivial
  have hbreak : Completes strength (⟨stop, .closing⟩ :: rest) := .closing
  rw [List.append_assoc, List.cons_append, run_cons_of_ok (step_opening yard start),
    List.singleton_append, h.run_append hwait hbreak,
    run_cons_of_ok (step_closing_of_cons (release_opening _ _ _) stop)]
  rfl

/-- Any tokens that leave nothing open are an operand if they stand in parentheses. -/
theorem group_run {tokens : List (Located Token)} (h : (run [] tokens).fault = none)
    (strength start stop : Nat) :
    Operand strength (⟨start, .opening⟩ :: tokens ++ [⟨stop, .closing⟩]) (run [] tokens) := by
  constructor
  intro yard rest _ _
  have hclosing := run_closing h start stop yard rest
  rw [List.nil_append] at hclosing
  rw [List.append_assoc, List.cons_append, run_cons_of_ok (step_opening yard start),
    List.singleton_append, hclosing, Program.andThen, h]
  rfl

end Operand

end Calculator.Infix.Yard
