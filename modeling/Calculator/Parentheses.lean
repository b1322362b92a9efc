/-
Parentheses of a text, checked before anything else in it is read.

* `Parentheses.check` — every parenthesis has its partner.  A closing parenthesis with nothing
  open is to blame itself; of the parentheses that stay open the innermost one is to blame
  (`Parentheses.verdict`);
* `Parentheses.hasPair` — the text holds parentheses of both kinds.
-/
import Calculator.Fault

namespace Calculator.Parentheses

/-- The positions of the parentheses that are open at the end of the text, the innermost one
first.  The text starts at `position`, with `openings` open in front of it. -/
def unclosed (position : Nat) (openings : List Nat) : List Char → Except Fault (List Nat)
  | [] => .ok openings
  | '(' :: rest => unclosed (position + 1) (position :: openings) rest
  | ')' :: rest =>
    match openings with
    | [] => .error (.unopenedParen position)
    | _ :: outer => unclosed (position + 1) outer rest
  | _ :: rest => unclosed (position + 1) openings rest

/-- A character that is no parenthesis opens and closes nothing. -/
theorem unclosed_cons_of_ne {c : Char} (h : c ≠ '(' ∧ c ≠ ')') (openings : List Nat)
    (position : Nat) (text : List Char) :
    unclosed position openings (c :: text) = unclosed (position + 1) openings text := by
  rw [unclosed]
  · exact h.1
  · exact h.2

/-- What is said of the parentheses that are open at the end: there must not be any. -/
def verdict : Except Fault (List Nat) → Except Fault Unit
  | .ok [] => .ok ()
  | .ok (innermost :: _) => .error (.unclosedParen innermost)
  | .error fault => .error fault

theorem verdict_eq_ok_iff {openings : Except Fault (List Nat)} :
    verdict openings = .ok () ↔ openings = .ok [] := by
  rcases openings with fault | _ | ⟨innermost, outer⟩
  · simp [verdict]
  · simp [verdict]
  · simp [verdict]

/-- Fails unless the parentheses of the text are balanced. -/
def check (text : List Char) : Except Fault Unit := verdict (unclosed 0 [] text)

/-- Whether the text has an opening and a closing parenthesis, anywhere. -/
def hasPair (text : List Char) : Bool := text.contains '(' && text.contains ')'

end Calculator.Parentheses
