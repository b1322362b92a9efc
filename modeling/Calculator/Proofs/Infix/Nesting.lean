/-
Parentheses, seen in the tokens.

The check of the parentheses walks over the characters of a text.  It can as well walk over
the tokens: a parenthesis is a token of its own wherever it stands.

* `unclosed_eq_unclosedTokens` — the two walks find the same open parentheses;
* `checkTokens_eq_ok_iff` — a text passes the check if no parenthesis of its tokens stays open;
* `unclosedTokens_append` — the walk goes on from the parentheses that are open so far;
* `unclosedTokens_frame` — tokens whose parentheses are balanced keep what is open in front of
  them.
-/
import Calculator.Parentheses
import Calculator.Proofs.Infix.Lexing

namespace Calculator.Infix

/-- The positions of the parentheses that are open behind some tokens, the innermost one
first, if `openings` are open in front of them. -/
def unclosedTokens (openings : List Nat) : List (Located Token) → Except Fault (List Nat)
  | [] => .ok openings
  | ⟨position, .opening⟩ :: rest => unclosedTokens (position :: openings) rest
  | ⟨position, .closing⟩ :: rest =>
    match openings with
    | [] => .error (.unopenedParen position)
    | _ :: outer => unclosedTokens outer rest
  | _ :: rest => unclosedTokens openings rest

/-! ### Characters and tokens -/

theorem unclosedTokens_number (position : Nat) (digits : List Char) (openings : List Nat)
    (rest : List (Located Token)) :
    unclosedTokens openings (⟨position, .number digits⟩ :: rest) =
      unclosedTokens openings rest := rfl

theorem unclosedTokens_ofChar_of_ne {c : Char} (h : c ≠ '(' ∧ c ≠ ')') (position : Nat)
    (openings : List Nat) (rest : List (Located Token)) :
    unclosedTokens openings (⟨position, Token.ofChar c⟩ :: rest) =
      unclosedTokens openings rest := by
  fun_cases Token.ofChar c with
  | case1 => exact absurd rfl h.1
  | case2 => exact absurd rfl h.2
  | case3 => rfl
  | case4 => rfl

/-- **A parenthesis of a text is a parenthesis among its tokens**: both walks find the same
open parentheses. -/
theorem unclosed_eq_unclosedTokens (position : Nat) (openings : List Nat) (text : List Char) :
    Parentheses.unclosed position openings text =
      unclosedTokens openings (tokensFrom position text) := by
  fun_induction tokensFrom position text generalizing openings with
  | case1 => rfl
  | case2 position c text hblank ih =>
    rw [Parentheses.unclosed_cons_of_ne (Text.ne_parenthesis (.inr hblank)), ih]
  | case3 position c text _ hdigit ih =>
    -- the tokens move over all digits at once, and none of them is a parenthesis
    have hdigits : ∀ d ∈ text.takeWhile Char.isDigit, d ≠ '(' ∧ d ≠ ')' := by
      intro d hd
      exact Text.ne_parenthesis (.inl (List.all_eq_true.mp List.all_takeWhile d hd))
    have hskip := Scanner.skip_append (fun d hd => Parentheses.unclosed_cons_of_ne hd openings)
      hdigits (position + 1) (text.dropWhile Char.isDigit)
    rw [List.takeWhile_append_dropWhile, Nat.add_right_comm] at hskip
    rw [Parentheses.unclosed_cons_of_ne (Text.ne_parenthesis (.inl hdigit)),
      unclosedTokens_number, ← ih, hskip]
  | case4 position c text _ _ ih =>
    by_cases hopening : c = '('
    · subst hopening
      exact ih (position :: openings)
    · by_cases hclosing : c = ')'
      · subst hclosing
        cases openings with
        | nil => rfl
        | cons innermost outer => exact ih outer
      · rw [Parentheses.unclosed_cons_of_ne ⟨hopening, hclosing⟩, ih,
          unclosedTokens_ofChar_of_ne ⟨hopening, hclosing⟩]

/-- Fails unless the parentheses among the tokens are balanced. -/
def checkTokens (tokens : List (Located Token)) : Except Fault Unit :=
  Parentheses.verdict (unclosedTokens [] tokens)

theorem check_eq_checkTokens (text : List Char) :
    Parentheses.check text = checkTokens (tokensFrom 0 text) := by
  rw [Parentheses.check, unclosed_eq_unclosedTokens, checkTokens]

theorem checkTokens_eq_ok_iff (tokens : List (Located Token)) :
    checkTokens tokens = .ok () ↔ unclosedTokens [] tokens = .ok [] :=
  Parentheses.verdict_eq_ok_iff

/-! ### Groups -/

theorem unclosedTokens_append (openings : List Nat) (first second : List (Located Token)) :
    unclosedTokens openings (first ++ second) =
      (unclosedTokens openings first).bind fun openings' => unclosedTokens openings' second := by
  induction first generalizing openings with
  | nil => rfl
  | cons token first ih =>
    obtain ⟨position, digits | op | _ | _ | c⟩ := token
    · exact ih openings
    · exact ih openings
    · exact ih (position :: openings)
    · cases openings with
      | nil => rfl
      | cons innermost outer => exact ih outer
    · exact ih openings

/-- Tokens that leave some parentheses open, read where others are open already, leave these
open, too. -/
theorem unclosedTokens_frame {tokens : List (Located Token)} {inner inner' : List Nat}
    (h : unclosedTokens inner tokens = .ok inner') (outer : List Nat) :
    unclosedTokens (inner ++ outer) tokens = .ok (inner' ++ outer) := by
  induction tokens generalizing inner with
  | nil =>
    obtain rfl := Except.ok.inj h
    rfl
  | cons token tokens ih =>
    obtain ⟨position, digits | op | _ | _ | c⟩ := token
    · exact ih h
    · exact ih h
    · exact @ih (position :: inner) h
    · cases inner with
      | nil => exact absurd h (by simp [unclosedTokens])
      | cons innermost inner => exact ih h
    · exact ih h

/-- A balanced group changes nothing for what stands around it. -/
theorem unclosedTokens_group {tokens : List (Located Token)}
    (h : unclosedTokens [] tokens = .ok []) (openings : List Nat) (start stop : Nat)
    (rest : List (Located Token)) :
    unclosedTokens openings (⟨start, .opening⟩ :: (tokens ++ ⟨stop, .closing⟩ :: rest)) =
      unclosedTokens openings rest := by
  have hframe := unclosedTokens_frame h (start :: openings)
  rw [unclosedTokens, unclosedTokens_append]
  rw [List.nil_append] at hframe
  rw [hframe]
  rfl

end Calculator.Infix
