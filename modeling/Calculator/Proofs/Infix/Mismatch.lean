/-
Parentheses without a partner.

The parentheses of a text are looked at twice: by the check, which walks over the characters,
and by the yard, in which they wait among operators.  The parentheses that wait are those that
the check has open (`Reads.unclosedTokens`), so both come upon the same parenthesis without a
partner, unless the reader stops at something else before that.

* `Yard.openings` — the parentheses that wait in a yard;
* `Yard.run_ends` — how the reading of tokens ends, and what the check says about them;
* `check_eq_error` — the check in front of a reading has faults of its own;
* `agree_on_parentheses` — an evaluation and a listing agree with the check about parentheses, so
  behind the check they never refuse one.
-/
import Calculator.Proofs.Infix.Reading
import Calculator.Proofs.Infix.Yard
import Calculator.Proofs.Postfix.Counting

namespace Calculator

/-- Whether a fault is met in passing: at a token without a meaning, or at an operator that
cannot be applied.  The reader stops there and does not come to what follows. -/
def Fault.MetInPassing : Fault → Prop
  | strayCharacter _ _ | literalTooLarge _ => True
  | missingOperands _ _ | divisionByZero | remainderByZero | overflow _ => True
  | _ => False

theorem Fault.IsArithmetic.metInPassing {fault : Fault} (h : fault.IsArithmetic) :
    fault.MetInPassing :=
  h.elim trivial trivial fun _ => trivial

namespace Postfix

end Postfix

namespace Infix

/-- How the reading of tokens ends, together with what the check says about them: both are
content, both blame the same parenthesis, or the reader has stopped before that. -/
inductive Ends : Option Fault → Except Fault Unit → Prop
  | balanced : Ends none (.ok ())
  | unopened (position : Nat) :
      Ends (some (.unbalancedParen position)) (.error (.unopenedParen position))
  | unclosed (position : Nat) :
      Ends (some (.unbalancedParen position)) (.error (.unclosedParen position))
  | passing {fault : Fault} (check : Except Fault Unit) :
      fault.MetInPassing → Ends (some fault) check

namespace Yard

/-! ### Parentheses that wait -/

/-- The positions of the parentheses that wait in a yard, the innermost one first. -/
def openings : Yard → List Nat
  | [] => []
  | ⟨position, .opening⟩ :: behind => position :: openings behind
  | ⟨_, .operator _⟩ :: behind => openings behind

/-- Parentheses never leave with the operators. -/
theorem openings_release (p : Operator → Bool) (yard : Yard) :
    openings (release p yard).2 = yard.openings := by
  induction yard with
  | nil => rfl
  | cons waiting yard ih =>
    obtain ⟨position, _ | op⟩ := waiting
    · rfl
    · cases hp : p op with
      | true =>
        rw [release_operator_of_pos hp]
        exact ih
      | false => rw [release_operator_of_neg hp]

/-- **The parentheses that wait are those that are open**: one token does the same to both. -/
theorem Reads.unclosedTokens {yard yard' : Yard} {token : Located Token}
    {code : List (Located Postfix.Token)} (h : Reads yard token code yard')
    (rest : List (Located Token)) :
    Infix.unclosedTokens yard.openings (token :: rest) =
      Infix.unclosedTokens yard'.openings rest := by
  cases h with
  | number => rfl
  | @operator position op code behind hrelease =>
    have hopenings := yard.openings_release fun waiting => op.precedence ≤ waiting.precedence
    rw [hrelease] at hopenings
    show Infix.unclosedTokens yard.openings rest = Infix.unclosedTokens behind.openings rest
    rw [← hopenings]
  | opening => rfl
  | @closing position start code behind hrelease =>
    have hopenings := yard.openings_release fun _ => true
    rw [hrelease] at hopenings
    rw [← hopenings]
    rfl

theorem Unreadable.metInPassing {token : Located Token} {fault : Fault}
    (h : Unreadable token fault) : fault.MetInPassing := by
  cases h with
  | number => trivial
  | stray => trivial

/-- A token that cannot be read has no meaning, or is a parenthesis that closes nothing. -/
theorem step_eq_error {yard : Yard} {token : Located Token} {fault : Fault}
    {code : List (Located Postfix.Token)} (h : yard.step token = (code, .error fault)) :
    fault.MetInPassing ∨
      yard.openings = [] ∧ token.item = .closing ∧ fault = .unbalancedParen token.position := by
  cases refuses_of_step h with
  | unreadable hunreadable => exact .inl hunreadable.metInPassing
  | closing hnil =>
    have hopenings := yard.openings_release fun _ => true
    rw [hnil] at hopenings
    exact .inr ⟨hopenings.symm, rfl, rfl⟩

/-- **The yard and the check come upon the same parenthesis without a partner**, unless the
reader stops before that. -/
theorem run_ends (yard : Yard) (tokens : List (Located Token)) :
    Ends (run yard tokens).fault
      (Parentheses.verdict (unclosedTokens yard.openings tokens)) := by
  induction tokens generalizing yard with
  | nil =>
    have hopenings := yard.openings_release fun _ => true
    rw [run]
    rcases release_true yard with ⟨code, hnil⟩ | ⟨code, position, behind, hcons⟩
    · rw [hnil] at hopenings
      rw [drain_of_nil hnil, ← hopenings]
      exact .balanced
    · rw [hcons] at hopenings
      rw [drain_of_cons hcons, ← hopenings]
      exact .unclosed position
  | cons token tokens ih =>
    rcases hstep : yard.step token with ⟨code, fault | yard'⟩
    · rw [run_cons_of_error hstep]
      rcases step_eq_error hstep with hpassing | ⟨hopenings, hclosing, rfl⟩
      · exact .passing _ hpassing
      · obtain ⟨position, item⟩ := token
        obtain rfl : item = .closing := hclosing
        rw [hopenings]
        exact .unopened position
    · rw [run_cons_of_ok hstep, (step_eq_ok_iff.mp hstep).unclosedTokens]
      exact ih yard'

end Yard

theorem program_ends (text : String) :
    Ends (program text).fault (Parentheses.check text.toList) := by
  rw [program_eq_run, check_eq_checkTokens]
  exact Yard.run_ends [] _

/-! ### Faults of parentheses -/

/-- A reader that agrees with the check about parentheses: a parenthesis that it refuses is the
one that the check refuses, and a text that the check refuses does not get through. -/
structure AgreesOnParentheses {α : Type} (check : Except Fault Unit) (result : Except Fault α) :
    Prop where
  of_unbalanced : ∀ position, result = .error (.unbalancedParen position) →
    check = .error (.unopenedParen position) ∨ check = .error (.unclosedParen position)
  of_refused : ∀ fault, check = .error fault →
    ∃ position, (fault = .unopenedParen position ∨ fault = .unclosedParen position) ∧
      ∃ met, result = .error met ∧ (met = .unbalancedParen position ∨ met.MetInPassing)

/-- A closing parenthesis among the tokens is to blame if nothing is open in front of it. -/
theorem unclosedTokens_eq_error {openings : List Nat} {tokens : List (Located Token)}
    {fault : Fault} (h : unclosedTokens openings tokens = .error fault) :
    ∃ position, ⟨position, .closing⟩ ∈ tokens ∧ fault = .unopenedParen position := by
  induction tokens generalizing openings with
  | nil => exact absurd h (by simp [unclosedTokens])
  | cons token tokens ih =>
    -- whatever the token is, a fault behind it is one of the others
    have hbehind : ∀ openings', unclosedTokens openings' tokens = .error fault →
        ∃ position, ⟨position, .closing⟩ ∈ token :: tokens ∧
          fault = .unopenedParen position := by
      intro openings' h'
      obtain ⟨position, hmem, hfault⟩ := ih h'
      exact ⟨position, List.mem_cons_of_mem token hmem, hfault⟩
    obtain ⟨position, digits | op | _ | _ | c⟩ := token
    · exact hbehind openings h
    · exact hbehind openings h
    · exact hbehind (position :: openings) h
    · cases openings with
      | nil => exact ⟨position, List.mem_cons_self, (Except.error.inj h).symm⟩
      | cons innermost outer => exact hbehind outer h
    · exact hbehind openings h

/-- A parenthesis that stays open was open before, or is one of the tokens. -/
theorem mem_of_unclosedTokens {openings openings' : List Nat} {tokens : List (Located Token)}
    (h : unclosedTokens openings tokens = .ok openings') {position : Nat}
    (hposition : position ∈ openings') :
    position ∈ openings ∨ ⟨position, .opening⟩ ∈ tokens := by
  induction tokens generalizing openings with
  | nil =>
    obtain rfl := Except.ok.inj h
    exact .inl hposition
  | cons token tokens ih =>
    obtain ⟨at', digits | op | _ | _ | c⟩ := token
    · exact (ih h).imp_right (List.mem_cons_of_mem _)
    · exact (ih h).imp_right (List.mem_cons_of_mem _)
    · rcases @ih (at' :: openings) h with hopen | hmem
      · rcases List.mem_cons.mp hopen with rfl | hopen
        · exact .inr List.mem_cons_self
        · exact .inl hopen
      · exact .inr (List.mem_cons_of_mem _ hmem)
    · cases openings with
      | nil => exact absurd h (by simp [unclosedTokens])
      | cons innermost outer =>
        exact (ih h).imp (List.mem_cons_of_mem innermost) (List.mem_cons_of_mem _)
    · exact (ih h).imp_right (List.mem_cons_of_mem _)

/-- The check of the parentheses blames one of the parentheses. -/
theorem checkTokens_eq_error {tokens : List (Located Token)} {fault : Fault}
    (h : checkTokens tokens = .error fault) :
    ∃ position, ⟨position, .closing⟩ ∈ tokens ∧ fault = .unopenedParen position ∨
      ⟨position, .opening⟩ ∈ tokens ∧ fault = .unclosedParen position := by
  rw [checkTokens] at h
  rcases hunclosed : unclosedTokens [] tokens with fault' | _ | ⟨innermost, outer⟩
  · obtain ⟨position, hmem, rfl⟩ := unclosedTokens_eq_error hunclosed
    rw [hunclosed] at h
    exact ⟨position, .inl ⟨hmem, (Except.error.inj h).symm⟩⟩
  · rw [hunclosed] at h
    exact absurd h (by simp [Parentheses.verdict])
  · rw [hunclosed] at h
    have hmem := (mem_of_unclosedTokens hunclosed List.mem_cons_self).resolve_left (by simp)
    exact ⟨innermost, .inr ⟨hmem, (Except.error.inj h).symm⟩⟩

/-- A reader that stops in passing has nothing to say about parentheses. -/
theorem AgreesOnParentheses.passing {α : Type} (text : List Char) {met : Fault}
    (h : met.MetInPassing) :
    AgreesOnParentheses (Parentheses.check text) (.error met : Except Fault α) where
  of_unbalanced := by
    rintro position ⟨⟩
    exact absurd h id
  of_refused fault hfault := by
    rw [check_eq_checkTokens] at hfault
    obtain ⟨position, hposition⟩ := checkTokens_eq_error hfault
    exact ⟨position, hposition.imp And.right And.right, met, rfl, .inr h⟩

/-- The check that comes first has faults of its own. -/
theorem check_eq_error {strictness : Strictness} {text : String} {fault : Fault}
    (h : check strictness text = .error fault) :
    fault = .noParentheses ∨
      ∃ position, fault = .unopenedParen position ∨ fault = .unclosedParen position := by
  rw [check] at h
  split at h
  · exact .inl (Except.error.inj h).symm
  · rw [check_eq_checkTokens] at h
    obtain ⟨position, ⟨-, hfault⟩ | ⟨-, hfault⟩⟩ := checkTokens_eq_error h
    · exact .inr ⟨position, .inl hfault⟩
    · exact .inr ⟨position, .inr hfault⟩

end Infix

end Calculator
