/-
Texts put together from groups.

A group is a text in parentheses that has a value on its own.  Groups with operators between them
make texts that come to what the operators make of these values, whatever stands in the groups:
the strength of the operators decides what belongs together, as it does between numerals.

* `AmountsTo` — texts that are an operand of some strength wherever they stand, with its result;
* `AmountsTo.group`, `AmountsTo.node` — groups are such texts, and operators make one of two;
* `AmountsTo.outcome_evaluate` — alone, such a text has the result as its outcome;
* `outcome_evaluate_recombination` — a quotient times its divisor and the remainder of the same
  groups make up the dividend again.

Design notes.  What stands in a group need not be an expression: `1 2 +` has a value, too.  So a
group is an operand by what its tokens leave behind, and not by the grammar.
-/
import Calculator.Proofs.Arithmetic
import Calculator.Proofs.Infix.Operand
import Calculator.Proofs.Infix.Substitution

namespace Calculator.Infix

open Postfix (Program)

/-- A text in parentheses. -/
def grouped (e : String) : String := "(" ++ e ++ ")"

theorem toList_grouped (e : String) : (grouped e).toList = '(' :: e.toList ++ [')'] := by
  simp [grouped]

/-- A text that is an operand wherever it stands: its parentheses are balanced, and its tokens act
as a program that gives the result. -/
structure AmountsTo (strength : Nat) (text : List Char) (result : Except Fault Value) : Prop where
  unclosedTokens_append (position : Nat) (openings : List Nat) (rest : List (Located Token)) :
    unclosedTokens openings (tokensFrom position text ++ rest) = unclosedTokens openings rest
  exists_operand (position : Nat) :
    ∃ p, Yard.Operand strength (tokensFrom position text) p ∧ p.Gives result

namespace AmountsTo

/-- A group amounts to the value of the text inside. -/
theorem group {e : String} {v : Value} (h : (evaluate .lenient e).outcome = .ok v)
    (strength : Nat) : AmountsTo strength (grouped e).toList (.ok v) := by
  rw [toList_grouped]
  have htokens : ∀ position, tokensFrom position ('(' :: e.toList ++ [')']) =
      ⟨position, .opening⟩ :: tokensFrom (position + 1) e.toList ++
        [⟨position + 1 + e.toList.length, .closing⟩] := by
    intro position
    have hopening := @tokensFrom_symbol '(' (by decide) (by decide)
    have hclosing := @tokensFrom_symbol ')' (by decide) (by decide)
    rw [List.cons_append, hopening, tokensFrom_append (by decide), hclosing, tokensFrom_nil]
    rfl
  constructor
  · intro position openings rest
    obtain ⟨hunclosed, -, -⟩ := tokensFrom_of_outcome_eq_ok h (position + 1)
    rw [htokens, List.append_assoc, List.cons_append]
    exact unclosedTokens_group hunclosed openings _ _ rest
  · intro position
    obtain ⟨-, hfault, heffect⟩ := tokensFrom_of_outcome_eq_ok h (position + 1)
    rw [htokens]
    refine ⟨_, .group_run hfault strength _ _, ?_⟩
    intro operands
    exact Program.effect_eq_ok_iff.mpr ⟨hfault, heffect operands⟩

/-- An operator between two operands amounts to its result, if it does not break them apart. -/
theorem node (op : Operator) {l r : Nat} {before behind : List Char} {x y : Except Fault Value}
    (hbefore : AmountsTo l before x) (hbehind : AmountsTo r behind y) (hl : op.precedence ≤ l)
    (hr : op.precedence < r) :
    AmountsTo op.precedence (before ++ op.symbol :: behind)
      (x.bind fun left => y.bind fun right => op.apply left right) := by
  have htokens : ∀ position, tokensFrom position (before ++ op.symbol :: behind) =
      tokensFrom position before ++ ⟨position + before.length, .operator op⟩ ::
        tokensFrom (position + before.length + 1) behind := by
    intro position
    rw [tokensFrom_append op.isDigit_symbol, tokensFrom_symbol op.isBlank_symbol op.isDigit_symbol,
      Token.ofChar_symbol]
  constructor
  · intro position openings rest
    rw [htokens, List.append_assoc, hbefore.unclosedTokens_append]
    exact hbehind.unclosedTokens_append _ openings rest
  · intro position
    obtain ⟨first, hfirst, hx⟩ := hbefore.exists_operand position
    obtain ⟨second, hsecond, hy⟩ := hbehind.exists_operand (position + before.length + 1)
    rw [htokens]
    exact ⟨_, hfirst.node hsecond hl hr _, hx.node hy op _⟩

/-- Alone, a text has the outcome that it amounts to. -/
theorem outcome_evaluate {strength : Nat} {text : String} {result : Except Fault Value}
    (h : AmountsTo strength text.toList result) :
    (evaluate .lenient text).outcome = result := by
  have hunclosed := h.unclosedTokens_append 0 [] []
  rw [List.append_nil] at hunclosed
  have hcheck : check .lenient text = .ok () := by
    rw [check_lenient]
    exact (checkTokens_eq_ok_iff _).mpr hunclosed
  obtain ⟨p, hoperand, hgives⟩ := h.exists_operand 0
  rw [evaluate, hcheck]
  show (program text).evaluate.outcome = result
  rw [program_eq_run, hoperand.run_eq]
  exact hgives.outcome_evaluate

end AmountsTo

/-! ### Division with remainder -/

/-- The remainder of two texts. -/
def remainder (e₁ e₂ : String) : String := grouped e₁ ++ "%" ++ grouped e₂

/-- The quotient of two texts times the second one, and their remainder added to it. -/
def recombination (e₁ e₂ : String) : String :=
  grouped e₁ ++ "/" ++ grouped e₂ ++ "*" ++ grouped e₂ ++ "+" ++ remainder e₁ e₂

example : recombination "7" "2" = "(7)/(2)*(2)+(7)%(2)" := by decide

theorem toList_remainder (e₁ e₂ : String) :
    (remainder e₁ e₂).toList =
      (grouped e₁).toList ++ Operator.rem.symbol :: (grouped e₂).toList := by
  simp [remainder, Operator.symbol]

/-- The text as its operators split it: the sum first, then the product and the quotient. -/
theorem toList_recombination (e₁ e₂ : String) :
    (recombination e₁ e₂).toList =
      (((grouped e₁).toList ++ Operator.div.symbol :: (grouped e₂).toList) ++
          Operator.mul.symbol :: (grouped e₂).toList) ++
        Operator.add.symbol :: (remainder e₁ e₂).toList := by
  simp [recombination, Operator.symbol]

section

variable {e₁ e₂ : String} {a b : Value} (h₁ : (evaluate .lenient e₁).outcome = .ok a)
  (h₂ : (evaluate .lenient e₂).outcome = .ok b)

include h₁ h₂

theorem amountsTo_remainder :
    AmountsTo Operator.rem.precedence (remainder e₁ e₂).toList (Operator.rem.apply a b) := by
  have hdividend := AmountsTo.group h₁ 3
  have hdivisor := AmountsTo.group h₂ 3
  rw [toList_remainder]
  exact hdividend.node .rem hdivisor (by decide) (by decide)

/-- The text comes to what the four operators make of the two values, one after the other. -/
theorem amountsTo_recombination :
    AmountsTo Operator.add.precedence (recombination e₁ e₂).toList
      ((Operator.div.apply a b).bind fun quotient => (Operator.mul.apply quotient b).bind
        fun product => (Operator.rem.apply a b).bind fun r => Operator.add.apply product r) := by
  have hdividend := AmountsTo.group h₁ 3
  have hdivisor := AmountsTo.group h₂ 3
  have hquotient := hdividend.node .div hdivisor (by decide) (by decide)
  have hproduct := hquotient.node .mul hdivisor (by decide) (by decide)
  have hsum := hproduct.node .add (amountsTo_remainder h₁ h₂) (by decide) (by decide)
  rw [toList_recombination]
  -- the sum goes on from the product as a whole, which has a result only if the quotient has one
  cases hdiv : Operator.div.apply a b with
  | error fault => simpa [Except.bind, hdiv] using hsum
  | ok quotient => simpa [Except.bind, hdiv] using hsum

end

/-- **Quotient and remainder of two texts make up the first one again**, if there is a quotient:
it is missing for a divisor of zero, and for the least value by `-1`.  The remainder is smaller
than the divisor and has the sign of the dividend. -/
theorem outcome_evaluate_recombination {e₁ e₂ : String} {a b : Value}
    (h₁ : (evaluate .lenient e₁).outcome = .ok a) (h₂ : (evaluate .lenient e₂).outcome = .ok b) :
    (evaluate .lenient (recombination e₁ e₂)).outcome =
        (if b.toInt = 0 then .error .divisionByZero
        else if a.toInt = Value.least ∧ b.toInt = -1 then .error (.overflow .div)
        else .ok a) ∧
      (∀ v, (evaluate .lenient (recombination e₁ e₂)).outcome = .ok v →
        ∃ r, (evaluate .lenient (remainder e₁ e₂)).outcome = .ok r) ∧
      ∀ r, (evaluate .lenient (remainder e₁ e₂)).outcome = .ok r →
        r.toInt.natAbs < b.toInt.natAbs ∧ (r.toInt = 0 ∨ r.toInt.sign = a.toInt.sign) := by
  have hlaw := (amountsTo_recombination h₁ h₂).outcome_evaluate
  rw [Operator.apply_quotient_mul_add_rem] at hlaw
  have hremainder := (amountsTo_remainder h₁ h₂).outcome_evaluate
  refine ⟨hlaw, ?_, ?_⟩
  · intro v hv
    rw [hlaw] at hv
    have hzero : b.toInt ≠ 0 := by
      intro hzero
      rw [if_pos hzero] at hv
      cases hv
    have hleast : ¬(a.toInt = Value.least ∧ b.toInt = -1) := by
      intro hleast
      rw [if_neg hzero, if_pos hleast] at hv
      cases hv
    exact ⟨_, hremainder.trans (Operator.apply_rem_eq_ok hzero hleast)⟩
  · intro r hr
    exact Operator.bounds_of_apply_rem (hremainder.symm.trans hr)

/-- The least value is made up again from its quotient by `2-5`. -/
theorem outcome_evaluate_recombination_least :
    (evaluate .lenient (recombination "0-9223372036854775807-1" "2-5")).outcome =
        .ok ⟨Value.least, by decide, by decide⟩ ∧
      ∃ r, (evaluate .lenient (remainder "0-9223372036854775807-1" "2-5")).outcome = .ok r ∧
        r.toInt.natAbs < 3 ∧ (r.toInt = 0 ∨ r.toInt.sign = -1) := by
  have hleast : (evaluate .lenient "0-9223372036854775807-1").outcome =
      .ok ⟨Value.least, by decide, by decide⟩ := by
    have hprogram : program "0-9223372036854775807-1" =
        { code := [⟨0, .number ⟨0, by decide, by decide⟩⟩,
            ⟨2, .number ⟨9223372036854775807, by decide, by decide⟩⟩, ⟨1, .operator .sub⟩,
            ⟨22, .number ⟨1, by decide, by decide⟩⟩, ⟨21, .operator .sub⟩],
          fault := none } := by decide +kernel
    rw [evaluate, hprogram]
    rfl
  have hthree : (evaluate .lenient "2-5").outcome = .ok ⟨-3, by decide, by decide⟩ := by
    have hprogram : program "2-5" =
        { code := [⟨0, .number ⟨2, by decide, by decide⟩⟩,
            ⟨2, .number ⟨5, by decide, by decide⟩⟩, ⟨1, .operator .sub⟩],
          fault := none } := by decide +kernel
    rw [evaluate, hprogram]
    rfl
  obtain ⟨hlaw, hexists, hbounds⟩ := outcome_evaluate_recombination hleast hthree
  rw [if_neg (by decide), if_neg (by decide)] at hlaw
  obtain ⟨r, hr⟩ := hexists _ hlaw
  exact ⟨hlaw, r, hr, hbounds r hr⟩

end Calculator.Infix
