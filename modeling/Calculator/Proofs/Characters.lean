/-
Classes of characters.

Digits, blanks, parentheses and the symbols of operators have no character in common; every
lexer and every reader of this library depends on it.
-/
import Calculator.Operator.Basic
import Calculator.Text.Blank
import Calculator.Text.Decimal

namespace Calculator

theorem Text.isBlank_of_isDigit {c : Char} (h : c.isDigit = true) : isBlank c = false := by
  have hrange : 48 ≤ c.toNat ∧ c.toNat ≤ 57 := Char.isDigit_iff_toNat.mp h
  simp only [isBlank, Ranges.has, blankRanges, List.any_cons, List.any_nil,
    Bool.or_eq_false_iff, Bool.and_eq_false_iff, decide_eq_false_iff_not, and_true]
  omega

theorem Text.isDigit_of_isBlank {c : Char} (h : isBlank c = true) : c.isDigit = false := by
  cases hdigit : c.isDigit with
  | false => rfl
  | true =>
    rw [isBlank_of_isDigit hdigit] at h
    exact absurd h (by decide)

/-- No parenthesis is a digit or a blank. -/
theorem Text.ne_parenthesis {c : Char} (h : c.isDigit = true ∨ isBlank c = true) :
    c ≠ '(' ∧ c ≠ ')' := by
  constructor
  · rintro rfl
    exact absurd h (by decide)
  · rintro rfl
    exact absurd h (by decide)

theorem Text.isNumeral_iff {text : List Char} :
    isNumeral text = true ↔ text ≠ [] ∧ ∀ c ∈ text, c.isDigit = true := by
  rw [isNumeral, Bool.and_eq_true, Bool.not_eq_true', List.all_eq_true,
    List.isEmpty_eq_false_iff]

namespace Operator

theorem isDigit_symbol (op : Operator) : op.symbol.isDigit = false := by
  cases op <;> decide

theorem isBlank_symbol (op : Operator) : Text.isBlank op.symbol = false := by
  cases op <;> decide

theorem ofChar?_of_isDigit {c : Char} (h : c.isDigit = true) : ofChar? c = none := by
  cases hop : ofChar? c with
  | none => rfl
  | some op =>
    rw [ofChar?_eq_some_iff.mp hop, isDigit_symbol] at h
    exact absurd h (by decide)

end Operator

end Calculator
