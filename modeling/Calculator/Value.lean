/-
The numbers of the calculator.

A `Value` is an integer between `-2⁶³` and `2⁶³ - 1`, and no operation wraps: a result is
computed in the integers, and `Value.ofInt?` has the only say on whether it is a value.

* `Value.ofInt?_eq_some_iff` — an integer becomes a value exactly if it is in range;
* `Value.ofInt?_toInt`, `Value.ofText?_text` — a value comes back from its integer, and from its
  decimal notation.
-/
import Calculator.Text.Decimal

namespace Calculator

abbrev Value.least : Int := -9223372036854775808

abbrev Value.greatest : Int := 9223372036854775807

/-- An integer in the range of the calculator. -/
@[ext] structure Value where
  toInt : Int
  least_le : Value.least ≤ toInt
  le_greatest : toInt ≤ Value.greatest
deriving DecidableEq

namespace Value

/-- An integer is in range if it lies between the least and the greatest value. -/
abbrev InRange (n : Int) : Prop := least ≤ n ∧ n ≤ greatest

/-- The value of an integer that is in range. -/
def ofInt? (n : Int) : Option Value :=
  if h : InRange n then some ⟨n, h.1, h.2⟩ else none

/-- The value of a numeral with an optional sign, if it has one and that is in range. -/
def ofText? (text : List Char) : Option Value :=
  (Text.readInteger? text).bind ofInt?

/-- The value in decimal notation. -/
def text (v : Value) : List Char := Text.writeInteger v.toInt

instance : ToString Value := ⟨fun v => String.ofList v.text⟩

/-- An integer becomes a value exactly if it is in range. -/
theorem ofInt?_eq_some_iff {n : Int} {v : Value} : ofInt? n = some v ↔ v.toInt = n := by
  unfold ofInt?
  split
  · simp [Value.ext_iff, eq_comm]
  · next h =>
    constructor
    · simp
    · rintro rfl
      exact absurd ⟨v.least_le, v.le_greatest⟩ h

theorem ofInt?_eq_none_iff {n : Int} : ofInt? n = none ↔ ¬InRange n := by
  unfold ofInt?
  split <;> simp_all

@[simp] theorem ofInt?_toInt (v : Value) : ofInt? v.toInt = some v :=
  ofInt?_eq_some_iff.2 rfl

/-- A text is a value exactly if it denotes the integer of the value. -/
theorem ofText?_eq_some_iff {text : List Char} {v : Value} :
    ofText? text = some v ↔ Text.readInteger? text = some v.toInt := by
  rw [ofText?, Option.bind_eq_some_iff]
  constructor
  · rintro ⟨n, hn, hv⟩
    rw [hn, ofInt?_eq_some_iff.mp hv]
  · intro h
    exact ⟨v.toInt, h, v.ofInt?_toInt⟩

theorem ofText?_eq_none_iff {text : List Char} {n : Int} (h : Text.readInteger? text = some n) :
    ofText? text = none ↔ ¬InRange n := by
  rw [ofText?, h, Option.bind_some, ofInt?_eq_none_iff]

/-- A value reads back from its decimal notation. -/
@[simp] theorem ofText?_text (v : Value) : ofText? v.text = some v :=
  ofText?_eq_some_iff.2 (Text.readInteger?_writeInteger v.toInt)

end Value

end Calculator
