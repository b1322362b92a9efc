/-
Decimal notation of integers.

* `isNumeral` — a text of ASCII digits, at least one;
* `natOfDigits`, `readInteger?` — the number that a text of digits, or of an optional sign and
  digits, denotes; it has any size, and leading zeros do not matter;
* `writeInteger` — the shortest digits of an integer, after a minus sign if it is negative;
* `readInteger?_writeInteger` — what is written reads back.
-/

namespace Calculator.Text

/-- A numeral is a non-empty text of the digits `0` to `9`. -/
def isNumeral (text : List Char) : Bool :=
  !text.isEmpty && text.all Char.isDigit

/-- The number that a text of digits denotes in base ten. -/
def natOfDigits (digits : List Char) : Nat :=
  Nat.ofDigitChars 10 digits 0

/-- The integer denoted by a numeral with at most one sign in front of it. -/
def readInteger? : List Char → Option Int
  | '-' :: digits => if isNumeral digits then some (-(natOfDigits digits : Int)) else none
  | '+' :: digits => if isNumeral digits then some (natOfDigits digits) else none
  | digits => if isNumeral digits then some (natOfDigits digits) else none

/-- The digits of an integer in base ten without leading zeros, after a minus sign if it is
negative. -/
def writeInteger : Int → List Char
  | .ofNat n => Nat.toDigits 10 n
  | .negSucc n => '-' :: Nat.toDigits 10 (n + 1)

theorem isNumeral_toDigits (n : Nat) : isNumeral (Nat.toDigits 10 n) = true := by
  have hne : Nat.toDigits 10 n ≠ [] := Nat.toDigits_ne_nil
  have hall : ∀ c ∈ Nat.toDigits 10 n, c.isDigit = true := fun c hc =>
    Nat.isDigit_of_mem_toDigits (by decide) (by decide) hc
  cases hd : Nat.toDigits 10 n with
  | nil => exact absurd hd hne
  | cons c cs => simpa [isNumeral, hd] using hall

theorem natOfDigits_toDigits (n : Nat) : natOfDigits (Nat.toDigits 10 n) = n := by
  simp [natOfDigits]

/-- An integer reads back from its decimal notation. -/
theorem readInteger?_writeInteger (n : Int) : readInteger? (writeInteger n) = some n := by
  cases n with
  | negSucc n =>
    simp [writeInteger, readInteger?, isNumeral_toDigits, natOfDigits_toDigits, Int.negSucc_eq]
  | ofNat n =>
    have hnum := isNumeral_toDigits n
    rw [writeInteger, readInteger?]
    · simp [hnum, natOfDigits_toDigits]
    · intro digits h
      simp [h, isNumeral, Char.isDigit] at hnum
    · intro digits h
      simp [h, isNumeral, Char.isDigit] at hnum

end Calculator.Text
