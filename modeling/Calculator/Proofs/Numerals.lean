/-
Numerals and the numbers that they denote.

* `Text.toDigits_natOfDigits` — a numeral without leading zeros is the decimal notation of its
  number;
* `Text.natOfDigits_eq_iff` — so two numerals denote the same number exactly if they are equal
  up to leading zeros;
* `Text.readInteger?_eq_some_iff` — the texts that denote an integer are the numerals with at
  most one sign in front.
-/
import Calculator.Proofs.Characters

namespace Calculator.Text

/-! ### Leading zeros -/

/-- The digits of a numeral behind its leading zeros. -/
def significant (digits : List Char) : List Char := digits.dropWhile (· = '0')

theorem head?_significant (digits : List Char) : (significant digits).head? ≠ some '0' := by
  intro h
  have hnot := List.head?_dropWhile_not (· = '0') digits
  rw [← significant, h] at hnot
  exact absurd hnot (by decide)

theorem natOfDigits_significant (digits : List Char) :
    natOfDigits (significant digits) = natOfDigits digits := by
  induction digits with
  | nil => rfl
  | cons c digits ih =>
    by_cases hc : c = '0'
    · -- a zero in front leaves the sum of the digits so far at zero
      rw [significant, List.dropWhile_cons_of_pos (by simpa using hc), ← significant, ih, hc]
      rfl
    · rw [significant, List.dropWhile_cons_of_neg (by simpa using hc)]

theorem digit_lt_ten {c : Char} (h : c.isDigit = true) : c.toNat - '0'.toNat < 10 := by
  have hrange : 48 ≤ c.toNat ∧ c.toNat ≤ 57 := Char.isDigit_iff_toNat.mp h
  show c.toNat - 48 < 10
  omega

theorem toDigits_of_isDigit {c : Char} (h : c.isDigit = true) :
    Nat.toDigits 10 (c.toNat - '0'.toNat) = [c] := by
  have hrange : 48 ≤ c.toNat ∧ c.toNat ≤ 57 := Char.isDigit_iff_toNat.mp h
  have hchar : (c.toNat - '0'.toNat).digitChar = c := by
    rw [← Char.toNat_inj, Nat.toNat_digitChar_of_lt_ten (digit_lt_ten h)]
    show 48 + (c.toNat - 48) = c.toNat
    omega
  rw [Nat.toDigits_of_lt_base (digit_lt_ten h), hchar]

/-- Reading on from a number that is not zero appends digits to its decimal notation. -/
theorem toDigits_ofDigitChars {digits : List Char} (h : ∀ c ∈ digits, c.isDigit = true) {n : Nat}
    (hn : 0 < n) :
    Nat.toDigits 10 (Nat.ofDigitChars 10 digits n) = Nat.toDigits 10 n ++ digits := by
  induction digits generalizing n with
  | nil => rw [Nat.ofDigitChars_nil, List.append_nil]
  | cons c digits ih =>
    obtain ⟨hc, hdigits⟩ := List.forall_mem_cons.mp h
    have hnext : 0 < 10 * n + (c.toNat - '0'.toNat) := by omega
    rw [Nat.ofDigitChars_cons, ih hdigits hnext,
      ← Nat.toDigits_append_toDigits (by decide) hn (digit_lt_ten hc), toDigits_of_isDigit hc,
      List.append_assoc, List.singleton_append]

/-- **A numeral without leading zeros is the decimal notation of its number.** -/
theorem toDigits_natOfDigits {digits : List Char} (h : isNumeral digits = true)
    (hhead : digits.head? ≠ some '0') : Nat.toDigits 10 (natOfDigits digits) = digits := by
  obtain ⟨hne, hdigits⟩ := isNumeral_iff.mp h
  cases digits with
  | nil => exact absurd rfl hne
  | cons c digits =>
    obtain ⟨hc, hrest⟩ := List.forall_mem_cons.mp hdigits
    have hrange : 48 ≤ c.toNat ∧ c.toNat ≤ 57 := Char.isDigit_iff_toNat.mp hc
    -- the first digit is not zero, so no digit gets lost
    have hzero : c.toNat ≠ 48 := by
      intro hc48
      obtain rfl : c = '0' := Char.toNat_inj.mp hc48
      exact hhead rfl
    have hpos : 0 < 10 * 0 + (c.toNat - '0'.toNat) := by
      show 0 < 10 * 0 + (c.toNat - 48)
      omega
    rw [natOfDigits, Nat.ofDigitChars_cons, toDigits_ofDigitChars hrest hpos, Nat.mul_zero,
      Nat.zero_add, toDigits_of_isDigit hc, List.singleton_append]

/-- A numeral denotes zero exactly if it consists of zeros; any other one is, behind its zeros,
the decimal notation of its number. -/
theorem significant_eq {digits : List Char} (h : ∀ c ∈ digits, c.isDigit = true) :
    significant digits =
      if natOfDigits digits = 0 then [] else Nat.toDigits 10 (natOfDigits digits) := by
  rw [← natOfDigits_significant]
  by_cases hnil : significant digits = []
  · rw [hnil]
    rfl
  · have hsublist : (significant digits).Sublist digits := List.dropWhile_sublist _
    have hnumeral : isNumeral (significant digits) = true :=
      isNumeral_iff.mpr ⟨hnil, fun c hc => h c (hsublist.subset hc)⟩
    have hdigits := toDigits_natOfDigits hnumeral (head?_significant digits)
    rw [if_neg, hdigits]
    intro hzero
    rw [hzero, Nat.toDigits_zero] at hdigits
    exact head?_significant digits (by rw [← hdigits]; rfl)

/-- **Numerals denote the same number exactly if they are equal up to leading zeros.** -/
theorem natOfDigits_eq_iff {digits digits' : List Char} (h : isNumeral digits = true)
    (h' : isNumeral digits' = true) :
    natOfDigits digits = natOfDigits digits' ↔ significant digits = significant digits' := by
  constructor
  · intro heq
    rw [significant_eq (isNumeral_iff.mp h).2, significant_eq (isNumeral_iff.mp h').2, heq]
  · intro heq
    rw [← natOfDigits_significant digits, heq, natOfDigits_significant]

/-! ### Signs -/

/-- A sign in front of a numeral. -/
inductive Sign where
  | plus
  | minus
deriving DecidableEq

def Sign.symbol : Sign → Char
  | plus => '+'
  | minus => '-'

/-- A numeral with at most one sign in front of it. -/
structure SignedNumeral where
  sign : Option Sign
  digits : List Char
  isNumeral : Text.isNumeral digits = true

namespace SignedNumeral

def text (n : SignedNumeral) : List Char := (n.sign.map Sign.symbol).toList ++ n.digits

/-- The integer that a signed numeral denotes. -/
def toInt (n : SignedNumeral) : Int :=
  if n.sign = some .minus then -(natOfDigits n.digits : Int) else natOfDigits n.digits

end SignedNumeral

theorem readInteger?_of_isNumeral {digits : List Char} (h : isNumeral digits = true) :
    readInteger? digits = some (natOfDigits digits : Int) := by
  obtain ⟨-, hdigits⟩ := isNumeral_iff.mp h
  rw [readInteger?, if_pos h]
  · rintro rest rfl
    exact absurd (hdigits '-' (by simp)) (by decide)
  · rintro rest rfl
    exact absurd (hdigits '+' (by simp)) (by decide)

/-- **The texts that denote an integer are the signed numerals.** -/
theorem readInteger?_eq_some_iff {text : List Char} {n : Int} :
    readInteger? text = some n ↔ ∃ s : SignedNumeral, s.text = text ∧ s.toInt = n := by
  constructor
  · fun_cases readInteger? text with
    | case1 digits h =>
      rintro ⟨⟩
      exact ⟨⟨some .minus, digits, h⟩, rfl, rfl⟩
    | case2 => simp
    | case3 digits h =>
      rintro ⟨⟩
      exact ⟨⟨some .plus, digits, h⟩, rfl, rfl⟩
    | case4 => simp
    | case5 _ _ _ h =>
      rintro ⟨⟩
      exact ⟨⟨none, text, h⟩, rfl, rfl⟩
    | case6 => simp
  · rintro ⟨⟨sign, digits, h⟩, rfl, rfl⟩
    rcases sign with _ | _ | _
    · exact readInteger?_of_isNumeral h
    · show readInteger? ('+' :: digits) = _
      rw [readInteger?, if_pos h]
      rfl
    · show readInteger? ('-' :: digits) = _
      rw [readInteger?, if_pos h]
      rfl

end Calculator.Text
