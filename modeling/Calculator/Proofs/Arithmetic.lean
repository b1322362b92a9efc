/-
Operators on unbounded integers.

`Operator.result` computes in the integers: a result counts as long as it is a value, and
unless the divisor is zero.  The one remainder that is refused although it is a value is that
of the least value by `-1`, which has no quotient.

* `Operator.inRange_tdiv_iff` — every quotient of values is a value, except for that one;
* `Operator.map_toInt_apply` — the operators of the calculator give these results;
* `Operator.apply_eq_ok_iff` — when they succeed;
* `Operator.apply_eq_error` — the ways in which they fail;
* `Operator.apply_quotient_mul_add_rem` — quotient and remainder of two values make up the first
  one again.
-/
import Calculator.Operator.Apply

namespace Calculator.Operator

/-- An exact result, if it is a value. -/
def bounded (op : Operator) (exact : Int) : Except Fault Int :=
  if Value.InRange exact then .ok exact else .error (.overflow op)

/-- The result of an operator on integers, or the reason why it has none. -/
def result (op : Operator) (left right : Int) : Except Fault Int :=
  match op with
  | add => op.bounded (left + right)
  | sub => op.bounded (left - right)
  | mul => op.bounded (left * right)
  | div => if right = 0 then .error .divisionByZero else op.bounded (left.tdiv right)
  | rem =>
    if right = 0 then .error .remainderByZero
    else if left = Value.least ∧ right = -1 then .error (.overflow op)
    else op.bounded (left.tmod right)

/-- The quotient of two values is a value, except for the least one by `-1`. -/
theorem inRange_tdiv_iff (left right : Value) :
    Value.InRange (left.toInt.tdiv right.toInt) ↔
      ¬(left.toInt = Value.least ∧ right.toInt = -1) := by
  obtain ⟨l, hl₁, hl₂⟩ := left
  obtain ⟨r, hr₁, hr₂⟩ := right
  show Value.InRange (l.tdiv r) ↔ ¬(l = Value.least ∧ r = -1)
  simp only [Value.InRange, Value.least, Value.greatest] at *
  -- a divisor of at least two halves every value; the other divisors are three
  have habs := Int.natAbs_tdiv l r
  rcases Nat.lt_or_ge r.natAbs 2 with hsmall | hlarge
  · obtain rfl | rfl | rfl : r = 0 ∨ r = 1 ∨ r = -1 := by omega
    · simp [Int.tdiv_zero]
    · rw [Int.tdiv_one]
      omega
    · rw [Int.tdiv_neg, Int.tdiv_one]
      omega
  · have hhalf : l.natAbs / r.natAbs ≤ l.natAbs / 2 := Nat.div_le_div_left hlarge (by decide)
    rw [show l.natAbs.div r.natAbs = l.natAbs / r.natAbs from rfl] at habs
    omega

theorem map_toInt_settle (op : Operator) (n : Int) :
    (op.settle n).map Value.toInt = op.bounded n := by
  rw [settle, Value.ofInt?, bounded]
  by_cases h : Value.InRange n
  · rw [dif_pos h, if_pos h]
    rfl
  · rw [dif_neg h, if_neg h]
    rfl

/-- **The operators of the calculator are those of the integers**, as far as there are values
for their results. -/
theorem map_toInt_apply (op : Operator) (left right : Value) :
    (op.apply left right).map Value.toInt = op.result left.toInt right.toInt := by
  cases op with
  | add => exact map_toInt_settle add _
  | sub => exact map_toInt_settle sub _
  | mul => exact map_toInt_settle mul _
  | div =>
    simp only [apply, result]
    by_cases hzero : right.toInt = 0
    · rw [if_pos hzero, if_pos hzero]
      rfl
    · rw [if_neg hzero, if_neg hzero, map_toInt_settle]
  | rem =>
    simp only [apply, result]
    by_cases hzero : right.toInt = 0
    · rw [if_pos hzero, if_pos hzero]
      rfl
    · rw [if_neg hzero, if_neg hzero]
      -- the quotient is settled first, and fails for one pair of operands only
      have hquotient := map_toInt_settle rem (left.toInt.tdiv right.toInt)
      rw [bounded] at hquotient
      by_cases hrange : Value.InRange (left.toInt.tdiv right.toInt)
      · rw [if_neg ((inRange_tdiv_iff left right).mp hrange)]
        rw [if_pos hrange] at hquotient
        cases hsettle : rem.settle (left.toInt.tdiv right.toInt) with
        | error fault => simp [hsettle, Except.map] at hquotient
        | ok quotient => exact map_toInt_settle rem _
      · rw [if_pos (Decidable.not_not.mp (mt (inRange_tdiv_iff left right).mpr hrange))]
        rw [if_neg hrange] at hquotient
        cases hsettle : rem.settle (left.toInt.tdiv right.toInt) with
        | error fault =>
          rw [hsettle] at hquotient
          exact hquotient
        | ok quotient => simp [hsettle, Except.map] at hquotient

/-! ### Succeeding -/

/-- The exact result of an operator, whether it is a value or not. -/
def exact : Operator → Int → Int → Int
  | add, left, right => left + right
  | sub, left, right => left - right
  | mul, left, right => left * right
  | div, left, right => left.tdiv right
  | rem, left, right => left.tmod right

/-- Operands for which an operator has a result. -/
structure Admits (op : Operator) (left right : Int) : Prop where
  divisor_ne_zero : op = div ∨ op = rem → right ≠ 0
  /-- A remainder has a quotient. -/
  not_least : ¬(op = rem ∧ left = Value.least ∧ right = -1)
  inRange : Value.InRange (op.exact left right)

theorem bounded_eq_ok_iff {op : Operator} {m n : Int} :
    op.bounded m = .ok n ↔ Value.InRange m ∧ m = n := by
  rw [bounded]
  by_cases h : Value.InRange m
  · rw [if_pos h, Except.ok.injEq]
    exact ⟨fun heq => ⟨h, heq⟩, And.right⟩
  · rw [if_neg h]
    exact ⟨fun heq => absurd heq (by simp), fun ⟨hrange, _⟩ => absurd hrange h⟩

/-- With a divisor that is not zero and a quotient, all depends on the exact result. -/
theorem result_eq_bounded {op : Operator} {left right : Int}
    (hdivisor : op = div ∨ op = rem → right ≠ 0)
    (hleast : ¬(op = rem ∧ left = Value.least ∧ right = -1)) :
    op.result left right = op.bounded (op.exact left right) := by
  cases op with
  | add => rfl
  | sub => rfl
  | mul => rfl
  | div => exact if_neg (hdivisor (.inl rfl))
  | rem =>
    rw [result, if_neg (hdivisor (.inr rfl)), if_neg fun h => hleast ⟨rfl, h⟩]
    rfl

/-- An operator has a result exactly if its operands admit one, and then it is the exact
one. -/
theorem result_eq_ok_iff {op : Operator} {left right n : Int} :
    op.result left right = .ok n ↔ op.Admits left right ∧ op.exact left right = n := by
  constructor
  · intro h
    have hdivisor : op = div ∨ op = rem → right ≠ 0 := by
      rintro (rfl | rfl) rfl
      · exact absurd h (by simp [result])
      · exact absurd h (by simp [result])
    have hleast : ¬(op = rem ∧ left = Value.least ∧ right = -1) := by
      rintro ⟨rfl, rfl, rfl⟩
      exact absurd h (by simp [result])
    rw [result_eq_bounded hdivisor hleast, bounded_eq_ok_iff] at h
    exact ⟨⟨hdivisor, hleast, h.1⟩, h.2⟩
  · rintro ⟨⟨hdivisor, hleast, hrange⟩, hexact⟩
    rw [result_eq_bounded hdivisor hleast, bounded_eq_ok_iff]
    exact ⟨hrange, hexact⟩

theorem apply_eq_ok_iff {op : Operator} {left right v : Value} :
    op.apply left right = .ok v ↔
      op.Admits left.toInt right.toInt ∧ op.exact left.toInt right.toInt = v.toInt := by
  rw [← result_eq_ok_iff, ← map_toInt_apply]
  cases op.apply left right with
  | error fault => simp [Except.map]
  | ok w => simp [Except.map, Value.ext_iff]

/-! ### Failing -/

theorem settle_eq_error {op : Operator} {n : Int} {fault : Fault}
    (h : op.settle n = .error fault) : fault = .overflow op := by
  rw [settle] at h
  cases hn : Value.ofInt? n with
  | some v =>
    rw [hn] at h
    exact absurd h (by simp)
  | none =>
    rw [hn] at h
    exact (Except.error.inj h).symm

/-- An operator fails at a zero divisor or because its result is no value. -/
theorem apply_eq_error {op : Operator} {left right : Value} {fault : Fault}
    (h : op.apply left right = .error fault) :
    fault = .divisionByZero ∨ fault = .remainderByZero ∨ fault = .overflow op := by
  revert h
  fun_cases op.apply left right with
  | case1 =>
    intro h
    exact .inr (.inr (settle_eq_error h))
  | case2 =>
    intro h
    exact .inr (.inr (settle_eq_error h))
  | case3 =>
    intro h
    exact .inr (.inr (settle_eq_error h))
  | case4 =>
    intro h
    exact .inl (Except.error.inj h).symm
  | case5 =>
    intro h
    exact .inr (.inr (settle_eq_error h))
  | case6 =>
    intro h
    exact .inr (.inl (Except.error.inj h).symm)
  | case7 =>
    intro h
    cases hquotient : rem.settle (left.toInt.tdiv right.toInt) with
    | error fault' =>
      rw [hquotient] at h
      obtain rfl := Except.error.inj h
      exact .inr (.inr (settle_eq_error hquotient))
    | ok quotient =>
      rw [hquotient] at h
      exact .inr (.inr (settle_eq_error h))

/-! ### Quotient and remainder -/

/-- A remainder lies between zero and the dividend. -/
theorem tmod_between (left right : Int) :
    (0 ≤ left → 0 ≤ left.tmod right ∧ left.tmod right ≤ left) ∧
      (left ≤ 0 → left ≤ left.tmod right ∧ left.tmod right ≤ 0) := by
  have habs := Int.natAbs_tmod left right
  have hle : left.natAbs % right.natAbs ≤ left.natAbs := Nat.mod_le _ _
  constructor
  · intro hleft
    have hnonneg := Int.tmod_nonneg right hleft
    omega
  · intro hleft
    have hnonneg := Int.tmod_nonneg right (Int.neg_nonneg_of_nonpos hleft)
    rw [Int.neg_tmod] at hnonneg
    omega

/-- What lies between zero and a value is a value. -/
theorem inRange_of_between {left : Value} {n : Int}
    (hnonneg : 0 ≤ left.toInt → 0 ≤ n ∧ n ≤ left.toInt)
    (hnonpos : left.toInt ≤ 0 → left.toInt ≤ n ∧ n ≤ 0) : Value.InRange n := by
  have hle := left.least_le
  have hge := left.le_greatest
  simp only [Value.InRange, Value.least, Value.greatest] at *
  omega

theorem inRange_tmod (left right : Value) : Value.InRange (left.toInt.tmod right.toInt) :=
  inRange_of_between (tmod_between _ _).1 (tmod_between _ _).2

/-- What is left of a value when its remainder is taken off is a value. -/
theorem inRange_tdiv_mul (left right : Value) :
    Value.InRange (left.toInt.tdiv right.toInt * right.toInt) := by
  obtain ⟨hnonneg, hnonpos⟩ := tmod_between left.toInt right.toInt
  have heq := Int.tdiv_mul_add_tmod left.toInt right.toInt
  apply @inRange_of_between left
  · intro hleft
    omega
  · intro hleft
    omega

/-- A remainder is smaller than the divisor, and has the sign of the dividend unless it is
zero. -/
theorem bounds_of_apply_rem {left right r : Value} (h : rem.apply left right = .ok r) :
    r.toInt.natAbs < right.toInt.natAbs ∧
      (r.toInt = 0 ∨ r.toInt.sign = left.toInt.sign) := by
  obtain ⟨hadmits, hexact⟩ := apply_eq_ok_iff.mp h
  have hdivisor := hadmits.divisor_ne_zero (.inr rfl)
  have hr : left.toInt.tmod right.toInt = r.toInt := hexact
  obtain ⟨hnonneg, hnonpos⟩ := tmod_between left.toInt right.toInt
  rw [← hr]
  constructor
  · rw [Int.natAbs_tmod]
    exact Nat.mod_lt _ (Int.natAbs_pos.mpr hdivisor)
  · by_cases hzero : left.toInt.tmod right.toInt = 0
    · exact .inl hzero
    · right
      by_cases hpos : 0 < left.toInt
      · rw [Int.sign_eq_one_of_pos hpos, Int.sign_eq_one_of_pos (by omega)]
      · rw [Int.sign_eq_neg_one_of_neg (by omega), Int.sign_eq_neg_one_of_neg (by omega)]

/-- There is a remainder whenever there is a quotient. -/
theorem apply_rem_eq_ok {left right : Value} (hzero : right.toInt ≠ 0)
    (hleast : ¬(left.toInt = Value.least ∧ right.toInt = -1)) :
    rem.apply left right = .ok ⟨left.toInt.tmod right.toInt, (inRange_tmod left right).1,
      (inRange_tmod left right).2⟩ :=
  apply_eq_ok_iff.mpr ⟨⟨fun _ => hzero, fun h => hleast h.2, inRange_tmod left right⟩, rfl⟩

/-- **Quotient and remainder make up the dividend again**, and nothing on the way leaves the
range, if there is a quotient at all. -/
theorem apply_quotient_mul_add_rem (left right : Value) :
    ((div.apply left right).bind fun quotient => (mul.apply quotient right).bind fun product =>
        (rem.apply left right).bind fun r => add.apply product r) =
      if right.toInt = 0 then .error .divisionByZero
      else if left.toInt = Value.least ∧ right.toInt = -1 then .error (.overflow div)
      else .ok left := by
  by_cases hzero : right.toInt = 0
  · rw [if_pos hzero, apply, if_pos hzero]
    rfl
  · rw [if_neg hzero]
    have hquotient := inRange_tdiv_iff left right
    by_cases hleast : left.toInt = Value.least ∧ right.toInt = -1
    · have hnone := Value.ofInt?_eq_none_iff.mpr fun hrange => hquotient.mp hrange hleast
      rw [if_pos hleast, apply, if_neg hzero, settle, hnone]
      rfl
    · rw [if_neg hleast]
      have hrange := hquotient.mpr hleast
      have hproduct := inRange_tdiv_mul left right
      have hsum := Int.tdiv_mul_add_tmod left.toInt right.toInt
      have hdiv : div.apply left right = .ok ⟨_, hrange.1, hrange.2⟩ :=
        apply_eq_ok_iff.mpr ⟨⟨fun _ => hzero, by simp, hrange⟩, rfl⟩
      have hmul : mul.apply ⟨_, hrange.1, hrange.2⟩ right = .ok ⟨_, hproduct.1, hproduct.2⟩ :=
        apply_eq_ok_iff.mpr ⟨⟨by simp, by simp, hproduct⟩, rfl⟩
      rw [hdiv]
      show (mul.apply _ right).bind _ = _
      rw [hmul]
      show (rem.apply left right).bind _ = _
      rw [apply_rem_eq_ok hzero hleast]
      -- the sum is the dividend, which is in range
      show add.apply ⟨_, hproduct.1, hproduct.2⟩
        ⟨_, (inRange_tmod left right).1, (inRange_tmod left right).2⟩ = .ok left
      refine apply_eq_ok_iff.mpr ⟨⟨by simp, by simp, ?_⟩, hsum⟩
      show Value.InRange (_ + _)
      rw [hsum]
      exact ⟨left.least_le, left.le_greatest⟩

end Calculator.Operator
