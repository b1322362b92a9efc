/-
Counting operands instead of computing them.

A program is listed by counting its operands, and evaluated by computing them.  Both walk over
the same code, and the count is the number of operands that are there in the evaluation.  So
the two can only differ where an operator is applied to its operands and has no result.

* `countAfter_append`, `Program.count_andThen` — counting goes on where it has ended;
* `countP_operator_lt` — code that can be counted has more numbers than operators in front of
  every place;
* `effect_eq_error` — code that fails meets a fault of arithmetic, or fails in counting, too;
* `Program.failAlike` — a program is evaluated and listed with the same faults, those of
  arithmetic apart;
* `Program.isArithmetic_of_tokens` — so nothing else goes wrong in a program that is listed;
* `Program.fails_of_outcome`, `Program.fails_of_tokens` — where in a program a fault comes from;
* `Program.leftover_of_tokens` — when a listing has operands left over.
-/
import Calculator.Proofs.Arithmetic
import Calculator.Proofs.Postfix.Execution

namespace Calculator

/-! ### Failing alike -/

/-- Whether a fault says that an operator has no result for its operands. -/
def Fault.IsArithmetic : Fault → Prop
  | divisionByZero | remainderByZero | overflow _ => True
  | _ => False

/-- What is true of these three kinds of faults is true of every fault of arithmetic. -/
theorem Fault.IsArithmetic.elim {P : Fault → Prop} {fault : Fault} (h : fault.IsArithmetic)
    (hdivision : P divisionByZero) (hremainder : P remainderByZero)
    (hoverflow : ∀ op, P (overflow op)) : P fault := by
  cases fault with
  | divisionByZero => exact hdivision
  | remainderByZero => exact hremainder
  | overflow op => exact hoverflow op
  | _ => exact absurd h id

theorem Operator.isArithmetic_of_apply {op : Operator} {left right : Value} {fault : Fault}
    (h : op.apply left right = .error fault) : fault.IsArithmetic := by
  rcases apply_eq_error h with rfl | rfl | rfl
  · trivial
  · trivial
  · trivial

/-- An evaluation and a listing that fail alike: only an operator without a result, which a
listing does not notice, keeps them apart. -/
structure FailAlike {α β : Type} (evaluation : Except Fault α) (listing : Except Fault β) :
    Prop where
  /-- If the listing fails then the evaluation fails in the same way, unless an operator had no
  result before that. -/
  of_listing : ∀ fault, listing = .error fault →
    evaluation = .error fault ∨ ∃ earlier, evaluation = .error earlier ∧ earlier.IsArithmetic
  /-- If the evaluation fails and no operator is to blame then the listing fails in the same
  way. -/
  of_evaluation : ∀ fault, evaluation = .error fault → ¬fault.IsArithmetic →
    listing = .error fault
  of_value : ∀ value, evaluation = .ok value → ∃ tokens, listing = .ok tokens

namespace FailAlike

variable {α β : Type}

theorem error (fault : Fault) :
    FailAlike (.error fault : Except Fault α) (.error fault : Except Fault β) where
  of_listing := by
    rintro _ ⟨⟩
    exact .inl rfl
  of_evaluation := by
    rintro _ ⟨⟩ -
    rfl
  of_value := by simp

theorem ok (value : α) (tokens : β) :
    FailAlike (.ok value : Except Fault α) (.ok tokens : Except Fault β) where
  of_listing := by simp
  of_evaluation := by simp
  of_value _ _ := ⟨tokens, rfl⟩

/-- Whatever the listing does, a fault of arithmetic may come first in the evaluation. -/
theorem arithmetic {fault : Fault} (h : fault.IsArithmetic) (listing : Except Fault β) :
    FailAlike (.error fault : Except Fault α) listing where
  of_listing _ _ := .inr ⟨fault, rfl, h⟩
  of_evaluation := by
    rintro _ ⟨⟩ hnot
    exact absurd h hnot
  of_value := by simp

end FailAlike

namespace Postfix

/-! ### Code -/

theorem countAfter_append (count : Nat) (first second : List (Located Token)) :
    countAfter count (first ++ second) =
      (countAfter count first).bind fun count' => countAfter count' second := by
  induction first generalizing count with
  | nil => rfl
  | cons token first ih =>
    obtain ⟨position, value | op⟩ := token
    · exact ih (count + 1)
    · rw [List.cons_append, countAfter, countAfter]
      by_cases hcount : count < 2
      · rw [if_pos hcount, if_pos hcount]
        rfl
      · rw [if_neg hcount, if_neg hcount]
        exact ih (count - 1)

/-- Counting only fails at an operator of the code, if its operands are not there. -/
theorem countAfter_eq_error {code : List (Located Token)} {count : Nat} {fault : Fault}
    (h : countAfter count code = .error fault) :
    ∃ op position, ⟨position, .operator op⟩ ∈ code ∧ fault = .missingOperands op position := by
  induction code generalizing count with
  | nil => exact absurd h (by simp [countAfter])
  | cons token code ih =>
    obtain ⟨position, value | op⟩ := token
    · obtain ⟨op, position, hmem, hfault⟩ := ih h
      exact ⟨op, position, List.mem_cons_of_mem _ hmem, hfault⟩
    · rw [countAfter] at h
      by_cases hcount : count < 2
      · rw [if_pos hcount] at h
        exact ⟨op, position, List.mem_cons_self, (Except.error.inj h).symm⟩
      · rw [if_neg hcount] at h
        obtain ⟨op, position, hmem, hfault⟩ := ih h
        exact ⟨op, position, List.mem_cons_of_mem _ hmem, hfault⟩

/-- An operator gives an operand back, so code that has begun leaves at least one. -/
theorem countAfter_pos {code : List (Located Token)} {count count' : Nat}
    (h : countAfter count code = .ok count') (hbegun : code ≠ [] ∨ 0 < count) : 0 < count' := by
  induction code generalizing count with
  | nil =>
    obtain rfl := Except.ok.inj h
    exact hbegun.resolve_left fun hne => hne rfl
  | cons token code ih =>
    obtain ⟨position, value | op⟩ := token
    · exact ih h (.inr (Nat.succ_pos count))
    · rw [countAfter] at h
      by_cases hcount : count < 2
      · rw [if_pos hcount] at h
        exact absurd h (by simp)
      · rw [if_neg hcount] at h
        exact ih h (.inr (by omega))

/-- **Wherever code is cut, there are more numbers than operators in front.** -/
theorem countP_operator_lt {front behind : List (Located Token)} {count : Nat}
    (h : countAfter 0 (front ++ behind) = .ok count) (hne : front ≠ []) :
    front.countP (·.item.operator?.isSome) < front.countP (·.item.value?.isSome) := by
  rw [countAfter_append] at h
  cases hfront : countAfter 0 front with
  | error fault =>
    rw [hfront] at h
    exact absurd h (by simp [Except.bind])
  | ok count' =>
    have hpos := countAfter_pos hfront (.inl hne)
    have hbalance := countAfter_eq_ok hfront
    omega

/-- Code that fails meets an operator without a result, or one without its operands; and
counting finds the latter, too. -/
theorem effect_eq_error {code : List (Located Token)} {operands : Operands} {fault : Fault}
    (h : effect code operands = .error fault) :
    fault.IsArithmetic ∨ countAfter operands.length code = .error fault := by
  induction code generalizing operands with
  | nil => exact absurd h (by simp [effect, execute])
  | cons token code ih =>
    obtain ⟨position, value | op⟩ := token
    · exact @ih (value :: operands) h
    · by_cases hlength : operands.length < 2
      · rw [effect_operator_missing hlength] at h
        obtain rfl := Except.error.inj h
        rw [countAfter, if_pos hlength]
        exact .inr rfl
      · -- the operands are there, so only their values can be to blame
        rw [countAfter, if_neg hlength]
        rcases operands with _ | ⟨right, _ | ⟨left, below⟩⟩
        · simp at hlength
        · simp at hlength
        · rw [effect_operator] at h
          cases happly : op.apply left right with
          | error fault' =>
            rw [happly] at h
            obtain rfl := Except.error.inj h
            exact .inl (Operator.isArithmetic_of_apply happly)
          | ok result =>
            rw [happly] at h
            exact @ih (result :: below) h

/-! ### Programs -/

namespace Program

/-- The number of operands that a program leaves, or the fault at which it stops, if no
operator is applied. -/
def count (p : Program) (operands : Nat) : Except Fault Nat :=
  (countAfter operands p.code).bind fun operands' =>
    match p.fault with
    | some fault => .error fault
    | none => .ok operands'

theorem count_after (code : List (Located Token)) (p : Program) (operands : Nat) :
    (p.after code).count operands = (countAfter operands code).bind p.count := by
  rw [count, after, countAfter_append]
  cases countAfter operands code with
  | error fault => rfl
  | ok operands' => rfl

theorem count_andThen (first second : Program) (operands : Nat) :
    (first.andThen second).count operands = (first.count operands).bind second.count := by
  obtain ⟨code, fault | fault⟩ := first
  · show (second.after code).count operands = _
    rw [count_after, count]
    cases countAfter operands code with
    | error fault => rfl
    | ok operands' => rfl
  · show count { code, fault := some fault } operands = _
    rw [count]
    cases countAfter operands code with
    | error fault => rfl
    | ok operands' => rfl

/-- A listing gives the code of its program if one operand is left. -/
theorem tokens_eq_bind_count (p : Program) :
    p.tokens = (p.count 0).bind fun operands =>
      if operands = 1 then .ok (p.code.map Located.item) else .error (.leftover operands) := by
  obtain ⟨code, fault⟩ := p
  rw [tokens, count]
  cases countAfter 0 code with
  | error fault' => rfl
  | ok operands => cases fault <;> rfl

/-- A program whose reading did not report leftover values leaves a wrong number of them only if
it was read to its end and all of its operators found their operands. -/
theorem leftover_of_tokens {p : Program} (hreading : ∀ count, p.fault ≠ some (.leftover count))
    {count : Nat} (h : p.tokens = .error (.leftover count)) :
    p.fault = none ∧ countAfter 0 p.code = .ok count ∧ count ≠ 1 := by
  rw [tokens_eq_bind_count, Program.count] at h
  cases hcount : countAfter 0 p.code with
  | error fault =>
    rw [hcount] at h
    obtain ⟨op, position, -, hfault⟩ := countAfter_eq_error hcount
    rw [hfault] at h
    exact absurd (Except.error.inj h) (by simp)
  | ok operands =>
    rw [hcount] at h
    cases hfault : p.fault with
    | some fault =>
      simp only [hfault, Except.bind] at h
      rw [Except.error.inj h] at hfault
      exact absurd hfault (hreading count)
    | none =>
      simp only [hfault, Except.bind] at h
      split at h
      · exact absurd h (by simp)
      · next hne =>
        obtain rfl := Fault.leftover.inj (Except.error.inj h)
        exact ⟨rfl, rfl, hne⟩

/-- **A program is evaluated and listed with the same faults**, except that an operator without
a result is only found by the evaluation. -/
theorem failAlike (p : Program) : FailAlike p.evaluate.outcome p.tokens := by
  rw [outcome_evaluate, tokens_eq_bind_count, effect, count]
  cases heffect : Postfix.effect p.code [] with
  | error fault =>
    rcases effect_eq_error heffect with harithmetic | hcount
    · exact .arithmetic harithmetic _
    · rw [List.length_nil] at hcount
      rw [hcount]
      exact .error fault
  | ok operands =>
    -- the count is the number of operands, and both look at nothing else from here on
    have hcount : countAfter 0 p.code = .ok operands.length := countAfter_effect heffect
    rw [hcount]
    cases p.fault with
    | some fault => exact .error fault
    | none =>
      rcases operands with _ | ⟨v, _ | ⟨v', operands⟩⟩
      · exact .error _
      · exact .ok _ _
      · exact .error _

/-- Nothing but arithmetic can go wrong in a program that can be listed. -/
theorem isArithmetic_of_tokens {p : Program} {tokens : List Token}
    (h : p.tokens = .ok tokens) {fault : Fault} (hfault : p.evaluate.outcome = .error fault) :
    fault.IsArithmetic := by
  apply Classical.byContradiction
  intro hnot
  have hlisting := p.failAlike.of_evaluation fault hfault hnot
  rw [h] at hlisting
  exact absurd hlisting (by simp)

/-- `p.Fails fault` if the fault can be found in the program: an operator has no result, or not
its operands, the reading has stopped, or the number of values at the end is wrong. -/
inductive Fails (p : Program) : Fault → Prop
  | arithmetic {fault : Fault} : fault.IsArithmetic → Fails p fault
  | operands {op : Operator} {position : Nat} :
      ⟨position, .operator op⟩ ∈ p.code → Fails p (.missingOperands op position)
  | reading {fault : Fault} : p.fault = some fault → Fails p fault
  | leftover (count : Nat) : Fails p (.leftover count)

theorem fails_of_tokens {p : Program} {fault : Fault} (h : p.tokens = .error fault) :
    p.Fails fault := by
  rw [tokens_eq_bind_count, count] at h
  cases hcount : countAfter 0 p.code with
  | error fault' =>
    rw [hcount] at h
    obtain rfl := Except.error.inj h
    obtain ⟨op, position, hmem, rfl⟩ := countAfter_eq_error hcount
    exact .operands hmem
  | ok operands =>
    rw [hcount] at h
    cases hfault : p.fault with
    | some fault' =>
      simp only [hfault, Except.bind] at h
      obtain rfl := Except.error.inj h
      exact .reading hfault
    | none =>
      simp only [hfault, Except.bind] at h
      split at h
      · exact absurd h (by simp)
      · obtain rfl := Except.error.inj h
        exact .leftover operands

theorem fails_of_outcome {p : Program} {fault : Fault}
    (h : p.evaluate.outcome = .error fault) : p.Fails fault := by
  by_cases harithmetic : fault.IsArithmetic
  · exact .arithmetic harithmetic
  · exact fails_of_tokens (p.failAlike.of_evaluation fault h harithmetic)

end Program

end Postfix

end Calculator
