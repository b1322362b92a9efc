/-
What is left over.

A reading that meets no other fault may still leave no value, or more than one.  The count that it
reports is the number of numbers of the text less the number of its operators, however these are
put together: the reading has come to the end of the text, and every operator was applied once
and took one operand away.

* `Postfix.surplus` — the numbers of code less its operators, as an integer;
* `Postfix.surplus_of_countAfter` — counting operands computes it and never falls below zero;
* `LeftOver` — what a count of leftover values says of a text;
* `leftover_counts` — this holds of the counts that all readings report, in both notations.
-/
import Calculator.Proofs.Blame
import Calculator.Proofs.Infix.Acceptance

namespace Calculator

namespace Postfix

/-- The number of numbers in some code, less the number of operators. -/
def surplus (code : List (Located Token)) : Int :=
  (code.countP (·.item.value?.isSome) : Int) - (code.countP (·.item.operator?.isSome) : Int)

/-- **Counting operands never falls below zero**: as far as it comes, the surplus of the code so
far is the count. -/
theorem surplus_of_countAfter {code : List (Located Token)} {count : Nat}
    (h : countAfter 0 code = .ok count) : 0 ≤ surplus code ∧ (count : Int) = surplus code := by
  have hbalance := countAfter_eq_ok h
  rw [surplus]
  omega

end Postfix

/-- What a count of leftover values says of a text with so many numbers and operators. -/
structure LeftOver (count numbers operators : Nat) : Prop where
  eq_sub : (count : Int) = (numbers : Int) - (operators : Int)
  ne_one : count ≠ 1
  eq_zero_iff : count = 0 ↔ numbers = 0 ∧ operators = 0

/-- A wrong number of operands behind some code is what is left over of its numbers. -/
theorem LeftOver.of_countAfter {code : List (Located Postfix.Token)} {count : Nat}
    (h : Postfix.countAfter 0 code = .ok count) (hne : count ≠ 1) :
    LeftOver count (code.countP (·.item.value?.isSome))
      (code.countP (·.item.operator?.isSome)) where
  eq_sub := (Postfix.surplus_of_countAfter h).2
  ne_one := hne
  eq_zero_iff := by
    constructor
    · rintro rfl
      -- code that has begun leaves at least one operand
      have hnil : code = [] := by
        by_contra hbegun
        exact absurd (Postfix.countAfter_pos h (.inl hbegun)) (Nat.lt_irrefl 0)
      rw [hnil]
      exact ⟨rfl, rfl⟩
    · rintro ⟨hnumbers, hoperators⟩
      have hbalance := Postfix.countAfter_eq_ok h
      omega

namespace Infix

/-- The check of the parentheses knows nothing of values. -/
theorem check_ne_leftover (strictness : Strictness) (text : String) (count : Nat) :
    check strictness text ≠ .error (.leftover count) := by
  intro h
  rcases check_eq_error h with hfault | ⟨position, hfault | hfault⟩
  · exact absurd hfault (by simp)
  · exact absurd hfault (by simp)
  · exact absurd hfault (by simp)

/-- Nor does the reading of the tokens. -/
theorem fault_program_ne_leftover (text : String) (count : Nat) :
    (program text).fault ≠ some (.leftover count) := by
  intro h
  rw [program_eq_run] at h
  rcases Yard.fault_run_cases h with ⟨position, hfault⟩ | ⟨_, token, _, -, -, hunreadable⟩
  · exact absurd hfault (by simp)
  · cases hunreadable

/-- Whichever reading reports leftover values, the listing of the program reports them. -/
theorem Reports.tokens_eq_leftover {text : String} {count : Nat}
    (h : Reports text (.leftover count)) : (program text).tokens = .error (.leftover count) := by
  rcases h.origin with ⟨strictness, hcheck⟩ | hevaluate | htokens
  · exact absurd hcheck (check_ne_leftover strictness text count)
  · exact (program text).failAlike.of_evaluation _ hevaluate id
  · exact htokens

theorem Reports.leftOver {text : String} {count : Nat} (h : Reports text (.leftover count)) :
    LeftOver count ((items text).countP Token.isNumber)
      ((items text).countP Token.isOperator) := by
  obtain ⟨hfault, hcount, hne⟩ := Postfix.Program.leftover_of_tokens
    (fault_program_ne_leftover text) h.tokens_eq_leftover
  have hleft := LeftOver.of_countAfter hcount hne
  obtain ⟨hnumbers, hoperators⟩ := countP_code_run hfault
  rw [program] at hleft
  rwa [hnumbers, hoperators] at hleft

end Infix

namespace Postfix

/-- The reading of words knows nothing of values. -/
theorem fault_ofWords_ne_leftover (words : List (Located (List Char))) (count : Nat) :
    (Program.ofWords words).fault ≠ some (.leftover count) := by
  intro h
  obtain ⟨word, -, hword⟩ := Program.fault_ofWords_eq_some h
  rcases Token.ofWord_eq_error hword with ⟨-, -, hfault⟩ | ⟨n, -, -, hfault⟩
  · exact absurd hfault (by simp)
  · exact absurd hfault (by simp)

theorem leftOver_of_outcome {text : String} {count : Nat}
    (h : (evaluate text).outcome = .error (.leftover count)) :
    LeftOver count
      ((words text.toList).countP fun word => (Text.readInteger? word.item).isSome)
      ((words text.toList).countP fun word => (operatorOfWord? word.item).isSome) := by
  have htokens := (Program.ofWords (words text.toList)).failAlike.of_evaluation _ h id
  obtain ⟨hfault, hcount, hne⟩ := Program.leftover_of_tokens (fault_ofWords_ne_leftover _) htokens
  have hleft := LeftOver.of_countAfter hcount hne
  obtain ⟨hnumbers, hoperators⟩ := Program.countP_code_ofWords hfault
  rwa [hnumbers, hoperators] at hleft

end Postfix

/-- **Leftover values are counted exactly**, by every reading of a text in both notations: there
are as many of them as there are more numbers than operators, never just one, and none only if
the text has neither.  On the way, the count of a listing is at every place what the code so far
has more numbers than operators, and so is never below zero. -/
theorem leftover_counts (text : String) :
    (∀ count, Infix.Reports text (.leftover count) →
      LeftOver count ((Infix.items text).countP Infix.Token.isNumber)
        ((Infix.items text).countP Infix.Token.isOperator)) ∧
    (∀ count, (Postfix.evaluate text).outcome = .error (.leftover count) →
      LeftOver count
        ((words text.toList).countP fun word => (Text.readInteger? word.item).isSome)
        ((words text.toList).countP fun word => (Postfix.operatorOfWord? word.item).isSome)) ∧
    ∀ front, front <+: (Infix.program text).code →
      ∀ count, Postfix.countAfter 0 front = .ok count →
        0 ≤ Postfix.surplus front ∧ (count : Int) = Postfix.surplus front :=
  ⟨fun _ => Infix.Reports.leftOver, fun _ => Postfix.leftOver_of_outcome,
    fun _ _ _ => Postfix.surplus_of_countAfter⟩

/-- Four numbers and an operator that does not stand between any of them leave three values; in
postfix notation two of the signs are no operators. -/
theorem leftover_counts_juxtaposed :
    LeftOver 3 ((Infix.items "1(2 3+)4").countP Infix.Token.isNumber)
        ((Infix.items "1(2 3+)4").countP Infix.Token.isOperator) ∧
      LeftOver 2
        ((words "1 +2 -3 *".toList).countP fun word => (Text.readInteger? word.item).isSome)
        ((words "1 +2 -3 *".toList).countP fun word =>
          (Postfix.operatorOfWord? word.item).isSome) ∧
      0 ≤ Postfix.surplus ((Infix.program "1(2 3+)4").code.take 4) ∧
      ((2 : Nat) : Int) = Postfix.surplus ((Infix.program "1(2 3+)4").code.take 4) := by
  have htokens : (Infix.program "1(2 3+)4").tokens = .error (.leftover 3) := by decide +kernel
  have hcount : Postfix.countAfter 0 ((Infix.program "1(2 3+)4").code.take 4) = .ok 2 := by
    decide +kernel
  have houtcome : (Postfix.evaluate "1 +2 -3 *").outcome = .error (.leftover 2) := by
    have hprogram : Postfix.Program.ofWords (words "1 +2 -3 *".toList) =
        { code := [⟨0, .number ⟨1, by decide, by decide⟩⟩,
            ⟨2, .number ⟨2, by decide, by decide⟩⟩, ⟨5, .number ⟨-3, by decide, by decide⟩⟩,
            ⟨8, .operator .mul⟩],
          fault := none } := by decide +kernel
    rw [Postfix.evaluate, hprogram]
    rfl
  refine ⟨?_, ?_, ?_⟩
  · exact (leftover_counts "1(2 3+)4").1 3 (.program_tokens htokens)
  · exact (leftover_counts "1 +2 -3 *").2.1 2 houtcome
  · exact (leftover_counts "1(2 3+)4").2.2 _ (List.take_prefix 4 _) 2 hcount

end Calculator
