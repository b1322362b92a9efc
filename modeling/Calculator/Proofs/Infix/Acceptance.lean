/-
What the reader of infix texts accepts.

A yard does not know whether an operand or an operator comes next.  What it accepts is decided
by the operands that are there when an operator leaves, so a text may be accepted although its
tokens are no sentence of the grammar.  Still, all of its tokens have a meaning and its
parentheses are balanced; and an operand that is missing in one place has to stand in another
place without an operator.

* `exists_toPostfix_of_outcome` — a text with a value has a postfix form;
* `countP_code_run` — the code of a text that is read to its end has its numbers and operators;
* `sentence_iff_of_accepted` — an accepted text is a sentence exactly if no operand is missing;
* `accepted_not_sentence` — and there are others.
-/
import Calculator.Proofs.Infix.Conservation
import Calculator.Proofs.Infix.Grammar
import Calculator.Proofs.Infix.Reading

namespace Calculator.Infix

/-- The tokens of a text without their positions. -/
def items (text : String) : List Token := (tokens text.toList).map Located.item

/-- Whether a reader finds a value or a postfix form. -/
def Accepted (strictness : Strictness) (text : String) : Prop :=
  (∃ v, (evaluate strictness text).outcome = .ok v) ∨ ∃ ts, toPostfix strictness text = .ok ts

theorem exists_toPostfix_of_outcome {strictness : Strictness} {text : String} {v : Value}
    (h : (evaluate strictness text).outcome = .ok v) :
    ∃ ts, toPostfix strictness text = .ok ts := by
  obtain ⟨hcheck, hfault, heffect⟩ := outcome_evaluate_eq_ok_iff.mp h
  have hcount : Postfix.countAfter 0 (program text).code = .ok 1 :=
    Postfix.countAfter_effect heffect
  exact ⟨_, toPostfix_eq_ok_iff.mpr ⟨hcheck, hfault, hcount, rfl⟩⟩

/-! ### What tokens have to satisfy -/

theorem openBehind_of_unclosedTokens {located : List (Located Token)} {openings inner : List Nat}
    (h : unclosedTokens openings located = .ok inner) :
    openBehind openings.length (located.map Located.item) = some inner.length := by
  induction located generalizing openings with
  | nil =>
    obtain rfl := Except.ok.inj h
    rfl
  | cons token located ih =>
    obtain ⟨position, digits | op | _ | _ | c⟩ := token
    · exact ih h
    · exact ih h
    · exact @ih (position :: openings) h
    · cases openings with
      | nil => exact absurd h (by simp [unclosedTokens])
      | cons innermost outer => exact ih h
    · exact ih h

theorem Token.Meaningful.isSome_value? {token : Token} (h : token.Meaningful) :
    token.value?.isSome = token.isNumber := by
  cases token with
  | number digits =>
    show (Value.ofInt? _).isSome = true
    cases hvalue : Value.ofInt? (Text.natOfDigits digits) with
    | some v => rfl
    | none => exact absurd h (Value.ofInt?_eq_none_iff.mp hvalue)
  | operator op => rfl
  | opening => rfl
  | closing => rfl
  | stray c => rfl

/-- Tokens that are read to their end have as many numbers and operators as their code. -/
theorem countP_code_run {located : List (Located Token)}
    (hfault : (Yard.run [] located).fault = none) :
    (Yard.run [] located).code.countP (·.item.value?.isSome) =
        (located.map Located.item).countP Token.isNumber ∧
      (Yard.run [] located).code.countP (·.item.operator?.isSome) =
        (located.map Located.item).countP Token.isOperator := by
  obtain ⟨hmeaning, hvalues, hoperators⟩ := Yard.run_conserves hfault
  have hnumbers := congrArg List.length hvalues
  have hlength := hoperators.length_eq
  rw [Located.length_pick, Located.length_pick] at hnumbers
  rw [Located.pick_nil, List.nil_append, Located.length_pick, Located.length_pick] at hlength
  constructor
  · -- every number has a value here, so the code has one for each number
    rw [hnumbers, List.countP_map]
    apply List.countP_congr
    intro token htoken
    rw [(hmeaning token htoken).isSome_value?]
    rfl
  · rw [hlength, List.countP_map]
    apply List.countP_congr
    rintro ⟨position, item⟩ -
    cases item <;> rfl

/-- If the code of some tokens leaves one operand then there is one number more than there are
operators. -/
theorem countP_isNumber_of_countAfter {located : List (Located Token)}
    (hfault : (Yard.run [] located).fault = none)
    (hcount : Postfix.countAfter 0 (Yard.run [] located).code = .ok 1) :
    (located.map Located.item).countP Token.isNumber =
      (located.map Located.item).countP Token.isOperator + 1 := by
  obtain ⟨hnumbers, hoperators⟩ := countP_code_run hfault
  have hbalance := Postfix.countAfter_eq_ok hcount
  omega

/-- **An accepted text is a sentence exactly if no operand is missing.**  Its tokens have a
meaning and its parentheses are balanced in any case, and it has as many juxtapositions as
gaps. -/
theorem sentence_iff_of_accepted {strictness : Strictness} {text : String}
    (h : Accepted strictness text) :
    (∀ token ∈ items text, token.Meaningful) ∧ openBehind 0 (items text) = some 0 ∧
      juxtapositions false (items text) = gaps false (items text) ∧
      (Sentence .sum (items text) ↔ gaps false (items text) = 0) := by
  have hpostfix : ∃ ts, toPostfix strictness text = .ok ts := by
    rcases h with ⟨v, h⟩ | h
    · exact exists_toPostfix_of_outcome h
    · exact h
  obtain ⟨ts, hts⟩ := hpostfix
  obtain ⟨hcheck, hfault, hcount, -⟩ := toPostfix_eq_ok_iff.mp hts
  have hlenient := check_lenient_of_check hcheck
  rw [check_lenient, checkTokens_eq_ok_iff] at hlenient
  rw [program_eq_run] at hfault hcount
  rw [items, tokens_eq_tokensFrom]
  obtain ⟨hmeaning, -, -⟩ := Yard.run_conserves hfault
  have hopen := openBehind_of_unclosedTokens hlenient
  have hnumbers := countP_isNumber_of_countAfter hfault hcount
  have hmeaning' : ∀ token ∈ (tokensFrom 0 text.toList).map Located.item,
      token.Meaningful := by
    intro token htoken
    obtain ⟨located, hlocated, rfl⟩ := List.mem_map.mp htoken
    exact hmeaning located hlocated
  have hstray : ∀ c, .stray c ∉ (tokensFrom 0 text.toList).map Located.item :=
    fun c hc => hmeaning' _ hc
  -- one number more than operators leaves as many juxtapositions as gaps
  have hbalance := juxtapositions_add_operators hstray false
  have hequal : juxtapositions false ((tokensFrom 0 text.toList).map Located.item) =
      gaps false ((tokensFrom 0 text.toList).map Located.item) := by
    rw [Bool.toNat_false] at hbalance
    omega
  refine ⟨hmeaning', hopen, hequal, ?_⟩
  rw [sentence_iff]
  constructor
  · rintro ⟨-, -, -, hgaps⟩
    exact hgaps
  · intro hgaps
    exact ⟨hstray, hopen, hequal.trans hgaps, hgaps⟩

theorem sentence_product : Sentence .sum (items "2*(3 )") := by
  have hprogram : program "2*(3 )" =
      { code := [⟨0, .number ⟨2, by decide, by decide⟩⟩, ⟨3, .number ⟨3, by decide, by decide⟩⟩,
          ⟨1, .operator .mul⟩],
        fault := none } := by decide +kernel
  have haccepted : Accepted .strict "2*(3 )" := by
    refine .inl ⟨⟨6, by decide, by decide⟩, ?_⟩
    rw [evaluate, hprogram]
    rfl
  exact (sentence_iff_of_accepted haccepted).2.2.2.mpr (by decide +kernel)

/-- Not every accepted text is a sentence: the operand that is missing behind the operator
stands in front of it. -/
theorem accepted_not_sentence :
    (evaluate .lenient "1 2 +").outcome = .ok ⟨3, by decide, by decide⟩ ∧
      ¬Sentence .sum (items "1 2 +") := by
  constructor
  · have hprogram : program "1 2 +" =
        { code := [⟨0, .number ⟨1, by decide, by decide⟩⟩,
            ⟨2, .number ⟨2, by decide, by decide⟩⟩, ⟨4, .operator .add⟩],
          fault := none } := by decide +kernel
    rw [evaluate, hprogram]
    rfl
  · rw [sentence_iff]
    rintro ⟨-, -, -, hgaps⟩
    exact absurd hgaps (by decide +kernel)

end Calculator.Infix
