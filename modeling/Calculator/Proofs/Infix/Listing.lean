/-
What a listing keeps of its text.

A listing of a text is its tokens in postfix order.  It is made from the code that leaves the
yard, and what it keeps of the text is what the yard keeps of the tokens; that it is an
expression is what the count of operands says about the code.  Both hold of every text that is
listed, also of one that is no sentence of infix notation.

* `Keeps` — the numbers of a text in their order, and its operators, each of them once;
* `Postfix.WellFormed` — more numbers than operators in front of every place, one more in all;
* `listing_keeps` — every listing is well formed and keeps its text, so that its rendered text
  is evaluated without a fault of structure.
-/
import Calculator.Proofs.Infix.Acceptance
import Calculator.Proofs.Postfix.Counting
import Calculator.Proofs.Postfix.Rendering

namespace Calculator

namespace Postfix

/-- Tokens that make an expression: numbers come before the operators that need them, and one
operand is left. -/
structure WellFormed (tokens : List Token) : Prop where
  ahead : ∀ front, front <+: tokens → front ≠ [] →
    front.countP (·.operator?.isSome) < front.countP (·.value?.isSome)
  balance : tokens.countP (·.value?.isSome) = tokens.countP (·.operator?.isSome) + 1

theorem wellFormed_of_countAfter {code : List (Located Token)}
    (h : countAfter 0 code = .ok 1) : WellFormed (code.map Located.item) where
  ahead := by
    rintro front ⟨behind, hsplit⟩ hne
    obtain ⟨first, second, rfl, rfl, -⟩ := List.map_eq_append_iff.mp hsplit.symm
    rw [List.countP_map, List.countP_map]
    exact countP_operator_lt h fun hnil => hne (by rw [hnil, List.map_nil])
  balance := by
    have hbalance := countAfter_eq_ok h
    rw [List.countP_map, List.countP_map]
    show code.countP (·.item.value?.isSome) = code.countP (·.item.operator?.isSome) + 1
    omega

end Postfix

open Located (pick)

namespace Infix

/-- The integer that a token denotes, if it is a number.  It may be too large for a value. -/
def Token.integer? : Token → Option Int
  | number digits => some (Text.natOfDigits digits)
  | _ => none

theorem Token.Meaningful.map_toInt_value? {token : Token} (h : token.Meaningful) :
    token.value?.map Value.toInt = token.integer? := by
  cases token with
  | number digits =>
    show (Value.ofInt? _).map _ = some _
    cases hvalue : Value.ofInt? (Text.natOfDigits digits) with
    | some v => exact congrArg some (Value.ofInt?_eq_some_iff.mp hvalue)
    | none => exact absurd h (Value.ofInt?_eq_none_iff.mp hvalue)
  | operator op => rfl
  | opening => rfl
  | closing => rfl
  | stray c => rfl

/-- What a listing keeps of its text. -/
structure Keeps (text : String) (listed : List Postfix.Token) : Prop where
  /-- The numbers are those of the text, in the same order. -/
  numbers : (listed.filterMap Postfix.Token.value?).map Value.toInt =
    (items text).filterMap Token.integer?
  /-- The operators are those of the text, in some order. -/
  operators : (listed.filterMap Postfix.Token.operator?).Perm
    ((items text).filterMap Token.operator?)
  /-- The listing is the code of the text, and each operator in that code is one of the text at
  its own place. -/
  code : (program text).code.map Located.item = listed
  applied : (pick Postfix.Token.operator? (program text).code).Perm
    (pick Token.operator? (tokens text.toList))
  /-- No operator of the text is applied twice. -/
  once : (pick Postfix.Token.operator? (program text).code).Nodup

theorem keeps_of_fault_eq_none {text : String} (h : (program text).fault = none) :
    Keeps text ((program text).code.map Located.item) := by
  rw [program_eq_run] at h
  obtain ⟨hmeaning, hvalues, hoperators⟩ := Yard.run_conserves h
  rw [Located.pick_nil, List.nil_append, ← program_eq_run, ← tokens_eq_tokensFrom] at hoperators
  rw [← program_eq_run, ← tokens_eq_tokensFrom] at hvalues
  rw [← tokens_eq_tokensFrom] at hmeaning
  have hordered := pairwise_position_tokensFrom 0 text.toList
  rw [← tokens_eq_tokensFrom] at hordered
  refine ⟨?_, ?_, rfl, hoperators, ?_⟩
  · -- every number of the text has a value, which is the integer that it denotes
    rw [← Located.map_item_pick, hvalues, Located.map_item_pick, List.map_filterMap]
    apply List.filterMap_congr
    intro token htoken
    obtain ⟨located, hlocated, rfl⟩ := List.mem_map.mp htoken
    exact (hmeaning located hlocated).map_toInt_value?
  · rw [← Located.map_item_pick, items, ← Located.map_item_pick]
    exact hoperators.map Located.item
  · exact hoperators.nodup_iff.mpr (Located.nodup_pick _ hordered)

/-- The check that comes first lets a text through, and changes nothing in its listing. -/
theorem tokens_of_toPostfix {strictness : Strictness} {text : String}
    {listed : List Postfix.Token} (h : toPostfix strictness text = .ok listed) :
    (program text).tokens = .ok listed := by
  obtain ⟨-, hfault, hcount, hitems⟩ := toPostfix_eq_ok_iff.mp h
  exact Postfix.Program.tokens_eq_ok_iff.mpr ⟨hcount, hfault, hitems⟩

/-- **A listing is an expression and keeps its text**, whether the text was checked first or
not.  So its rendered text has a value, unless an operator has no result. -/
theorem listing_keeps {text : String} {listed : List Postfix.Token}
    (h : (program text).tokens = .ok listed ∨
      ∃ strictness, toPostfix strictness text = .ok listed) :
    Keeps text listed ∧ Postfix.WellFormed listed ∧
      ((∃ v, (Postfix.evaluate (Postfix.render listed)).outcome = .ok v) ∨
        ∃ fault, (Postfix.evaluate (Postfix.render listed)).outcome = .error fault ∧
          fault.IsArithmetic) := by
  have htokens : (program text).tokens = .ok listed := by
    rcases h with h | ⟨strictness, h⟩
    · exact h
    · exact tokens_of_toPostfix h
  obtain ⟨hcount, hfault, rfl⟩ := Postfix.Program.tokens_eq_ok_iff.mp htokens
  refine ⟨keeps_of_fault_eq_none hfault, Postfix.wellFormed_of_countAfter hcount, ?_⟩
  rw [Postfix.Program.evaluate_render_tokens htokens]
  cases houtcome : (program text).evaluate.outcome with
  | ok v => exact .inl ⟨v, rfl⟩
  | error fault =>
    exact .inr ⟨fault, rfl, Postfix.Program.isArithmetic_of_tokens htokens houtcome⟩

/-- The divisor of this listing is zero, and its text is no sentence. -/
theorem listing_keeps_juxtaposed :
    ∃ listed, toPostfix .strict "8(2 2-)/" = .ok listed ∧ Keeps "8(2 2-)/" listed ∧
      Postfix.WellFormed listed ∧
      ((∃ v, (Postfix.evaluate (Postfix.render listed)).outcome = .ok v) ∨
        ∃ fault, (Postfix.evaluate (Postfix.render listed)).outcome = .error fault ∧
          fault.IsArithmetic) := by
  have hprogram : program "8(2 2-)/" =
      { code := [⟨0, .number ⟨8, by decide, by decide⟩⟩, ⟨2, .number ⟨2, by decide, by decide⟩⟩,
          ⟨4, .number ⟨2, by decide, by decide⟩⟩, ⟨5, .operator .sub⟩, ⟨7, .operator .div⟩],
        fault := none } := by decide +kernel
  have hpostfix : toPostfix .strict "8(2 2-)/" =
      .ok ((program "8(2 2-)/").code.map Located.item) := by
    rw [toPostfix, hprogram]
    rfl
  exact ⟨_, hpostfix, listing_keeps (.inr ⟨.strict, hpostfix⟩)⟩

end Infix

end Calculator
