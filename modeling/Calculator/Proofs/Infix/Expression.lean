/-
Expressions, and the texts that write them.

An `Expr` is a tree of operators over numerals.  It is written with as many parentheses as its
operators need, or more, and with any blanks; `Expr.result` is what it comes to, computed from
the left operand to the right one and then the operator, in unbounded integers.

* `Expr.Written` — the tokens that write an expression;
* `Expr.run_written` — in the yard, the tokens of an expression are an operand that acts as its
  code in postorder;
* `Expr.Codes.gives` — code in postorder gives the value of the expression, or stops at the first
  fault of its computation;
* `outcome_evaluate_written` — every text of an expression evaluates to its result.

Design notes.  No statement names the operators of an expression that are left in the yard behind
its last token: `Yard.Operand` says what the tokens do once something completes them.  How an
expression is written does not depend on the yard either: `Expr.Written` has a table of strengths
of its own, and `Expr.precedence_eq_strengthOf` says that the yard goes by it.
-/
import Calculator.Proofs.Arithmetic
import Calculator.Proofs.Infix.Operand
import Calculator.Proofs.Infix.Reading

namespace Calculator.Infix

open Postfix (Program)

/-- A text of digits, of any length but not empty. -/
structure Numeral where
  digits : List Char
  isNumeral : Text.isNumeral digits = true

/-- An expression: a numeral, or an operator between two expressions. -/
inductive Expr where
  | literal (numeral : Numeral)
  | node (op : Operator) (left right : Expr)

namespace Expr

/-- What an expression comes to in the integers, or the first fault on the way. -/
def result : Expr → Except Fault Int
  | literal numeral =>
    if (Text.natOfDigits numeral.digits : Int) ≤ Value.greatest then
      .ok (Text.natOfDigits numeral.digits)
    else .error (.literalTooLarge (String.ofList numeral.digits))
  | node op left right =>
    left.result.bind fun l => right.result.bind fun r => op.result l r

/-! ### Writing expressions -/

/-- The strength with which an operator holds its operands together. -/
def strengthOf : Operator → Nat
  | .add | .sub => 1
  | .mul | .div | .rem => 2

/-- The strength of a text that no operator outside can break apart. -/
abbrev unbreakable : Nat := 3

/-- `Written e strength tokens` if the tokens write the expression, and the weakest operator
outside all parentheses has the given strength.  Parentheses stand around a left operand that
binds more weakly than its operator, around a right operand that binds more weakly or equally,
and wherever else one likes. -/
inductive Written : Expr → Nat → List Token → Prop
  | literal (numeral : Numeral) :
      Written (.literal numeral) unbreakable [.number numeral.digits]
  | node {op : Operator} {left right : Expr} {l r : Nat} {before behind : List Token} :
      Written left l before → Written right r behind →
      strengthOf op ≤ l → strengthOf op < r →
      Written (.node op left right) (strengthOf op) (before ++ .operator op :: behind)
  | group {e : Expr} {strength : Nat} {tokens : List Token} :
      Written e strength tokens →
      Written e unbreakable (.opening :: tokens ++ [.closing])

/-- Code of an expression in postorder, at any positions and up to the first literal that is
no value. -/
inductive Codes : Expr → Program → Prop
  | value {numeral : Numeral} {v : Value} {position : Nat} :
      Value.ofInt? (Text.natOfDigits numeral.digits) = some v →
      Codes (.literal numeral) { code := [⟨position, .number v⟩], fault := none }
  | tooLarge {numeral : Numeral} :
      Value.ofInt? (Text.natOfDigits numeral.digits) = none →
      Codes (.literal numeral) (.failed (.literalTooLarge (String.ofList numeral.digits)))
  | node {op : Operator} {left right : Expr} {first second : Program} {position : Nat} :
      Codes left first → Codes right second →
      Codes (.node op left right)
        (first.andThen (second.andThen
          { code := [⟨position, .operator op⟩], fault := none }))

/-! ### Expressions in the yard -/

/-- The yard goes by the strengths with which expressions are written. -/
theorem precedence_eq_strengthOf (op : Operator) : op.precedence = strengthOf op := by
  cases op <;> rfl

/-- **In the yard, an expression is an operand that acts as its code in postorder**, whatever
waits in front of it and whatever follows. -/
theorem run_written {e : Expr} {strength : Nat} {tokens : List Token}
    (h : Written e strength tokens) {located : List (Located Token)}
    (hlocated : located.map Located.item = tokens) :
    ∃ p, Codes e p ∧ Yard.Operand strength located p := by
  induction h generalizing located with
  | literal numeral =>
    obtain ⟨⟨position, item⟩, rfl, hitem⟩ := List.map_eq_singleton_iff.mp hlocated
    obtain rfl : item = .number numeral.digits := hitem
    cases hvalue : Value.ofInt? (Text.natOfDigits numeral.digits) with
    | some v => exact ⟨_, .value hvalue, .number_of_some hvalue unbreakable position⟩
    | none => exact ⟨_, .tooLarge hvalue, .number_of_none hvalue unbreakable position⟩
  | @node op left right l r before behind _ _ hl hr ihl ihr =>
    obtain ⟨before', tail, rfl, hbefore, htail⟩ := List.map_eq_append_iff.mp hlocated
    obtain ⟨⟨position, item⟩, behind', rfl, hitem, hbehind⟩ := List.map_eq_cons_iff.mp htail
    obtain rfl : item = .operator op := hitem
    obtain ⟨first, hfirst, hoperandl⟩ := ihl hbefore
    obtain ⟨second, hsecond, hoperandr⟩ := ihr hbehind
    rw [← precedence_eq_strengthOf] at hl hr ⊢
    exact ⟨_, .node hfirst hsecond, hoperandl.node hoperandr hl hr position⟩
  | @group e strength tokens _ ih =>
    obtain ⟨opening, tail, rfl, hopening, htail⟩ := List.map_eq_cons_iff.mp hlocated
    obtain ⟨inner, closing, rfl, hinner, hclosing⟩ := List.map_eq_append_iff.mp htail
    obtain ⟨⟨stop, item⟩, rfl, hitem⟩ := List.map_eq_singleton_iff.mp hclosing
    obtain ⟨start, item'⟩ := opening
    obtain rfl : item = .closing := hitem
    obtain rfl : item' = .opening := hopening
    obtain ⟨p, hp, hoperand⟩ := ih hinner
    exact ⟨p, hp, hoperand.group unbreakable start stop⟩

/-! ### Values -/

/-- The value of an expression, computed with the operators of the calculator. -/
def value : Expr → Except Fault Value
  | literal numeral =>
    match Value.ofInt? (Text.natOfDigits numeral.digits) with
    | some v => .ok v
    | none => .error (.literalTooLarge (String.ofList numeral.digits))
  | node op left right => left.value.bind fun l => right.value.bind fun r => op.apply l r

theorem map_toInt_value (e : Expr) : e.value.map Value.toInt = e.result := by
  induction e with
  | literal numeral =>
    rw [value, result]
    cases hvalue : Value.ofInt? (Text.natOfDigits numeral.digits) with
    | some v =>
      have htoInt := Value.ofInt?_eq_some_iff.mp hvalue
      rw [if_pos (htoInt ▸ v.le_greatest), ← htoInt]
      rfl
    | none =>
      -- no numeral is below the range, so this one is above it
      have hrange := Value.ofInt?_eq_none_iff.mp hvalue
      have hleast : Value.least ≤ (Text.natOfDigits numeral.digits : Int) :=
        Int.le_trans (by decide) (Int.natCast_nonneg _)
      rw [if_neg fun hle => hrange ⟨hleast, hle⟩]
      rfl
  | node op left right ihl ihr =>
    rw [value, result, ← ihl, ← ihr]
    cases left.value with
    | error fault => rfl
    | ok l =>
      cases right.value with
      | error fault => rfl
      | ok r => exact Operator.map_toInt_apply op l r

/-- **Code in postorder gives the value of the expression**, or stops at the fault that comes
first in its computation. -/
theorem Codes.gives {e : Expr} {p : Program} (h : Codes e p) : p.Gives e.value := by
  induction h with
  | value hvalue =>
    intro operands
    rw [Expr.value, hvalue]
    rfl
  | tooLarge hvalue =>
    intro operands
    rw [Expr.value, hvalue]
    rfl
  | @node op left right first second position _ _ ihl ihr => exact ihl.node ihr op position

/-! ### Texts of expressions -/

theorem Written.legible {e : Expr} {strength : Nat} {ts : List Token}
    (h : Written e strength ts) : ∀ token ∈ ts, token.Legible := by
  induction h with
  | literal numeral =>
    intro token ht
    obtain rfl := List.mem_singleton.mp ht
    exact numeral.isNumeral
  | node _ _ _ _ ihl ihr =>
    intro token ht
    rcases List.mem_append.mp ht with ht | ht
    · exact ihl token ht
    · rcases List.mem_cons.mp ht with rfl | ht
      · trivial
      · exact ihr token ht
  | group _ ih =>
    intro token ht
    rw [List.cons_append, List.mem_cons, List.mem_append, List.mem_singleton] at ht
    rcases ht with rfl | ht | rfl
    · trivial
    · exact ih token ht
    · trivial

/-- No number of a written expression follows another. -/
theorem Written.isChain {e : Expr} {strength : Nat} {ts : List Token}
    (h : Written e strength ts) :
    ts.IsChain fun a b => a.isNumber = false ∨ b.isNumber = false := by
  induction h with
  | literal numeral => exact List.isChain_singleton _
  | @node op left right l r before behind _ _ _ _ ihl ihr =>
    refine List.isChain_append.mpr ⟨ihl, List.isChain_cons.mpr ⟨?_, ihr⟩, ?_⟩
    · exact fun _ _ => .inl rfl
    · intro a _ b hb
      obtain rfl := Option.some.inj hb
      exact .inr rfl
  | @group e strength tokens _ ih =>
    refine List.isChain_cons.mpr ⟨fun _ _ => .inl rfl, List.isChain_append.mpr ⟨ih, ?_, ?_⟩⟩
    · exact List.isChain_singleton _
    · intro a _ b hb
      obtain rfl := Option.some.inj hb
      exact .inr rfl

theorem Written.unclosedTokens {e : Expr} {strength : Nat} {ts : List Token}
    (h : Written e strength ts) {located : List (Located Token)}
    (hlocated : located.map Located.item = ts) (openings : List Nat)
    (rest : List (Located Token)) :
    unclosedTokens openings (located ++ rest) = unclosedTokens openings rest := by
  induction h generalizing located openings rest with
  | literal numeral =>
    obtain ⟨⟨position, item⟩, rfl, hitem⟩ := List.map_eq_singleton_iff.mp hlocated
    obtain rfl : item = .number numeral.digits := hitem
    rfl
  | node _ _ _ _ ihl ihr =>
    obtain ⟨before, tail, rfl, hbefore, htail⟩ := List.map_eq_append_iff.mp hlocated
    obtain ⟨⟨position, item⟩, behind, rfl, hitem, hbehind⟩ := List.map_eq_cons_iff.mp htail
    rw [List.append_assoc, ihl hbefore]
    obtain rfl : item = .operator _ := hitem
    exact ihr hbehind openings rest
  | group _ ih =>
    obtain ⟨⟨start, item⟩, tail, rfl, hitem, htail⟩ := List.map_eq_cons_iff.mp hlocated
    obtain ⟨inner, closing, rfl, hinner, hclosing⟩ := List.map_eq_append_iff.mp htail
    obtain ⟨⟨stop, item'⟩, rfl, hitem'⟩ := List.map_eq_singleton_iff.mp hclosing
    obtain rfl : item = .opening := hitem
    obtain rfl : item' = .closing := hitem'
    have hgroup := ih hinner (start :: openings) (⟨stop, .closing⟩ :: rest)
    rw [List.cons_append, List.append_assoc]
    exact hgroup

end Expr

/-- A text that spells an expression passes the check, and its program is the code of the
expression in postorder. -/
theorem program_of_spells {e : Expr} {strength : Nat} {ts : List Token} {text : String}
    (hwritten : e.Written strength ts) (hspells : Spells ts text.toList) :
    check .lenient text = .ok () ∧ e.Codes (program text) := by
  have hitems := map_item_tokensFrom hspells hwritten.legible hwritten.isChain 0
  constructor
  · have hclosed := hwritten.unclosedTokens hitems [] []
    rw [List.append_nil] at hclosed
    rw [check_lenient]
    exact (checkTokens_eq_ok_iff _).mpr hclosed
  · obtain ⟨p, hp, hoperand⟩ := Expr.run_written hwritten hitems
    rw [program_eq_run, hoperand.run_eq]
    exact hp

/-- **Every text of an expression evaluates to the result of the expression**, or to the first
fault on the way from its left operands to its right ones. -/
theorem outcome_evaluate_written {e : Expr} {strength : Nat} {ts : List Token} {text : String}
    (hwritten : e.Written strength ts) (hspells : Spells ts text.toList) :
    (evaluate .lenient text).outcome.map Value.toInt = e.result := by
  obtain ⟨hcheck, hcodes⟩ := program_of_spells hwritten hspells
  rw [evaluate, hcheck]
  show (program text).evaluate.outcome.map Value.toInt = _
  rw [hcodes.gives.outcome_evaluate]
  exact e.map_toInt_value

theorem outcome_evaluate_difference :
    (evaluate .lenient "9 - (2)*3").outcome.map Value.toInt = .ok 3 := by
  have hproduct : Expr.Written (.node .mul (.literal ⟨['2'], rfl⟩) (.literal ⟨['3'], rfl⟩)) 2
      [.opening, .number ['2'], .closing, .operator .mul, .number ['3']] :=
    .node (.group (.literal _)) (.literal _) (by decide) (by decide)
  have hwritten : Expr.Written (.node .sub (.literal ⟨['9'], rfl⟩) _) 1 _ :=
    .node (.literal _) hproduct (by decide) (by decide)
  have hspells : Spells [.number ['9'], .operator .sub, .opening, .number ['2'], .closing,
      .operator .mul, .number ['3']] "9 - (2)*3".toList := by
    have hblank : ∀ c ∈ [' '], Text.isBlank c = true := by
      intro c hc
      obtain rfl := List.mem_singleton.mp hc
      decide
    have hnone : ∀ c ∈ [], Text.isBlank c = true := by
      intro c hc
      exact absurd hc List.not_mem_nil
    exact .cons hnone <| .cons hblank <| .cons hblank <| .cons hnone <| .cons hnone <|
      .cons hnone <| .cons hnone <| .nil hnone
  exact outcome_evaluate_written hwritten hspells

end Calculator.Infix
