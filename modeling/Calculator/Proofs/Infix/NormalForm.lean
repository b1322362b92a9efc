/-
The postfix form of an expression.

However an expression is written, its postfix form is the postorder of its tree, and the text
of that form shows the tree again, up to leading zeros of its literals.

* `Expr.Codes.count`, `Expr.Codes.items` — code in postorder counts as one operand, and its
  items are the postorder of the expression;
* `Expr.append_postorder_inj` — read from its end, a postorder shows its expression;
* `toPostfix_written` — every text of an expression has the postfix form of the expression, and
  two expressions have the same one exactly if they agree up to leading zeros.

Design notes.  A postorder is read from its end: the last token says whether there are operands
in front of it, and the right operand ends where its own postorder does.
-/
import Calculator.Proofs.Infix.Expression
import Calculator.Proofs.Numerals
import Calculator.Proofs.Postfix.Counting
import Calculator.Proofs.Postfix.Rendering

namespace Calculator.Infix

open Postfix (Program)

/-- The value of a numeral, if it is in range. -/
def Numeral.value? (n : Numeral) : Option Value := Value.ofInt? (Text.natOfDigits n.digits)

theorem Numeral.value?_eq_none_iff {n : Numeral} :
    n.value? = none ↔ ¬Value.InRange (Text.natOfDigits n.digits) :=
  Value.ofInt?_eq_none_iff

/-- Numerals that are values are the same value exactly if they agree up to leading zeros. -/
theorem Numeral.value?_eq_iff {m n : Numeral} {v : Value} (hm : m.value? = some v) :
    n.value? = some v ↔ Text.significant m.digits = Text.significant n.digits := by
  rw [value?, Value.ofInt?_eq_some_iff] at hm ⊢
  rw [← Text.natOfDigits_eq_iff m.isNumeral n.isNumeral, hm]
  exact ⟨fun h => by omega, fun h => by omega⟩

namespace Expr

/-- The literals of an expression, from left to right. -/
def literals : Expr → List Numeral
  | literal numeral => [numeral]
  | node _ left right => left.literals ++ right.literals

/-- The tokens of an expression in postorder: the left operand, the right one, the operator.  A
literal that is no value has no token. -/
def postorder : Expr → List Postfix.Token
  | literal numeral => (numeral.value?.map Postfix.Token.number).toList
  | node op left right => left.postorder ++ right.postorder ++ [.operator op]

/-- The leftmost literal that is no value. -/
def tooLarge? (e : Expr) : Option Numeral := e.literals.find? fun n => n.value?.isNone

/-- The postfix form of an expression, which it has unless a literal is no value. -/
def postfixForm (e : Expr) : Except Fault (List Postfix.Token) :=
  match e.tooLarge? with
  | some numeral => .error (.literalTooLarge (String.ofList numeral.digits))
  | none => .ok e.postorder

/-- Whether all literals of an expression are values. -/
def InRange (e : Expr) : Prop := ∀ n ∈ e.literals, Value.InRange (Text.natOfDigits n.digits)

instance (e : Expr) : Decidable e.InRange :=
  inferInstanceAs (Decidable (∀ n ∈ e.literals, Value.InRange (Text.natOfDigits n.digits)))

/-- Whether two expressions are the same, up to leading zeros of their literals. -/
def Agrees : Expr → Expr → Prop
  | literal m, literal n => Text.significant m.digits = Text.significant n.digits
  | node op left right, node op' left' right' =>
    op = op' ∧ left.Agrees left' ∧ right.Agrees right'
  | _, _ => False

theorem inRange_node_iff (op : Operator) (left right : Expr) :
    (node op left right).InRange ↔ left.InRange ∧ right.InRange :=
  List.forall_mem_append

theorem tooLarge?_node (op : Operator) (left right : Expr) :
    (node op left right).tooLarge? = left.tooLarge?.or right.tooLarge? :=
  List.find?_append

theorem tooLarge?_eq_none_iff (e : Expr) : e.tooLarge? = none ↔ e.InRange := by
  rw [tooLarge?, List.find?_eq_none]
  refine forall₂_congr fun n _ => ?_
  rw [Option.isNone_iff_eq_none, Numeral.value?_eq_none_iff, Decidable.not_not]

/-! ### Code in postorder -/

/-- Code in postorder counts as one operand, or stops at the leftmost literal that is no
value. -/
theorem Codes.count {e : Expr} {p : Program} (h : Codes e p) (operands : Nat) :
    p.count operands =
      match e.tooLarge? with
      | some numeral => .error (.literalTooLarge (String.ofList numeral.digits))
      | none => .ok (operands + 1) := by
  induction h generalizing operands with
  | @value numeral v position hvalue =>
    have hnone : (literal numeral).tooLarge? = none := by
      simp [tooLarge?, literals, Numeral.value?, hvalue]
    rw [hnone]
    rfl
  | @tooLarge numeral hvalue =>
    have hsome : (literal numeral).tooLarge? = some numeral := by
      simp [tooLarge?, literals, Numeral.value?, hvalue]
    rw [hsome]
    rfl
  | @node op left right first second position _ _ ihl ihr =>
    rw [Program.count_andThen, ihl, tooLarge?_node]
    cases left.tooLarge? with
    | some numeral => rfl
    | none =>
      -- the right operand is counted on top of the left one, and the operator takes one away
      show Program.count _ (operands + 1) = _
      rw [Program.count_andThen, ihr, Option.none_or]
      cases right.tooLarge? with
      | some numeral => rfl
      | none =>
        show Program.count { code := [⟨position, .operator op⟩], fault := none }
          (operands + 1 + 1) = .ok (operands + 1)
        rw [Program.count, Postfix.countAfter, if_neg (by omega)]
        rfl

/-- The items of code in postorder are the postorder of the expression. -/
theorem Codes.items {e : Expr} {p : Program} (h : Codes e p) (he : e.InRange) :
    p.fault = none ∧ p.code.map Located.item = e.postorder := by
  induction h with
  | @value numeral v position hvalue =>
    refine ⟨rfl, ?_⟩
    rw [postorder, Numeral.value?, hvalue]
    rfl
  | @tooLarge numeral hvalue =>
    exact absurd (he numeral (by simp [literals])) (Value.ofInt?_eq_none_iff.mp hvalue)
  | @node op left right first second position _ _ ihl ihr =>
    obtain ⟨hl, hr⟩ := (inRange_node_iff op left right).mp he
    obtain ⟨hfaultl, hiteml⟩ := ihl hl
    obtain ⟨hfaultr, hitemr⟩ := ihr hr
    simp only [Program.andThen, hfaultl, hfaultr, Program.after, List.map_append, hiteml,
      hitemr, postorder, List.append_assoc, List.map_cons, List.map_nil, and_self]

/-! ### Reading a postorder -/

theorem postorder_literal {numeral : Numeral} (h : (literal numeral).InRange) :
    ∃ v, numeral.value? = some v ∧ (literal numeral).postorder = [.number v] := by
  have hrange := h numeral (by simp [literals])
  cases hvalue : numeral.value? with
  | none => exact absurd hrange (Numeral.value?_eq_none_iff.mp hvalue)
  | some v => exact ⟨v, rfl, by rw [postorder, hvalue]; rfl⟩

theorem append_postorder_node (before : List Postfix.Token) (op : Operator)
    (left right : Expr) :
    before ++ (node op left right).postorder =
      before ++ left.postorder ++ right.postorder ++ [.operator op] := by
  simp only [postorder, List.append_assoc]

/-- **Read from its end, a postorder shows its expression**, and where it begins. -/
theorem append_postorder_inj {e e' : Expr} (he : e.InRange) (he' : e'.InRange)
    {before before' : List Postfix.Token}
    (h : before ++ e.postorder = before' ++ e'.postorder) :
    before = before' ∧ e.Agrees e' := by
  induction e generalizing e' before before' with
  | literal m =>
    obtain ⟨v, hv, hpostorder⟩ := postorder_literal he
    rw [hpostorder] at h
    cases e' with
    | literal n =>
      obtain ⟨w, hw, hpostorder'⟩ := postorder_literal he'
      rw [hpostorder'] at h
      obtain ⟨hbefore, hnumber⟩ := List.append_singleton_inj.mp h
      obtain rfl := Postfix.Token.number.inj hnumber
      exact ⟨hbefore, (Numeral.value?_eq_iff hv).mp hw⟩
    | node op' left' right' =>
      rw [append_postorder_node] at h
      exact absurd (List.append_singleton_inj.mp h).2 (by simp)
  | node op left right ihl ihr =>
    obtain ⟨hl, hr⟩ := (inRange_node_iff op left right).mp he
    rw [append_postorder_node] at h
    cases e' with
    | literal n =>
      obtain ⟨w, hw, hpostorder'⟩ := postorder_literal he'
      rw [hpostorder'] at h
      exact absurd (List.append_singleton_inj.mp h).2 (by simp)
    | node op' left' right' =>
      obtain ⟨hl', hr'⟩ := (inRange_node_iff op' left' right').mp he'
      rw [append_postorder_node] at h
      obtain ⟨hoperands, hop⟩ := List.append_singleton_inj.mp h
      obtain rfl := Postfix.Token.operator.inj hop
      -- now the right operand is at the end, and behind it the left one
      obtain ⟨hleft, hright⟩ := ihr hr hr' hoperands
      obtain ⟨hbefore, hleft⟩ := ihl hl hl' hleft
      exact ⟨hbefore, rfl, hleft, hright⟩

theorem Agrees.postorder_eq {e e' : Expr} (h : e.Agrees e') (he : e.InRange) :
    e.postorder = e'.postorder := by
  induction e generalizing e' with
  | literal m =>
    cases e' with
    | literal n =>
      obtain ⟨v, hv, hpostorder⟩ := postorder_literal he
      rw [hpostorder, postorder, (Numeral.value?_eq_iff hv).mpr h]
      rfl
    | node op' left' right' => exact absurd h id
  | node op left right ihl ihr =>
    cases e' with
    | literal n => exact absurd h id
    | node op' left' right' =>
      obtain ⟨hl, hr⟩ := (inRange_node_iff op left right).mp he
      obtain ⟨rfl, hleft, hright⟩ := h
      rw [postorder, postorder, ihl hleft hl, ihr hright hr]

/-- Expressions have the same postorder exactly if they agree up to leading zeros. -/
theorem postorder_eq_iff {e e' : Expr} (he : e.InRange) (he' : e'.InRange) :
    e.postorder = e'.postorder ↔ e.Agrees e' := by
  constructor
  · intro h
    exact (append_postorder_inj he he' (congrArg ([] ++ ·) h)).2
  · intro h
    exact h.postorder_eq he

theorem postfixForm_of_inRange {e : Expr} (h : e.InRange) : e.postfixForm = .ok e.postorder := by
  rw [postfixForm, (tooLarge?_eq_none_iff e).mpr h]

end Expr

/-! ### Texts of expressions -/

/-- A text of an expression that passes the check has the postfix form of the expression. -/
theorem toPostfix_eq_postfixForm {e : Expr} {strength : Nat} {ts : List Token} {text : String}
    (hwritten : e.Written strength ts) (hspells : Spells ts text.toList)
    {strictness : Strictness} (hcheck : check strictness text = .ok ()) :
    toPostfix strictness text = e.postfixForm := by
  obtain ⟨-, hcodes⟩ := program_of_spells hwritten hspells
  rw [toPostfix, hcheck]
  show (program text).tokens = _
  rw [Program.tokens_eq_bind_count, hcodes.count, Expr.postfixForm]
  cases hlarge : e.tooLarge? with
  | some numeral => rfl
  | none =>
    obtain ⟨-, hitems⟩ := hcodes.items ((Expr.tooLarge?_eq_none_iff e).mp hlarge)
    rw [← hitems]
    rfl

/-- **The postfix form of a text is a normal form of its expression.**  However the expression
is written, it is the postorder of the expression, or the leftmost literal that is no value is
to blame, and a strict reader only asks for a pair of parentheses; and expressions have postfix
forms of the same text exactly if they agree up to leading zeros. -/
theorem toPostfix_written {e e' : Expr} {strength strength' : Nat} {ts ts' : List Token}
    {text text' : String} (hwritten : e.Written strength ts) (hspells : Spells ts text.toList)
    (hwritten' : e'.Written strength' ts') (hspells' : Spells ts' text'.toList) :
    toPostfix .lenient text = e.postfixForm ∧
      (Parentheses.hasPair text.toList = true → toPostfix .strict text = e.postfixForm) ∧
      (e.InRange → e'.InRange →
        ∃ tokens tokens', toPostfix .lenient text = .ok tokens ∧
          toPostfix .lenient text' = .ok tokens' ∧
          (Postfix.render tokens = Postfix.render tokens' ↔ e.Agrees e')) := by
  obtain ⟨hcheck, -⟩ := program_of_spells hwritten hspells
  obtain ⟨hcheck', -⟩ := program_of_spells hwritten' hspells'
  have hform := toPostfix_eq_postfixForm hwritten hspells hcheck
  have hform' := toPostfix_eq_postfixForm hwritten' hspells' hcheck'
  refine ⟨hform, ?_, ?_⟩
  · intro hpair
    exact toPostfix_eq_postfixForm hwritten hspells (check_strict_of_hasPair hpair hcheck)
  · intro he he'
    rw [Expr.postfixForm_of_inRange he] at hform
    rw [Expr.postfixForm_of_inRange he'] at hform'
    refine ⟨e.postorder, e'.postorder, hform, hform', ?_⟩
    rw [Postfix.render_injective.eq_iff, Expr.postorder_eq_iff he he']

/-- A regrouped expression is another one, and its postfix form has another text.  The product
is put together before the sum in both. -/
theorem toPostfix_regrouped :
    toPostfix .strict "9-(03 + 4*2)" =
        .ok [.number ⟨9, by decide, by decide⟩, .number ⟨3, by decide, by decide⟩,
          .number ⟨4, by decide, by decide⟩, .number ⟨2, by decide, by decide⟩, .operator .mul,
          .operator .add, .operator .sub] ∧
      toPostfix .lenient "9-3+4*2" =
        .ok [.number ⟨9, by decide, by decide⟩, .number ⟨3, by decide, by decide⟩,
          .operator .sub, .number ⟨4, by decide, by decide⟩, .number ⟨2, by decide, by decide⟩,
          .operator .mul, .operator .add] ∧
      ∃ tokens tokens', toPostfix .lenient "9-(03 + 4*2)" = .ok tokens ∧
        toPostfix .lenient "9-3+4*2" = .ok tokens' ∧
        Postfix.render tokens ≠ Postfix.render tokens' := by
  have hproduct :
      Expr.Written (.node .mul (.literal ⟨['4'], rfl⟩) (.literal ⟨['2'], rfl⟩)) 2 _ :=
    .node (.literal _) (.literal _) (by decide) (by decide)
  have hsum : Expr.Written (.node .add (.literal ⟨['0', '3'], rfl⟩) _) 1 _ :=
    .node (.literal _) hproduct (by decide) (by decide)
  have hwritten : Expr.Written (.node .sub (.literal ⟨['9'], rfl⟩) _) 1 _ :=
    .node (.literal _) (.group hsum) (by decide) (by decide)
  have hdifference :
      Expr.Written (.node .sub (.literal ⟨['9'], rfl⟩) (.literal ⟨['3'], rfl⟩)) 1 _ :=
    .node (.literal _) (.literal _) (by decide) (by decide)
  have hwritten' : Expr.Written (.node .add _ _) 1 _ :=
    .node hdifference hproduct (by decide) (by decide)
  have hspells := spells_tokensFrom 0 "9-(03 + 4*2)".toList
  have hspells' := spells_tokensFrom 0 "9-3+4*2".toList
  rw [show (tokensFrom 0 "9-(03 + 4*2)".toList).map Located.item =
    [.number ['9'], .operator .sub, .opening, .number ['0', '3'], .operator .add, .number ['4'],
      .operator .mul, .number ['2'], .closing] from by decide +kernel] at hspells
  rw [show (tokensFrom 0 "9-3+4*2".toList).map Located.item =
    [.number ['9'], .operator .sub, .number ['3'], .operator .add, .number ['4'],
      .operator .mul, .number ['2']] from by decide +kernel] at hspells'
  obtain ⟨-, hstrict, hconsequence⟩ := toPostfix_written hwritten hspells hwritten' hspells'
  obtain ⟨hlenient, -, -⟩ := toPostfix_written hwritten' hspells' hwritten hspells
  refine ⟨hstrict (by decide), hlenient, ?_⟩
  obtain ⟨tokens, tokens', htokens, htokens', hrender⟩ := hconsequence
    (by decide) (by decide)
  refine ⟨tokens, tokens', htokens, htokens', ?_⟩
  intro h
  -- one is a difference, and the other one a sum
  exact absurd (hrender.mp h).1 (by decide)

end Calculator.Infix
