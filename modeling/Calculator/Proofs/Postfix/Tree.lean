/-
Trees in postfix notation.

A text in postfix notation has a value exactly if its words are the postorder of a tree of
operators over integers and every result in that tree is a value.  Nothing is asked of the text
but its words, and the tree is computed in unbounded integers.

* `Tree.Computes.effect_ofWords` — the words of a tree put its value on the operands;
* `exists_forest` — words that leave some operands are the postorders of as many trees, one for
  each operand;
* `outcome_evaluate_iff_postorder` — so a text has a value exactly if its words are the
  postorder of one tree.

Design notes.  A stack of operands is a forest seen from its roots: each operand is the value
of a tree whose words have been read, the last tree on top.  A number plants a tree, and an
operator joins the two on top.
-/
import Mathlib.Data.List.Forall2
import Calculator.Proofs.Arithmetic
import Calculator.Proofs.Postfix.Reading
import Calculator.Proofs.Words

namespace Calculator.Postfix

/-- A tree of operators over integers, which are written as numerals with an optional sign. -/
inductive Tree where
  | leaf (numeral : Text.SignedNumeral)
  | node (op : Operator) (left right : Tree)

namespace Tree

/-- The words of a tree in postorder: the left operand, the right one, the operator. -/
def words : Tree → List (List Char)
  | leaf numeral => [numeral.text]
  | node op left right => left.words ++ right.words ++ [[op.symbol]]

/-- The value of a tree in unbounded integers. -/
def value : Tree → Int
  | leaf numeral => numeral.toInt
  | node op left right => op.exact left.value right.value

/-- Whether every integer of a tree is a value and every operator admits its operands. -/
def Admissible : Tree → Prop
  | leaf numeral => Value.InRange numeral.toInt
  | node op left right => left.Admissible ∧ right.Admissible ∧ op.Admits left.value right.value

theorem Admissible.inRange {t : Tree} (h : t.Admissible) : Value.InRange t.value := by
  cases t with
  | leaf numeral => exact h
  | node op left right => exact h.2.2.inRange

/-- Whether a tree comes to a value. -/
structure Computes (t : Tree) (v : Value) : Prop where
  admissible : t.Admissible
  value_eq : t.value = v.toInt

theorem Admissible.exists_computes {t : Tree} (h : t.Admissible) : ∃ v, t.Computes v :=
  ⟨⟨t.value, h.inRange.1, h.inRange.2⟩, h, rfl⟩

/-- An operator between trees computes what it computes between their values. -/
theorem computes_node_iff {op : Operator} {left right : Tree} {a b v : Value}
    (ha : left.Computes a) (hb : right.Computes b) :
    (node op left right).Computes v ↔ op.apply a b = .ok v := by
  rw [Operator.apply_eq_ok_iff, ← ha.value_eq, ← hb.value_eq]
  constructor
  · rintro ⟨⟨-, -, hadmits⟩, hvalue⟩
    exact ⟨hadmits, hvalue⟩
  · rintro ⟨hadmits, hvalue⟩
    exact ⟨⟨ha.admissible, hb.admissible, hadmits⟩, hvalue⟩

end Tree

/-! ### Words and trees -/

/-- The words for a number are the leaves that come to it. -/
theorem Token.ofWord_eq_number_iff_leaf {word : Located (List Char)} {v : Value} :
    ofWord word = .ok (.number v) ↔
      ∃ numeral : Text.SignedNumeral,
        numeral.text = word.item ∧ (Tree.leaf numeral).Computes v := by
  rw [ofWord_eq_number_iff, Value.ofText?_eq_some_iff, Text.readInteger?_eq_some_iff]
  constructor
  · rintro ⟨numeral, htext, hvalue⟩
    have hrange : Value.InRange numeral.toInt := by
      rw [hvalue]
      exact ⟨v.least_le, v.le_greatest⟩
    exact ⟨numeral, htext, hrange, hvalue⟩
  · rintro ⟨numeral, htext, -, hvalue⟩
    exact ⟨numeral, htext, hvalue⟩

/-- The words of a forest of operands, the tree on top last. -/
def Tree.forestWords : List Tree → List (List Char)
  | [] => []
  | t :: below => forestWords below ++ t.words

/-- **The words of a tree put its value on the operands.** -/
theorem Tree.Computes.effect_ofWords {t : Tree} {v : Value} (h : t.Computes v)
    {words : List (Located (List Char))} (hwords : words.map Located.item = t.words)
    (operands : Operands) :
    (Program.ofWords words).effect operands = .ok (v :: operands) := by
  induction t generalizing v words operands with
  | leaf numeral =>
    obtain ⟨word, rest, rfl, hitem, hrest⟩ := List.map_eq_cons_iff.mp hwords
    obtain rfl := List.map_eq_nil_iff.mp hrest
    have htoken := Token.ofWord_eq_number_iff_leaf.mpr ⟨numeral, hitem.symm, h⟩
    rw [Program.effect_ofWords_number htoken]
    rfl
  | node op left right ihleft ihright =>
    obtain ⟨before, last, rfl, hbefore, hlast⟩ := List.map_eq_append_iff.mp hwords
    obtain ⟨first, second, rfl, hfirst, hsecond⟩ := List.map_eq_append_iff.mp hbefore
    obtain ⟨word, rest, rfl, hitem, hrest⟩ := List.map_eq_cons_iff.mp hlast
    obtain rfl := List.map_eq_nil_iff.mp hrest
    obtain ⟨a, ha⟩ := h.admissible.1.exists_computes
    obtain ⟨b, hb⟩ := h.admissible.2.1.exists_computes
    have htoken := Token.ofWord_eq_operator_iff.mpr hitem
    have happly := (computes_node_iff ha hb).mp h
    rw [Program.ofWords_append, Program.ofWords_append, Program.effect_andThen,
      Program.effect_andThen, ihleft ha hfirst]
    show Except.bind ((Program.ofWords second).effect (a :: operands)) _ = _
    rw [ihright hb hsecond]
    show (Program.ofWords [word]).effect (b :: a :: operands) = _
    rw [Program.effect_ofWords_operator htoken happly]
    rfl

/-- A word that can be carried out plants a tree on a forest, or joins the two trees on top. -/
theorem exists_forest_cons {word : Located (List Char)} {rest : List (Located (List Char))}
    {forest : List Tree} {operands operands' : Operands}
    (hforest : List.Forall₂ Tree.Computes forest operands)
    (h : (Program.ofWords (word :: rest)).effect operands = .ok operands') :
    ∃ forest' operands₁, List.Forall₂ Tree.Computes forest' operands₁ ∧
      Tree.forestWords forest' = Tree.forestWords forest ++ [word.item] ∧
      (Program.ofWords rest).effect operands₁ = .ok operands' := by
  rcases Program.effect_ofWords_cons_eq_ok h with
    ⟨v, htoken, hrest⟩ | ⟨op, left, right, below, v, htoken, rfl, happly, hrest⟩
  · obtain ⟨numeral, htext, hcomputes⟩ := Token.ofWord_eq_number_iff_leaf.mp htoken
    refine ⟨.leaf numeral :: forest, v :: operands, .cons hcomputes hforest, ?_, hrest⟩
    rw [Tree.forestWords, Tree.words, htext]
  · obtain ⟨r, _, hr, hbelow, rfl⟩ := List.forall₂_cons_right_iff.mp hforest
    obtain ⟨l, trees, hl, htrees, rfl⟩ := List.forall₂_cons_right_iff.mp hbelow
    have hnode := (Tree.computes_node_iff hl hr).mpr happly
    refine ⟨.node op l r :: trees, v :: below, .cons hnode htrees, ?_, hrest⟩
    rw [Tree.forestWords, Tree.forestWords, Tree.forestWords, Tree.words,
      Token.ofWord_eq_operator_iff.mp htoken]
    simp only [List.append_assoc]

/-- **Words that leave operands are the postorders of trees**, one for each operand, if those
in front of them are. -/
theorem exists_forest {words : List (Located (List Char))} {forest : List Tree}
    {operands operands' : Operands} (hforest : List.Forall₂ Tree.Computes forest operands)
    (h : (Program.ofWords words).effect operands = .ok operands') :
    ∃ forest', List.Forall₂ Tree.Computes forest' operands' ∧
      Tree.forestWords forest' = Tree.forestWords forest ++ words.map Located.item := by
  induction words generalizing forest operands with
  | nil =>
    obtain rfl := Except.ok.inj h
    exact ⟨forest, hforest, (List.append_nil _).symm⟩
  | cons word rest ih =>
    obtain ⟨forest₁, operands₁, hforest₁, hwords₁, hrest⟩ := exists_forest_cons hforest h
    obtain ⟨forest', hforest', hwords'⟩ := ih hforest₁ hrest
    refine ⟨forest', hforest', ?_⟩
    rw [hwords', hwords₁, List.append_assoc, List.singleton_append, List.map_cons]

/-- **A text has a value exactly if its words are the postorder of an admissible tree**, and
then the value is that of the tree. -/
theorem outcome_evaluate_iff_postorder (text : String) (v : Value) :
    (evaluate text).outcome = .ok v ↔
      ∃ t : Tree, pieces text.toList = t.words ∧ t.Admissible ∧ t.value = v.toInt := by
  have hwords : (words text.toList).map Located.item = pieces text.toList := by
    rw [words_eq_wordsFrom, map_item_wordsFrom]
  rw [evaluate, Program.outcome_evaluate_eq_ok_iff, ← Program.effect_eq_ok_iff]
  constructor
  · intro h
    obtain ⟨forest, hforest, hforestWords⟩ := exists_forest .nil h
    obtain ⟨t, _, ht, hnil, rfl⟩ := List.forall₂_cons_right_iff.mp hforest
    obtain rfl := List.forall₂_nil_right_iff.mp hnil
    exact ⟨t, hwords.symm.trans hforestWords.symm, ht.admissible, ht.value_eq⟩
  · rintro ⟨t, htree, hadmissible, hvalue⟩
    exact Tree.Computes.effect_ofWords ⟨hadmissible, hvalue⟩ (hwords.trans htree) []

end Calculator.Postfix
