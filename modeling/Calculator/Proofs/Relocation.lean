/-
Relocation.

Positions are carried along and never looked at.  Whatever reads or carries out located items
does the same if all of them are moved to other places, and a fault then names the place that
its item was moved to.

* `Located.move`, `Fault.move`, `Program.move` — items, faults and programs at other places;
* `Postfix.effect_move`, `Program.effect_move` — moving code moves the fault at which it stops;
* `Program.outcome_evaluate_move`, `Program.tokens_move` — so it does in an evaluation and in a
  listing;
* `MovesWithText`, `Program.ofWords_move` — a text that starts elsewhere has the same words
  elsewhere, and moved words spell a moved program;
* `MovesWithText.outcome_replaced` — a part of a text can be replaced if only its surroundings
  matter for the outcome;
* `Located.exists_move` — the same items in another layout are moved items;
* `Fault.apply_position?_of_move_eq` — a place that a move changes is not named by a fault that
  the move leaves alone.

Design notes.  The last statement is how one shows that a fault names no place in some part of
a text: it is the same fault for the text with that part moved away.
-/
import Mathlib.Logic.Function.Basic
import Calculator.Postfix.Reading
import Calculator.Proofs.Arithmetic
import Calculator.Proofs.Postfix.Execution
import Calculator.Proofs.Words

namespace Calculator

namespace Located

variable {α : Type}

/-- The item at the place that a function gives for its old one. -/
def move (f : Nat → Nat) (x : Located α) : Located α := ⟨f x.position, x.item⟩

/-- Items that stand one behind the other can be moved to the places that they have in any other
layout. -/
theorem exists_move {xs ys : List (Located α)}
    (hordered : xs.Pairwise fun a b => a.position < b.position)
    (hitems : xs.map item = ys.map item) : ∃ f, xs.map (move f) = ys := by
  induction xs generalizing ys with
  | nil =>
    obtain rfl := List.map_eq_nil_iff.mp hitems.symm
    exact ⟨id, rfl⟩
  | cons x xs ih =>
    obtain ⟨y, ys, rfl, hitem, hrest⟩ := List.map_eq_cons_iff.mp hitems.symm
    obtain ⟨hfirst, hordered⟩ := List.pairwise_cons.mp hordered
    obtain ⟨f, hf⟩ := ih hordered hrest.symm
    -- the items behind the first one stand at other places, so these stay as they are
    refine ⟨Function.update f x.position y.position, ?_⟩
    have hx : x.move (Function.update f x.position y.position) = y := by
      rw [move, Function.update_self, ← hitem]
    have hxs : xs.map (move (Function.update f x.position y.position)) = xs.map (move f) := by
      apply List.map_congr_left
      intro z hz
      rw [move, move, Function.update_of_ne (Nat.ne_of_gt (hfirst z hz))]
    rw [List.map_cons, hx, hxs, hf]

end Located

namespace Fault

/-- The fault with its place moved, if it names one. -/
def move (f : Nat → Nat) : Fault → Fault
  | strayCharacter c position => strayCharacter c (f position)
  | malformedWord word position => malformedWord word (f position)
  | unclosedParen position => unclosedParen (f position)
  | unopenedParen position => unopenedParen (f position)
  | unbalancedParen position => unbalancedParen (f position)
  | missingOperands op position => missingOperands op (f position)
  | fault => fault

theorem move_id (fault : Fault) : fault.move id = fault := by
  cases fault <;> rfl

/-- The place that a fault names. -/
def position? : Fault → Option Nat
  | strayCharacter _ position => some position
  | malformedWord _ position => some position
  | unclosedParen position => some position
  | unopenedParen position => some position
  | unbalancedParen position => some position
  | missingOperands _ position => some position
  | _ => none

theorem position?_move (f : Nat → Nat) (fault : Fault) :
    (fault.move f).position? = fault.position?.map f := by
  cases fault <;> rfl

/-- A fault that a move leaves alone names only a place that stays. -/
theorem apply_position?_of_move_eq {f : Nat → Nat} {fault : Fault} (h : fault.move f = fault)
    {position : Nat} (hposition : fault.position? = some position) : f position = position := by
  have hmove := fault.position?_move f
  rw [h, hposition] at hmove
  exact (Option.some.inj hmove).symm

end Fault

theorem mapError_bind {α β : Type} (m : Fault → Fault) (x : Except Fault α)
    (next : α → Except Fault β) :
    (x.bind next).mapError m = (x.mapError m).bind fun a => (next a).mapError m := by
  cases x <;> rfl

theorem Operator.move_of_apply_eq_error {op : Operator} {left right : Value} {fault : Fault}
    (h : op.apply left right = .error fault) (f : Nat → Nat) : fault.move f = fault := by
  rcases apply_eq_error h with rfl | rfl | rfl
  · rfl
  · rfl
  · rfl

/-! ### Items that move with their text -/

/-- A reading that gives the same items wherever its text starts, at places that move with the
text. -/
structure MovesWithText {α : Type} (read : Nat → List Char → List (Located α)) : Prop where
  map_move : ∀ {f : Nat → Nat} {position position' : Nat} {text : List Char},
    (∀ i < text.length, f (position + i) = position' + i) →
    (read position text).map (Located.move f) = read position' text

/-- What moves a text moves the part of it behind its first characters in the same way. -/
theorem apply_behind {f : Nat → Nat} {position position' count : Nat} {text behind : List Char}
    (hlength : text.length = count + behind.length)
    (h : ∀ i < text.length, f (position + i) = position' + i) :
    ∀ i < behind.length, f (position + count + i) = position' + count + i := by
  intro i hi
  rw [Nat.add_assoc, h (count + i) (by omega), Nat.add_assoc]

/-- A text that starts elsewhere has the same words elsewhere. -/
theorem movesWithText_wordsFrom : MovesWithText wordsFrom where
  map_move := by
    intro f position position' text h
    fun_induction wordsFrom position text generalizing position' with
    | case1 => rw [wordsFrom_nil, List.map_nil]
    | case2 position c text hblank ih =>
      rw [wordsFrom_blank hblank]
      exact ih (apply_behind (Nat.add_comm _ 1) h)
    | case3 position c text hpart ih =>
      have hlength := Scanner.length_takeWhile_add_dropWhile Word.isPart text
      have hhead : f position = position' := h 0 (by simp)
      rw [wordsFrom_part (by simpa using hpart), List.map_cons, Located.move, hhead]
      -- the next word begins behind this one, whose first character is already split off
      congr 1
      have hbehind : (c :: text).length =
          (text.takeWhile Word.isPart).length + 1 + (text.dropWhile Word.isPart).length := by
        rw [List.length_cons]
        omega
      have hmove := apply_behind hbehind h
      exact ih hmove

/-! ### Replacing groups

A group is a part of a text together with the two characters around it, which are parentheses in
infix notation and spaces in postfix notation. -/

/-- The place in a text that a place behind a group has after the group was replaced: `start`
is the place of the group, and `old` and `new` are the lengths inside. -/
def replaced (start old new : Nat) (position : Nat) : Nat :=
  if position < start then position else position + new - old

/-- Moves the places in a group on by one, and no other. -/
def inGroup (start length : Nat) (position : Nat) : Nat :=
  if start ≤ position ∧ position < start + length + 2 then position + 1 else position

/-- A fault that stays as it is if the places in a group are moved names none of them. -/
theorem Fault.position_of_move_inGroup {start length : Nat} {fault : Fault}
    (h : fault.move (inGroup start length) = fault) {position : Nat}
    (hposition : fault.position? = some position) :
    position < start ∨ start + length + 2 ≤ position := by
  have hstay := apply_position?_of_move_eq h hposition
  by_cases hin : start ≤ position ∧ position < start + length + 2
  · rw [inGroup, if_pos hin] at hstay
    omega
  · omega

namespace MovesWithText

variable {α β : Type} {read : Nat → List Char → List (Located α)}
  {outcome : List (Located α) → List (Located α) → Except Fault β}

/-- **A group can be replaced** in a text whose outcome depends on the items on its two sides.
The outcome stays, except that the place of a fault behind the group moves with the text. -/
theorem outcome_replaced (hread : MovesWithText read)
    (houtcome : ∀ f before behind,
      outcome (before.map (Located.move f)) (behind.map (Located.move f)) =
        (outcome before behind).mapError (Fault.move f))
    (pre post : List Char) (old new : Nat) :
    outcome (read 0 pre) (read (pre.length + new + 2) post) =
      (outcome (read 0 pre) (read (pre.length + old + 2) post)).mapError
        (Fault.move (replaced pre.length old new)) := by
  have hbefore : (read 0 pre).map (Located.move (replaced pre.length old new)) =
      read 0 pre := by
    apply hread.map_move
    intro i hi
    rw [replaced, if_pos (by omega)]
  have hbehind : (read (pre.length + old + 2) post).map
      (Located.move (replaced pre.length old new)) = read (pre.length + new + 2) post := by
    apply hread.map_move
    intro i _
    rw [replaced, if_neg (by omega)]
    omega
  rw [← houtcome, hbefore, hbehind]

/-- No fault names a place in the group: it is the same fault if these places are moved. -/
theorem position_of_outcome (hread : MovesWithText read)
    (houtcome : ∀ f before behind,
      outcome (before.map (Located.move f)) (behind.map (Located.move f)) =
        (outcome before behind).mapError (Fault.move f))
    {pre post : List Char} {length : Nat} {fault : Fault}
    (h : outcome (read 0 pre) (read (pre.length + length + 2) post) = .error fault)
    {position : Nat} (hposition : fault.position? = some position) :
    position < pre.length ∨ pre.length + length + 2 ≤ position := by
  have hbefore : (read 0 pre).map (Located.move (inGroup pre.length length)) = read 0 pre := by
    apply hread.map_move
    intro i hi
    rw [inGroup, if_neg (by omega)]
  have hbehind : (read (pre.length + length + 2) post).map
      (Located.move (inGroup pre.length length)) = read (pre.length + length + 2) post := by
    apply hread.map_move
    intro i _
    rw [inGroup, if_neg (by omega)]
  have hmove := houtcome (inGroup pre.length length) (read 0 pre)
    (read (pre.length + length + 2) post)
  rw [hbefore, hbehind, h] at hmove
  exact Fault.position_of_move_inGroup (Except.error.inj hmove).symm hposition

end MovesWithText

/-! ### Programs -/

namespace Postfix

theorem effect_move (f : Nat → Nat) (code : List (Located Token)) (operands : Operands) :
    effect (code.map (Located.move f)) operands =
      (effect code operands).mapError (Fault.move f) := by
  induction code generalizing operands with
  | nil => rfl
  | cons token code ih =>
    obtain ⟨position, value | op⟩ := token
    · exact ih (value :: operands)
    · rcases operands with _ | ⟨right, _ | ⟨left, below⟩⟩
      · rfl
      · rfl
      · rw [List.map_cons]
        show effect (⟨f position, .operator op⟩ :: code.map (Located.move f)) _ = _
        rw [effect_operator, effect_operator]
        cases happly : op.apply left right with
        | error fault =>
          show Except.error fault = .error (fault.move f)
          rw [Operator.move_of_apply_eq_error happly]
        | ok result => exact ih (result :: below)

/-- The program with its code and its fault moved. -/
def Program.move (f : Nat → Nat) (p : Program) : Program :=
  { code := p.code.map (Located.move f), fault := p.fault.map (Fault.move f) }

theorem Program.move_after (f : Nat → Nat) (code : List (Located Token)) (p : Program) :
    (p.after code).move f = (p.move f).after (code.map (Located.move f)) := by
  simp only [move, after, List.map_append]

theorem Program.effect_move (f : Nat → Nat) (p : Program) (operands : Operands) :
    (p.move f).effect operands = (p.effect operands).mapError (Fault.move f) := by
  rw [effect, effect, move, Postfix.effect_move]
  cases Postfix.effect p.code operands with
  | error fault => rfl
  | ok operands' => cases p.fault <;> rfl

/-- Operands that are left over are no fault of a place. -/
theorem single_move (f : Nat → Nat) (operands : Operands) :
    (single operands).mapError (Fault.move f) = single operands := by
  rcases operands with _ | ⟨v, _ | ⟨v', operands⟩⟩
  · rfl
  · rfl
  · rfl

/-- An evaluation names its fault at the new place. -/
theorem Program.outcome_evaluate_move (f : Nat → Nat) (p : Program) :
    (p.move f).evaluate.outcome = p.evaluate.outcome.mapError (Fault.move f) := by
  rw [outcome_evaluate, outcome_evaluate, effect_move, mapError_bind]
  congr 1
  funext operands
  exact (single_move f operands).symm

theorem countAfter_move (f : Nat → Nat) (count : Nat) (code : List (Located Token)) :
    countAfter count (code.map (Located.move f)) =
      (countAfter count code).mapError (Fault.move f) := by
  induction code generalizing count with
  | nil => rfl
  | cons token code ih =>
    obtain ⟨position, value | op⟩ := token
    · exact ih (count + 1)
    · rw [List.map_cons, Located.move, countAfter, countAfter]
      by_cases hcount : count < 2
      · rw [if_pos hcount, if_pos hcount]
        rfl
      · rw [if_neg hcount, if_neg hcount]
        exact ih (count - 1)

/-- A listing names its fault at the new place. -/
theorem Program.tokens_move (f : Nat → Nat) (p : Program) :
    (p.move f).tokens = p.tokens.mapError (Fault.move f) := by
  obtain ⟨code, fault⟩ := p
  rw [move, tokens, tokens, countAfter_move]
  cases countAfter 0 code with
  | error fault' => rfl
  | ok count =>
    cases fault with
    | some fault => rfl
    | none =>
      show (if count = 1 then Except.ok ((code.map (Located.move f)).map Located.item)
          else .error (.leftover count)) =
        (if count = 1 then Except.ok (code.map Located.item)
          else .error (.leftover count)).mapError (Fault.move f)
      split
      · rw [List.map_map]
        rfl
      · rfl

/-! ### Words -/

theorem Token.ofWord_move (f : Nat → Nat) (word : Located (List Char)) :
    ofWord (word.move f) = (ofWord word).mapError (Fault.move f) := by
  rw [ofWord, Located.move]
  fun_cases ofWord word with
  | case1 op hop => simp only [hop]; rfl
  | case2 hop hinteger value hvalue => simp only [hop, hinteger, hvalue]; rfl
  | case3 hop hinteger hvalue => simp only [hop, hinteger, hvalue]; rfl
  | case4 hop hinteger => simp only [hop, hinteger]; rfl

theorem Program.ofWords_move (f : Nat → Nat) (words : List (Located (List Char))) :
    ofWords (words.map (Located.move f)) = (ofWords words).move f := by
  induction words with
  | nil => rfl
  | cons word words ih =>
    rw [List.map_cons, ofWords, ofWords, Token.ofWord_move, ih]
    cases Token.ofWord word with
    | error fault => rfl
    | ok token => rfl

end Postfix

end Calculator
