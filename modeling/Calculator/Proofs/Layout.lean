/-
Layout does not matter.

How the tokens of an infix text or the words of a postfix text are laid out, and in which blanks
they stand, decides nothing but the places that faults name.  Two texts with the same tokens have
the same value, the same postfix form or the same fault, and the place of the fault goes from a
token of the one text to the same token of the other.

* `Infix.hasPair_congr` — the tokens tell whether a text has parentheses;
* `Infix.SameReadings` — all readings of a text are those of another one, with every fault moved;
* `same_readings_of_same_items` — this holds of any two texts with the same tokens, and likewise
  of any two texts with the same words.

Design notes.  The places of one text are carried to those of the other by any function that
takes every token to its counterpart.  That it may do anything with other places is part of the
statement: a fault names the place of a token or none.
-/
import Calculator.Proofs.Infix.Acceptance
import Calculator.Proofs.Infix.Relocation
import Calculator.Proofs.Words

namespace Calculator

namespace Infix

/-! ### Characters and tokens -/

/-- A character that is neither a blank nor a digit is a token wherever it stands. -/
theorem ofChar_mem_tokensFrom_iff {c : Char} (hblank : Text.isBlank c = false)
    (hdigit : c.isDigit = false) (position : Nat) (text : List Char) :
    Token.ofChar c ∈ (tokensFrom position text).map Located.item ↔ c ∈ text := by
  fun_induction tokensFrom position text with
  | case1 => simp
  | case2 position d text hd ih =>
    have hne : c ≠ d := by
      rintro rfl
      rw [hblank] at hd
      exact absurd hd (by decide)
    rw [ih, List.mem_cons, or_iff_right hne]
  | case3 position d text _ hd ih =>
    have hnumber : Token.ofChar c ≠ .number (d :: text.takeWhile Char.isDigit) := by
      intro h
      have htext := congrArg Token.text h
      rw [Token.text_ofChar] at htext
      rw [(List.cons.inj htext).1, hd] at hdigit
      exact absurd hdigit (by decide)
    -- the character is none of the digits, so it stands behind them
    have hdigits : c ∉ d :: text.takeWhile Char.isDigit := by
      intro h
      rcases List.mem_cons.mp h with rfl | h
      · rw [hd] at hdigit
        exact absurd hdigit (by decide)
      · rw [List.all_eq_true.mp List.all_takeWhile c h] at hdigit
        exact absurd hdigit (by decide)
    rw [List.map_cons, List.mem_cons, or_iff_right hnumber, ih]
    conv_rhs => rw [← List.takeWhile_append_dropWhile (p := Char.isDigit) (l := text),
      ← List.cons_append, List.mem_append, or_iff_right hdigits]
  | case4 position d text _ _ ih =>
    rw [List.map_cons, List.mem_cons, List.mem_cons, ih, Token.ofChar_injective.eq_iff]

theorem mem_toList_iff {c : Char} (hblank : Text.isBlank c = false) (hdigit : c.isDigit = false)
    (text : String) : c ∈ text.toList ↔ Token.ofChar c ∈ items text := by
  rw [items, tokens_eq_tokensFrom, ofChar_mem_tokensFrom_iff hblank hdigit]

/-- The tokens of a text tell whether it has a pair of parentheses. -/
theorem hasPair_congr {e e' : String} (h : items e = items e') :
    Parentheses.hasPair e.toList = Parentheses.hasPair e'.toList := by
  have hopening := @mem_toList_iff '(' (by decide) (by decide)
  have hclosing := @mem_toList_iff ')' (by decide) (by decide)
  rw [Bool.eq_iff_iff, Parentheses.hasPair, Parentheses.hasPair, Bool.and_eq_true,
    Bool.and_eq_true]
  simp only [List.contains_iff_mem, hopening, hclosing, h]

/-! ### Readings -/

/-- All readings of a text are those of another one, with every fault moved. -/
structure SameReadings (f : Nat → Nat) (e e' : String) : Prop where
  evaluate : ∀ strictness, (evaluate strictness e').outcome =
    (evaluate strictness e).outcome.mapError (Fault.move f)
  toPostfix : ∀ strictness, toPostfix strictness e' =
    (toPostfix strictness e).mapError (Fault.move f)
  /-- The check of the parentheses alone. -/
  check : Parentheses.check e'.toList = (Parentheses.check e.toList).mapError (Fault.move f)
  /-- The evaluation and the listing without that check. -/
  program_evaluate : (program e').evaluate.outcome =
    (program e).evaluate.outcome.mapError (Fault.move f)
  program_tokens : (program e').tokens = (program e).tokens.mapError (Fault.move f)

section

variable {f : Nat → Nat} {e e' : String}
  (h : (tokens e.toList).map (Located.move f) = tokens e'.toList)

include h

theorem items_eq_of_move : items e = items e' := by
  rw [items, items, ← h, List.map_map]
  rfl

theorem program_of_move : program e' = (program e).move f := by
  have hrun := Yard.run_move f [] (tokens e.toList)
  rw [List.map_nil, h] at hrun
  exact hrun

theorem parentheses_check_of_move :
    Parentheses.check e'.toList = (Parentheses.check e.toList).mapError (Fault.move f) := by
  rw [check_eq_checkTokens, check_eq_checkTokens, ← tokens_eq_tokensFrom, ← tokens_eq_tokensFrom,
    ← h, checkTokens_move]

/-- A strict reader looks for parentheses before anything else, but finds the same. -/
theorem check_of_move (strictness : Strictness) :
    Infix.check strictness e' = (Infix.check strictness e).mapError (Fault.move f) := by
  rw [Infix.check, Infix.check, hasPair_congr (items_eq_of_move h), parentheses_check_of_move h]
  split
  · rfl
  · rfl

theorem sameReadings_of_move : SameReadings f e e' := by
  have hevaluate := (program e).outcome_evaluate_move f
  have htokens := (program e).tokens_move f
  rw [← program_of_move h] at hevaluate htokens
  refine ⟨?_, ?_, parentheses_check_of_move h, hevaluate, htokens⟩
  · intro strictness
    rw [evaluate, evaluate, check_of_move h]
    cases Infix.check strictness e with
    | error fault => rfl
    | ok passed => exact hevaluate
  · intro strictness
    rw [toPostfix, toPostfix, check_of_move h]
    cases Infix.check strictness e with
    | error fault => rfl
    | ok passed => exact htokens

end

end Infix

theorem Postfix.outcome_evaluate_of_move {f : Nat → Nat} {e e' : String}
    (h : (words e.toList).map (Located.move f) = words e'.toList) :
    (evaluate e').outcome = (evaluate e).outcome.mapError (Fault.move f) := by
  rw [evaluate, evaluate, ← h, Program.ofWords_move, Program.outcome_evaluate_move]

/-- **Texts with the same tokens have the same readings.**  Some function takes the place of
every token in the one text to its place in the other; and whichever function does, it takes the
faults of all readings along.  The same holds of words and postfix notation. -/
theorem same_readings_of_same_items (e e' : String) :
    (Infix.items e = Infix.items e' →
      (∃ f, (Infix.tokens e.toList).map (Located.move f) = Infix.tokens e'.toList) ∧
        ∀ f, (Infix.tokens e.toList).map (Located.move f) = Infix.tokens e'.toList →
          Infix.SameReadings f e e') ∧
    ((words e.toList).map Located.item = (words e'.toList).map Located.item →
      (∃ f, (words e.toList).map (Located.move f) = words e'.toList) ∧
        ∀ f, (words e.toList).map (Located.move f) = words e'.toList →
          (Postfix.evaluate e').outcome =
            (Postfix.evaluate e).outcome.mapError (Fault.move f)) := by
  constructor
  · intro hitems
    refine ⟨Located.exists_move ?_ hitems, fun f => Infix.sameReadings_of_move⟩
    rw [Infix.tokens_eq_tokensFrom]
    exact Infix.pairwise_position_tokensFrom 0 e.toList
  · intro hitems
    refine ⟨Located.exists_move ?_ hitems, fun f => Postfix.outcome_evaluate_of_move⟩
    rw [words_eq_wordsFrom]
    exact pairwise_position_wordsFrom 0 e.toList

/-- Blanks around the tokens move the parenthesis and the operator that are to blame. -/
theorem same_readings_padded :
    (∃ f, (Infix.tokens "12+3)".toList).map (Located.move f) =
        Infix.tokens " 12 +\t3 )".toList ∧ Infix.SameReadings f "12+3)" " 12 +\t3 )") ∧
      ∃ f, (words "1 +".toList).map (Located.move f) = words "\n1   +".toList ∧
        (Postfix.evaluate "\n1   +").outcome =
          (Postfix.evaluate "1 +").outcome.mapError (Fault.move f) := by
  have hitems : Infix.items "12+3)" = Infix.items " 12 +\t3 )" := by decide +kernel
  have hwords : (words "1 +".toList).map Located.item =
      (words "\n1   +".toList).map Located.item := by decide +kernel
  obtain ⟨⟨f, hf⟩, hreadings⟩ := (same_readings_of_same_items "12+3)" " 12 +\t3 )").1 hitems
  obtain ⟨⟨g, hg⟩, houtcome⟩ := (same_readings_of_same_items "1 +" "\n1   +").2 hwords
  exact ⟨⟨f, hf, hreadings f hf⟩, g, hg, houtcome g hg⟩

end Calculator
