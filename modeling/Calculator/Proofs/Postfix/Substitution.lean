/-
Words can be replaced by words of the same value.

Words that have a value on their own need no operand from outside and leave one.  So what a text
comes to depends on a run of such words through their value alone, whatever words stand around
it: these may be ill-formed, and may find too few operands or leave too many.

* `outcomeAround` — the outcome of words with a value between them;
* `outcome_evaluate_inserted` — a text has the outcome around the value of the words inside;
* `outcome_evaluate_replace_words` — with other words of the same value, of which its decimal
  notation is one, the outcome is the same, except that a fault behind them is found at its new
  place.

Design notes.  The spaces on both sides of the words take the places that the parentheses of a
group have in infix notation, so it is the same argument that moves the places behind them
(`MovesWithText.outcome_replaced`).
-/
import Calculator.Proofs.Postfix.Rendering
import Calculator.Proofs.Relocation

namespace Calculator.Postfix

/-- The outcome of words with a value between them. -/
def outcomeAround (v : Value) (before behind : List (Located (List Char))) :
    Except Fault Value :=
  ((Program.ofWords before).effect []).bind fun operands =>
    ((Program.ofWords behind).effect (v :: operands)).bind single

/-- Words around a value that are moved to other places move the fault. -/
theorem outcomeAround_move (f : Nat → Nat) (v : Value)
    (before behind : List (Located (List Char))) :
    outcomeAround v (before.map (Located.move f)) (behind.map (Located.move f)) =
      (outcomeAround v before behind).mapError (Fault.move f) := by
  rw [outcomeAround, outcomeAround, Program.ofWords_move, Program.ofWords_move,
    Program.effect_move, mapError_bind]
  congr 1
  funext operands
  rw [Program.effect_move, mapError_bind]
  congr 1
  funext operands'
  exact (single_move f operands').symm

/-! ### Words inside a text -/

/-- A text that has a value needs nothing from outside: wherever it stands, its words put the
value on top of the operands. -/
theorem gives_of_outcome_eq_ok {e : String} {v : Value} (h : (evaluate e).outcome = .ok v)
    (position : Nat) : (Program.ofWords (wordsFrom position e.toList)).Gives (.ok v) := by
  intro operands
  rw [evaluate, words_eq_wordsFrom, Program.outcome_evaluate_eq_ok_iff] at h
  obtain ⟨hfault, heffect⟩ := h
  have hframe := effect_frame heffect operands
  rw [List.nil_append] at hframe
  -- this holds at the start of a text, and the words only have to be moved
  have hmove : (wordsFrom 0 e.toList).map (Located.move (position + ·)) =
      wordsFrom position e.toList := movesWithText_wordsFrom.map_move (by simp)
  rw [← hmove, Program.ofWords_move, Program.effect_move,
    Program.effect_eq_ok_iff.mpr ⟨hfault, hframe⟩]
  rfl

/-- A text in blanks keeps its words to itself. -/
theorem wordsFrom_inserted (pre e post : List Char) :
    wordsFrom 0 (pre ++ ' ' :: (e ++ ' ' :: post)) =
      wordsFrom 0 pre ++ (wordsFrom (pre.length + 1) e ++
        wordsFrom (pre.length + e.length + 2) post) := by
  have hspace : Text.isBlank ' ' = true := by decide
  rw [wordsFrom_append_blank hspace, wordsFrom_blank hspace, wordsFrom_append_blank hspace,
    wordsFrom_blank hspace, Nat.zero_add,
    show pre.length + 1 + e.length + 1 = pre.length + e.length + 2 by omega]

/-- **A text has the outcome around the value of the words inside.** -/
theorem outcome_evaluate_inserted {e : String} {v : Value} (h : (evaluate e).outcome = .ok v)
    (pre post : String) :
    (evaluate (pre ++ " " ++ e ++ " " ++ post)).outcome =
      outcomeAround v (wordsFrom 0 pre.toList)
        (wordsFrom (pre.length + e.length + 2) post.toList) := by
  have htext : (pre ++ " " ++ e ++ " " ++ post).toList =
      pre.toList ++ ' ' :: (e.toList ++ ' ' :: post.toList) := by simp
  have hgives := gives_of_outcome_eq_ok h (pre.toList.length + 1)
  rw [evaluate, words_eq_wordsFrom, htext, wordsFrom_inserted, Program.outcome_evaluate,
    Program.ofWords_append, Program.ofWords_append, Program.effect_andThen, outcomeAround,
    String.length_toList, String.length_toList]
  rw [String.length_toList] at hgives
  cases (Program.ofWords (wordsFrom 0 pre.toList)).effect [] with
  | error fault => rfl
  | ok operands =>
    -- the words inside leave their value on the operands of those in front
    show (Program.effect _ operands).bind single = (Program.effect _ (v :: operands)).bind single
    rw [Program.effect_andThen, hgives operands]
    rfl

/-! ### Replacing words -/

/-- The decimal notation of a value has that value. -/
theorem outcome_evaluate_toString (v : Value) : (evaluate (toString v)).outcome = .ok v := by
  have hrender : toString v = render [.number v] := by
    rw [render, List.map_singleton, List.intercalate_singleton]
    rfl
  rw [hrender, evaluate, Program.ofWords_words_render]
  rfl

/-- **Words can be replaced by words of the same value**, for instance by its decimal notation.
The outcome stays, except that the place of a fault behind the words moves with the text; and no
fault names a place in the words, the spaces around them included. -/
theorem outcome_evaluate_replace_words {e e' : String} {v : Value}
    (he : (evaluate e).outcome = .ok v) (he' : (evaluate e').outcome = .ok v)
    (pre post : String) :
    (evaluate (pre ++ " " ++ e' ++ " " ++ post)).outcome =
        (evaluate (pre ++ " " ++ e ++ " " ++ post)).outcome.mapError
          (Fault.move (replaced pre.length e.length e'.length)) ∧
      (∀ fault position,
        (evaluate (pre ++ " " ++ e ++ " " ++ post)).outcome = .error fault →
        fault.position? = some position →
        position < pre.length ∨ pre.length + e.length + 2 ≤ position) ∧
      (evaluate (toString v)).outcome = .ok v := by
  rw [outcome_evaluate_inserted he, outcome_evaluate_inserted he',
    ← String.length_toList (s := pre)]
  refine ⟨?_, ?_, outcome_evaluate_toString v⟩
  · exact movesWithText_wordsFrom.outcome_replaced (fun f => outcomeAround_move f v) _ _ _ _
  · intro fault position hfault hposition
    exact movesWithText_wordsFrom.position_of_outcome (fun f => outcomeAround_move f v) hfault
      hposition

/-- The word that is to blame stands behind a sum, and behind a signed numeral of its value. -/
theorem outcome_evaluate_replace_sum_by_numeral :
    (evaluate ("1" ++ " " ++ "+005" ++ " " ++ "* 1_0")).outcome =
        (evaluate ("1" ++ " " ++ "2 3 +" ++ " " ++ "* 1_0")).outcome.mapError
          (Fault.move (replaced "1".length "2 3 +".length "+005".length)) ∧
      (∀ fault position,
        (evaluate ("1" ++ " " ++ "2 3 +" ++ " " ++ "* 1_0")).outcome = .error fault →
        fault.position? = some position →
        position < "1".length ∨ "1".length + "2 3 +".length + 2 ≤ position) ∧
      (evaluate (toString (⟨5, by decide, by decide⟩ : Value))).outcome =
        .ok ⟨5, by decide, by decide⟩ := by
  have hsum : (evaluate "2 3 +").outcome = .ok ⟨5, by decide, by decide⟩ := by
    have hprogram : Program.ofWords (words "2 3 +".toList) =
        { code := [⟨0, .number ⟨2, by decide, by decide⟩⟩,
            ⟨2, .number ⟨3, by decide, by decide⟩⟩, ⟨4, .operator .add⟩],
          fault := none } := by decide +kernel
    rw [evaluate, hprogram]
    rfl
  have hnumeral : (evaluate "+005").outcome = .ok ⟨5, by decide, by decide⟩ := by
    have hprogram : Program.ofWords (words "+005".toList) =
        { code := [⟨0, .number ⟨5, by decide, by decide⟩⟩], fault := none } := by
      decide +kernel
    rw [evaluate, hprogram]
    rfl
  exact outcome_evaluate_replace_words hsum hnumeral "1" "* 1_0"

end Calculator.Postfix
