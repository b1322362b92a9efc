/-
Groups can be replaced by groups of the same value.

What a text comes to depends on a group in parentheses only through the value of the text
inside, if that has one: on its own it passes the check, needs no operand and no operator from
outside, and leaves one operand.  The text around it may be anything, balanced or not.

* `outcomeAround` — the outcome of tokens with a value between them;
* `outcome_evaluate_group` — a text with a group has the outcome around the value of the group;
* `outcome_evaluate_replace_group` — with another group of the same value the outcome is the
  same, except that a fault behind the group is found at its new place.

Design notes.  That no fault names a place inside the group is not proved by following the
positions through the yard.  Moving the places inside the group, and nothing else, changes
neither the tokens around it nor their outcome (`outcomeAround_move`); what follows from that is
the same in both notations (`MovesWithText.position_of_outcome`).
-/
import Calculator.Proofs.Infix.Reading
import Calculator.Proofs.Infix.Relocation

namespace Calculator.Infix

open Postfix (Program)

/-- The operands that tokens leave if a value stands between them. -/
def effectAround (v : Value) (before behind : List (Located Token)) : Except Fault Operands :=
  match Yard.feed [] before with
  | (code, .ok yard) =>
    (Postfix.effect code []).bind fun operands => (Yard.run yard behind).effect (v :: operands)
  | (code, .error fault) => (Postfix.effect code []).bind fun _ => .error fault

/-- The outcome of tokens with a value between them. -/
def outcomeAround (v : Value) (before behind : List (Located Token)) : Except Fault Value :=
  (checkTokens (before ++ behind)).bind fun _ =>
    (effectAround v before behind).bind Postfix.single

/-! ### Moving what stands around a value -/

theorem effectAround_move (f : Nat → Nat) (v : Value) (before behind : List (Located Token)) :
    effectAround v (before.map (Located.move f)) (behind.map (Located.move f)) =
      (effectAround v before behind).mapError (Fault.move f) := by
  have hfeed := Yard.feed_move f [] before
  rw [List.map_nil] at hfeed
  rw [effectAround, effectAround, hfeed]
  rcases Yard.feed [] before with ⟨code, fault | yard⟩
  · show (Postfix.effect (code.map (Located.move f)) []).bind _ =
      ((Postfix.effect code []).bind _).mapError _
    rw [mapError_bind, Postfix.effect_move]
    rfl
  · show (Postfix.effect (code.map (Located.move f)) []).bind _ =
      ((Postfix.effect code []).bind _).mapError _
    rw [mapError_bind, Postfix.effect_move]
    congr 1
    funext operands
    show (Yard.run (yard.map (Located.move f)) _).effect (v :: operands) = _
    rw [Yard.run_move, Program.effect_move]

theorem outcomeAround_move (f : Nat → Nat) (v : Value) (before behind : List (Located Token)) :
    outcomeAround v (before.map (Located.move f)) (behind.map (Located.move f)) =
      (outcomeAround v before behind).mapError (Fault.move f) := by
  rw [outcomeAround, outcomeAround, ← List.map_append, checkTokens_move, effectAround_move,
    mapError_bind]
  congr 1
  funext passed
  rw [mapError_bind]
  congr 1
  funext operands
  exact (Postfix.single_move f operands).symm

/-! ### Groups in a text -/

/-- A text that has a value passes the check and needs nothing from outside: wherever it
stands, its code adds the value to the operands. -/
theorem tokensFrom_of_outcome_eq_ok {e : String} {v : Value}
    (h : (evaluate .lenient e).outcome = .ok v) (position : Nat) :
    unclosedTokens [] (tokensFrom position e.toList) = .ok [] ∧
      (Yard.run [] (tokensFrom position e.toList)).fault = none ∧
      ∀ operands, Postfix.effect (Yard.run [] (tokensFrom position e.toList)).code operands =
        .ok (v :: operands) := by
  obtain ⟨hcheck, hfault, heffect⟩ := outcome_evaluate_eq_ok_iff.mp h
  rw [check_lenient, checkTokens_eq_ok_iff] at hcheck
  rw [program_eq_run] at hfault heffect
  -- all of this holds at the start of a text, and the tokens only have to be moved
  have hmove : (tokensFrom 0 e.toList).map (Located.move (position + ·)) =
      tokensFrom position e.toList := movesWithText_tokensFrom.map_move (by simp)
  have hrun := Yard.run_move (position + ·) [] (tokensFrom 0 e.toList)
  rw [List.map_nil] at hrun
  rw [← hmove, hrun]
  refine ⟨?_, ?_, ?_⟩
  · have hunclosed := unclosedTokens_move (position + ·) [] (tokensFrom 0 e.toList)
    rw [List.map_nil, hcheck] at hunclosed
    exact hunclosed
  · rw [Program.move, hfault]
    rfl
  · intro operands
    rw [Program.move, Postfix.effect_move]
    have hframe := Postfix.effect_frame heffect operands
    rw [List.nil_append] at hframe
    rw [hframe]
    rfl

theorem tokensFrom_group (pre e post : List Char) :
    tokensFrom 0 (pre ++ '(' :: (e ++ ')' :: post)) =
      tokensFrom 0 pre ++ ⟨pre.length, .opening⟩ ::
        (tokensFrom (pre.length + 1) e ++ ⟨pre.length + 1 + e.length, .closing⟩ ::
          tokensFrom (pre.length + e.length + 2) post) := by
  have hopening := @tokensFrom_symbol '(' (by decide) (by decide)
  have hclosing := @tokensFrom_symbol ')' (by decide) (by decide)
  rw [tokensFrom_append (by decide), hopening, tokensFrom_append (by decide), hclosing,
    Nat.zero_add, show pre.length + 1 + e.length + 1 = pre.length + e.length + 2 by omega]
  rfl

theorem checkTokens_group {tokens : List (Located Token)}
    (h : unclosedTokens [] tokens = .ok []) (before behind : List (Located Token))
    (start stop : Nat) :
    checkTokens (before ++ ⟨start, .opening⟩ :: (tokens ++ ⟨stop, .closing⟩ :: behind)) =
      checkTokens (before ++ behind) := by
  have hgroup := fun openings => unclosedTokens_group h openings start stop behind
  rw [checkTokens, checkTokens, unclosedTokens_append, unclosedTokens_append]
  simp only [hgroup]

/-- In the yard, a group is a value between the tokens around it. -/
theorem effect_run_group {tokens : List (Located Token)} {v : Value}
    (hfault : (Yard.run [] tokens).fault = none)
    (heffect : ∀ operands, Postfix.effect (Yard.run [] tokens).code operands =
      .ok (v :: operands))
    (before behind : List (Located Token)) (start stop : Nat) :
    (Yard.run []
        (before ++ ⟨start, .opening⟩ :: (tokens ++ ⟨stop, .closing⟩ :: behind))).effect [] =
      effectAround v before behind := by
  rw [Yard.run_append, effectAround]
  rcases Yard.feed [] before with ⟨code, fault | yard⟩
  · show ((Program.failed fault).after code).effect [] = _
    rw [Program.effect_after]
    rfl
  · show ((Yard.run yard _).after code).effect [] = _
    -- the yard in front of the group is there again behind it
    have hclosing := Yard.run_closing hfault start stop yard behind
    rw [List.nil_append] at hclosing
    rw [Program.effect_after, Yard.run_cons_of_ok (Yard.step_opening yard start), hclosing]
    show (Postfix.effect code []).bind _ = (Postfix.effect code []).bind _
    congr 1
    funext operands
    rw [Program.effect_after]
    show (Program.after _ _).effect operands = _
    rw [Program.effect_after, heffect]
    rfl

/-- **A text with a group has the outcome around the value of the group.** -/
theorem outcome_evaluate_group {e : String} {v : Value}
    (h : (evaluate .lenient e).outcome = .ok v) (strictness : Strictness) (pre post : String) :
    (evaluate strictness (pre ++ "(" ++ e ++ ")" ++ post)).outcome =
      outcomeAround v (tokensFrom 0 pre.toList)
        (tokensFrom (pre.length + e.length + 2) post.toList) := by
  obtain ⟨hunclosed, hfault, heffect⟩ := tokensFrom_of_outcome_eq_ok h (pre.toList.length + 1)
  have htext : (pre ++ "(" ++ e ++ ")" ++ post).toList =
      pre.toList ++ '(' :: (e.toList ++ ')' :: post.toList) := by simp
  -- the text has parentheses, so a strict reader asks for nothing more
  have hpair : Parentheses.hasPair (pre ++ "(" ++ e ++ ")" ++ post).toList = true := by
    simp [htext, Parentheses.hasPair]
  have hcheck : check strictness (pre ++ "(" ++ e ++ ")" ++ post) =
      checkTokens (tokensFrom 0 pre.toList ++
        tokensFrom (pre.length + e.length + 2) post.toList) := by
    rw [check, hpair, Bool.not_true, Bool.and_false, if_neg Bool.false_ne_true,
      check_eq_checkTokens, htext, tokensFrom_group, checkTokens_group hunclosed,
      String.length_toList, String.length_toList]
  have heval : (program (pre ++ "(" ++ e ++ ")" ++ post)).effect [] =
      effectAround v (tokensFrom 0 pre.toList)
        (tokensFrom (pre.length + e.length + 2) post.toList) := by
    rw [program_eq_run, htext, tokensFrom_group, effect_run_group hfault heffect,
      String.length_toList, String.length_toList]
  rw [evaluate, hcheck, outcomeAround, ← heval, ← Program.outcome_evaluate]
  cases checkTokens _ with
  | error fault => rfl
  | ok passed => rfl

/-! ### Replacing groups -/

/-- **A group can be replaced by a group of the same value.**  The outcome stays, except that
the place of a fault behind the group moves with the text; and no fault names a place in the
group, its parentheses included. -/
theorem outcome_evaluate_replace_group {e e' : String} {v : Value}
    (he : (evaluate .lenient e).outcome = .ok v) (he' : (evaluate .lenient e').outcome = .ok v)
    (strictness : Strictness) (pre post : String) :
    (evaluate strictness (pre ++ "(" ++ e' ++ ")" ++ post)).outcome =
        (evaluate strictness (pre ++ "(" ++ e ++ ")" ++ post)).outcome.mapError
          (Fault.move (replaced pre.length e.length e'.length)) ∧
      ∀ fault position,
        (evaluate strictness (pre ++ "(" ++ e ++ ")" ++ post)).outcome = .error fault →
        fault.position? = some position →
        position < pre.length ∨ pre.length + e.length + 2 ≤ position := by
  rw [outcome_evaluate_group he, outcome_evaluate_group he', ← String.length_toList (s := pre)]
  constructor
  · exact movesWithText_tokensFrom.outcome_replaced (fun f => outcomeAround_move f v) _ _ _ _
  · intro fault position hfault hposition
    exact movesWithText_tokensFrom.position_of_outcome (fun f => outcomeAround_move f v) hfault
      hposition

theorem outcome_evaluate_replace_sum :
    (evaluate .strict ("1*" ++ "(" ++ "5" ++ ")" ++ "?")).outcome =
        (evaluate .strict ("1*" ++ "(" ++ "2+3" ++ ")" ++ "?")).outcome.mapError
          (Fault.move (replaced "1*".length "2+3".length "5".length)) ∧
      ∀ fault position,
        (evaluate .strict ("1*" ++ "(" ++ "2+3" ++ ")" ++ "?")).outcome = .error fault →
        fault.position? = some position →
        position < "1*".length ∨ "1*".length + "2+3".length + 2 ≤ position := by
  have hsum : (evaluate .lenient "2+3").outcome = .ok ⟨5, by decide, by decide⟩ := by
    have hprogram : program "2+3" =
        { code := [⟨0, .number ⟨2, by decide, by decide⟩⟩,
            ⟨2, .number ⟨3, by decide, by decide⟩⟩, ⟨1, .operator .add⟩],
          fault := none } := by decide +kernel
    rw [evaluate, hprogram]
    rfl
  have hfive : (evaluate .lenient "5").outcome = .ok ⟨5, by decide, by decide⟩ := by
    have hprogram : program "5" =
        { code := [⟨0, .number ⟨5, by decide, by decide⟩⟩], fault := none } := by decide +kernel
    rw [evaluate, hprogram]
    rfl
  exact outcome_evaluate_replace_group hsum hfive .strict "1*" "?"

end Calculator.Infix
