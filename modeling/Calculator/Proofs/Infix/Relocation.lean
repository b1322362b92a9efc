/-
Infix tokens at other places.

Reading, the yard and the check of the parentheses carry positions along; none of them depends
on where a token stands.

* `movesWithText_tokensFrom` — a text that starts elsewhere has the same tokens elsewhere;
* `Yard.feed_move`, `Yard.run_move` — moved tokens give a moved program;
* `checkTokens_move` — a parenthesis without its partner is found at its new place.
-/
import Calculator.Proofs.Infix.Nesting
import Calculator.Proofs.Infix.Yard
import Calculator.Proofs.Relocation

namespace Calculator.Infix

/-! ### Reading -/

/-- A text that starts elsewhere has the same tokens elsewhere. -/
theorem movesWithText_tokensFrom : MovesWithText tokensFrom where
  map_move := by
    intro f position position' text h
    fun_induction tokensFrom position text generalizing position' with
    | case1 => rw [tokensFrom_nil, List.map_nil]
    | case2 position c text hblank ih =>
      rw [tokensFrom_blank hblank]
      exact ih (apply_behind (Nat.add_comm _ 1) h)
    | case3 position c text hblank hdigit ih =>
      have hlength := Scanner.length_takeWhile_add_dropWhile Char.isDigit text
      have hhead : f position = position' := h 0 (by simp)
      rw [tokensFrom_digit hdigit, List.map_cons, Located.move, hhead]
      -- the next token begins behind the digits, one of which is already split off
      congr 1
      have hbehind : (c :: text).length =
          (text.takeWhile Char.isDigit).length + 1 + (text.dropWhile Char.isDigit).length := by
        rw [List.length_cons]
        omega
      have hmove := apply_behind hbehind h
      exact ih hmove
    | case4 position c text hblank hdigit ih =>
      have hhead : f position = position' := h 0 (by simp)
      rw [tokensFrom_symbol (by simpa using hblank) (by simpa using hdigit), List.map_cons,
        Located.move, hhead]
      congr 1
      exact ih (apply_behind (Nat.add_comm _ 1) h)

/-! ### The yard -/

namespace Yard

theorem release_move (f : Nat → Nat) (p : Operator → Bool) (yard : Yard) :
    release p (yard.map (Located.move f)) =
      ((release p yard).1.map (Located.move f), (release p yard).2.map (Located.move f)) := by
  induction yard with
  | nil => rfl
  | cons waiting yard ih =>
    obtain ⟨position, _ | op⟩ := waiting
    · rfl
    · rw [List.map_cons, Located.move]
      cases hp : p op with
      | true =>
        rw [release_operator_of_pos hp, release_operator_of_pos hp, ih]
        rfl
      | false =>
        rw [release_operator_of_neg hp, release_operator_of_neg hp]
        rfl

/-- Code and a yard, or code and a fault, at other places. -/
def moveResult (f : Nat → Nat) (result : List (Located Postfix.Token) × Except Fault Yard) :
    List (Located Postfix.Token) × Except Fault Yard :=
  (result.1.map (Located.move f),
    (result.2.map (List.map (Located.move f))).mapError (Fault.move f))

theorem step_move (f : Nat → Nat) (yard : Yard) (token : Located Token) :
    step (yard.map (Located.move f)) (token.move f) = moveResult f (yard.step token) := by
  obtain ⟨position, digits | op | _ | _ | c⟩ := token
  · rw [Located.move]
    cases hvalue : Value.ofInt? (Text.natOfDigits digits) with
    | none =>
      rw [step_number_of_none hvalue, step_number_of_none hvalue]
      rfl
    | some value =>
      rw [step_number_of_some hvalue, step_number_of_some hvalue]
      rfl
  · rw [Located.move, step_operator, step_operator, release_move]
    rfl
  · rfl
  · have hmove := release_move f (fun _ => true) yard
    rw [Located.move]
    rcases release_true yard with ⟨code, hnil⟩ | ⟨code, at', behind, hcons⟩
    · rw [hnil] at hmove
      rw [step_closing_of_nil hnil, step_closing_of_nil hmove]
      rfl
    · rw [hcons] at hmove
      rw [step_closing_of_cons hcons, step_closing_of_cons hmove]
      rfl
  · rfl

theorem feed_move (f : Nat → Nat) (yard : Yard) (tokens : List (Located Token)) :
    feed (yard.map (Located.move f)) (tokens.map (Located.move f)) =
      moveResult f (yard.feed tokens) := by
  induction tokens generalizing yard with
  | nil => rfl
  | cons token tokens ih =>
    rw [List.map_cons]
    simp only [feed, step_move, moveResult]
    rcases yard.step token with ⟨code, fault | yard'⟩
    · rfl
    · simp only [Except.map, Except.mapError, ih, moveResult]
      simp [Prod.map]

theorem drain_move (f : Nat → Nat) (yard : Yard) :
    drain (yard.map (Located.move f)) = yard.drain.move f := by
  have hmove := release_move f (fun _ => true) yard
  rcases release_true yard with ⟨code, hnil⟩ | ⟨code, position, behind, hcons⟩
  · rw [hnil] at hmove
    rw [drain_of_nil hnil, drain_of_nil hmove]
    rfl
  · rw [hcons] at hmove
    rw [drain_of_cons hcons, drain_of_cons hmove]
    rfl

theorem run_move (f : Nat → Nat) (yard : Yard) (tokens : List (Located Token)) :
    run (yard.map (Located.move f)) (tokens.map (Located.move f)) =
      (run yard tokens).move f := by
  induction tokens generalizing yard with
  | nil => exact drain_move f yard
  | cons token tokens ih =>
    have hmove := step_move f yard token
    rw [List.map_cons]
    rcases hstep : yard.step token with ⟨code, fault | yard'⟩
    · rw [hstep] at hmove
      rw [run_cons_of_error hstep, run_cons_of_error hmove, Postfix.Program.move_after]
      rfl
    · rw [hstep] at hmove
      rw [run_cons_of_ok hstep, run_cons_of_ok hmove, ih, Postfix.Program.move_after]

end Yard

/-! ### Parentheses -/

theorem unclosedTokens_move (f : Nat → Nat) (openings : List Nat)
    (tokens : List (Located Token)) :
    unclosedTokens (openings.map f) (tokens.map (Located.move f)) =
      ((unclosedTokens openings tokens).map (List.map f)).mapError (Fault.move f) := by
  induction tokens generalizing openings with
  | nil => rfl
  | cons token tokens ih =>
    obtain ⟨position, digits | op | _ | _ | c⟩ := token
    · exact ih openings
    · exact ih openings
    · exact ih (position :: openings)
    · cases openings with
      | nil => rfl
      | cons innermost outer => exact ih outer
    · exact ih openings

theorem checkTokens_move (f : Nat → Nat) (tokens : List (Located Token)) :
    checkTokens (tokens.map (Located.move f)) =
      (checkTokens tokens).mapError (Fault.move f) := by
  have hmove := unclosedTokens_move f [] tokens
  rw [List.map_nil] at hmove
  rw [checkTokens, checkTokens, hmove]
  rcases unclosedTokens [] tokens with fault | _ | ⟨innermost, outer⟩
  · rfl
  · rfl
  · rfl

end Calculator.Infix
