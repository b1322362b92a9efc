/-
Texts that are accepted.

A text is accepted if it passes the check of its parentheses and its program succeeds.  These
lemmas say so in terms of the tokens of the text, and are all that other modules have to know of
`check`, `evaluate` and `toPostfix`.

* `program_eq_run`, `check_lenient` — the program and the check, seen in the tokens;
* `outcome_evaluate_eq_ok_iff` — when a text has a value;
* `toPostfix_eq_ok_iff` — when a text has a postfix form, and which tokens it has;
* `outcome_evaluate_eq_error`, `toPostfix_eq_error` — otherwise the check fails, or the program.
-/
import Calculator.Infix.Reading
import Calculator.Proofs.Infix.Nesting
import Calculator.Proofs.Postfix.Execution

namespace Calculator.Infix

theorem program_eq_run (text : String) :
    program text = Yard.run [] (tokensFrom 0 text.toList) := by
  rw [program, tokens_eq_tokensFrom]

theorem check_lenient (text : String) :
    check .lenient text = checkTokens (tokensFrom 0 text.toList) := by
  rw [← check_eq_checkTokens]
  rfl

/-- A strict reader asks for more than a lenient one. -/
theorem check_lenient_of_check {strictness : Strictness} {text : String}
    (h : check strictness text = .ok ()) : check .lenient text = .ok () := by
  rw [check] at h
  split at h
  · exact absurd h (by simp)
  · -- the pair of parentheses is there, and what remains is the check of a lenient reader
    exact h

/-- All that a strict reader asks for in addition is a pair of parentheses. -/
theorem check_strict_of_hasPair {text : String}
    (hpair : Parentheses.hasPair text.toList = true) (h : check .lenient text = .ok ()) :
    check .strict text = .ok () := by
  rw [check, hpair]
  exact h

/-- A text has a value exactly if it passes the check, is read to its end, and leaves that
value alone on the operands. -/
theorem outcome_evaluate_eq_ok_iff {strictness : Strictness} {text : String} {v : Value} :
    (evaluate strictness text).outcome = .ok v ↔
      check strictness text = .ok () ∧ (program text).fault = none ∧
        Postfix.effect (program text).code [] = .ok [v] := by
  rw [evaluate]
  cases check strictness text with
  | error fault => simp
  | ok passed =>
    show (program text).evaluate.outcome = .ok v ↔ _
    rw [Postfix.Program.outcome_evaluate_eq_ok_iff]
    simp

/-- A text has a postfix form exactly if it passes the check, is read to its end, and leaves
one value however its operators come out. -/
theorem toPostfix_eq_ok_iff {strictness : Strictness} {text : String}
    {tokens : List Postfix.Token} :
    toPostfix strictness text = .ok tokens ↔
      check strictness text = .ok () ∧ (program text).fault = none ∧
        Postfix.countAfter 0 (program text).code = .ok 1 ∧
        (program text).code.map Located.item = tokens := by
  rw [toPostfix]
  cases check strictness text with
  | error fault => simp
  | ok passed =>
    show (program text).tokens = .ok tokens ↔ _
    rw [Postfix.Program.tokens_eq_ok_iff]
    constructor
    · rintro ⟨hcount, hfault, hitems⟩
      exact ⟨rfl, hfault, hcount, hitems⟩
    · rintro ⟨-, hfault, hcount, hitems⟩
      exact ⟨hcount, hfault, hitems⟩

/-- An evaluation fails with a fault of the check or of the program. -/
theorem outcome_evaluate_eq_error {strictness : Strictness} {text : String} {fault : Fault}
    (h : (evaluate strictness text).outcome = .error fault) :
    check strictness text = .error fault ∨ (program text).evaluate.outcome = .error fault := by
  rw [evaluate] at h
  cases hcheck : check strictness text with
  | error fault' =>
    rw [hcheck] at h
    exact .inl (congrArg Except.error (Except.error.inj h))
  | ok passed =>
    rw [hcheck] at h
    exact .inr h

/-- So does a listing. -/
theorem toPostfix_eq_error {strictness : Strictness} {text : String} {fault : Fault}
    (h : toPostfix strictness text = .error fault) :
    check strictness text = .error fault ∨ (program text).tokens = .error fault := by
  rw [toPostfix] at h
  cases hcheck : check strictness text with
  | error fault' =>
    rw [hcheck] at h
    exact .inl (congrArg Except.error (Except.error.inj h))
  | ok passed =>
    rw [hcheck] at h
    exact .inr h

end Calculator.Infix
