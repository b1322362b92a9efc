/-
From infix to postfix notation.

* `evaluate_render_toPostfix` — the postfix form of a text is evaluated as the text is;
* `failAlike_toPostfix` — a text without a postfix form has no value, for the same reason unless
  an operator has no result.

Design notes.  Both notations are evaluated by the same machine, so all that has to be said is
that the code comes back from the rendered text.  Its positions do not: they are places in
another text.  No fault can tell, because only an operator without operands names its place,
and a text with such an operator has no postfix form.
-/
import Calculator.Proofs.Infix.Reading
import Calculator.Proofs.Postfix.Counting
import Calculator.Proofs.Postfix.Rendering

namespace Calculator.Infix

/-- **The postfix form of a text is evaluated as the text itself**: with the same reductions in
the same order, and with the same outcome. -/
theorem evaluate_render_toPostfix {strictness : Strictness} {text : String}
    {tokens : List Postfix.Token} (h : toPostfix strictness text = .ok tokens) :
    Postfix.evaluate (Postfix.render tokens) = evaluate strictness text := by
  obtain ⟨hcheck, hfault, hcount, hitems⟩ := toPostfix_eq_ok_iff.mp h
  obtain ⟨hitems', hfault'⟩ := Postfix.Program.ofWords_render tokens
  rw [evaluate, hcheck]
  show _ = (program text).evaluate
  symm
  exact Postfix.Program.evaluate_congr (hitems.trans hitems'.symm) (hfault.trans hfault'.symm)
    hcount

/-- This also holds of the texts that are no infix expressions and are read nevertheless. -/
theorem evaluate_render_toPostfix_juxtaposed :
    Postfix.evaluate (Postfix.render
      [.number ⟨5, by decide, by decide⟩, .number ⟨3, by decide, by decide⟩, .operator .sub]) =
      evaluate .strict "5(-3)" := by
  have hprogram : program "5(-3)" =
      { code := [⟨0, .number ⟨5, by decide, by decide⟩⟩, ⟨3, .number ⟨3, by decide, by decide⟩⟩,
          ⟨2, .operator .sub⟩],
        fault := none } := by decide +kernel
  have hpostfix : toPostfix .strict "5(-3)" =
      .ok [.number ⟨5, by decide, by decide⟩, .number ⟨3, by decide, by decide⟩,
        .operator .sub] := by
    rw [toPostfix, hprogram]
    rfl
  exact evaluate_render_toPostfix hpostfix

/-- **Conversion and evaluation fail alike**, with and without the check that comes first: a
text that cannot be converted cannot be evaluated, at the same fault unless an operator had no
result before it; and all other faults of an evaluation are faults of the conversion. -/
theorem failAlike_toPostfix (text : String) :
    FailAlike (program text).evaluate.outcome (program text).tokens ∧
      ∀ strictness, FailAlike (evaluate strictness text).outcome (toPostfix strictness text) := by
  have hprogram := (program text).failAlike
  refine ⟨hprogram, fun strictness => ?_⟩
  rw [evaluate, toPostfix]
  cases check strictness text with
  | error fault => exact .error fault
  | ok passed => exact hprogram

end Calculator.Infix
