/-
How tokens pass through the yard.

* `Yard.release_append_opening` — operators never leave through a parenthesis;
* `Yard.step_eq_ok_iff`, `Yard.refuses_of_step` — all that reading one token can do
  (`Yard.Reads`), and all that can stop it (`Yard.Refuses`);
* `Yard.run_append` — reading goes on from the yard that the tokens so far have left
  (`Yard.feed`);
* `Yard.run_closing` — tokens that need nothing from outside, read inside a parenthesis, make
  the same code as on their own and leave the yard below as it was;
* `Yard.run_operator` — a waiting operator leaves as soon as its right operand is complete.

Design notes.  The yard is a stack without marks: what keeps an operator inside its parenthesis
is only that `release` stops at the parenthesis.  All statements about groups come from
`release_append_opening`.
-/
import Calculator.Infix.Yard
import Calculator.Proofs.Postfix.Execution

namespace Calculator.Infix.Yard

open Postfix (Program)

/-! ### Leaving the yard -/

@[simp] theorem release_opening (p : Operator → Bool) (position : Nat) (yard : Yard) :
    release p (⟨position, .opening⟩ :: yard) = ([], ⟨position, .opening⟩ :: yard) := rfl

theorem release_operator_of_pos {p : Operator → Bool} {op : Operator} (h : p op = true)
    (position : Nat) (yard : Yard) :
    release p (⟨position, .operator op⟩ :: yard) =
      (⟨position, .operator op⟩ :: (release p yard).1, (release p yard).2) := by
  rw [release, if_pos h]
  rfl

theorem release_operator_of_neg {p : Operator → Bool} {op : Operator} (h : p op = false)
    (position : Nat) (yard : Yard) :
    release p (⟨position, .operator op⟩ :: yard) = ([], ⟨position, .operator op⟩ :: yard) := by
  rw [release, if_neg (by simp [h])]

/-- Operators in front of a parenthesis leave as if nothing stood behind them, and the
parenthesis stays. -/
theorem release_append_opening (p : Operator → Bool) (inner : Yard) (position : Nat)
    (outer : Yard) :
    release p (inner ++ ⟨position, .opening⟩ :: outer) =
      ((release p inner).1, (release p inner).2 ++ ⟨position, .opening⟩ :: outer) := by
  induction inner with
  | nil => rfl
  | cons waiting inner ih =>
    obtain ⟨at', _ | op⟩ := waiting
    · rfl
    · rw [List.cons_append]
      cases hp : p op with
      | true => rw [release_operator_of_pos hp, release_operator_of_pos hp, ih]
      | false =>
        rw [release_operator_of_neg hp, release_operator_of_neg hp]
        rfl

/-- If every operator leaves then nothing is left in the yard, or a parenthesis in front. -/
theorem release_true (yard : Yard) :
    (∃ code, release (fun _ => true) yard = (code, [])) ∨
      ∃ code position behind,
        release (fun _ => true) yard = (code, ⟨position, .opening⟩ :: behind) := by
  induction yard with
  | nil => exact .inl ⟨[], rfl⟩
  | cons waiting yard ih =>
    obtain ⟨position, _ | op⟩ := waiting
    · exact .inr ⟨[], position, yard, rfl⟩
    · rw [release_operator_of_pos rfl]
      rcases ih with ⟨code, h⟩ | ⟨code, at', behind, h⟩
      · rw [h]
        exact .inl ⟨_, rfl⟩
      · rw [h]
        exact .inr ⟨_, at', behind, rfl⟩

/-! ### Reading one token -/

theorem step_number_of_some {digits : List Char} {value : Value}
    (h : Value.ofInt? (Text.natOfDigits digits) = some value) (yard : Yard) (position : Nat) :
    yard.step ⟨position, .number digits⟩ = ([⟨position, .number value⟩], .ok yard) := by
  simp only [step, h]

theorem step_number_of_none {digits : List Char}
    (h : Value.ofInt? (Text.natOfDigits digits) = none) (yard : Yard) (position : Nat) :
    yard.step ⟨position, .number digits⟩ =
      ([], .error (.literalTooLarge (String.ofList digits))) := by
  simp only [step, h]

theorem step_operator (yard : Yard) (position : Nat) (op : Operator) :
    yard.step ⟨position, .operator op⟩ =
      ((yard.release fun waiting => op.precedence ≤ waiting.precedence).1,
        .ok (⟨position, .operator op⟩ ::
          (yard.release fun waiting => op.precedence ≤ waiting.precedence).2)) := rfl

theorem step_opening (yard : Yard) (position : Nat) :
    yard.step ⟨position, .opening⟩ = ([], .ok (⟨position, .opening⟩ :: yard)) := rfl

theorem step_closing_of_cons {yard behind : Yard} {code : List (Located Postfix.Token)}
    {waiting : Located Pending}
    (h : (yard.release fun _ => true) = (code, waiting :: behind)) (position : Nat) :
    yard.step ⟨position, .closing⟩ = (code, .ok behind) := by
  simp only [step, h]

theorem step_closing_of_nil {yard : Yard} {code : List (Located Postfix.Token)}
    (h : (yard.release fun _ => true) = (code, [])) (position : Nat) :
    yard.step ⟨position, .closing⟩ = (code, .error (.unbalancedParen position)) := by
  simp only [step, h]

theorem drain_of_nil {yard : Yard} {code : List (Located Postfix.Token)}
    (h : (yard.release fun _ => true) = (code, [])) :
    yard.drain = { code, fault := none } := by
  simp only [drain, h]

theorem drain_of_cons {yard behind : Yard} {code : List (Located Postfix.Token)}
    {waiting : Located Pending}
    (h : (yard.release fun _ => true) = (code, waiting :: behind)) :
    yard.drain = { code, fault := some (.unbalancedParen waiting.position) } := by
  simp only [drain, h]

/-- `Reads yard token code yard'` if the token can be read on the yard, makes this code and
leaves this yard. -/
inductive Reads (yard : Yard) : Located Token → List (Located Postfix.Token) → Yard → Prop
  | number {position : Nat} {digits : List Char} {value : Value} :
      Value.ofInt? (Text.natOfDigits digits) = some value →
      Reads yard ⟨position, .number digits⟩ [⟨position, .number value⟩] yard
  | operator {position : Nat} {op : Operator} {code : List (Located Postfix.Token)}
      {behind : Yard} :
      (yard.release fun waiting => op.precedence ≤ waiting.precedence) = (code, behind) →
      Reads yard ⟨position, .operator op⟩ code (⟨position, .operator op⟩ :: behind)
  | opening {position : Nat} :
      Reads yard ⟨position, .opening⟩ [] (⟨position, .opening⟩ :: yard)
  | closing {position start : Nat} {code : List (Located Postfix.Token)} {behind : Yard} :
      (yard.release fun _ => true) = (code, ⟨start, .opening⟩ :: behind) →
      Reads yard ⟨position, .closing⟩ code behind

/-- There are no other steps without a fault. -/
theorem step_eq_ok_iff {yard yard' : Yard} {token : Located Token}
    {code : List (Located Postfix.Token)} :
    yard.step token = (code, .ok yard') ↔ Reads yard token code yard' := by
  constructor
  · intro h
    obtain ⟨position, digits | op | _ | _ | c⟩ := token
    · cases hvalue : Value.ofInt? (Text.natOfDigits digits) with
      | none =>
        rw [step_number_of_none hvalue] at h
        exact absurd (congrArg Prod.snd h) (by simp)
      | some value =>
        rw [step_number_of_some hvalue] at h
        obtain ⟨rfl, hyard⟩ := Prod.mk.inj h
        obtain rfl := Except.ok.inj hyard
        exact .number hvalue
    · rw [step_operator] at h
      obtain ⟨rfl, hyard⟩ := Prod.mk.inj h
      obtain rfl := Except.ok.inj hyard
      exact .operator rfl
    · rw [step_opening] at h
      obtain ⟨rfl, hyard⟩ := Prod.mk.inj h
      obtain rfl := Except.ok.inj hyard
      exact .opening
    · rcases release_true yard with ⟨code', hnil⟩ | ⟨code', at', behind, hcons⟩
      · rw [step_closing_of_nil hnil] at h
        exact absurd (congrArg Prod.snd h) (by simp)
      · rw [step_closing_of_cons hcons] at h
        obtain ⟨rfl, hyard⟩ := Prod.mk.inj h
        obtain rfl := Except.ok.inj hyard
        exact .closing hcons
    · exact absurd (congrArg Prod.snd h) (by simp [step])
  · intro h
    cases h with
    | number hvalue => exact step_number_of_some hvalue yard _
    | operator hrelease => rw [step_operator, hrelease]
    | opening => exact step_opening yard _
    | closing hrelease => exact step_closing_of_cons hrelease _

/-- `Unreadable token fault` if the token has no meaning on any yard, with the fault that says
so. -/
inductive Unreadable : Located Token → Fault → Prop
  | number {position : Nat} {digits : List Char} :
      Value.ofInt? (Text.natOfDigits digits) = none →
      Unreadable ⟨position, .number digits⟩ (.literalTooLarge (String.ofList digits))
  | stray {position : Nat} {c : Char} :
      Unreadable ⟨position, .stray c⟩ (.strayCharacter c position)

/-- `Refuses yard token code fault` if reading the token on the yard makes this code and stops
at this fault. -/
inductive Refuses (yard : Yard) :
    Located Token → List (Located Postfix.Token) → Fault → Prop
  | unreadable {token : Located Token} {fault : Fault} :
      Unreadable token fault → Refuses yard token [] fault
  | closing {position : Nat} {code : List (Located Postfix.Token)} :
      (yard.release fun _ => true) = (code, []) →
      Refuses yard ⟨position, .closing⟩ code (.unbalancedParen position)

/-- There are no other steps with a fault. -/
theorem refuses_of_step {yard : Yard} {token : Located Token} {fault : Fault}
    {code : List (Located Postfix.Token)} (h : yard.step token = (code, .error fault)) :
    Refuses yard token code fault := by
  obtain ⟨position, digits | op | _ | _ | c⟩ := token
  · cases hvalue : Value.ofInt? (Text.natOfDigits digits) with
    | none =>
      rw [step_number_of_none hvalue] at h
      obtain ⟨rfl, hfault⟩ := Prod.mk.inj h
      obtain rfl := Except.error.inj hfault
      exact .unreadable (.number hvalue)
    | some value =>
      rw [step_number_of_some hvalue] at h
      exact absurd (congrArg Prod.snd h) (by simp)
  · exact absurd (congrArg Prod.snd h) (by simp [step_operator])
  · exact absurd (congrArg Prod.snd h) (by simp [step_opening])
  · rcases release_true yard with ⟨code', hnil⟩ | ⟨code', at', behind, hcons⟩
    · rw [step_closing_of_nil hnil] at h
      obtain ⟨rfl, hfault⟩ := Prod.mk.inj h
      obtain rfl := Except.error.inj hfault
      exact .closing hnil
    · rw [step_closing_of_cons hcons] at h
      exact absurd (congrArg Prod.snd h) (by simp)
  · obtain ⟨rfl, hfault⟩ := Prod.mk.inj h
    obtain rfl := Except.error.inj hfault
    exact .unreadable .stray

/-! ### Reading on -/

theorem run_cons_of_ok {yard yard' : Yard} {token : Located Token}
    {code : List (Located Postfix.Token)} (h : yard.step token = (code, .ok yard'))
    (rest : List (Located Token)) :
    run yard (token :: rest) = (run yard' rest).after code := by
  rw [run, h]

theorem run_cons_of_error {yard : Yard} {token : Located Token} {fault : Fault}
    {code : List (Located Postfix.Token)} (h : yard.step token = (code, .error fault))
    (rest : List (Located Token)) :
    run yard (token :: rest) = (Program.failed fault).after code := by
  rw [run, h]

/-- At the end of tokens that are read without a fault, everything leaves the yard. -/
theorem release_of_fault_run_nil {yard : Yard} (h : (run yard []).fault = none) :
    (yard.release fun _ => true) = ((run yard []).code, []) := by
  rw [run] at h ⊢
  rcases release_true yard with ⟨code, hnil⟩ | ⟨code, position, behind, hcons⟩
  · rw [drain_of_nil hnil, hnil]
  · rw [drain_of_cons hcons] at h
    exact absurd h (by simp)

/-- The first of tokens that are read without a fault is read, and so are the others. -/
theorem reads_of_fault_run_cons {yard : Yard} {token : Located Token}
    {rest : List (Located Token)} (h : (run yard (token :: rest)).fault = none) :
    ∃ code yard', Reads yard token code yard' ∧ (run yard' rest).fault = none ∧
      run yard (token :: rest) = (run yard' rest).after code := by
  rcases hstep : yard.step token with ⟨code, fault | yard'⟩
  · rw [run_cons_of_error hstep] at h
    exact absurd h (by simp [Program.after, Program.failed])
  · have hrun := run_cons_of_ok hstep rest
    rw [hrun] at h
    exact ⟨code, yard', step_eq_ok_iff.mp hstep, h, hrun⟩

/-- The code that leaves the yard while some tokens are read, and the yard behind them or the
fault at which the reading stopped. -/
def feed (yard : Yard) :
    List (Located Token) → List (Located Postfix.Token) × Except Fault Yard
  | [] => ([], .ok yard)
  | token :: rest =>
    match yard.step token with
    | (code, .ok yard') => ((feed yard' rest).map (code ++ ·) id)
    | (code, .error fault) => (code, .error fault)

theorem run_append (yard : Yard) (first second : List (Located Token)) :
    run yard (first ++ second) =
      match yard.feed first with
      | (code, .ok yard') => (run yard' second).after code
      | (code, .error fault) => (Program.failed fault).after code := by
  induction first generalizing yard with
  | nil => rfl
  | cons token first ih =>
    rcases hstep : yard.step token with ⟨code, fault | yard'⟩
    · rw [List.cons_append, run_cons_of_error hstep]
      simp only [feed, hstep]
    · rw [List.cons_append, run_cons_of_ok hstep, ih]
      simp only [feed, hstep]
      rcases yard'.feed first with ⟨code', fault | yard''⟩
      · simp [Program.after]
      · simp [Program.after]

/-! ### Groups -/

/-- A token that can be read on a yard can be read on top of a parenthesis, with the same
effect. -/
theorem Reads.append_opening {inner inner' : Yard} {token : Located Token}
    {code : List (Located Postfix.Token)} (h : Reads inner token code inner') (position : Nat)
    (outer : Yard) :
    Reads (inner ++ ⟨position, .opening⟩ :: outer) token code
      (inner' ++ ⟨position, .opening⟩ :: outer) := by
  -- only the steps that release something look at the yard, and they stop at the parenthesis
  cases h with
  | number hvalue => exact .number hvalue
  | @operator at' op code behind hrelease =>
    refine .operator ?_
    rw [release_append_opening, hrelease]
    rfl
  | opening => exact .opening
  | @closing at' start code behind hrelease =>
    refine @Reads.closing _ _ start _ _ ?_
    rw [release_append_opening, hrelease]
    rfl

/-- **A group is read as on its own.**  If the tokens of a group leave nothing open on the inner
yard then, up to the closing parenthesis, they make the same code on top of any yard, and
that yard is there again behind the parenthesis. -/
theorem run_closing {inner : Yard} {tokens : List (Located Token)}
    (h : (run inner tokens).fault = none) (start stop : Nat) (outer : Yard)
    (rest : List (Located Token)) :
    run (inner ++ ⟨start, .opening⟩ :: outer) (tokens ++ ⟨stop, .closing⟩ :: rest) =
      (run outer rest).after (run inner tokens).code := by
  induction tokens generalizing inner with
  | nil =>
    -- all that waits inside the parenthesis leaves when it closes, as it does at an end
    have houter := release_append_opening (fun _ => true) inner start outer
    rw [release_of_fault_run_nil h] at houter
    exact run_cons_of_ok (step_closing_of_cons houter stop) rest
  | cons token tokens ih =>
    obtain ⟨code, inner', hreads, hfault, hrun⟩ := reads_of_fault_run_cons h
    have houter := step_eq_ok_iff.mpr (hreads.append_opening start outer)
    rw [List.cons_append, run_cons_of_ok houter, ih hfault, hrun]
    simp only [Program.after, List.append_assoc]

/-! ### Complete operands -/

/-- Whether tokens complete an operand in front of them: nothing follows, the parenthesis
around it closes, or an operator follows that does not bind more strongly than `strength`. -/
inductive Completes (strength : Nat) : List (Located Token) → Prop
  | nil : Completes strength []
  | closing {position : Nat} {rest : List (Located Token)} :
      Completes strength (⟨position, .closing⟩ :: rest)
  | operator {position : Nat} {op : Operator} {rest : List (Located Token)} :
      op.precedence ≤ strength → Completes strength (⟨position, .operator op⟩ :: rest)

theorem Completes.mono {strength strength' : Nat} {tokens : List (Located Token)}
    (h : Completes strength tokens) (hle : strength ≤ strength') :
    Completes strength' tokens := by
  cases h with
  | nil => exact .nil
  | closing => exact .closing
  | operator hop => exact .operator (Nat.le_trans hop hle)

/-- A waiting operator leaves as soon as its right operand is complete. -/
theorem run_operator {op : Operator} {rest : List (Located Token)}
    (h : Completes op.precedence rest) (position : Nat) (yard : Yard) :
    run (⟨position, .operator op⟩ :: yard) rest =
      (run yard rest).after [⟨position, .operator op⟩] := by
  -- whatever completes the operand releases the operator in front, and then the yard behind it
  have hall := @release_operator_of_pos (fun _ => true) op rfl position yard
  cases h with
  | nil =>
    rw [run, run]
    rcases release_true yard with ⟨code, hnil⟩ | ⟨code, at', behind, hcons⟩
    · rw [hnil] at hall
      rw [drain_of_nil hnil, drain_of_nil hall]
      rfl
    · rw [hcons] at hall
      rw [drain_of_cons hcons, drain_of_cons hall]
      rfl
  | closing =>
    rcases release_true yard with ⟨code, hnil⟩ | ⟨code, at', behind, hcons⟩
    · rw [hnil] at hall
      rw [run_cons_of_error (step_closing_of_nil hnil _),
        run_cons_of_error (step_closing_of_nil hall _)]
      rfl
    · rw [hcons] at hall
      rw [run_cons_of_ok (step_closing_of_cons hcons _),
        run_cons_of_ok (step_closing_of_cons hall _)]
      rfl
  | @operator at' op' rest hle =>
    have hleave := @release_operator_of_pos
      (fun waiting => op'.precedence ≤ waiting.precedence) op (by simpa using hle) position yard
    rw [run_cons_of_ok (step_operator _ _ _), run_cons_of_ok (step_operator _ _ _), hleave]
    rfl

end Calculator.Infix.Yard
