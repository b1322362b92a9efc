/-
What code does to the operands.

`effect code operands` is what `execute` leaves on the operands, without the reductions on the
way.  Everything here is about how code is put together from pieces:

* `effect_append` — the second piece of code starts on the operands that the first leaves;
* `effect_frame` — code that succeeds on some operands does the same on top of others;
* `execute_congr` — positions do not matter to code in which every operator has its operands;
* `countAfter_effect` — counting operands is what is left of an execution without values;
* `countAfter_eq_ok` — a number adds one operand, and an operator takes one away.

Programs go on where others end (`Program.andThen`), unless these stopped at a fault; and a
program that puts one value on any operands (`Program.Gives`) can stand for it.
-/
import Calculator.Postfix.Machine

namespace Calculator.Postfix

/-! ### Code -/

/-- The operands that code leaves, or the fault at which it stops. -/
def effect (code : List (Located Token)) (operands : Operands) : Except Fault Operands :=
  (execute code operands).2

@[simp] theorem effect_number (position : Nat) (value : Value) (code : List (Located Token))
    (operands : Operands) :
    effect (⟨position, .number value⟩ :: code) operands = effect code (value :: operands) := rfl

theorem effect_operator (position : Nat) (op : Operator) (code : List (Located Token))
    (left right : Value) (below : Operands) :
    effect (⟨position, .operator op⟩ :: code) (right :: left :: below) =
      (op.apply left right).bind fun result => effect code (result :: below) := by
  rw [effect, execute, Operands.reduce]
  cases op.apply left right with
  | error fault => rfl
  | ok result => rfl

theorem effect_operator_missing {operands : Operands} (h : operands.length < 2) (position : Nat)
    (op : Operator) (code : List (Located Token)) :
    effect (⟨position, .operator op⟩ :: code) operands =
      .error (.missingOperands op position) := by
  rcases operands with _ | ⟨right, _ | ⟨left, below⟩⟩
  · rfl
  · rfl
  · simp only [List.length_cons] at h
    omega

/-- Code that goes on behind an operator found two operands and a result for them. -/
theorem effect_operator_eq_ok {position : Nat} {op : Operator} {code : List (Located Token)}
    {operands operands' : Operands}
    (h : effect (⟨position, .operator op⟩ :: code) operands = .ok operands') :
    ∃ left right below result, operands = right :: left :: below ∧
      op.apply left right = .ok result ∧ effect code (result :: below) = .ok operands' := by
  rcases operands with _ | ⟨right, _ | ⟨left, below⟩⟩
  · rw [effect_operator_missing (by simp)] at h
    exact absurd h (by simp)
  · rw [effect_operator_missing (by simp)] at h
    exact absurd h (by simp)
  · rw [effect_operator] at h
    cases happly : op.apply left right with
    | error fault =>
      rw [happly] at h
      exact absurd h (by simp [Except.bind])
    | ok result =>
      rw [happly] at h
      exact ⟨left, right, below, result, rfl, happly, h⟩

theorem effect_append (first second : List (Located Token)) (operands : Operands) :
    effect (first ++ second) operands = (effect first operands).bind (effect second) := by
  induction first generalizing operands with
  | nil => rfl
  | cons token first ih =>
    obtain ⟨position, value | op⟩ := token
    · rw [List.cons_append, effect_number, effect_number, ih]
    · rcases operands with _ | ⟨right, _ | ⟨left, below⟩⟩
      · rfl
      · rfl
      · rw [List.cons_append, effect_operator, effect_operator]
        cases op.apply left right with
        | error fault => rfl
        | ok result => exact ih (result :: below)

/-- Code that succeeds never looks below the operands that it started with. -/
theorem effect_frame {code : List (Located Token)} {operands operands' : Operands}
    (h : effect code operands = .ok operands') (below : Operands) :
    effect code (operands ++ below) = .ok (operands' ++ below) := by
  induction code generalizing operands with
  | nil =>
    obtain rfl := Except.ok.inj h
    rfl
  | cons token code ih =>
    obtain ⟨position, value | op⟩ := token
    · exact @ih (value :: operands) h
    · -- the two operands are there without what lies below
      obtain ⟨left, right, rest, result, rfl, happly, hcode⟩ := effect_operator_eq_ok h
      rw [List.cons_append, List.cons_append, effect_operator, happly]
      exact @ih (result :: rest) hcode

/-! ### Counting operands -/

/-- Counting operands is an execution that forgets their values. -/
theorem countAfter_effect {code : List (Located Token)} {operands operands' : Operands}
    (h : effect code operands = .ok operands') :
    countAfter operands.length code = .ok operands'.length := by
  induction code generalizing operands with
  | nil =>
    obtain rfl := Except.ok.inj h
    rfl
  | cons token code ih =>
    obtain ⟨position, value | op⟩ := token
    · exact @ih (value :: operands) h
    · obtain ⟨left, right, below, result, rfl, -, hcode⟩ := effect_operator_eq_ok h
      rw [countAfter, if_neg (by simp)]
      exact @ih (result :: below) hcode

/-- The value that a step of code puts on the operands. -/
def Token.value? : Token → Option Value
  | number value => some value
  | operator _ => none

/-- The operator that a step of code applies. -/
def Token.operator? : Token → Option Operator
  | number _ => none
  | operator op => some op

/-- A number adds one operand, and an operator takes one away. -/
theorem countAfter_eq_ok {code : List (Located Token)} {count count' : Nat}
    (h : countAfter count code = .ok count') :
    count + code.countP (·.item.value?.isSome) =
      count' + code.countP (·.item.operator?.isSome) := by
  induction code generalizing count with
  | nil =>
    obtain rfl := Except.ok.inj h
    rfl
  | cons token code ih =>
    -- an operator takes two operands and gives one back
    obtain ⟨position, value | op⟩ := token
    · rw [countAfter] at h
      have := ih h
      rw [List.countP_cons_of_pos rfl, List.countP_cons_of_neg (by simp [Token.operator?])]
      omega
    · rw [countAfter] at h
      by_cases hcount : count < 2
      · rw [if_pos hcount] at h
        exact absurd h (by simp)
      · rw [if_neg hcount] at h
        have := ih h
        rw [List.countP_cons_of_neg (by simp [Token.value?]), List.countP_cons_of_pos rfl]
        omega

/-- Code in which every operator has its operands does the same at any positions. -/
theorem execute_congr {code code' : List (Located Token)} {operands : Operands} {count : Nat}
    (hitems : code.map Located.item = code'.map Located.item)
    (hcount : countAfter operands.length code = .ok count) :
    execute code operands = execute code' operands := by
  induction code generalizing code' operands with
  | nil =>
    obtain rfl := List.map_eq_nil_iff.mp hitems.symm
    rfl
  | cons token code ih =>
    obtain ⟨token', rest, rfl, hitem, hrest⟩ := List.map_eq_cons_iff.mp hitems.symm
    obtain ⟨position, value | op⟩ := token
    · obtain ⟨position', item'⟩ := token'
      obtain rfl : item' = .number value := hitem
      rw [execute, execute]
      exact ih hrest.symm hcount
    · obtain ⟨position', item'⟩ := token'
      obtain rfl : item' = .operator op := hitem
      -- only an operator without its operands would show its position, in its fault
      rw [countAfter] at hcount
      rcases operands with _ | ⟨right, _ | ⟨left, below⟩⟩
      · exact absurd hcount (by simp)
      · exact absurd hcount (by simp)
      · rw [if_neg (by simp)] at hcount
        rw [execute, execute, Operands.reduce, Operands.reduce]
        cases op.apply left right with
        | error fault => rfl
        | ok result =>
          show Prod.map _ _ _ = Prod.map _ _ _
          rw [@ih _ (result :: below) hrest.symm hcount]

/-! ### Programs -/

/-- The operands that a program leaves, or the fault at which it stops. -/
def Program.effect (p : Program) (operands : Operands) : Except Fault Operands :=
  (Postfix.effect p.code operands).bind fun operands' =>
    match p.fault with
    | some fault => .error fault
    | none => .ok operands'

/-- The program that goes on with a second one, unless the first stopped at a fault. -/
def Program.andThen (first second : Program) : Program :=
  match first.fault with
  | some _ => first
  | none => second.after first.code

theorem Program.effect_after (code : List (Located Token)) (p : Program) (operands : Operands) :
    (p.after code).effect operands = (Postfix.effect code operands).bind p.effect := by
  rw [effect, after, effect_append]
  cases Postfix.effect code operands with
  | error fault => rfl
  | ok operands' => rfl

theorem Program.effect_andThen (first second : Program) (operands : Operands) :
    (first.andThen second).effect operands = (first.effect operands).bind second.effect := by
  obtain ⟨code, fault | fault⟩ := first
  · show (second.after code).effect operands = _
    rw [effect_after, effect]
    cases Postfix.effect code operands with
    | error fault => rfl
    | ok operands' => rfl
  · show effect { code, fault := some fault } operands = _
    rw [effect]
    cases Postfix.effect code operands with
    | error fault => rfl
    | ok operands' => rfl

/-- A program that gives a result: it puts the value on top of any operands, or fails. -/
def Program.Gives (p : Program) (result : Except Fault Value) : Prop :=
  ∀ operands, p.effect operands = result.map (· :: operands)

/-- Two programs and an operator behind them give the result of the operator, unless one of the
programs fails before that. -/
theorem Program.Gives.node {first second : Program} {x y : Except Fault Value}
    (hfirst : first.Gives x) (hsecond : second.Gives y) (op : Operator) (position : Nat) :
    (first.andThen (second.andThen
      { code := [⟨position, .operator op⟩], fault := none })).Gives
        (x.bind fun left => y.bind fun right => op.apply left right) := by
  intro operands
  -- the second program runs on top of the value of the first one, which it leaves alone
  rw [effect_andThen, hfirst]
  cases x with
  | error fault => rfl
  | ok left =>
    show effect _ (left :: operands) = _
    rw [effect_andThen, hsecond]
    cases y with
    | error fault => rfl
    | ok right =>
      show effect _ (right :: left :: operands) = (op.apply left right).map _
      rw [effect, effect_operator]
      cases op.apply left right with
      | error fault => rfl
      | ok v => rfl

theorem Program.effect_eq_ok_iff {p : Program} {operands operands' : Operands} :
    p.effect operands = .ok operands' ↔
      p.fault = none ∧ Postfix.effect p.code operands = .ok operands' := by
  rw [effect]
  cases Postfix.effect p.code operands with
  | error fault => simp [Except.bind]
  | ok result =>
    cases p.fault with
    | some fault => simp [Except.bind]
    | none => simp [Except.bind]

/-- An evaluation takes the single value of what its program leaves. -/
theorem Program.outcome_evaluate (p : Program) :
    p.evaluate.outcome = (p.effect []).bind single := by
  obtain ⟨code, fault⟩ := p
  rw [evaluate, effect, Postfix.effect]
  rcases execute code [] with ⟨reductions, fault' | operands⟩
  · rfl
  · cases fault with
    | none => rfl
    | some fault => rfl

/-- Evaluated alone, a program has the outcome that it gives. -/
theorem Program.Gives.outcome_evaluate {p : Program} {result : Except Fault Value}
    (h : p.Gives result) : p.evaluate.outcome = result := by
  rw [Program.outcome_evaluate, h []]
  cases result with
  | error fault => rfl
  | ok v => rfl

/-- A program has a value exactly if it was read to its end and its code leaves that value
alone. -/
theorem Program.outcome_evaluate_eq_ok_iff {p : Program} {v : Value} :
    p.evaluate.outcome = .ok v ↔ p.fault = none ∧ Postfix.effect p.code [] = .ok [v] := by
  rw [outcome_evaluate, effect]
  rcases Postfix.effect p.code [] with fault' | operands
  · simp [Except.bind]
  · cases p.fault with
    | some fault => simp [Except.bind]
    | none =>
      rcases operands with _ | ⟨w, _ | ⟨w', operands⟩⟩
      · simp [Except.bind, single]
      · simp [Except.bind, single]
      · simp [Except.bind, single]

/-- A program has tokens exactly if it was read to its end, every operator finds its operands
and one value stays. -/
theorem Program.tokens_eq_ok_iff {p : Program} {tokens : List Token} :
    p.tokens = .ok tokens ↔
      countAfter 0 p.code = .ok 1 ∧ p.fault = none ∧ p.code.map Located.item = tokens := by
  obtain ⟨code, fault⟩ := p
  rw [Program.tokens]
  rcases countAfter 0 code with fault' | count
  · simp [bind, Except.bind]
  · cases fault with
    | some fault => simp [bind, Except.bind]
    | none =>
      simp only [bind, Except.bind, Except.ok.injEq, true_and]
      split
      · next h => simp [h]
      · next h => simp [h]

/-- Programs with the same items are evaluated in the same way, if their operators find their
operands. -/
theorem Program.evaluate_congr {p q : Program} {count : Nat}
    (hitems : p.code.map Located.item = q.code.map Located.item) (hfault : p.fault = q.fault)
    (hcount : countAfter 0 p.code = .ok count) : p.evaluate = q.evaluate := by
  have hexecute := @execute_congr p.code q.code [] count hitems hcount
  rw [evaluate, evaluate, hexecute, hfault]

theorem Program.after_andThen (code : List (Located Token)) (first second : Program) :
    (first.after code).andThen second = (first.andThen second).after code := by
  obtain ⟨code', fault | fault⟩ := first
  · simp [andThen, after]
  · rfl

theorem Program.andThen_empty (p : Program) : p.andThen { code := [], fault := none } = p := by
  obtain ⟨code, fault | fault⟩ := p
  · simp [andThen, after]
  · rfl

theorem Program.andThen_assoc (first second third : Program) :
    (first.andThen second).andThen third = first.andThen (second.andThen third) := by
  obtain ⟨code, fault | fault⟩ := first
  · exact after_andThen code second third
  · rfl

end Calculator.Postfix
