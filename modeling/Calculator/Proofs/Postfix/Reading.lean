/-
Words of postfix notation.

A word stands for an operator if it is the symbol of that operator, and for a number if it
denotes an integer that is a value.  No word does both, although a sign is an operator, too.

* `Token.ofWord_eq_number_iff`, `Token.ofWord_eq_operator_iff` — what a word stands for;
* `Program.ofWords_append` — words that follow others spell a program that follows another;
* `Program.countP_code_ofWords` — words that are all read spell as many numbers and operators;
* `Program.effect_ofWords_cons_eq_ok` — what the first word does to the operands, if all words
  can be carried out.
-/
import Calculator.Postfix.Reading
import Calculator.Proofs.Numerals
import Calculator.Proofs.Postfix.Execution

namespace Calculator.Postfix

/-! ### One word -/

theorem operatorOfWord?_eq_some_iff {word : List Char} {op : Operator} :
    operatorOfWord? word = some op ↔ word = [op.symbol] := by
  fun_cases operatorOfWord? word with
  | case1 c => rw [Operator.ofChar?_eq_some_iff, List.singleton_inj]
  | case2 _ hmore =>
    constructor
    · simp
    · intro hword
      exact absurd hword (hmore op.symbol)

/-- A word for an integer is not an operator: a sign never stands alone. -/
theorem operatorOfWord?_of_readInteger? {word : List Char} {n : Int}
    (h : Text.readInteger? word = some n) : operatorOfWord? word = none := by
  obtain ⟨⟨sign, digits, hdigits⟩, rfl, -⟩ := Text.readInteger?_eq_some_iff.mp h
  obtain ⟨hne, hall⟩ := Text.isNumeral_iff.mp hdigits
  obtain ⟨c, rest, rfl⟩ := List.exists_cons_of_ne_nil hne
  cases sign with
  | some sign => rfl
  | none =>
    cases rest with
    | cons d rest => rfl
    | nil => exact Operator.ofChar?_of_isDigit (hall c (by simp))

/-- The words for a number are the texts of its value. -/
theorem Token.ofWord_eq_number_iff {word : Located (List Char)} {v : Value} :
    ofWord word = .ok (.number v) ↔ Value.ofText? word.item = some v := by
  constructor
  · fun_cases ofWord word with
    | case1 => simp
    | case2 hop hinteger value hvalue =>
      rintro ⟨⟩
      exact hvalue
    | case3 => simp
    | case4 => simp
  · intro hvalue
    have hinteger := Value.ofText?_eq_some_iff.mp hvalue
    rw [ofWord, operatorOfWord?_of_readInteger? hinteger]
    simp only [hinteger, hvalue, Option.isSome_some, if_true]

/-- The word for an operator is its symbol. -/
theorem Token.ofWord_eq_operator_iff {word : Located (List Char)} {op : Operator} :
    ofWord word = .ok (.operator op) ↔ word.item = [op.symbol] := by
  rw [← operatorOfWord?_eq_some_iff]
  fun_cases ofWord word with
  | case1 op' hop => simp [hop]
  | case2 hop => simp [hop]
  | case3 hop => simp [hop]
  | case4 hop => simp [hop]

/-- A word that stands for nothing is neither an operator nor an integer, or it is an integer
that is no value. -/
theorem Token.ofWord_eq_error {word : Located (List Char)} {fault : Fault}
    (h : ofWord word = .error fault) :
    (operatorOfWord? word.item = none ∧ Text.readInteger? word.item = none ∧
      fault = .malformedWord (String.ofList word.item) word.position) ∨
    ∃ n, Text.readInteger? word.item = some n ∧ ¬Value.InRange n ∧
      fault = .literalTooLarge (String.ofList word.item) := by
  revert h
  fun_cases ofWord word with
  | case1 => simp
  | case2 => simp
  | case3 hop hinteger hvalue =>
    rintro ⟨⟩
    obtain ⟨n, hn⟩ := Option.isSome_iff_exists.mp hinteger
    exact .inr ⟨n, hn, (Value.ofText?_eq_none_iff hn).mp hvalue, rfl⟩
  | case4 hop hinteger =>
    rintro ⟨⟩
    exact .inl ⟨hop, by simpa using hinteger, rfl⟩

/-- A word that stands for a token is an integer if the token is a number, and an operator if the
token is one. -/
theorem Token.isSome_of_ofWord {word : Located (List Char)} {token : Token}
    (h : ofWord word = .ok token) :
    (Text.readInteger? word.item).isSome = token.value?.isSome ∧
      (operatorOfWord? word.item).isSome = token.operator?.isSome := by
  cases token with
  | number v =>
    have hinteger := Value.ofText?_eq_some_iff.mp (ofWord_eq_number_iff.mp h)
    rw [operatorOfWord?_of_readInteger? hinteger, hinteger]
    exact ⟨rfl, rfl⟩
  | operator op =>
    have hop := operatorOfWord?_eq_some_iff.mpr (ofWord_eq_operator_iff.mp h)
    cases hinteger : Text.readInteger? word.item with
    | none =>
      rw [hop]
      exact ⟨rfl, rfl⟩
    | some n =>
      rw [operatorOfWord?_of_readInteger? hinteger] at hop
      exact absurd hop (by simp)

/-! ### Words one after the other -/

namespace Program

theorem ofWords_append (first second : List (Located (List Char))) :
    ofWords (first ++ second) = (ofWords first).andThen (ofWords second) := by
  induction first with
  | nil => rfl
  | cons word first ih =>
    rw [List.cons_append, ofWords, ofWords, ih]
    cases Token.ofWord word with
    | error fault => rfl
    | ok token => exact (after_andThen _ _ _).symm

/-- Every step of code is one of the words, at its place. -/
theorem mem_code_ofWords {words : List (Located (List Char))} {token : Located Token}
    (h : token ∈ (ofWords words).code) :
    ∃ word ∈ words, word.position = token.position ∧ Token.ofWord word = .ok token.item := by
  induction words with
  | nil => exact absurd h List.not_mem_nil
  | cons word words ih =>
    rw [ofWords] at h
    cases hword : Token.ofWord word with
    | error fault =>
      rw [hword] at h
      exact absurd h List.not_mem_nil
    | ok first =>
      rw [hword] at h
      rcases List.mem_cons.mp h with rfl | h
      · exact ⟨word, List.mem_cons_self, rfl, hword⟩
      · obtain ⟨word', hmem, hplace, htoken⟩ := ih h
        exact ⟨word', List.mem_cons_of_mem word hmem, hplace, htoken⟩

/-- The reading of words stops at a word that stands for nothing. -/
theorem fault_ofWords_eq_some {words : List (Located (List Char))} {fault : Fault}
    (h : (ofWords words).fault = some fault) :
    ∃ word ∈ words, Token.ofWord word = .error fault := by
  induction words with
  | nil => exact absurd h (by simp [ofWords])
  | cons word words ih =>
    rw [ofWords] at h
    cases hword : Token.ofWord word with
    | error fault' =>
      rw [hword] at h
      obtain rfl := Option.some.inj h
      exact ⟨word, List.mem_cons_self, hword⟩
    | ok first =>
      rw [hword] at h
      obtain ⟨word', hmem, hfault⟩ := ih h
      exact ⟨word', List.mem_cons_of_mem word hmem, hfault⟩

/-- Words that are all read have as many integers and operators as their code. -/
theorem countP_code_ofWords {words : List (Located (List Char))}
    (h : (ofWords words).fault = none) :
    (ofWords words).code.countP (·.item.value?.isSome) =
        words.countP (fun word => (Text.readInteger? word.item).isSome) ∧
      (ofWords words).code.countP (·.item.operator?.isSome) =
        words.countP (fun word => (operatorOfWord? word.item).isSome) := by
  induction words with
  | nil => exact ⟨rfl, rfl⟩
  | cons word words ih =>
    rw [ofWords] at h ⊢
    cases hword : Token.ofWord word with
    | error fault =>
      rw [hword] at h
      exact absurd h (by simp [failed])
    | ok token =>
      rw [hword] at h
      obtain ⟨hinteger, hoperator⟩ := Token.isSome_of_ofWord hword
      obtain ⟨hnumbers, hoperators⟩ := ih h
      simp only [after, List.singleton_append, List.countP_cons, hnumbers, hoperators, hinteger,
        hoperator, and_self]

/-- A number goes on top of the operands. -/
theorem effect_ofWords_number {word : Located (List Char)} {v : Value}
    (h : Token.ofWord word = .ok (.number v)) (rest : List (Located (List Char)))
    (operands : Operands) :
    (ofWords (word :: rest)).effect operands = (ofWords rest).effect (v :: operands) := by
  rw [ofWords, h]
  exact effect_after [⟨word.position, .number v⟩] _ operands

/-- An operator takes two operands and leaves its result. -/
theorem effect_ofWords_operator {word : Located (List Char)} {op : Operator}
    (h : Token.ofWord word = .ok (.operator op)) {left right v : Value}
    (happly : op.apply left right = .ok v) (rest : List (Located (List Char)))
    (below : Operands) :
    (ofWords (word :: rest)).effect (right :: left :: below) =
      (ofWords rest).effect (v :: below) := by
  rw [ofWords, h]
  show ((ofWords rest).after [⟨word.position, .operator op⟩]).effect _ = _
  rw [effect_after, effect_operator, happly]
  rfl

/-- Words that can be carried out begin with a number, or with an operator that has a result
on the operands. -/
theorem effect_ofWords_cons_eq_ok {word : Located (List Char)}
    {rest : List (Located (List Char))} {operands operands' : Operands}
    (h : (ofWords (word :: rest)).effect operands = .ok operands') :
    (∃ v, Token.ofWord word = .ok (.number v) ∧
      (ofWords rest).effect (v :: operands) = .ok operands') ∨
    ∃ op left right below v, Token.ofWord word = .ok (.operator op) ∧
      operands = right :: left :: below ∧ op.apply left right = .ok v ∧
      (ofWords rest).effect (v :: below) = .ok operands' := by
  cases htoken : Token.ofWord word with
  | error fault =>
    rw [ofWords, htoken] at h
    obtain ⟨hfault, -⟩ := effect_eq_ok_iff.mp h
    exact absurd hfault (by simp [failed])
  | ok token =>
    cases token with
    | number v =>
      rw [effect_ofWords_number htoken] at h
      exact .inl ⟨v, rfl, h⟩
    | operator op =>
      have hcode := h
      rw [ofWords, htoken] at hcode
      obtain ⟨left, right, below, v, rfl, happly, -⟩ :=
        effect_operator_eq_ok (effect_eq_ok_iff.mp hcode).2
      rw [effect_ofWords_operator htoken happly] at h
      exact .inr ⟨op, left, right, below, v, rfl, rfl, happly, h⟩

end Program

end Calculator.Postfix
