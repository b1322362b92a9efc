/-
The grammar of infix expressions.

    sum    ::=  term    |  sum (+ | -) term
    term   ::=  factor  |  term (* | / | %) factor
    factor ::=  number  |  ( sum )

Whether tokens form a sentence can be seen without looking for a derivation.  Their parentheses
have to be balanced; no operand may follow another (`juxtapositions`); and wherever an operand
has to begin one has to be there (`gaps`).

* `sentence_iff` — these conditions are what the grammar comes to;
* `juxtapositions_add_operators` — juxtapositions and gaps are not independent: a number more
  is one juxtaposition more or one gap less, and an operator more is the contrary.

Design notes.  Both counts walk over the tokens with one bit, whether an operand has just ended.
The grammar builds expressions at their right end and the walk starts at the left, so
`Sentence.prepend` puts a factor and an operator in front of a sentence.
-/
import Calculator.Proofs.Infix.Lexing

namespace Calculator.Infix

/-- The categories of the grammar. -/
inductive Category where
  | sum
  | term
  | factor

/-- `Sentence category tokens` if the tokens are derived from the category. -/
inductive Sentence : Category → List Token → Prop
  | number (digits : List Char) : Sentence .factor [.number digits]
  | group {tokens : List Token} :
      Sentence .sum tokens → Sentence .factor (.opening :: tokens ++ [.closing])
  | factor {tokens : List Token} : Sentence .factor tokens → Sentence .term tokens
  | product {left right : List Token} {op : Operator} :
      Sentence .term left → (op = .mul ∨ op = .div ∨ op = .rem) → Sentence .factor right →
      Sentence .term (left ++ .operator op :: right)
  | term {tokens : List Token} : Sentence .term tokens → Sentence .sum tokens
  | sum {left right : List Token} {op : Operator} :
      Sentence .sum left → (op = .add ∨ op = .sub) → Sentence .term right →
      Sentence .sum (left ++ .operator op :: right)

/-! ### Operands, seen from their ends -/

/-- Whether an operand begins with the token. -/
def Token.startsOperand : Token → Bool
  | number _ | opening => true
  | _ => false

/-- Whether an operand ends with the token. -/
def Token.endsOperand : Token → Bool
  | number _ | closing => true
  | _ => false

/-- The number of places where an operand follows another without an operator between them.
`complete` tells whether an operand ends in front of the tokens. -/
def juxtapositions (complete : Bool) : List Token → Nat
  | [] => 0
  | token :: rest =>
    (complete && token.startsOperand).toNat + juxtapositions token.endsOperand rest

/-- The number of places where an operand has to begin and none does: in front of an operator,
of a closing parenthesis or of the end. -/
def gaps (complete : Bool) : List Token → Nat
  | [] => (!complete).toNat
  | token :: rest => (!complete && !token.startsOperand).toNat + gaps token.endsOperand rest

/-- The number of parentheses that are open behind the tokens, if `depth` are open in front of
them and no token closes one that is not open. -/
def openBehind (depth : Nat) : List Token → Option Nat
  | [] => some depth
  | .opening :: rest => openBehind (depth + 1) rest
  | .closing :: rest =>
    match depth with
    | 0 => none
    | outer + 1 => openBehind outer rest
  | _ :: rest => openBehind depth rest

def Token.isOperator : Token → Bool
  | operator _ => true
  | _ => false

/-- **Juxtapositions and gaps balance** numbers and operators. -/
theorem juxtapositions_add_operators {tokens : List Token} (h : ∀ c, .stray c ∉ tokens)
    (complete : Bool) :
    juxtapositions complete tokens + tokens.countP Token.isOperator + 1 =
      gaps complete tokens + tokens.countP Token.isNumber + complete.toNat := by
  induction tokens generalizing complete with
  | nil => cases complete <;> rfl
  | cons token tokens ih =>
    have hrest := ih (fun c hc => h c (List.mem_cons_of_mem token hc)) token.endsOperand
    have htoken : (complete && token.startsOperand).toNat +
          (if token.isOperator = true then 1 else 0) + token.endsOperand.toNat =
        (!complete && !token.startsOperand).toNat +
          (if token.isNumber = true then 1 else 0) + complete.toNat := by
      cases token with
      | stray c => exact absurd List.mem_cons_self (h c)
      | number digits => cases complete <;> rfl
      | operator op => cases complete <;> rfl
      | opening => cases complete <;> rfl
      | closing => cases complete <;> rfl
    rw [juxtapositions, gaps, List.countP_cons, List.countP_cons]
    omega

/-! ### Sentences satisfy the conditions -/

theorem Sentence.stray_not_mem {category : Category} {tokens : List Token}
    (h : Sentence category tokens) (c : Char) : .stray c ∉ tokens := by
  induction h with
  | number digits => simp
  | group _ ih => simp [ih]
  | factor _ ih => exact ih
  | product _ _ _ ihl ihr => simp [ihl, ihr]
  | term _ ih => exact ih
  | sum _ _ _ ihl ihr => simp [ihl, ihr]

/-- Tokens that all three walks pass as a single operand, whatever follows. -/
structure IsOperand (tokens : List Token) : Prop where
  juxtapositions (rest : List Token) :
    juxtapositions false (tokens ++ rest) = Infix.juxtapositions true rest
  gaps (rest : List Token) : gaps false (tokens ++ rest) = Infix.gaps true rest
  openBehind (depth : Nat) (rest : List Token) :
    openBehind depth (tokens ++ rest) = Infix.openBehind depth rest

namespace IsOperand

theorem number (digits : List Char) : IsOperand [.number digits] where
  juxtapositions _ := Nat.zero_add _
  gaps _ := Nat.zero_add _
  openBehind _ _ := rfl

theorem group {tokens : List Token} (h : IsOperand tokens) :
    IsOperand (.opening :: tokens ++ [.closing]) where
  juxtapositions rest := by
    rw [List.append_assoc, List.cons_append, List.singleton_append]
    show 0 + Infix.juxtapositions false (tokens ++ .closing :: rest) = _
    rw [h.juxtapositions]
    show 0 + (0 + Infix.juxtapositions true rest) = _
    omega
  gaps rest := by
    rw [List.append_assoc, List.cons_append, List.singleton_append]
    show 0 + Infix.gaps false (tokens ++ .closing :: rest) = _
    rw [h.gaps]
    show 0 + (0 + Infix.gaps true rest) = _
    omega
  openBehind depth rest := by
    rw [List.append_assoc, List.cons_append, List.singleton_append]
    exact h.openBehind (depth + 1) (.closing :: rest)

theorem operator {left right : List Token} (hleft : IsOperand left) (hright : IsOperand right)
    (op : Operator) : IsOperand (left ++ .operator op :: right) where
  juxtapositions rest := by
    rw [List.append_assoc, hleft.juxtapositions, List.cons_append]
    show 0 + Infix.juxtapositions false (right ++ rest) = _
    rw [hright.juxtapositions, Nat.zero_add]
  gaps rest := by
    rw [List.append_assoc, hleft.gaps, List.cons_append]
    show 0 + Infix.gaps false (right ++ rest) = _
    rw [hright.gaps, Nat.zero_add]
  openBehind depth rest := by
    rw [List.append_assoc, hleft.openBehind, List.cons_append]
    exact hright.openBehind depth rest

end IsOperand

theorem Sentence.isOperand {category : Category} {tokens : List Token}
    (h : Sentence category tokens) : IsOperand tokens := by
  induction h with
  | number digits => exact .number digits
  | group _ ih => exact ih.group
  | factor _ ih => exact ih
  | product _ _ _ ihl ihr => exact ihl.operator ihr _
  | term _ ih => exact ih
  | sum _ _ _ ihl ihr => exact ihl.operator ihr _

/-! ### Tokens that satisfy the conditions are sentences -/

theorem operator_cases (op : Operator) :
    (op = .add ∨ op = .sub) ∨ (op = .mul ∨ op = .div ∨ op = .rem) := by
  cases op <;> decide

theorem Sentence.prepend_term {first tokens : List Token} {op : Operator}
    (hfirst : Sentence .factor first) (hop : op = .mul ∨ op = .div ∨ op = .rem)
    {category : Category} (h : Sentence category tokens) (hcategory : category = .term) :
    Sentence .term (first ++ .operator op :: tokens) := by
  -- the last operator of the term stays the last one, and what is in front of it grows
  induction h with
  | number digits => exact absurd hcategory (by simp)
  | group _ _ => exact absurd hcategory (by simp)
  | factor h _ => exact .product (.factor hfirst) hop h
  | @product left right op' _ hop' hright ih _ =>
    have hleft := ih rfl
    rw [← List.cons_append, ← List.append_assoc]
    exact .product hleft hop' hright
  | term _ _ => exact absurd hcategory (by simp)
  | sum _ _ _ _ _ => exact absurd hcategory (by simp)

/-- A factor and an operator may stand in front of a sentence. -/
theorem Sentence.prepend {first tokens : List Token} (hfirst : Sentence .factor first)
    (op : Operator) {category : Category} (h : Sentence category tokens)
    (hcategory : category = .sum) : Sentence .sum (first ++ .operator op :: tokens) := by
  induction h with
  | number digits => exact absurd hcategory (by simp)
  | group _ _ => exact absurd hcategory (by simp)
  | factor _ _ => exact absurd hcategory (by simp)
  | product _ _ _ _ _ => exact absurd hcategory (by simp)
  | term h _ =>
    rcases operator_cases op with hop | hop
    · exact .sum (.term (.factor hfirst)) hop h
    · exact .term (.prepend_term hfirst hop h rfl)
  | @sum left right op' _ hop' hright ih _ =>
    have hleft := ih rfl
    rw [← List.cons_append, ← List.append_assoc]
    exact .sum hleft hop' hright

/-- What completes a sentence: all of it, or what follows its first operand if that is complete
already. -/
inductive Completion : Bool → List Token → Prop
  | whole {tokens : List Token} : Sentence .sum tokens → Completion false tokens
  | done : Completion true []
  | operator {op : Operator} {tokens : List Token} :
      Sentence .sum tokens → Completion true (.operator op :: tokens)

theorem Completion.prepend {first tokens : List Token} (h : Completion true tokens)
    (hfirst : Sentence .factor first) : Sentence .sum (first ++ tokens) := by
  cases h with
  | done =>
    rw [List.append_nil]
    exact .term (.factor hfirst)
  | operator h => exact .prepend hfirst _ h rfl

/-- What follows a sentence inside some open parentheses: their partners, each with what
completes the operand that it ends. -/
inductive Closes : Nat → List Token → Prop
  | nil : Closes 0 []
  | closing {depth : Nat} {tokens rest : List Token} :
      Completion true tokens → Closes depth rest →
      Closes (depth + 1) (.closing :: (tokens ++ rest))

/-- **Tokens without juxtapositions and gaps complete a sentence**, and then the sentences
around it, one for each open parenthesis. -/
theorem exists_completion {tokens : List Token} (hstray : ∀ c, .stray c ∉ tokens)
    {complete : Bool} {depth : Nat} (hjuxtapositions : juxtapositions complete tokens = 0)
    (hgaps : gaps complete tokens = 0) (hopen : openBehind depth tokens = some 0) :
    ∃ first rest, tokens = first ++ rest ∧ Completion complete first ∧ Closes depth rest := by
  induction tokens generalizing complete depth with
  | nil =>
    cases complete with
    | false => exact absurd hgaps (by decide)
    | true =>
      obtain rfl := Option.some.inj hopen
      exact ⟨[], [], rfl, .done, .nil⟩
  | cons token tokens ih =>
    have hstray' : ∀ c, .stray c ∉ tokens := fun c hc => hstray c (List.mem_cons_of_mem token hc)
    -- what may stand first is decided by the two counts, of which nothing is left to spend
    rw [juxtapositions] at hjuxtapositions
    rw [gaps] at hgaps
    have hjuxtapositions' : juxtapositions token.endsOperand tokens = 0 := by omega
    have hgaps' : gaps token.endsOperand tokens = 0 := by omega
    have hnext := fun depth' => @ih hstray' token.endsOperand depth' hjuxtapositions' hgaps'
    cases token with
    | stray c => exact absurd List.mem_cons_self (hstray c)
    | number digits =>
      cases complete with
      | true => simp [Token.startsOperand] at hjuxtapositions
      | false =>
        obtain ⟨first, rest, rfl, hfirst, hrest⟩ := hnext depth hopen
        refine ⟨.number digits :: first, rest, rfl, .whole ?_, hrest⟩
        exact Completion.prepend hfirst (.number digits)
    | operator op =>
      cases complete with
      | false => simp [Token.startsOperand] at hgaps
      | true =>
        obtain ⟨first, rest, rfl, hfirst, hrest⟩ := hnext depth hopen
        cases hfirst with
        | whole h => exact ⟨.operator op :: first, rest, rfl, .operator h, hrest⟩
    | opening =>
      cases complete with
      | true => simp [Token.startsOperand] at hjuxtapositions
      | false =>
        -- what follows is a sentence, its closing parenthesis, and the completion of the group
        obtain ⟨inner, rest, rfl, hinner, hrest⟩ := hnext (depth + 1) hopen
        cases hinner with
        | whole hinner =>
          cases hrest with
          | @closing _ first rest hfirst hrest =>
            have hgroup := hfirst.prepend (.group hinner)
            refine ⟨_, rest, ?_, .whole hgroup, hrest⟩
            simp
    | closing =>
      cases complete with
      | false => simp [Token.startsOperand] at hgaps
      | true =>
        cases depth with
        | zero => exact absurd hopen (by simp [openBehind])
        | succ depth =>
          obtain ⟨first, rest, rfl, hfirst, hrest⟩ := hnext depth hopen
          exact ⟨[], _, rfl, .done, .closing hfirst hrest⟩

/-- **The grammar, seen locally**: tokens form a sentence exactly if none of them is a stray
character, their parentheses are balanced, no operand follows another and none is missing. -/
theorem sentence_iff (tokens : List Token) :
    Sentence .sum tokens ↔ (∀ c, .stray c ∉ tokens) ∧ openBehind 0 tokens = some 0 ∧
      juxtapositions false tokens = 0 ∧ gaps false tokens = 0 := by
  constructor
  · intro h
    have hoperand := h.isOperand
    have hopen := hoperand.openBehind 0 []
    have hjuxtapositions := hoperand.juxtapositions []
    have hgaps := hoperand.gaps []
    rw [List.append_nil] at hopen hjuxtapositions hgaps
    exact ⟨h.stray_not_mem, hopen, hjuxtapositions, hgaps⟩
  · rintro ⟨hstray, hopen, hjuxtapositions, hgaps⟩
    obtain ⟨first, rest, rfl, hfirst, hrest⟩ :=
      exists_completion hstray hjuxtapositions hgaps hopen
    cases hrest with
    | nil =>
      cases hfirst with
      | whole h =>
        rw [List.append_nil]
        exact h

end Calculator.Infix
