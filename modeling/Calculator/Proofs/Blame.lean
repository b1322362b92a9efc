/-
Faults point at their culprits.

Whatever a reading refuses, its fault quotes the text: the character, the word or the number that
it names stands in the text, at the place that it names, and is what the fault says of it.

* `Infix.Reports`, `Reports.origin` — the faults of all readings of an infix text, and where they
  come from;
* `Infix.Blames`, `Postfix.Blames` — what each fault says of a text in the two notations;
* `Infix.blames_of_mem` — a token that is blamed is what the fault says;
* `Infix.blames_of_fails`, `Postfix.blames_of_fails` — this holds of the faults of a program;
* `faults_point_at_culprits` — and so of the faults of all readings of a text.

Design notes.  What a fault says is told by the characters of the text alone, without its tokens
or words.  A fault without a place, such as that of a division, says nothing about the text.  The
faults that a notation does not know are refused, so that it is also stated which faults there can
be.
-/
import Calculator.Proofs.Infix.Mismatch
import Calculator.Proofs.Infix.Conservation
import Calculator.Proofs.Places
import Calculator.Proofs.Postfix.Reading
import Calculator.Proofs.Relocation

namespace Calculator

open Located (pick)

namespace Infix

/-- What a fault says of an infix text, as far as it names a part of the text. -/
def Blames (text : List Char) : Fault → Prop
  | .strayCharacter c position =>
    text[position]? = some c ∧ IsStray c ∧
      ∀ i < position, ∀ d, text[i]? = some d → ¬IsStray d
  | .missingOperands op position => text[position]? = some op.symbol
  | .unclosedParen position => text[position]? = some '('
  | .unopenedParen position => text[position]? = some ')'
  | .unbalancedParen position => text[position]? = some '(' ∨ text[position]? = some ')'
  | .literalTooLarge lexeme =>
    (∃ position, Text.IsStretch Char.isDigit text position lexeme.toList) ∧
      ¬Value.InRange (Text.natOfDigits lexeme.toList)
  | .leftover _ | .divisionByZero | .remainderByZero | .noParentheses | .overflow _ => True
  | .malformedWord _ _ | .unknownOperator _ => False

/-- The faults with which the readings of an infix text end: an evaluation and a listing, behind
the check of the parentheses or without it, and that check alone. -/
inductive Reports (text : String) (fault : Fault) : Prop
  | check : Parentheses.check text.toList = .error fault → Reports text fault
  | evaluate (strictness : Strictness) :
      (evaluate strictness text).outcome = .error fault → Reports text fault
  | toPostfix (strictness : Strictness) :
      toPostfix strictness text = .error fault → Reports text fault
  | program_evaluate : (program text).evaluate.outcome = .error fault → Reports text fault
  | program_tokens : (program text).tokens = .error fault → Reports text fault

/-- Such a fault is one of the check, or of the program when it is evaluated or listed. -/
theorem Reports.origin {text : String} {fault : Fault} (h : Reports text fault) :
    (∃ strictness, Infix.check strictness text = .error fault) ∨
      (program text).evaluate.outcome = .error fault ∨
        (program text).tokens = .error fault := by
  cases h with
  | check h => exact .inl ⟨.lenient, h⟩
  | evaluate strictness h =>
    exact (outcome_evaluate_eq_error h).imp (Exists.intro strictness) .inl
  | toPostfix strictness h =>
    exact (toPostfix_eq_error h).imp (Exists.intro strictness) .inr
  | program_evaluate h => exact .inr (.inl h)
  | program_tokens h => exact .inr (.inr h)

/-! ### Tokens to blame -/

/-- A token that is a single character is that character of the text. -/
theorem getElem?_of_mem_tokens {text : List Char} {position : Nat} {c : Char}
    (h : ⟨position, Token.ofChar c⟩ ∈ tokens text) :
    text[position]? = some c ∧ Text.isBlank c = false ∧ c.isDigit = false :=
  stands_ofChar_iff.mp (stands_of_mem_tokens h)

theorem isStray_of_mem_tokens {text : List Char} {position : Nat} {c : Char}
    (h : ⟨position, .stray c⟩ ∈ tokens text) : text[position]? = some c ∧ IsStray c := by
  have hstands := stands_of_mem_tokens h
  obtain ⟨d, hd, hblank, hdigit, hof⟩ := hstands
  obtain ⟨rfl, hstray⟩ := isStray_of_ofChar hblank hdigit hof
  exact ⟨hd, hstray⟩

/-- A character without a meaning is a token wherever it stands. -/
theorem mem_tokens_of_isStray {text : List Char} {i : Nat} {c : Char} (hi : text[i]? = some c)
    (hc : IsStray c) : ⟨i, .stray c⟩ ∈ tokens text := by
  obtain ⟨hlt, hget⟩ := List.getElem?_eq_some_iff.mp hi
  have hsplit : text = text.take i ++ c :: text.drop (i + 1) := by
    rw [← hget, List.getElem_cons_drop, List.take_append_drop]
  have htokens := tokens_append_cons hc.not_blank hc.not_digit (text.take i) (text.drop (i + 1))
  rw [← hsplit, List.length_take_of_le (Nat.le_of_lt hlt), hc.ofChar_eq] at htokens
  rw [htokens]
  exact List.mem_append_right _ List.mem_cons_self

/-- If all tokens in front of a stray character have a meaning then it is the first one. -/
theorem not_isStray_of_lt {text : List Char} {position : Nat} {c : Char}
    {before after : List (Located Token)}
    (h : tokens text = before ++ ⟨position, .stray c⟩ :: after)
    (hbefore : ∀ token ∈ before, token.item.Meaningful) {i : Nat} (hi : i < position) {d : Char}
    (hd : text[i]? = some d) : ¬IsStray d := by
  intro hstray
  have hmem := mem_tokens_of_isStray hd hstray
  have hordered := pairwise_position_tokensFrom 0 text
  rw [← tokens_eq_tokensFrom, h] at hordered
  rw [h] at hmem
  rcases List.mem_append.mp hmem with hmem | hmem
  · exact hbefore _ hmem
  · -- behind the first one, positions are larger
    obtain ⟨-, hbehind, -⟩ := List.pairwise_append.mp hordered
    rcases List.mem_cons.mp hmem with heq | hmem
    · exact absurd (congrArg Located.position heq) (Nat.ne_of_lt hi)
    · have hlt : position < i := (List.pairwise_cons.mp hbehind).1 _ hmem
      omega

/-- A token that is blamed is what the fault says. -/
theorem blames_of_mem {text : List Char} {position : Nat} :
    (∀ op, ⟨position, .operator op⟩ ∈ tokens text → Blames text (.missingOperands op position)) ∧
      (⟨position, .opening⟩ ∈ tokens text → Blames text (.unclosedParen position)) ∧
      (⟨position, .closing⟩ ∈ tokens text → Blames text (.unopenedParen position)) := by
  refine ⟨?_, ?_, ?_⟩
  · intro op h
    rw [← Token.ofChar_symbol] at h
    exact (getElem?_of_mem_tokens h).1
  · intro h
    exact (@getElem?_of_mem_tokens _ _ '(' h).1
  · intro h
    exact (@getElem?_of_mem_tokens _ _ ')' h).1

/-! ### Faults of a text -/

theorem blames_of_check {text : List Char} {fault : Fault}
    (h : Parentheses.check text = .error fault) : Blames text fault := by
  rw [check_eq_checkTokens] at h
  obtain ⟨position, ⟨hmem, rfl⟩ | ⟨hmem, rfl⟩⟩ := checkTokens_eq_error h
  · rw [← tokens_eq_tokensFrom] at hmem
    exact blames_of_mem.2.2 hmem
  · rw [← tokens_eq_tokensFrom] at hmem
    exact blames_of_mem.2.1 hmem

/-- The check that comes first refuses a text without parentheses, or blames one of them. -/
theorem blames_of_precheck {strictness : Strictness} {text : String} {fault : Fault}
    (h : check strictness text = .error fault) : Blames text.toList fault := by
  rw [check] at h
  split at h
  · obtain rfl := Except.error.inj h
    trivial
  · exact blames_of_check h

/-- The reading blames a parenthesis that the check blames, too, or the token at which it
stops. -/
theorem blames_of_fault_program {text : String} {fault : Fault}
    (h : (program text).fault = some fault) : Blames text.toList fault := by
  have hends := program_ends text
  have hrun := h
  rw [program_eq_run, ← tokens_eq_tokensFrom] at hrun
  rcases Yard.fault_run_cases hrun with
    ⟨position, rfl⟩ | ⟨before, token, after, hsplit, hbefore, hunreadable⟩
  · rw [h] at hends
    generalize hcheck : Parentheses.check text.toList = check at hends
    cases hends with
    | unopened => exact .inr (blames_of_check hcheck)
    | unclosed => exact .inl (blames_of_check hcheck)
    | passing _ hpassing => exact absurd hpassing id
  · have hmem : token ∈ tokens text.toList := by
      rw [hsplit]
      exact List.mem_append_right _ List.mem_cons_self
    cases hunreadable with
    | @number position digits hvalue =>
      have hstretch : Text.IsStretch Char.isDigit text.toList position digits :=
        stands_of_mem_tokens hmem
      rw [Blames, String.toList_ofList]
      exact ⟨⟨position, hstretch⟩, Value.ofInt?_eq_none_iff.mp hvalue⟩
    | stray =>
      obtain ⟨hget, hstray⟩ := isStray_of_mem_tokens hmem
      exact ⟨hget, hstray, fun i hi d => not_isStray_of_lt hsplit hbefore hi⟩

theorem blames_of_fails {text : String} {fault : Fault} (h : (program text).Fails fault) :
    Blames text.toList fault := by
  cases h with
  | arithmetic harithmetic => exact harithmetic.elim trivial trivial fun _ => trivial
  | @operands op position hmem =>
    have hpick : ⟨position, op⟩ ∈ pick Postfix.Token.operator? (program text).code :=
      Located.mem_pick_iff.mpr ⟨_, hmem, rfl⟩
    rw [program] at hpick
    have htoken := Yard.operators_run_subset [] (tokens text.toList) hpick
    rw [Located.pick_nil, List.nil_append] at htoken
    obtain ⟨item, hitem, hop⟩ := Located.mem_pick_iff.mp htoken
    cases item with
    | operator op' =>
      obtain rfl := Option.some.inj hop
      exact blames_of_mem.1 _ hitem
    | _ => exact absurd hop (by simp [Token.operator?])
  | reading hfault => exact blames_of_fault_program hfault
  | leftover => trivial

theorem Reports.blames {text : String} {fault : Fault} (h : Reports text fault) :
    Blames text.toList fault := by
  rcases h.origin with ⟨strictness, hcheck⟩ | hevaluate | htokens
  · exact blames_of_precheck hcheck
  · exact blames_of_fails (Postfix.Program.fails_of_outcome hevaluate)
  · exact blames_of_fails (Postfix.Program.fails_of_tokens htokens)

/-- A place that an infix fault names lies inside the text. -/
theorem Blames.position_lt {text : List Char} {fault : Fault} (h : Blames text fault)
    {position : Nat} (hposition : fault.position? = some position) : position < text.length := by
  have hlt : ∀ {i : Nat} {c : Char}, text[i]? = some c → i < text.length :=
    fun hget => (List.getElem?_eq_some_iff.mp hget).1
  cases fault with
  | strayCharacter c at' =>
    obtain rfl := Option.some.inj hposition
    exact hlt h.1
  | missingOperands op at' =>
    obtain rfl := Option.some.inj hposition
    exact hlt h
  | unclosedParen at' =>
    obtain rfl := Option.some.inj hposition
    exact hlt h
  | unopenedParen at' =>
    obtain rfl := Option.some.inj hposition
    exact hlt h
  | unbalancedParen at' =>
    obtain rfl := Option.some.inj hposition
    exact h.elim hlt hlt
  | malformedWord word at' => exact absurd h id
  | _ => exact absurd hposition (by simp [Fault.position?])

end Infix

namespace Postfix

/-- What a fault says of a postfix text, as far as it names a part of the text. -/
def Blames (text : List Char) : Fault → Prop
  | .missingOperands op position => Text.IsStretch Word.isPart text position [op.symbol]
  | .malformedWord word position =>
    Text.IsStretch Word.isPart text position word.toList ∧
      (∀ op : Operator, word.toList ≠ [op.symbol]) ∧ Text.readInteger? word.toList = none
  | .literalTooLarge word =>
    (∃ position, Text.IsStretch Word.isPart text position word.toList) ∧
      ∃ n, Text.readInteger? word.toList = some n ∧ ¬Value.InRange n
  | .leftover _ | .divisionByZero | .remainderByZero | .overflow _ => True
  | .strayCharacter _ _ | .unclosedParen _ | .unopenedParen _ | .unbalancedParen _
  | .noParentheses | .unknownOperator _ => False

theorem blames_of_fails {text : List Char} {fault : Fault}
    (h : (Program.ofWords (words text)).Fails fault) : Blames text fault := by
  cases h with
  | arithmetic harithmetic => exact harithmetic.elim trivial trivial fun _ => trivial
  | @operands op position hmem =>
    obtain ⟨word, hword, rfl, htoken⟩ := Program.mem_code_ofWords hmem
    have hstretch := isStretch_of_mem_words hword
    rw [Token.ofWord_eq_operator_iff.mp htoken] at hstretch
    exact hstretch
  | reading hfault =>
    obtain ⟨word, hword, hfault⟩ := Program.fault_ofWords_eq_some hfault
    have hstretch := isStretch_of_mem_words hword
    rcases Token.ofWord_eq_error hfault with ⟨hop, hinteger, rfl⟩ | ⟨n, hinteger, hrange, rfl⟩
    · rw [Blames, String.toList_ofList]
      refine ⟨hstretch, ?_, hinteger⟩
      intro op heq
      rw [operatorOfWord?_eq_some_iff.mpr heq] at hop
      exact absurd hop (by simp)
    · rw [Blames, String.toList_ofList]
      exact ⟨⟨word.position, hstretch⟩, n, hinteger, hrange⟩
  | leftover => trivial

/-- A place that a postfix fault names lies inside the text. -/
theorem Blames.position_lt {text : List Char} {fault : Fault} (h : Blames text fault)
    {position : Nat} (hposition : fault.position? = some position) : position < text.length := by
  cases fault with
  | missingOperands op at' =>
    obtain rfl := Option.some.inj hposition
    exact Text.IsStretch.position_lt h
  | malformedWord word at' =>
    obtain rfl := Option.some.inj hposition
    exact h.1.position_lt
  | strayCharacter c at' => exact absurd h id
  | unclosedParen at' => exact absurd h id
  | unopenedParen at' => exact absurd h id
  | unbalancedParen at' => exact absurd h id
  | _ => exact absurd hposition (by simp [Fault.position?])

end Postfix

/-- **Every fault points at its culprit**, in both notations and in every reading of a text: what
it says of the text is true, and the place that it names lies inside the text. -/
theorem faults_point_at_culprits (text : String) (fault : Fault) :
    (Infix.Reports text fault →
      Infix.Blames text.toList fault ∧
        ∀ position, fault.position? = some position → position < text.length) ∧
    ((Postfix.evaluate text).outcome = .error fault →
      Postfix.Blames text.toList fault ∧
        ∀ position, fault.position? = some position → position < text.length) := by
  rw [← String.length_toList]
  constructor
  · intro h
    exact ⟨h.blames, fun position => h.blames.position_lt⟩
  · intro h
    have hblames := Postfix.blames_of_fails (Postfix.Program.fails_of_outcome h)
    exact ⟨hblames, fun position => hblames.position_lt⟩

/-- Behind an ideographic space the places count code points, and the second stray character is
not the one to blame; in postfix notation the same text is one word after the other. -/
theorem culprits_behind_wide_blank :
    (Infix.Blames "\u3000(1 $ 2 #".toList (.unclosedParen 1) ∧
        ∀ position, (Fault.unclosedParen 1).position? = some position →
          position < "\u3000(1 $ 2 #".length) ∧
      (Infix.Blames "\u3000(1 $ 2 #".toList (.strayCharacter '$' 4) ∧
        ∀ position, (Fault.strayCharacter '$' 4).position? = some position →
          position < "\u3000(1 $ 2 #".length) ∧
      (Postfix.Blames "\u3000(1 $ 2 #".toList (.malformedWord "(1" 1) ∧
        ∀ position, (Fault.malformedWord "(1" 1).position? = some position →
          position < "\u3000(1 $ 2 #".length) := by
  have hcheck : Infix.check .lenient "\u3000(1 $ 2 #" = .error (.unclosedParen 1) := by
    decide +kernel
  have htokens : (Infix.program "\u3000(1 $ 2 #").tokens = .error (.strayCharacter '$' 4) := by
    decide +kernel
  have hprogram : Postfix.Program.ofWords (words "\u3000(1 $ 2 #".toList) =
      .failed (.malformedWord "(1" 1) := by decide +kernel
  refine ⟨?_, ?_, ?_⟩
  · refine (faults_point_at_culprits _ _).1 (.toPostfix .lenient ?_)
    rw [Infix.toPostfix, hcheck]
  · exact (faults_point_at_culprits _ _).1 (.program_tokens htokens)
  · refine (faults_point_at_culprits _ _).2 ?_
    rw [Postfix.evaluate, hprogram]
    rfl

end Calculator
