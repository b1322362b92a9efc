/-
The tokens of a text, without the scanner.

`tokensFrom position text` reads tokens off a list of characters: blanks are dropped, digits
are taken together, and any other character stands for itself.

* `tokens_eq_tokensFrom` — this is what the lexer does;
* `tokensFrom_append` — a character that is no digit keeps the tokens on its two sides apart;
* `position_mem_tokensFrom`, `pairwise_position_tokensFrom` — the positions of the tokens lie
  inside the text, one behind the other;
* `map_item_tokensFrom` — a list of tokens comes back from every text that spells it;
* `spells_tokensFrom` — a text spells its own tokens.

Design notes.  `Spells tokens text` allows any blanks around the tokens, also none at all.  Two
numbers without a blank between them would be read as one, so `map_item_tokensFrom` asks that
no number follows a number; expressions never have that.
-/
import Mathlib.Data.List.Chain
import Calculator.Infix.Token
import Calculator.Proofs.Characters
import Calculator.Proofs.Scanning

namespace Calculator.Infix

/-- The tokens of a text whose first character stands at `position`. -/
def tokensFrom (position : Nat) : List Char → List (Located Token)
  | [] => []
  | c :: text =>
    if Text.isBlank c then tokensFrom (position + 1) text
    else if c.isDigit then
      ⟨position, .number (c :: text.takeWhile Char.isDigit)⟩ ::
        tokensFrom (position + (text.takeWhile Char.isDigit).length + 1)
          (text.dropWhile Char.isDigit)
    else ⟨position, Token.ofChar c⟩ :: tokensFrom (position + 1) text
termination_by text => text.length
decreasing_by
  · simp
  · have := (List.dropWhile_sublist (l := text) Char.isDigit).length_le
    simp only [List.length_cons]
    omega
  · simp

@[simp] theorem tokensFrom_nil (position : Nat) : tokensFrom position [] = [] := by
  rw [tokensFrom]

theorem tokensFrom_blank {c : Char} (h : Text.isBlank c = true) (position : Nat)
    (text : List Char) :
    tokensFrom position (c :: text) = tokensFrom (position + 1) text := by
  rw [tokensFrom, if_pos h]

theorem tokensFrom_digit {c : Char} (h : c.isDigit = true) (position : Nat)
    (text : List Char) :
    tokensFrom position (c :: text) =
      ⟨position, .number (c :: text.takeWhile Char.isDigit)⟩ ::
        tokensFrom (position + (text.takeWhile Char.isDigit).length + 1)
          (text.dropWhile Char.isDigit) := by
  rw [tokensFrom, if_neg (by simp [Text.isBlank_of_isDigit h]), if_pos h]

theorem tokensFrom_symbol {c : Char} (hblank : Text.isBlank c = false)
    (hdigit : c.isDigit = false) (position : Nat) (text : List Char) :
    tokensFrom position (c :: text) =
      ⟨position, Token.ofChar c⟩ :: tokensFrom (position + 1) text := by
  rw [tokensFrom, if_neg (by simp [hblank]), if_neg (by simp [hdigit])]

/-- A character that is no number stands for itself alone. -/
theorem Token.ofChar_injective : Function.Injective ofChar := by
  intro c d h
  have htext := congrArg text h
  rw [text_ofChar, text_ofChar] at htext
  exact List.singleton_inj.mp htext

@[simp] theorem Token.ofChar_symbol (op : Operator) : ofChar op.symbol = .operator op := by
  cases op <;> rfl

/-! ### The lexer -/

theorem tokensFrom_of_poll_eq_none {s s' : Scanner Char} (h : Token.poll s = (none, s')) :
    tokensFrom s.offset s.rest = [] := by
  rw [Scanner.skip_dropWhile @tokensFrom_blank, ← Scanner.rest_skipBlanks]
  revert h
  fun_cases Token.poll s with
  | case1 => simp
  | case2 => simp
  | case3 s₁ hs₁ s₂ hs₂ =>
    intro _
    obtain ⟨-, hrest, -, -⟩ := Scanner.skipWhile_eq_false hs₁
    rw [← hrest]
    -- the lexer would have taken a character that is no digit for itself
    cases hr : s₁.rest with
    | nil => exact tokensFrom_nil _
    | cons c text =>
      obtain ⟨s₃, hs₃, -⟩ := Scanner.next?_of_rest_eq_cons hr
      rw [hs₂] at hs₃
      exact absurd hs₃ (by simp)

theorem tokensFrom_of_poll_eq_some {s s' : Scanner Char} {token : Located Token}
    (hs : s.lexeme = []) (h : Token.poll s = (some token, s')) :
    s'.lexeme = [] ∧ tokensFrom s.offset s.rest = token :: tokensFrom s'.offset s'.rest := by
  rw [Scanner.skip_dropWhile @tokensFrom_blank, ← Scanner.rest_skipBlanks,
    ← Scanner.offset_skipBlanks hs]
  revert h
  fun_cases Token.poll s with
  | case1 s₁ hs₁ =>
    rintro ⟨⟩
    obtain ⟨⟨c, text, hr, hc⟩, hrest, hlexeme, hoffset⟩ := Scanner.skipWhile_eq_true hs₁
    refine ⟨rfl, ?_⟩
    rw [Scanner.offset_discard, Scanner.rest_discard, hrest, hoffset, hlexeme, hr,
      tokensFrom_digit hc, List.takeWhile_cons_of_pos hc, List.dropWhile_cons_of_pos hc]
    rfl
  | case2 s₁ hs₁ c s₂ hs₂ =>
    rintro ⟨⟩
    obtain ⟨hstop, hrest, hlexeme, hoffset⟩ := Scanner.skipWhile_eq_false hs₁
    refine ⟨rfl, ?_⟩
    cases hr : s.skipBlanks.rest with
    | nil =>
      obtain ⟨s₃, hs₃⟩ := Scanner.next?_of_rest_eq_nil (hrest.trans hr)
      rw [hs₂] at hs₃
      exact absurd hs₃ (by simp)
    | cons d text =>
      obtain ⟨s₃, hs₃, hrest₃, hlexeme₃, hoffset₃⟩ :=
        Scanner.next?_of_rest_eq_cons (hrest.trans hr)
      rw [hs₂] at hs₃
      obtain ⟨hd, rfl⟩ := Prod.mk.inj hs₃
      obtain rfl := Option.some.inj hd
      rw [tokensFrom_symbol (Scanner.isBlank_of_rest_skipBlanks hr) (hstop c text hr),
        Scanner.offset_discard, Scanner.rest_discard, hrest₃, hlexeme₃, hoffset₃, hlexeme,
        hoffset]
      rfl
  | case3 => simp

/-- The lexer reads off the tokens of its text. -/
theorem tokens_eq_tokensFrom (text : List Char) : tokens text = tokensFrom 0 text :=
  Scanner.collect_eq (fun _ _ _ => tokensFrom_of_poll_eq_none)
    (fun _ _ _ => tokensFrom_of_poll_eq_some) rfl

/-! ### Parts of a text -/

/-- A character that is no digit keeps the tokens on its two sides apart. -/
theorem tokensFrom_append {c : Char} (hc : c.isDigit = false) (position : Nat)
    (before after : List Char) :
    tokensFrom position (before ++ c :: after) =
      tokensFrom position before ++ tokensFrom (position + before.length) (c :: after) := by
  fun_induction tokensFrom position before with
  | case1 => simp
  | case2 position d before hblank ih =>
    rw [List.cons_append, tokensFrom_blank hblank, ih, List.length_cons]
    congr 2
    omega
  | case3 position d before _ hdigit ih =>
    -- the run of digits ends in front of `c`, so it is the same with and without what follows
    rw [List.cons_append, tokensFrom_digit hdigit, Scanner.takeWhile_append_cons hc,
      Scanner.dropWhile_append_cons hc, ih, List.cons_append]
    congr 3
    have := Scanner.length_takeWhile_add_dropWhile Char.isDigit before
    simp only [List.length_cons]
    omega
  | case4 position d before hblank hdigit ih =>
    rw [List.cons_append, tokensFrom_symbol (by simpa using hblank) (by simpa using hdigit), ih,
      List.cons_append, List.length_cons]
    congr 3
    omega

/-- The tokens of a text stand inside the text. -/
theorem position_mem_tokensFrom {position : Nat} {text : List Char} {token : Located Token}
    (h : token ∈ tokensFrom position text) :
    position ≤ token.position ∧ token.position < position + text.length := by
  fun_induction tokensFrom position text with
  | case1 => simp at h
  | case2 position c text _ ih =>
    have := ih h
    simp only [List.length_cons]
    omega
  | case3 position c text _ _ ih =>
    have := Scanner.length_takeWhile_add_dropWhile Char.isDigit text
    simp only [List.length_cons]
    rcases List.mem_cons.mp h with rfl | h
    · refine ⟨Nat.le_refl position, ?_⟩
      show position < _
      omega
    · have := ih h
      omega
  | case4 position c text _ _ ih =>
    simp only [List.length_cons]
    rcases List.mem_cons.mp h with rfl | h
    · refine ⟨Nat.le_refl position, ?_⟩
      show position < _
      omega
    · have := ih h
      omega

/-- The tokens of a text stand in it one behind the other. -/
theorem pairwise_position_tokensFrom (position : Nat) (text : List Char) :
    (tokensFrom position text).Pairwise fun a b => a.position < b.position := by
  fun_induction tokensFrom position text with
  | case1 => exact .nil
  | case2 position c text _ ih => exact ih
  | case3 position c text _ _ ih =>
    refine .cons ?_ ih
    intro token htoken
    have := (position_mem_tokensFrom htoken).1
    show position < token.position
    omega
  | case4 position c text _ _ ih =>
    refine .cons ?_ ih
    intro token htoken
    exact (position_mem_tokensFrom htoken).1

/-! ### Spelling -/

/-- `Spells tokens text` if the text consists of the texts of the tokens with any blanks
before, between and behind them. -/
inductive Spells : List Token → List Char → Prop
  | nil {blanks : List Char} : (∀ c ∈ blanks, Text.isBlank c = true) → Spells [] blanks
  | cons {blanks : List Char} {token : Token} {tokens : List Token} {text : List Char} :
      (∀ c ∈ blanks, Text.isBlank c = true) → Spells tokens text →
      Spells (token :: tokens) (blanks ++ (token.text ++ text))

/-- A token that its own text stands for: the digits of a number are digits, and a stray
character has no other meaning. -/
def Token.Legible : Token → Prop
  | number digits => Text.isNumeral digits = true
  | stray c => Text.isBlank c = false ∧ c.isDigit = false ∧ ofChar c = stray c
  | _ => True

def Token.isNumber : Token → Bool
  | number _ => true
  | _ => false

/-- The text of a token that is no number is one character, which stands for it. -/
theorem Token.Legible.text_eq_singleton {token : Token} (h : token.Legible)
    (hnumber : token.isNumber = false) :
    ∃ c, token.text = [c] ∧ Text.isBlank c = false ∧ c.isDigit = false ∧ ofChar c = token := by
  cases token with
  | number digits => simp [isNumber] at hnumber
  | operator op =>
    exact ⟨op.symbol, rfl, op.isBlank_symbol, op.isDigit_symbol, ofChar_symbol op⟩
  | opening => exact ⟨'(', rfl, by decide, by decide, rfl⟩
  | closing => exact ⟨')', rfl, by decide, by decide, rfl⟩
  | stray c => exact ⟨c, rfl, h⟩

/-- A text that begins with a number, and goes on without a digit, begins with its token. -/
theorem tokensFrom_number {digits text : List Char} (h : Text.isNumeral digits = true)
    (htext : ∀ c rest, text = c :: rest → c.isDigit = false) (position : Nat) :
    tokensFrom position (digits ++ text) =
      ⟨position, .number digits⟩ :: tokensFrom (position + digits.length) text := by
  obtain ⟨hne, hall⟩ := Text.isNumeral_iff.mp h
  cases digits with
  | nil => exact absurd rfl hne
  | cons d digits =>
    obtain ⟨hd, hdigits⟩ := List.forall_mem_cons.mp hall
    rw [List.cons_append, tokensFrom_digit hd, Scanner.takeWhile_append_stop hdigits htext,
      Scanner.dropWhile_append_stop hdigits htext, List.length_cons]
    rfl

/-- A text that spells no number in front does not begin with a digit. -/
theorem Spells.isDigit_head {tokens : List Token} {text : List Char} (h : Spells tokens text)
    (hlegible : ∀ token ∈ tokens, token.Legible)
    (hhead : ∀ token ∈ tokens.head?, token.isNumber = false) {c : Char} {rest : List Char}
    (htext : text = c :: rest) : c.isDigit = false := by
  cases h with
  | nil hblanks => exact Text.isDigit_of_isBlank (hblanks c (by simp [htext]))
  | @cons blanks token tokens text hblanks _ =>
    cases blanks with
    | nil =>
      obtain ⟨d, hd, -, hdigit, -⟩ := (hlegible token (by simp)).text_eq_singleton
        (hhead token (by simp))
      rw [List.nil_append, hd] at htext
      obtain ⟨rfl, -⟩ := List.cons.inj htext
      exact hdigit
    | cons b blanks =>
      obtain ⟨rfl, -⟩ := List.cons.inj htext
      exact Text.isDigit_of_isBlank (hblanks b (by simp))

/-- **Tokens come back from every text that spells them**, if they can be read at all and no
number follows a number. -/
theorem map_item_tokensFrom {tokens : List Token} {text : List Char} (h : Spells tokens text)
    (hlegible : ∀ token ∈ tokens, token.Legible)
    (happart : tokens.IsChain fun a b => a.isNumber = false ∨ b.isNumber = false)
    (position : Nat) : (tokensFrom position text).map Located.item = tokens := by
  induction h generalizing position with
  | @nil blanks hblanks =>
    have := Scanner.skip_append @tokensFrom_blank hblanks position []
    rw [List.append_nil] at this
    rw [this, tokensFrom_nil, List.map_nil]
  | @cons blanks token tokens text hblanks hspells ih =>
    have hrest : ∀ token ∈ tokens, token.Legible :=
      fun t ht => hlegible t (List.mem_cons_of_mem token ht)
    have hih := ih hrest happart.tail
    rw [Scanner.skip_append @tokensFrom_blank hblanks]
    cases hnumber : token.isNumber with
    | false =>
      obtain ⟨c, hc, hblank, hdigit, hof⟩ :=
        (hlegible token (by simp)).text_eq_singleton hnumber
      rw [hc, List.singleton_append, tokensFrom_symbol hblank hdigit, List.map_cons, hih, hof]
    | true =>
      cases token with
      | number digits =>
        -- the next token is no number, and neither a blank nor its text goes on with a digit
        have hhead : ∀ t ∈ tokens.head?, t.isNumber = false := by
          intro t ht
          obtain ⟨behind, rfl⟩ := List.head?_eq_some_iff.mp ht
          exact (List.isChain_cons_cons.mp happart).1.resolve_left (by simp [Token.isNumber])
        have hcut : ∀ c rest, text = c :: rest → c.isDigit = false :=
          fun c rest => hspells.isDigit_head hrest hhead
        rw [Token.text, tokensFrom_number (hlegible (.number digits) (by simp)) hcut,
          List.map_cons, hih]
      | operator op => simp [Token.isNumber] at hnumber
      | opening => simp [Token.isNumber] at hnumber
      | closing => simp [Token.isNumber] at hnumber
      | stray c => simp [Token.isNumber] at hnumber

theorem Spells.cons_blank {c : Char} (hc : Text.isBlank c = true) {tokens : List Token}
    {text : List Char} (h : Spells tokens text) : Spells tokens (c :: text) := by
  cases h with
  | nil hblanks => exact .nil (List.forall_mem_cons.mpr ⟨hc, hblanks⟩)
  | @cons blanks token tokens text hblanks hspells =>
    rw [← List.cons_append]
    exact .cons (List.forall_mem_cons.mpr ⟨hc, hblanks⟩) hspells

/-- Every text spells its own tokens. -/
theorem spells_tokensFrom (position : Nat) (text : List Char) :
    Spells ((tokensFrom position text).map Located.item) text := by
  have hnone : ∀ c ∈ ([] : List Char), Text.isBlank c = true := by simp
  fun_induction tokensFrom position text with
  | case1 => exact .nil hnone
  | case2 position c text hblank ih => exact ih.cons_blank hblank
  | case3 position c text _ hdigit ih =>
    have hcons := @Spells.cons [] (.number (c :: text.takeWhile Char.isDigit)) _ _ hnone ih
    rw [Token.text, List.nil_append, List.cons_append, List.takeWhile_append_dropWhile] at hcons
    exact hcons
  | case4 position c text _ _ ih =>
    have hcons := @Spells.cons [] (Token.ofChar c) _ _ hnone ih
    rw [Token.text_ofChar] at hcons
    exact hcons

end Calculator.Infix
