/-
Rendered expressions read back.

The text of a list of tokens has one word for each token, and that word stands for the token
again.  Nothing is asked of the tokens: they need not form an expression, and a number may be
negative.

* `Token.isWord_text` — the text of a token is a word;
* `Token.ofWord_text` — the word stands for the token;
* `placed` — tokens at the places that their words have in the rendered text;
* `Program.ofWords_render` — the rendered text has the tokens for its program;
* `render_injective` — no other tokens have the same text;
* `evaluate_render` — the rendered text is evaluated by carrying out the tokens where they
  stand.
-/
import Calculator.Proofs.Characters
import Calculator.Proofs.Postfix.Reading
import Calculator.Proofs.Words

namespace Calculator

namespace Value

/-- The text of a value: digits, at least one, with at most a minus sign in front. -/
theorem text_cases (v : Value) :
    Text.isNumeral v.text = true ∨
      ∃ digits, v.text = '-' :: digits ∧ Text.isNumeral digits = true := by
  rw [text]
  cases v.toInt with
  | ofNat n => exact .inl (Text.isNumeral_toDigits n)
  | negSucc n => exact .inr ⟨_, rfl, Text.isNumeral_toDigits (n + 1)⟩

theorem isWord_text (v : Value) : IsWord v.text := by
  rcases v.text_cases with h | ⟨digits, htext, h⟩
  · obtain ⟨hne, hdigits⟩ := Text.isNumeral_iff.mp h
    exact ⟨hne, fun c hc => Text.isBlank_of_isDigit (hdigits c hc)⟩
  · obtain ⟨-, hdigits⟩ := Text.isNumeral_iff.mp h
    refine ⟨by simp [htext], ?_⟩
    intro c hc
    rw [htext] at hc
    rcases List.mem_cons.mp hc with rfl | hc
    · decide
    · exact Text.isBlank_of_isDigit (hdigits c hc)

end Value

namespace Postfix

theorem Token.isWord_text (token : Token) : IsWord token.text := by
  cases token with
  | number v => exact v.isWord_text
  | operator op =>
    refine ⟨by simp [text], ?_⟩
    intro c hc
    obtain rfl := List.mem_singleton.mp hc
    exact op.isBlank_symbol

theorem Token.ofWord_text (token : Token) (position : Nat) :
    ofWord ⟨position, token.text⟩ = .ok token := by
  cases token with
  | number v => exact ofWord_eq_number_iff.mpr v.ofText?_text
  | operator op => exact ofWord_eq_operator_iff.mpr rfl

/-! ### Places -/

/-- Tokens at the places of their words in a rendered text: one space stands between
neighbours, and the first word begins at `position`. -/
def placed (position : Nat) : List Token → List (Located Token)
  | [] => []
  | token :: rest => ⟨position, token⟩ :: placed (position + token.text.length + 1) rest

/-- The word of a token, at the place of the token. -/
def Token.word (token : Located Token) : Located (List Char) :=
  ⟨token.position, token.item.text⟩

theorem map_item_placed (position : Nat) (tokens : List Token) :
    (placed position tokens).map Located.item = tokens := by
  induction tokens generalizing position with
  | nil => rfl
  | cons token tokens ih => rw [placed, List.map_cons, ih]

theorem map_word_placed (position : Nat) (tokens : List Token) :
    (placed position tokens).map Token.word = inRow position (tokens.map Token.text) := by
  induction tokens generalizing position with
  | nil => rfl
  | cons token tokens ih =>
    rw [placed, List.map_cons, ih]
    rfl

/-- Every token stands in the text at its place. -/
theorem text_prefix_drop {position : Nat} {tokens : List Token} {token : Located Token}
    (h : token ∈ placed position tokens) {front : List Char} (hfront : front.length = position) :
    token.item.text <+:
      (front ++ [' '].intercalate (tokens.map Token.text)).drop token.position := by
  induction tokens generalizing position front with
  | nil => exact absurd h List.not_mem_nil
  | cons first rest ih =>
    rcases List.mem_cons.mp h with rfl | h
    · rw [← hfront, List.drop_left]
      cases rest with
      | nil => simp
      | cons second rest =>
        rw [List.map_cons, List.map_cons, List.intercalate_cons_cons, List.append_assoc]
        exact List.prefix_append _ _
    · have hne : rest.map Token.text ≠ [] := by
        rintro hnil
        rw [List.map_eq_nil_iff.mp hnil] at h
        exact absurd h List.not_mem_nil
      -- in front of the others stand the first text and a space
      have hlength : (front ++ (first.text ++ [' '])).length =
          position + first.text.length + 1 := by
        simp only [List.length_append, List.length_singleton, hfront, Nat.add_assoc]
      rw [List.map_cons, List.intercalate_cons_of_ne_nil hne, ← List.append_assoc]
      exact ih h hlength

/-! ### Rendered texts -/

/-- **A rendered text has one word for each token**, at the place of the token. -/
theorem words_render (tokens : List Token) :
    words (render tokens).toList = (placed 0 tokens).map Token.word := by
  have htexts : ∀ word ∈ tokens.map Token.text, IsWord word := by
    intro word hword
    obtain ⟨token, -, rfl⟩ := List.mem_map.mp hword
    exact token.isWord_text
  rw [words_eq_wordsFrom, render, String.toList_ofList, wordsFrom_intercalate htexts,
    map_word_placed]

/-- Words that are the texts of tokens spell these tokens, and are read to their end. -/
theorem Program.ofWords_map_word (code : List (Located Token)) :
    ofWords (code.map Token.word) = { code := code, fault := none } := by
  induction code with
  | nil => rfl
  | cons token code ih =>
    rw [List.map_cons, ofWords, Token.word, Token.ofWord_text, ih]
    rfl

theorem Program.ofWords_words_render (tokens : List Token) :
    ofWords (words (render tokens).toList) = { code := placed 0 tokens, fault := none } := by
  rw [words_render, ofWords_map_word]

/-- **A rendered text has its tokens for a program**, and is read to its end. -/
theorem Program.ofWords_render (tokens : List Token) :
    (ofWords (words (render tokens).toList)).code.map Located.item = tokens ∧
      (ofWords (words (render tokens).toList)).fault = none := by
  rw [ofWords_words_render]
  exact ⟨map_item_placed 0 tokens, rfl⟩

theorem render_injective : Function.Injective render := by
  intro tokens tokens' h
  rw [← (Program.ofWords_render tokens).1, h, (Program.ofWords_render tokens').1]

/-- A program that was read to its end leaves a single value, or fails. -/
theorem Program.evaluate_of_fault_eq_none (code : List (Located Token)) :
    Program.evaluate { code := code, fault := none } =
      { reductions := (execute code []).1, outcome := (execute code []).2.bind single } := by
  rw [evaluate]
  rcases execute code [] with ⟨reductions, fault | operands⟩
  · rfl
  · rfl

/-- A listed program is evaluated like the rendered text of its tokens. -/
theorem Program.evaluate_render_tokens {p : Program} {tokens : List Token}
    (h : p.tokens = .ok tokens) : Postfix.evaluate (render tokens) = p.evaluate := by
  obtain ⟨hcount, hfault, hitems⟩ := tokens_eq_ok_iff.mp h
  obtain ⟨hitems', hfault'⟩ := ofWords_render tokens
  exact (evaluate_congr (hitems.trans hitems'.symm) (hfault.trans hfault'.symm) hcount).symm

/-- **What is rendered reads back**, whatever the tokens are.  The text has one word for each
token, in their order and at their places; each word stands for its token, so no other tokens
have the same text; and the text is evaluated by carrying out the tokens as they stand, each at
its place, on no operands, and taking the single value that is left. -/
theorem evaluate_render (tokens : List Token) :
    words (render tokens).toList = (placed 0 tokens).map Token.word ∧
      (∀ token ∈ placed 0 tokens,
        token.item.text <+: (render tokens).toList.drop token.position) ∧
      (words (render tokens).toList).map Token.ofWord = tokens.map .ok ∧
      Function.Injective render ∧
      evaluate (render tokens) =
        { reductions := (execute (placed 0 tokens) []).1,
          outcome := (execute (placed 0 tokens) []).2.bind single } := by
  refine ⟨words_render tokens, ?_, ?_, render_injective, ?_⟩
  · intro token htoken
    have hplace := @text_prefix_drop 0 tokens token htoken [] rfl
    rwa [List.nil_append, ← String.toList_ofList (l := [' '].intercalate _)] at hplace
  · rw [words_render]
    have hword : Token.ofWord ∘ Token.word = .ok ∘ Located.item := by
      funext token
      exact token.item.ofWord_text token.position
    rw [List.map_map, hword, ← List.map_map, map_item_placed]
  · rw [evaluate, Program.ofWords_words_render, Program.evaluate_of_fault_eq_none]

/-- An operator without its operands is found at its offset in the text, here behind a number
with a sign and a space. -/
theorem evaluate_render_missing :
    ∃ tokens : List Token,
      tokens = [.number ⟨-3, by decide, by decide⟩, .operator .sub,
        .number ⟨Value.least, by decide, by decide⟩] ∧
      ⟨3, .operator .sub⟩ ∈ placed 0 tokens ∧
      ['-'] <+: (render tokens).toList.drop 3 ∧
      (evaluate (render tokens)).outcome = .error (.missingOperands .sub 3) := by
  refine ⟨_, rfl, ?_, ?_, ?_⟩
  · exact .tail _ (.head _)
  · exact (evaluate_render _).2.1 ⟨3, .operator .sub⟩ (.tail _ (.head _))
  · rw [(evaluate_render _).2.2.2.2]
    rfl

end Postfix

end Calculator
