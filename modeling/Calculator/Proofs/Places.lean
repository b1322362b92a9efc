/-
Where words and tokens stand.

A word is a stretch of characters that are no blanks, a number is a stretch of digits, and neither
can be made longer.  Any other token is a single character.  All of them stand in the text at the
places that they carry.

* `Text.IsStretch` — characters of a kind that stand at a place of a text, as many as there are;
* `Text.IsStretch.eq_of_covers` — there is one of them at most around a place;
* `isStretch_of_mem_words` — the words of a text are such stretches;
* `Infix.stands_of_mem_tokens` — so are its numbers, and the other tokens are its characters;
* `Infix.Stands.eq_of_covers` — there is one token at most around a place;
* `Infix.tokens_append_cons` — a character that is neither blank nor digit is a token at its place.

Design notes.  A lexer reads a text from some place on.  What it finds there is a stretch of the
whole text only if the character in front does not belong to it: `Text.Parted` says so, and every
step of a lexer keeps it.
-/
import Calculator.Proofs.Infix.Lexing
import Calculator.Proofs.Words

namespace Calculator

namespace Text

/-- Characters that satisfy `p` and stand in a text at `position`, as many of them as there are:
the stretch is not empty, and what stands beside it does not satisfy `p`. -/
structure IsStretch (p : Char → Bool) (text : List Char) (position : Nat) (stretch : List Char) :
    Prop where
  ne_nil : stretch ≠ []
  all : ∀ c ∈ stretch, p c = true
  maximal : ∃ before after, text = before ++ (stretch ++ after) ∧ before.length = position ∧
    (∀ c ∈ before.getLast?, p c = false) ∧ ∀ c ∈ after.head?, p c = false

theorem IsStretch.position_lt {p : Char → Bool} {text : List Char} {position : Nat}
    {stretch : List Char} (h : IsStretch p text position stretch) : position < text.length := by
  obtain ⟨before, after, rfl, rfl, -, -⟩ := h.maximal
  have hpos := List.length_pos_iff.mpr h.ne_nil
  simp only [List.length_append]
  omega

/-- A piece of a text reaches over the places of its characters. -/
def Covers (position : Nat) (piece : List Char) (i : Nat) : Prop :=
  position ≤ i ∧ i < position + piece.length

/-- The first place of a piece that is not empty is covered. -/
theorem covers_position {position : Nat} {piece : List Char} (h : piece ≠ []) :
    Covers position piece position := by
  have hpos := List.length_pos_iff.mpr h
  exact ⟨Nat.le_refl position, by omega⟩

namespace IsStretch

variable {p : Char → Bool} {text stretch stretch' : List Char} {position position' : Nat}

/-- A stretch is a piece of its text. -/
theorem take_drop (h : IsStretch p text position stretch) :
    (text.drop position).take stretch.length = stretch := by
  obtain ⟨before, after, rfl, rfl, -, -⟩ := h.maximal
  rw [List.drop_left, List.take_left]

theorem length_le (h : IsStretch p text position stretch) :
    position + stretch.length ≤ text.length := by
  obtain ⟨before, after, rfl, rfl, -, -⟩ := h.maximal
  simp only [List.length_append]
  omega

theorem apply_of_covers (h : IsStretch p text position stretch) {i : Nat}
    (hi : Covers position stretch i) {c : Char} (hc : text[i]? = some c) : p c = true := by
  obtain ⟨hle, hlt⟩ := hi
  apply h.all
  rw [← h.take_drop]
  apply List.mem_of_getElem? (i := i - position)
  rw [List.getElem?_take_of_lt (by omega), List.getElem?_drop, Nat.add_sub_cancel' hle, hc]

/-- The character in front of a stretch does not belong to it. -/
theorem apply_in_front (h : IsStretch p text position stretch) {i : Nat}
    (hi : i + 1 = position) {c : Char} (hc : text[i]? = some c) : p c = false := by
  obtain ⟨before, after, rfl, rfl, hfront, -⟩ := h.maximal
  apply hfront
  rw [List.getElem?_append_left (by omega)] at hc
  rw [List.getLast?_eq_getElem?, ← hi, Nat.add_sub_cancel, hc]
  rfl

/-- The character behind a stretch does not belong to it. -/
theorem apply_behind (h : IsStretch p text position stretch) {c : Char}
    (hc : text[position + stretch.length]? = some c) : p c = false := by
  obtain ⟨before, after, rfl, rfl, -, hbehind⟩ := h.maximal
  apply hbehind
  rw [List.getElem?_append_right (by omega), List.getElem?_append_right (by omega)] at hc
  rw [List.head?_eq_getElem?, show 0 = before.length + stretch.length - before.length -
    stretch.length by omega, hc]
  rfl

/-- Where two stretches meet, neither begins behind the other. -/
theorem position_le (h : IsStretch p text position stretch)
    (h' : IsStretch p text position' stretch') {i : Nat} (hi : Covers position stretch i)
    (hi' : Covers position' stretch' i) : position' ≤ position := by
  by_contra hlt
  obtain ⟨-, hend⟩ := hi
  obtain ⟨hle', -⟩ := hi'
  -- the character in front of the second one would be in the first
  have hlength := h.length_le
  have hget := List.getElem?_eq_getElem (l := text) (i := position' - 1) (by omega)
  have htrue := h.apply_of_covers ⟨by omega, by omega⟩ hget
  have hfalse := h'.apply_in_front (by omega) hget
  rw [htrue] at hfalse
  exact absurd hfalse (by simp)

/-- Of two stretches that begin at one place, neither ends behind the other. -/
theorem length_le_length (h : IsStretch p text position stretch)
    (h' : IsStretch p text position stretch') : stretch.length ≤ stretch'.length := by
  by_contra hlt
  have hlength := h.length_le
  have hget := List.getElem?_eq_getElem (l := text) (i := position + stretch'.length) (by omega)
  have htrue := h.apply_of_covers ⟨by omega, by omega⟩ hget
  rw [h'.apply_behind hget] at htrue
  exact absurd htrue (by simp)

/-- **Two stretches that meet are the same**: there is one stretch at most around a place. -/
theorem eq_of_covers (h : IsStretch p text position stretch)
    (h' : IsStretch p text position' stretch') {i : Nat} (hi : Covers position stretch i)
    (hi' : Covers position' stretch' i) : position = position' ∧ stretch = stretch' := by
  obtain rfl : position = position' :=
    Nat.le_antisymm (h'.position_le h hi' hi) (h.position_le h' hi hi')
  have hlength := Nat.le_antisymm (h.length_le_length h') (h'.length_le_length h)
  refine ⟨rfl, ?_⟩
  rw [← h.take_drop, hlength, h'.take_drop]

end IsStretch

/-- No stretch of characters that satisfy `p` goes on from one list of characters to the next. -/
def Parted (p : Char → Bool) (before after : List Char) : Prop :=
  ∀ c ∈ before.getLast?, ∀ d ∈ after.head?, p c = false ∨ p d = false

section

variable {p : Char → Bool}

theorem parted_append_singleton {c : Char} (hc : p c = false) (before after : List Char) :
    Parted p (before ++ [c]) after := by
  intro d hd _ _
  rw [List.getLast?_concat] at hd
  obtain rfl := Option.some.inj hd
  exact .inl hc

theorem head?_dropWhile_eq_false (text : List Char) :
    ∀ c ∈ (text.dropWhile p).head?, p c = false := by
  intro c hc
  have hnot := List.head?_dropWhile_not p text
  rw [hc] at hnot
  simpa using hnot

theorem parted_dropWhile (before text : List Char) : Parted p before (text.dropWhile p) :=
  fun _ _ d hd => .inr (head?_dropWhile_eq_false text d hd)

/-- A lexer that has taken a stretch goes on behind it. -/
theorem append_cons_eq (p : Char → Bool) (before : List Char) (c : Char) (text : List Char) :
    before ++ c :: text = (before ++ c :: text.takeWhile p) ++ text.dropWhile p := by
  rw [List.append_assoc, List.cons_append, List.takeWhile_append_dropWhile]

/-- The longest stretch from a place on is a stretch of the whole text, if no character in front
of it belongs to it. -/
theorem isStretch_takeWhile {before : List Char} {c : Char} {text : List Char} (hc : p c = true)
    (hparted : Parted p before (c :: text)) :
    IsStretch p (before ++ c :: text) before.length (c :: text.takeWhile p) where
  ne_nil := List.cons_ne_nil _ _
  all := List.forall_mem_cons.mpr ⟨hc, List.all_eq_true.mp List.all_takeWhile⟩
  maximal := by
    refine ⟨before, text.dropWhile p, ?_, rfl, ?_, head?_dropWhile_eq_false text⟩
    · rw [List.cons_append, List.takeWhile_append_dropWhile]
    · intro d hd
      exact (hparted d hd c rfl).resolve_right (by simp [hc])

end

end Text

/-! ### Words -/

theorem isStretch_of_mem_wordsFrom {position : Nat} {before text : List Char}
    {word : Located (List Char)} (h : word ∈ wordsFrom position text)
    (hposition : before.length = position) (hparted : Text.Parted Word.isPart before text) :
    Text.IsStretch Word.isPart (before ++ text) word.position word.item := by
  fun_induction wordsFrom position text generalizing before with
  | case1 => exact absurd h List.not_mem_nil
  | case2 position c text hblank ih =>
    have hc : Word.isPart c = false := by simpa using hblank
    rw [List.append_cons]
    exact ih h (by simp [hposition]) (Text.parted_append_singleton hc before text)
  | case3 position c text hpart ih =>
    have hc : Word.isPart c = true := by simpa using hpart
    rcases List.mem_cons.mp h with rfl | h
    · rw [← hposition]
      exact Text.isStretch_takeWhile hc hparted
    · rw [Text.append_cons_eq Word.isPart]
      refine ih h ?_ (Text.parted_dropWhile _ text)
      rw [List.length_append, List.length_cons, hposition, Nat.add_assoc]

/-- **Every word of a text is a stretch without blanks**, at its place. -/
theorem isStretch_of_mem_words {text : List Char} {word : Located (List Char)}
    (h : word ∈ words text) :
    Text.IsStretch Word.isPart text word.position word.item := by
  rw [words_eq_wordsFrom] at h
  exact @isStretch_of_mem_wordsFrom 0 [] text word h rfl (by simp [Text.Parted])

/-! ### Tokens -/

namespace Infix

/-- A character that has no meaning in an infix text. -/
structure IsStray (c : Char) : Prop where
  not_blank : Text.isBlank c = false
  not_digit : c.isDigit = false
  not_operator : ∀ op : Operator, c ≠ op.symbol
  not_parenthesis : c ≠ '(' ∧ c ≠ ')'

theorem IsStray.ofChar_eq {c : Char} (h : IsStray c) : Token.ofChar c = .stray c := by
  fun_cases Token.ofChar c with
  | case1 => exact absurd rfl h.not_parenthesis.1
  | case2 => exact absurd rfl h.not_parenthesis.2
  | case3 _ _ _ op hop => exact absurd (Operator.ofChar?_eq_some_iff.mp hop) (h.not_operator op)
  | case4 => rfl

/-- Only a character without any meaning is read as a stray one. -/
theorem isStray_of_ofChar {c d : Char} (hblank : Text.isBlank d = false)
    (hdigit : d.isDigit = false) (h : Token.ofChar d = .stray c) : d = c ∧ IsStray d := by
  refine ⟨?_, hblank, hdigit, ?_, ?_, ?_⟩
  · have htext := congrArg Token.text h
    rw [Token.text_ofChar] at htext
    exact List.singleton_inj.mp htext
  · rintro op rfl
    rw [Token.ofChar_symbol] at h
    exact absurd h (by simp)
  · rintro rfl
    exact absurd h (by simp [Token.ofChar])
  · rintro rfl
    exact absurd h (by simp [Token.ofChar])

/-- A token that stands in a text: a number is a stretch of digits, and any other token is the
character that it stands for. -/
def Stands (text : List Char) (token : Located Token) : Prop :=
  match token.item with
  | .number digits => Text.IsStretch Char.isDigit text token.position digits
  | item => ∃ c, text[token.position]? = some c ∧ Text.isBlank c = false ∧ c.isDigit = false ∧
      Token.ofChar c = item

/-- A single character is never read as a number. -/
theorem Token.ofChar_ne_number (c : Char) (digits : List Char) : ofChar c ≠ .number digits := by
  fun_cases ofChar c <;> simp

theorem stands_ofChar_iff {text : List Char} {position : Nat} {c : Char} :
    Stands text ⟨position, Token.ofChar c⟩ ↔
      text[position]? = some c ∧ Text.isBlank c = false ∧ c.isDigit = false := by
  rw [Stands]
  split
  · next digits hnumber => exact absurd hnumber (Token.ofChar_ne_number c digits)
  · constructor
    · rintro ⟨d, hd, hblank, hdigit, hof⟩
      obtain rfl := Token.ofChar_injective hof
      exact ⟨hd, hblank, hdigit⟩
    · rintro ⟨hc, hblank, hdigit⟩
      exact ⟨c, hc, hblank, hdigit, rfl⟩

/-- A token that stands in a text is a number or a character. -/
theorem Stands.number_or_ofChar {text : List Char} {token : Located Token}
    (h : Stands text token) :
    (∃ digits, token.item = .number digits ∧
        Text.IsStretch Char.isDigit text token.position digits) ∨
      ∃ c, token.item = Token.ofChar c ∧ text[token.position]? = some c ∧
        Text.isBlank c = false ∧ c.isDigit = false := by
  rw [Stands] at h
  split at h
  · next digits hnumber => exact .inl ⟨digits, hnumber, h⟩
  · obtain ⟨c, hc, hblank, hdigit, hof⟩ := h
    exact .inr ⟨c, hof.symm, hc, hblank, hdigit⟩

theorem covers_singleton_iff {position i : Nat} {c : Char} :
    Text.Covers position [c] i ↔ i = position := by
  rw [Text.Covers, List.length_singleton]
  omega

/-- **Two tokens that cover a common place are the same**: there is one token at most around a
place. -/
theorem Stands.eq_of_covers {text : List Char} {a b : Located Token} (ha : Stands text a)
    (hb : Stands text b) {i : Nat} (hia : Text.Covers a.position a.item.text i)
    (hib : Text.Covers b.position b.item.text i) : a = b := by
  obtain ⟨at₁, item₁⟩ := a
  obtain ⟨at₂, item₂⟩ := b
  rcases ha.number_or_ofChar with ⟨digits, rfl, hstretch⟩ | ⟨c, rfl, hc, -, hdigit⟩
  · rcases hb.number_or_ofChar with ⟨digits', rfl, hstretch'⟩ | ⟨d, rfl, hd, -, hdigit⟩
    · obtain ⟨rfl, rfl⟩ := hstretch.eq_of_covers hstretch' hia hib
      rfl
    · rw [Token.text_ofChar, covers_singleton_iff] at hib
      rw [hib] at hia
      rw [hstretch.apply_of_covers hia hd] at hdigit
      exact absurd hdigit (by simp)
  · rw [Token.text_ofChar, covers_singleton_iff] at hia
    rcases hb.number_or_ofChar with ⟨digits', rfl, hstretch⟩ | ⟨d, rfl, hd, -, -⟩
    · rw [hia] at hib
      rw [hstretch.apply_of_covers hib hc] at hdigit
      exact absurd hdigit (by simp)
    · rw [Token.text_ofChar, covers_singleton_iff] at hib
      obtain rfl : at₁ = at₂ := hia.symm.trans hib
      obtain rfl : c = d := Option.some.inj (hc.symm.trans hd)
      rfl

theorem stands_of_mem_tokensFrom {position : Nat} {before text : List Char}
    {token : Located Token} (h : token ∈ tokensFrom position text)
    (hposition : before.length = position) (hparted : Text.Parted Char.isDigit before text) :
    Stands (before ++ text) token := by
  fun_induction tokensFrom position text generalizing before with
  | case1 => exact absurd h List.not_mem_nil
  | case2 position c text hblank ih =>
    have hc : c.isDigit = false := Text.isDigit_of_isBlank hblank
    rw [List.append_cons]
    exact ih h (by simp [hposition]) (Text.parted_append_singleton hc before text)
  | case3 position c text _ hdigit ih =>
    rcases List.mem_cons.mp h with rfl | h
    · rw [← hposition]
      exact Text.isStretch_takeWhile hdigit hparted
    · rw [Text.append_cons_eq Char.isDigit]
      refine ih h ?_ (Text.parted_dropWhile _ text)
      rw [List.length_append, List.length_cons, hposition, Nat.add_assoc]
  | case4 position c text hblank hdigit ih =>
    have hc : c.isDigit = false := by simpa using hdigit
    rcases List.mem_cons.mp h with rfl | h
    · rw [← hposition]
      exact stands_ofChar_iff.mpr ⟨by simp, by simpa using hblank, hc⟩
    · rw [List.append_cons]
      exact ih h (by simp [hposition]) (Text.parted_append_singleton hc before text)

/-- **Every token of a text stands in the text**, at its place. -/
theorem stands_of_mem_tokens {text : List Char} {token : Located Token} (h : token ∈ tokens text) :
    Stands text token := by
  rw [tokens_eq_tokensFrom] at h
  exact @stands_of_mem_tokensFrom 0 [] text token h rfl (by simp [Text.Parted])

/-- A character that is neither a blank nor a digit is a token of its own, between the tokens in
front of it and those behind it. -/
theorem tokens_append_cons {c : Char} (hblank : Text.isBlank c = false)
    (hdigit : c.isDigit = false) (before after : List Char) :
    tokens (before ++ c :: after) =
      tokens before ++ ⟨before.length, Token.ofChar c⟩ :: tokensFrom (before.length + 1) after := by
  rw [tokens_eq_tokensFrom, tokens_eq_tokensFrom, tokensFrom_append hdigit,
    tokensFrom_symbol hblank hdigit, Nat.zero_add]

end Infix

end Calculator
