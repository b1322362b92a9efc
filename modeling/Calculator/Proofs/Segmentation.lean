/-
A text falls into words and tokens in one way only.

What the two lexers of this library find is settled by the text alone, without a scanner.  Words
are all its stretches without blanks.  Tokens are pieces that leave out the blanks and nothing
else: numbers that cannot be made longer, and single characters.

* `Scanner.answerAt_eq_getElem?_collect` — calls of a lexer one after the other find the items of
  its list in their order, and then nothing any more;
* `mem_words_of_isStretch`, `calls_find_stretches` — the words of a text are its stretches
  without blanks;
* `Infix.Segmentation` — pieces of a text that can be its tokens;
* `Infix.calls_find_segmentation` — there is one such list of pieces, and the lexer finds it.

Design notes.  `collect` stops at the first call that finds nothing.  A lexer can be called again
on the scanner that such a call leaves: nothing is in front of it, so nothing is found.  That a
list of pieces is the only one rests on `eq_of_covers`: two pieces that cover a common place are
the same piece.
-/
import Calculator.Proofs.Places

namespace Calculator

/-! ### Calls of a lexer -/

namespace Scanner

variable {α β : Type}

/-- What the call of a lexer finds that comes after `n` others. -/
def answerAt (lexer : Scanner α → Option β × Scanner α) (s : Scanner α) : Nat → Option β
  | 0 => (lexer s).1
  | n + 1 => answerAt lexer (lexer s).2 n

variable {lexer : Scanner α → Option β × Scanner α}

/-- If a call that finds nothing leaves a scanner in which the next one finds nothing, then no
later call finds anything either. -/
theorem answerAt_eq_none (hspent : ∀ s, (lexer s).1 = none → (lexer (lexer s).2).1 = none)
    {s : Scanner α} (h : (lexer s).1 = none) (n : Nat) : answerAt lexer s n = none := by
  induction n generalizing s with
  | zero => exact h
  | succ n ih => exact ih (hspent s h)

/-- **Calls one after the other find the items of the list**, in their order, and behind the last
one they find nothing any more. -/
theorem answerAt_eq_getElem?_collect
    {lexer_lt : ∀ {s b s'}, lexer s = (some b, s') → s'.remaining < s.remaining}
    (hspent : ∀ s, (lexer s).1 = none → (lexer (lexer s).2).1 = none) (s : Scanner α) (n : Nat) :
    answerAt lexer s n = (s.collect lexer lexer_lt)[n]? := by
  fun_induction collect lexer lexer_lt s generalizing n with
  | case1 s s' h =>
    rw [answerAt_eq_none hspent (congrArg Prod.fst h), List.getElem?_nil]
  | case2 s b s' h ih =>
    cases n with
    | zero => exact congrArg Prod.fst h
    | succ n =>
      rw [answerAt, h]
      exact ih n

/-- Where nothing is left, no item can be moved over. -/
theorem skipWhile_of_rest_eq_nil {s : Scanner α} (h : s.rest = []) (p : α → Bool) :
    ∃ s', s.skipWhile p = (false, s') ∧ s'.rest = [] := by
  rcases hs : s.skipWhile p with ⟨_ | _, s'⟩
  · obtain ⟨-, hrest, -, -⟩ := skipWhile_eq_false hs
    exact ⟨s', rfl, hrest.trans h⟩
  · obtain ⟨⟨a, behind, hcons, -⟩, -, -, -⟩ := skipWhile_eq_true hs
    rw [h] at hcons
    exact absurd hcons (by simp)

end Scanner

/-! ### Items in order -/

/-- A list whose items stand one behind the other is settled by its items. -/
theorem Located.eq_of_pairwise {α : Type} {xs ys : List (Located α)}
    (hx : xs.Pairwise fun a b => a.position < b.position)
    (hy : ys.Pairwise fun a b => a.position < b.position) (h : ∀ a, a ∈ xs ↔ a ∈ ys) :
    xs = ys := by
  have hnodup : ∀ {zs : List (Located α)},
      (zs.Pairwise fun a b => a.position < b.position) → zs.Nodup := by
    intro zs hz
    apply hz.imp
    intro a b hlt heq
    rw [heq] at hlt
    exact Nat.lt_irrefl _ hlt
  apply List.Perm.eq_of_pairwise _ hx hy
  · exact (List.perm_ext_iff_of_nodup (hnodup hx) (hnodup hy)).mpr h
  · intro a b _ _ hab hba
    exact absurd hab (Nat.lt_asymm hba)

/-! ### Pieces of a text -/

/-- What stands behind a first piece of a text. -/
theorem getElem?_dropWhile (p : Char → Bool) (c : Char) (text : List Char) (j : Nat) :
    (text.dropWhile p)[j]? = (c :: text)[(text.takeWhile p).length + 1 + j]? := by
  have hsplit := Text.append_cons_eq p [] c text
  rw [List.nil_append, List.nil_append] at hsplit
  rw [hsplit, List.getElem?_append_right (by simp), List.length_cons, Nat.add_sub_cancel_left]

/-- A place lies in a first piece, or else in one of those that begin behind it. -/
theorem exists_covers_cons {α : Type} (piece : α → List Char) (first : Located α)
    {rest : List (Located α)} {i : Nat}
    (hrest : ∀ j, i = (piece first.item).length + j → ∃ a ∈ rest,
      Text.Covers a.position (piece a.item) (first.position + (piece first.item).length + j)) :
    ∃ a ∈ first :: rest, Text.Covers a.position (piece a.item) (first.position + i) := by
  by_cases hlt : i < (piece first.item).length
  · have hcovers : Text.Covers first.position (piece first.item) (first.position + i) :=
      ⟨by omega, by omega⟩
    exact ⟨first, List.mem_cons_self, hcovers⟩
  · obtain ⟨j, rfl⟩ := Nat.exists_eq_add_of_le (Nat.le_of_not_lt hlt)
    obtain ⟨a, ha, hcovers⟩ := hrest j rfl
    rw [Nat.add_assoc] at hcovers
    exact ⟨a, List.mem_cons_of_mem first ha, hcovers⟩

/-! ### Words -/

theorem Word.poll_of_rest_eq_nil {s : Scanner Char} (h : s.rest = []) : (poll s).1 = none := by
  have hblanks : s.skipBlanks.rest = [] := by rw [Scanner.rest_skipBlanks, h, List.dropWhile_nil]
  obtain ⟨s', hs', -⟩ := Scanner.skipWhile_of_rest_eq_nil hblanks Word.isPart
  rw [poll, hs']

/-- No word is found only at the end of the text. -/
theorem Word.rest_of_poll_eq_none {s : Scanner Char} (h : (poll s).1 = none) :
    (poll s).2.rest = [] := by
  revert h
  fun_cases poll s with
  | case1 => simp
  | case2 s' hs' =>
    intro _
    obtain ⟨hstop, hrest, -, -⟩ := Scanner.skipWhile_eq_false hs'
    show s'.rest = []
    cases hr : s.skipBlanks.rest with
    | nil => exact hrest.trans hr
    | cons c behind =>
      have hpart := hstop c behind hr
      rw [Word.isPart, Scanner.isBlank_of_rest_skipBlanks hr] at hpart
      exact absurd hpart (by simp)

/-- A character that is no blank lies in a word. -/
theorem exists_covers_wordsFrom {position : Nat} {text : List Char} {i : Nat} {c : Char}
    (hi : text[i]? = some c) (hc : Text.isBlank c = false) :
    ∃ word ∈ wordsFrom position text, Text.Covers word.position word.item (position + i) := by
  fun_induction wordsFrom position text generalizing i with
  | case1 => exact absurd hi (by simp)
  | case2 position d text hblank ih =>
    cases i with
    | zero =>
      obtain rfl : d = c := by simpa using hi
      rw [hblank] at hc
      exact absurd hc (by simp)
    | succ i =>
      obtain ⟨word, hword, hcovers⟩ := ih hi
      exact ⟨word, hword, by rwa [Nat.add_assoc, Nat.add_comm 1] at hcovers⟩
  | case3 position d text _ ih =>
    apply exists_covers_cons id ⟨position, d :: text.takeWhile Word.isPart⟩
    intro j hj
    rw [hj, id, List.length_cons, ← getElem?_dropWhile] at hi
    exact ih hi

/-- Every stretch without blanks is a word: its first character lies in one, and there is one
stretch at most around that character. -/
theorem mem_words_of_isStretch {text : List Char} {word : Located (List Char)}
    (h : Text.IsStretch Word.isPart text word.position word.item) : word ∈ words text := by
  have hfirst := @Text.covers_position word.position _ h.ne_nil
  have hget := List.getElem?_eq_getElem h.position_lt
  have hpart := h.apply_of_covers hfirst hget
  obtain ⟨word', hword', hcovers⟩ :=
    @exists_covers_wordsFrom 0 _ _ _ hget (by simpa using hpart)
  rw [← words_eq_wordsFrom] at hword'
  rw [Nat.zero_add] at hcovers
  obtain ⟨hposition, hitem⟩ := h.eq_of_covers (isStretch_of_mem_words hword') hfirst hcovers
  obtain rfl : word = word' := by
    cases word
    cases word'
    rw [Located.mk.injEq]
    exact ⟨hposition, hitem⟩
  exact hword'

/-- **The words of a text are its stretches without blanks**, each with its place, in their order.
Calls of the lexer find them one after the other, and then nothing any more. -/
theorem calls_find_stretches (text : List Char) :
    (∀ n, Scanner.answerAt Word.poll (.ofList text) n = (words text)[n]?) ∧
      ((words text).Pairwise fun a b => a.position < b.position) ∧
      ∀ word, word ∈ words text ↔
        Text.IsStretch Word.isPart text word.position word.item := by
  refine ⟨?_, ?_, ?_⟩
  · intro n
    apply Scanner.answerAt_eq_getElem?_collect
    intro s h
    exact Word.poll_of_rest_eq_nil (Word.rest_of_poll_eq_none h)
  · rw [words_eq_wordsFrom]
    exact pairwise_position_wordsFrom 0 text
  · intro word
    exact ⟨isStretch_of_mem_words, mem_words_of_isStretch⟩

/-! ### Tokens -/

namespace Infix

theorem Token.poll_of_rest_eq_nil {s : Scanner Char} (h : s.rest = []) : (poll s).1 = none := by
  have hblanks : s.skipBlanks.rest = [] := by rw [Scanner.rest_skipBlanks, h, List.dropWhile_nil]
  obtain ⟨s', hs', hrest⟩ := Scanner.skipWhile_of_rest_eq_nil hblanks Char.isDigit
  obtain ⟨s'', hs'', -⟩ := Scanner.next?_of_rest_eq_nil hrest
  simp only [poll, hs', hs'']

/-- No token is found only at the end of the text. -/
theorem Token.rest_of_poll_eq_none {s : Scanner Char} (h : (poll s).1 = none) :
    (poll s).2.rest = [] := by
  revert h
  fun_cases poll s with
  | case1 => simp
  | case2 => simp
  | case3 s' hs' s'' hs'' =>
    intro _
    show s''.rest = []
    -- a character in front would have been taken, so the scanner has run into the end
    cases hr : s'.rest with
    | nil =>
      obtain ⟨s₃, hs₃, hrest⟩ := Scanner.next?_of_rest_eq_nil hr
      rw [hs''] at hs₃
      rwa [(Prod.mk.inj hs₃).2]
    | cons c behind =>
      obtain ⟨s₃, hs₃, -⟩ := Scanner.next?_of_rest_eq_cons hr
      rw [hs''] at hs₃
      exact absurd hs₃ (by simp)

/-! ### Segmentations -/

/-- The characters that are a token of their own and have a meaning. -/
def symbols : List Char := ['+', '-', '*', '/', '%', '(', ')']

/-- What the text of a token has to be like: a number is as long as possible, and any other token
is a character, which is one of the symbols or has no meaning. -/
def Fits (text : List Char) (token : Located Token) : Prop :=
  match token.item with
  | .number digits => Text.IsStretch Char.isDigit text token.position digits
  | .stray c => IsStray c
  | symbol => ∃ c ∈ symbols, symbol.text = [c]

/-- Pieces of a text that can be its tokens. -/
structure Segmentation (text : List Char) (found : List (Located Token)) : Prop where
  /-- The pieces stand one behind the other, and none reaches into the next one. -/
  ordered : found.Pairwise fun a b => a.position + a.item.text.length ≤ b.position
  stands : ∀ token ∈ found, token.item.text <+: text.drop token.position
  /-- The blanks are left out, and nothing else. -/
  covers_iff : ∀ i c, text[i]? = some c →
    ((∃ token ∈ found, Text.Covers token.position token.item.text i) ↔ Text.isBlank c = false)
  fits : ∀ token ∈ found, Fits text token

theorem singleton_prefix_drop_iff {text : List Char} {position : Nat} {c : Char} :
    [c] <+: text.drop position ↔ text[position]? = some c := by
  rw [← List.head?_drop]
  cases text.drop position with
  | nil => simp
  | cons d behind => simp [eq_comm]

/-- A token stands in a text if its characters do and fit. -/
theorem stands_iff {text : List Char} {token : Located Token} :
    Stands text token ↔ token.item.text <+: text.drop token.position ∧ Fits text token := by
  obtain ⟨position, item⟩ := token
  cases item with
  | number digits =>
    constructor
    · intro h
      have hstretch : Text.IsStretch Char.isDigit text position digits := h
      have htake := List.take_prefix digits.length (text.drop position)
      rw [hstretch.take_drop] at htake
      exact ⟨htake, hstretch⟩
    · exact And.right
  | operator op =>
    rw [← Token.ofChar_symbol, stands_ofChar_iff, Token.text_ofChar, singleton_prefix_drop_iff,
      Token.ofChar_symbol]
    have hmem : op.symbol ∈ symbols := by cases op <;> decide
    constructor
    · intro h
      exact ⟨h.1, op.symbol, hmem, rfl⟩
    · intro h
      exact ⟨h.1, op.isBlank_symbol, op.isDigit_symbol⟩
  | opening =>
    have hchar := @stands_ofChar_iff text position '('
    constructor
    · intro h
      exact ⟨singleton_prefix_drop_iff.mpr (hchar.mp h).1, '(', by decide, rfl⟩
    · intro h
      exact hchar.mpr ⟨singleton_prefix_drop_iff.mp h.1, by decide, by decide⟩
  | closing =>
    have hchar := @stands_ofChar_iff text position ')'
    constructor
    · intro h
      exact ⟨singleton_prefix_drop_iff.mpr (hchar.mp h).1, ')', by decide, rfl⟩
    · intro h
      exact hchar.mpr ⟨singleton_prefix_drop_iff.mp h.1, by decide, by decide⟩
  | stray c =>
    constructor
    · rintro ⟨d, hd, hblank, hdigit, hof⟩
      obtain ⟨rfl, hstray⟩ := isStray_of_ofChar hblank hdigit hof
      exact ⟨singleton_prefix_drop_iff.mpr hd, hstray⟩
    · rintro ⟨hstands, hstray⟩
      exact ⟨c, singleton_prefix_drop_iff.mp hstands, hstray.not_blank, hstray.not_digit,
        IsStray.ofChar_eq hstray⟩

theorem Stands.text_ne_nil {text : List Char} {token : Located Token} (h : Stands text token) :
    token.item.text ≠ [] := by
  rcases h.number_or_ofChar with ⟨digits, hitem, hstretch⟩ | ⟨c, hitem, -⟩
  · rw [hitem]
    exact hstretch.ne_nil
  · rw [hitem, Token.text_ofChar]
    exact List.cons_ne_nil c []

theorem Stands.position_lt {text : List Char} {token : Located Token} (h : Stands text token) :
    token.position < text.length := by
  rcases h.number_or_ofChar with ⟨digits, -, hstretch⟩ | ⟨c, -, hc, -⟩
  · exact hstretch.position_lt
  · exact (List.getElem?_eq_some_iff.mp hc).1

/-- No token covers a blank. -/
theorem Stands.isBlank_of_covers {text : List Char} {token : Located Token}
    (h : Stands text token) {i : Nat} (hi : Text.Covers token.position token.item.text i) {c : Char}
    (hc : text[i]? = some c) : Text.isBlank c = false := by
  rcases h.number_or_ofChar with ⟨digits, hitem, hstretch⟩ | ⟨d, hitem, hd, hblank, -⟩
  · rw [hitem] at hi
    exact Text.isBlank_of_isDigit (hstretch.apply_of_covers hi hc)
  · rw [hitem, Token.text_ofChar, covers_singleton_iff] at hi
    rw [hi, hd] at hc
    obtain rfl := Option.some.inj hc
    exact hblank

/-- A character that is no blank lies in a token. -/
theorem exists_covers_tokensFrom {position : Nat} {text : List Char} {i : Nat} {c : Char}
    (hi : text[i]? = some c) (hc : Text.isBlank c = false) :
    ∃ token ∈ tokensFrom position text,
      Text.Covers token.position token.item.text (position + i) := by
  fun_induction tokensFrom position text generalizing i with
  | case1 => exact absurd hi (by simp)
  | case2 position d text hblank ih =>
    cases i with
    | zero =>
      obtain rfl : d = c := by simpa using hi
      rw [hblank] at hc
      exact absurd hc (by simp)
    | succ i =>
      obtain ⟨token, htoken, hcovers⟩ := ih hi
      exact ⟨token, htoken, by rwa [Nat.add_assoc, Nat.add_comm 1] at hcovers⟩
  | case3 position d text _ _ ih =>
    apply exists_covers_cons Token.text ⟨position, .number (d :: text.takeWhile Char.isDigit)⟩
    intro j hj
    rw [hj, Token.text, List.length_cons, ← getElem?_dropWhile] at hi
    exact ih hi
  | case4 position d text _ _ ih =>
    apply exists_covers_cons Token.text ⟨position, Token.ofChar d⟩
    intro j hj
    rw [Token.text_ofChar, List.length_singleton] at hj ⊢
    rw [hj, Nat.add_comm, List.getElem?_cons_succ] at hi
    exact ih hi

namespace Segmentation

variable {text : List Char} {found found' : List (Located Token)}

theorem token_stands (h : Segmentation text found) {token : Located Token}
    (htoken : token ∈ found) : Stands text token :=
  stands_iff.mpr ⟨h.stands token htoken, h.fits token htoken⟩

theorem pairwise_position (h : Segmentation text found) :
    found.Pairwise fun a b => a.position < b.position := by
  apply h.ordered.imp_of_mem
  intro a b ha _ hle
  have hpos := List.length_pos_iff.mpr (h.token_stands ha).text_ne_nil
  omega

/-- The pieces of one segmentation are pieces of every other. -/
theorem subset (h : Segmentation text found) (h' : Segmentation text found') : found ⊆ found' := by
  intro token htoken
  have hstands := h.token_stands htoken
  have hfirst := @Text.covers_position token.position _ hstands.text_ne_nil
  have hget := List.getElem?_eq_getElem hstands.position_lt
  -- the first character of the piece is no blank, so the other segmentation covers it, too
  have hblank := hstands.isBlank_of_covers hfirst hget
  obtain ⟨token', htoken', hcovers⟩ := (h'.covers_iff _ _ hget).mpr hblank
  rw [hstands.eq_of_covers (h'.token_stands htoken') hfirst hcovers]
  exact htoken'

/-- **A text has one segmentation at most.** -/
theorem unique (h : Segmentation text found) (h' : Segmentation text found') : found = found' := by
  apply Located.eq_of_pairwise h.pairwise_position h'.pairwise_position
  intro token
  exact ⟨fun htoken => h.subset h' htoken, fun htoken => h'.subset h htoken⟩

/-- The tokens of a text are a segmentation. -/
theorem of_tokens (text : List Char) : Segmentation text (tokens text) where
  ordered := by
    have hpairwise := pairwise_position_tokensFrom 0 text
    rw [← tokens_eq_tokensFrom] at hpairwise
    apply hpairwise.imp_of_mem
    intro a b ha hb hlt
    by_contra hle
    -- the second token would begin inside the first one, and so be the same
    have hsecond := stands_of_mem_tokens hb
    have hcovers : Text.Covers a.position a.item.text b.position := ⟨by omega, by omega⟩
    have heq := (stands_of_mem_tokens ha).eq_of_covers hsecond hcovers
      (Text.covers_position hsecond.text_ne_nil)
    rw [heq] at hlt
    exact Nat.lt_irrefl _ hlt
  stands token htoken := (stands_iff.mp (stands_of_mem_tokens htoken)).1
  covers_iff i c hc := by
    constructor
    · rintro ⟨token, htoken, hcovers⟩
      exact (stands_of_mem_tokens htoken).isBlank_of_covers hcovers hc
    · intro hblank
      have hcovers := @exists_covers_tokensFrom 0 _ _ _ hc hblank
      rwa [← tokens_eq_tokensFrom, Nat.zero_add] at hcovers
  fits token htoken := (stands_iff.mp (stands_of_mem_tokens htoken)).2

end Segmentation

/-- **The tokens of a text are its only segmentation.**  Calls of the lexer find them one after
the other, and then nothing any more. -/
theorem calls_find_segmentation (text : List Char) :
    (∀ n, Scanner.answerAt Token.poll (.ofList text) n = (tokens text)[n]?) ∧
      ∀ found, Segmentation text found ↔ found = tokens text := by
  constructor
  · intro n
    apply Scanner.answerAt_eq_getElem?_collect
    intro s h
    exact Token.poll_of_rest_eq_nil (Token.rest_of_poll_eq_none h)
  · intro found
    constructor
    · intro h
      exact h.unique (.of_tokens text)
    · rintro rfl
      exact .of_tokens text

end Infix

end Calculator
