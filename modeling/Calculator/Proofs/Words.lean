/-
The words of a text, without the scanner.

`wordsFrom position text` reads words off a list of characters: blanks are dropped, and all
characters up to the next blank are taken together.

* `words_eq_wordsFrom` — this is what the lexer of words does;
* `pairwise_position_wordsFrom` — the words stand one behind the other;
* `wordsFrom_append_blank` — a blank keeps the words on its two sides apart;
* `wordsFrom_intercalate` — words with one space between neighbours come back, each at its
  place in the text;
* `map_item_wordsFrom` — the words are what is left of the text if it is cut at its blanks.
-/
import Calculator.Proofs.Scanning
import Calculator.Word

namespace Calculator

/-- The words of a text whose first character stands at `position`. -/
def wordsFrom (position : Nat) : List Char → List (Located (List Char))
  | [] => []
  | c :: text =>
    if Text.isBlank c then wordsFrom (position + 1) text
    else
      ⟨position, c :: text.takeWhile Word.isPart⟩ ::
        wordsFrom (position + (text.takeWhile Word.isPart).length + 1)
          (text.dropWhile Word.isPart)
termination_by text => text.length
decreasing_by
  · simp
  · have := (List.dropWhile_sublist (l := text) Word.isPart).length_le
    simp only [List.length_cons]
    omega

@[simp] theorem wordsFrom_nil (position : Nat) : wordsFrom position [] = [] := by
  rw [wordsFrom]

theorem wordsFrom_blank {c : Char} (h : Text.isBlank c = true) (position : Nat)
    (text : List Char) : wordsFrom position (c :: text) = wordsFrom (position + 1) text := by
  rw [wordsFrom, if_pos h]

theorem wordsFrom_part {c : Char} (h : Word.isPart c = true) (position : Nat)
    (text : List Char) :
    wordsFrom position (c :: text) =
      ⟨position, c :: text.takeWhile Word.isPart⟩ ::
        wordsFrom (position + (text.takeWhile Word.isPart).length + 1)
          (text.dropWhile Word.isPart) := by
  rw [wordsFrom, if_neg (by simpa using h)]

/-! ### The lexer -/

theorem wordsFrom_of_poll_eq_none {s s' : Scanner Char} (h : Word.poll s = (none, s')) :
    wordsFrom s.offset s.rest = [] := by
  rw [Scanner.skip_dropWhile @wordsFrom_blank, ← Scanner.rest_skipBlanks]
  revert h
  fun_cases Word.poll s with
  | case1 => simp
  | case2 s₁ hs₁ =>
    intro _
    obtain ⟨hstop, -, -, -⟩ := Scanner.skipWhile_eq_false hs₁
    cases hr : s.skipBlanks.rest with
    | nil => exact wordsFrom_nil _
    | cons c text =>
      -- the blanks are gone, so a first character would begin a word
      have hpart := hstop c text hr
      rw [Word.isPart, Scanner.isBlank_of_rest_skipBlanks hr] at hpart
      exact absurd hpart (by decide)

theorem wordsFrom_of_poll_eq_some {s s' : Scanner Char} {word : Located (List Char)}
    (hs : s.lexeme = []) (h : Word.poll s = (some word, s')) :
    s'.lexeme = [] ∧ wordsFrom s.offset s.rest = word :: wordsFrom s'.offset s'.rest := by
  rw [Scanner.skip_dropWhile @wordsFrom_blank, ← Scanner.rest_skipBlanks,
    ← Scanner.offset_skipBlanks hs]
  revert h
  fun_cases Word.poll s with
  | case1 s₁ hs₁ =>
    rintro ⟨⟩
    obtain ⟨⟨c, text, hr, hc⟩, hrest, hlexeme, hoffset⟩ := Scanner.skipWhile_eq_true hs₁
    have htake := @List.takeWhile_cons_of_pos _ Word.isPart c text hc
    have hdrop := @List.dropWhile_cons_of_pos _ Word.isPart c text hc
    refine ⟨rfl, ?_⟩
    rw [Scanner.offset_discard, Scanner.rest_discard, hrest, hoffset, hlexeme, hr,
      wordsFrom_part hc, htake, hdrop, Scanner.lexeme_skipBlanks]
    rfl
  | case2 => simp

/-- The lexer reads off the words of its text. -/
theorem words_eq_wordsFrom (text : List Char) : words text = wordsFrom 0 text :=
  Scanner.collect_eq (fun _ _ _ => wordsFrom_of_poll_eq_none)
    (fun _ _ _ => wordsFrom_of_poll_eq_some) rfl

/-! ### Places -/

theorem position_le_of_mem_wordsFrom {position : Nat} {text : List Char}
    {word : Located (List Char)} (h : word ∈ wordsFrom position text) :
    position ≤ word.position := by
  fun_induction wordsFrom position text with
  | case1 => simp at h
  | case2 position c text _ ih =>
    have := ih h
    omega
  | case3 position c text _ ih =>
    rcases List.mem_cons.mp h with rfl | h
    · exact Nat.le_refl position
    · have := ih h
      omega

/-- The words of a text stand in it one behind the other. -/
theorem pairwise_position_wordsFrom (position : Nat) (text : List Char) :
    (wordsFrom position text).Pairwise fun a b => a.position < b.position := by
  fun_induction wordsFrom position text with
  | case1 => exact .nil
  | case2 position c text _ ih => exact ih
  | case3 position c text _ ih =>
    refine .cons ?_ ih
    intro word hword
    have := position_le_of_mem_wordsFrom hword
    show position < word.position
    omega

/-! ### Parts of a text -/

/-- A blank keeps the words on its two sides apart. -/
theorem wordsFrom_append_blank {c : Char} (hc : Text.isBlank c = true) (position : Nat)
    (before after : List Char) :
    wordsFrom position (before ++ c :: after) =
      wordsFrom position before ++ wordsFrom (position + before.length) (c :: after) := by
  have hpart : Word.isPart c = false := by simp [hc]
  fun_induction wordsFrom position before with
  | case1 => simp
  | case2 position d before hblank ih =>
    rw [List.cons_append, wordsFrom_blank hblank, ih, List.length_cons]
    congr 2
    omega
  | case3 position d before hd ih =>
    -- the word ends in front of the blank, so it is the same with and without what follows
    rw [List.cons_append, wordsFrom_part (by simpa using hd),
      Scanner.takeWhile_append_cons hpart, Scanner.dropWhile_append_cons hpart, ih,
      List.cons_append]
    congr 3
    have := Scanner.length_takeWhile_add_dropWhile Word.isPart before
    simp only [List.length_cons]
    omega

/-! ### Words put together -/

/-- A text that is one word: not empty, and without blanks. -/
def IsWord (text : List Char) : Prop := text ≠ [] ∧ ∀ c ∈ text, Text.isBlank c = false

/-- A text that begins with a word, and goes on with a blank if at all, begins with that
word. -/
theorem wordsFrom_append {word text : List Char} (h : IsWord word)
    (htext : ∀ c rest, text = c :: rest → Text.isBlank c = true) (position : Nat) :
    wordsFrom position (word ++ text) =
      ⟨position, word⟩ :: wordsFrom (position + word.length) text := by
  obtain ⟨hne, hparts⟩ := h
  cases word with
  | nil => exact absurd rfl hne
  | cons c word =>
    have hc : Word.isPart c = true := by simpa using hparts c (by simp)
    have hword : ∀ d ∈ word, Word.isPart d = true := by
      intro d hd
      simpa using hparts d (List.mem_cons_of_mem c hd)
    have hstop : ∀ d rest, text = d :: rest → Word.isPart d = false := by
      intro d rest hd
      simpa using htext d rest hd
    rw [List.cons_append, wordsFrom_part hc, Scanner.takeWhile_append_stop hword hstop,
      Scanner.dropWhile_append_stop hword hstop, List.length_cons]
    rfl

/-- Words at the places that they have in a row with one space between neighbours. -/
def inRow (position : Nat) : List (List Char) → List (Located (List Char))
  | [] => []
  | word :: rest => ⟨position, word⟩ :: inRow (position + word.length + 1) rest

/-- **Words in a row come back**, each at its place. -/
theorem wordsFrom_intercalate {row : List (List Char)} (h : ∀ word ∈ row, IsWord word)
    (position : Nat) : wordsFrom position ([' '].intercalate row) = inRow position row := by
  induction row generalizing position with
  | nil => exact wordsFrom_nil position
  | cons word row ih =>
    have hword : IsWord word := h word (by simp)
    have hrow := ih fun w hw => h w (List.mem_cons_of_mem word hw)
    cases row with
    | nil =>
      have halone := @wordsFrom_append word [] hword (by simp) position
      rw [List.append_nil, wordsFrom_nil] at halone
      rw [List.intercalate_singleton, halone]
      rfl
    | cons next row =>
      -- the space ends the word and is dropped in front of the next one
      have hspace : Text.isBlank ' ' = true := by decide
      have hcut : ∀ c rest, [' '] ++ [' '].intercalate (next :: row) = c :: rest →
          Text.isBlank c = true := by
        intro c rest hc
        obtain ⟨rfl, -⟩ := List.cons.inj hc
        exact hspace
      rw [List.intercalate_cons_cons, List.append_assoc, wordsFrom_append hword hcut,
        List.singleton_append, wordsFrom_blank hspace, hrow]
      rfl

/-! ### Pieces between blanks -/

/-- The longest pieces of a text that have no blank in them, from left to right. -/
def pieces (text : List Char) : List (List Char) :=
  (text.splitOnP Text.isBlank).filter fun piece => !piece.isEmpty

theorem pieces_blank {c : Char} (hc : Text.isBlank c = true) (text : List Char) :
    pieces (c :: text) = pieces text := by
  rw [pieces, List.splitOnP_cons_eq_if_modifyHead, if_pos hc]
  rfl

theorem pieces_append_blank {word : List Char} (h : IsWord word) {c : Char}
    (hc : Text.isBlank c = true) (text : List Char) :
    pieces (word ++ c :: text) = word :: pieces text := by
  obtain ⟨hne, hparts⟩ := h
  rw [pieces, List.splitOnP_append_cons _ _ hc, List.splitOnP_eq_singleton hparts,
    List.singleton_append, List.filter_cons_of_pos (by simpa using hne)]
  rfl

theorem pieces_word {word : List Char} (h : IsWord word) : pieces word = [word] := by
  obtain ⟨hne, hparts⟩ := h
  rw [pieces, List.splitOnP_eq_singleton hparts, List.filter_cons_of_pos (by simpa using hne)]
  rfl

/-- **The words of a text are its pieces between blanks.** -/
theorem map_item_wordsFrom (position : Nat) (text : List Char) :
    (wordsFrom position text).map Located.item = pieces text := by
  fun_induction wordsFrom position text with
  | case1 => rfl
  | case2 position c text hblank ih => rw [ih, pieces_blank hblank]
  | case3 position c text hpart ih =>
    have hword : IsWord (c :: text.takeWhile Word.isPart) := by
      refine ⟨by simp, ?_⟩
      intro d hd
      rcases List.mem_cons.mp hd with rfl | hd
      · simpa using hpart
      · simpa using List.all_eq_true.mp List.all_takeWhile d hd
    rw [List.map_cons, ih]
    -- the text goes on with a blank, which ends the word, or ends with it
    have hsplit : c :: text =
        (c :: text.takeWhile Word.isPart) ++ text.dropWhile Word.isPart := by
      rw [List.cons_append, List.takeWhile_append_dropWhile]
    rw [hsplit]
    cases hrest : text.dropWhile Word.isPart with
    | nil =>
      rw [List.append_nil, pieces_word hword]
      rfl
    | cons d rest =>
      have hnot := List.head?_dropWhile_not Word.isPart text
      rw [hrest] at hnot
      have hd : Text.isBlank d = true := by simpa using hnot
      rw [pieces_blank hd, pieces_append_blank hword hd]

end Calculator
