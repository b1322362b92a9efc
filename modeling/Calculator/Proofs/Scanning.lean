/-
What a scanner does to the text in front of it.

A scanner keeps the items that it has pulled apart from those that it has not, but no answer of
a move tells the two apart.  `Scanner.rest` puts them together again, and everything that moving
over items does is said about that list:

* `Scanner.next?_of_rest_eq_cons`, `nextIf?_eq_some`, `nextIf?_eq_none` — single moves;
* `Scanner.skipWhile_eq_true`, `skipWhile_eq_false` — moving over items takes the longest
  stretch of items that satisfy the condition into the lexeme, if there is one;
* `Scanner.rest_skipBlanks`, `offset_skipBlanks` — the same for blanks, which are dropped;
* `Scanner.skip_append` — moving over the items of a stretch one by one;
* `Scanner.collect_eq` — what a lexer finds depends on the offset and on `rest` alone.

Design notes.  A scanner is *fresh* if its lexeme is empty.  Both lexers of this library start
every lexeme on a fresh scanner, so `collect_eq` asks for the lexer on fresh scanners only.
-/
import Calculator.Scanner

namespace Calculator.Scanner

variable {α β : Type}

@[simp] theorem offset_discard (s : Scanner α) :
    s.discard.offset = s.offset + s.lexeme.length := by
  rw [length_lexeme]
  rfl

/-! ### Single moves -/

/-- The item in front goes to the end of the lexeme. -/
theorem lexeme_advance (s : Scanner α) :
    s.advance.lexeme = s.lexeme ++ s.rest.head?.toList := by
  have htake : s.items.take (min (s.consumed + 1) s.items.length) =
      s.items.take (s.consumed + 1) := by
    rw [List.take_eq_take_iff]
    omega
  rw [lexeme_eq_take, lexeme_eq_take, rest_eq_drop, items_advance, consumed_advance, htake,
    List.take_add_one, List.head?_drop]

theorem lexeme_stepBack (s : Scanner α) : s.stepBack.lexeme = s.lexeme := by
  rw [lexeme_eq_take, lexeme_eq_take, items_stepBack, consumed_stepBack]

theorem next?_of_rest_eq_cons {s : Scanner α} {a : α} {behind : List α}
    (h : s.rest = a :: behind) :
    ∃ s', s.next? = (some a, s') ∧ s'.rest = behind ∧ s'.lexeme = s.lexeme ++ [a] ∧
      s'.offset = s.offset := by
  refine ⟨s.advance, ?_, ?_, ?_, rfl⟩
  · rw [next?_eq, h, List.head?_cons]
  · rw [rest_advance, h, List.tail_cons]
  · rw [lexeme_advance, h, List.head?_cons, Option.toList_some]

theorem next?_of_rest_eq_nil {s : Scanner α} (h : s.rest = []) :
    ∃ s', s.next? = (none, s') ∧ s'.rest = [] := by
  refine ⟨s.advance, ?_, ?_⟩
  · rw [next?_eq, h, List.head?_nil]
  · rw [rest_advance, h, List.tail_nil]

theorem nextIf?_eq_some {p : α → Bool} {s s' : Scanner α} {a : α}
    (h : s.nextIf? p = (some a, s')) :
    p a = true ∧ s.rest = a :: s'.rest ∧ s'.lexeme = s.lexeme ++ [a] ∧
      s'.offset = s.offset := by
  rw [nextIf?_eq] at h
  split at h
  · next hp =>
    obtain ⟨hhead, rfl⟩ := Prod.mk.inj h
    obtain ⟨behind, hrest⟩ := List.head?_eq_some_iff.mp hhead
    rw [hhead] at hp
    refine ⟨hp, ?_, ?_, rfl⟩
    · rw [rest_advance, hrest, List.tail_cons]
    · rw [lexeme_advance, hhead, Option.toList_some]
  · exact absurd (Prod.mk.inj h).1 (by simp)

/-- If no item is taken then the first item of the rest does not satisfy the condition, and
nothing that can be seen changes. -/
theorem nextIf?_eq_none {p : α → Bool} {s s' : Scanner α} (h : s.nextIf? p = (none, s')) :
    (∀ a behind, s.rest = a :: behind → p a = false) ∧ s'.rest = s.rest ∧
      s'.lexeme = s.lexeme ∧ s'.offset = s.offset := by
  rw [nextIf?_eq] at h
  split at h
  · next hp =>
    rw [(Prod.mk.inj h).1] at hp
    exact absurd hp (by simp)
  · next hp =>
    obtain ⟨-, rfl⟩ := Prod.mk.inj h
    refine ⟨?_, s.rest_stepBack, s.lexeme_stepBack, rfl⟩
    intro a behind ha
    rw [ha] at hp
    simpa using hp

/-! ### Moving over items -/

theorem rest_skipWhile (p : α → Bool) (s : Scanner α) :
    (s.skipWhile p).2.rest = s.rest.dropWhile p := by
  fun_induction skipWhile p s with
  | case1 s a s' h ih =>
    obtain ⟨hp, hrest, -, -⟩ := nextIf?_eq_some h
    rw [ih, hrest, List.dropWhile_cons_of_pos hp]
  | case2 s s' h =>
    obtain ⟨hstop, hrest, -, -⟩ := nextIf?_eq_none h
    show s'.rest = _
    rw [hrest]
    -- the item that stopped the scanner is the first one that is kept
    cases hs : s.rest with
    | nil => rfl
    | cons a behind =>
      rw [List.dropWhile_cons_of_neg (by simp [hstop a behind hs])]

theorem lexeme_skipWhile (p : α → Bool) (s : Scanner α) :
    (s.skipWhile p).2.lexeme = s.lexeme ++ s.rest.takeWhile p := by
  fun_induction skipWhile p s with
  | case1 s a s' h ih =>
    obtain ⟨hp, hrest, hlexeme, -⟩ := nextIf?_eq_some h
    rw [ih, hrest, hlexeme, List.takeWhile_cons_of_pos hp, List.append_assoc]
    rfl
  | case2 s s' h =>
    obtain ⟨hstop, -, hlexeme, -⟩ := nextIf?_eq_none h
    show s'.lexeme = _
    rw [hlexeme]
    cases hs : s.rest with
    | nil => simp
    | cons a behind => simp [hstop a behind hs]

theorem offset_skipWhile (p : α → Bool) (s : Scanner α) :
    (s.skipWhile p).2.offset = s.offset := by
  fun_induction skipWhile p s with
  | case1 s a s' h ih =>
    obtain ⟨-, -, -, hoffset⟩ := nextIf?_eq_some h
    rw [ih, hoffset]
  | case2 s s' h =>
    obtain ⟨-, -, -, hoffset⟩ := nextIf?_eq_none h
    exact hoffset

/-- Moving over items finds one to move over only if the first item of the rest satisfies the
condition. -/
theorem skipWhile_eq_true {p : α → Bool} {s s' : Scanner α} (h : s.skipWhile p = (true, s')) :
    (∃ a behind, s.rest = a :: behind ∧ p a = true) ∧ s'.rest = s.rest.dropWhile p ∧
      s'.lexeme = s.lexeme ++ s.rest.takeWhile p ∧ s'.offset = s.offset := by
  have hrest := s.rest_skipWhile p
  have hlexeme := s.lexeme_skipWhile p
  have hoffset := s.offset_skipWhile p
  rw [h] at hrest hlexeme hoffset
  refine ⟨?_, hrest, hlexeme, hoffset⟩
  -- only whether there was an item at all still depends on the first move
  revert h
  fun_cases skipWhile p s with
  | case1 a s₁ h₁ =>
    intro _
    obtain ⟨hp, hcons, -, -⟩ := nextIf?_eq_some h₁
    exact ⟨a, s₁.rest, hcons, hp⟩
  | case2 => simp

theorem skipWhile_eq_false {p : α → Bool} {s s' : Scanner α}
    (h : s.skipWhile p = (false, s')) :
    (∀ a behind, s.rest = a :: behind → p a = false) ∧ s'.rest = s.rest ∧
      s'.lexeme = s.lexeme ∧ s'.offset = s.offset := by
  revert h
  fun_cases skipWhile p s with
  | case1 => simp
  | case2 s₁ h₁ =>
    rintro ⟨⟩
    exact nextIf?_eq_none h₁

/-! ### Moving over blanks -/

@[simp] theorem rest_skipBlanks (s : Scanner Char) :
    s.skipBlanks.rest = s.rest.dropWhile Text.isBlank := by
  rw [skipBlanks, rest_discard, rest_skipWhile]

@[simp] theorem lexeme_skipBlanks (s : Scanner Char) : s.skipBlanks.lexeme = [] :=
  lexeme_discard _

/-- The blanks are gone: the first item of the rest is none. -/
theorem isBlank_of_rest_skipBlanks {s : Scanner Char} {c : Char} {behind : List Char}
    (h : s.skipBlanks.rest = c :: behind) : Text.isBlank c = false := by
  rw [rest_skipBlanks] at h
  have hnot := List.head?_dropWhile_not Text.isBlank s.rest
  rw [h] at hnot
  simpa using hnot

theorem offset_skipBlanks {s : Scanner Char} (h : s.lexeme = []) :
    s.skipBlanks.offset = s.offset + (s.rest.takeWhile Text.isBlank).length := by
  rw [skipBlanks, offset_discard, offset_skipWhile, lexeme_skipWhile, h, List.nil_append]

/-! ### Stretches

A stretch of items that satisfy a condition ends at the first item that does not. -/

theorem takeWhile_append_stop {p : α → Bool} {stretch rest : List α}
    (hstretch : ∀ a ∈ stretch, p a = true)
    (hstop : ∀ a behind, rest = a :: behind → p a = false) :
    (stretch ++ rest).takeWhile p = stretch := by
  rw [List.takeWhile_append_of_pos hstretch]
  cases rest with
  | nil => exact List.append_nil stretch
  | cons a behind =>
    rw [List.takeWhile_cons_of_neg (by simp [hstop a behind rfl]), List.append_nil]

theorem dropWhile_append_stop {p : α → Bool} {stretch rest : List α}
    (hstretch : ∀ a ∈ stretch, p a = true)
    (hstop : ∀ a behind, rest = a :: behind → p a = false) :
    (stretch ++ rest).dropWhile p = rest := by
  rw [List.dropWhile_append_of_pos hstretch]
  cases rest with
  | nil => rfl
  | cons a behind => rw [List.dropWhile_cons_of_neg (by simp [hstop a behind rfl])]

theorem takeWhile_append_cons {p : α → Bool} {a : α} (h : p a = false)
    (before after : List α) : (before ++ a :: after).takeWhile p = before.takeWhile p := by
  induction before with
  | nil => simp [h]
  | cons b before ih => simp only [List.cons_append, List.takeWhile_cons, ih]

theorem dropWhile_append_cons {p : α → Bool} {a : α} (h : p a = false)
    (before after : List α) :
    (before ++ a :: after).dropWhile p = before.dropWhile p ++ a :: after := by
  induction before with
  | nil => simp [h]
  | cons b before ih =>
    simp only [List.cons_append, List.dropWhile_cons, ih]
    split <;> rfl

/-- A function that moves over single items of a kind moves over a stretch of them. -/
theorem skip_append {P : α → Prop} {f : Nat → List α → β}
    (hskip : ∀ a, P a → ∀ position rest, f position (a :: rest) = f (position + 1) rest)
    {stretch : List α} (h : ∀ a ∈ stretch, P a) (position : Nat) (rest : List α) :
    f position (stretch ++ rest) = f (position + stretch.length) rest := by
  induction stretch generalizing position with
  | nil => rfl
  | cons a stretch ih =>
    obtain ⟨ha, hstretch⟩ := List.forall_mem_cons.mp h
    rw [List.cons_append, hskip a ha, ih hstretch, List.length_cons, Nat.add_assoc,
      Nat.add_comm 1]

theorem skip_dropWhile {p : α → Bool} {f : Nat → List α → β}
    (hskip : ∀ a, p a = true → ∀ position rest, f position (a :: rest) = f (position + 1) rest)
    (position : Nat) (items : List α) :
    f position items = f (position + (items.takeWhile p).length) (items.dropWhile p) := by
  have hstretch : ∀ a ∈ items.takeWhile p, p a = true :=
    List.all_eq_true.mp List.all_takeWhile
  have happend := skip_append hskip hstretch position (items.dropWhile p)
  rwa [List.takeWhile_append_dropWhile] at happend

theorem length_takeWhile_add_dropWhile (p : α → Bool) (items : List α) :
    (items.takeWhile p).length + (items.dropWhile p).length = items.length := by
  rw [← List.length_append, List.takeWhile_append_dropWhile]

/-! ### Running a lexer -/

/-- A function of the offset and the rest gives what a lexer finds, if it agrees with every
call of the lexer on fresh scanners. -/
theorem collect_eq {lexer : Scanner α → Option β × Scanner α}
    {lexer_lt : ∀ {s b s'}, lexer s = (some b, s') → s'.remaining < s.remaining}
    {f : Nat → List α → List β}
    (hnone : ∀ s s', s.lexeme = [] → lexer s = (none, s') → f s.offset s.rest = [])
    (hsome : ∀ s b s', s.lexeme = [] → lexer s = (some b, s') →
      s'.lexeme = [] ∧ f s.offset s.rest = b :: f s'.offset s'.rest)
    {s : Scanner α} (hs : s.lexeme = []) :
    s.collect lexer lexer_lt = f s.offset s.rest := by
  -- the scanner stays fresh from one call to the next, so `hs` is part of the induction
  fun_induction collect lexer lexer_lt s with
  | case1 s s' h => exact (hnone s s' hs h).symm
  | case2 s b s' h ih =>
    obtain ⟨hs', heq⟩ := hsome s b s' hs h
    rw [ih hs', heq]

end Calculator.Scanner
