/-
Scanning a list through a buffer.

A `Scanner` walks over a source and collects the items that it passes into a lexeme.  It pulls
items from the source into a buffer, when it needs them, and keeps its place in the buffer.  It
can go back to a place that it has left: `nextIf?` takes an item, looks at it, and steps back if
it is not the one that was asked for, so the item stays in the buffer for the next move.

* `Scanner.next?`, `nextIf?`, `skipWhile` — move over items and into the lexeme;
* `Scanner.discard`, `takeLexeme` — end the lexeme and start the next one behind it;
* `Scanner.offset`, `lexeme`, `current?`, `pulled` — what can be seen of a scanner;
* `Scanner.rest`, `rest_advance`, `rest_stepBack` — what lies in front of a scanner, and what
  becomes of it;
* `Scanner.collect` — the items of a lexer that is called until it finds nothing.

Design notes.  The position is signed: it is `-1` in front of the buffer, and the size of the
buffer once the scanner has run into the end of the source.  How far the buffer reaches behind
the position is left open here; it follows from what the moves do.  `collect` and `skipWhile` end
because `remaining`, the number of items in front of the scanner, goes down.
-/
import Calculator.Text.Blank

namespace Calculator

variable {α β : Type}

/-- Whether a position is in or beside a buffer.  Right behind the buffer it can only be if
nothing is left to pull. -/
structure Scanner.Sound (buffer : Array α) (position : Int) (unread : List α) : Prop where
  neg_one_le : -1 ≤ position
  le_size : position ≤ buffer.size
  at_end : position = buffer.size → unread = []

/-- A place in a source of items, with the lexeme that ends there. -/
structure Scanner (α : Type) where
  /-- The number of items in front of the buffer, which were dropped. -/
  offset : Nat
  /-- The items that were pulled from the source and not dropped. -/
  buffer : Array α
  /-- The place of the current item in the buffer, which is the last one of the lexeme. -/
  position : Int
  /-- The items that were not pulled. -/
  unread : List α
  sound : Scanner.Sound buffer position unread
deriving DecidableEq, Repr

namespace Scanner

theorem Sound.start (buffer : Array α) (unread : List α) : Sound buffer (-1) unread where
  neg_one_le := Int.le_refl _
  le_size := by omega
  at_end := by omega

def ofList (source : List α) : Scanner α :=
  { offset := 0, buffer := #[], position := -1, unread := source, sound := .start #[] source }

/-! ### What can be seen -/

/-- The number of items of the lexeme. -/
def consumed (s : Scanner α) : Nat := min (s.position + 1).toNat s.buffer.size

/-- The items collected since the lexeme began. -/
def lexeme (s : Scanner α) : List α := s.buffer.toList.take s.consumed

/-- The last item of the lexeme, unless the scanner has run into the end of the source. -/
def current? (s : Scanner α) : Option α :=
  if s.position < 0 then none else s.buffer[s.position.toNat]?

/-- The number of items of its source that the scanner has pulled. -/
def pulled (source : List α) (s : Scanner α) : Nat := source.length - s.unread.length

/-- The items in front of the scanner, whether they were pulled or not. -/
def rest (s : Scanner α) : List α := s.buffer.toList.drop s.consumed ++ s.unread

/-- The number of items in front of the scanner. -/
def remaining (s : Scanner α) : Nat := s.rest.length

/-! ### Filling the buffer -/

/-- Pulls items into the buffer until the position is inside it, or nothing is left to pull. -/
def fill (position : Int) : List α → Array α → List α × Array α
  | [], buffer => ([], buffer)
  | a :: unread, buffer =>
    if buffer.size ≤ position then fill position unread (buffer.push a)
    else (a :: unread, buffer)

/-- The buffer grows by as many items as the position is behind it. -/
theorem fill_eq (position : Int) (unread : List α) (buffer : Array α) :
    fill position unread buffer =
      (unread.drop (position + 1 - buffer.size).toNat,
        buffer ++ (unread.take (position + 1 - buffer.size).toNat).toArray) := by
  induction unread generalizing buffer with
  | nil => simp [fill]
  | cons a unread ih =>
    by_cases hle : buffer.size ≤ position
    · have hone : (position + 1 - buffer.size).toNat =
          (position + 1 - (buffer.push a).size).toNat + 1 := by
        rw [Array.size_push]
        omega
      rw [fill, if_pos hle, ih, hone, List.drop_succ_cons, List.take_succ_cons]
      simp
    · have hzero : (position + 1 - buffer.size).toNat = 0 := by omega
      rw [fill, if_neg hle, hzero]
      simp

theorem size_fill (position : Int) (unread : List α) (buffer : Array α) :
    (fill position unread buffer).2.size =
      buffer.size + min (position + 1 - buffer.size).toNat unread.length := by
  rw [fill_eq]
  simp

theorem toList_fill (position : Int) (unread : List α) (buffer : Array α) :
    (fill position unread buffer).2.toList ++ (fill position unread buffer).1 =
      buffer.toList ++ unread := by
  rw [fill_eq, Array.toList_append, List.append_assoc, List.take_append_drop]

/-- Pulling for the next position leaves nothing to pull if that position is still behind the
buffer. -/
theorem Sound.advance {buffer : Array α} {position : Int} {unread : List α}
    (h : Sound buffer position unread) :
    Sound (fill (position + 1) unread buffer).2
      (min (position + 1) (fill (position + 1) unread buffer).2.size)
      (fill (position + 1) unread buffer).1 where
  neg_one_le := by
    have := h.neg_one_le
    omega
  le_size := Int.min_le_right _ _
  at_end := by
    intro hend
    rw [size_fill] at hend
    rw [fill_eq, List.drop_eq_nil_iff]
    omega

/-! ### Moving -/

/-- Moves on by one item, or to the end of the source. -/
def advance (s : Scanner α) : Scanner α :=
  let filled := fill (s.position + 1) s.unread s.buffer
  { s with
    buffer := filled.2
    position := min (s.position + 1) filled.2.size
    unread := filled.1
    sound := s.sound.advance }

theorem size_advance (s : Scanner α) :
    s.advance.buffer.size =
      s.buffer.size + min (s.position + 2 - s.buffer.size).toNat s.unread.length := by
  have hsize := size_fill (s.position + 1) s.unread s.buffer
  rwa [Int.add_assoc] at hsize

theorem unread_advance (s : Scanner α) :
    s.advance.unread = s.unread.drop (s.position + 2 - s.buffer.size).toNat := by
  have hfill := congrArg Prod.fst (fill_eq (s.position + 1) s.unread s.buffer)
  rwa [Int.add_assoc] at hfill

/-- The position that a scanner has moved on from is still a position of its buffer. -/
theorem sound_stepBack (s : Scanner α) : Sound s.advance.buffer s.position s.advance.unread where
  neg_one_le := s.sound.neg_one_le
  le_size := by
    have := s.sound.le_size
    rw [size_advance]
    omega
  at_end := by
    intro hend
    have := s.sound.le_size
    rw [size_advance] at hend
    -- nothing was pulled, since nothing was left
    rw [unread_advance, s.sound.at_end (by omega), List.drop_nil]

/-- Takes the item in front of the scanner.  At the end of the source nothing is taken, the
lexeme stays, and there is no current item. -/
def next? (s : Scanner α) : Option α × Scanner α :=
  let moved := s.advance
  (moved.current?, moved)

/-- Takes the item in front of the scanner if it satisfies `p`, and otherwise steps back from
it. -/
def nextIf? (p : α → Bool) (s : Scanner α) : Option α × Scanner α :=
  let backtrack := s.position
  let moved := s.advance
  if moved.current?.any p then (moved.current?, moved)
  else (none, { moved with position := backtrack, sound := s.sound_stepBack })

/-! ### What lies in front -/

/-- The items that were not dropped: those of the lexeme and those in front of the scanner. -/
def items (s : Scanner α) : List α := s.buffer.toList ++ s.unread

theorem length_items (s : Scanner α) : s.items.length = s.buffer.size + s.unread.length := by
  rw [items, List.length_append, Array.length_toList]

/-- The position is that of the last item of the lexeme, or the scanner has run into the end of
the source. -/
theorem position_cases (s : Scanner α) :
    s.position + 1 = s.consumed ∧ s.consumed ≤ s.buffer.size ∨
      s.position = s.buffer.size ∧ s.consumed = s.buffer.size ∧ s.unread.length = 0 := by
  have hlow := s.sound.neg_one_le
  have hhigh := s.sound.le_size
  rw [consumed]
  by_cases hend : s.position = s.buffer.size
  · exact .inr ⟨hend, by omega, List.length_eq_zero_iff.mpr (s.sound.at_end hend)⟩
  · exact .inl ⟨by omega, by omega⟩

theorem consumed_le_size (s : Scanner α) : s.consumed ≤ s.buffer.size := Nat.min_le_right _ _

theorem lexeme_eq_take (s : Scanner α) : s.lexeme = s.items.take s.consumed := by
  rw [lexeme, items, List.take_append_of_le_length]
  exact s.consumed_le_size

theorem rest_eq_drop (s : Scanner α) : s.rest = s.items.drop s.consumed := by
  rw [rest, items, List.drop_append_of_le_length]
  exact s.consumed_le_size

theorem length_lexeme (s : Scanner α) : s.lexeme.length = s.consumed := by
  rw [lexeme, List.length_take, Array.length_toList]
  exact Nat.min_eq_left s.consumed_le_size

theorem items_advance (s : Scanner α) : s.advance.items = s.items :=
  toList_fill (s.position + 1) s.unread s.buffer

/-- The place that the scanner moves to is right behind the lexeme. -/
theorem position_advance (s : Scanner α) : s.advance.position = s.consumed := by
  have hsize := s.size_advance
  have hposition := s.position_cases
  show min (s.position + 1) (s.advance.buffer.size : Int) = s.consumed
  omega

theorem consumed_advance (s : Scanner α) :
    s.advance.consumed = min (s.consumed + 1) s.items.length := by
  have hsize := s.size_advance
  have hposition := s.position_cases
  rw [consumed, position_advance, length_items]
  omega

/-- What lies in front loses its first item, if it has one. -/
theorem rest_advance (s : Scanner α) : s.advance.rest = s.rest.tail := by
  rw [rest_eq_drop, rest_eq_drop, items_advance, consumed_advance, List.tail_drop,
    List.drop_eq_drop_iff]
  omega

theorem current?_advance (s : Scanner α) : s.advance.current? = s.rest.head? := by
  have hnonneg : ¬s.advance.position < 0 := by
    rw [position_advance]
    omega
  rw [current?, if_neg hnonneg, position_advance, Int.toNat_natCast, rest_eq_drop,
    List.head?_drop, ← items_advance, items, ← Array.getElem?_toList]
  by_cases hlt : s.consumed < s.advance.buffer.size
  · rw [List.getElem?_append_left (by simpa using hlt)]
  · -- the scanner has run into the end of the source
    have hunread : s.advance.unread = [] := by
      apply s.advance.sound.at_end
      have hle := s.advance.sound.le_size
      rw [position_advance] at hle ⊢
      omega
    rw [hunread, List.append_nil]

/-- The scanner that has moved on and stepped back. -/
def stepBack (s : Scanner α) : Scanner α :=
  { s.advance with position := s.position, sound := s.sound_stepBack }

theorem items_stepBack (s : Scanner α) : s.stepBack.items = s.items :=
  s.items_advance

/-- A step back undoes the move. -/
theorem consumed_stepBack (s : Scanner α) : s.stepBack.consumed = s.consumed := by
  have hsize := s.size_advance
  have hposition := s.position_cases
  show min (s.position + 1).toNat s.advance.buffer.size = s.consumed
  omega

theorem rest_stepBack (s : Scanner α) : s.stepBack.rest = s.rest := by
  rw [rest_eq_drop, rest_eq_drop, items_stepBack, consumed_stepBack]

theorem next?_eq (s : Scanner α) : s.next? = (s.rest.head?, s.advance) := by
  rw [next?, current?_advance]

theorem nextIf?_eq (p : α → Bool) (s : Scanner α) :
    s.nextIf? p =
      if s.rest.head?.any p then (s.rest.head?, s.advance) else (none, s.stepBack) := by
  rw [← current?_advance]
  rfl

/-! ### Moving over items -/

theorem remaining_next?_lt {s s' : Scanner α} {a : α} (h : s.next? = (some a, s')) :
    s'.remaining < s.remaining := by
  rw [next?_eq] at h
  obtain ⟨hhead, rfl⟩ := Prod.mk.inj h
  obtain ⟨behind, hrest⟩ := List.head?_eq_some_iff.mp hhead
  rw [remaining, remaining, rest_advance, hrest]
  exact Nat.lt_succ_self _

theorem remaining_nextIf?_lt {p : α → Bool} {s s' : Scanner α} {a : α}
    (h : s.nextIf? p = (some a, s')) : s'.remaining < s.remaining := by
  rw [nextIf?_eq] at h
  split at h
  · exact remaining_next?_lt (s.next?_eq.trans h)
  · exact absurd (Prod.mk.inj h).1 (by simp)

theorem remaining_nextIf?_le (p : α → Bool) (s : Scanner α) :
    (s.nextIf? p).2.remaining ≤ s.remaining := by
  rw [nextIf?_eq]
  split
  · rw [remaining, remaining, rest_advance, List.length_tail]
    exact Nat.sub_le _ _
  · exact Nat.le_of_eq (congrArg List.length s.rest_stepBack)

/-- Takes items as long as they satisfy `p`, and tells whether there was one. -/
def skipWhile (p : α → Bool) (s : Scanner α) : Bool × Scanner α :=
  match _h : s.nextIf? p with
  | (some _, s') => (true, (skipWhile p s').2)
  | (none, s') => (false, s')
termination_by s.remaining
decreasing_by exact remaining_nextIf?_lt _h

/-! ### Ending a lexeme -/

/-- Drops the lexeme: the next one starts where it ended. -/
def discard (s : Scanner α) : Scanner α :=
  { offset := s.offset + s.consumed
    buffer := s.buffer.extract s.consumed
    position := -1
    unread := s.unread
    sound := .start _ _ }

/-- The lexeme, and the scanner without it. -/
def takeLexeme (s : Scanner α) : List α × Scanner α := (s.lexeme, s.discard)

/-- Moves over blanks and drops the lexeme, so that the next one starts without blanks. -/
def skipBlanks (s : Scanner Char) : Scanner Char := (s.skipWhile Text.isBlank).2.discard

@[simp] theorem lexeme_discard (s : Scanner α) : s.discard.lexeme = [] := rfl

@[simp] theorem rest_discard (s : Scanner α) : s.discard.rest = s.rest := by
  have hnone : s.discard.consumed = 0 := rfl
  have hbuffer : s.discard.buffer.toList = s.buffer.toList.drop s.consumed := by
    simp [discard, List.take_of_length_le]
  rw [rest, hnone, hbuffer, List.drop_zero, rest]
  rfl

@[simp] theorem remaining_discard (s : Scanner α) : s.discard.remaining = s.remaining := by
  rw [remaining, rest_discard, remaining]

/-- Moving over items leaves no more in front of the scanner, and fewer if there was one. -/
theorem remaining_skipWhile_le (p : α → Bool) (s : Scanner α) :
    (s.skipWhile p).2.remaining + (s.skipWhile p).1.toNat ≤ s.remaining := by
  fun_induction skipWhile p s with
  | case1 s a s' h ih =>
    have := remaining_nextIf?_lt h
    simp only [Bool.toNat_true]
    omega
  | case2 s s' h =>
    have := remaining_nextIf?_le p s
    simpa [h] using this

theorem remaining_skipBlanks_le (s : Scanner Char) : s.skipBlanks.remaining ≤ s.remaining := by
  have := remaining_skipWhile_le Text.isBlank s
  simp only [skipBlanks, remaining_discard]
  omega

/-! ### Running a lexer -/

/-- What calls of `lexer` find one after the other, until one finds nothing.  A call takes at
least one item whenever it finds something. -/
def collect (lexer : Scanner α → Option β × Scanner α)
    (lexer_lt : ∀ {s b s'}, lexer s = (some b, s') → s'.remaining < s.remaining)
    (s : Scanner α) : List β :=
  match _h : lexer s with
  | (none, _) => []
  | (some b, s') => b :: collect lexer lexer_lt s'
termination_by s.remaining
decreasing_by exact lexer_lt _h

end Scanner

end Calculator
