/-
Looking ahead by one item.

A scanner that walks over a source which is still being written must not wait for more of it than
it has to see.  What it has pulled from the source is what lies behind it, its lexeme, and at most
one item more: the one that it has looked at and stepped back from, which is the next one to be
taken.

* `Sparing` — at most one item of the buffer lies behind the lexeme;
* `Sparing.perform`, `Sparing.reached` — one move keeps it so, and any number of moves do;
* `Represents.items_eq`, `pulled_eq` — what a scanner has pulled;
* `Pulls` — the unread items before and after a move;
* `Move.allowance`, `perform_pulls` — how many items a single move may pull;
* `LooksAhead` — all that is said about a scanner in some state;
* `looksAhead_reached` — this holds in every state that any moves lead to.

Design notes.  A buffer can have any size, so the bound is an invariant of the moves.  It is kept
because filling stops as soon as the position is inside the buffer: a move always leads to the
last item of the buffer (`Sparing.size_advance_le`), and a step back leaves that one item behind
the lexeme.  Dropping the lexeme takes as much from the buffer as from the position.
-/
import Calculator.Proofs.Cursor

namespace Calculator

variable {α : Type}

namespace Scanner

/-! ### What is in the buffer -/

/-- A scanner with at most one item in its buffer that is not in the lexeme. -/
def Sparing (s : Scanner α) : Prop := s.buffer.size ≤ s.consumed + 1

namespace Sparing

variable {s : Scanner α}

theorem ofList (source : List α) : (Scanner.ofList source).Sparing := Nat.zero_le _

/-- A move takes the last item of the buffer, which was there or was pulled for it. -/
theorem size_advance_le (h : s.Sparing) : s.advance.buffer.size ≤ s.advance.consumed := by
  have hle : s.buffer.size ≤ s.consumed + 1 := h
  have hposition := s.position_cases
  rw [s.size_advance, s.consumed_advance, length_items]
  omega

theorem advance (h : s.Sparing) : s.advance.Sparing :=
  Nat.le_succ_of_le h.size_advance_le

theorem stepBack (h : s.Sparing) : s.stepBack.Sparing := by
  have hsize := h.size_advance_le
  rw [consumed_advance] at hsize
  show s.advance.buffer.size ≤ s.stepBack.consumed + 1
  rw [consumed_stepBack]
  exact Nat.le_trans hsize (Nat.min_le_left _ _)

theorem discard (h : s.Sparing) : s.discard.Sparing := by
  have hle : s.buffer.size ≤ s.consumed + 1 := h
  have hsize : s.discard.buffer.size = s.buffer.size - s.consumed := by simp [Scanner.discard]
  show s.discard.buffer.size ≤ 0 + 1
  omega

theorem nextIf? (h : s.Sparing) (p : α → Bool) : (s.nextIf? p).2.Sparing := by
  rw [nextIf?_eq]
  split
  · exact h.advance
  · exact h.stepBack

theorem skipWhile (h : s.Sparing) (p : α → Bool) : (s.skipWhile p).2.Sparing := by
  fun_induction Scanner.skipWhile p s with
  | case1 s a s' hs ih =>
    have hnext := h.nextIf? p
    rw [hs] at hnext
    exact ih hnext
  | case2 s s' hs =>
    have hnext := h.nextIf? p
    rwa [hs] at hnext

/-- **One move keeps at most one item behind the lexeme.** -/
theorem perform (h : s.Sparing) (move : Move α) : (s.perform move).2.Sparing := by
  cases move with
  | next =>
    show s.next?.2.Sparing
    rw [next?_eq]
    exact h.advance
  | nextIf p => exact h.nextIf? p
  | skipWhile p => exact h.skipWhile p
  | current => exact h
  | offset => exact h
  | lexeme => exact h
  | discard => exact h.discard
  | takeLexeme => exact h.discard

/-- Moves one after the other keep it so. -/
theorem reached (h : s.Sparing) (moves : List (Move α)) :
    (reached Scanner.perform s moves).Sparing := by
  induction moves generalizing s with
  | nil => exact h
  | cons move moves ih => exact ih (h.perform move)

end Sparing

end Scanner

/-! ### What was pulled -/

namespace Represents

variable {source : List α} {s : Scanner α} {c : Cursor}

/-- The buffer and the unread items are the source without what lies behind the scanner. -/
theorem items_eq (h : Represents source s c) : s.items = source.drop s.offset := by
  have hsplit := List.take_append_drop s.consumed s.items
  rw [← Scanner.lexeme_eq_take, ← Scanner.rest_eq_drop] at hsplit
  rw [← hsplit, h.lexeme_eq, h.rest_eq, h.offset_eq, Cursor.lexeme, ← List.drop_drop,
    List.take_append_drop]

/-- An item that was pulled lies behind the scanner or in its buffer. -/
theorem pulled_eq (h : Represents source s c) :
    s.pulled source = s.offset + s.buffer.size := by
  have hlength := congrArg List.length h.items_eq
  rw [Scanner.length_items, List.length_drop] at hlength
  have hle := h.le_length
  have hoffset := h.offset_eq
  rw [Scanner.pulled]
  omega

/-- The unread items are those of the source that were not pulled. -/
theorem unread_eq (h : Represents source s c) : s.unread = source.drop (s.pulled source) := by
  have hsuffix : s.unread <:+ source.drop s.offset := by
    rw [← h.items_eq]
    exact List.suffix_append _ _
  exact List.suffix_iff_eq_drop.mp (hsuffix.trans (List.drop_suffix _ _))

/-- An item of the buffer that is not in the lexeme is the next one, and nothing is pulled for
it. -/
theorem next?_of_lt_size (h : Represents source s c) (hlt : s.consumed < s.buffer.size) :
    ∃ a, source[s.offset + s.consumed]? = some a ∧ s.next?.1 = some a ∧
      s.next?.2.pulled source = s.pulled source := by
  have hhead : s.rest.head? = some s.buffer[s.consumed] := by
    rw [Scanner.rest_eq_drop, List.head?_drop, Scanner.items,
      List.getElem?_append_left (by simpa using hlt)]
    simp [hlt]
  refine ⟨s.buffer[s.consumed], ?_, ?_, ?_⟩
  · rw [← hhead, h.rest_eq, List.head?_drop, h.offset_eq, ← s.length_lexeme, h.length_lexeme]
  · rw [Scanner.next?_eq, hhead]
  · have hposition := s.position_cases
    have hnone : (s.position + 2 - s.buffer.size).toNat = 0 := by omega
    rw [Scanner.next?_eq, Scanner.pulled, Scanner.unread_advance, hnone, List.drop_zero,
      Scanner.pulled]

end Represents

namespace Scanner

/-! ### Single moves -/

/-- `Pulls n before after` if the items that are unread after a move are those before it without
at most `n` in front. -/
structure Pulls (n : Nat) (before after : List α) : Prop where
  suffix : after <:+ before
  length_le : before.length ≤ after.length + n

theorem Pulls.refl (n : Nat) (unread : List α) : Pulls n unread unread :=
  ⟨List.suffix_refl _, Nat.le_add_right _ n⟩

theorem Pulls.trans {m n : Nat} {first second third : List α} (h : Pulls m first second)
    (h' : Pulls n second third) : Pulls (m + n) first third where
  suffix := h'.suffix.trans h.suffix
  length_le := by
    have := h.length_le
    have := h'.length_le
    omega

/-- The place that a scanner moves to is in its buffer, right behind it, or past the end. -/
theorem advance_pulls (s : Scanner α) : Pulls 1 s.unread s.advance.unread := by
  rw [unread_advance]
  refine ⟨List.drop_suffix _ _, ?_⟩
  have hposition := s.position_cases
  rw [List.length_drop]
  omega

/-- A step back puts nothing back into the source. -/
theorem nextIf?_pulls (p : α → Bool) (s : Scanner α) :
    Pulls 1 s.unread (s.nextIf? p).2.unread := by
  rw [nextIf?_eq]
  split
  · exact s.advance_pulls
  · exact s.advance_pulls

/-- Moving over items pulls those that are taken, and the one that ends the stretch. -/
theorem skipWhile_pulls (p : α → Bool) (s : Scanner α) :
    Pulls ((s.skipWhile p).2.lexeme.length - s.lexeme.length + 1) s.unread
      (s.skipWhile p).2.unread := by
  fun_induction skipWhile p s with
  | case1 s a s' h ih =>
    have hfirst := s.nextIf?_pulls p
    rw [h] at hfirst
    obtain ⟨-, -, hlexeme, -⟩ := nextIf?_eq_some h
    have hlength : s'.lexeme.length = s.lexeme.length + 1 := by
      rw [hlexeme, List.length_append, List.length_singleton]
    have hgrown : s'.lexeme.length ≤ (s'.skipWhile p).2.lexeme.length := by
      rw [lexeme_skipWhile, List.length_append]
      exact Nat.le_add_right _ _
    -- the first item is one of those that are taken
    have hboth := hfirst.trans ih
    rwa [show 1 + ((s'.skipWhile p).2.lexeme.length - s'.lexeme.length + 1) =
      (s'.skipWhile p).2.lexeme.length - s.lexeme.length + 1 by omega] at hboth
  | case2 s s' h =>
    have hlast := s.nextIf?_pulls p
    rw [h] at hlast
    exact ⟨hlast.suffix, Nat.le_trans hlast.length_le (Nat.add_le_add_left (by omega) _)⟩

/-- The number of items that a move may pull from the source, if `taken` items are added to the
lexeme. -/
def Move.allowance (taken : Nat) : Move α → Nat
  | .next | .nextIf _ => 1
  | .skipWhile _ => taken + 1
  | .current | .offset | .lexeme | .discard | .takeLexeme => 0

/-- **A move pulls no more than it may.** -/
theorem perform_pulls (s : Scanner α) (move : Move α) :
    Pulls (move.allowance ((s.perform move).2.lexeme.length - s.lexeme.length)) s.unread
      (s.perform move).2.unread := by
  cases move with
  | next =>
    show Pulls 1 s.unread s.next?.2.unread
    rw [next?_eq]
    exact s.advance_pulls
  | nextIf p => exact s.nextIf?_pulls p
  | skipWhile p => exact s.skipWhile_pulls p
  | current => exact .refl 0 s.unread
  | offset => exact .refl 0 s.unread
  | lexeme => exact .refl 0 s.unread
  | discard => exact .refl 0 s.unread
  | takeLexeme => exact .refl 0 s.unread

/-! ### All moves -/

/-- A scanner that has pulled what it had to see and at most one item more. -/
structure LooksAhead (source : List α) (s : Scanner α) : Prop where
  /-- What was pulled was dropped or is in the buffer. -/
  pulled_eq : s.pulled source = s.offset + s.buffer.size
  /-- The lexeme is in the buffer, with at most one item behind it. -/
  size_le : s.buffer.size ≤ s.lexeme.length + 1
  /-- What was pulled is no more in the source, and nothing else is missing there. -/
  unread_eq : s.unread = source.drop (s.pulled source)
  le_pulled : s.offset + s.lexeme.length ≤ s.pulled source
  pulled_le : s.pulled source ≤ min source.length (s.offset + s.lexeme.length + 1)
  /-- The item that was pulled and not taken is the next one, for which nothing is pulled. -/
  next_eq : s.pulled source = s.offset + s.lexeme.length + 1 →
    ∃ a, source[s.offset + s.lexeme.length]? = some a ∧
      (s.perform .next).1 = .item (some a) ∧
      (s.perform .next).2.pulled source = s.pulled source
  /-- A single move puts nothing back and pulls no more than it may. -/
  perform_le : ∀ move,
    s.pulled source ≤ (s.perform move).2.pulled source ∧
      (s.perform move).2.pulled source ≤ s.pulled source +
        move.allowance ((s.perform move).2.lexeme.length - s.lexeme.length)

theorem Sparing.looksAhead {source : List α} {s : Scanner α} {c : Cursor} (hs : s.Sparing)
    (h : Represents source s c) : LooksAhead source s where
  pulled_eq := h.pulled_eq
  size_le := by
    rw [length_lexeme]
    exact hs
  unread_eq := h.unread_eq
  le_pulled := by
    rw [h.pulled_eq, length_lexeme]
    exact Nat.add_le_add_left s.consumed_le_size s.offset
  pulled_le := by
    refine Nat.le_min.mpr ⟨Nat.sub_le _ _, ?_⟩
    rw [h.pulled_eq, length_lexeme, Nat.add_assoc]
    exact Nat.add_le_add_left hs s.offset
  next_eq := by
    intro hone
    rw [h.pulled_eq, length_lexeme] at hone
    rw [length_lexeme]
    obtain ⟨a, hsource, hnext, hpulled⟩ := h.next?_of_lt_size (by omega)
    exact ⟨a, hsource, congrArg Answer.item hnext, hpulled⟩
  perform_le := by
    intro move
    obtain ⟨hsuffix, hlength⟩ := s.perform_pulls move
    have hunread : s.unread.length ≤ source.length := by
      rw [h.unread_eq]
      exact (List.drop_sublist _ _).length_le
    have hle := hsuffix.length_le
    rw [pulled, pulled]
    omega

/-- **A scanner looks ahead by at most one item**, in every state that moves in any order lead to,
and pulls an item only in a move that has to see it. -/
theorem looksAhead_reached (source : List α) (moves : List (Move α)) :
    LooksAhead source (reached perform (ofList source) moves) :=
  ((Sparing.ofList source).reached moves).looksAhead ((Represents.ofList source).answers moves).2

end Scanner

end Calculator
