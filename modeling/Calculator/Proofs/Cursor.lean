/-
A scanner is a cursor over its source.

A `Cursor` has no buffer: it knows where the lexeme starts, how long it is and whether the end
was met, and looks everything else up in the whole source.  A scanner that has the source in
pieces, a part of it pulled and kept in front of its position, gives the same answers.

* `Scanner.ended`, `current?_eq` — how the position of a scanner tells that the end was met;
* `Scanner.Move`, `Scanner.Answer` — what can be done with a scanner, and what comes back;
* `Cursor.perform` — every move, by the positions in the source alone;
* `Represents` — a scanner and a cursor at the same place;
* `Represents.perform` — one move gives the same answer and keeps them there;
* `Scanner.answers_eq_cursor` — so all moves do, in any order, and no item of the source is
  lost, doubled or moved on the way.

Design notes.  A scanner that has met the end has nothing in front of it.  That is not part of
`Represents`: it follows from where the position of a scanner can be.
-/
import Calculator.Proofs.Scanning

namespace Calculator

variable {α σ : Type}

/-! ### The end of the source -/

namespace Scanner

/-- Whether the last move ran into the end of the source. -/
def ended (s : Scanner α) : Bool := s.position == s.buffer.size

theorem ended_eq_true_iff {s : Scanner α} : s.ended = true ↔ s.position = s.buffer.size := by
  rw [ended, beq_iff_eq]

theorem ended_eq_false_iff {s : Scanner α} : s.ended = false ↔ s.position < s.buffer.size := by
  have hle := s.sound.le_size
  rw [ended, beq_eq_false_iff_ne]
  omega

theorem rest_of_ended {s : Scanner α} (h : s.ended = true) : s.rest = [] := by
  rw [ended_eq_true_iff] at h
  have hposition := s.position_cases
  rw [rest_eq_drop, List.drop_eq_nil_iff, length_items]
  omega

theorem ended_of_rest_eq_cons {s : Scanner α} {a : α} {behind : List α}
    (h : s.rest = a :: behind) : s.ended = false := by
  cases hended : s.ended with
  | false => rfl
  | true =>
    rw [rest_of_ended hended] at h
    exact absurd h (by simp)

/-- A move runs into the end if nothing is in front of the scanner. -/
theorem ended_advance (s : Scanner α) : s.advance.ended = s.rest.isEmpty := by
  have hsize := s.size_advance
  have hposition := s.position_cases
  rw [Bool.eq_iff_iff, ended_eq_true_iff, position_advance, List.isEmpty_iff, rest_eq_drop,
    List.drop_eq_nil_iff, length_items]
  omega

/-- A step back goes back to the end, too. -/
theorem ended_stepBack (s : Scanner α) : s.stepBack.ended = s.ended := by
  have hsize := s.size_advance
  have hposition := s.position_cases
  rw [Bool.eq_iff_iff, ended_eq_true_iff, ended_eq_true_iff]
  show s.position = (s.advance.buffer.size : Int) ↔ _
  omega

@[simp] theorem ended_discard (s : Scanner α) : s.discard.ended = false := by
  rw [ended_eq_false_iff]
  show -1 < (s.discard.buffer.size : Int)
  omega

/-- The end of the source hides the last item of the lexeme. -/
theorem current?_eq (s : Scanner α) :
    s.current? = if s.ended then none else s.lexeme.getLast? := by
  rcases s.position_cases with ⟨hposition, hle⟩ | ⟨hposition, -, -⟩
  · have hended : s.ended = false := ended_eq_false_iff.mpr (by omega)
    rw [hended, if_neg Bool.false_ne_true, List.getLast?_eq_getElem?, length_lexeme, current?]
    split
    · next hneg =>
      have hnone : s.consumed = 0 := by omega
      simp [lexeme, hnone]
    · have hlast : s.position.toNat = s.consumed - 1 := by omega
      rw [hlast, lexeme, List.getElem?_take_of_lt (by omega), Array.getElem?_toList]
  · have hended : s.ended = true := ended_eq_true_iff.mpr hposition
    rw [hended, if_pos rfl, current?, if_neg (by omega), Array.getElem?_eq_none_iff]
    omega

/-! ### Moves -/

/-- What can be done with a scanner. -/
inductive Move (α : Type) where
  | next
  | current
  | offset
  | lexeme
  | nextIf (p : α → Bool)
  | skipWhile (p : α → Bool)
  | discard
  | takeLexeme

/-- What comes back from a move. -/
inductive Answer (α : Type) where
  /-- The item that was taken or looked at, if there is one. -/
  | item (item? : Option α)
  | position (position : Nat)
  | items (items : List α)
  /-- Whether the scanner has moved. -/
  | moved (moved : Bool)
  | done
deriving DecidableEq, Repr

/-- One move of a scanner. -/
def perform (s : Scanner α) : Move α → Answer α × Scanner α
  | .next => s.next?.map .item id
  | .current => (.item s.current?, s)
  | .offset => (.position s.offset, s)
  | .lexeme => (.items s.lexeme, s)
  | .nextIf p => (s.nextIf? p).map .item id
  | .skipWhile p => (s.skipWhile p).map .moved id
  | .discard => (.done, s.discard)
  | .takeLexeme => s.takeLexeme.map .items id

/-- The answers to moves that are made one after the other. -/
def answers (perform : σ → Move α → Answer α × σ) (s : σ) : List (Move α) → List (Answer α)
  | [] => []
  | move :: moves => (perform s move).1 :: answers perform (perform s move).2 moves

/-- Where moves lead that are made one after the other. -/
def reached (perform : σ → Move α → Answer α × σ) (s : σ) (moves : List (Move α)) : σ :=
  moves.foldl (fun s move => (perform s move).2) s

end Scanner

/-! ### Cursors -/

/-- A place in a source: the lexeme goes from `start` on over `length` items. -/
structure Cursor where
  start : Nat
  length : Nat
  /-- Whether the last move ran into the end of the source. -/
  ended : Bool
deriving DecidableEq, Repr

namespace Cursor

def initial : Cursor := { start := 0, length := 0, ended := false }

/-- The item in front of the cursor. -/
def ahead? (source : List α) (c : Cursor) : Option α := source[c.start + c.length]?

def lexeme (source : List α) (c : Cursor) : List α := (source.drop c.start).take c.length

/-- The last item of the lexeme, unless the cursor has run into the end of the source. -/
def current? (source : List α) (c : Cursor) : Option α :=
  if c.ended ∨ c.length = 0 then none else source[c.start + c.length - 1]?

def next? (source : List α) (c : Cursor) : Option α × Cursor :=
  match c.ahead? source with
  | some a => (some a, { c with length := c.length + 1 })
  | none => (none, { c with ended := true })

/-- Takes the item in front of the cursor if it satisfies `p`, and does nothing otherwise. -/
def nextIf? (source : List α) (p : α → Bool) (c : Cursor) : Option α × Cursor :=
  match c.ahead? source with
  | some a => if p a then (some a, { c with length := c.length + 1 }) else (none, c)
  | none => (none, c)

theorem nextIf?_eq_some {source : List α} {p : α → Bool} {c c' : Cursor} {a : α}
    (h : c.nextIf? source p = (some a, c')) :
    c' = { c with length := c.length + 1 } ∧ c.start + c.length < source.length := by
  revert h
  fun_cases nextIf? source p c with
  | case1 b hahead =>
    rintro ⟨⟩
    exact ⟨rfl, (List.getElem?_eq_some_iff.mp hahead).1⟩
  | case2 => simp
  | case3 => simp

/-- Takes items until there is one that does not satisfy `p`. -/
def advance (source : List α) (p : α → Bool) (c : Cursor) : Cursor :=
  match _h : c.nextIf? source p with
  | (some _, c') => advance source p c'
  | (none, _) => c
termination_by source.length - (c.start + c.length)
decreasing_by
  obtain ⟨rfl, hlt⟩ := nextIf?_eq_some _h
  show _ - (c.start + (c.length + 1)) < _
  omega

theorem advance_of_some {source : List α} {p : α → Bool} {c c' : Cursor} {a : α}
    (h : c.nextIf? source p = (some a, c')) : c.advance source p = c'.advance source p := by
  rw [advance]
  split
  · next h₁ =>
    rw [h] at h₁
    rw [(Prod.mk.inj h₁).2]
  · next h₁ =>
    rw [h] at h₁
    exact absurd (Prod.mk.inj h₁).1 (by simp)

theorem advance_of_none {source : List α} {p : α → Bool} {c : Cursor}
    (h : (c.nextIf? source p).1 = none) :
    c.advance source p = c ∧ (c.nextIf? source p).2 = c := by
  constructor
  · rw [advance]
    split
    · next h₁ =>
      rw [h₁] at h
      exact absurd h (by simp)
    · rfl
  · revert h
    fun_cases nextIf? source p c with
    | case1 => simp
    | case2 => simp
    | case3 => simp

/-- Takes items as long as they satisfy `p`, and tells whether the lexeme has grown. -/
def skipWhile (source : List α) (p : α → Bool) (c : Cursor) : Bool × Cursor :=
  (decide (c.length < (c.advance source p).length), c.advance source p)

def discard (c : Cursor) : Cursor := { start := c.start + c.length, length := 0, ended := false }

/-- One move of a cursor over a source. -/
def perform (source : List α) (c : Cursor) : Scanner.Move α → Scanner.Answer α × Cursor
  | .next => (c.next? source).map .item id
  | .current => (.item (c.current? source), c)
  | .offset => (.position c.start, c)
  | .lexeme => (.items (c.lexeme source), c)
  | .nextIf p => (c.nextIf? source p).map .item id
  | .skipWhile p => (c.skipWhile source p).map .moved id
  | .discard => (.done, c.discard)
  | .takeLexeme => (.items (c.lexeme source), c.discard)

theorem length_le_advance (source : List α) (p : α → Bool) (c : Cursor) :
    c.length ≤ (c.advance source p).length := by
  fun_induction advance source p c with
  | case1 c a c' h ih =>
    obtain ⟨rfl, -⟩ := nextIf?_eq_some h
    exact Nat.le_trans (Nat.le_succ c.length) ih
  | case2 => exact Nat.le_refl _

end Cursor

/-! ### A scanner and a cursor at the same place -/

/-- A scanner and a cursor at the same place of a source. -/
structure Represents (source : List α) (s : Scanner α) (c : Cursor) : Prop where
  offset_eq : s.offset = c.start
  /-- The lexeme of the scanner is what lies between the places of the cursor. -/
  lexeme_eq : s.lexeme = c.lexeme source
  /-- Nothing is missing in front of the scanner, wherever it keeps it. -/
  rest_eq : s.rest = source.drop (c.start + c.length)
  ended_eq : s.ended = c.ended
  /-- The cursor is inside the source. -/
  le_length : c.start + c.length ≤ source.length

namespace Represents

variable {source : List α} {s : Scanner α} {c : Cursor}

theorem ofList (source : List α) : Represents source (Scanner.ofList source) .initial where
  offset_eq := rfl
  lexeme_eq := rfl
  rest_eq := rfl
  ended_eq := rfl
  le_length := Nat.zero_le _

theorem length_lexeme (h : Represents source s c) : s.lexeme.length = c.length := by
  have hle := h.le_length
  rw [h.lexeme_eq, Cursor.lexeme, List.length_take, List.length_drop]
  omega

/-- What is in front of the cursor is the first item of the rest. -/
theorem ahead?_eq (h : Represents source s c) : c.ahead? source = s.rest.head? := by
  rw [h.rest_eq, Cursor.ahead?, List.head?_drop]

theorem current?_eq (h : Represents source s c) : s.current? = c.current? source := by
  rw [Scanner.current?_eq, Cursor.current?, h.ended_eq]
  cases c.ended with
  | true => simp
  | false =>
    -- the last item taken is the last one of the lexeme
    rw [List.getLast?_eq_getElem?, h.length_lexeme, h.lexeme_eq, Cursor.lexeme]
    by_cases hlength : c.length = 0
    · simp [hlength]
    · rw [List.getElem?_take_of_lt (by omega), List.getElem?_drop, ← Nat.add_sub_assoc (by omega)]
      simp [hlength]

/-- Taking an item moves both on by one. -/
theorem advance_of_cons (h : Represents source s c) {a : α} {behind : List α}
    (hrest : s.rest = a :: behind) :
    Represents source s.advance { c with length := c.length + 1 } := by
  have hahead : source[c.start + c.length]? = some a := by
    rw [← Cursor.ahead?, h.ahead?_eq, hrest, List.head?_cons]
  refine ⟨h.offset_eq, ?_, ?_, ?_, ?_⟩
  · rw [Scanner.lexeme_advance, h.lexeme_eq, hrest]
    show _ = (source.drop c.start).take (c.length + 1)
    rw [List.take_add_one, List.getElem?_drop, hahead]
    rfl
  · rw [Scanner.rest_advance, h.rest_eq, List.tail_drop, Nat.add_assoc]
  · rw [Scanner.ended_advance, hrest, List.isEmpty_cons, ← Scanner.ended_of_rest_eq_cons hrest]
    exact h.ended_eq
  · exact (List.getElem?_eq_some_iff.mp hahead).1

/-- Where nothing is left, a move only runs into the end. -/
theorem advance_of_nil (h : Represents source s c) (hrest : s.rest = []) :
    Represents source s.advance { c with ended := true } where
  offset_eq := h.offset_eq
  lexeme_eq := by
    rw [Scanner.lexeme_advance, hrest, List.head?_nil, Option.toList_none, List.append_nil]
    exact h.lexeme_eq
  rest_eq := by
    rw [Scanner.rest_advance, hrest, List.tail_nil, ← hrest]
    exact h.rest_eq
  ended_eq := by rw [Scanner.ended_advance, hrest, List.isEmpty_nil]
  le_length := h.le_length

/-- A step back leads to the same place, whatever is in the buffer now. -/
theorem stepBack (h : Represents source s c) : Represents source s.stepBack c where
  offset_eq := h.offset_eq
  lexeme_eq := s.lexeme_stepBack.trans h.lexeme_eq
  rest_eq := s.rest_stepBack.trans h.rest_eq
  ended_eq := s.ended_stepBack.trans h.ended_eq
  le_length := h.le_length

theorem next? (h : Represents source s c) :
    s.next?.1 = (c.next? source).1 ∧ Represents source s.next?.2 (c.next? source).2 := by
  rw [Scanner.next?_eq, Cursor.next?, h.ahead?_eq]
  cases hrest : s.rest with
  | nil => exact ⟨rfl, h.advance_of_nil hrest⟩
  | cons a behind => exact ⟨rfl, h.advance_of_cons hrest⟩

theorem nextIf? (h : Represents source s c) (p : α → Bool) :
    (s.nextIf? p).1 = (c.nextIf? source p).1 ∧
      Represents source (s.nextIf? p).2 (c.nextIf? source p).2 := by
  rw [Scanner.nextIf?_eq, Cursor.nextIf?, h.ahead?_eq]
  cases hrest : s.rest with
  | nil => exact ⟨rfl, h.stepBack⟩
  | cons a behind =>
    cases hp : p a with
    | true => simpa [hp] using h.advance_of_cons hrest
    | false => simpa [hp] using h.stepBack

theorem skipWhile (h : Represents source s c) (p : α → Bool) :
    (s.skipWhile p).1 = (c.skipWhile source p).1 ∧
      Represents source (s.skipWhile p).2 (c.skipWhile source p).2 := by
  rw [Cursor.skipWhile]
  fun_induction Scanner.skipWhile p s generalizing c with
  | case1 s a s' hs ih =>
    obtain ⟨hitem, hnext⟩ := h.nextIf? p
    rw [hs] at hitem hnext
    have hc : c.nextIf? source p = (some a, (c.nextIf? source p).2) :=
      Prod.ext hitem.symm rfl
    rw [Cursor.advance_of_some hc]
    refine ⟨?_, (ih hnext).2⟩
    -- the first item has made the lexeme longer, and no other makes it shorter
    have hgrown := Cursor.length_le_advance source p (c.nextIf? source p).2
    rw [(Cursor.nextIf?_eq_some hc).1] at hgrown ⊢
    exact (decide_eq_true hgrown).symm
  | case2 s s' hs =>
    obtain ⟨hitem, hnext⟩ := h.nextIf? p
    rw [hs] at hitem hnext
    obtain ⟨hadvance, hstay⟩ := Cursor.advance_of_none hitem.symm
    rw [hstay] at hnext
    rw [hadvance]
    exact ⟨(decide_eq_false (Nat.lt_irrefl c.length)).symm, hnext⟩

/-- A lexeme that is dropped lies behind both. -/
theorem discard (h : Represents source s c) : Represents source s.discard c.discard where
  offset_eq := by rw [Scanner.offset_discard, h.offset_eq, h.length_lexeme]; rfl
  lexeme_eq := by rw [Scanner.lexeme_discard]; rfl
  rest_eq := by rw [Scanner.rest_discard]; exact h.rest_eq
  ended_eq := s.ended_discard
  le_length := h.le_length

/-- **One move gives the same answer**, and scanner and cursor stay at the same place. -/
theorem perform (h : Represents source s c) (move : Scanner.Move α) :
    (s.perform move).1 = (c.perform source move).1 ∧
      Represents source (s.perform move).2 (c.perform source move).2 := by
  cases move with
  | next =>
    obtain ⟨hanswer, hnext⟩ := h.next?
    exact ⟨congrArg Scanner.Answer.item hanswer, hnext⟩
  | current => exact ⟨congrArg Scanner.Answer.item h.current?_eq, h⟩
  | offset => exact ⟨congrArg Scanner.Answer.position h.offset_eq, h⟩
  | lexeme => exact ⟨congrArg Scanner.Answer.items h.lexeme_eq, h⟩
  | nextIf p =>
    obtain ⟨hanswer, hnext⟩ := h.nextIf? p
    exact ⟨congrArg Scanner.Answer.item hanswer, hnext⟩
  | skipWhile p =>
    obtain ⟨hanswer, hnext⟩ := h.skipWhile p
    exact ⟨congrArg Scanner.Answer.moved hanswer, hnext⟩
  | discard => exact ⟨rfl, h.discard⟩
  | takeLexeme => exact ⟨congrArg Scanner.Answer.items h.lexeme_eq, h.discard⟩

/-- What lies behind the scanner, its lexeme and what lies in front of it are the source. -/
theorem take_append (h : Represents source s c) :
    source.take s.offset ++ s.lexeme ++ s.rest = source := by
  rw [h.offset_eq, h.lexeme_eq, h.rest_eq, Cursor.lexeme, List.append_assoc, ← List.drop_drop,
    List.take_append_drop, List.take_append_drop]

/-- All moves give the same answers. -/
theorem answers (h : Represents source s c) (moves : List (Scanner.Move α)) :
    Scanner.answers Scanner.perform s moves = Scanner.answers (Cursor.perform source) c moves ∧
      Represents source (Scanner.reached Scanner.perform s moves)
        (Scanner.reached (Cursor.perform source) c moves) := by
  induction moves generalizing s c with
  | nil => exact ⟨rfl, h⟩
  | cons move moves ih =>
    obtain ⟨hanswer, hnext⟩ := h.perform move
    obtain ⟨hanswers, hreached⟩ := ih hnext
    refine ⟨?_, hreached⟩
    rw [Scanner.answers, Scanner.answers, hanswer, hanswers]

end Represents

/-- **A scanner answers all moves as a cursor over its source does**, whatever the moves are.
At every time the source is what lies behind the scanner, its lexeme, and what lies in front of
it. -/
theorem Scanner.answers_eq_cursor (source : List α) (moves : List (Move α)) :
    answers perform (ofList source) moves = answers (Cursor.perform source) .initial moves ∧
      source.take (reached perform (ofList source) moves).offset ++
          (reached perform (ofList source) moves).lexeme ++
          (reached perform (ofList source) moves).rest = source := by
  obtain ⟨hanswers, hreached⟩ := (Represents.ofList source).answers moves
  exact ⟨hanswers, hreached.take_append⟩

/-- An item that was looked at is still there, and the end hides the last item until the lexeme
is dropped. -/
example : Scanner.answers Scanner.perform (.ofList [1, 2])
    [.nextIf (· < 2), .nextIf (· < 2), .current, .next, .next, .nextIf (· < 2), .current,
      .takeLexeme, .offset] =
    [.item (some 1), .item none, .item (some 1), .item (some 2), .item none, .item none,
      .item none, .items [1, 2], .position 2] := by decide

end Calculator
