/-
Lines as they were typed.

A backspace erases the cluster in front of it and itself, so that a line can be corrected while
it is typed.  At the start of a line there is nothing to erase.

* `applyBackspaces` — what is left of a line;
* `typedLines` — the lines of a text, as they are left;
* `applyBackspaces_of_not_mem` — a line without a backspace stays as it is.

Design notes.  The size of each cluster is remembered in a single byte.  A cluster of 256 bytes
or more is therefore not erased as a whole: only its size modulo 256 is taken off the end.
-/
import Calculator.Text.Blank
import Calculator.Text.Cluster

namespace Calculator.Text

/-- The character that erases what is in front of it. -/
abbrev backspace : Char := '\x08'

/-- A line that is being typed. -/
structure Typing where
  /-- The characters that are left, the last one first. -/
  kept : List Char
  /-- The sizes of the clusters that can still be erased, the last one first. -/
  sizes : List Nat
deriving DecidableEq, Repr

/-- The number of bytes that erasing a cluster takes off the line. -/
def erasureSize (cluster : List Char) : Nat :=
  cluster.foldr (fun c size => c.utf8Size + size) 0 % 256

/-- Takes whole characters off the end, up to a number of bytes. -/
def eraseBytes (size : Nat) : List Char → List Char
  | [] => []
  | c :: rest => if c.utf8Size ≤ size then eraseBytes (size - c.utf8Size) rest else c :: rest

/-- Types one more cluster. -/
def Typing.type (line : Typing) (cluster : List Char) : Typing :=
  if cluster = [backspace] then
    match line.sizes with
    | [] => line
    | size :: sizes => { kept := eraseBytes size line.kept, sizes }
  else { kept := cluster.reverse ++ line.kept, sizes := erasureSize cluster :: line.sizes }

/-- What is left of a line when its backspaces have erased what they stand behind. -/
def applyBackspaces (text : List Char) : List Char :=
  ((clusters text).foldl Typing.type ⟨[], []⟩).kept.reverse

/-- The lines of a text as they are left by their backspaces. -/
def typedLines (text : List Char) : List (List Char) := (lines text).map applyBackspaces

theorem kept_foldl_type (line : Typing) {pieces : List (List Char)}
    (h : [backspace] ∉ pieces) :
    (pieces.foldl Typing.type line).kept = pieces.flatten.reverse ++ line.kept := by
  induction pieces generalizing line with
  | nil => rfl
  | cons piece rest ih =>
    obtain ⟨hpiece, hrest⟩ := not_or.1 (mt List.mem_cons.2 h)
    rw [List.foldl_cons, ih _ hrest, Typing.type, if_neg (Ne.symm hpiece)]
    simp

/-- A line without a backspace stays as it is. -/
theorem applyBackspaces_of_not_mem {text : List Char} (h : backspace ∉ text) :
    applyBackspaces text = text := by
  have hpieces : [backspace] ∉ clusters text := fun hmem => h <| by
    rw [← clusters_flatten text]
    exact List.mem_flatten.2 ⟨_, hmem, List.mem_singleton.2 rfl⟩
  simp [applyBackspaces, kept_foldl_type _ hpieces]

end Calculator.Text
