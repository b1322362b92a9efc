/-
Blanks and lines.

A property of the Unicode standard is kept as the list of its closed ranges of code points, in
increasing order and apart.  A blank is a character with the property White_Space: blanks
separate words and tokens, and a line is read without the blanks at its ends.

* `Ranges.has` — membership of a character in ranges of code points;
* `isBlank` — membership in the table `blankRanges`;
* `trim` — a text without its leading and trailing blanks;
* `lines` — a text cut at its line feeds.

Design notes.  Texts are lists of characters, so a position is the number of code points in
front of a character, and every count below is a `List.length`.
-/

namespace Calculator.Text

/-- Closed ranges of code points, in increasing order. -/
abbrev Ranges := List (Nat × Nat)

/-- Whether the code point of a character lies in one of the ranges. -/
def Ranges.has (ranges : Ranges) (c : Char) : Bool :=
  ranges.any fun range => range.1 ≤ c.toNat && c.toNat ≤ range.2

/-- The code points with the property White_Space. -/
def blankRanges : Ranges :=
  [(0x09, 0x0D), (0x20, 0x20), (0x85, 0x85), (0xA0, 0xA0), (0x1680, 0x1680),
   (0x2000, 0x200A), (0x2028, 0x2029), (0x202F, 0x202F), (0x205F, 0x205F), (0x3000, 0x3000)]

/-- A blank is a character whose code point lies in one of the `blankRanges`. -/
def isBlank (c : Char) : Bool := blankRanges.has c

/-- The text without the blanks at its two ends. -/
def trim (text : List Char) : List Char :=
  ((text.dropWhile isBlank).reverse.dropWhile isBlank).reverse

/-- The pieces of the text between its line feeds.  What follows the last line feed is a line
only if it is not empty. -/
def lines : List Char → List (List Char)
  | [] => []
  | c :: rest =>
    if c = '\n' then [] :: lines rest
    else match lines rest with
      | [] => [[c]]
      | line :: more => (c :: line) :: more

end Calculator.Text
