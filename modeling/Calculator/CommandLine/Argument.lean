/-
Flags and arguments of the command line.

* `Flag.ofLetter?`, `Flag.ofName?` — the two spellings of a flag;
* `Argument.ofString` — what an argument can be in front of the words of an expression.

Design notes.  A word of an expression may well start with a hyphen: `-3` is a number, and `-`
is an operator.  An argument is therefore a flag only if all of it is known, and a word
otherwise.
-/

namespace Calculator

/-- A flag of the command line. -/
inductive Flag where
  /-- Expressions are in postfix notation. -/
  | rpnEntry
  /-- Infix expressions must contain parentheses. -/
  | strict
  /-- Infix expressions are shown in postfix notation instead of being evaluated. -/
  | convert
  /-- A few sample expressions are evaluated. -/
  | demo
  /-- The usage is shown. -/
  | help
  /-- The version is shown. -/
  | version
deriving DecidableEq, Repr

namespace Flag

/-- The flag of a letter that follows a single hyphen. -/
def ofLetter? : Char → Option Flag
  | 'p' => some rpnEntry
  | 's' => some strict
  | 'r' => some convert
  | 'h' => some help
  | 'V' => some version
  | _ => none

/-- The flag of a name that follows two hyphens. -/
def ofName? : String → Option Flag
  | "postfix" => some rpnEntry
  | "strict" => some strict
  | "rpn" => some convert
  | "demo" => some demo
  | "help" => some help
  | "version" => some version
  | _ => none

end Flag

/-- What an argument in front of the expression can be. -/
inductive Argument where
  /-- One flag by its name, or several by their letters. -/
  | flags (flags : List Flag)
  /-- A flag by its name with a value, which no flag has. -/
  | valued
  /-- Two hyphens alone: the expression starts behind them. -/
  | separator
  /-- The first word of the expression. -/
  | word
deriving DecidableEq, Repr

namespace Argument

/-- The argument of a text behind two hyphens. -/
def ofName (text : List Char) : Argument :=
  match Flag.ofName? (String.ofList (text.takeWhile (· ≠ '='))) with
  | some flag => if text.contains '=' then valued else flags [flag]
  | none => word

/-- The argument of a text behind a single hyphen. -/
def ofLetters (text : List Char) : Argument :=
  match text.mapM Flag.ofLetter? with
  | some [] => word
  | some found => flags found
  | none => word

/-- What an argument is, if no word of the expression stands in front of it. -/
def ofString (argument : String) : Argument :=
  match argument.toList with
  | ['-', '-'] => separator
  | '-' :: '-' :: text => ofName text
  | '-' :: text => ofLetters text
  | _ => word

end Argument

end Calculator
