/-
Reading postfix notation.

A postfix text is a list of words.  A single operator character is that operator, so `-` is
never a sign on its own; a numeral with an optional sign is a number.

* `Postfix.Token.ofWord` — what a word stands for;
* `Postfix.Program.ofWords` — the program that a list of words spells, up to the first word
  that stands for nothing;
* `Postfix.evaluate` — the evaluation of a text.
-/
import Calculator.Postfix.Machine
import Calculator.Word

namespace Calculator.Postfix

/-- The operator that a word of one character stands for. -/
def operatorOfWord? : List Char → Option Operator
  | [c] => Operator.ofChar? c
  | _ => none

/-- The token that a word stands for. -/
def Token.ofWord (word : Located (List Char)) : Except Fault Token :=
  match operatorOfWord? word.item with
  | some op => .ok (.operator op)
  | none =>
    if (Text.readInteger? word.item).isSome then
      match Value.ofText? word.item with
      | some value => .ok (.number value)
      | none => .error (.literalTooLarge (String.ofList word.item))
    else .error (.malformedWord (String.ofList word.item) word.position)

/-- The program that a list of words spells. -/
def Program.ofWords : List (Located (List Char)) → Program
  | [] => { code := [], fault := none }
  | word :: rest =>
    match Token.ofWord word with
    | .ok token => (ofWords rest).after [⟨word.position, token⟩]
    | .error fault => .failed fault

def evaluate (text : String) : Evaluation := (Program.ofWords (words text.toList)).evaluate

end Calculator.Postfix
