/-
What the command line asks for.

Flags stand in front of the words of an expression: from the first word on, every argument
belongs to the expression.  Without an expression a session at the prompt starts.

* `Invocation.take` — one flag after the other;
* `Invocation.ofFlags` — what some flags and the words of an expression ask for;
* `Invocation.ofArguments` — what all arguments ask for.

Design notes.  Flags are taken one by one, and a mistake counts where it is met: help that was
asked for in front of a mistake is still given.  Only flags that exclude each other are looked
at behind the last argument.
-/
import Calculator.CommandLine.Argument
import Calculator.Session

namespace Calculator

/-- What the program is asked to do. -/
inductive Invocation where
  /-- The arguments make no sense. -/
  | misuse
  /-- Show the usage. -/
  | help
  /-- Show the version. -/
  | version
  /-- Evaluate the sample expressions. -/
  | demo
  /-- Start a session. -/
  | prompt (mode : Mode)
  /-- Evaluate an expression. -/
  | evaluate (mode : Mode) (expression : String)
  /-- Show an infix expression in postfix notation. -/
  | convert (mode : Mode) (expression : String)
deriving DecidableEq, Repr

namespace Invocation

/-- Takes flags one by one and adds them to those that were given.  Help and version end the
command line at once, and so does a flag that is given twice. -/
def take (given : List Flag) : List Flag → Except Invocation (List Flag)
  | [] => .ok given
  | .help :: _ => .error help
  | .version :: _ => .error version
  | flag :: rest => if flag ∈ given then .error misuse else take (flag :: given) rest

/-- Whether two of the flags exclude each other. -/
def conflicting (given : List Flag) : Bool :=
  (.convert ∈ given && .rpnEntry ∈ given) ||
  (.demo ∈ given && (.rpnEntry ∈ given || .convert ∈ given))

/-- The mode that the flags ask for. -/
def modeOf (given : List Flag) : Mode where
  entry := if .rpnEntry ∈ given then .rpn else .algebraic
  strictness := if .strict ∈ given then .strict else .lenient

/-- What is asked for by some flags and the words of an expression. -/
def ofFlags (given : List Flag) (expression : List String) : Invocation :=
  if conflicting given then misuse
  else if .demo ∈ given then demo
  else if expression.isEmpty then prompt (modeOf given)
  else if .convert ∈ given then convert (modeOf given) (" ".intercalate expression)
  else evaluate (modeOf given) (" ".intercalate expression)

/-- What is asked for by the arguments that follow some flags. -/
def scan (given : List Flag) : List String → Invocation
  | [] => ofFlags given []
  | argument :: rest =>
    match Argument.ofString argument with
    | .word => ofFlags given (argument :: rest)
    | .separator => ofFlags given rest
    | .valued => misuse
    | .flags flags =>
      match take given flags with
      | .ok given' => scan given' rest
      | .error invocation => invocation

/-- What is asked for by all arguments. -/
def ofArguments (arguments : List String) : Invocation := scan [] arguments

end Invocation

end Calculator
