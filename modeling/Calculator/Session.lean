/-
Sessions at the prompt.

A session answers one line after the other.  A line that starts with a colon is a command,
any other line that is not blank is an expression.  All that one line leaves for the next is
the `Mode`.

* `Mode.evaluate`, `Mode.toPostfix` — expressions as a mode reads them;
* `Command.ofText` — the command that a line gives;
* `Mode.answer` — the mode after a line, and the reply to it;
* `Mode.converse` — the replies to the lines of a whole session.

Design notes.  A line reaches a session as it was left when it was entered: without its end, and
without what was erased in it.
-/
import Calculator.Infix.Reading
import Calculator.Postfix.Reading

namespace Calculator

/-- The notation in which expressions are entered. -/
inductive Entry where
  | algebraic
  | rpn
deriving DecidableEq, Repr

/-- How expressions are read. -/
structure Mode where
  entry : Entry
  strictness : Infix.Strictness
deriving DecidableEq, Repr

/-- The value of an expression. -/
def Mode.evaluate (mode : Mode) (text : String) : Except Fault Value :=
  match mode.entry with
  | .algebraic => (Infix.evaluate mode.strictness text).outcome
  | .rpn => (Postfix.evaluate text).outcome

/-- The text in postfix notation of an infix expression. -/
def Mode.toPostfix (mode : Mode) (text : String) : Except Fault String :=
  (Infix.toPostfix mode.strictness text).map Postfix.render

/-- What is said to one line. -/
inductive Reply where
  | silent
  /-- A text on standard output. -/
  | answer (text : String)
  /-- A text on standard error. -/
  | complaint (text : String)
deriving DecidableEq, Repr

namespace Reply

/-- The answer that was found, or the fault that prevented it. -/
def ofResult : Except Fault String → Reply
  | .ok text => answer text
  | .error fault => complaint s!"Error: {fault.message}"

/-- What the reply writes to standard output. -/
def out : Reply → String
  | answer text => text ++ "\n"
  | _ => ""

/-- What the reply writes to standard error. -/
def err : Reply → String
  | complaint text => text ++ "\n"
  | _ => ""

end Reply

/-- What a line that starts with a colon asks for. -/
inductive Command where
  | enter (entry : Entry)
  | require (strictness : Infix.Strictness)
  | convert (text : String)
  | help
  | unknown (name : String)
deriving DecidableEq, Repr

/-- The command of a line: its name goes to the first space, and the text behind that space is
what it is about. -/
def Command.ofText (line : List Char) : Command :=
  let name := String.ofList (line.takeWhile (· ≠ ' '))
  let rest := String.ofList ((line.dropWhile (· ≠ ' ')).drop 1)
  match name with
  | ":infix" => enter .algebraic
  | ":postfix" => enter .rpn
  | ":strict" => require .strict
  | ":lenient" => require .lenient
  | ":rpn" => convert rest
  | ":help" => help
  | name => unknown name

def Command.summary : String :=
  "\n".intercalate
    [":infix | :postfix    switch notation",
      ":strict | :lenient   require parentheses in infix or not",
      ":rpn EXPR            show the postfix form of an infix expression"]

namespace Mode

def obey (mode : Mode) : Command → Mode × Reply
  | .enter entry => ({ mode with entry }, .silent)
  | .require strictness => ({ mode with strictness }, .silent)
  | .convert text => (mode, .ofResult (mode.toPostfix text))
  | .help => (mode, .answer Command.summary)
  | .unknown name => (mode, .complaint s!"Unknown command {name}, try :help")

/-- Answers a line.  The blanks at its ends do not matter. -/
def answer (mode : Mode) (line : String) : Mode × Reply :=
  match Text.trim line.toList with
  | [] => (mode, .silent)
  | ':' :: rest => mode.obey (Command.ofText (':' :: rest))
  | text => (mode, .ofResult ((mode.evaluate (String.ofList text)).map toString))

/-- Answers the lines of a session one after the other. -/
def converse (mode : Mode) : List String → List Reply
  | [] => []
  | line :: rest =>
    match mode.answer line with
    | (mode', reply) => reply :: converse mode' rest

end Mode

end Calculator
