/-
What a run of the program leaves behind.

* `Response.ofInvocation` — the texts and the exit code for what was asked;
* `Response.ofArguments` — the same for a command line.

Design notes.  The text on standard input is a parameter: only a session at the prompt looks at
it, line by line, after the backspaces in a line have done their work.
-/
import Calculator.CommandLine.Invocation
import Calculator.Text.Backspace

namespace Calculator

/-- What a run of the program leaves behind. -/
structure Response where
  /-- Zero if all went well, one if an expression has no value, two if the arguments make no
  sense. -/
  exitCode : Nat
  /-- The text on standard output. -/
  out : String
  /-- The text on standard error. -/
  err : String
deriving DecidableEq, Repr

namespace Response

/-- A successful run. -/
def success (out : String) : Response := { exitCode := 0, out, err := "" }

/-- The response to the only expression of a run. -/
def ofResult : Except Fault String → Response
  | .ok text => success (text ++ "\n")
  | .error fault => { exitCode := 1, out := "", err := s!"Error: {fault.message}\n" }

/-- The response that collects the replies of a session. -/
def ofReplies (replies : List Reply) : Response where
  exitCode := 0
  out := String.join (replies.map Reply.out)
  err := String.join (replies.map Reply.err)

/-- The version of the program. -/
def version : String := "intcalc 0.1.0\n"

/-- How the program is used. -/
def usage : String :=
  "\n".intercalate
    ["Evaluate integer infix and postfix (RPN) expressions",
      "",
      "Usage: intcalc [OPTIONS] [EXPRESSION]...",
      "",
      "Arguments:",
      "  [EXPRESSION]...  ",
      "",
      "Options:",
      "  -p, --postfix  Read expressions in postfix notation, eg: \"4 2 + 3 *\"",
      "  -s, --strict   Reject infix expressions that contain no parentheses",
      "  -r, --rpn      Print the postfix form of an infix expression instead of its value",
      "      --demo     Evaluate a few sample expressions and exit",
      "  -h, --help     Print help",
      "  -V, --version  Print version",
      ""]

/-- The sample expressions with their notations. -/
def samples : List (String × Entry) :=
  [("( 4 + 2 ) * 3", .algebraic), ("50+(3*7)", .algebraic), ("3+4*2", .algebraic),
   ("4 2 + 3 *", .rpn)]

/-- The reply to the sample expression of a number. -/
def sampleReply (number : Nat) (expression : String) (entry : Entry) : Reply :=
  match Mode.evaluate { entry, strictness := .lenient } expression with
  | .ok value => .answer s!"Result {number}: {expression} = {value}"
  | .error fault => .complaint s!"Result {number}: {expression}: {fault.message}"

/-- The response to an invocation, with the given text on standard input. -/
def ofInvocation (input : String) : Invocation → Response
  | .misuse => { exitCode := 2, out := "", err := "error: unusable arguments\n" }
  | .help => success usage
  | .version => success version
  | .demo => ofReplies (samples.mapIdx fun i sample => sampleReply (i + 1) sample.1 sample.2)
  | .prompt mode => ofReplies (mode.converse ((Text.typedLines input.toList).map String.ofList))
  | .evaluate mode expression =>
    ofResult ((mode.evaluate expression).map fun value => s!"{expression} = {value}")
  | .convert mode expression => ofResult (mode.toPostfix expression)

/-- The response to a command line, with the given text on standard input. -/
def ofArguments (arguments : List String) (input : String) : Response :=
  ofInvocation input (Invocation.ofArguments arguments)

end Response

end Calculator
