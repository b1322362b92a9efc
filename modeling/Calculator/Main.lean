/-
The program: answers its arguments, or the lines of its standard input one by one.
-/
import Calculator.CommandLine.Response

namespace Calculator

/-- Answers lines one after the other. -/
def answerLines (output errors : IO.FS.Stream) (mode : Mode) : List (List Char) → IO Mode
  | [] => return mode
  | line :: rest => do
    let (mode', reply) := mode.answer (String.ofList line)
    output.putStr reply.out
    output.flush
    errors.putStr reply.err
    answerLines output errors mode' rest

/-- Answers the lines of the input until it ends. -/
partial def converseOn (input output errors : IO.FS.Stream) (mode : Mode) : IO Unit := do
  let line ← input.getLine
  unless line.isEmpty do
    converseOn input output errors
      (← answerLines output errors mode (Text.typedLines line.toList))

end Calculator

/-- Runs the program on its arguments. -/
def main (arguments : List String) : IO UInt32 := do
  match Calculator.Invocation.ofArguments arguments with
  | .prompt mode =>
    Calculator.converseOn (← IO.getStdin) (← IO.getStdout) (← IO.getStderr) mode
    return 0
  | invocation =>
    let response := Calculator.Response.ofInvocation "" invocation
    IO.print response.out
    IO.eprint response.err
    return UInt32.ofNat response.exitCode
