import Parsing.Calculator.Session
/-!
# The calculator as a program

Reads lines from standard input and answers each on standard output, as `Parsing.Calculator.Session` says.
-/
namespace Parsing.Calculator

/-- Answers lines up to the end of input or the line that asks to leave. -/
partial def converse (input output : IO.FS.Stream) : IO Unit := do
  output.putStr (String.ofList prompt)
  output.flush
  let received ← input.getLine
  for line in lines received.toList do
    if line != farewell then
      output.putStr (String.ofList (reply line))
      converse input output

end Parsing.Calculator

def main : IO Unit := do
  let output ← IO.getStdout
  output.putStr (String.ofList Parsing.Calculator.greeting)
  Parsing.Calculator.converse (← IO.getStdin) output
