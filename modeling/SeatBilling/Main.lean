import SeatBilling.Console.Script

/-!
# The command line

The program reads one scenario per line from standard input and writes the scenario's answer
as one line to standard output, flushed, until the input ends. Blank lines are skipped. All
the work is `Console.runLine`; this layer only moves lines.
-/

namespace SeatBilling

/-- Answers every line of `input` on `output` until the input ends. -/
partial def answerLines (input output : IO.FS.Stream) : IO Unit := do
  let line ← input.getLine
  if line.isEmpty then return
  let script := String.ofList (line.toList.reverse.dropWhile Char.isWhitespace).reverse
  if !script.isEmpty then
    output.putStrLn (Console.runLine script)
    output.flush
  answerLines input output

end SeatBilling

/-- Runs the console over standard input and output. -/
def main : IO Unit := do
  SeatBilling.answerLines (← IO.getStdin) (← IO.getStdout)
