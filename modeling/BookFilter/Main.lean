import BookFilter.Command

/-! # The program -/

open BookFilter

/-- Answers a request on standard input, or does what the arguments ask for. -/
def main (arguments : List String) : IO UInt32 := do
  let stdin ←
    if Command.readsStdin arguments then (← IO.getStdin).readBinToEnd else pure ByteArray.empty
  let response := Command.respond arguments stdin
  (← IO.getStdout).putStr response.stdout
  (← IO.getStderr).putStr response.stderr
  return response.code
