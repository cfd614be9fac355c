import IntervalRegex.Command.Program

/-!
# Command line
-/

def main (args : List String) : IO UInt32 := do
  let stdout ← IO.getStdout
  let color := (← stdout.isTty) && (← IO.getEnv "NO_COLOR").isNone
  let setting ← IO.getEnv "RUST_LOG"
  let input ←
    if IntervalRegex.Program.readsInput args then (← IO.getStdin).readBinToEnd
    else pure ByteArray.empty
  let result := IntervalRegex.Program.ofArguments setting color args input.toList
  stdout.putStr result.output
  (← IO.getStderr).putStr result.error
  return UInt32.ofNat result.exit
