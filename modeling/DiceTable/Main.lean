import DiceTable.Command.Run

/-! # The program

Runs the command line with random words of the operating system, on a network on which nothing
answers: a server to start is announced, and a running one is not found.
-/

namespace DiceTable

def helpText : String :=
  String.join (List.map (· ++ "\n")
    ["usage: rollbox [-h] [--version] <command> ...",
      "",
      "RollBox — dice notation engine and roll service.",
      "",
      "  roll, r                   Evaluate a dice expression",
      "  serve, dial, start, up    Start the RollBox HTTP service",
      "  ring, status, ping        Ping a running RollBox instance",
      "  flash, info, config       Show the effective configuration",
      "  tone, banner              Print the RollBox banner",
      "",
      "Arithmetic: 3d6+2, 1d8!!-1, 2d6*3-4 (no parentheses).",
      "Percentile tests: d100w50, 3d100w45+10."])

/-- The number of bytes that a run may spend on random words. -/
def entropyBytes : Nat := 65536

/-- Bytes as random words, eight to the word; what is left at the end is dropped. -/
def wordsOfBytes : List UInt8 → List Nat
  | a :: b :: c :: d :: e :: f :: g :: h :: rest =>
    [a, b, c, d, e, f, g, h].foldl (fun n byte => n * 256 + byte.toNat) 0 :: wordsOfBytes rest
  | _ => []

def exitCode : Command.Ending → Nat
  | .done code | .exited code => code
  | .broken _ => 1

end DiceTable

def main (arguments : List String) : IO UInt32 := do
  let bytes ← IO.getRandomBytes DiceTable.entropyBytes.toUSize
  let run := DiceTable.Command.run DiceTable.Settings.defaults
    (DiceTable.wordsOfBytes bytes.toList) DiceTable.entropySource { outage := some .connect }
    DiceTable.helpText arguments
  IO.print run.stdout
  IO.eprint run.stderr
  match run.ending with
  | .exited 2 => IO.eprint DiceTable.helpText
  | .broken (.failure failure) => IO.eprintln failure.message
  | .broken (.config error) => IO.eprintln error.message
  | _ => pure ()
  return (DiceTable.exitCode run.ending).toUInt32
