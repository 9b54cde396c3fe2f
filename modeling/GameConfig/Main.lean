import GameConfig.Command.Run

/-!
# The program

Reads what a command line may need and writes what its run gives.
-/

namespace GameConfig

open Command

def requestedPath? (arguments : List String) : Option String :=
  match Request.ofArguments? arguments with
  | some (.query _ (.file path) _) => some path
  | some (.eval _ (some path) _) => some path
  | _ => none

def readsStandardInput (arguments : List String) : Bool :=
  match Request.ofArguments? arguments with
  | some (.query _ .standard _) => true
  | _ => false

def readFile? (path : String) : IO (Option ByteArray) := do
  try
    let bytes ← IO.FS.readBinFile path
    pure (some bytes)
  catch _ => pure none

def surroundings (arguments : List String) : IO Surroundings := do
  let content? ←
    match requestedPath? arguments with
    | some path => readFile? path
    | none => pure none
  let standardInput ←
    if readsStandardInput arguments then do
      let stdin ← IO.getStdin
      stdin.readBinToEnd
    else pure ByteArray.empty
  pure ⟨fun _ => content?, standardInput⟩

end GameConfig

def main (arguments : List String) : IO UInt32 := do
  let surroundings ← GameConfig.surroundings arguments
  let outcome := GameConfig.Command.run surroundings arguments
  IO.print outcome.output
  IO.eprint outcome.errors
  pure outcome.code
