import Parley.App

/-! # The command

Gathers what a run depends on, runs the program and writes what comes of it. There is no network
here, so that no server can be reached.
-/

namespace Parley

def fileBytes? (path : String) : IO (Option (List UInt8)) := do
  try
    return some (← IO.FS.readBinFile path).toList
  catch _ => return none

def configFile? (argv : List String) : IO (Option (String × List UInt8)) := do
  match Arguments.parse argv with
  | .ok ({ config := some path, .. }, _) => return (← fileBytes? path).map (path, ·)
  | _ => return none

partial def allBytes (stream : IO.FS.Stream) : IO (List UInt8) := do
  let bytes ← stream.read 65536
  if bytes.isEmpty then return []
  return bytes.toList ++ (← allBytes stream)

end Parley

open Parley in
def main (argv : List String) : IO UInt32 := do
  let file ← configFile? argv
  let run := Run.ofArguments argv {
    key := ← IO.getEnv Provider.Client.keyVariable
    files := fun path => (file.filter (·.1 = path)).map (·.2)
    input := ← allBytes (← IO.getStdin)
    showsPrompt := (← IO.getEnv "TERM") == some "dumb" }
  (← IO.getStdout).putStr run.output
  if run.report ≠ "" then (← IO.getStderr).putStrLn run.report
  return run.exitCode.toUInt32
