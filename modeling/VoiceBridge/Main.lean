import VoiceBridge.Probe.FreshId
import VoiceBridge.Probe.Program

/-!
# The command line program

Reads the arguments, the environment and the files they name, and runs the probe. The program has no
network of its own, so no far end is within its reach.
-/

namespace VoiceBridge

/-- The variables that the program looks at. -/
def watchedVariables : List String :=
  [CommandLine.hostVariable, CommandLine.keyVariable, ServiceConfig.keepaliveVariable,
    ServiceConfig.pongVariable, ServiceConfig.closeVariable, ServiceConfig.connectVariable,
    ServiceConfig.logVariable]

/-- The bytes of a file, if it can be read. -/
def readFile? (path : String) : IO (Option Bytes) := do
  try
    let bytes ← IO.FS.readBinFile path
    return some bytes.data.toList
  catch _ => return none

/-- What the program finds around it. -/
def lookAround (args : List String) : IO Surroundings := do
  let values ← watchedVariables.mapM fun name => do return (name, ← IO.getEnv name)
  let lookup (name : String) : Option String := (values.lookup name).join
  let paths := match CommandLine.parse lookup args with
    | .ok c => c.files
    | .error _ => []
  let files ← paths.mapM fun path => do return (path, ← readFile? path)
  let freshId := FreshId.ofBytes (← IO.getRandomBytes 16).data.toList
  let key := Base64.encode (← IO.getRandomBytes 16).data.toList
  return {
    lookup
    file := fun path => (files.lookup path).join
    freshId
    dial := fun c => Web.Socket.dial c key (fun _ _ => false) {} }

end VoiceBridge

def main (args : List String) : IO UInt32 := do
  let exit := ((← VoiceBridge.lookAround args).run args).exit
  (← IO.getStdout).putStr exit.out
  (← IO.getStderr).putStr exit.err
  return UInt32.ofNat exit.code
