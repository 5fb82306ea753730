import VoiceBridge.Probe.Run
import VoiceBridge.Web.Socket

/-!
# The probe as a program

The program reads its arguments, the settings file and the environment, in this order, and then runs
over a socket. `ProbeReport.exit` is what it leaves behind: text on its two outputs and a code.
-/

namespace VoiceBridge

/-- What a program finds around it. -/
structure Surroundings where
  /-- The variables of the environment. -/
  lookup : String → Option String
  /-- The bytes of a file, if it is there. -/
  file : String → Option Bytes
  /-- A name for a session that was given none. -/
  freshId : String
  /-- Open a socket. -/
  dial : ConnectionConfig → Web.Opening

inductive ProgramError where
  | usage (e : UsageError)
  | file (e : SettingsFileError)
  | settings (e : SettingsError)
  | service (e : ConfigError)
  | run (e : RunError)
  deriving Repr, DecidableEq

namespace ProgramError

def message : ProgramError → String
  | usage _ => "usage"
  | file e => e.message
  | settings e => e.message
  | service e => e.message
  | run e => e.message

/-- What lies behind it, if there is more to say. -/
def cause? : ProgramError → Option String
  | usage _ | service _ => none
  | file e => e.cause?
  | settings e => e.cause?
  | run e => e.cause?

/-- The error with what lies behind it on one line. -/
def line (e : ProgramError) : String :=
  match e.cause? with
  | none => e.message
  | some cause => e.message ++ ": " ++ cause

/-- The error as the program reports it at its end. -/
def report (e : ProgramError) : String :=
  match e.cause? with
  | none => "Error: " ++ e.message ++ "\n"
  | some cause => "Error: " ++ e.message ++ "\n\nCaused by:\n    " ++ cause ++ "\n"

end ProgramError

namespace Web

/-- A socket as a far end. Without one nothing comes back. -/
def Socket.behaviour : FarEndBehaviour (Option Socket)
  | none, _ => ([], none)
  | some s, frames =>
    let (arrivals, s) := (s.sendAll frames).2.drain
    (arrivals, some s)

/-- What the opening of a socket means for the bridge. -/
def Opening.network (o : Opening) : Network :=
  let standard : Network := { autoPong := false, echoClose := false }
  match o.result with
  | .ok _ => standard
  | .error (.invalidRequest reason) => { standard with faults := { invalid := some reason } }
  | .error (.connect _ reason) => { standard with refusal := some reason }
  | .error e => { standard with refusal := some e.message }

end Web

/-- What became of a program. -/
structure ProbeReport where
  result : Except ProgramError TerminalOutcome
  /-- The final state of the connection. -/
  state : ConnectionState := .idle
  journal : Journal := {}
  /-- The upgrade request, if one was sent. -/
  request : Option Web.Request := none
  /-- The socket, if one was opened. -/
  socket : Option Web.Socket := none

/-- The result of running the program, and its output. -/
structure Exit where
  code : Nat
  out : String := ""
  err : String := ""
  deriving Repr, DecidableEq

def programName : String := "audio-fork-probe"

def programVersion : String := "0.1.0"

/-- A short description of the command line. -/
def usageText : String :=
  let option := fun o : String × CliOption =>
    match o.2 with
    | .switch _ => " [--" ++ o.1 ++ "]"
    | .field .input => " --" ++ o.1 ++ " <value>"
    | .field _ => " [--" ++ o.1 ++ " <value>]"
  "Usage: " ++ programName ++ String.join (CliOption.names.map option) ++ "\n"

/-- How a program ends whose command line is not obeyed. -/
def UsageError.exit : UsageError → Exit
  | help => { code := 0, out := usageText }
  | version => { code := 0, out := programName ++ " " ++ programVersion ++ "\n" }
  | _ => { code := 2, err := usageText }

def ProbeReport.exit (r : ProbeReport) : Exit :=
  match r.result with
  | .error (.usage e) => e.exit
  | .error e => { code := 1, out := r.journal.output, err := e.report }
  | .ok .closedGracefully => { code := 0, out := r.journal.output }
  | .ok outcome =>
    { code := 1, out := r.journal.output, err := "Error: connection " ++ outcome.text ++ "\n" }

namespace Surroundings

/-- The settings file that a command line names. -/
def settingsFile (w : Surroundings) (c : CommandLine) : Except SettingsFileError SettingsFile :=
  match c.config with
  | some path => SettingsFile.load path (w.file path)
  | none => .ok {}

/-- Everything that has to be known before the probe runs. -/
def prepare (w : Surroundings) (args : List String) :
    Except ProgramError (ProbeSettings × ServiceConfig) := do
  let c ← (CommandLine.parse w.lookup args).mapError .usage
  let file ← (w.settingsFile c).mapError .file
  let settings ← (c.settings file w.freshId).mapError .settings
  let service ← (ServiceConfig.fromLookup w.lookup).mapError .service
  return (settings, service)

/-- Run the probe on a bridge of its own, which is shut down at the end. -/
def runOver (w : Surroundings) (settings : ProbeSettings) (service : ServiceConfig) :
    ProbeReport :=
  let opening := w.dial settings.connection
  let id := settings.connection.sessionId
  let bridge : Bridge := { config := service, network := opening.network }
  match bridge.create id settings.connection none with
  | .error e => { result := .error (.run (.refused e)) }
  | .ok bridge =>
    let run : ProbeRun (Option Web.Socket) := { bridge, id, far := opening.result.toOption }
    let (result, run) :=
      run.run Web.Socket.behaviour settings service (w.file settings.input)
    let run := { run with bridge := run.bridge.shutdown }.answered Web.Socket.behaviour
    let asked := run.connection?.any fun c => c.phase != .absent
    { result := result.mapError .run
      state := (run.connection?.map (·.state)).getD .idle
      journal := run.journal
      request := if asked then opening.request else none
      socket := run.far }

/-- Run the program. -/
def run (w : Surroundings) (args : List String) : ProbeReport :=
  match w.prepare args with
  | .error e => { result := .error e }
  | .ok (settings, service) => w.runOver settings service

end Surroundings

end VoiceBridge
