import VoiceBridge.Text.Decimal

/-!
# The command line of the probe

Options are given by name, each at most once. An option takes its value from behind an equals sign
or from the next argument, and a value is looked at only when the next option is met or the
arguments end. Two options can also be given in the environment.
-/

namespace VoiceBridge

/-- Why a command line is not obeyed. -/
inductive UsageError where
  /-- The user asks for help. -/
  | help
  /-- The user asks for the version. -/
  | version
  | unknownArgument
  /-- A value is missing or empty. -/
  | noValue
  /-- A value is not of the kind it should be. -/
  | badValue
  /-- A switch is given a value. -/
  | needlessValue
  /-- Options exclude each other, or one is given twice. -/
  | conflict
  /-- A required option is missing. -/
  | missing
  deriving Repr, DecidableEq

/-- An option without a value. -/
inductive CliSwitch where
  | tls
  | bidirectional
  | noStartMessage
  | help
  | version
  deriving Repr, DecidableEq

/-- An option with a value. -/
inductive CliField where
  | host
  | port
  | path
  | input
  | sampleRate
  | channels
  | frameMillis
  | config
  | bearer
  | basicUser
  | basicPassword
  | sessionId
  | waitSecs
  deriving Repr, DecidableEq

/-- What can be given. -/
inductive CliOption where
  | switch (s : CliSwitch)
  | field (f : CliField)
  deriving Repr, DecidableEq

/-- The names of the options. -/
def CliOption.names : List (String × CliOption) :=
  [("host", .field .host), ("port", .field .port), ("path", .field .path), ("tls", .switch .tls),
    ("input", .field .input), ("sample-rate", .field .sampleRate),
    ("channels", .field .channels), ("frame-ms", .field .frameMillis),
    ("config", .field .config), ("bearer", .field .bearer), ("basic-user", .field .basicUser),
    ("basic-password", .field .basicPassword), ("bidirectional", .switch .bidirectional),
    ("no-start-message", .switch .noStartMessage), ("session-id", .field .sessionId),
    ("wait-secs", .field .waitSecs), ("help", .switch .help), ("version", .switch .version)]

/-- The switches that also have a letter. -/
def CliSwitch.ofLetter? : Char → Option CliSwitch
  | 'h' => some .help
  | 'V' => some .version
  | _ => none

/-- What a value has to be. -/
inductive ValueForm where
  | text
  | path
  /-- A number below a bound. Where it is read as a signed one, minus zero is zero. -/
  | number (bound : Nat) (signed : Bool)
  deriving Repr, DecidableEq

def CliField.form : CliField → ValueForm
  | host | path | bearer | basicUser | basicPassword | sessionId => .text
  | input | config => .path
  | port | channels => .number (Nat.pow 2 16) true
  | sampleRate | frameMillis => .number (Nat.pow 2 32) true
  | waitSecs => .number (Nat.pow 2 64) false

/-- A value that was looked at. -/
inductive FieldValue where
  | text (s : String)
  | number (n : Nat)
  deriving Repr, DecidableEq

/-- The number that a text stands for. -/
def ValueForm.number? (bound : Nat) (signed : Bool) : List Char → Option Nat
  | '-' :: digits => if signed then (Decimal.value? digits).filter (· = 0) else none
  | s => Decimal.below? bound s

def ValueForm.read (form : ValueForm) (s : String) : Except UsageError FieldValue :=
  match form with
  | .text => .ok (.text s)
  | .path => if s.isEmpty then .error .noValue else .ok (.text s)
  | .number bound signed =>
    match number? bound signed s.toList with
    | some n => .ok (.number n)
    | none => .error .badValue

/-- What the arguments so far give. -/
structure GivenOptions where
  switches : List CliSwitch := []
  fields : List (CliField × FieldValue) := []
  /-- An option whose value was not looked at yet, or is still to come. -/
  pending : Option (CliField × Option String) := none
  deriving Repr, DecidableEq

namespace GivenOptions

/-- The value of a field. -/
def value? (g : GivenOptions) (f : CliField) : Option FieldValue := g.fields.lookup f

def text? (g : GivenOptions) (f : CliField) : Option String :=
  match g.value? f with
  | some (.text s) => some s
  | _ => none

def number? (g : GivenOptions) (f : CliField) : Option Nat :=
  match g.value? f with
  | some (.number n) => some n
  | _ => none

/-- Set a field, which must not be set already. -/
def set (g : GivenOptions) (f : CliField) (s : String) : Except UsageError GivenOptions :=
  if (g.value? f).isSome then .error .conflict
  else
    match f.form.read s with
    | .ok v => .ok { g with fields := g.fields ++ [(f, v)] }
    | .error e => .error e

/-- Look at the value that is pending. -/
def resolve (g : GivenOptions) : Except UsageError GivenOptions :=
  match g.pending with
  | none => .ok g
  | some (_, none) => .error .noValue
  | some (f, some s) => { g with pending := none }.set f s

/-- Take a switch. -/
def takeSwitch (g : GivenOptions) (s : CliSwitch) : Except UsageError GivenOptions := do
  let g ← g.resolve
  if s = .help then .error .help
  else if s = .version then .error .version
  else if s ∈ g.switches then .error .conflict
  else .ok { g with switches := s :: g.switches }

/-- Take an option by its name, with the value behind an equals sign. -/
def takeNamed (g : GivenOptions) (name : String) (attached : Option String) :
    Except UsageError GivenOptions :=
  match CliOption.names.lookup name, attached with
  | none, _ => .error .unknownArgument
  | some (.switch _), some _ => .error .needlessValue
  | some (.switch s), none => g.takeSwitch s
  | some (.field f), some s => do (← g.resolve).set f s
  | some (.field f), none => do return { ← g.resolve with pending := some (f, none) }

/-- Take an argument that is no option. -/
def takePlain (g : GivenOptions) (s : String) : Except UsageError GivenOptions :=
  match g.pending with
  | some (f, none) => .ok { g with pending := some (f, some s) }
  | _ => .error .unknownArgument

/-- The name and the attached value of an argument behind two hyphens. -/
def splitNamed (s : List Char) : String × Option String :=
  let name := String.ofList (s.takeWhile (· != '='))
  match s.dropWhile (· != '=') with
  | _ :: value => (name, some (String.ofList value))
  | [] => (name, none)

/-- Take one argument. -/
def take (g : GivenOptions) (arg : String) : Except UsageError GivenOptions :=
  match arg.toList with
  | '-' :: '-' :: s => g.takeNamed (splitNamed s).1 (splitNamed s).2
  | '-' :: letter :: _ =>
    match CliSwitch.ofLetter? letter with
    | some s => g.takeSwitch s
    | none => .error .unknownArgument
  | _ => g.takePlain arg

/-- Take all arguments. Behind two hyphens that stand alone no argument is known. -/
def takeAll (g : GivenOptions) : List String → Except UsageError GivenOptions
  | [] => g.resolve
  | "--" :: rest => if rest.isEmpty then g.resolve else .error .unknownArgument
  | arg :: rest => do takeAll (← g.take arg) rest

/-- Take a field from the environment, unless it was given. -/
def orVariable (g : GivenOptions) (f : CliField) (value : Option String) :
    Except UsageError GivenOptions :=
  match g.value? f, value with
  | none, some s => g.set f s
  | _, _ => .ok g

/-- Some options exclude or require others. -/
def check (g : GivenOptions) : Except UsageError Unit :=
  let has (f : CliField) := (g.value? f).isSome
  if has .bearer && has .basicUser then .error .conflict
  else if !has .input || (has .basicUser && !has .basicPassword)
      || (has .basicPassword && !has .basicUser && !has .bearer) then .error .missing
  else .ok ()

end GivenOptions

/-- A command line. -/
structure CommandLine where
  host : Option String := none
  port : Option Nat := none
  path : Option String := none
  useTls : Bool := false
  input : String
  sampleRate : Option Nat := none
  channels : Option Nat := none
  frameMillis : Option Nat := none
  config : Option String := none
  bearer : Option String := none
  basicUser : Option String := none
  basicPassword : Option String := none
  bidirectional : Bool := false
  sendStart : Bool := true
  sessionId : Option String := none
  waitSecs : Nat := 10
  deriving Repr, DecidableEq

namespace CommandLine

def hostVariable : String := "AUDIO_FORK_PROBE_HOST"
def keyVariable : String := "AUDIO_FORK_PROBE_API_KEY"

def ofGiven (g : GivenOptions) : CommandLine where
  host := g.text? .host
  port := g.number? .port
  path := g.text? .path
  useTls := g.switches.contains .tls
  input := (g.text? .input).getD ""
  sampleRate := g.number? .sampleRate
  channels := g.number? .channels
  frameMillis := g.number? .frameMillis
  config := g.text? .config
  bearer := g.text? .bearer
  basicUser := g.text? .basicUser
  basicPassword := g.text? .basicPassword
  bidirectional := g.switches.contains .bidirectional
  sendStart := !g.switches.contains .noStartMessage
  sessionId := g.text? .sessionId
  waitSecs := (g.number? .waitSecs).getD 10

/-- Read arguments, with the environment behind them. -/
def parse (lookup : String → Option String) (args : List String) :
    Except UsageError CommandLine := do
  let g ← ({} : GivenOptions).takeAll args
  let g ← g.orVariable .host (lookup hostVariable)
  let g ← g.orVariable .bearer (lookup keyVariable)
  g.check
  return ofGiven g

/-- The files that a command line names. -/
def files (c : CommandLine) : List String := c.input :: c.config.toList

end CommandLine

end VoiceBridge
