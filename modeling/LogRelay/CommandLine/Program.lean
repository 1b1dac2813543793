import LogRelay.Collector.Exchange
import LogRelay.CommandLine.Arguments
import LogRelay.CommandLine.Files
import LogRelay.Config.Load
import LogRelay.Session.Report
import LogRelay.Session.Timeline

/-!
# The program

A run of the program from its arguments to its exit code.  What the program
meets outside is given: files, pipes, the collector, chance and time.
-/

namespace LogRelay

/-- What a call of the sink comes to: how long it takes, and the error with which it fails
if it does. -/
structure SinkCall where
  delayMs : Nat
  failure? : Option Error

def SinkCall.step (call : SinkCall) : SinkStep :=
  ⟨call.delayMs, (call.failure?.map Reply.refused).getD .accepted, 1⟩

/-- What the program meets outside of itself. -/
structure Surroundings where
  files : Files
  /-- The collector behind a socket of that name. -/
  collector : String → Collector
  /-- The calls of a sink that reaches its collector.  Those that follow succeed at once. -/
  calls : Source → List SinkCall
  /-- When the program is told to stop, if it is. -/
  stopAt : Option Nat
  host : String
  runIds : Source → Nat → String
  draws : Nat → Nat
  timeOfDay : Nat → Timestamp

/-- Why a run stops early. -/
inductive Breakdown where
  | error (error : Error)
  | crash
  deriving DecidableEq, Repr

namespace Program

def name : String := "shim-logger"

def version : String := "0.1.0"

/-! ## Settings -/

/-- What the command line gives takes the place of what stands in the file. -/
def override (arguments : Arguments) (config : Config) : Config :=
  let given (switch : Switch) (value : String) : String := (arguments.value? switch).getD value
  { config with
    container :=
      { id := given .containerId config.container.id
        name := given .containerName config.container.name }
    pipeline :=
      { config.pipeline with
        mode := ((arguments.value? .mode).bind Mode.ofName?).getD config.pipeline.mode
        maxBufferSize := given .maxBufferSize config.pipeline.maxBufferSize
        cleanupTime := given .cleanupTime config.pipeline.cleanupTime }
    sink := { config.sink with socketPath := given .socket config.sink.socketPath } }

/-- The settings of the file or the standard ones, completed and valid. -/
def configure (files : Files) (arguments : Arguments) : Except ConfigFault Config := do
  let config ←
    match arguments.value? .config with
    | some path => Config.load (files.read path)
    | none => .ok Config.standard
  let config := override arguments config
  config.validate
  return config

def identity (surroundings : Surroundings) (config : Config) : Identity :=
  ⟨config.container.id, config.container.name, surroundings.host⟩

def linkSettings (surroundings : Surroundings) (config : Config) : LinkSettings :=
  LinkSettings.withTimeout config.sink.socketPath (identity surroundings config)
    config.sink.timeoutSeconds

/-- If the collector is not reached, every call fails. -/
def sink (settings : LinkSettings) (collector : Collector) (calls : Source → List SinkCall) :
    SinkBehaviour :=
  match collector.connect with
  | (.connectFailed failure, _) =>
    let refusal : SinkStep := ⟨0, .refused (settings.connectError failure), UInt64.size⟩
    ⟨[refusal], [refusal]⟩
  | _ => ⟨(calls .stdout).map SinkCall.step, (calls .stderr).map SinkCall.step⟩

def plan (surroundings : Surroundings) (arguments : Arguments) (options : SessionOptions)
    (cleanup : Duration) : Plan where
  options := options
  cleanup := cleanup
  readyError := (arguments.value? .readyFile).bind fun path =>
    (surroundings.files.writeFailure? path).map Error.io
  runIds := surroundings.runIds
  draws := surroundings.draws
  timeOfDay := surroundings.timeOfDay

/-! ## Running -/

/-- A part of a run, which leaves lines in the log and may break down. -/
abbrev Stage := ExceptT Breakdown (StateM (List LogLine))

def say (severity : Severity) (text : String) : Stage Unit :=
  modify (· ++ [(severity, text)])

def checked {α : Type} (result : Except ConfigFault α) : Stage α :=
  match result with
  | .ok value => pure value
  | .error fault => throw (if fault.isCrash then .crash else .error fault.toError)

def openPipe (surroundings : Surroundings) (arguments : Arguments) (options : SessionOptions)
    (switch : Switch) : Stage (Option PipeScript) :=
  match arguments.value? switch with
  | none => pure none
  | some path =>
    match surroundings.files.openPipe path options.readLimit with
    | .error failure => throw (.error (.io failure))
    | .ok pipe => do
      say .info ("Opened pipe " ++ path)
      return some pipe

def containerLine (settings : ContainerSettings) : String :=
  "Container: " ++ settings.name ++ " (" ++ settings.id ++ ")"

def optionsLine (options : SessionOptions) : String :=
  "Mode: " ++ options.mode.name ++ ", max buffer size: " ++ toString options.maxBufferSize ++
    " bytes"

/-- A session that can be started, and the container whose messages it reads. -/
structure Prepared where
  identity : Identity
  plan : Plan
  stdout : Option PipeScript
  stderr : Option PipeScript
  sink : SinkBehaviour

def Prepared.start (prepared : Prepared) : Session :=
  Session.create prepared.plan prepared.stdout prepared.stderr prepared.sink

def greet (arguments : Arguments) : Stage Unit := do
  say .info ("Starting " ++ name ++ " v" ++ version)
  if (arguments.value? .config).isNone then say .info "No config file given, using defaults"

/-- Everything up to the start of the session. -/
def prepare (surroundings : Surroundings) (arguments : Arguments) : Stage Prepared := do
  greet arguments
  let config ← checked (configure surroundings.files arguments)
  let options ← checked config.sessionOptions
  let cleanup ← checked config.cleanup
  say .info "Configuration loaded successfully"
  say .info (containerLine config.container)
  let stdout ← openPipe surroundings arguments options .stdoutPipe
  let stderr ← openPipe surroundings arguments options .stderrPipe
  let settings := linkSettings surroundings config
  say .info ("Collector socket: " ++ settings.path)
  say .info (optionsLine options)
  return {
    identity := settings.identity
    plan := plan surroundings arguments options cleanup
    stdout := stdout
    stderr := stderr
    sink := sink settings (surroundings.collector settings.path) surroundings.calls }

/-- A session that is over, the container whose messages it has read, and the
ready file with its content if it has been written. -/
structure Logged where
  identity : Identity
  session : Session
  readyFile : Option (String × Bytes)

/-- The ready file is written when the session is ready, unless it cannot be. -/
def readyFile? (arguments : Arguments) (plan : Plan) (session : Session) :
    Option (String × Bytes) :=
  match arguments.value? .readyFile, plan.readyError with
  | some path, none => if session.readyCalled then some (path, Utf8.encode "ready") else none
  | _, _ => none

/-- What a run has come to, before the program exits with it. -/
structure Performance where
  result : Except Breakdown Unit
  lines : List LogLine
  /-- The session, if there has been one. -/
  logged : Option Logged

/-- A run whose session has come that far and goes no further. -/
def Prepared.conclude (prepared : Prepared) (arguments : Arguments) (lines : List LogLine)
    (session : Session) : Performance where
  result :=
    match session.verdict with
    | .finished => .ok ()
    | .failed error => .error (.error error)
    | .crashed | .unfinished => .error .crash
  lines := lines ++ session.logLines
  logged := some ⟨prepared.identity, session, readyFile? arguments prepared.plan session⟩

/-- Later than any session ends. -/
def horizon : Nat := powerOfTwo 128

def perform (surroundings : Surroundings) (arguments : Arguments) : Performance :=
  match (prepare surroundings arguments).run.run [] with
  | (.error breakdown, lines) => ⟨.error breakdown, lines, none⟩
  | (.ok prepared, lines) =>
    prepared.conclude arguments lines
      (SessionTimeline.run prepared.plan horizon surroundings.stopAt prepared.start)

/-- How a run ended and what it leaves behind. -/
structure Outcome where
  exitCode : Nat
  lines : List LogLine
  /-- The session, if there has been one. -/
  logged : Option Logged

namespace Outcome

/-- A failure of logging alone is no failure of the program. -/
def ofError (lines : List LogLine) (logged : Option Logged) (error : Error) : Outcome :=
  if error.isFatal then ⟨1, lines ++ [(.error, name ++ " failed: " ++ error.message)], logged⟩
  else
    ⟨0, lines ++ [(.warning, name ++ " stopped with a logging failure: " ++ error.message)], logged⟩

def ofCrash (lines : List LogLine) (logged : Option Logged) : Outcome :=
  ⟨101, lines, logged⟩

/-- Help and the version have been asked for; a fault is an error of its own. -/
def ofStop : CommandStop → Outcome
  | .help | .version => ⟨0, [], none⟩
  | .fault _ => ⟨2, [], none⟩

/-- The messages of the source that the collector has got, in order. -/
def delivered (outcome : Outcome) (source : Source) : List Message :=
  match outcome.logged with
  | some logged => logged.session.delivered.filter (·.source = source)
  | none => []

/-- What the collector has got, in order. -/
def records (outcome : Outcome) : List Bytes :=
  match outcome.logged with
  | some logged => logged.session.delivered.map (Record.encode logged.identity)
  | none => []

/-- The rest of the first line of the log that begins so. -/
def lineAfter? (outcome : Outcome) (start : String) : Option String :=
  outcome.lines.findSome? fun (_, text) =>
    if start.toList.isPrefixOf text.toList then
      some (String.ofList (text.toList.drop start.toList.length))
    else none

end Outcome

def Performance.outcome (performance : Performance) : Outcome :=
  match performance.result with
  | .ok () => ⟨0, performance.lines ++ [(.info, name ++ " stopped")], performance.logged⟩
  | .error (.error error) => .ofError performance.lines performance.logged error
  | .error .crash => .ofCrash performance.lines performance.logged

def runWith (surroundings : Surroundings) (arguments : Arguments) : Outcome :=
  (perform surroundings arguments).outcome

def run (surroundings : Surroundings) (texts : List String) : Outcome :=
  match Arguments.read texts with
  | .ok arguments => runWith surroundings arguments
  | .error stop => .ofStop stop

/-! ## Help -/

/-- How a switch is written, with a place for its value. -/
def switchForms (switch : Switch) : String :=
  let letter :=
    match switch.letter? with
    | some letter => String.ofList ['-', letter, ',', ' ']
    | none => "    "
  let value := if switch.valueKind?.isSome then " <" ++ switch.longName ++ ">" else ""
  letter ++ "--" ++ switch.longName ++ value

def helpText : String :=
  let lines := Switch.all.map fun switch =>
    "  " ++ switchForms switch ++ "\n          " ++ switch.description
  "Forwards container stdout/stderr pipes to a log collector\n\nUsage: " ++ name ++
    " [OPTIONS]\n\nOptions:\n" ++ String.intercalate "\n" lines

def versionText : String :=
  name ++ " " ++ version

end Program

end LogRelay
