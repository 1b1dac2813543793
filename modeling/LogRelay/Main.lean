import LogRelay.CommandLine.Program

/-!
# The command line

Reads what the arguments name, runs the program on it, and writes what it
leaves behind.  Pipes are read to their end before the run begins, and records
go to whatever stands at the socket path and can be opened.
-/

namespace LogRelay.Outside

def errorCode : IO.Error → Nat
  | .alreadyExists _ code _ => code.toNat
  | .inappropriateType _ code _ => code.toNat
  | .invalidArgument _ code _ => code.toNat
  | .noFileOrDirectory _ code _ => code.toNat
  | .noSuchThing _ code _ => code.toNat
  | .permissionDenied _ code _ => code.toNat
  | .resourceExhausted _ code _ => code.toNat
  | .interrupted _ code _ => code.toNat
  | .hardwareFault code _ => code.toNat
  | .illegalOperation code _ => code.toNat
  | .otherError code _ => code.toNat
  | .protocolError code _ => code.toNat
  | .resourceBusy code _ => code.toNat
  | .resourceVanished code _ => code.toNat
  | .timeExpired code _ => code.toNat
  | .unsatisfiedConstraints code _ => code.toNat
  | .unsupportedOperation code _ => code.toNat
  | .unexpectedEof => 5
  | .userError _ => 5

/-- What stands at the path; nothing if the file is missing. -/
def readNode (path : String) : IO (Option FileNode) := do
  try
    return some (.file (← IO.FS.readBinFile path).toList)
  catch error =>
    match Failure.system (errorCode error) with
    | .system 2 => return none
    | .system 21 => return some .directory
    | failure => return some (.unusable failure)

/-- The files that the run reads. -/
def readFiles (arguments : Arguments) : IO Files := do
  let mut files := []
  for switch in [Switch.config, .stdoutPipe, .stderrPipe] do
    if let some path := arguments.value? switch then
      if let some node ← readNode path then
        files := (path, node) :: files
  return files

/-- A place for the ready file is made first, so that it can be said whether there is one. -/
def prepareReadyFile (arguments : Arguments) (files : Files) : IO Files := do
  match arguments.value? .readyFile with
  | none => return files
  | some path =>
    try
      IO.FS.writeBinFile path ByteArray.empty
      return (path, .file []) :: files
    catch error =>
      return (path, .unusable (.system (errorCode error))) :: files

/-- The collector is there if its socket can be opened for writing. -/
def findCollector (path : String) : IO Collector := do
  try
    let _ ← IO.FS.Handle.mk path .readWrite
    return Collector.absent.listen
  catch error =>
    return { Collector.absent with socketFile := errorCode error != 2 }

def hostName : IO String := do
  try
    return (← IO.FS.readFile "/etc/hostname").trimAscii.toString
  catch _ =>
    return "localhost"

/-- The time at which a fresh file is made. -/
def timeNow : IO Timestamp := do
  let (_, path) ← IO.FS.createTempFile
  let time := (← path.metadata).modified
  IO.FS.removeFile path
  return ⟨time.sec, time.nsec.toNat⟩

/-- An odd number, so that its odd multiples differ in their lowest 256 bits. -/
def randomSeed : IO Nat := do
  let bytes ← IO.getRandomBytes 32
  return 2 * bytes.toList.foldl (fun bits byte => bits * 256 + byte.toNat) 0 + 1

/-- The path of the collector's socket, as far as the settings can be read. -/
def socketPath (files : Files) (arguments : Arguments) : String :=
  match Program.configure files arguments with
  | .ok config => config.sink.socketPath
  | .error _ => ""

def surroundings (arguments : Arguments) : IO Surroundings := do
  let files ← prepareReadyFile arguments (← readFiles arguments)
  let collector ← findCollector (socketPath files arguments)
  let start ← timeNow
  let seed ← randomSeed
  return {
    files := files
    collector := fun _ => collector
    calls := fun _ => []
    stopAt := none
    host := ← hostName
    runIds := fun source number =>
      RunId.ofBits (seed * (4 * number + if source = .stdout then 1 else 3))
    draws := fun number => seed * (2 * number + 1) % UInt64.size
    timeOfDay := start.addMillis }

/-- Records follow each other on the collector's connection. -/
def sendRecords (path : String) (records : List Bytes) : IO Unit := do
  unless records.isEmpty do
    let handle ← IO.FS.Handle.mk path .append
    for record in records do
      handle.write (ByteArray.mk record.toArray)

def logLine (line : LogLine) : String :=
  line.1.name ++ " " ++ line.2

def run (arguments : Arguments) : IO UInt32 := do
  let surroundings ← surroundings arguments
  let outcome := Program.runWith surroundings arguments
  for line in outcome.lines do
    IO.println (logLine line)
  if let some (path, content) := outcome.logged.bind (·.readyFile) then
    IO.FS.writeBinFile path (ByteArray.mk content.toArray)
  sendRecords (socketPath surroundings.files arguments) outcome.records
  return UInt32.ofNat outcome.exitCode

end LogRelay.Outside

open LogRelay

def main (texts : List String) : IO UInt32 := do
  match Arguments.read texts with
  | .ok arguments => Outside.run arguments
  | .error .help =>
    IO.println Program.helpText
    return 0
  | .error .version =>
    IO.println Program.versionText
    return 0
  | .error (.fault fault) =>
    IO.eprintln ("error: " ++ fault.message)
    return UInt32.ofNat (Program.Outcome.ofStop (.fault fault)).exitCode
