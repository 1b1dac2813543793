/-!
# Switches

The names that the command line knows.
-/

namespace LogRelay

inductive Switch where
  | config
  | containerId
  | containerName
  | mode
  | maxBufferSize
  | cleanupTime
  | stdoutPipe
  | stderrPipe
  | readyFile
  | socket
  | verbose
  | help
  | version
  deriving DecidableEq, Repr

namespace Switch

/-- What the value of a switch has to be. -/
inductive ValueKind where
  | text
  /-- A file name, which is not empty. -/
  | path
  | mode
  deriving DecidableEq, Repr

def all : List Switch :=
  [config, containerId, containerName, mode, maxBufferSize, cleanupTime, stdoutPipe, stderrPipe,
    readyFile, socket, verbose, help, version]

/-- The name behind two hyphens. -/
def longName : Switch → String
  | config => "config"
  | containerId => "container-id"
  | containerName => "container-name"
  | mode => "mode"
  | maxBufferSize => "max-buffer-size"
  | cleanupTime => "cleanup-time"
  | stdoutPipe => "stdout-pipe"
  | stderrPipe => "stderr-pipe"
  | readyFile => "ready-file"
  | socket => "socket"
  | verbose => "verbose"
  | help => "help"
  | version => "version"

/-- The letter behind one hyphen, for those that have one. -/
def letter? : Switch → Option Char
  | config => some 'c'
  | socket => some 's'
  | verbose => some 'v'
  | help => some 'h'
  | version => some 'V'
  | _ => none

/-- What follows the switch; flags have no value. -/
def valueKind? : Switch → Option ValueKind
  | config | stdoutPipe | stderrPipe | readyFile => some .path
  | mode => some .mode
  | containerId | containerName | maxBufferSize | cleanupTime | socket => some .text
  | verbose | help | version => none

def description : Switch → String
  | config => "Configuration file path"
  | containerId => "Container id"
  | containerName => "Container name"
  | mode => "Delivery mode: blocking or non-blocking"
  | maxBufferSize => "Ring buffer capacity in non-blocking mode, e.g. 1m"
  | cleanupTime => "Grace period before exiting, e.g. 5s"
  | stdoutPipe => "Container stdout FIFO"
  | stderrPipe => "Container stderr FIFO"
  | readyFile => "File created once logging is running"
  | socket => "Collector socket path"
  | verbose => "Enable verbose logging"
  | help => "Print help"
  | version => "Print version"

/-- Names are not shortened. -/
def ofLongName? (name : String) : Option Switch :=
  all.find? (·.longName = name)

def ofLetter? (letter : Char) : Option Switch :=
  all.find? (·.letter? = some letter)

end Switch

end LogRelay
