import LogRelay.Text.Characters
import LogRelay.Text.Utf8
import LogRelay.Timestamp

/-!
# Messages

A message is one line that was read from a pipe, or one segment of a line that
was too long for the working buffer.
-/

namespace LogRelay

/-- The two output pipes of a container. -/
inductive Source where
  | stdout
  | stderr
  deriving DecidableEq, Repr, Inhabited

namespace Source

def name : Source → String
  | stdout => "stdout"
  | stderr => "stderr"

def ofName? (name : String) : Option Source :=
  if name = "stdout" then some stdout
  else if name = "stderr" then some stderr
  else none

end Source

namespace RunId

/-- The name of a run of segments: 256 random bits, written as 64 lowercase
hexadecimal digits. -/
def ofBits (value : Nat) : String :=
  String.ofList (Text.hexDigits 64 value)

def isHexDigit (character : Char) : Bool :=
  ('0' ≤ character && character ≤ '9') || ('a' ≤ character && character ≤ 'f')

def isRunId (text : String) : Bool :=
  text.toList.length = 64 && text.toList.all isHexDigit

end RunId

/-- What a segment of a split line carries: the identifier that all segments of
the run share, its place in the run counted from one in a 32-bit number, and
whether it ends it. -/
structure Partial where
  id : String
  ordinal : UInt32
  last : Bool
  deriving DecidableEq, Repr, Inhabited

structure Message where
  line : Bytes
  source : Source
  time : Timestamp
  partialTag : Option Partial
  deriving DecidableEq, Repr, Inhabited

namespace Message

/-- A message that is a whole line. -/
def complete (line : Bytes) (source : Source) (time : Timestamp) : Message :=
  ⟨line, source, time, none⟩

/-- The size that counts for the buffer and the tracer. -/
def size (message : Message) : Nat :=
  message.line.length

def isEmpty (message : Message) : Bool :=
  message.line.isEmpty

def isPartial (message : Message) : Bool :=
  message.partialTag.isSome

def lossyText (message : Message) : String :=
  Utf8.decodeLossy message.line

end Message

end LogRelay
