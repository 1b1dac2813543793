import LogRelay.Duration.Reader
import LogRelay.Error
import LogRelay.Mode

/-!
# Faults of the settings

Why settings cannot be read or are refused.
-/

namespace LogRelay

inductive ConfigFault where
  | unreadable (reason : String)
  | malformed
  | invalidMode (text : String)
  | emptyContainerId
  | emptyContainerName
  | emptySocketPath
  | invalidSize (text : String)
  | zeroBufferSize (text : String)
  | invalidDuration (text : String) (fault : Duration.Fault)
  | cleanupTooLong (text : String)
  | badReadLimit (maxReadBytes bufferSize : UInt64)
  | zeroTraceInterval
  | zeroAttempts
  | delaysOutOfOrder
  | jitterOutOfRange
  | multiplierTooSmall
  deriving DecidableEq, Repr

namespace ConfigFault

open Text

def message : ConfigFault → String
  | unreadable reason => "Failed to read config file: " ++ reason
  | malformed => "Failed to parse config"
  | invalidMode text =>
    "Invalid mode " ++ quote text ++ ", expected \"blocking\" or \"non-blocking\""
  | emptyContainerId => "Container id cannot be empty"
  | emptyContainerName => "Container name cannot be empty"
  | emptySocketPath => "Socket path cannot be empty"
  | invalidSize text => "Invalid size: " ++ quote text
  | zeroBufferSize text => "max_buffer_size must be positive, got " ++ quote text
  | invalidDuration text fault => "Invalid duration " ++ quote text ++ ": " ++ fault.message
  | cleanupTooLong text => "cleanup_time " ++ quote text ++ " exceeds the maximum of 12s"
  | badReadLimit maxReadBytes bufferSize =>
    "max_read_bytes (" ++ toString maxReadBytes.toNat ++
      ") must be positive and smaller than buffer_size (" ++ toString bufferSize.toNat ++ ")"
  | zeroTraceInterval => "trace_interval_secs must be positive"
  | zeroAttempts => "retry.max_attempts must be at least 1"
  | delaysOutOfOrder => "retry.max_delay_ms cannot be smaller than retry.initial_delay_ms"
  | jitterOutOfRange => "retry.jitter must be within 0..=1"
  | multiplierTooSmall => "retry.multiplier must be at least 1"

def toError (fault : ConfigFault) : Error :=
  .configuration fault.message

/-- Whether the fault is no answer but ends the program on the spot. -/
def isCrash : ConfigFault → Bool
  | invalidDuration _ .carryOverflow => true
  | _ => false

end ConfigFault

/-- The mode of that name. -/
def Mode.parse (text : String) : Except ConfigFault Mode :=
  match Mode.ofName? text with
  | some mode => .ok mode
  | none => .error (.invalidMode text)

end LogRelay
