import LogRelay.ByteSize
import LogRelay.Config.Fault
import LogRelay.Config.Settings
import LogRelay.Session.Options

/-!
# Validation

What settings have to satisfy, and the options of a session that follow from
them.  How a time is written is a matter of the parser of durations alone, so
another one may be put in its place.
-/

namespace LogRelay

/-- Reads the duration that a text denotes. -/
abbrev DurationParser := List Char → Except Duration.Fault Duration

namespace Config

/-- The longest time to wait before the end. -/
def maxCleanup : Duration := ⟨12 * nanosPerSecond, by decide⟩

def require (condition : Bool) (fault : ConfigFault) : Except ConfigFault Unit :=
  if condition then .ok () else .error fault

def parseSize (text : String) : Except ConfigFault Nat :=
  match ByteSize.parse? text.toList with
  | some size => .ok size
  | none => .error (.invalidSize text)

def parseDuration (text : String) (parse : DurationParser := Duration.parse) :
    Except ConfigFault Duration :=
  match parse text.toList with
  | .ok duration => .ok duration
  | .error fault => .error (.invalidDuration text fault)

def validateNames (config : Config) : Except ConfigFault Unit := do
  require (config.container.id ≠ "") .emptyContainerId
  require (config.container.name ≠ "") .emptyContainerName
  require (config.sink.socketPath ≠ "") .emptySocketPath

def validatePipeline (settings : PipelineSettings) (parse : DurationParser := Duration.parse) :
    Except ConfigFault Unit := do
  let size ← parseSize settings.maxBufferSize
  require (size ≠ 0) (.zeroBufferSize settings.maxBufferSize)
  let cleanup ← parseDuration settings.cleanupTime parse
  require (cleanup.nanos ≤ maxCleanup.nanos) (.cleanupTooLong settings.cleanupTime)
  require (settings.maxReadBytes ≠ 0 && settings.maxReadBytes < settings.bufferSize)
    (.badReadLimit settings.maxReadBytes settings.bufferSize)
  require (settings.traceIntervalSecs ≠ 0) .zeroTraceInterval

/-- The jitter has to lie in its range, and the multiplier must not be below its
bound; so NaN is a multiplier and not a jitter. -/
def validateRetry (policy : RetryPolicy) : Except ConfigFault Unit := do
  require (policy.maxAttempts ≠ 0) .zeroAttempts
  require (policy.initialDelayMs ≤ policy.maxDelayMs) .delaysOutOfOrder
  require ((Binary64.zero false).le policy.jitter && policy.jitter.le Binary64.one)
    .jitterOutOfRange
  require (!policy.multiplier.lt Binary64.one) .multiplierTooSmall

/-- The first fault of the settings, if they have one. -/
def validate (config : Config) (parse : DurationParser := Duration.parse) :
    Except ConfigFault Unit := do
  config.validateNames
  validatePipeline config.pipeline parse
  validateRetry config.retry

/-- The options of a session with these settings, if they are valid. -/
def sessionOptions (config : Config) (parse : DurationParser := Duration.parse) :
    Except ConfigFault SessionOptions := do
  config.validate parse
  return {
    mode := config.pipeline.mode
    maxBufferSize := ← parseSize config.pipeline.maxBufferSize
    bufferSize := config.pipeline.bufferSize.toNat
    readLimit := config.pipeline.maxReadBytes.toNat
    retry := config.retry
    traceInterval := Duration.ofSeconds config.pipeline.traceIntervalSecs }

def cleanup (config : Config) (parse : DurationParser := Duration.parse) :
    Except ConfigFault Duration :=
  parseDuration config.pipeline.cleanupTime parse

end Config

end LogRelay
