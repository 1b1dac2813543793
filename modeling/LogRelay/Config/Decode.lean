import LogRelay.Config.Settings
import LogRelay.Document
import LogRelay.Message

/-!
# Settings from documents

A group of settings is a table, or a list of its values in order.  A setting
that is missing has its default, and unknown settings are passed over.
-/

namespace LogRelay

/-- Where the notations for documents differ. -/
structure DecodeRules where
  /-- Whether a list may go on behind the last setting of the group. -/
  longLists : Bool
  /-- What may stand beside a name that is given as the only key of a table. -/
  isVoid : Document → Bool

namespace DecodeRules

def json : DecodeRules where
  longLists := false
  isVoid
    | .null => true
    | _ => false

def toml : DecodeRules where
  longLists := true
  isVoid
    | .table [] => true
    | .list [] => true
    | _ => false

end DecodeRules

namespace Document

def asText? : Document → Option String
  | text value => some value
  | _ => none

def asTruth? : Document → Option Bool
  | truth value => some value
  | _ => none

/-- An integer from zero up to and without the limit. -/
def asNatBelow? (limit : Nat) : Document → Option Nat
  | integer value => if 0 ≤ value ∧ value < limit then some value.toNat else none
  | _ => none

def asUInt32? (document : Document) : Option UInt32 :=
  (document.asNatBelow? UInt32.size).map UInt32.ofNat

def asUInt64? (document : Document) : Option UInt64 :=
  (document.asNatBelow? UInt64.size).map UInt64.ofNat

/-- Integers stand for numbers too. -/
def asNumber? : Document → Option Binary64
  | number value => some value
  | integer value => some (Binary64.round (value < 0) value.natAbs 1)
  | _ => none

/-- A name, as a text or as the only key of a table. -/
def asName? (rules : DecodeRules) : Document → Option String
  | text value => some value
  | table [(name, value)] => if rules.isVoid value then some name else none
  | _ => none

def asMode? (rules : DecodeRules) (document : Document) : Option Mode := do
  Mode.ofName? (← document.asName? rules)

def asSource? (rules : DecodeRules) (document : Document) : Option Source := do
  Source.ofName? (← document.asName? rules)

/-- Whether some name is the key of more than one entry. -/
def repeats (names : List String) (entries : List (String × Document)) : Bool :=
  names.any fun name => 1 < entries.countP (·.1 = name)

/-- The settings of those names, as far as they are given. -/
def fields? (rules : DecodeRules) (names : List String) : Document → Option (List (Option Document))
  | table entries =>
    if repeats names entries then none else some (names.map fun name => entries.lookup name)
  | list items =>
    if names.length < items.length ∧ !rules.longLists then none
    else some (names.mapIdx fun index _ => items[index]?)
  | moment => some (names.map fun _ => none)
  | _ => none

/-- Reads a setting, or takes its default if it is missing. -/
def getD {α : Type} (read : Document → Option α) (default : α) : Option Document → Option α
  | some document => read document
  | none => some default

def asContainer? (rules : DecodeRules) (document : Document) : Option ContainerSettings := do
  let standard := ContainerSettings.standard
  match ← document.fields? rules ["id", "name"] with
  | [id, name] => return ⟨← getD asText? standard.id id, ← getD asText? standard.name name⟩
  | _ => none

def asPipeline? (rules : DecodeRules) (document : Document) : Option PipelineSettings := do
  let standard := PipelineSettings.standard
  let names := ["mode", "max_buffer_size", "cleanup_time", "buffer_size", "max_read_bytes",
    "trace_interval_secs"]
  match ← document.fields? rules names with
  | [mode, maxBufferSize, cleanupTime, bufferSize, maxReadBytes, traceIntervalSecs] =>
    return {
      mode := ← getD (asMode? rules) standard.mode mode
      maxBufferSize := ← getD asText? standard.maxBufferSize maxBufferSize
      cleanupTime := ← getD asText? standard.cleanupTime cleanupTime
      bufferSize := ← getD asUInt64? standard.bufferSize bufferSize
      maxReadBytes := ← getD asUInt64? standard.maxReadBytes maxReadBytes
      traceIntervalSecs := ← getD asUInt64? standard.traceIntervalSecs traceIntervalSecs }
  | _ => none

def asRetryPolicy? (rules : DecodeRules) (document : Document) : Option RetryPolicy := do
  let standard := RetryPolicy.standard
  let names := ["max_attempts", "initial_delay_ms", "max_delay_ms", "jitter", "multiplier"]
  match ← document.fields? rules names with
  | [maxAttempts, initialDelayMs, maxDelayMs, jitter, multiplier] =>
    return {
      maxAttempts := ← getD asUInt32? standard.maxAttempts maxAttempts
      initialDelayMs := ← getD asUInt64? standard.initialDelayMs initialDelayMs
      maxDelayMs := ← getD asUInt64? standard.maxDelayMs maxDelayMs
      jitter := ← getD asNumber? standard.jitter jitter
      multiplier := ← getD asNumber? standard.multiplier multiplier }
  | _ => none

def asSink? (rules : DecodeRules) (document : Document) : Option SinkSettings := do
  let standard := SinkSettings.standard
  match ← document.fields? rules ["socket_path", "timeout_seconds"] with
  | [socketPath, timeoutSeconds] =>
    return ⟨← getD asText? standard.socketPath socketPath,
      ← getD asUInt64? standard.timeoutSeconds timeoutSeconds⟩
  | _ => none

def asConfig? (rules : DecodeRules) (document : Document) : Option Config := do
  let standard := Config.standard
  match ← document.fields? rules ["container", "pipeline", "retry", "sink"] with
  | [container, pipeline, retry, sink] =>
    return {
      container := ← getD (asContainer? rules) standard.container container
      pipeline := ← getD (asPipeline? rules) standard.pipeline pipeline
      retry := ← getD (asRetryPolicy? rules) standard.retry retry
      sink := ← getD (asSink? rules) standard.sink sink }
  | _ => none

/-- The tag of a segment, of which nothing may be missing. -/
def asPartial? (rules : DecodeRules) (document : Document) : Option Partial := do
  match ← document.fields? rules ["id", "ordinal", "last"] with
  | [some id, some ordinal, some last] =>
    return ⟨← id.asText?, ← ordinal.asUInt32?, ← last.asTruth?⟩
  | _ => none

end Document

end LogRelay
