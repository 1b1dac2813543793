import LogRelay.Mode
import LogRelay.Retry.Policy

/-!
# Settings

The settings of the program as they stand in a file, with their defaults.
-/

namespace LogRelay

/-- What names the container in every record. -/
structure ContainerSettings where
  id : String
  name : String
  deriving DecidableEq, Repr, Inhabited

structure PipelineSettings where
  mode : Mode
  /-- The capacity of the buffer, such as `1m`. -/
  maxBufferSize : String
  /-- How long to wait before the end, such as `500ms`. -/
  cleanupTime : String
  bufferSize : UInt64
  maxReadBytes : UInt64
  traceIntervalSecs : UInt64
  deriving DecidableEq, Repr

structure SinkSettings where
  socketPath : String
  timeoutSeconds : UInt64
  deriving DecidableEq, Repr

structure Config where
  container : ContainerSettings
  pipeline : PipelineSettings
  retry : RetryPolicy
  sink : SinkSettings
  deriving DecidableEq, Repr

def ContainerSettings.standard : ContainerSettings where
  id := ""
  name := ""

def PipelineSettings.standard : PipelineSettings where
  mode := .blocking
  maxBufferSize := "1m"
  cleanupTime := "5s"
  bufferSize := 16 * 1024
  maxReadBytes := 2 * 1024
  traceIntervalSecs := 60

def SinkSettings.standard : SinkSettings where
  socketPath := "/run/shim-logger/collector.sock"
  timeoutSeconds := 5

def Config.standard : Config where
  container := ContainerSettings.standard
  pipeline := PipelineSettings.standard
  retry := RetryPolicy.standard
  sink := SinkSettings.standard

instance : Inhabited Config := ⟨Config.standard⟩

end LogRelay
