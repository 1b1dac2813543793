import LogRelay.Duration.Basic
import LogRelay.Mode
import LogRelay.Retry.Policy

/-!
# Options of a session
-/

namespace LogRelay

structure SessionOptions where
  mode : Mode
  /-- The capacity of the buffer, in line bytes. -/
  maxBufferSize : Nat
  /-- The working buffer of a framer. -/
  bufferSize : Nat
  /-- The most bytes that one read asks for. -/
  readLimit : Nat
  retry : RetryPolicy
  traceInterval : Duration
  deriving DecidableEq, Repr

namespace SessionOptions

def standard : SessionOptions where
  mode := .blocking
  maxBufferSize := 1024 * 1024
  bufferSize := 16 * 1024
  readLimit := 2 * 1024
  retry := RetryPolicy.standard
  traceInterval := Duration.ofSeconds 60

instance : Inhabited SessionOptions := ⟨standard⟩

end SessionOptions

end LogRelay
