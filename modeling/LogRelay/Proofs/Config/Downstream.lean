import LogRelay.Proofs.Config.Acceptance
import LogRelay.Proofs.Retry.Backoff
import LogRelay.Session.Timeline

/-!
# Valid settings are used as they stand

Framers, deliveries, backoffs and the tracer bring what they are given into bounds of their
own.  Valid settings lie within all of these bounds, so a session runs with the settings that
have been validated and with no others.
-/

namespace LogRelay

theorem Framer.create_of_bounds {bufferSize readLimit : Nat} (source : Source)
    (hpositive : 0 < readLimit) (hbelow : readLimit < bufferSize) :
    (Framer.create source bufferSize readLimit).capacity = bufferSize ∧
      (Framer.create source bufferSize readLimit).readLimit = readLimit := by
  have hcapacity : max bufferSize 1 = bufferSize := Nat.max_eq_left (by omega)
  refine ⟨hcapacity, ?_⟩
  rw [create, hcapacity]
  dsimp only
  rw [Nat.min_eq_left hbelow.le, Nat.max_eq_right hpositive]

theorem RetryPolicy.attempts_of_pos {policy : RetryPolicy} (hpositive : 0 < policy.maxAttempts) :
    policy.attempts = policy.maxAttempts.toNat :=
  Nat.max_eq_left hpositive

theorem Duration.min_eq_left {left right : Duration} (hle : left.nanos ≤ right.nanos) :
    left.min right = left := by
  rw [min, if_neg (Nat.not_lt_of_le hle)]

/-- A policy that is sound starts its pauses at the initial delay and with its own jitter. -/
theorem RetryPolicy.IsSound.backoff {policy : RetryPolicy} (hsound : policy.IsSound) :
    policy.backoff.current = Duration.ofMillis policy.initialDelayMs ∧
      policy.backoff.jitter = policy.jitter := by
  have hdelays : (Duration.ofMillis policy.initialDelayMs).nanos ≤
      (Duration.ofMillis policy.maxDelayMs).nanos :=
    Nat.mul_le_mul_right _ hsound.delays
  exact ⟨Duration.min_eq_left hdelays,
    Binary64.clamp_eq_self hsound.jitter_low hsound.jitter_high⟩

/-- Intervals of whole seconds end at whole seconds. -/
theorem SessionTimeline.nextTick_of_seconds {plan : Plan} {seconds : UInt64}
    (hinterval : plan.options.traceInterval = Duration.ofSeconds seconds)
    (hpositive : 0 < seconds) (timeline : SessionTimeline) :
    timeline.nextTick plan = (timeline.ticks + 1) * seconds.toNat * 1000 := by
  have hseconds : 0 < seconds.toNat := hpositive
  have hlong : nanosPerMilli ≤ seconds.toNat * nanosPerSecond := by
    simp only [nanosPerMilli, nanosPerSecond]
    omega
  rw [nextTick, hinterval, Duration.ofSeconds]
  dsimp only
  rw [Nat.max_eq_left hlong, ← Nat.mul_assoc]
  simp only [nanosPerMilli, nanosPerSecond]
  omega

/-- A session with the plan runs with the settings as they stand, and its buffer has that
capacity. -/
structure Plan.Follows (plan : Plan) (config : Config) (size : Nat) : Prop where
  mode : plan.options.mode = config.pipeline.mode
  working_buffer : ∀ source pipe, (Session.newReader plan source pipe).framer.capacity =
    config.pipeline.bufferSize.toNat
  read_limit : ∀ source pipe, (Session.newReader plan source pipe).framer.readLimit =
    config.pipeline.maxReadBytes.toNat
  attempts : ∀ message, (Delivery.start plan.options.retry message).attempts =
    config.retry.maxAttempts.toNat
  first_delay : ∀ message, (Delivery.start plan.options.retry message).backoff.current =
    Duration.ofMillis config.retry.initialDelayMs
  jitter : ∀ message, (Delivery.start plan.options.retry message).backoff.jitter =
    config.retry.jitter
  interval : ∀ timeline : SessionTimeline, timeline.nextTick plan =
    (timeline.ticks + 1) * config.pipeline.traceIntervalSecs.toNat * 1000
  capacity : ∀ stdout stderr sink,
    (Session.create plan stdout stderr sink).buffer.map Buffer.capacity =
      if config.pipeline.mode = .nonBlocking then some size else none

namespace Config

variable {config : Config} {parse : DurationParser}

/-- The options with the settings as they stand, and a buffer of that size. -/
def plainOptions (config : Config) (size : Nat) : SessionOptions where
  mode := config.pipeline.mode
  maxBufferSize := size
  bufferSize := config.pipeline.bufferSize.toNat
  readLimit := config.pipeline.maxReadBytes.toNat
  retry := config.retry
  traceInterval := Duration.ofSeconds config.pipeline.traceIntervalSecs

/-- With these options a session runs with the settings as they stand, if they are sound. -/
theorem IsSound.follows {size : Nat} {plan : Plan} (hsound : config.IsSound parse)
    (hplan : plan.options = config.plainOptions size) : plan.Follows config size := by
  have hframer := fun source => Framer.create_of_bounds source hsound.pipeline.reads
    hsound.pipeline.reads_below_buffer
  have hretry : plan.options.retry = config.retry := by rw [hplan, plainOptions]
  exact
    { mode := by rw [hplan, plainOptions]
      working_buffer := fun source pipe => by
        rw [Session.newReader, hplan]
        exact (hframer source).1
      read_limit := fun source pipe => by
        rw [Session.newReader, hplan]
        exact (hframer source).2
      attempts := fun message => by
        rw [Delivery.start, hretry]
        exact RetryPolicy.attempts_of_pos hsound.retry.attempts
      first_delay := fun message => by
        rw [Delivery.start, hretry]
        exact hsound.retry.backoff.1
      jitter := fun message => by
        rw [Delivery.start, hretry]
        exact hsound.retry.backoff.2
      interval := SessionTimeline.nextTick_of_seconds (by rw [hplan, plainOptions])
        hsound.pipeline.interval
      capacity := fun stdout stderr sink => by
        rw [Session.create, hplan, plainOptions]
        cases config.pipeline.mode <;> rfl }

theorem sessionOptions_eq_ok {size : Nat} (hvalid : config.validate parse = .ok ())
    (hsize : ByteSize.parse? config.pipeline.maxBufferSize.toList = some size) :
    config.sessionOptions parse = .ok (config.plainOptions size) := by
  rw [sessionOptions, bind_eq_ok_iff]
  refine ⟨(), hvalid, ?_⟩
  rw [bind_eq_ok_iff]
  exact ⟨size, parseSize_eq_ok_iff.mpr hsize, rfl⟩

/-- Valid settings give options and a time to clean up of at most twelve seconds, and a session
with these options runs with the very settings, whatever texts are taken for durations. -/
theorem runs_as_set (hvalid : config.validate parse = .ok ()) :
    ∃ options cleanup size,
      config.sessionOptions parse = .ok options ∧
      config.cleanup parse = .ok cleanup ∧ cleanup.nanos ≤ 12 * nanosPerSecond ∧
      ByteSize.parse? config.pipeline.maxBufferSize.toList = some size ∧ 0 < size ∧
      ∀ plan : Plan, plan.options = options → plan.Follows config size := by
  obtain ⟨hsound, -⟩ := isSound_of_validate hvalid
  obtain ⟨size, hsize, hpositive⟩ := hsound.pipeline.buffer
  obtain ⟨cleanup, hcleanup, hshort⟩ := hsound.pipeline.cleanup
  exact ⟨_, cleanup, size, sessionOptions_eq_ok hvalid hsize,
    parseDuration_eq_ok_iff.mpr hcleanup, hshort, hsize, hpositive,
    fun plan hplan => hsound.follows hplan⟩

/-- Settings at the bounds: reads of all but one byte of the buffer, one attempt, no delays, a
negative zero for the jitter, the longest interval and a buffer of one byte. -/
def narrowConfig : Config where
  container := ⟨"f00d", "api"⟩
  pipeline := ⟨.nonBlocking, "1", "12s", 2, 1, UInt64.ofNat (UInt64.size - 1)⟩
  retry := ⟨1, 0, 0, Binary64.zero true, Binary64.one⟩
  sink := ⟨"/run/collector.sock", 0⟩

/-- They are used as they stand, too. -/
theorem runs_as_set_at_bounds :
    narrowConfig.validate = .ok () ∧
      ∃ options cleanup size,
        narrowConfig.sessionOptions = .ok options ∧
        narrowConfig.cleanup = .ok cleanup ∧ cleanup.nanos ≤ 12 * nanosPerSecond ∧
        ByteSize.parse? narrowConfig.pipeline.maxBufferSize.toList = some size ∧ 0 < size ∧
        ∀ plan : Plan, plan.options = options → plan.Follows narrowConfig size := by
  have hvalid : narrowConfig.validate = .ok () := by decide +kernel
  exact ⟨hvalid, runs_as_set hvalid⟩

end Config

end LogRelay
