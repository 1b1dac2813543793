import LogRelay.Proofs.Config.Validation
import LogRelay.Proofs.Number.Order

/-!
# Which settings are valid

Settings are valid if and only if every single one of them is sound; the order of the checks
does not matter.  The multiplier is the exception: it is refused when it is below one, and
NaN is not below anything.  All of this holds whatever texts are taken for durations.
-/

namespace LogRelay

/-- What is asked of the settings of the pipeline. -/
structure PipelineSettings.IsSound (settings : PipelineSettings)
    (parse : DurationParser := Duration.parse) : Prop where
  buffer : ∃ size, ByteSize.parse? settings.maxBufferSize.toList = some size ∧ 0 < size
  cleanup : ∃ duration, parse settings.cleanupTime.toList = .ok duration ∧
    duration.nanos ≤ 12 * nanosPerSecond
  reads : 0 < settings.maxReadBytes
  reads_below_buffer : settings.maxReadBytes < settings.bufferSize
  interval : 0 < settings.traceIntervalSecs

/-- What is asked of a policy, its multiplier apart. -/
structure RetryPolicy.IsSound (policy : RetryPolicy) : Prop where
  attempts : 0 < policy.maxAttempts
  delays : policy.initialDelayMs ≤ policy.maxDelayMs
  jitter_low : policy.jitter.IsAtLeast 0
  jitter_high : policy.jitter.IsAtMost 1

/-- What is asked of settings, the multiplier apart. -/
structure Config.IsSound (config : Config) (parse : DurationParser := Duration.parse) :
    Prop where
  id : config.container.id ≠ ""
  name : config.container.name ≠ ""
  socket : config.sink.socketPath ≠ ""
  pipeline : config.pipeline.IsSound parse
  retry : config.retry.IsSound

namespace Config

variable {α β : Type} {parse : DurationParser}

theorem bind_eq_ok_iff {first : Except ConfigFault α} {second : α → Except ConfigFault β}
    {result : β} :
    first >>= second = .ok result ↔ ∃ value, first = .ok value ∧ second value = .ok result := by
  constructor
  · exact exists_of_bind_ok
  · rintro ⟨value, rfl, hsecond⟩
    exact hsecond

theorem require_eq_ok_iff {condition : Bool} {fault : ConfigFault} (value : Unit) :
    require condition fault = .ok value ↔ condition = true := by
  constructor
  · exact of_require_ok
  · rintro rfl
    rfl

theorem parseSize_eq_ok_iff {text : String} {size : Nat} :
    parseSize text = .ok size ↔ ByteSize.parse? text.toList = some size := by
  rw [parseSize]
  cases ByteSize.parse? text.toList with
  | none => simp
  | some parsed => simp

theorem parseDuration_eq_ok_iff {text : String} {duration : Duration} :
    parseDuration text parse = .ok duration ↔ parse text.toList = .ok duration := by
  rw [parseDuration]
  cases parse text.toList with
  | error fault => simp
  | ok parsed => simp

theorem validateNames_eq_ok_iff {config : Config} :
    config.validateNames = .ok () ↔
      config.container.id ≠ "" ∧ config.container.name ≠ "" ∧ config.sink.socketPath ≠ "" := by
  simp only [validateNames, bind_eq_ok_iff, require_eq_ok_iff, exists_const, decide_eq_true_eq]

theorem validatePipeline_eq_ok_iff {settings : PipelineSettings} :
    validatePipeline settings parse = .ok () ↔ settings.IsSound parse := by
  simp only [validatePipeline, bind_eq_ok_iff, require_eq_ok_iff, parseSize_eq_ok_iff,
    parseDuration_eq_ok_iff, exists_const, decide_eq_true_eq, Bool.and_eq_true]
  constructor
  · rintro ⟨size, hsize, hpositive, cleanup, hcleanup, hshort, ⟨hreads, hbelow⟩, hinterval⟩
    exact ⟨⟨size, hsize, Nat.pos_of_ne_zero hpositive⟩, ⟨cleanup, hcleanup, hshort⟩,
      UInt64.pos_iff_ne_zero.mpr hreads, hbelow, UInt64.pos_iff_ne_zero.mpr hinterval⟩
  · rintro ⟨⟨size, hsize, hpositive⟩, ⟨cleanup, hcleanup, hshort⟩, hreads, hbelow, hinterval⟩
    exact ⟨size, hsize, Nat.ne_of_gt hpositive, cleanup, hcleanup, hshort,
      ⟨UInt64.pos_iff_ne_zero.mp hreads, hbelow⟩, UInt64.pos_iff_ne_zero.mp hinterval⟩

/-- The jitter is asked to lie between its bounds, and the multiplier is asked not to lie
below its own. -/
theorem validateRetry_eq_ok_iff {policy : RetryPolicy} :
    validateRetry policy = .ok () ↔
      policy.IsSound ∧ (policy.multiplier = .nan ∨ policy.multiplier.IsAtLeast 1) := by
  have hlow := Binary64.finite_le_iff ⟨false, 0, -1074, by decide⟩ policy.jitter
  have hhigh := Binary64.le_finite_iff ⟨false, leadingBit, -52, by decide⟩ policy.jitter
  have hmultiplier :=
    Binary64.not_lt_finite_iff ⟨false, leadingBit, -52, by decide⟩ policy.multiplier
  rw [Binary64.value_zero, ← Binary64.zero_eq] at hlow
  rw [Binary64.value_one, ← Binary64.one_eq] at hhigh hmultiplier
  simp only [validateRetry, bind_eq_ok_iff, require_eq_ok_iff, exists_const, decide_eq_true_eq,
    Bool.and_eq_true, Bool.not_eq_true', hlow, hhigh, hmultiplier]
  constructor
  · rintro ⟨hattempts, hdelays, ⟨hleast, hmost⟩, hfactor⟩
    exact ⟨⟨UInt32.pos_iff_ne_zero.mpr hattempts, hdelays, hleast, hmost⟩, hfactor⟩
  · rintro ⟨⟨hattempts, hdelays, hleast, hmost⟩, hfactor⟩
    exact ⟨UInt32.pos_iff_ne_zero.mp hattempts, hdelays, ⟨hleast, hmost⟩, hfactor⟩

theorem validate_eq_ok_iff_parts {config : Config} :
    config.validate parse = .ok () ↔ config.validateNames = .ok () ∧
      validatePipeline config.pipeline parse = .ok () ∧ validateRetry config.retry = .ok () := by
  simp only [validate, bind_eq_ok_iff]
  constructor
  · rintro ⟨_, hnames, _, hpipeline, hretry⟩
    exact ⟨hnames, hpipeline, hretry⟩
  · rintro ⟨hnames, hpipeline, hretry⟩
    exact ⟨(), hnames, (), hpipeline, hretry⟩

/-- Settings that are valid are sound, and their multiplier is not below one. -/
theorem isSound_of_validate {config : Config} (hvalid : config.validate parse = .ok ()) :
    config.IsSound parse ∧
      (config.retry.multiplier = .nan ∨ config.retry.multiplier.IsAtLeast 1) := by
  obtain ⟨hnames, hpipeline, hretry⟩ := validate_eq_ok_iff_parts.mp hvalid
  obtain ⟨hid, hname, hsocket⟩ := validateNames_eq_ok_iff.mp hnames
  obtain ⟨hpolicy, hmultiplier⟩ := validateRetry_eq_ok_iff.mp hretry
  exact ⟨⟨hid, hname, hsocket, validatePipeline_eq_ok_iff.mp hpipeline, hpolicy⟩, hmultiplier⟩

/-- The settings that are asked for are valid, and so are those whose multiplier is no number
while everything else is as it is asked for; no others are. -/
theorem validate_eq_ok_iff (config : Config) (parse : DurationParser) :
    config.validate parse = .ok () ↔
      config.IsSound parse ∧
        (config.retry.multiplier.IsAtLeast 1 ∨ config.retry.multiplier = .nan) := by
  constructor
  · intro hvalid
    obtain ⟨hsound, hmultiplier⟩ := isSound_of_validate hvalid
    exact ⟨hsound, hmultiplier.symm⟩
  · rintro ⟨⟨hid, hname, hsocket, hpipeline, hpolicy⟩, hmultiplier⟩
    exact validate_eq_ok_iff_parts.mpr ⟨validateNames_eq_ok_iff.mpr ⟨hid, hname, hsocket⟩,
      validatePipeline_eq_ok_iff.mpr hpipeline,
      validateRetry_eq_ok_iff.mpr ⟨hpolicy, hmultiplier.symm⟩⟩

/-- The standard settings with names and with a multiplier that is no number. -/
def unboundedConfig : Config :=
  { Config.standard with
    container := ⟨"f00d", "api"⟩
    retry := { RetryPolicy.standard with multiplier := .nan } }

/-- They are valid, although their multiplier is not one or more. -/
theorem validate_of_nan_multiplier :
    unboundedConfig.validate = .ok () ∧
      ¬ (unboundedConfig.IsSound ∧ unboundedConfig.retry.multiplier.IsAtLeast 1) := by
  refine ⟨by decide +kernel, ?_⟩
  rintro ⟨-, hmultiplier⟩
  exact hmultiplier

end Config

end LogRelay
