import LogRelay.Config.Validation

/-!
# What valid settings guarantee

The options of a session that come from settings have been validated.  So their
jitter is a number, although a jitter that is none can be written in a file.
-/

namespace LogRelay

namespace Config

variable {α β : Type} {parse : DurationParser}

/-- A step after which the reading of settings has gone on. -/
theorem exists_of_bind_ok {first : Except ConfigFault α} {second : α → Except ConfigFault β}
    {result : β} (hbind : first >>= second = .ok result) :
    ∃ value, first = .ok value ∧ second value = .ok result := by
  cases first with
  | ok value => exact ⟨value, rfl, hbind⟩
  | error fault => cases hbind

theorem of_require_ok {condition : Bool} {fault : ConfigFault} {value : Unit}
    (hrequire : require condition fault = .ok value) : condition = true := by
  rw [require] at hrequire
  split at hrequire
  · assumption
  · cases hrequire

/-- A jitter in its range is a number. -/
theorem isNaN_jitter_of_validateRetry {policy : RetryPolicy}
    (hvalid : validateRetry policy = .ok ()) : policy.jitter.isNaN = false := by
  obtain ⟨_, -, hvalid⟩ := exists_of_bind_ok hvalid
  obtain ⟨_, -, hvalid⟩ := exists_of_bind_ok hvalid
  obtain ⟨_, hrange, -⟩ := exists_of_bind_ok hvalid
  have hboth := of_require_ok hrange
  rw [Bool.and_eq_true, Binary64.le, Bool.and_eq_true, Bool.and_eq_true] at hboth
  exact Bool.not_eq_true' _ |>.mp hboth.1.1.2

theorem validateRetry_of_validate {config : Config} (hvalid : config.validate parse = .ok ()) :
    validateRetry config.retry = .ok () := by
  obtain ⟨_, -, hvalid⟩ := exists_of_bind_ok hvalid
  obtain ⟨_, -, hvalid⟩ := exists_of_bind_ok hvalid
  exact hvalid

/-- The options of a session have the policy of the settings, which is valid. -/
theorem retry_of_sessionOptions {config : Config} {options : SessionOptions}
    (hoptions : config.sessionOptions parse = .ok options) :
    options.retry = config.retry ∧ config.validate parse = .ok () := by
  obtain ⟨_, hvalid, hoptions⟩ := exists_of_bind_ok hoptions
  obtain ⟨size, -, hoptions⟩ := exists_of_bind_ok hoptions
  cases hoptions
  exact ⟨rfl, hvalid⟩

theorem isNaN_jitter_of_sessionOptions {config : Config} {options : SessionOptions}
    (hoptions : config.sessionOptions parse = .ok options) :
    options.retry.jitter.isNaN = false := by
  obtain ⟨hretry, hvalid⟩ := retry_of_sessionOptions hoptions
  rw [hretry]
  exact isNaN_jitter_of_validateRetry (validateRetry_of_validate hvalid)

end Config

end LogRelay
