import LogRelay.Proofs.Config.Downstream
import LogRelay.Proofs.Delivery.Reached

/-!
# Retrying never fails by itself

Under valid settings every step of the computation of a pause has a result, for every delay
that 64 bits of milliseconds can hold and for every multiplier.  So a delivery crashes only
with a call of the sink.
-/

namespace LogRelay

namespace Backoff

variable {backoff : Backoff}

/-- Nothing that the next pause is computed from can fail: there is a spread, a random part is
chosen below one that is not empty, and the delay with any such part is a span. -/
structure Computable (backoff : Backoff) : Prop where
  spread : ∃ spread, backoff.spread? = some spread ∧
    (spread.isZero = false → 0 < spread.nanos) ∧
    ∀ part < spread.nanos, ∃ pause,
      Duration.ofNanos? (backoff.current.nanos + part) = some pause
  next : ∀ draw, ∃ pause, backoff.next? draw = some (pause, backoff.advance)

theorem Bounded.computable (hbounded : backoff.Bounded) : backoff.Computable where
  spread := by
    obtain ⟨spread, hspread, hroom⟩ := hbounded.exists_spread?
    exact ⟨spread, hspread, spread.isZero_eq_false_iff.mp,
      fun part hpart => ⟨_, dif_pos (by omega)⟩⟩
  next := hbounded.exists_next?

end Backoff

/-- One of as many calls for messages of the source crashes, and those before it are refused. -/
inductive SinkBehaviour.CrashesWithin (source : Source) : SinkBehaviour → Nat → Prop
  | now {sink : SinkBehaviour} {left : Nat} (hcall : (sink.call source).2.1 = .crashed) :
      CrashesWithin source sink (left + 1)
  | later {sink : SinkBehaviour} {left : Nat} {error : Error}
      (hcall : (sink.call source).2.1 = .refused error)
      (hrest : CrashesWithin source (sink.call source).2.2 left) :
      CrashesWithin source sink (left + 1)

theorem SinkBehaviour.crashesWithin_succ_iff {source : Source} {sink : SinkBehaviour} {left : Nat} :
    sink.CrashesWithin source (left + 1) ↔
      (sink.call source).2.1 = .crashed ∨
        (∃ error, (sink.call source).2.1 = .refused error) ∧
          (sink.call source).2.2.CrashesWithin source left := by
  constructor
  · rintro (hcall | ⟨hcall, hrest⟩)
    · exact Or.inl hcall
    · exact Or.inr ⟨⟨_, hcall⟩, hrest⟩
  · rintro (hcall | ⟨⟨error, hcall⟩, hrest⟩)
    · exact .now hcall
    · exact .later hcall hrest

theorem SinkBehaviour.not_crashesWithin_zero {source : Source} {sink : SinkBehaviour} :
    ¬ sink.CrashesWithin source 0 :=
  nofun

namespace Delivery

variable {policy : RetryPolicy} {message : Message} {delivery : Delivery} {slept : List Duration}

/-- A delivery crashes only with the sink. -/
theorem Reaches.answer_eq_crashed_iff (hreaches : Reaches policy message delivery slept)
    (hjitter : policy.jitter.isNaN = false) (draw : Nat) (reply : Reply) :
    delivery.answer draw reply = .crashed ↔ reply = .crashed := by
  constructor
  · intro hanswer
    rcases answer_eq_crashed hanswer with hcrashed | hnone
    · exact hcrashed
    · obtain ⟨pause, hnext⟩ := (hreaches.onPolicy.bounded hjitter).exists_next? draw
      rw [hnone] at hnext
      cases hnext
  · rintro rfl
    rfl

/-- What is left of a run comes to no report if and only if one of the calls that are left
crashes. -/
theorem Reaches.runFor_eq_none_iff {draws : Nat → Nat} {sink : SinkBehaviour} {clock left : Nat}
    {calls : List Nat} (hreaches : Reaches policy message delivery slept)
    (hjitter : policy.jitter.isNaN = false) (hleft : slept.length + left = policy.attempts) :
    Delivery.runFor draws sink clock calls left delivery = none ↔
      sink.CrashesWithin message.source left := by
  induction left generalizing delivery slept sink clock calls with
  | zero => exact absurd hreaches.length_lt (by omega)
  | succ left ih =>
      obtain ⟨delayMs, reply, after, hcall⟩ : ∃ delayMs reply after,
          sink.call message.source = (delayMs, reply, after) := ⟨_, _, _, rfl⟩
      rw [Delivery.runFor, SinkBehaviour.crashesWithin_succ_iff, hreaches.message_eq, hcall]
      dsimp only
      have hanswers := delivery.answers_answer (draws delivery.made) reply
      generalize hanswer : delivery.answer (draws delivery.made) reply = outcome at hanswers ⊢
      cases hanswers with
      | delivered => simp
      | crashed => simp
      | failed error hmade =>
          -- It was the last attempt, so no call is left.
          rw [hreaches.onPolicy.attempts_eq, hreaches.made_eq] at hmade
          obtain rfl : left = 0 := by omega
          simp [SinkBehaviour.not_crashesWithin_zero]
      | pause error duration hmade hpause =>
          have hnext : (slept ++ [duration]).length + left = policy.attempts := by
            rw [List.length_append, List.length_singleton]
            omega
          rw [ih (hreaches.pause hanswer) hnext]
          simp
      | unsettled error hnone =>
          obtain ⟨pause, hsome⟩ := (hreaches.onPolicy.bounded hjitter).exists_next?
            (draws delivery.made)
          rw [hnone] at hsome
          cases hsome

theorem run_eq_none_iff {draws : Nat → Nat} {sink : SinkBehaviour}
    (hjitter : policy.jitter.isNaN = false) :
    run policy draws sink message = none ↔
      sink.CrashesWithin message.source policy.attempts :=
  Reaches.start.runFor_eq_none_iff hjitter (Nat.zero_add _)

end Delivery

namespace Config

/-- Under valid settings every pause before the last attempt is computed, whatever the random
choices are, the counters stay within 32 bits, and a delivery crashes if and only if one of its
calls of the sink does. -/
theorem retries_never_fail {config : Config} (hvalid : config.validate = .ok ()) :
    (∀ draws count, count < config.retry.maxAttempts.toNat →
      ∃ backoffs pauses, Backoff.Calls config.retry.backoff draws count backoffs pauses ∧
        ∀ index < count,
          (backoffs index).Computable ∧ (backoffs index).count + 1 < UInt32.size) ∧
      (∀ message delivery slept, Delivery.Reaches config.retry message delivery slept →
        delivery.made < UInt32.size ∧
          ∀ draw reply, delivery.answer draw reply = .crashed ↔ reply = .crashed) ∧
      ∀ draws sink message, Delivery.run config.retry draws sink message = none ↔
        sink.CrashesWithin message.source config.retry.maxAttempts.toNat := by
  obtain ⟨hsound, -⟩ := isSound_of_validate hvalid
  have hjitter := isNaN_jitter_of_validateRetry (validateRetry_of_validate hvalid)
  have hattempts := RetryPolicy.attempts_of_pos hsound.retry.attempts
  have hlimit := config.retry.maxAttempts.toNat_lt
  have hbounded := Backoff.bounded_of_policy hjitter
  refine ⟨fun draws count hcount => ?_, fun message delivery slept hreaches => ⟨?_, ?_⟩, ?_⟩
  · obtain ⟨pauses, hcalls⟩ := hbounded.exists_calls draws count
    refine ⟨_, pauses, hcalls, fun index hindex => ⟨(hbounded.iterate index).computable, ?_⟩⟩
    have hstart : config.retry.backoff.count = 0 := rfl
    rw [Backoff.iterate_count, hstart]
    simp only [UInt32.size]
    omega
  · have hlength := hreaches.length_lt
    rw [hreaches.made_eq]
    simp only [UInt32.size]
    omega
  · exact hreaches.answer_eq_crashed_iff hjitter
  · intro draws sink message
    rw [Delivery.run_eq_none_iff hjitter, hattempts]

/-- The most attempts, the longest delays, the greatest jitter and an infinite multiplier. -/
def extremeConfig : Config :=
  { Config.standard with
    container := ⟨"f00d", "api"⟩
    retry := ⟨4294967295, 18446744073709551615, 18446744073709551615, Binary64.one,
      .infinite false⟩ }

theorem retries_never_fail_at_bounds :
    extremeConfig.validate = .ok () ∧
      (∀ draws, ∃ backoffs pauses,
        Backoff.Calls extremeConfig.retry.backoff draws 4294967294 backoffs pauses) ∧
      ∀ draws sink message, Delivery.run extremeConfig.retry draws sink message = none ↔
        sink.CrashesWithin message.source extremeConfig.retry.maxAttempts.toNat := by
  have hvalid : extremeConfig.validate = .ok () := by decide +kernel
  obtain ⟨hpauses, -, hruns⟩ := retries_never_fail hvalid
  refine ⟨hvalid, fun draws => ?_, hruns⟩
  obtain ⟨backoffs, pauses, hcalls, -⟩ := hpauses draws 4294967294 (by decide +kernel)
  exact ⟨backoffs, pauses, hcalls⟩

end Config

end LogRelay
