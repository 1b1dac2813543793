import LogRelay.Proofs.Delivery.Milliseconds
import Mathlib.Algebra.Group.Action.Defs
import Mathlib.Algebra.Order.BigOperators.Group.List

/-!
# Delays and pauses within the cap

Whatever the multiplier is, the delays of a backoff are capped from the first one on.  Without
jitter the pauses are the delays, so a delivery that has called the sink so many times has
slept for the cap once less at most.
-/

namespace LogRelay

namespace Backoff

variable {initial cap : Duration} {jitter multiplier : Binary64} {draws : Nat → Nat}
variable {count : Nat} {backoffs : Nat → Backoff} {pauses : Nat → Duration}

/-- The delays of as many calls begin with the initial one and stay below the cap, the pauses
are these delays and a random part, and the counter counts the calls in its 32 bits. -/
structure Capped (initial cap : Duration) (jitter : Binary64) (count : Nat)
    (backoffs : Nat → Backoff) (pauses : Nat → Duration) : Prop where
  first : (backoffs 0).current.nanos = min initial.nanos cap.nanos
  le : ∀ index < count, (backoffs index).current.nanos ≤ cap.nanos
  pause : ∀ index < count, (backoffs index).current.nanos ≤ (pauses index).nanos
  plain : jitter.StandsFor 0 → ∀ index < count, pauses index = (backoffs index).current
  counter : ∀ index ≤ count, (backoffs index).count = index ∧ index < UInt32.size

theorem current_le_of_pause? {backoff : Backoff} {draw : Nat} {pause : Duration}
    (hpause : backoff.pause? draw = some pause) : backoff.current.nanos ≤ pause.nanos := by
  rw [pause?, Option.bind_eq_bind, Option.bind_eq_some_iff] at hpause
  obtain ⟨spread, -, hpause⟩ := hpause
  split at hpause
  · cases hpause
    exact Nat.le_refl _
  · rw [Duration.ofNanos?] at hpause
    split at hpause
    · cases hpause
      exact Nat.le_add_right _ _
    · cases hpause

theorem Calls.capped (hcalls : Calls (start initial cap jitter multiplier) draws count backoffs
    pauses) (hcount : count < UInt32.size) : Capped initial cap jitter count backoffs pauses where
  first := by
    rw [hcalls.first, start]
    exact Duration.nanos_min initial cap
  le := by
    intro index hindex
    rw [hcalls.backoff_eq hindex.le]
    exact iterate_current_le (start_current_le initial cap jitter multiplier) index
  pause := by
    intro index hindex
    exact current_le_of_pause? (next?_eq_some_iff.mp (hcalls.next index hindex)).1
  plain := by
    intro hjitter index hindex
    have hpause := (next?_eq_some_iff.mp (hcalls.next index hindex)).1
    have hplain : (backoffs index).jitter.StandsFor 0 := by
      rw [hcalls.backoff_eq hindex.le, iterate_jitter]
      exact start_jitter_of_zero hjitter initial cap multiplier
    rw [pause?_of_jitter hplain, Option.some.injEq] at hpause
    exact hpause.symm
  counter := by
    intro index hindex
    rw [hcalls.backoff_eq hindex, iterate_count]
    exact ⟨Nat.zero_add index, hindex.trans_lt hcount⟩

end Backoff

namespace Delivery

variable {policy : RetryPolicy} {message : Message} {delivery : Delivery} {slept : List Duration}

/-- Without jitter no pause is longer than the cap. -/
theorem Reaches.nanos_le (hreaches : Reaches policy message delivery slept)
    (hjitter : policy.jitter.StandsFor 0) :
    ∀ duration ∈ slept, duration.nanos ≤ policy.maxDelayMs.toNat * nanosPerMilli := by
  induction hreaches with
  | start => exact fun _ hmem => absurd hmem List.not_mem_nil
  | @pause delivery next slept duration draw reply hbefore hanswer ih =>
      intro pause hmem
      rcases List.mem_append.mp hmem with hearlier | hlast
      · exact ih pause hearlier
      · obtain rfl := List.mem_singleton.mp hlast
        have hpause := pause?_of_answer hanswer
        have hplain : (Backoff.advance^[slept.length] policy.backoff).jitter.StandsFor 0 := by
          rw [Backoff.iterate_jitter]
          exact Backoff.start_jitter_of_zero hjitter _ _ _
        rw [hbefore.backoff_eq, Backoff.pause?_of_jitter hplain, Option.some.injEq] at hpause
        rw [← hpause]
        exact Backoff.iterate_current_le (Backoff.start_current_le _ _ _ _) slept.length

theorem Reaches.sum_nanos_le (hreaches : Reaches policy message delivery slept)
    (hjitter : policy.jitter.StandsFor 0) :
    (slept.map Duration.nanos).sum ≤
      slept.length * (policy.maxDelayMs.toNat * nanosPerMilli) := by
  have hsum := List.sum_le_card_nsmul (slept.map Duration.nanos) _
    (List.forall_mem_map.mpr (hreaches.nanos_le hjitter))
  rwa [List.length_map, smul_eq_mul] at hsum

theorem Reaches.sum_ceilMillis_le (hreaches : Reaches policy message delivery slept)
    (hjitter : policy.jitter.StandsFor 0) :
    (slept.map Duration.ceilMillis).sum ≤ slept.length * policy.maxDelayMs.toNat := by
  have hsum := List.sum_le_card_nsmul (slept.map Duration.ceilMillis) _
    (List.forall_mem_map.mpr fun duration hmem =>
      Duration.ceilMillis_le_iff.mpr (hreaches.nanos_le hjitter duration hmem))
  rwa [List.length_map, smul_eq_mul] at hsum

/-- The cap always holds.  A backoff never has a delay above it, whatever it is set up with,
and without jitter a delivery that has called the sink so many times has slept for the cap
once less at most, whatever the multiplier is and whenever the delivery is over. -/
theorem delays_and_pauses_capped :
    (∀ (initial cap : Duration) (jitter multiplier : Binary64) (draws : Nat → Nat) (count : Nat)
        (backoffs : Nat → Backoff) (pauses : Nat → Duration), count < UInt32.size →
      Backoff.Calls (Backoff.start initial cap jitter multiplier) draws count backoffs pauses →
        Backoff.Capped initial cap jitter count backoffs pauses) ∧
      ∀ (policy : RetryPolicy) (message : Message), policy.jitter.StandsFor 0 →
        (∀ delivery slept, Reaches policy message delivery slept →
          delivery.made = slept.length + 1 ∧
            (slept.map Duration.nanos).sum ≤
              (delivery.made - 1) * (policy.maxDelayMs.toNat * nanosPerMilli)) ∧
        ∀ draws sink report rest, run policy draws sink message = some (report, rest) →
          report.elapsed ≤ sink.timeOf message.source report.calls.length +
            (report.calls.length - 1) * policy.maxDelayMs.toNat := by
  refine ⟨fun initial cap jitter multiplier draws count backoffs pauses hcount hcalls =>
    hcalls.capped hcount, fun policy message hjitter => ⟨?_, ?_⟩⟩
  · intro delivery slept hreaches
    rw [hreaches.made_eq, Nat.add_sub_cancel]
    exact ⟨rfl, hreaches.sum_nanos_le hjitter⟩
  · intro draws sink report rest hrun
    obtain ⟨last, slept, hlast, hcalls, helapsed⟩ := exists_reaches_of_run hrun
    rw [hcalls, helapsed, Nat.add_sub_cancel]
    exact Nat.add_le_add_left (hlast.sum_ceilMillis_le hjitter) _

/-- Two calls with a multiplier that is no number and a jitter of negative zero, and a delivery
with a multiplier of ten to the 300th that the sink refuses three times. -/
theorem delays_and_pauses_capped_of_any_multiplier :
    (∃ backoffs pauses,
        Backoff.Calls (Backoff.start (Duration.ofMillis 500) (Duration.ofMillis 300)
          (Binary64.zero true) .nan) (fun _ => 0) 2 backoffs pauses ∧
        Backoff.Capped (Duration.ofMillis 500) (Duration.ofMillis 300) (Binary64.zero true) 2
          backoffs pauses) ∧
      ∃ report rest, run ⟨3, 500, 1000, Binary64.zero false, Binary64.ofDecimal false 1 300⟩
          (fun _ => 0) ⟨[⟨7, .refused (.sink "busy"), 3⟩], []⟩ default = some (report, rest) ∧
        report.calls.length = 3 ∧ report.elapsed ≤ 3 * 7 + 2 * 1000 := by
  obtain ⟨hcalls, hruns⟩ := delays_and_pauses_capped
  constructor
  · have hjitter := Backoff.start_jitter_of_zero (Binary64.standsFor_zero true)
      (Duration.ofMillis 500) (Duration.ofMillis 300) .nan
    have hplain := Backoff.calls_of_jitter hjitter (fun _ => 0) 2
    exact ⟨_, _, hplain, hcalls _ _ _ _ _ _ _ _ (by decide) hplain⟩
  · have hrun : (run ⟨3, 500, 1000, Binary64.zero false, Binary64.ofDecimal false 1 300⟩
        (fun _ => 0) ⟨[⟨7, .refused (.sink "busy"), 3⟩], []⟩ default).map
          (fun pair => pair.1.calls.length) = some 3 := by decide +kernel
    obtain ⟨⟨report, rest⟩, hreport, hthree⟩ := Option.map_eq_some_iff.mp hrun
    have hcapped := (hruns _ default (Binary64.standsFor_zero false)).2 _ _ report rest hreport
    dsimp only at hthree
    rw [hthree] at hcapped
    exact ⟨report, rest, hreport, hthree, hcapped⟩

end Delivery

end LogRelay
