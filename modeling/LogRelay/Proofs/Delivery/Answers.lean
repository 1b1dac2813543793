import LogRelay.Delivery.Basic
import LogRelay.Proofs.Retry.Backoff

/-!
# What deliveries make of replies

A delivery is over with the first reply that is no refusal or with the last attempt, and
pauses otherwise.  So it keeps to the policy, and it crashes only with the sink or where a
pause cannot be computed.
-/

namespace LogRelay

namespace Delivery

variable {delivery next : Delivery} {draw : Nat} {reply : Reply} {error : Error}
variable {duration : Duration}

/-- What a delivery can make of a reply. -/
inductive Answers (delivery : Delivery) (draw : Nat) : Reply → Outcome → Prop where
  | delivered : Answers delivery draw .accepted .delivered
  | crashed : Answers delivery draw .crashed .crashed
  /-- A message is given up when no attempt is left. -/
  | failed (error : Error) (hmade : delivery.attempts ≤ delivery.made) :
      Answers delivery draw (.refused error) (.failed (.dispatch delivery.made error.message))
  /-- A pause comes before another attempt at the same message. -/
  | pause (error : Error) (duration : Duration) (hmade : delivery.made < delivery.attempts)
      (hpause : delivery.backoff.pause? draw = some duration) :
      Answers delivery draw (.refused error) (.pause duration
        { delivery with made := delivery.made + 1, backoff := delivery.backoff.advance })
  | unsettled (error : Error) (hnone : delivery.backoff.next? draw = none) :
      Answers delivery draw (.refused error) .crashed

theorem answers_answer (delivery : Delivery) (draw : Nat) (reply : Reply) :
    delivery.Answers draw reply (delivery.answer draw reply) := by
  cases reply with
  | accepted => exact .delivered
  | crashed => exact .crashed
  | refused error =>
      rw [answer]
      split
      · next hmade => exact .failed error hmade
      · next hmade =>
          cases hpause : delivery.backoff.pause? draw with
          | none =>
              have hnone : delivery.backoff.next? draw = none := by simp [Backoff.next?, hpause]
              rw [hnone]
              exact .unsettled error hnone
          | some duration =>
              have hsome : delivery.backoff.next? draw =
                  some (duration, delivery.backoff.advance) := by
                simp [Backoff.next?, hpause]
              rw [hsome]
              exact .pause error duration (Nat.lt_of_not_le hmade) hpause

theorem answer_eq_delivered (hanswer : delivery.answer draw reply = .delivered) :
    reply = .accepted := by
  have hanswers := delivery.answers_answer draw reply
  rw [hanswer] at hanswers
  cases hanswers
  rfl

theorem answer_eq_failed (hanswer : delivery.answer draw reply = .failed error) :
    delivery.attempts ≤ delivery.made ∧ ∃ cause, reply = .refused cause := by
  have hanswers := delivery.answers_answer draw reply
  rw [hanswer] at hanswers
  cases hanswers with
  | failed cause hmade => exact ⟨hmade, cause, rfl⟩

theorem answer_eq_pause (hanswer : delivery.answer draw reply = .pause duration next) :
    delivery.made < delivery.attempts ∧ (∃ cause, reply = .refused cause) ∧
      next = { delivery with made := delivery.made + 1, backoff := delivery.backoff.advance } := by
  have hanswers := delivery.answers_answer draw reply
  rw [hanswer] at hanswers
  cases hanswers with
  | pause cause _ hmade hpause => exact ⟨hmade, ⟨cause, rfl⟩, rfl⟩

theorem pause?_of_answer (hanswer : delivery.answer draw reply = .pause duration next) :
    delivery.backoff.pause? draw = some duration := by
  have hanswers := delivery.answers_answer draw reply
  rw [hanswer] at hanswers
  cases hanswers with
  | pause cause _ hmade hpause => exact hpause

theorem answer_eq_crashed (hanswer : delivery.answer draw reply = .crashed) :
    reply = .crashed ∨ delivery.backoff.next? draw = none := by
  have hanswers := delivery.answers_answer draw reply
  rw [hanswer] at hanswers
  cases hanswers with
  | crashed => exact Or.inl rfl
  | unsettled cause hnone => exact Or.inr hnone

end Delivery

/-! ## Deliveries of a policy -/

/-- The delivery has made one of the attempts of the policy, and its pauses can be
computed if the jitter is a number. -/
structure Delivery.OnPolicy (policy : RetryPolicy) (delivery : Delivery) : Prop where
  attempts_eq : delivery.attempts = policy.attempts
  made_pos : 0 < delivery.made
  made_le : delivery.made ≤ policy.attempts
  bounded : policy.jitter.isNaN = false → delivery.backoff.Bounded

theorem Delivery.onPolicy_start (policy : RetryPolicy) (message : Message) :
    (Delivery.start policy message).OnPolicy policy where
  attempts_eq := rfl
  made_pos := Nat.one_pos
  made_le := Nat.le_max_right _ _
  bounded := Backoff.bounded_of_policy

theorem Delivery.OnPolicy.pause {policy : RetryPolicy} {delivery next : Delivery} {draw : Nat}
    {reply : Reply} {duration : Duration} (hpolicy : delivery.OnPolicy policy)
    (hanswer : delivery.answer draw reply = .pause duration next) : next.OnPolicy policy := by
  obtain ⟨hmade, -, rfl⟩ := answer_eq_pause hanswer
  exact ⟨hpolicy.attempts_eq, Nat.succ_pos _, hpolicy.attempts_eq ▸ hmade,
    fun hjitter => (hpolicy.bounded hjitter).advance⟩

end LogRelay
