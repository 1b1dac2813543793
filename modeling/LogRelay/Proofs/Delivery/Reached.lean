import LogRelay.Delivery.Timeline
import LogRelay.Proofs.Delivery.Answers
import LogRelay.Proofs.Retry.Delays

/-!
# The calls that a delivery comes to

A delivery comes from one call to the next by a refusal and a pause.  Behind as many pauses it
has made one call more, and its backoff has advanced as often, whatever the pauses were.  What
a run reports is the last of the calls that it has come to.
-/

namespace LogRelay

/-- How long as many calls for messages of the source take. -/
def SinkBehaviour.timeOf (source : Source) : SinkBehaviour → Nat → Nat
  | _, 0 => 0
  | sink, count + 1 => (sink.call source).1 + timeOf source (sink.call source).2.2 count

namespace Delivery

variable {policy : RetryPolicy} {message : Message} {delivery next : Delivery}
variable {slept : List Duration} {duration : Duration} {draw : Nat} {reply : Reply}

/-- The delivery can come to this call with these pauses behind it. -/
inductive Reaches (policy : RetryPolicy) (message : Message) : Delivery → List Duration → Prop
  | start : Reaches policy message (start policy message) []
  | pause {delivery next : Delivery} {slept : List Duration} {duration : Duration} {draw : Nat}
      {reply : Reply} (hreaches : Reaches policy message delivery slept)
      (hanswer : delivery.answer draw reply = .pause duration next) :
      Reaches policy message next (slept ++ [duration])

namespace Reaches

theorem onPolicy (hreaches : Reaches policy message delivery slept) :
    delivery.OnPolicy policy := by
  induction hreaches with
  | start => exact onPolicy_start policy message
  | pause _ hanswer ih => exact ih.pause hanswer

theorem message_eq (hreaches : Reaches policy message delivery slept) :
    delivery.message = message := by
  induction hreaches with
  | start => rfl
  | pause _ hanswer ih =>
      obtain ⟨-, -, rfl⟩ := answer_eq_pause hanswer
      exact ih

theorem made_eq (hreaches : Reaches policy message delivery slept) :
    delivery.made = slept.length + 1 := by
  induction hreaches with
  | start => rfl
  | pause _ hanswer ih =>
      obtain ⟨-, -, rfl⟩ := answer_eq_pause hanswer
      rw [List.length_append, List.length_singleton, ih]

theorem backoff_eq (hreaches : Reaches policy message delivery slept) :
    delivery.backoff = Backoff.advance^[slept.length] policy.backoff := by
  induction hreaches with
  | start => rfl
  | pause _ hanswer ih =>
      obtain ⟨-, -, rfl⟩ := answer_eq_pause hanswer
      rw [List.length_append, List.length_singleton, Function.iterate_succ_apply', ← ih]

/-- Behind the pauses there is an attempt left. -/
theorem length_lt (hreaches : Reaches policy message delivery slept) :
    slept.length < policy.attempts := by
  have hmade := hreaches.onPolicy.made_le
  rwa [hreaches.made_eq] at hmade

end Reaches

/-- A run reports a call that it has come to.  It is over at the end of that call, and until
then it has been calling the sink or pausing. -/
theorem Reaches.runFor {draws : Nat → Nat} {sink rest : SinkBehaviour} {clock left : Nat}
    {calls : List Nat} {report : Report} (hreaches : Reaches policy message delivery slept)
    (hrun : runFor draws sink clock calls left delivery = some (report, rest)) :
    ∃ last more, Reaches policy message last (slept ++ more) ∧
      report.calls.length = calls.length + more.length + 1 ∧
      report.elapsed = clock + sink.timeOf message.source (more.length + 1) +
        (more.map Duration.ceilMillis).sum := by
  induction left generalizing delivery slept sink clock calls with
  | zero => cases hrun
  | succ left ih =>
      obtain ⟨delayMs, reply, after, hcall⟩ : ∃ delayMs reply after,
          sink.call message.source = (delayMs, reply, after) := ⟨_, _, _, rfl⟩
      have htime : ∀ count, sink.timeOf message.source (count + 1) =
          delayMs + after.timeOf message.source count := by
        intro count
        rw [SinkBehaviour.timeOf, hcall]
      have honce : sink.timeOf message.source 1 = delayMs := htime 0
      rw [Delivery.runFor, hreaches.message_eq, hcall] at hrun
      dsimp only at hrun
      split at hrun
      · cases hrun
        exact ⟨delivery, [], by rwa [List.append_nil], by simp, by simp [honce]⟩
      · cases hrun
        exact ⟨delivery, [], by rwa [List.append_nil], by simp, by simp [honce]⟩
      · next duration next hanswer =>
          obtain ⟨last, more, hlast, hcalls, helapsed⟩ := ih (hreaches.pause hanswer) hrun
          refine ⟨last, duration :: more, by simpa using hlast, ?_, ?_⟩
          · rw [hcalls, List.length_cons, List.length_cons]
            omega
          · rw [helapsed, List.length_cons, List.map_cons, List.sum_cons, htime]
            omega
      · cases hrun

/-- A report tells of every call, and of the time of all calls and pauses. -/
theorem exists_reaches_of_run {draws : Nat → Nat} {sink rest : SinkBehaviour} {report : Report}
    (hrun : run policy draws sink message = some (report, rest)) :
    ∃ last slept, Reaches policy message last slept ∧ report.calls.length = slept.length + 1 ∧
      report.elapsed = sink.timeOf message.source (slept.length + 1) +
        (slept.map Duration.ceilMillis).sum := by
  obtain ⟨last, slept, hlast, hcalls, helapsed⟩ := Reaches.start.runFor hrun
  refine ⟨last, slept, hlast, ?_, ?_⟩
  · rw [hcalls, List.length_nil, Nat.zero_add]
  · rw [helapsed, Nat.zero_add]

end Delivery

end LogRelay
