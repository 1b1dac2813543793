import LogRelay.Delivery.Timeline
import LogRelay.Proofs.Retry.Backoff

/-!
# Deliveries are bounded retries

A delivery calls the sink until the sink takes the message or the attempts of the policy
are used up, whatever the calls come to and however long they take.  Between two calls it
waits for the next pause of a backoff that is its own, so it does not matter what was
delivered before.  Before the first call and behind the last one there is no pause.
-/

namespace LogRelay

theorem RetryPolicy.attempts_pos (policy : RetryPolicy) : 0 < policy.attempts :=
  Nat.lt_of_lt_of_le Nat.one_pos (Nat.le_max_right _ _)

theorem RetryPolicy.attempts_lt_size (policy : RetryPolicy) : policy.attempts < UInt32.size :=
  Nat.max_lt.mpr ⟨policy.maxAttempts.toNat_lt, by decide⟩

/-! ## Outcomes -/

/-- What the calls of a sink come to, and how long they take. -/
abbrev Outcomes := Nat → Nat × Except Error Unit

def Reply.ofOutcome : Except Error Unit → Reply
  | .ok _ => .accepted
  | .error error => .refused error

namespace SinkScript

/-- The description of the calls behind that many. -/
def after (script : SinkScript) : Nat → SinkScript
  | 0 => script
  | count + 1 => (after script count).next.2.2

/-- As many calls come to these outcomes. -/
def Plays (script : SinkScript) (outcomes : Outcomes) (count : Nat) : Prop :=
  ∀ index < count, ∃ rest, (script.after index).next =
    ((outcomes index).1, .ofOutcome (outcomes index).2, rest)

/-- Calls that come to the outcomes from the first one on. -/
def playing (outcomes : Outcomes) (first count : Nat) : SinkScript :=
  (List.range' first count).map fun index =>
    ⟨(outcomes index).1, .ofOutcome (outcomes index).2, 1⟩

theorem next_after_playing (outcomes : Outcomes) (index first count : Nat) :
    ((playing outcomes first (index + count)).after index).next =
      (playing outcomes (first + index) count).next := by
  induction index generalizing count with
  | zero => rw [after, Nat.zero_add, Nat.add_zero]
  | succ index ih =>
      have hbefore := ih (count + 1)
      rw [← Nat.add_assoc, Nat.add_right_comm] at hbefore
      rw [after, hbefore, playing, List.range'_succ, List.map_cons, next, if_neg Nat.one_ne_zero,
        Nat.add_assoc]
      rfl

/-- There is a sink for every sequence of outcomes. -/
theorem plays_playing (outcomes : Outcomes) (count : Nat) :
    (playing outcomes 0 count).Plays outcomes count := by
  intro index hindex
  obtain ⟨more, rfl⟩ := Nat.exists_eq_add_of_lt hindex
  rw [Nat.add_assoc, next_after_playing, Nat.zero_add, playing, List.range'_succ, List.map_cons,
    next, if_neg Nat.one_ne_zero]
  exact ⟨_, rfl⟩

end SinkScript

namespace SinkBehaviour

variable {sink : SinkBehaviour} {source : Source} {outcomes : Outcomes} {count index : Nat}

/-- The sink behind that many calls for messages of the source. -/
def afterCalls (sink : SinkBehaviour) (source : Source) (count : Nat) : SinkBehaviour :=
  sink.setScript source ((sink.script source).after count)

@[simp]
theorem afterCalls_zero (sink : SinkBehaviour) (source : Source) :
    sink.afterCalls source 0 = sink := by
  cases source <;> rfl

theorem call_afterCalls (hplays : (sink.script source).Plays outcomes count)
    (hindex : index < count) :
    (sink.afterCalls source index).call source =
      ((outcomes index).1, .ofOutcome (outcomes index).2, sink.afterCalls source (index + 1)) := by
  obtain ⟨rest, hnext⟩ := hplays index hindex
  have hafter : (sink.script source).after (index + 1) = rest := by
    rw [SinkScript.after, hnext]
  rw [afterCalls, afterCalls, hafter]
  cases source with
  | stdout =>
      have hcall : ((sink.script .stdout).after index).next = _ := hnext
      simp only [call, script, setScript] at hcall ⊢
      rw [hcall]
  | stderr =>
      have hcall : ((sink.script .stderr).after index).next = _ := hnext
      simp only [call, script, setScript] at hcall ⊢
      rw [hcall]

end SinkBehaviour

/-! ## Pauses -/

/-- The backoff of a delivery under the policy, and the pauses it hands out one after the
other. -/
structure Pauses (policy : RetryPolicy) (draws : Nat → Nat) (backoffs : Nat → Backoff)
    (pauses : Nat → Duration) : Prop where
  first : backoffs 0 = policy.backoff
  next : ∀ index, (backoffs index).next? (draws (index + 1)) =
    some (pauses index, backoffs (index + 1))

namespace Pauses

variable {policy : RetryPolicy} {draws : Nat → Nat} {backoffs : Nat → Backoff}
variable {pauses : Nat → Duration}

/-- There are pauses for every policy whose jitter is a number. -/
theorem exists_pauses (hjitter : policy.jitter.isNaN = false) (draws : Nat → Nat) :
    ∃ backoffs pauses, Pauses policy draws backoffs pauses := by
  have hbounded := Backoff.bounded_of_policy hjitter
  choose pauses hpauses using fun index =>
    (hbounded.iterate index).exists_next? (draws (index + 1))
  refine ⟨fun index => Backoff.advance^[index] policy.backoff, pauses, rfl, fun index => ?_⟩
  rw [hpauses, ← Function.iterate_succ_apply' Backoff.advance]

theorem count_eq (hpauses : Pauses policy draws backoffs pauses) (index : Nat) :
    (backoffs index).count = index := by
  induction index with
  | zero =>
      rw [hpauses.first]
      rfl
  | succ index ih => rw [Backoff.count_eq_of_next? (hpauses.next index), ih]

end Pauses

namespace Delivery

variable {policy : RetryPolicy} {message : Message} {outcomes : Outcomes}
variable {attempts last index : Nat} {draws : Nat → Nat}
variable {backoffs : Nat → Backoff} {pauses : Nat → Duration} {sink : SinkBehaviour}

/-! ## The last call -/

/-- The call is the first one whose outcome is no error, or the last one there may be. -/
structure StopsAt (attempts : Nat) (outcomes : Outcomes) (last : Nat) : Prop where
  lt : last < attempts
  refused : ∀ index < last, ∃ error, (outcomes index).2 = .error error
  stops : (outcomes last).2 = .ok () ∨ last + 1 = attempts

theorem exists_error_of_ne {outcome : Except Error Unit} (houtcome : outcome ≠ .ok ()) :
    ∃ error, outcome = .error error := by
  cases outcome with
  | error error => exact ⟨error, rfl⟩
  | ok value => exact absurd rfl houtcome

theorem exists_stopsAt (outcomes : Outcomes) (hattempts : 0 < attempts) :
    ∃ last, StopsAt attempts outcomes last := by
  classical
  by_cases hok : ∃ index, index < attempts ∧ (outcomes index).2 = .ok ()
  · obtain ⟨hlast, hstops⟩ := Nat.find_spec hok
    refine ⟨Nat.find hok, hlast, fun index hindex => exists_error_of_ne fun hfirst => ?_,
      Or.inl hstops⟩
    exact Nat.find_min hok hindex ⟨Nat.lt_trans hindex hlast, hfirst⟩
  · refine ⟨attempts - 1, by omega, fun index hindex => exists_error_of_ne fun hfirst => ?_,
      Or.inr (by omega)⟩
    exact hok ⟨index, by omega, hfirst⟩

theorem StopsAt.le {other : Nat} (hlast : StopsAt attempts outcomes last)
    (hother : StopsAt attempts outcomes other) : last ≤ other := by
  by_contra hnot
  obtain ⟨error, herror⟩ := hlast.refused other (Nat.lt_of_not_le hnot)
  rcases hother.stops with hok | hend
  · rw [herror] at hok
    cases hok
  · have hlt := hlast.lt
    omega

/-- There is only one last call. -/
theorem StopsAt.eq {other : Nat} (hlast : StopsAt attempts outcomes last)
    (hother : StopsAt attempts outcomes other) : last = other :=
  Nat.le_antisymm (hlast.le hother) (hother.le hlast)

/-! ## The run -/

/-- The delivery at the call with that index, behind as many refusals. -/
def atCall (policy : RetryPolicy) (message : Message) (backoffs : Nat → Backoff) (index : Nat) :
    Delivery where
  message := message
  attempts := policy.attempts
  made := index + 1
  backoff := backoffs index

/-- The time of the call with that index: a pause behind the end of the one before. -/
def callTime (outcomes : Outcomes) (pauses : Nat → Duration) : Nat → Nat
  | 0 => 0
  | index + 1 => callTime outcomes pauses index + (outcomes index).1 + (pauses index).ceilMillis

/-- What a delivery comes to if the outcome of its last call is this. -/
def resultOf (attempts : Nat) : Except Error Unit → Except Error Unit
  | .ok _ => .ok ()
  | .error error => .error (.dispatch attempts error.message)

/-- The report of a delivery that makes its calls up to that one. -/
def reportOf (policy : RetryPolicy) (message : Message) (outcomes : Outcomes)
    (pauses : Nat → Duration) (last : Nat) : Report where
  message := message
  calls := (List.range (last + 1)).map (callTime outcomes pauses)
  elapsed := callTime outcomes pauses last + (outcomes last).1
  result := resultOf policy.attempts (outcomes last).2

/-- The delivery goes from call to call with these pauses, and its counters stay within
32 bits. -/
structure Retries (policy : RetryPolicy) (draws : Nat → Nat) (message : Message)
    (outcomes : Outcomes) (backoffs : Nat → Backoff) (pauses : Nat → Duration) (last : Nat) :
    Prop where
  start_eq : start policy message = atCall policy message backoffs 0
  pause : ∀ index < last,
    (atCall policy message backoffs index).answer (draws (index + 1))
        (.ofOutcome (outcomes index).2) =
      .pause (pauses index) (atCall policy message backoffs (index + 1))
  made_lt : ∀ index ≤ last, (atCall policy message backoffs index).made < UInt32.size
  count_lt : ∀ index ≤ last, (atCall policy message backoffs index).backoff.count < UInt32.size

theorem start_eq_atCall (hpauses : Pauses policy draws backoffs pauses) :
    start policy message = atCall policy message backoffs 0 := by
  rw [atCall, hpauses.first]
  rfl

/-- A refusal before the last attempt makes the delivery pause and go on. -/
theorem answer_atCall (hpauses : Pauses policy draws backoffs pauses)
    (hindex : index + 1 < policy.attempts) (error : Error) :
    (atCall policy message backoffs index).answer (draws (index + 1)) (.refused error) =
      .pause (pauses index) (atCall policy message backoffs (index + 1)) := by
  have hmade : ¬ (atCall policy message backoffs index).attempts ≤
      (atCall policy message backoffs index).made := Nat.not_le_of_lt hindex
  have hnext : (atCall policy message backoffs index).backoff.next? (draws (index + 1)) =
      some (pauses index, backoffs (index + 1)) := hpauses.next index
  rw [answer, if_neg hmade, hnext]
  rfl

/-- The last call settles the result. -/
theorem answer_atCall_last (hlast : StopsAt policy.attempts outcomes last) (draw : Nat) :
    (atCall policy message backoffs last).answer draw (.ofOutcome (outcomes last).2) =
      match resultOf policy.attempts (outcomes last).2 with
      | .ok _ => .delivered
      | .error error => .failed error := by
  cases houtcome : (outcomes last).2 with
  | ok value => rfl
  | error error =>
      rcases hlast.stops with hok | hend
      · rw [houtcome] at hok
        cases hok
      · have hmade : (atCall policy message backoffs last).attempts ≤
            (atCall policy message backoffs last).made := Nat.le_of_eq hend.symm
        rw [Reply.ofOutcome, answer, if_pos hmade, resultOf, ← hend]
        rfl

theorem retries_of_stopsAt (hpauses : Pauses policy draws backoffs pauses)
    (hlast : StopsAt policy.attempts outcomes last) (message : Message) :
    Retries policy draws message outcomes backoffs pauses last where
  start_eq := start_eq_atCall hpauses
  pause := by
    intro index hindex
    obtain ⟨error, herror⟩ := hlast.refused index hindex
    rw [herror]
    exact answer_atCall hpauses (Nat.lt_of_le_of_lt hindex hlast.lt) error
  made_lt := by
    intro index hindex
    exact Nat.lt_of_le_of_lt (Nat.lt_of_le_of_lt hindex hlast.lt) policy.attempts_lt_size
  count_lt := by
    intro index hindex
    rw [atCall, hpauses.count_eq]
    exact Nat.lt_trans (Nat.lt_of_le_of_lt hindex hlast.lt) policy.attempts_lt_size

theorem reverse_callTimes (outcomes : Outcomes) (pauses : Nat → Duration) (index : Nat) :
    callTime outcomes pauses index :: ((List.range index).map (callTime outcomes pauses)).reverse =
      ((List.range (index + 1)).map (callTime outcomes pauses)).reverse := by
  rw [List.range_succ, List.map_append, List.reverse_append]
  rfl

/-- The rest of a run, from the call with that index on. -/
def runFrom (policy : RetryPolicy) (draws : Nat → Nat) (sink : SinkBehaviour) (message : Message)
    (outcomes : Outcomes) (backoffs : Nat → Backoff) (pauses : Nat → Duration) (index : Nat) :
    Option (Report × SinkBehaviour) :=
  runFor draws (sink.afterCalls message.source index) (callTime outcomes pauses index)
    ((List.range index).map (callTime outcomes pauses)).reverse (policy.attempts - index)
    (atCall policy message backoffs index)

theorem runFrom_eq (hplays : (sink.script message.source).Plays outcomes policy.attempts)
    (hindex : index < policy.attempts) :
    runFrom policy draws sink message outcomes backoffs pauses index =
      match (atCall policy message backoffs index).answer (draws (index + 1))
        (.ofOutcome (outcomes index).2) with
      | .delivered => some (⟨message, (List.range (index + 1)).map (callTime outcomes pauses),
          callTime outcomes pauses index + (outcomes index).1, .ok ()⟩,
          sink.afterCalls message.source (index + 1))
      | .failed error => some (⟨message, (List.range (index + 1)).map (callTime outcomes pauses),
          callTime outcomes pauses index + (outcomes index).1, .error error⟩,
          sink.afterCalls message.source (index + 1))
      | .pause duration next => runFor draws (sink.afterCalls message.source (index + 1))
          (callTime outcomes pauses index + (outcomes index).1 + duration.ceilMillis)
          ((List.range (index + 1)).map (callTime outcomes pauses)).reverse
          (policy.attempts - (index + 1)) next
      | .crashed => none := by
  have hleft : policy.attempts - index = policy.attempts - (index + 1) + 1 := by omega
  have hcall : (sink.afterCalls message.source index).call
      (atCall policy message backoffs index).message.source =
      ((outcomes index).1, .ofOutcome (outcomes index).2,
        sink.afterCalls message.source (index + 1)) :=
    SinkBehaviour.call_afterCalls hplays hindex
  rw [runFrom, hleft, runFor, hcall]
  simp only [reverse_callTimes, List.reverse_reverse]
  rfl

theorem runFrom_pause (hplays : (sink.script message.source).Plays outcomes policy.attempts)
    (hretries : Retries policy draws message outcomes backoffs pauses last)
    (hlast : last < policy.attempts) (hindex : index < last) :
    runFrom policy draws sink message outcomes backoffs pauses index =
      runFrom policy draws sink message outcomes backoffs pauses (index + 1) := by
  rw [runFrom_eq hplays (Nat.lt_trans hindex hlast), hretries.pause index hindex]
  rfl

theorem runFrom_last (hplays : (sink.script message.source).Plays outcomes policy.attempts)
    (hlast : StopsAt policy.attempts outcomes last) :
    runFrom policy draws sink message outcomes backoffs pauses last =
      some (reportOf policy message outcomes pauses last,
        sink.afterCalls message.source (last + 1)) := by
  rw [runFrom_eq hplays hlast.lt, answer_atCall_last hlast, reportOf]
  cases resultOf policy.attempts (outcomes last).2 <;> rfl

/-- Behind as many refusals, what is left of a run is the rest of its calls. -/
theorem runFrom_zero (hplays : (sink.script message.source).Plays outcomes policy.attempts)
    (hretries : Retries policy draws message outcomes backoffs pauses last)
    (hlast : last < policy.attempts) (hindex : index ≤ last) :
    runFrom policy draws sink message outcomes backoffs pauses 0 =
      runFrom policy draws sink message outcomes backoffs pauses index := by
  induction index with
  | zero => rfl
  | succ index ih =>
      rw [ih (Nat.le_of_succ_le hindex), runFrom_pause hplays hretries hlast hindex]

/-- A delivery is a bounded retry.  Its pauses are settled before the message, the sink and
the outcomes of the calls are. -/
theorem run_is_bounded_retry (hjitter : policy.jitter.isNaN = false) (draws : Nat → Nat) :
    ∃ backoffs pauses, Pauses policy draws backoffs pauses ∧
      ∀ (message : Message) (outcomes : Outcomes) (sink : SinkBehaviour),
        (sink.script message.source).Plays outcomes policy.attempts →
          ∃ last, StopsAt policy.attempts outcomes last ∧
            Retries policy draws message outcomes backoffs pauses last ∧
            run policy draws sink message =
              some (reportOf policy message outcomes pauses last,
                sink.afterCalls message.source (last + 1)) := by
  obtain ⟨backoffs, pauses, hpauses⟩ := Pauses.exists_pauses hjitter draws
  refine ⟨backoffs, pauses, hpauses, fun message outcomes sink hplays => ?_⟩
  obtain ⟨last, hlast⟩ := exists_stopsAt outcomes policy.attempts_pos
  have hretries := retries_of_stopsAt hpauses hlast message
  refine ⟨last, hlast, hretries, ?_⟩
  have hrun := runFrom_zero hplays hretries hlast.lt (Nat.le_refl last)
  rw [runFrom_last hplays hlast, runFrom, SinkBehaviour.afterCalls_zero,
    ← hretries.start_eq] at hrun
  exact hrun

/-- Two attempts, and a pause of 13 milliseconds between them. -/
theorem run_gives_up_at_second_call :
    (run ⟨2, 10, 15, Binary64.ofDecimal false 5 (-1), Binary64.ofNat 2⟩ (fun _ => 3000000)
      ⟨SinkScript.playing (fun _ => (2, .error (.sink "busy"))) 0 2, []⟩ default).map Prod.fst =
      some ⟨default, [0, 15], 17, .error (.dispatch 2 "Sink error: busy")⟩ := by
  obtain ⟨backoffs, pauses, hpauses, hruns⟩ := @run_is_bounded_retry
    ⟨2, 10, 15, Binary64.ofDecimal false 5 (-1), Binary64.ofNat 2⟩ (by decide +kernel)
    (fun _ => 3000000)
  obtain ⟨last, hlast, -, hrun⟩ := hruns default (fun _ => (2, .error (.sink "busy")))
    ⟨SinkScript.playing _ 0 2, []⟩ (SinkScript.plays_playing _ 2)
  obtain rfl : last = 1 := hlast.eq ⟨by decide, fun _ _ => ⟨_, rfl⟩, Or.inr rfl⟩
  have hpause := hpauses.next 0
  rw [hpauses.first] at hpause
  have hfirst : (pauses 0).ceilMillis = 13 := by
    have hmillis := congrArg (Option.map fun pair => pair.1.ceilMillis) hpause
    have hgiven : Option.map (fun pair : Duration × Backoff => pair.1.ceilMillis)
        (Backoff.next? (RetryPolicy.backoff
          ⟨2, 10, 15, Binary64.ofDecimal false 5 (-1), Binary64.ofNat 2⟩) 3000000) = some 13 := by
      decide +kernel
    rw [hgiven] at hmillis
    exact (Option.some.inj hmillis).symm
  rw [hrun]
  simp only [Option.map_some, reportOf, List.range_succ, List.range_zero, List.nil_append,
    List.map_cons, List.map_nil, List.cons_append, callTime, hfirst, resultOf]
  rfl

end Delivery

end LogRelay
