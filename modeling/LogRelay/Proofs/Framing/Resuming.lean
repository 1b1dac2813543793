import LogRelay.Proofs.Behaviour.Failures
import LogRelay.Proofs.Framing.Accounts
import LogRelay.Proofs.Framing.Runs
import LogRelay.Proofs.Framing.Timeline

/-!
# Going on after a read has failed

A framer that is asked again after a read has failed goes on where it stood.  So the
calls that do not fail answer as they would if no read had failed: what a call has read
before it failed is what the next one would have read first.
-/

namespace LogRelay.FramerTimeline

variable {world : World} {deadline limit : Nat} {looking further : Bool}
variable {timeline later after : FramerTimeline} {outcome : Outcome} {answer : Answer}
variable {look : PipeAnswer} {pipe : PipeScript}

/-! ## What rounds do to time and fuel -/

/-- A look is paid for by the looks that are left, and the end of the stream has not been
seen before it. -/
theorem Looks.lookCost_add_lt (hlooks : timeline.Looks looking look pipe) :
    PipeScript.lookCost look + pipe.looksLeft (PipeScript.lookTime timeline.clock look) <
      timeline.looksLeft := by
  have hless := PipeScript.looksLeft_look timeline.clock timeline.framer.request timeline.pipe
  rw [hlooks.look_eq] at hless
  rw [looksLeft, hlooks.ended_eq]
  exact Nat.lt_succ_of_le hless

/-- Nothing is looked at before its time. -/
theorem Looks.clock_le (hlooks : timeline.Looks looking look pipe) :
    timeline.clock ≤ PipeScript.lookTime timeline.clock look := by
  have hlater := PipeScript.le_lookTime_look timeline.clock timeline.framer.request timeline.pipe
  rwa [hlooks.look_eq] at hlater

theorem looksLeft_lt_of_paid
    (hless : 1 + later.pipe.looksLeft later.clock < timeline.looksLeft) :
    later.looksLeft < timeline.looksLeft := by
  rw [looksLeft]
  split <;> omega

theorem ended_takeUp (world : World) (timeline : FramerTimeline) (bytes : Bytes) :
    (timeline.takeUp world bytes).framer.ended = (timeline.framer.ended || bytes.isEmpty) :=
  Framer.ended_receive _ _ _ _

/-- A round that is not the last one of its call leaves fewer looks. -/
theorem Rounds.looksLeft_lt
    (hrounds : Rounds world deadline looking timeline later (.goesOn further)) :
    later.looksLeft < timeline.looksLeft := by
  generalize houtcome : Outcome.goesOn further = outcome at hrounds
  cases hrounds with
  | hands | ends | crashes | leaves | hangs => cases houtcome
  | @reads bytes pipe hlooks =>
      have hless := hlooks.lookCost_add_lt
      cases bytes with
      | nil =>
          rw [looksLeft, if_pos ((ended_takeUp _ _ _).trans (Bool.or_true _))]
          exact Nat.lt_of_le_of_lt (Nat.le_add_left _ _) hless
      | cons byte bytes =>
          refine looksLeft_lt_of_paid (Nat.lt_of_le_of_lt ?_ hless)
          exact Nat.add_le_add_right (Nat.succ_le_succ (Nat.zero_le bytes.length)) _
  | fails hlooks => exact looksLeft_lt_of_paid hlooks.lookCost_add_lt
  | cancels hlooks => exact looksLeft_lt_of_paid hlooks.lookCost_add_lt
  | waits hlooks => exact looksLeft_lt_of_paid hlooks.lookCost_add_lt

/-- A round takes no time but that of a wait. -/
theorem Rounds.clock (hrounds : Rounds world deadline looking timeline later outcome)
    (hclock : timeline.clock ≤ deadline) :
    timeline.clock ≤ later.clock ∧ later.clock ≤ deadline := by
  cases hrounds with
  | hangs => exact ⟨hclock, Nat.le_refl _⟩
  | waits hlooks hcancelled hintime => exact ⟨hlooks.clock_le, hintime⟩
  | hands | ends | reads | fails | crashes | cancels | leaves =>
      exact ⟨Nat.le_refl _, hclock⟩

/-- The pipe does not hang, and its waits are over by that time. -/
structure InTime (limit : Nat) (timeline : FramerTimeline) : Prop where
  alive : timeline.pipe.isAlive = true
  endsBy_le : timeline.pipe.endsBy timeline.clock ≤ limit

theorem Looks.inTime (hlooks : timeline.Looks looking look pipe)
    (hintime : timeline.InTime limit) :
    pipe.isAlive = true ∧ pipe.endsBy (PipeScript.lookTime timeline.clock look) ≤ limit := by
  have halive := PipeScript.isAlive_look timeline.clock timeline.framer.request hintime.alive
  have hends := PipeScript.endsBy_look timeline.clock timeline.framer.request timeline.pipe
  rw [hlooks.look_eq] at halive hends
  exact ⟨halive, hends.trans_le hintime.endsBy_le⟩

/-- If there is time enough, no round hangs. -/
theorem Rounds.ne_hang (hrounds : Rounds world deadline looking timeline later outcome)
    (hintime : timeline.InTime limit) (hlimit : limit ≤ deadline) :
    outcome ≠ .answered .hang := by
  cases hrounds with
  | @hangs until? pipe hlooks hcancelled hlate =>
      exfalso
      obtain ⟨halive, hends⟩ := hlooks.inTime hintime
      cases until? with
      | none =>
          have hreports := PipeScript.reports_look timeline.clock timeline.framer.request
            timeline.pipe
          rw [hlooks.look_eq] at hreports
          cases hreports with
          | hangs hmem =>
              have hnot := List.all_eq_true.mp hintime.alive _ hmem
              exact absurd hnot Bool.false_ne_true
      | some time =>
          have hlater := PipeScript.le_endsBy time pipe
          have htime := hlate time rfl
          rw [PipeScript.lookTime] at hends
          omega
  | fails => split <;> simp
  | hands | ends | reads | crashes | cancels | leaves | waits => simp

theorem Rounds.inTime (hrounds : Rounds world deadline looking timeline later outcome)
    (hintime : timeline.InTime limit) (hlimit : limit ≤ deadline) : later.InTime limit := by
  have hnot := hrounds.ne_hang hintime hlimit
  cases hrounds with
  | hands | ends => exact { hintime with }
  | hangs => exact absurd rfl hnot
  | leaves hlooks =>
      obtain ⟨halive, hends⟩ := hlooks.inTime hintime
      exact ⟨halive, Nat.le_trans (PipeScript.endsBy_mono hlooks.clock_le _) hends⟩
  | reads hlooks => exact ⟨(hlooks.inTime hintime).1, (hlooks.inTime hintime).2⟩
  | fails hlooks => exact ⟨(hlooks.inTime hintime).1, (hlooks.inTime hintime).2⟩
  | crashes hlooks => exact ⟨(hlooks.inTime hintime).1, (hlooks.inTime hintime).2⟩
  | cancels hlooks => exact ⟨(hlooks.inTime hintime).1, (hlooks.inTime hintime).2⟩
  | waits hlooks => exact ⟨(hlooks.inTime hintime).1, (hlooks.inTime hintime).2⟩

/-! ## Calls without fuel -/

/-- The call goes through rounds until one of them answers. -/
inductive Gives (world : World) (deadline : Nat) :
    Bool → FramerTimeline → FramerTimeline → Answer → Prop where
  | now {looking : Bool} {timeline after : FramerTimeline} {answer : Answer}
      (hrounds : Rounds world deadline looking timeline after (.answered answer)) :
      Gives world deadline looking timeline after answer
  | later {looking further : Bool} {timeline next after : FramerTimeline} {answer : Answer}
      (hrounds : Rounds world deadline looking timeline next (.goesOn further))
      (hrest : Gives world deadline further next after answer) :
      Gives world deadline looking timeline after answer

theorem gives_nextFor {fuel : Nat} (hfuel : timeline.looksLeft < fuel) :
    Gives world deadline looking timeline (nextFor world deadline fuel looking timeline).1
      (nextFor world deadline fuel looking timeline).2 := by
  induction fuel generalizing looking timeline with
  | zero => exact absurd hfuel (Nat.not_lt_zero _)
  | succ fuel ih =>
      have hrounds := rounds_round world deadline looking timeline
      rw [nextFor_succ]
      rcases hround : round world deadline looking timeline with ⟨next, answer | further⟩
      · rw [hround] at hrounds
        exact .now hrounds
      · rw [hround] at hrounds
        exact .later hrounds (ih (by have hless := hrounds.looksLeft_lt; omega))

theorem Gives.nextFor_eq {fuel : Nat}
    (hgives : Gives world deadline looking timeline after answer)
    (hfuel : timeline.looksLeft < fuel) :
    nextFor world deadline fuel looking timeline = (after, answer) := by
  induction hgives generalizing fuel with
  | now hrounds =>
      obtain _ | fuel := fuel
      · exact absurd hfuel (Nat.not_lt_zero _)
      · rw [nextFor_succ, hrounds.round_eq]
  | later hrounds hrest ih =>
      obtain _ | fuel := fuel
      · exact absurd hfuel (Nat.not_lt_zero _)
      · rw [nextFor_succ, hrounds.round_eq]
        exact ih (by have hless := hrounds.looksLeft_lt; omega)

theorem looksLeft_lt_fuel (timeline : FramerTimeline) :
    timeline.looksLeft < work timeline.pipe + 2 := by
  have hwork := PipeScript.looksLeft_lt_work timeline.clock timeline.pipe
  rw [looksLeft]
  split <;> omega

theorem gives_next (world : World) (timeline : FramerTimeline) :
    Gives world (timeline.clock + world.patienceMs) false timeline (next world timeline).1
      (next world timeline).2 :=
  gives_nextFor timeline.looksLeft_lt_fuel

theorem Gives.next_eq
    (hgives : Gives world (timeline.clock + world.patienceMs) false timeline after answer) :
    timeline.next world = (after, answer) :=
  hgives.nextFor_eq timeline.looksLeft_lt_fuel

theorem Gives.clock (hgives : Gives world deadline looking timeline after answer)
    (hclock : timeline.clock ≤ deadline) :
    timeline.clock ≤ after.clock ∧ after.clock ≤ deadline := by
  induction hgives with
  | now hrounds => exact hrounds.clock hclock
  | later hrounds hrest ih =>
      obtain ⟨hnext, hless⟩ := hrounds.clock hclock
      obtain ⟨hafter, hlast⟩ := ih hless
      exact ⟨Nat.le_trans hnext hafter, hlast⟩

theorem Gives.inTime (hgives : Gives world deadline looking timeline after answer)
    (hintime : timeline.InTime limit) (hlimit : limit ≤ deadline) : after.InTime limit := by
  induction hgives with
  | now hrounds => exact hrounds.inTime hintime hlimit
  | later hrounds hrest ih => exact ih (hrounds.inTime hintime hlimit)

/-! ## The same calls over the pipe without its failures -/

def Answer.isFailure : Answer → Bool
  | .failed _ => true
  | _ => false

/-- A framer over a pipe, within a call or between two, and another one over the pipe
without its failures that is to go on as the first does. -/
inductive Matches : Bool → FramerTimeline → Bool → FramerTimeline → Prop where
  /-- Both are at the same place of their pipes. -/
  | going {looking lookingThere : Bool} {timeline : FramerTimeline} {pipe : PipeScript}
      {asked : List Nat} (hcancelled : timeline.cancelled = false)
      (hlook : pipe.look timeline.clock timeline.framer.request =
        timeline.pipe.passingFailures.look timeline.clock timeline.framer.request) :
      Matches looking timeline lookingThere { timeline with pipe := pipe, asked := asked }
  /-- The session was cancelled in the middle of a read. -/
  | reading {timeline : FramerTimeline} {pipe : PipeScript} {asked : List Nat}
      (hcancelled : timeline.cancelled = true)
      (hlook : pipe.look timeline.clock timeline.framer.request =
        timeline.pipe.behindCancel.look timeline.clock timeline.framer.request) :
      Matches true timeline true { timeline with pipe := pipe, asked := asked }
  /-- The read in which the session was cancelled has failed, or brings nothing there. -/
  | noticed {timeline other : FramerTimeline} {until? : Option Nat} {rest : PipeScript}
      (hpending : timeline.framer.pending = []) (hnone : other.framer.pending = [])
      (hcancelled : timeline.cancelled = true) (hthere : other.cancelled = true)
      (hlook : other.pipe.look other.clock other.framer.request = (.pending until?, rest)) :
      Matches false timeline true other
  /-- The session is cancelled, and there is nothing left but to hand out messages. -/
  | finishing {timeline other : FramerTimeline}
      (hpending : other.framer.pending = timeline.framer.pending)
      (hcancelled : timeline.cancelled = true) (hthere : other.cancelled = true) :
      Matches false timeline false other

/-- What the other framer does while the first one goes one round. -/
inductive Echoes (world : World) (deadline : Nat) (lookingThere : Bool)
    (other later : FramerTimeline) : Outcome → Prop where
  | answers {answer : Answer} {otherLater : FramerTimeline} (hfailure : answer.isFailure = false)
      (hrounds : Rounds world deadline lookingThere other otherLater (.answered answer))
      (hmatches : Matches false later false otherLater) :
      Echoes world deadline lookingThere other later (.answered answer)
  | goesOn {further furtherThere : Bool} {otherLater : FramerTimeline}
      (hrounds : Rounds world deadline lookingThere other otherLater (.goesOn furtherThere))
      (hmatches : Matches further later furtherThere otherLater) :
      Echoes world deadline lookingThere other later (.goesOn further)
  /-- It waits at a read that fails and is made again. -/
  | skips (hmatches : Matches false later lookingThere other) :
      Echoes world deadline lookingThere other later (.goesOn false)
  | fails {error : Error} (hpending : later.framer.pending = [])
      (hmatches : Matches false later lookingThere other) :
      Echoes world deadline lookingThere other later (.answered (.failed error))

variable {lookingThere : Bool} {other : FramerTimeline}

theorem Echoes.of_failure {failure : Failure} {error : Error}
    (hpending : later.framer.pending = []) (hmatches : Matches false later lookingThere other) :
    Echoes world deadline lookingThere other later
      (if failure.isInterruption then .goesOn false else .answered (.failed error)) := by
  split
  · exact .skips hmatches
  · exact .fails hpending hmatches

theorem Looks.going_false (hlooks : timeline.Looks looking look pipe)
    (hcancelled : timeline.cancelled = false) :
    (timeline.framer.ended || timeline.cancelled && !lookingThere) = false := by
  rw [hlooks.ended_eq, hcancelled]
  rfl

/-- As long as the session is not cancelled. -/
theorem echoes_of_going {pipe : PipeScript} {asked : List Nat} {deadlineThere : Nat}
    (hcancelled : timeline.cancelled = false)
    (hlook : pipe.look timeline.clock timeline.framer.request =
      timeline.pipe.passingFailures.look timeline.clock timeline.framer.request)
    (hrounds : Rounds world deadline looking timeline later outcome)
    (hintime : timeline.InTime limit) (hlimit : limit ≤ deadline)
    (hlimitThere : limit ≤ deadlineThere) :
    Echoes world deadlineThere lookingThere { timeline with pipe := pipe, asked := asked } later
      outcome := by
  have hnot := hrounds.ne_hang hintime hlimit
  rw [PipeScript.look_passingFailures] at hlook
  cases hrounds with
  | hands hpending =>
      refine .answers rfl (.hands hpending) (.going hcancelled ?_)
      rw [PipeScript.look_passingFailures]
      exact hlook
  | ends hpending hover =>
      refine .answers rfl (.ends hpending ?_) (.going hcancelled ?_)
      · simpa [hcancelled] using hover
      · rw [PipeScript.look_passingFailures]
        exact hlook
  | reads hlooks =>
      rw [hlooks.look_eq] at hlook
      exact .goesOn (.reads ⟨hlooks.pending_eq, hlooks.going_false hcancelled, hlook⟩)
        (.going hcancelled rfl)
  | fails hlooks =>
      rw [hlooks.look_eq] at hlook
      exact .of_failure hlooks.pending_eq (.going hcancelled hlook)
  | crashes hlooks =>
      rw [hlooks.look_eq] at hlook
      exact .answers rfl (.crashes ⟨hlooks.pending_eq, hlooks.going_false hcancelled, hlook⟩)
        (.going hcancelled rfl)
  | cancels hlooks =>
      rw [hlooks.look_eq] at hlook
      exact .goesOn (.cancels ⟨hlooks.pending_eq, hlooks.going_false hcancelled, hlook⟩)
        (.reading rfl rfl)
  | leaves hlooks hover => exact absurd (hcancelled.symm.trans hover) Bool.false_ne_true
  | hangs => exact absurd rfl hnot
  | @waits time pipe hlooks _ _ =>
      have hends := (hlooks.inTime hintime).2
      have hlater := PipeScript.le_endsBy time pipe
      rw [hlooks.look_eq] at hlook
      exact .goesOn (.waits ⟨hlooks.pending_eq, hlooks.going_false hcancelled, hlook⟩ hcancelled
        (Nat.le_trans hlater (Nat.le_trans hends hlimitThere))) (.going hcancelled rfl)

/-- In the middle of the read during which the session was cancelled. -/
theorem echoes_of_reading {pipe : PipeScript} {asked : List Nat} {deadlineThere : Nat}
    (hcancelled : timeline.cancelled = true)
    (hlook : pipe.look timeline.clock timeline.framer.request =
      timeline.pipe.behindCancel.look timeline.clock timeline.framer.request)
    (hrounds : Rounds world deadline true timeline later outcome) :
    Echoes world deadlineThere true { timeline with pipe := pipe, asked := asked } later
      outcome := by
  cases hrounds with
  | hands hpending => exact .answers rfl (.hands hpending) (.finishing rfl hcancelled hcancelled)
  | ends hpending hover =>
      exact .answers rfl (.ends hpending hover) (.finishing rfl hcancelled hcancelled)
  | reads hlooks =>
      obtain ⟨after, hthere⟩ := PipeScript.exists_look_behindCancel hlooks.look_eq (by simp)
      exact .goesOn (.reads ⟨hlooks.pending_eq, hlooks.going, hlook.trans hthere⟩)
        (.finishing rfl hcancelled hcancelled)
  | fails hlooks =>
      have hthere := PipeScript.look_behindCancel_of_failed hlooks.look_eq
      exact .of_failure hlooks.pending_eq (.noticed hlooks.pending_eq hlooks.pending_eq
        hcancelled hcancelled (hlook.trans hthere))
  | crashes hlooks =>
      obtain ⟨after, hthere⟩ := PipeScript.exists_look_behindCancel hlooks.look_eq (by simp)
      exact .answers rfl (.crashes ⟨hlooks.pending_eq, hlooks.going, hlook.trans hthere⟩)
        (.finishing rfl hcancelled hcancelled)
  | cancels hlooks =>
      have hthere := PipeScript.look_behindCancel_of_cancels hlooks.look_eq
      exact .goesOn (.cancels ⟨hlooks.pending_eq, hlooks.going, hlook.trans hthere⟩)
        (.reading rfl rfl)
  | leaves hlooks _ =>
      obtain ⟨after, hthere⟩ := PipeScript.exists_look_behindCancel hlooks.look_eq (by simp)
      exact .answers rfl (.leaves ⟨hlooks.pending_eq, hlooks.going, hlook.trans hthere⟩ hcancelled)
        (.finishing rfl hcancelled hcancelled)
  | hangs _ hgoing => exact absurd (hgoing.symm.trans hcancelled) Bool.false_ne_true
  | waits _ hgoing => exact absurd (hgoing.symm.trans hcancelled) Bool.false_ne_true

/-- Once a cancellation has been noticed only messages are handed out. -/
theorem Rounds.of_cancelled (hrounds : Rounds world deadline false timeline later outcome)
    (hcancelled : timeline.cancelled = true) :
    (∃ message rest, timeline.framer.pending = message :: rest ∧
      later = { timeline with framer := { timeline.framer with pending := rest } } ∧
      outcome = .answered (.message message)) ∨
    (timeline.framer.pending = [] ∧ later = timeline ∧ outcome = .answered .finished) := by
  have hnot : ∀ {answer pipe}, ¬ timeline.Looks false answer pipe := by
    intro answer pipe hlooks
    have hgoing := (Bool.or_eq_false_iff.mp hlooks.going).2
    rw [hcancelled] at hgoing
    exact absurd hgoing (by decide)
  cases hrounds with
  | @hands message rest hpending => exact Or.inl ⟨message, rest, hpending, rfl, rfl⟩
  | ends hpending hover => exact Or.inr ⟨hpending, rfl, rfl⟩
  | reads hlooks | fails hlooks | crashes hlooks | cancels hlooks | leaves hlooks | hangs hlooks
  | waits hlooks => exact absurd hlooks hnot

theorem ends_of_cancelled (hpending : timeline.framer.pending = [])
    (hcancelled : timeline.cancelled = true) :
    Rounds world deadline false timeline timeline (.answered .finished) :=
  .ends hpending (by rw [hcancelled, Bool.true_and]; exact Bool.or_true _)

theorem Matches.echoes {deadlineThere : Nat}
    (hmatches : Matches looking timeline lookingThere other)
    (hrounds : Rounds world deadline looking timeline later outcome)
    (hintime : timeline.InTime limit) (hlimit : limit ≤ deadline)
    (hlimitThere : limit ≤ deadlineThere) :
    Echoes world deadlineThere lookingThere other later outcome := by
  cases hmatches with
  | going hcancelled hlook =>
      exact echoes_of_going hcancelled hlook hrounds hintime hlimit hlimitThere
  | reading hcancelled hlook => exact echoes_of_reading hcancelled hlook hrounds
  | noticed hpending hnone hcancelled hthere hlook =>
      rcases hrounds.of_cancelled hcancelled with
        ⟨message, rest, hsome, -, -⟩ | ⟨-, rfl, rfl⟩
      · rw [hpending] at hsome
        cases hsome
      · cases hended : other.framer.ended with
        | true =>
            exact .answers rfl (.ends hnone (by rw [hended]; rfl))
              (.finishing (hnone.trans hpending.symm) hcancelled hthere)
        | false =>
            refine .answers rfl (.leaves ⟨hnone, ?_, hlook⟩ hthere)
              (.finishing (hnone.trans hpending.symm) hcancelled hthere)
            rw [hended, hthere]
            rfl
  | finishing hpending hcancelled hthere =>
      rcases hrounds.of_cancelled hcancelled with
        ⟨message, rest, hsome, rfl, rfl⟩ | ⟨hnone, rfl, rfl⟩
      · exact .answers rfl (.hands (hpending.trans hsome)) (.finishing rfl hcancelled hthere)
      · exact .answers rfl (ends_of_cancelled (hpending.trans hnone) hthere)
          (.finishing hpending hcancelled hthere)

/-- What the other framer does while the first one answers a call.  After a call that
fails it is in the middle of the call that it makes instead of the next one. -/
theorem Gives.echoes {deadlineThere : Nat}
    (hgives : Gives world deadline looking timeline after answer)
    (hmatches : Matches looking timeline lookingThere other)
    (hintime : timeline.InTime limit) (hlimit : limit ≤ deadline)
    (hlimitThere : limit ≤ deadlineThere) :
    (answer.isFailure = false ∧ ∃ afterThere,
      Gives world deadlineThere lookingThere other afterThere answer ∧
        Matches false after false afterThere) ∨
    (answer.isFailure = true ∧ after.framer.pending = [] ∧ ∃ lookingOn onTheWay,
      Matches false after lookingOn onTheWay ∧
        ∀ afterThere answerThere,
          Gives world deadlineThere lookingOn onTheWay afterThere answerThere →
            Gives world deadlineThere lookingThere other afterThere answerThere) := by
  induction hgives generalizing lookingThere other with
  | now hrounds =>
      cases hmatches.echoes hrounds hintime hlimit hlimitThere with
      | answers hfailure hthere hafter =>
          exact Or.inl ⟨hfailure, _, .now hthere, hafter⟩
      | fails hpending hafter =>
          exact Or.inr ⟨rfl, hpending, _, _, hafter, fun _ _ hgives => hgives⟩
  | later hrounds hrest ih =>
      have hnext := hrounds.inTime hintime hlimit
      cases hmatches.echoes hrounds hintime hlimit hlimitThere with
      | skips hafter => exact ih hafter hnext
      | goesOn hthere hafter =>
          rcases ih hafter hnext with
            ⟨hfailure, afterThere, hgives, hend⟩ |
            ⟨hfailure, hpending, lookingOn, onTheWay, hend, hgoesOn⟩
          · exact Or.inl ⟨hfailure, afterThere, .later hthere hgives, hend⟩
          · exact Or.inr ⟨hfailure, hpending, lookingOn, onTheWay, hend,
              fun _ _ hgives => .later hthere (hgoesOn _ _ hgives)⟩

/-! ## Sequences of calls -/

/-- The calls that did not fail. -/
def settledCalls : List Bool → List Answer → List Bool
  | cancels :: calls, answer :: answers =>
    if answer.isFailure then settledCalls calls answers else cancels :: settledCalls calls answers
  | _, _ => []

/-- Between two calls: the other framer has the same to hand out, and its next call comes
to stand where the first one does. -/
structure Lags (world : World) (timeline other : FramerTimeline) : Prop where
  pending_eq : other.framer.pending = timeline.framer.pending
  goesOn : ∃ looking onTheWay, Matches false timeline looking onTheWay ∧
    ∀ after answer, Gives world (other.clock + world.patienceMs) looking onTheWay after answer →
      Gives world (other.clock + world.patienceMs) false other after answer

theorem Matches.lags (hmatches : Matches false timeline false other) :
    Lags world timeline other where
  pending_eq := by cases hmatches <;> first | rfl | assumption
  goesOn := ⟨false, other, hmatches, fun _ _ hgives => hgives⟩

/-- A call that has a message to hand out does not fail. -/
theorem Gives.pending_eq_nil (hgives : Gives world deadline looking timeline after answer)
    (hfailure : answer.isFailure = true) : timeline.framer.pending = [] := by
  cases hgives with
  | now hrounds =>
      generalize houtcome : Outcome.answered answer = outcome at hrounds
      cases hrounds with
      | hands =>
          cases houtcome
          exact absurd hfailure Bool.false_ne_true
      | ends hpending => exact hpending
      | reads hlooks | fails hlooks | crashes hlooks | cancels hlooks | leaves hlooks
      | hangs hlooks | waits hlooks => exact hlooks.pending_eq
  | later hrounds =>
      generalize houtcome : Outcome.goesOn _ = outcome at hrounds
      cases hrounds with
      | hands => cases houtcome
      | ends hpending => exact hpending
      | reads hlooks | fails hlooks | crashes hlooks | cancels hlooks | leaves hlooks
      | hangs hlooks | waits hlooks => exact hlooks.pending_eq

/-- Nor does one that is made after a cancellation. -/
theorem Gives.isFailure_of_cancelled
    (hgives : Gives world deadline false timeline after answer)
    (hcancelled : timeline.cancelled = true) : answer.isFailure = false := by
  cases hgives with
  | now hrounds =>
      rcases hrounds.of_cancelled hcancelled with ⟨_, _, -, -, houtcome⟩ | ⟨-, -, houtcome⟩
      · cases houtcome
        rfl
      · cases houtcome
        rfl
  | later hrounds =>
      rcases hrounds.of_cancelled hcancelled with ⟨_, _, -, -, houtcome⟩ | ⟨-, -, houtcome⟩ <;>
        cases houtcome

/-- Both sessions may be cancelled before the next call. -/
theorem Lags.maybeCancelled (hlags : Lags world timeline other) (cancels : Bool) :
    Lags world { timeline with cancelled := timeline.cancelled || cancels }
      { other with cancelled := other.cancelled || cancels } := by
  cases cancels with
  | false =>
      rw [Bool.or_false, Bool.or_false]
      exact hlags
  | true =>
      rw [Bool.or_true, Bool.or_true]
      have hmatches : Matches false { timeline with cancelled := true } false
        { other with cancelled := true } := .finishing hlags.pending_eq rfl rfl
      exact hmatches.lags

/-- A call that does not fail is answered in the same way, and one that fails is not
made. -/
theorem Lags.next (hlags : Lags world timeline other) (hintime : timeline.InTime limit)
    (hlimit : limit ≤ timeline.clock + world.patienceMs)
    (hlimitThere : limit ≤ other.clock + world.patienceMs) :
    ((timeline.next world).2.isFailure = false ∧
      (other.next world).2 = (timeline.next world).2 ∧
      Lags world (timeline.next world).1 (other.next world).1) ∨
    ((timeline.next world).2.isFailure = true ∧ Lags world (timeline.next world).1 other) := by
  obtain ⟨looking, onTheWay, hmatches, hgoesOn⟩ := hlags.goesOn
  have hgives := gives_next world timeline
  rcases hgives.echoes hmatches hintime hlimit hlimitThere with
    ⟨hfailure, afterThere, hthere, hafter⟩ |
    ⟨hfailure, hpending, lookingOn, later, hafter, hthere⟩
  · have hnext := (hgoesOn _ _ hthere).next_eq
    refine Or.inl ⟨hfailure, ?_, ?_⟩
    · rw [hnext]
    · rw [hnext]
      exact hafter.lags
  · refine Or.inr ⟨hfailure, ?_, lookingOn, later, hafter, fun _ _ hlater =>
      hgoesOn _ _ (hthere _ _ hlater)⟩
    rw [hlags.pending_eq, hgives.pending_eq_nil hfailure, hpending]

/-- The calls that do not fail are answered as if no read had failed. -/
theorem Lags.callAll (hlags : Lags world timeline other) (hintime : timeline.InTime limit)
    (hlimit : limit ≤ timeline.clock + world.patienceMs)
    (hlimitThere : limit ≤ other.clock + world.patienceMs) (calls : List Bool) :
    (callAll world (settledCalls calls (callAll world calls timeline).2) other).2 =
      (callAll world calls timeline).2.filter fun answer => !answer.isFailure := by
  induction calls generalizing timeline other with
  | nil => rfl
  | cons cancels calls ih =>
      have hflagged := hlags.maybeCancelled cancels
      have hintime' : InTime limit
          { timeline with cancelled := timeline.cancelled || cancels } := { hintime with }
      have hgives := gives_next world
        { timeline with cancelled := timeline.cancelled || cancels }
      have hclock := (hgives.clock (Nat.le_add_right _ _)).1
      have hlater := hgives.inTime hintime' hlimit
      rw [FramerTimeline.callAll]
      dsimp only
      rcases hflagged.next hintime' hlimit hlimitThere with
        ⟨hfailure, hanswer, hafter⟩ | ⟨hfailure, hafter⟩
      · have hclockThere := ((gives_next world
          { other with cancelled := other.cancelled || cancels }).clock (Nat.le_add_right _ _)).1
        rw [settledCalls, if_neg (by rw [hfailure]; exact Bool.false_ne_true),
          FramerTimeline.callAll]
        dsimp only
        rw [List.filter_cons_of_pos (by rw [hfailure]; rfl), hanswer]
        exact congrArg _ (ih hafter hlater (Nat.le_trans hlimit (Nat.add_le_add_right hclock _))
          (Nat.le_trans hlimitThere (Nat.add_le_add_right hclockThere _)))
      · obtain rfl : cancels = false := by
          cases cancels with
          | false => rfl
          | true =>
              have hnone := hgives.isFailure_of_cancelled (Bool.or_true _)
              exact absurd (hnone.symm.trans hfailure) Bool.false_ne_true
        have hother : { other with cancelled := other.cancelled || false } = other := by
          rw [Bool.or_false]
        rw [hother] at hafter
        rw [settledCalls, if_pos hfailure,
          List.filter_cons_of_neg (by rw [hfailure]; exact Bool.false_ne_true)]
        exact ih hafter hlater (Nat.le_trans hlimit (Nat.add_le_add_right hclock _)) hlimitThere

/-- A framer that has failed to read and is asked again loses nothing: its messages come
as lines and runs of its source, each run under the next identifier, and the calls that
do not fail are answered as they would be if no read had failed.

A read that fails after the session was cancelled in it is the last one of all, so it
cannot be left out of the pipe: the answers are those over the pipe on which it waits.

Time is only a matter of pipes that wait.  Their waits are over before a caller would
lose patience. -/
theorem messages_survive_failing_reads (world : World) (source : Source)
    (bufferSize readLimit clock : Nat) (pipe : PipeScript) (asked : List Nat) (tracer : Tracer)
    (calls : List Bool) :
    let start : FramerTimeline :=
      ⟨Framer.create source bufferSize readLimit, pipe, clock, false, asked, tracer⟩
    let called := callAll world calls start
    Message.Grouped source world.ids 0 (called.2.flatMap Answer.messages) ∧
    called.1.Balances pipe.content tracer.counters (called.2.flatMap Answer.messages) ∧
    (pipe.isAlive = true → pipe.endsBy clock ≤ clock + world.patienceMs →
      (callAll world (settledCalls calls called.2)
          { start with pipe := pipe.passingFailures }).2 =
        (called.2.filter fun answer => !answer.isFailure) ∧
      (pipe.cancelledReadFails = false →
        (callAll world (settledCalls calls called.2)
            { start with pipe := pipe.withoutFailures }).2 =
          called.2.filter fun answer => !answer.isFailure)) := by
  intro start called
  have hstart := accounts_create world source bufferSize readLimit clock pipe false asked tracer
  have hreached : Reaches world start (called.2.flatMap Answer.messages) called.1 :=
    Reaches.start.callAll calls
  obtain ⟨received, haccounts⟩ := hreached.accounts hstart
  refine ⟨haccounts.follows.grouped, haccounts.balances, fun halive hpatience => ?_⟩
  have hmatches : Matches false start false { start with pipe := pipe.passingFailures } :=
    .going rfl rfl
  have hsame := hmatches.lags.callAll ⟨halive, hpatience⟩ (Nat.le_refl _) (Nat.le_refl _) calls
  refine ⟨hsame, fun hcancelled => ?_⟩
  rw [← PipeScript.passingFailures_eq_withoutFailures hcancelled]
  exact hsame

/-- Reads fail within a run, between two bytes of a line and in the call before the one in
which the session is cancelled. -/
theorem run_survives_failing_reads :
    let world : World := ⟨RunId.ofBits, fun _ => default, 5⟩
    let pipe : PipeScript := [.data [97, 98, 99], .fail (.plain .other), .wait 2,
      .data [100, 10, 101], .fail (.plain .other), .fail (.plain .interrupted), .cancel,
      .data [102], .fail (.plain .other)]
    let start : FramerTimeline := ⟨Framer.create .stdout 2 2, pipe, 0, false, [], default⟩
    let called := callAll world (List.replicate 6 false) start
    pipe.isAlive = true ∧ pipe.endsBy 0 ≤ 0 + world.patienceMs ∧
      pipe.cancelledReadFails = false ∧
      called.2.map Answer.isFailure = [false, true, false, false, true, false] ∧
      Message.Grouped .stdout world.ids 0 (called.2.flatMap Answer.messages) ∧
      (callAll world (List.replicate 4 false)
          { start with pipe := pipe.withoutFailures }).2 =
        called.2.filter fun answer => !answer.isFailure := by
  intro world pipe start called
  have halive : pipe.isAlive = true := by decide
  have hpatience : pipe.endsBy 0 ≤ 0 + world.patienceMs := by decide
  have hcancelled : pipe.cancelledReadFails = false := by decide
  have hfailures : called.2.map Answer.isFailure = [false, true, false, false, true, false] := by
    decide +kernel
  have hsettled : settledCalls (List.replicate 6 false) called.2 = List.replicate 4 false := by
    decide +kernel
  obtain ⟨hgrouped, -, hsame⟩ := messages_survive_failing_reads world .stdout 2 2 0 pipe []
    default (List.replicate 6 false)
  have hcalls := (hsame halive hpatience).2 hcancelled
  rw [hsettled] at hcalls
  exact ⟨halive, hpatience, hcancelled, hfailures, hgrouped, hcalls⟩

/-- The session is cancelled in a read that fails.  No message is made, however often the
framer is asked again; with the failure left out the read goes on and brings a line. -/
theorem failing_cancelled_read_is_last :
    let world : World := ⟨RunId.ofBits, fun _ => default, 5⟩
    let pipe : PipeScript := [.cancel, .fail (.plain .other), .data [97, 10]]
    let start : FramerTimeline := ⟨Framer.create .stdout 16 16, pipe, 0, false, [], default⟩
    let called := callAll world [false, false] start
    let quiet := callAll world [false, false] { start with pipe := pipe.withoutFailures }
    called.2.map Answer.isFailure = [true, false] ∧ called.1.cancelled = true ∧
      called.2.flatMap Answer.messages = [] ∧
      (quiet.2.flatMap Answer.messages).map Message.line = [[97]] := by
  decide +kernel

end LogRelay.FramerTimeline
