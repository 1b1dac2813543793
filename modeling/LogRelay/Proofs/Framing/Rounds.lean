import LogRelay.Framing.Timeline

/-!
# The rounds of a framer

A framer that is asked for a message goes round: it hands a message out, or it looks
at its pipe and makes of it what it can.  All that a round can be is said here once.
-/

namespace LogRelay

namespace FramerTimeline

variable {world : World} {deadline : Nat} {looking : Bool} {timeline : FramerTimeline}

/-- What a round of the loop comes to. -/
inductive Outcome where
  | answered (answer : Answer)
  | goesOn (looking : Bool)
  deriving DecidableEq, Repr

def Answer.messages : Answer → List Message
  | .message handed => [handed]
  | _ => []

def Outcome.messages : Outcome → List Message
  | .answered answer => answer.messages
  | .goesOn _ => []

/-- What the framer makes of a look at its pipe. -/
def meet (world : World) (deadline asked : Nat) (timeline : FramerTimeline) :
    PipeAnswer → FramerTimeline × Outcome
  | .ready (.data bytes) =>
    ((timeline.countRead asked (.data bytes)).takeUp world bytes, .goesOn false)
  | .ready (.failed failure) =>
    (timeline.countRead asked (.failed failure),
      if failure.isInterruption then .goesOn false
      else .answered (.failed (.read timeline.framer.source failure)))
  | .crashed => (timeline, .answered .crashed)
  | .cancels => ({ timeline with cancelled := true }, .goesOn true)
  | .pending until? =>
    if timeline.cancelled then (timeline, .answered .finished)
    else
      match until? with
      | none => ({ timeline with clock := deadline }, .answered .hang)
      | some time =>
        if deadline < time then ({ timeline with clock := deadline }, .answered .hang)
        else ({ timeline with clock := time }, .goesOn false)

/-- One round of the loop. -/
def round (world : World) (deadline : Nat) (looking : Bool) (timeline : FramerTimeline) :
    FramerTimeline × Outcome :=
  match timeline.framer.demand (timeline.cancelled && !looking) with
  | .message message framer => ({ timeline with framer := framer }, .answered (.message message))
  | .finished => (timeline, .answered .finished)
  | .read asked =>
    let (answer, pipe) := timeline.pipe.look timeline.clock asked
    meet world deadline asked { timeline with pipe := pipe } answer

/-- A call is rounds until one of them answers. -/
theorem nextFor_succ (world : World) (deadline fuel : Nat) (looking : Bool)
    (timeline : FramerTimeline) :
    nextFor world deadline (fuel + 1) looking timeline =
      match round world deadline looking timeline with
      | (timeline, .answered answer) => (timeline, answer)
      | (timeline, .goesOn looking) => nextFor world deadline fuel looking timeline := by
  rw [nextFor, round]
  generalize timeline.framer.demand (timeline.cancelled && !looking) = demand
  cases demand with
  | message message framer => rfl
  | finished => rfl
  | read asked =>
      dsimp only
      generalize timeline.pipe.look timeline.clock asked = found
      obtain ⟨answer, pipe⟩ := found
      cases answer with
      | ready result =>
          cases result with
          | data bytes => rfl
          | failed failure =>
              simp only [meet]
              split <;> rfl
      | crashed => rfl
      | cancels => rfl
      | pending until? =>
          simp only [meet]
          split
          · rfl
          · cases until? with
            | none => rfl
            | some time =>
                dsimp only
                split <;> rfl

/-- There is nothing to hand out and nothing that ends the call, and a look at the pipe
gives that answer and leaves that of the pipe. -/
structure Looks (looking : Bool) (timeline : FramerTimeline) (answer : PipeAnswer)
    (pipe : PipeScript) : Prop where
  pending_eq : timeline.framer.pending = []
  going : (timeline.framer.ended || timeline.cancelled && !looking) = false
  look_eq : timeline.pipe.look timeline.clock timeline.framer.request = (answer, pipe)

theorem Looks.ended_eq {answer : PipeAnswer} {pipe : PipeScript}
    (hlooks : timeline.Looks looking answer pipe) : timeline.framer.ended = false :=
  (Bool.or_eq_false_iff.mp hlooks.going).1

/-- All that a round can be. -/
inductive Rounds (world : World) (deadline : Nat) (looking : Bool) (timeline : FramerTimeline) :
    FramerTimeline → Outcome → Prop where
  | hands {message : Message} {rest : List Message}
      (hpending : timeline.framer.pending = message :: rest) :
      Rounds world deadline looking timeline
        { timeline with framer := { timeline.framer with pending := rest } }
        (.answered (.message message))
  | ends (hpending : timeline.framer.pending = [])
      (hover : (timeline.framer.ended || timeline.cancelled && !looking) = true) :
      Rounds world deadline looking timeline timeline (.answered .finished)
  | reads {bytes : Bytes} {pipe : PipeScript}
      (hlooks : timeline.Looks looking (.ready (.data bytes)) pipe) :
      Rounds world deadline looking timeline
        ((countRead { timeline with pipe := pipe } timeline.framer.request (.data bytes)).takeUp
          world bytes)
        (.goesOn false)
  | fails {failure : Failure} {pipe : PipeScript}
      (hlooks : timeline.Looks looking (.ready (.failed failure)) pipe) :
      Rounds world deadline looking timeline
        (countRead { timeline with pipe := pipe } timeline.framer.request (.failed failure))
        (if failure.isInterruption then .goesOn false
          else .answered (.failed (.read timeline.framer.source failure)))
  | crashes {pipe : PipeScript} (hlooks : timeline.Looks looking .crashed pipe) :
      Rounds world deadline looking timeline { timeline with pipe := pipe } (.answered .crashed)
  | cancels {pipe : PipeScript} (hlooks : timeline.Looks looking .cancels pipe) :
      Rounds world deadline looking timeline { timeline with pipe := pipe, cancelled := true }
        (.goesOn true)
  | leaves {until? : Option Nat} {pipe : PipeScript}
      (hlooks : timeline.Looks looking (.pending until?) pipe)
      (hcancelled : timeline.cancelled = true) :
      Rounds world deadline looking timeline { timeline with pipe := pipe } (.answered .finished)
  | hangs {until? : Option Nat} {pipe : PipeScript}
      (hlooks : timeline.Looks looking (.pending until?) pipe)
      (hcancelled : timeline.cancelled = false) (hlate : ∀ time ∈ until?, deadline < time) :
      Rounds world deadline looking timeline { timeline with pipe := pipe, clock := deadline }
        (.answered .hang)
  | waits {time : Nat} {pipe : PipeScript}
      (hlooks : timeline.Looks looking (.pending (some time)) pipe)
      (hcancelled : timeline.cancelled = false) (hintime : time ≤ deadline) :
      Rounds world deadline looking timeline { timeline with pipe := pipe, clock := time }
        (.goesOn false)

theorem round_of_pending {message : Message} {rest : List Message}
    (hpending : timeline.framer.pending = message :: rest) :
    round world deadline looking timeline =
      ({ timeline with framer := { timeline.framer with pending := rest } },
        .answered (.message message)) := by
  rw [round, Framer.demand, hpending]

theorem round_of_over (hpending : timeline.framer.pending = [])
    (hover : (timeline.framer.ended || timeline.cancelled && !looking) = true) :
    round world deadline looking timeline = (timeline, .answered .finished) := by
  rw [round, Framer.demand, hpending, hover]
  rfl

theorem Looks.round_eq {answer : PipeAnswer} {pipe : PipeScript}
    (hlooks : timeline.Looks looking answer pipe) :
    round world deadline looking timeline =
      meet world deadline timeline.framer.request { timeline with pipe := pipe } answer := by
  rw [round, Framer.demand, hlooks.pending_eq, hlooks.going]
  simp only [Bool.false_eq_true, if_false, hlooks.look_eq]

theorem rounds_round (world : World) (deadline : Nat) (looking : Bool)
    (timeline : FramerTimeline) :
    Rounds world deadline looking timeline (round world deadline looking timeline).1
      (round world deadline looking timeline).2 := by
  cases hpending : timeline.framer.pending with
  | cons message rest =>
      rw [round_of_pending hpending]
      exact .hands hpending
  | nil =>
      cases hover : timeline.framer.ended || timeline.cancelled && !looking with
      | true =>
          rw [round_of_over hpending hover]
          exact .ends hpending hover
      | false =>
          rcases hlook : timeline.pipe.look timeline.clock timeline.framer.request with
            ⟨answer, pipe⟩
          have hlooks : timeline.Looks looking answer pipe := ⟨hpending, hover, hlook⟩
          rw [hlooks.round_eq]
          cases answer with
          | ready result =>
              cases result with
              | data bytes => exact .reads hlooks
              | failed failure => exact .fails hlooks
          | crashed => exact .crashes hlooks
          | cancels => exact .cancels hlooks
          | pending until? =>
              simp only [meet]
              split
              · next hcancelled => exact .leaves hlooks hcancelled
              · next hgoing =>
                  have hcancelled := Bool.eq_false_iff.mpr hgoing
                  cases until? with
                  | none =>
                      refine .hangs hlooks hcancelled ?_
                      rintro _ ⟨⟩
                  | some time =>
                      dsimp only
                      split
                      · next hlate =>
                          refine .hangs hlooks hcancelled ?_
                          rintro _ ⟨⟩
                          exact hlate
                      · next hintime => exact .waits hlooks hcancelled (Nat.le_of_not_lt hintime)

/-- A round is what it can be. -/
theorem Rounds.round_eq {next : FramerTimeline} {outcome : Outcome}
    (hrounds : Rounds world deadline looking timeline next outcome) :
    round world deadline looking timeline = (next, outcome) := by
  cases hrounds with
  | hands hpending => exact round_of_pending hpending
  | ends hpending hover => exact round_of_over hpending hover
  | reads hlooks => exact hlooks.round_eq
  | fails hlooks => exact hlooks.round_eq
  | crashes hlooks => exact hlooks.round_eq
  | cancels hlooks => exact hlooks.round_eq
  | leaves hlooks hcancelled => simp only [hlooks.round_eq, meet, if_pos hcancelled]
  | @hangs until? pipe hlooks hcancelled hlate =>
      simp only [hlooks.round_eq, meet, hcancelled, Bool.false_eq_true, if_false]
      cases until? with
      | none => rfl
      | some time => simp only [if_pos (hlate time rfl)]
  | waits hlooks hcancelled hintime =>
      simp only [hlooks.round_eq, meet, hcancelled, Bool.false_eq_true, if_false,
        if_neg (Nat.not_lt_of_le hintime)]

end FramerTimeline

end LogRelay
