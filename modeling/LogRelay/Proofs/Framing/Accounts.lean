import LogRelay.Proofs.Behaviour.Pipe
import LogRelay.Proofs.Framing.Bytes
import LogRelay.Proofs.Framing.Rounds

/-!
# The account of a framer

What a round keeps holds at every point of every sequence of calls, whatever the pipe
does and whenever the session is cancelled.

A read never asks for nothing, so a read that brings nothing is the end of the stream.
And the bytes that were read are accounted for: they are in the messages that were
handed out or wait to be, among the bytes that are held, or they were newlines.
-/

namespace LogRelay

/-- The stream of the pipe is at its end, once the waits that are over are passed by. -/
def PipeScript.isAtEnd (clock : Nat) : PipeScript → Bool
  | [] => true
  | .data bytes :: _ => bytes.isEmpty
  | .wait ms :: rest => ms = 0 && isAtEnd clock rest
  | .waitUntil time :: rest => time ≤ clock && isAtEnd clock rest
  | _ => false

/-- Nothing comes of a look for something only at the end of the stream. -/
theorem PipeScript.isAtEnd_of_look {clock asked : Nat} (hasked : 0 < asked) {pipe : PipeScript}
    (hlook : (pipe.look clock asked).1 = .ready (.data [])) : pipe.isAtEnd clock = true := by
  induction pipe with
  | nil => rfl
  | cons step rest ih =>
      cases step with
      | data bytes =>
          rw [look] at hlook
          cases bytes with
          | nil => rfl
          | cons byte bytes =>
              obtain ⟨asked, rfl⟩ := Nat.exists_eq_add_of_lt hasked
              simp at hlook
      | wait ms =>
          rw [look] at hlook
          split at hlook
          · next hnow => simp [isAtEnd, hnow, ih hlook]
          · cases hlook
      | waitUntil time =>
          rw [look] at hlook
          split at hlook
          · next hover => simp [isAtEnd, hover, ih hlook]
          · cases hlook
      | fail | cancel | hang | crash => cases hlook

namespace FramerTimeline

variable {world : World} {deadline : Nat} {looking : Bool} {timeline : FramerTimeline}

/-! ## Every point of every sequence of calls -/

/-- One call after the other; before each of them the session may be cancelled. -/
def callAll (world : World) : List Bool → FramerTimeline → FramerTimeline × List Answer
  | [], timeline => (timeline, [])
  | cancels :: calls, timeline =>
    let (timeline, answer) :=
      next world { timeline with cancelled := timeline.cancelled || cancels }
    let (timeline, answers) := callAll world calls timeline
    (timeline, answer :: answers)

/-- The framer comes to stand there, within a call or between two of them, and has
returned these messages by then. -/
inductive Reaches (world : World) (start : FramerTimeline) :
    List Message → FramerTimeline → Prop where
  | start : Reaches world start [] start
  | cancelled {returned : List Message} {timeline : FramerTimeline}
      (hreached : Reaches world start returned timeline) :
      Reaches world start returned { timeline with cancelled := true }
  | round {returned : List Message} {timeline : FramerTimeline}
      (hreached : Reaches world start returned timeline) (deadline : Nat) (looking : Bool) :
      Reaches world start
        (returned ++ (round world deadline looking timeline).2.messages)
        (round world deadline looking timeline).1

variable {start : FramerTimeline} {returned : List Message}

theorem Reaches.nextFor (hreached : Reaches world start returned timeline) (deadline fuel : Nat)
    (looking : Bool) :
    Reaches world start (returned ++ (nextFor world deadline fuel looking timeline).2.messages)
      (nextFor world deadline fuel looking timeline).1 := by
  induction fuel generalizing looking timeline returned with
  | zero =>
      have hnone : returned ++ Answer.hang.messages = returned := List.append_nil _
      rw [FramerTimeline.nextFor, hnone]
      exact hreached
  | succ fuel ih =>
      have hround := hreached.round deadline looking
      rw [nextFor_succ]
      rcases hresult : FramerTimeline.round world deadline looking timeline with
        ⟨after, answer | looking⟩
      · rw [hresult] at hround
        exact hround
      · rw [hresult, Outcome.messages, List.append_nil] at hround
        exact ih hround looking

theorem Reaches.maybeCancelled (hreached : Reaches world start returned timeline)
    (cancels : Bool) :
    Reaches world start returned { timeline with cancelled := timeline.cancelled || cancels } := by
  cases cancels with
  | false =>
      rw [Bool.or_false]
      exact hreached
  | true =>
      rw [Bool.or_true]
      exact hreached.cancelled

/-- Between any two calls of a sequence the framer stands at such a point. -/
theorem Reaches.callAll (hreached : Reaches world start returned timeline) (calls : List Bool) :
    Reaches world start
      (returned ++ (callAll world calls timeline).2.flatMap Answer.messages)
      (callAll world calls timeline).1 := by
  induction calls generalizing timeline returned with
  | nil =>
      rw [FramerTimeline.callAll, List.flatMap_nil, List.append_nil]
      exact hreached
  | cons cancels calls ih =>
      have hnext := (hreached.maybeCancelled cancels).nextFor
        (timeline.clock + world.patienceMs) (work timeline.pipe + 2) false
      have hrest := ih hnext
      rw [List.append_assoc] at hrest
      exact hrest

/-! ## What every round keeps -/

variable {source : Source} {capacity limit : Nat} {content received : Bytes}
variable {counters : Counters} {asked : Nat} {answer : PipeAnswer} {pipe : PipeScript}

/-- The framer has taken from its pipe what it has received, and counted it. -/
structure Accounts (world : World) (source : Source) (capacity limit : Nat) (content : Bytes)
    (counters : Counters) (received : Bytes) (returned : List Message)
    (timeline : FramerTimeline) : Prop where
  content_eq : content = received ++ timeline.pipe.content
  follows : timeline.framer.Follows source capacity world.ids received returned
  readLimit_eq : timeline.framer.readLimit = limit
  buffer_of_ended : timeline.framer.ended = true → timeline.framer.buffer = []
  read_eq : timeline.tracer.counters.read = counters.read + UInt64.ofNat received.length
  newlines_eq :
    timeline.tracer.counters.newlines = counters.newlines + UInt64.ofNat (received.count newline)

theorem accounts_create (world : World) (source : Source) (bufferSize readLimit clock : Nat)
    (pipe : PipeScript) (cancelled : Bool) (asked : List Nat) (tracer : Tracer) :
    Accounts world source (max bufferSize 1) (max 1 (min readLimit (max bufferSize 1)))
      pipe.content tracer.counters [] []
      ⟨Framer.create source bufferSize readLimit, pipe, clock, cancelled, asked, tracer⟩ where
  content_eq := rfl
  follows := Framer.follows_create source world.ids bufferSize readLimit
  readLimit_eq := rfl
  buffer_of_ended _ := rfl
  read_eq := (UInt64.add_zero _).symm
  newlines_eq := (UInt64.add_zero _).symm

namespace Accounts

/-- A message that is handed out counts as returned from then on. -/
theorem yield (haccounts : timeline.Accounts world source capacity limit content counters
      received returned) {message : Message} {rest : List Message}
    (hpending : timeline.framer.pending = message :: rest) :
    Accounts world source capacity limit content counters received (returned ++ [message])
      { timeline with framer := { timeline.framer with pending := rest } } :=
  { haccounts with follows := haccounts.follows.yield hpending }

/-- What a look takes off the pipe is received, unless it is nothing. -/
theorem look (haccounts : timeline.Accounts world source capacity limit content counters
      received returned) (hlooks : timeline.Looks looking answer pipe)
    (hquiet : answer.bytes = []) :
    Accounts world source capacity limit content counters received returned
      { timeline with pipe := pipe } := by
  have hkept := PipeScript.content_look timeline.clock timeline.framer.request timeline.pipe
  rw [hlooks.look_eq, hquiet, List.nil_append] at hkept
  exact { haccounts with content_eq := haccounts.content_eq.trans (by rw [hkept]) }

theorem receive (haccounts : timeline.Accounts world source capacity limit content counters
      received returned) {bytes : Bytes}
    (hlooks : timeline.Looks looking (.ready (.data bytes)) pipe) :
    Accounts world source capacity limit content counters (received ++ bytes) returned
      ((countRead { timeline with pipe := pipe } timeline.framer.request (.data bytes)).takeUp world
        bytes) := by
  have hawaits := haccounts.follows.awaits hlooks.ended_eq
  have hfits := PipeScript.length_le_of_look hlooks.look_eq
  have hnewlines := hawaits.newlines_receive hfits world.ids (world.time timeline.clock)
  have hkept := PipeScript.content_look timeline.clock timeline.framer.request timeline.pipe
  rw [hlooks.look_eq, PipeAnswer.bytes] at hkept
  refine ⟨?_, haccounts.follows.receive hawaits hfits _,
    (Framer.readLimit_receive _ _ _ _).trans haccounts.readLimit_eq, hawaits.buffer_receive, ?_, ?_⟩
  · rw [haccounts.content_eq, hkept, List.append_assoc]
    rfl
  · rw [List.length_append, UInt64.ofNat_add, ← UInt64.add_assoc, ← haccounts.read_eq]
    rfl
  · rw [List.count_append, UInt64.ofNat_add, ← UInt64.add_assoc, ← haccounts.newlines_eq,
      ← hnewlines]
    rfl

/-- A round keeps the account. -/
theorem round (haccounts : timeline.Accounts world source capacity limit content counters
      received returned) {next : FramerTimeline} {outcome : Outcome}
    (hrounds : Rounds world deadline looking timeline next outcome) :
    ∃ more, next.Accounts world source capacity limit content counters (received ++ more)
      (returned ++ outcome.messages) := by
  -- only a message that is handed out and data that are read change the account
  have hnothing : ∀ {later : FramerTimeline}, later.Accounts world source capacity limit content
      counters received returned → ∃ more, later.Accounts world source capacity limit content
        counters (received ++ more) (returned ++ []) := by
    intro later hlater
    exact ⟨[], by rwa [List.append_nil, List.append_nil]⟩
  cases hrounds with
  | hands hpending =>
      refine ⟨[], ?_⟩
      rw [List.append_nil]
      exact haccounts.yield hpending
  | ends => exact hnothing haccounts
  | @reads bytes pipe hlooks =>
      refine ⟨bytes, ?_⟩
      have hnone : returned ++ (Outcome.goesOn false).messages = returned := List.append_nil _
      rw [hnone]
      exact haccounts.receive hlooks
  | @fails failure pipe hlooks =>
      have hquiet := haccounts.look hlooks rfl
      split
      · exact hnothing { hquiet with }
      · exact hnothing { hquiet with }
  | crashes hlooks => exact hnothing (haccounts.look hlooks rfl)
  | cancels hlooks =>
      have hquiet := haccounts.look hlooks rfl
      exact hnothing { hquiet with }
  | leaves hlooks => exact hnothing (haccounts.look hlooks rfl)
  | hangs hlooks =>
      have hquiet := haccounts.look hlooks rfl
      exact hnothing { hquiet with }
  | waits hlooks =>
      have hquiet := haccounts.look hlooks rfl
      exact hnothing { hquiet with }

end Accounts

/-- At every point of every sequence of calls the account is right. -/
theorem Reaches.accounts (hreached : Reaches world start returned timeline)
    (hstart : start.Accounts world source capacity limit content counters [] []) :
    ∃ received, timeline.Accounts world source capacity limit content counters received
      returned := by
  induction hreached with
  | start => exact ⟨[], hstart⟩
  | cancelled _ ih =>
      obtain ⟨received, haccounts⟩ := ih
      exact ⟨received, { haccounts with }⟩
  | round _ deadline looking ih =>
      obtain ⟨received, haccounts⟩ := ih
      obtain ⟨more, hnext⟩ := haccounts.round (rounds_round world deadline looking _)
      exact ⟨received ++ more, hnext⟩

/-! ## Reads -/

/-- Whenever a read is about to start, it asks for as much as there is room for up to
the limit, and that is not nothing.  So bytes that do not come are the end of the
stream, not an answer to an empty request. -/
structure Asks (capacity limit : Nat) (timeline : FramerTimeline) (asked : Nat) : Prop where
  pending_eq : timeline.framer.pending = []
  buffer_lt : timeline.framer.buffer.length < capacity
  newline_notMem : newline ∉ timeline.framer.buffer
  asked_eq : asked = min limit (capacity - timeline.framer.buffer.length)
  asked_pos : 1 ≤ asked
  asked_le : asked ≤ limit
  atEnd_of_nothing : (timeline.pipe.look timeline.clock asked).1 = .ready (.data []) →
    timeline.pipe.isAtEnd timeline.clock = true

/-- The bytes that have been read are in messages, stand in the buffer, or were newlines,
and the counters tell how many they are. -/
structure Balances (content : Bytes) (counters : Counters) (returned : List Message)
    (timeline : FramerTimeline) : Prop where
  bytes : ∃ received, content = received ++ timeline.pipe.content ∧
    lineBytes (returned ++ timeline.framer.pending) ++ timeline.framer.buffer =
      withoutNewlines received ∧
    received.length = totalSize returned + totalSize timeline.framer.pending +
      received.count newline + timeline.framer.buffer.length ∧
    timeline.tracer.counters.read = counters.read + UInt64.ofNat received.length ∧
    timeline.tracer.counters.newlines =
      counters.newlines + UInt64.ofNat (received.count newline)
  buffer_of_ended : timeline.framer.ended = true → timeline.framer.buffer = []

theorem Accounts.balances (haccounts : timeline.Accounts world source capacity limit content
    counters received returned) : timeline.Balances content counters returned where
  bytes := by
    refine ⟨received, haccounts.content_eq,
      haccounts.follows.lineBytes_eq haccounts.buffer_of_ended, ?_, haccounts.read_eq,
      haccounts.newlines_eq⟩
    rw [haccounts.follows.length_eq haccounts.buffer_of_ended]
    exact Nat.add_right_comm _ _ _
  buffer_of_ended := haccounts.buffer_of_ended

theorem Accounts.asks (haccounts : timeline.Accounts world source capacity limit content
    counters received returned) {cancelled : Bool}
    (hdemand : timeline.framer.demand cancelled = .read asked) :
    timeline.Asks capacity limit asked := by
  obtain ⟨hpending, hended, hasked, -⟩ := Framer.read_of_demand hdemand
  have hawaits := haccounts.follows.awaits hended
  have hcapacity := haccounts.follows.capacity_eq hended
  have hpos := haccounts.follows.request_pos hended
  have hrequest : timeline.framer.request = min limit (capacity - timeline.framer.buffer.length) := by
    rw [Framer.request, haccounts.readLimit_eq, hcapacity]
  rw [← hasked] at hpos hrequest
  refine ⟨hpending, hcapacity ▸ hawaits.room, hawaits.clean, hrequest, hpos, ?_, ?_⟩
  · rw [hrequest]
    exact Nat.min_le_left _ _
  · exact PipeScript.isAtEnd_of_look hpos

/-- At every point of every sequence of calls, whatever the pipe does and whenever the
session is cancelled: a read that is about to start asks for something, and the bytes
that were read are accounted for. -/
theorem reads_ask_and_bytes_balance (world : World) (source : Source)
    (bufferSize readLimit clock : Nat) (pipe : PipeScript) (cancelled : Bool) (asked : List Nat)
    (tracer : Tracer) :
    let start : FramerTimeline :=
      ⟨Framer.create source bufferSize readLimit, pipe, clock, cancelled, asked, tracer⟩
    let capacity := max bufferSize 1
    (∀ returned timeline, Reaches world start returned timeline →
      (∀ cancelled asked, timeline.framer.demand cancelled = .read asked →
        timeline.Asks capacity (max 1 (min readLimit capacity)) asked) ∧
      timeline.Balances pipe.content tracer.counters returned) ∧
    ∀ calls, Reaches world start ((callAll world calls start).2.flatMap Answer.messages)
      (callAll world calls start).1 := by
  intro start capacity
  have hstart := accounts_create world source bufferSize readLimit clock pipe cancelled asked tracer
  refine ⟨fun returned timeline hreached => ?_, fun calls => Reaches.start.callAll calls⟩
  obtain ⟨received, haccounts⟩ := hreached.accounts hstart
  exact ⟨fun cancelled asked hdemand => haccounts.asks hdemand, haccounts.balances⟩

/-- A read fills the buffer of three bytes, and a line is taken out of it: what is left is
no segment, and there is room for two bytes. -/
theorem asks_for_the_room_that_is_left :
    let world : World := ⟨RunId.ofBits, fun _ => default, 5⟩
    let start : FramerTimeline :=
      ⟨Framer.create .stdout 3 7, [.data [97, 10, 98], .wait 1, .fail (.plain .interrupted)], 0,
        false, [], Tracer.create⟩
    let called := callAll world [false] start
    called.1.framer.demand false = .read 2 ∧ called.1.Asks 3 3 2 ∧
      called.1.Balances start.pipe.content Counters.zero
        [⟨[97], .stdout, default, none⟩] := by
  intro world start called
  obtain ⟨hsound, hcalls⟩ := reads_ask_and_bytes_balance world .stdout 3 7 0 start.pipe false []
    Tracer.create
  obtain ⟨hasks, hbalances⟩ := hsound _ _ (hcalls [false])
  have hdemand : called.1.framer.demand false = .read 2 := rfl
  exact ⟨hdemand, hasks false 2 hdemand, hbalances⟩

end FramerTimeline

end LogRelay
