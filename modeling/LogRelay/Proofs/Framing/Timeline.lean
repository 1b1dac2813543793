import LogRelay.Proofs.Framing.Framer
import LogRelay.Proofs.Framing.Reads
import LogRelay.Proofs.Framing.Rounds

/-!
# Framing does not depend on the reads

A framer that is asked for messages until there are none gives the canonical
framing of what its pipe brings, whatever the size of the buffer, the limit of
a read and the pieces in which the bytes come, and however often a read is
interrupted or has to wait.
-/

namespace LogRelay.FramerTimeline

variable {world : World} {source : Source} {capacity : Nat} {whole : Bytes}
variable {yielded : List Message} {timeline : FramerTimeline}

/-- A framer on its way through a steady pipe: what it has received and what the
pipe still brings are the whole stream. -/
structure OnTheWay (world : World) (source : Source) (capacity : Nat) (whole : Bytes)
    (deadline : Nat) (yielded : List Message) (timeline : FramerTimeline) : Prop where
  follows : ∃ stream, whole = stream ++ timeline.pipe.content ∧
    timeline.framer.Follows source capacity world.ids stream yielded
  content_of_ended : timeline.framer.ended = true → timeline.pipe.content = []
  steady : timeline.pipe.isSteady
  notCancelled : timeline.cancelled = false
  ends_le : timeline.pipe.endsBy timeline.clock ≤ deadline

/-- A bound for the messages that are still to come. -/
def messagesLeft (timeline : FramerTimeline) : Nat :=
  timeline.framer.pending.length + timeline.pipe.content.length +
    if timeline.framer.ended then 0 else 1

/-- A bound for the looks at the pipe until there is a message or the end. -/
def looksLeft (timeline : FramerTimeline) : Nat :=
  timeline.pipe.looksLeft timeline.clock + if timeline.framer.ended then 0 else 1

/-- A request for a message comes to the next message, or to the end when all
messages of the canonical framing are out. -/
inductive Comes (world : World) (source : Source) (capacity : Nat) (whole : Bytes)
    (deadline : Nat) (yielded : List Message) (timeline : FramerTimeline) :
    FramerTimeline × Answer → Prop where
  | message {message : Message} {next : FramerTimeline}
      (hway : next.OnTheWay world source capacity whole deadline (yielded ++ [message]))
      (hclock : timeline.clock ≤ next.clock)
      (hleft : next.messagesLeft < timeline.messagesLeft) :
      Comes world source capacity whole deadline yielded timeline (next, .message message)
  | finished {next : FramerTimeline}
      (hshows : ∃ times, Frame.ShowsAll source world.ids times
        (Frame.canonical capacity whole) yielded) :
      Comes world source capacity whole deadline yielded timeline (next, .finished)

theorem Comes.of_later {deadline : Nat} {later : FramerTimeline}
    {result : FramerTimeline × Answer}
    (hcomes : Comes world source capacity whole deadline yielded later result)
    (hclock : timeline.clock ≤ later.clock)
    (hleft : later.messagesLeft ≤ timeline.messagesLeft) :
    Comes world source capacity whole deadline yielded timeline result := by
  cases hcomes with
  | message hway hclock' hleft' =>
      exact .message hway (Nat.le_trans hclock hclock') (Nat.lt_of_lt_of_le hleft' hleft)
  | finished hshows => exact .finished hshows

/-- A round on the way that hands nothing out leaves less to look at. -/
structure Nears (world : World) (source : Source) (capacity : Nat) (whole : Bytes)
    (deadline : Nat) (yielded : List Message) (timeline next : FramerTimeline) : Prop where
  way : next.OnTheWay world source capacity whole deadline yielded
  clock_le : timeline.clock ≤ next.clock
  messages_le : next.messagesLeft ≤ timeline.messagesLeft
  looks_lt : next.looksLeft < timeline.looksLeft

/-- What a round on the way comes to.  It ends its call only with the next message or
behind the last one. -/
def Advances (world : World) (source : Source) (capacity : Nat) (whole : Bytes) (deadline : Nat)
    (yielded : List Message) (timeline next : FramerTimeline) : Outcome → Prop
  | .answered answer => Comes world source capacity whole deadline yielded timeline (next, answer)
  | .goesOn _ => timeline.Nears world source capacity whole deadline yielded next

/-- A read takes as many bytes off the pipe as it may add messages, and the end of
the stream is seen once. -/
theorem messagesLeft_receive_le {framer : Framer} {pipe rest : PipeScript} {bytes : Bytes}
    {clock request : Nat} {cancelled : Bool} {asked asked' : List Nat} {tracer tracer' : Tracer}
    (hawaits : framer.Awaits request) (hfits : bytes.length ≤ request)
    (hcontent : pipe.content = bytes ++ rest.content) (ids : Nat → String) (now : Timestamp) :
    messagesLeft ⟨(framer.receive ids now bytes).1, rest, clock, cancelled, asked', tracer'⟩ ≤
      messagesLeft ⟨framer, pipe, clock, cancelled, asked, tracer⟩ := by
  have hmore := hawaits.length_pending_receive_le hfits ids now
  simp only [messagesLeft, Framer.ended_receive, hawaits.going, hcontent, List.length_append]
  cases bytes with
  | nil =>
      simp only [List.length_nil, List.isEmpty_nil, Bool.or_true, if_true, Bool.false_eq_true,
        if_false] at hmore ⊢
      omega
  | cons byte bytes =>
      simp only [List.length_cons, List.isEmpty_cons, Bool.or_self, Bool.false_eq_true,
        if_false] at hmore ⊢
      omega

namespace OnTheWay

variable {deadline time : Nat} {looking : Bool} {next : FramerTimeline} {rest : PipeScript}
variable {answer : PipeAnswer} {outcome : Outcome}

theorem brings (hway : timeline.OnTheWay world source capacity whole deadline yielded)
    (hlooks : timeline.Looks looking answer rest) :
    timeline.pipe.Brings timeline.clock (answer, rest) := by
  obtain ⟨stream, -, hfollows⟩ := hway.follows
  rw [← hlooks.look_eq]
  exact PipeScript.brings_look timeline.clock (hfollows.request_pos hlooks.ended_eq) hway.steady

/-- What a read brings is received, and nothing follows on the end of the stream. -/
theorem read {bytes : Bytes}
    (hway : timeline.OnTheWay world source capacity whole deadline yielded)
    (hlooks : timeline.Looks looking (.ready (.data bytes)) rest) :
    timeline.Nears world source capacity whole deadline yielded
      ((countRead { timeline with pipe := rest } timeline.framer.request (.data bytes)).takeUp world
        bytes) := by
  obtain ⟨stream, hwhole, hfollows⟩ := hway.follows
  have hawaits := hfollows.awaits hlooks.ended_eq
  have hfits := PipeScript.length_le_of_look hlooks.look_eq
  have hreceived := hfollows.receive hawaits hfits (world.time timeline.clock)
  obtain ⟨hsteady, hcontent, hlast, hends, hless⟩ := (hway.brings hlooks).of_data
  refine ⟨⟨⟨stream ++ bytes, ?_, hreceived⟩, fun hover => ?_, hsteady, hway.notCancelled,
    hends.trans hway.ends_le⟩, Nat.le_refl _, messagesLeft_receive_le hawaits hfits hcontent _ _,
    ?_⟩
  · rw [hwhole, hcontent, List.append_assoc]
    rfl
  · rw [takeUp, Framer.ended_receive, Bool.or_eq_true, List.isEmpty_iff] at hover
    exact hlast (hover.resolve_left (Bool.eq_false_iff.mp hlooks.ended_eq))
  · simpa only [looksLeft, takeUp, countRead, Framer.ended_receive, hlooks.ended_eq, Bool.false_or,
      Bool.false_eq_true, if_false] using Nat.lt_succ_of_le hless

/-- An interruption or a wait leaves the framer as it is. -/
theorem pass (hway : timeline.OnTheWay world source capacity whole deadline yielded)
    (hended : timeline.framer.ended = false) (hsteady : rest.isSteady)
    (hcontent : timeline.pipe.content = rest.content)
    (hlooks : rest.looksLeft time < timeline.pipe.looksLeft timeline.clock)
    (hends : rest.endsBy time = timeline.pipe.endsBy timeline.clock)
    (hclock : timeline.clock ≤ time) (asked : List Nat) :
    timeline.Nears world source capacity whole deadline yielded
      { timeline with pipe := rest, clock := time, asked := asked } where
  way :=
    { hway with
      follows := hcontent ▸ hway.follows
      content_of_ended := fun hover => absurd hover (Bool.eq_false_iff.mp hended)
      steady := hsteady
      ends_le := hends.le.trans hway.ends_le }
  clock_le := hclock
  messages_le := by
    simp only [messagesLeft, hcontent, Nat.le_refl]
  looks_lt := Nat.add_lt_add_right hlooks _

theorem round (hway : timeline.OnTheWay world source capacity whole deadline yielded)
    (hrounds : Rounds world deadline looking timeline next outcome) :
    timeline.Advances world source capacity whole deadline yielded next outcome := by
  obtain ⟨stream, hwhole, hfollows⟩ := hway.follows
  cases hrounds with
  | hands hpending =>
      refine .message { hway with follows := ⟨stream, hwhole, hfollows.yield hpending⟩ }
        (Nat.le_refl _) ?_
      simp only [messagesLeft, hpending, List.length_cons]
      omega
  | ends hpending hover =>
      rw [hway.notCancelled, Bool.false_and, Bool.or_false] at hover
      obtain ⟨times, hshows⟩ := hfollows.done hover
      rw [hpending, List.append_nil] at hshows
      rw [hway.content_of_ended hover, List.append_nil] at hwhole
      exact .finished ⟨times, hwhole ▸ hshows⟩
  | reads hlooks => exact hway.read hlooks
  | fails hlooks =>
      cases hway.brings hlooks with
      | interruption hfailure hsteady hcontent hless hends =>
          rw [if_pos hfailure]
          exact hway.pass hlooks.ended_eq hsteady hcontent hless hends (Nat.le_refl _) _
  | crashes hlooks | cancels hlooks => cases hway.brings hlooks
  | leaves _ hcancelled => exact absurd hcancelled (Bool.eq_false_iff.mp hway.notCancelled)
  | @hangs until? rest hlooks _ hlate =>
      cases hway.brings hlooks with
      | @wait time rest htime hsteady hcontent hless hends =>
          have hbegun := PipeScript.le_endsBy time rest
          have hends_le := hway.ends_le
          have hlate := hlate _ rfl
          omega
  | waits hlooks =>
      cases hway.brings hlooks with
      | wait htime hsteady hcontent hless hends =>
          exact hway.pass hlooks.ended_eq hsteady hcontent hless hends htime.le _

end OnTheWay

/-- Enough looks come to a message or to the end. -/
theorem comes_nextFor {deadline fuel : Nat} {looking : Bool}
    (hway : timeline.OnTheWay world source capacity whole deadline yielded)
    (hfuel : timeline.looksLeft < fuel) :
    Comes world source capacity whole deadline yielded timeline
      (nextFor world deadline fuel looking timeline) := by
  induction fuel generalizing timeline looking with
  | zero => exact absurd hfuel (Nat.not_lt_zero _)
  | succ fuel ih =>
      have hround := hway.round (rounds_round world deadline looking timeline)
      rw [nextFor_succ]
      rcases hresult : FramerTimeline.round world deadline looking timeline with
        ⟨next, answer | further⟩
      · rw [hresult] at hround
        exact hround
      · rw [hresult] at hround
        have hless := Nat.lt_of_lt_of_le hround.looks_lt (Nat.le_of_lt_succ hfuel)
        exact (ih hround.way hless).of_later hround.clock_le hround.messages_le

/-- One request for a message. -/
theorem comes_next {deadline : Nat}
    (hway : timeline.OnTheWay world source capacity whole deadline yielded)
    (hdeadline : deadline ≤ timeline.clock + world.patienceMs) :
    Comes world source capacity whole (timeline.clock + world.patienceMs) yielded timeline
      (timeline.next world) := by
  have hlooks := PipeScript.looksLeft_lt_work timeline.clock timeline.pipe
  refine comes_nextFor ⟨hway.follows, hway.content_of_ended, hway.steady, hway.notCancelled,
    hway.ends_le.trans hdeadline⟩ ?_
  rw [looksLeft]
  split <;> omega

theorem drainFor_eq {deadline fuel : Nat}
    (hway : timeline.OnTheWay world source capacity whole deadline yielded)
    (hdeadline : deadline ≤ timeline.clock + world.patienceMs)
    (hfuel : timeline.messagesLeft < fuel) :
    ∃ messages times,
      (drainFor world fuel timeline).2 = messages.map Answer.message ++ [.finished] ∧
      Frame.ShowsAll source world.ids times (Frame.canonical capacity whole)
        (yielded ++ messages) := by
  induction fuel generalizing timeline yielded deadline with
  | zero => exact absurd hfuel (Nat.not_lt_zero _)
  | succ fuel ih =>
      have hcomes := comes_next hway hdeadline
      rw [drainFor]
      generalize timeline.next world = found at hcomes
      cases hcomes with
      | @message message next hnext hclock hleft =>
          obtain ⟨messages, times, hanswers, hshows⟩ :=
            ih hnext (Nat.add_le_add_right hclock _) (by omega)
          refine ⟨message :: messages, times, ?_, ?_⟩
          · simp only [hanswers, List.map_cons, List.cons_append]
          · simpa using hshows
      | finished hshows =>
          obtain ⟨times, hshows⟩ := hshows
          exact ⟨[], times, rfl, by simpa using hshows⟩

/-- From any point on its way the framer completes the canonical framing. -/
theorem drain_of_onTheWay {deadline : Nat}
    (hway : timeline.OnTheWay world source capacity whole deadline yielded)
    (hdeadline : deadline ≤ timeline.clock + world.patienceMs) :
    ∃ messages times,
      (timeline.drain world).2 = messages.map Answer.message ++ [.finished] ∧
      Frame.ShowsAll source world.ids times (Frame.canonical capacity whole)
        (yielded ++ messages) := by
  have hwork := PipeScript.length_content_lt_work timeline.pipe
  apply drainFor_eq hway hdeadline
  rw [messagesLeft]
  split <;> omega

theorem onTheWay_create (world : World) (source : Source) (bufferSize readLimit clock : Nat)
    {pipe : PipeScript} (asked : List Nat) (tracer : Tracer) (hsteady : pipe.isSteady) :
    OnTheWay world source (max bufferSize 1) pipe.content (pipe.endsBy clock) []
      ⟨Framer.create source bufferSize readLimit, pipe, clock, false, asked, tracer⟩ :=
  ⟨⟨[], rfl, Framer.follows_create source world.ids bufferSize readLimit⟩,
    fun hended => absurd hended Bool.false_ne_true, hsteady, rfl, Nat.le_refl _⟩

/-- A fresh framer that is drained over a steady pipe hands out the canonical
framing of what the pipe brings, and then the end.  How the bytes are cut into
reads makes no difference, and no wait of the pipe is longer than the caller's
patience.  No piece of the stream has more segments than can be numbered. -/
theorem drain_eq_canonical (world : World) (source : Source) (bufferSize readLimit clock : Nat)
    (pipe : PipeScript) (asked : List Nat) (tracer : Tracer) (hsteady : pipe.isSteady)
    (hpatience : pipe.endsBy clock ≤ clock + world.patienceMs)
    (hfew : Frame.HasFewSegments (max bufferSize 1) pipe.content) :
    ∃ messages times,
      (drain world ⟨Framer.create source bufferSize readLimit, pipe, clock, false, asked,
        tracer⟩).2 = messages.map Answer.message ++ [.finished] ∧
      Frame.ShowsAllExactly source world.ids times
        (Frame.canonical (max bufferSize 1) pipe.content) messages := by
  obtain ⟨messages, times, hanswers, hshows⟩ := drain_of_onTheWay
    (onTheWay_create world source bufferSize readLimit clock asked tracer hsteady) hpatience
  exact ⟨messages, times, hanswers, hshows.exactly_of_few hfew (List.Subset.refl _)⟩

/-- A line of twice the size of the buffer, an interruption within it, and a last
line without a newline. -/
theorem drain_shows_two_runs :
    let world : World := ⟨RunId.ofBits, fun clock => Timestamp.addMillis default clock, 5⟩
    let pipe : PipeScript := [.data [97, 98, 10, 99, 100, 101, 102, 103],
      .fail (.plain .interrupted), .wait 3, .data [104, 10, 10, 105, 106]]
    pipe.isSteady = true ∧ pipe.endsBy 0 ≤ 0 + world.patienceMs ∧
      Frame.HasFewSegments (max 3 1) pipe.content ∧
      ∃ messages times,
        (drain world ⟨Framer.create .stdout 3 2, pipe, 0, false, [], default⟩).2 =
          messages.map Answer.message ++ [.finished] ∧
        Frame.ShowsAllExactly .stdout world.ids times
          [⟨[97, 98], none⟩,
            ⟨[99, 100, 101], some ⟨0, 1, false⟩⟩, ⟨[102, 103, 104], some ⟨0, 2, false⟩⟩,
            ⟨[], some ⟨0, 3, true⟩⟩, ⟨[105, 106], some ⟨1, 1, true⟩⟩] messages := by
  intro world pipe
  have hsteady : pipe.isSteady = true := by decide
  have hpatience : pipe.endsBy 0 ≤ 0 + world.patienceMs := by decide
  have hcanonical : Frame.canonical (max 3 1) pipe.content =
      [⟨[97, 98], none⟩,
        ⟨[99, 100, 101], some ⟨0, 1, false⟩⟩, ⟨[102, 103, 104], some ⟨0, 2, false⟩⟩,
        ⟨[], some ⟨0, 3, true⟩⟩, ⟨[105, 106], some ⟨1, 1, true⟩⟩] := by decide
  have hfew : Frame.HasFewSegments (max 3 1) pipe.content := by decide
  have hdrain := drain_eq_canonical world .stdout 3 2 0 pipe [] default hsteady hpatience hfew
  rw [hcanonical] at hdrain
  exact ⟨hsteady, hpatience, hfew, hdrain⟩

end LogRelay.FramerTimeline
