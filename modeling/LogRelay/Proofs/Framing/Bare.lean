import LogRelay.Proofs.Framing.Cutter

/-!
# Messages without identifiers and times

The identifier of a run is drawn by chance and its time is the time of day.  What else
a message says is decided by the stream alone: a framer treats messages without
identifiers and times as it treats all others.
-/

namespace LogRelay

/-- The message without what chance and the clock decide. -/
def Message.bare (message : Message) : Message where
  line := message.line
  source := message.source
  time := default
  partialTag := message.partialTag.map fun tag => { tag with id := "" }

/-- What the frame makes of a message, but for identifier and time. -/
def Frame.bare (source : Source) (frame : Frame) : Message where
  line := frame.line
  source := source
  time := default
  partialTag := frame.place.map fun place => ⟨"", UInt32.ofNat place.ordinal, place.last⟩

theorem Frame.Shows.bare_eq {source : Source} {ids : Nat → String} {times : List Timestamp}
    {frame : Frame} {message : Message} (hshows : Frame.Shows source ids times frame message) :
    message.bare = frame.bare source := by
  rw [Message.bare, hshows.line_eq, hshows.source_eq, hshows.tag_eq, Option.map_map]
  rfl

/-- Messages that show the same frames differ in identifiers and times at most. -/
theorem Frame.ShowsAll.map_bare {source : Source} {ids : Nat → String} {times : List Timestamp}
    {frames : List Frame} {messages : List Message}
    (hshows : Frame.ShowsAll source ids times frames messages) :
    messages.map Message.bare = frames.map (Frame.bare source) := by
  induction hshows with
  | nil => rfl
  | cons hfirst hrest ih => rw [List.map_cons, List.map_cons, hfirst.bare_eq, ih]

/-! ## Framers -/

/-- Every run has the same identifier. -/
def bareIds : Nat → String := fun _ => ""

def OpenRun.bare (run : OpenRun) : OpenRun where
  id := ""
  ordinal := run.ordinal
  time := default

theorem OpenRun.next_bare (run? : Option OpenRun) (id : String) (now : Timestamp) :
    OpenRun.next (run?.map OpenRun.bare) "" default = (OpenRun.next run? id now).bare := by
  cases run? <;> rfl

namespace Pass

def bare (pass : Pass) : Pass :=
  { pass with
    run := pass.run.map OpenRun.bare
    made := pass.made.map Message.bare }

variable (source : Source) (ids : Nat → String) (now : Timestamp) (pass : Pass)

theorem emitPartial_bare (line : Bytes) (last : Bool) :
    pass.bare.emitPartial source bareIds default line last =
      (pass.emitPartial source ids now line last).bare := by
  have hrun : OpenRun.next pass.bare.run (bareIds pass.bare.runsBegun) default =
      (OpenRun.next pass.run (ids pass.runsBegun) now).bare := OpenRun.next_bare _ _ _
  rw [emitPartial, hrun, emitPartial]
  cases last <;> simp [bare, OpenRun.bare, Message.bare]

theorem takeLine_bare (line : Bytes) :
    pass.bare.takeLine source default line = (pass.takeLine source now line).bare := by
  obtain ⟨run, runsBegun, made, consumed, newlines⟩ := pass
  cases run with
  | none =>
      by_cases hline : line.isEmpty <;>
        simp [takeLine, emitLine, bare, hline, Message.complete, Message.bare]
  | some run => simp [takeLine, emitLine, bare, OpenRun.bare, Message.bare]

theorem takeLines_bare (left : Bytes) (place : Nat) (rest : Bytes) :
    takeLines source default pass.bare left place rest =
      (takeLines source now pass left place rest).bare := by
  induction rest generalizing pass left place with
  | nil => rfl
  | cons byte rest ih =>
      rw [takeLines, takeLines]
      split
      · rw [takeLine_bare source now, ih]
      · rw [ih]

end Pass

namespace Framer

def bare (framer : Framer) : Framer :=
  { framer with
    run := framer.run.map OpenRun.bare
    pending := framer.pending.map Message.bare }

variable (framer : Framer) (ids : Nat → String) (now : Timestamp)

theorem finishPass_bare (pass : Pass) : framer.bare.finishPass bareIds default pass.bare =
    (framer.finishPass ids now pass).bare := by
  have hcut := Pass.emitPartial_bare framer.source ids now pass
  have hsome : pass.bare.run.isSome = pass.run.isSome := Option.isSome_map
  unfold finishPass
  rw [apply_ite Pass.bare, apply_ite Pass.bare, hsome]
  refine if_congr Iff.rfl ?_ (if_congr Iff.rfl (hcut [] true) rfl)
  exact congrArg (fun cut : Pass => { cut with consumed := framer.buffer.length }) (hcut _ _)

theorem pass_bare : framer.bare.pass bareIds default = (framer.pass ids now).bare := by
  have hlines := Pass.takeLines_bare framer.source now framer.startPass framer.buffer 0
    framer.buffer
  have hfinish := finishPass_bare framer ids now
    (Pass.takeLines framer.source now framer.startPass framer.buffer 0 framer.buffer)
  rw [← hlines] at hfinish
  exact hfinish

theorem receive_bare (bytes : Bytes) : framer.bare.receive bareIds default bytes =
    ((framer.receive ids now bytes).1.bare, (framer.receive ids now bytes).2) := by
  have hfill : framer.bare.fill bytes = (framer.fill bytes).bare := by
    rw [fill, fill]
    split <;> rfl
  rw [receive, receive, hfill, pass_bare _ ids now]
  simp [keep, bare, Pass.bare]

/-- What the framer does, with a message that it hands out made bare. -/
def Demand.bare : Demand → Demand
  | .message yielded rest => .message yielded.bare rest.bare
  | .finished => .finished
  | .read asked => .read asked

theorem demand_bare (cancelled : Bool) :
    framer.bare.demand cancelled = (framer.demand cancelled).bare := by
  cases hpending : framer.pending with
  | nil =>
      simp only [demand, bare, hpending, List.map_nil]
      split <;> rfl
  | cons message rest => simp only [demand, bare, hpending, List.map_cons, Demand.bare]

end Framer

end LogRelay
