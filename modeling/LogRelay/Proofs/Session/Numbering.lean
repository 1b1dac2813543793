import LogRelay.Proofs.Session.Reasons
import LogRelay.Proofs.Session.Streams

/-!
# Segments are numbered without an overflow

The segments of a run are numbered with 32 bits.  Where no line of a pipe has more
segments than can be numbered, none of what its reader has read so far has, for it is a
beginning of what the pipe holds.  So the number of a segment is never too large for the
next one, and every message has the number that its place in the run has.
-/

namespace LogRelay.Session

variable {plan : Plan} {stdout stderr : Option PipeScript} {sink : SinkBehaviour}
variable {schedule : Schedule} {source : Source}

/-- The stream of a pipe; a pipe that is missing has none. -/
def streamOf (pipe : Option PipeScript) : Bytes :=
  (pipe.map PipeScript.content).getD []

theorem stream_create (plan : Plan) (stdout stderr : Option PipeScript) (sink : SinkBehaviour)
    (source : Source) : (create plan stdout stderr sink).stream source =
      streamOf (pipesOf stdout stderr source) := by
  rw [stream, reader?_create, streamOf]
  cases pipesOf stdout stderr source <;> rfl

theorem stream_course (plan : Plan) (stdout stderr : Option PipeScript) (sink : SinkBehaviour)
    (schedule : Schedule) (source : Source) (now : Nat) :
    (course plan (create plan stdout stderr sink) schedule now).stream source =
      streamOf (pipesOf stdout stderr source) :=
  course_induction (motive := fun session => session.stream source =
      streamOf (pipesOf stdout stderr source))
    (stream_create plan stdout stderr sink source)
    (fun _ _ hbefore hmove => (congrFun hmove.stream_eq source).trans hbefore) now

/-- No line of a pipe has more segments than can be numbered. -/
def FewSegments (plan : Plan) (pipes : Source → Option PipeScript) : Prop :=
  ∀ source pipe, pipes source = some pipe →
    Frame.HasFewSegments (max plan.options.bufferSize 1) pipe.content

theorem FewSegments.streamOf (hfew : FewSegments plan (pipesOf stdout stderr)) (source : Source) :
    Frame.HasFewSegments (max plan.options.bufferSize 1)
      (streamOf (pipesOf stdout stderr source)) := by
  cases hpipe : pipesOf stdout stderr source with
  | some pipe => exact hfew source pipe hpipe
  | none =>
      intro piece hpiece
      rw [List.mem_singleton.mp hpiece]
      exact Nat.lt_of_le_of_lt (Nat.succ_le_succ (Nat.zero_div _).le) (by decide)

/-- What has been read of a source has few segments as well. -/
theorem FewSegments.received (hfew : FewSegments plan (pipesOf stdout stderr))
    (sink : SinkBehaviour) (schedule : Schedule) (source : Source) (now : Nat) :
    Frame.HasFewSegments (max plan.options.bufferSize 1)
      (received source (course plan (create plan stdout stderr sink) schedule now).journal) := by
  have hstream := hfew.streamOf source
  rw [← stream_course plan stdout stderr sink schedule source now, stream] at hstream
  exact hstream.of_append

/-- Every number that the framer of the reader has made is that of the place it stands
for, and there is one for the next segment of the run that is open, the only one that a
pass over the buffer can go on with. -/
structure ReaderNumbersFit (plan : Plan) (source : Source) (progress : Progress)
    (reader : Reader) : Prop where
  made : ∃ times frames,
    frames <+: Frame.canonical (max plan.options.bufferSize 1) progress.received ∧
    Frame.ShowsAllExactly source (plan.runIds source) times frames
      (progress.yielded ++ reader.framer.pending)
  next : reader.framer.ended = false →
    ∀ run ∈ reader.framer.run, run.ordinal.toNat + 1 < UInt32.size

def NumbersFit (plan : Plan) (session : Session) : Prop :=
  ∀ source reader, session.reader? source = some reader →
    ReaderNumbersFit plan source (session.progress source) reader

/-- In no state of a session has the number of a segment wrapped around, and no step that
the session can make then wraps one around. -/
theorem numbersFit_course (hfew : FewSegments plan (pipesOf stdout stderr)) (now : Nat) :
    (course plan (create plan stdout stderr sink) schedule now).NumbersFit plan := by
  intro source reader hreader
  have hfollows := ((live_course plan stdout stderr sink schedule now).follows source reader
    hreader).framer_follows
  have hreceived := hfew.received sink schedule source now
  obtain ⟨times, frames, hbeginning, hshows⟩ := hfollows.showsAll_prefix
  exact ⟨⟨times, frames, hbeginning, hshows.exactly_of_few hreceived hbeginning.subset⟩,
    fun hended => hfollows.ordinal_succ_lt hended hreceived⟩

end LogRelay.Session
