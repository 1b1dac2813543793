import LogRelay.Proofs.Framing.Pass

/-!
# The framer follows the canonical framing

However a stream is cut into reads, the messages that the passes over the buffer
make of it are those of the frames so far, and the end of the stream completes them
to the canonical framing.  A framer hands them out in that order.

Whenever it is about to read, its buffer has room and holds no newline, so that the
read asks for something.
-/

namespace LogRelay

variable {source : Source} {capacity : Nat} {ids : Nat → String}
variable {stream : Bytes} {messages yielded : List Message}

namespace Cutter

variable {cutter : Cutter}

/-- The cutter has been fed the stream and has made the messages of it. -/
def Follows (source : Source) (capacity : Nat) (ids : Nat → String) (stream : Bytes)
    (messages : List Message) (cutter : Cutter) : Prop :=
  ∃ times, cutter.Reflects source capacity ids times (Frame.nextRun capacity stream)
      (Lines.unfinished stream) ∧
    Frame.ShowsAll source ids times (Frame.soFar capacity stream) messages

theorem follows_create (source : Source) (ids : Nat → String) (hcapacity : 0 < capacity) :
    (create source capacity).Follows source capacity ids [] [] := by
  refine ⟨[], reflects_create source ids hcapacity, ?_⟩
  simp [Frame.soFar, Frame.ofLines, Frame.fullSegments]

namespace Follows

theorem count_lt (hcutter : cutter.Follows source capacity ids stream messages)
    (hcapacity : 0 < capacity) : cutter.count < cutter.capacity := by
  obtain ⟨times, hreflects, -⟩ := hcutter
  exact hreflects.count_lt hcapacity

/-- One byte. -/
theorem feed (hcutter : cutter.Follows source capacity ids stream messages)
    (hcapacity : 0 < capacity) (now : Timestamp) (byte : UInt8) :
    (cutter.feed ids now byte).1.Follows source capacity ids (stream ++ [byte])
      (messages ++ (cutter.feed ids now byte).2.toList) := by
  obtain ⟨times, hreflects, hshows⟩ := hcutter
  by_cases hbyte : byte = newline
  · subst hbyte
    have hfeed : cutter.feed ids now newline = cutter.endLine now := if_pos rfl
    refine ⟨times, ?_, ?_⟩
    · rw [hfeed, Frame.nextRun_concat_newline, Lines.unfinished_concat_newline]
      exact hreflects.endLine hcapacity now
    · rw [hfeed, Frame.soFar_concat_newline]
      exact List.rel_append hshows (hreflects.showsAll_endLine hcapacity now)
  · obtain ⟨more, hnext, hnew⟩ := hreflects.feed hcapacity now hbyte
    refine ⟨times ++ more, ?_, ?_⟩
    · rw [Frame.nextRun_concat hbyte, Lines.unfinished_concat hbyte]
      exact hnext
    · rw [Frame.soFar_concat hbyte]
      exact List.rel_append (hshows.imp fun _ _ => Frame.Shows.append_times) hnew

theorem feedOnto (hcapacity : 0 < capacity) (now : Timestamp) (bytes : Bytes)
    {cut : List Message}
    (hcutter : cutter.Follows source capacity ids stream (messages ++ cut.reverse)) :
    (Cutter.feedOnto ids now cutter cut bytes).1.Follows source capacity ids (stream ++ bytes)
      (messages ++ (Cutter.feedOnto ids now cutter cut bytes).2.reverse) := by
  induction bytes generalizing cutter cut stream with
  | nil => simpa [Cutter.feedOnto] using hcutter
  | cons byte bytes ih =>
      have hnext := hcutter.feed hcapacity now byte
      have hstream : stream ++ byte :: bytes = (stream ++ [byte]) ++ bytes := by simp
      rw [hstream, Cutter.feedOnto]
      rcases hfeed : cutter.feed ids now byte with ⟨next, _ | message⟩
      · rw [hfeed] at hnext
        exact ih (by simpa using hnext)
      · rw [hfeed] at hnext
        exact ih (by simpa using hnext)

/-- What one read brings. -/
theorem feedAll (hcutter : cutter.Follows source capacity ids stream messages)
    (hcapacity : 0 < capacity) (now : Timestamp) (bytes : Bytes) :
    (cutter.feedAll ids now bytes).1.Follows source capacity ids (stream ++ bytes)
      (messages ++ (cutter.feedAll ids now bytes).2) :=
  feedOnto hcapacity now bytes (by simpa using hcutter)

theorem close (hcutter : cutter.Follows source capacity ids stream messages)
    (hcapacity : 0 < capacity) (now : Timestamp) :
    ∃ times, Frame.ShowsAll source ids times (Frame.canonical capacity stream)
      (messages ++ (cutter.close ids now).2.toList) := by
  obtain ⟨times, hreflects, hshows⟩ := hcutter
  obtain ⟨more, hlast⟩ := hreflects.showsAll_close hcapacity now
  refine ⟨times ++ more, ?_⟩
  rw [Frame.canonical_eq_append]
  exact List.rel_append (hshows.imp fun _ _ => Frame.Shows.append_times) hlast

end Follows

/-! ## How many messages there are -/

theorem length_feedOnto_le (ids : Nat → String) (now : Timestamp) (cutter : Cutter)
    (cut : List Message) (bytes : Bytes) :
    (feedOnto ids now cutter cut bytes).2.length ≤ cut.length + bytes.length := by
  induction bytes generalizing cutter cut with
  | nil => simp [feedOnto]
  | cons byte bytes ih =>
      rw [feedOnto]
      rcases cutter.feed ids now byte with ⟨next, _ | message⟩
      · apply Nat.le_trans (ih next cut)
        rw [List.length_cons]
        omega
      · apply Nat.le_trans (ih next (message :: cut))
        rw [List.length_cons, List.length_cons]
        omega

theorem held_close (cutter : Cutter) (ids : Nat → String) (now : Timestamp) :
    (cutter.close ids now).1.held = [] := by
  rw [close]
  split
  · next hempty => exact List.isEmpty_iff.mp (Bool.and_eq_true_iff.mp hempty).1
  · rfl

/-- A byte makes one message at most. -/
theorem length_feedAll_le (ids : Nat → String) (now : Timestamp) (cutter : Cutter)
    (bytes : Bytes) : (cutter.feedAll ids now bytes).2.length ≤ bytes.length := by
  have hlength := length_feedOnto_le ids now cutter [] bytes
  rw [List.length_nil, Nat.zero_add] at hlength
  rw [feedAll, List.length_reverse]
  exact hlength

end Cutter

namespace Framer

variable {framer : Framer}

theorem ended_receive (framer : Framer) (ids : Nat → String) (now : Timestamp)
    (bytes : Bytes) :
    (framer.receive ids now bytes).1.ended = (framer.ended || bytes.isEmpty) := by
  cases bytes with
  | nil => simp [receive, keep, fill]
  | cons byte bytes => simp [receive, keep, fill]

theorem readLimit_receive (framer : Framer) (ids : Nat → String) (now : Timestamp)
    (bytes : Bytes) : (framer.receive ids now bytes).1.readLimit = framer.readLimit := by
  cases bytes with
  | nil => rfl
  | cons byte bytes => rfl

/-- A read adds no more messages than bytes, and the end of the stream adds one
at most. -/
theorem Awaits.length_pending_receive_le {asked : Nat} {bytes : Bytes}
    (hawaits : framer.Awaits asked) (hfits : bytes.length ≤ asked) (ids : Nat → String)
    (now : Timestamp) :
    (framer.receive ids now bytes).1.pending.length ≤
      framer.pending.length + max bytes.length 1 := by
  by_cases hbytes : bytes = []
  · subst hbytes
    have hlast : (framer.cutter.close ids now).2.toList.length ≤ 1 := by
      cases (framer.cutter.close ids now).2 <;> simp
    rw [(receive_nil_eq_close hawaits.clean ids now).2.1, List.length_append, List.length_nil]
    omega
  · have hlength := Cutter.length_feedAll_le ids now framer.cutter bytes
    rw [(receive_eq_feedAll hawaits hbytes hfits ids now).2.1, List.length_append]
    omega

/-- When the end of the stream is seen, no byte is held. -/
theorem Awaits.buffer_receive {asked : Nat} {bytes : Bytes} (hawaits : framer.Awaits asked)
    {ids : Nat → String} {now : Timestamp}
    (hended : (framer.receive ids now bytes).1.ended = true) :
    (framer.receive ids now bytes).1.buffer = [] := by
  rw [ended_receive, hawaits.going, Bool.false_or, List.isEmpty_iff] at hended
  subst hended
  have hheld := congrArg Cutter.held (receive_nil_eq_close hawaits.clean ids now).1
  rw [Cutter.held_close] at hheld
  exact List.reverse_eq_nil_iff.mp hheld

/-- The pass that follows a read meets the newlines that the read has brought. -/
theorem Awaits.newlines_receive {asked : Nat} {bytes : Bytes} (hawaits : framer.Awaits asked)
    (hfits : bytes.length ≤ asked) (ids : Nat → String) (now : Timestamp) :
    (framer.receive ids now bytes).2 = bytes.count newline := by
  by_cases hbytes : bytes = []
  · subst hbytes
    exact (receive_nil_eq_close hawaits.clean ids now).2.2
  · exact (receive_eq_feedAll hawaits hbytes hfits ids now).2.2

theorem pending_of_demand {cancelled : Bool} {message : Message} {after : Framer}
    (hdemand : framer.demand cancelled = .message message after) :
    ∃ rest, framer.pending = message :: rest ∧ after = { framer with pending := rest } := by
  rw [demand] at hdemand
  split at hdemand
  · next first rest hpending =>
      obtain ⟨rfl, rfl⟩ := Demand.message.inj hdemand
      exact ⟨rest, hpending, rfl⟩
  · split at hdemand <;> exact Demand.noConfusion hdemand

/-- The framer asks for bytes when there is nothing to hand out, until it has seen the
end of the stream. -/
theorem read_of_demand {cancelled : Bool} {asked : Nat}
    (hdemand : framer.demand cancelled = .read asked) :
    framer.pending = [] ∧ framer.ended = false ∧ asked = framer.request ∧ cancelled = false := by
  rw [demand] at hdemand
  split at hdemand
  · exact Demand.noConfusion hdemand
  · next hpending =>
      split at hdemand
      · exact Demand.noConfusion hdemand
      · next hgoing =>
          have hboth := Bool.or_eq_false_iff.mp (Bool.eq_false_iff.mpr hgoing)
          exact ⟨hpending, hboth.1, (Demand.read.inj hdemand).symm, hboth.2⟩

/-- The framer has received the stream and handed out the messages `yielded`; it
has seen the end of the stream if it is ended. -/
structure Follows (source : Source) (capacity : Nat) (ids : Nat → String) (stream : Bytes)
    (yielded : List Message) (framer : Framer) : Prop where
  capacity_pos : 0 < capacity
  readLimit_pos : 0 < framer.readLimit
  going : framer.ended = false →
    framer.cutter.Follows source capacity ids stream (yielded ++ framer.pending)
  done : framer.ended = true →
    ∃ times, Frame.ShowsAll source ids times (Frame.canonical capacity stream)
      (yielded ++ framer.pending)

theorem follows_create (source : Source) (ids : Nat → String) (bufferSize readLimit : Nat) :
    (create source bufferSize readLimit).Follows source (max bufferSize 1) ids [] [] where
  capacity_pos := Nat.lt_of_lt_of_le Nat.one_pos (Nat.le_max_right _ _)
  readLimit_pos := Nat.lt_of_lt_of_le Nat.one_pos (Nat.le_max_left _ _)
  going _ := Cutter.follows_create source ids
    (Nat.lt_of_lt_of_le Nat.one_pos (Nat.le_max_right _ _))
  done hended := by simp [create] at hended

namespace Follows

/-- Between two reads the buffer has room and holds no newline. -/
theorem awaits (hframer : framer.Follows source capacity ids stream yielded)
    (hended : framer.ended = false) : framer.Awaits framer.request := by
  obtain ⟨times, hreflects, -⟩ := hframer.going hended
  refine ⟨hended, rfl, fun hmem => ?_, hreflects.count_lt hframer.capacity_pos⟩
  exact hreflects.newline_notMem_held (List.mem_reverse.mpr hmem)

theorem capacity_eq (hframer : framer.Follows source capacity ids stream yielded)
    (hended : framer.ended = false) : framer.capacity = capacity := by
  obtain ⟨times, hreflects, -⟩ := hframer.going hended
  exact hreflects.capacity_eq

/-- A read always asks for something. -/
theorem request_pos (hframer : framer.Follows source capacity ids stream yielded)
    (hended : framer.ended = false) : 0 < framer.request := by
  have hroom := (hframer.awaits hended).room
  have hlimit := hframer.readLimit_pos
  rw [request]
  omega

theorem yield (hframer : framer.Follows source capacity ids stream yielded)
    {message : Message} {rest : List Message} (hpending : framer.pending = message :: rest) :
    Follows source capacity ids stream (yielded ++ [message])
      { framer with pending := rest } where
  capacity_pos := hframer.capacity_pos
  readLimit_pos := hframer.readLimit_pos
  going hended := by
    have hgoing := hframer.going hended
    rw [hpending] at hgoing
    rw [List.append_assoc]
    exact hgoing
  done hended := by
    have hover := hframer.done hended
    rw [hpending] at hover
    simpa using hover

/-- A read brings bytes, no more than it asked for, or none at the end of the stream. -/
theorem receive {asked : Nat} {bytes : Bytes}
    (hframer : framer.Follows source capacity ids stream yielded)
    (hawaits : framer.Awaits asked) (hfits : bytes.length ≤ asked) (now : Timestamp) :
    (framer.receive ids now bytes).1.Follows source capacity ids (stream ++ bytes) yielded := by
  have hgoing := hframer.going hawaits.going
  have hlimit : 0 < (framer.receive ids now bytes).1.readLimit := by
    rw [readLimit_receive]
    exact hframer.readLimit_pos
  have hended := ended_receive framer ids now bytes
  rw [hawaits.going, Bool.false_or] at hended
  by_cases hbytes : bytes = []
  · subst hbytes
    obtain ⟨-, hpending, -⟩ := receive_nil_eq_close hawaits.clean ids now
    rw [List.append_nil]
    refine ⟨hframer.capacity_pos, hlimit, fun hnot => ?_, fun _ => ?_⟩
    · exact absurd (hnot.symm.trans hended) Bool.false_ne_true
    · obtain ⟨times, hshows⟩ := hgoing.close hframer.capacity_pos now
      rw [hpending, ← List.append_assoc]
      exact ⟨times, hshows⟩
  · obtain ⟨hcutter, hpending, -⟩ := receive_eq_feedAll hawaits hbytes hfits ids now
    refine ⟨hframer.capacity_pos, hlimit, fun _ => ?_, fun hover => ?_⟩
    · rw [hcutter, hpending, ← List.append_assoc]
      exact hgoing.feedAll hframer.capacity_pos now bytes
    · rw [hended, List.isEmpty_iff] at hover
      exact absurd hover hbytes

/-- What has been handed out or waits to be is a beginning of the canonical
framing of what has been received. -/
theorem showsAll_prefix (hframer : framer.Follows source capacity ids stream yielded) :
    ∃ times frames, frames <+: Frame.canonical capacity stream ∧
      Frame.ShowsAll source ids times frames (yielded ++ framer.pending) := by
  cases hended : framer.ended with
  | false =>
      obtain ⟨times, -, hshows⟩ := hframer.going hended
      exact ⟨times, _, Frame.soFar_prefix_canonical capacity stream, hshows⟩
  | true =>
      obtain ⟨times, hshows⟩ := hframer.done hended
      exact ⟨times, Frame.canonical capacity stream, List.prefix_rfl, hshows⟩

/-- While every line has few segments, no place of a run is ever too large for its
number. -/
theorem ordinal_succ_lt (hframer : framer.Follows source capacity ids stream yielded)
    (hended : framer.ended = false) (hfew : Frame.HasFewSegments capacity stream) :
    ∀ run ∈ framer.run, run.ordinal.toNat + 1 < UInt32.size := by
  obtain ⟨times, hreflects, -⟩ := hframer.going hended
  exact hreflects.ordinal_succ_lt (hfew _ (List.mem_append_right _ List.mem_cons_self))

/-- No message is larger than the buffer of the framer. -/
theorem size_le (hframer : framer.Follows source capacity ids stream yielded) :
    ∀ message ∈ yielded ++ framer.pending, message.size ≤ capacity := by
  obtain ⟨times, frames, hbeginning, hshows⟩ := hframer.showsAll_prefix
  intro message hmem
  obtain ⟨frame, hframe, hshow⟩ := hshows.exists_frame hmem
  rw [Message.size, hshow.line_eq]
  exact Frame.length_line_canonical_le hframer.capacity_pos (hbeginning.subset hframe)

/-- The framer hands out messages of its own source. -/
theorem source_eq_of_pending (hframer : framer.Follows source capacity ids stream yielded)
    {message : Message} {rest : List Message} (hpending : framer.pending = message :: rest) :
    message.source = source := by
  obtain ⟨times, frames, -, hshows⟩ := hframer.showsAll_prefix
  refine hshows.source_eq message (List.mem_append_right _ ?_)
  rw [hpending]
  exact List.mem_cons_self

end Follows

end Framer

end LogRelay
