import LogRelay.Proofs.Framing.Framer

/-!
# Framing loses no byte

The lines of the canonical framing are the bytes of the stream without its
newlines, in order.  So the messages that a framer has made, with the bytes that it
holds, account for every byte that it has received, and when it has seen the end of
the stream it holds none.
-/

namespace LogRelay

/-- The bytes of a stream that belong to lines. -/
def withoutNewlines (bytes : Bytes) : Bytes :=
  bytes.filter (· ≠ newline)

theorem length_withoutNewlines (bytes : Bytes) :
    (withoutNewlines bytes).length + bytes.count newline = bytes.length := by
  rw [withoutNewlines, ← List.countP_eq_length_filter, List.count_eq_countP, Nat.add_comm,
    List.length_eq_countP_add_countP (· == newline)]
  congr 1
  apply List.countP_congr
  simp

/-- The bytes of the lines of the messages, one after the other. -/
def lineBytes (messages : List Message) : Bytes :=
  messages.flatMap (·.line)

/-- How many bytes count for the messages together. -/
def totalSize (messages : List Message) : Nat :=
  (lineBytes messages).length

@[simp]
theorem totalSize_nil : totalSize [] = 0 := rfl

@[simp]
theorem totalSize_append (left right : List Message) :
    totalSize (left ++ right) = totalSize left + totalSize right := by
  rw [totalSize, lineBytes, List.flatMap_append, List.length_append]
  rfl

@[simp]
theorem totalSize_cons (message : Message) (rest : List Message) :
    totalSize (message :: rest) = message.size + totalSize rest := by
  rw [totalSize, lineBytes, List.flatMap_cons, List.length_append]
  rfl

theorem totalSize_perm {left right : List Message} (hperm : left.Perm right) :
    totalSize left = totalSize right :=
  (hperm.flatMap_right _).length_eq

theorem totalSize_sublist {left right : List Message} (hsublist : left.Sublist right) :
    totalSize left ≤ totalSize right := by
  induction hsublist with
  | slnil => exact Nat.le_refl _
  | cons message hrest ih =>
      rw [totalSize_cons]
      exact Nat.le_trans ih (Nat.le_add_left _ _)
  | cons_cons message hrest ih =>
      rw [totalSize_cons, totalSize_cons]
      exact Nat.add_le_add_left ih _

/-! ## The lines of a framing -/

theorem Lines.flatten_complete_append_unfinished (bytes : Bytes) :
    (complete bytes).flatten ++ unfinished bytes = withoutNewlines bytes := by
  have hline : ∀ {line : Bytes}, newline ∉ line → withoutNewlines line = line := by
    intro line hnone
    rw [withoutNewlines, List.filter_eq_self]
    intro byte hmem
    exact decide_eq_true fun heq => hnone (heq ▸ hmem)
  induction bytes using lineInduction with
  | rest bytes hbytes =>
      rw [complete_eq_nil hbytes, unfinished_eq_self hbytes, hline hbytes]
      rfl
  | line line bytes hnone ih =>
      have hfirst := hline hnone
      rw [withoutNewlines] at hfirst ih
      rw [complete_append_newline hnone, unfinished_append_newline, List.flatten_cons,
        List.append_assoc, ih, withoutNewlines, List.filter_append, hfirst]
      simp

namespace Frame

variable {source : Source} {ids : Nat → String} {times : List Timestamp}

theorem flatMap_line_ofLine (capacity run : Nat) (piece : Bytes) :
    (ofLine capacity run piece).flatMap line = piece := by
  rw [ofLine]
  split
  · next hempty => exact hempty.symm
  · split
    · simp
    · rw [split, List.flatMap_append, List.flatMap_singleton, fullSegments_append_lastSegment]

theorem flatMap_line_ofLines (capacity run : Nat) (lines : List Bytes) :
    (ofLines capacity run lines).flatMap line = lines.flatten := by
  induction lines generalizing run with
  | nil => rfl
  | cons first rest ih =>
      rw [ofLines, List.flatMap_append, flatMap_line_ofLine, ih, List.flatten_cons]

/-- What the frames so far leave of the stream is the rest of the unfinished line
behind its full segments. -/
theorem flatMap_line_soFar (capacity : Nat) (stream : Bytes) :
    (soFar capacity stream).flatMap line ++
        (lastSegment capacity (nextRun capacity stream) (Lines.unfinished stream)).line =
      withoutNewlines stream := by
  rw [soFar, List.flatMap_append, flatMap_line_ofLines, List.append_assoc,
    fullSegments_append_lastSegment, Lines.flatten_complete_append_unfinished]

theorem flatMap_line_canonical (capacity : Nat) (stream : Bytes) :
    (canonical capacity stream).flatMap line = withoutNewlines stream := by
  rw [canonical_eq_append, List.flatMap_append, ← flatMap_line_soFar capacity stream]
  split
  · next hempty => simp [hempty, lastSegment]
  · rw [List.flatMap_singleton]

theorem ShowsAll.lineBytes_eq {frames : List Frame} {messages : List Message}
    (hshows : ShowsAll source ids times frames messages) :
    lineBytes messages = frames.flatMap line := by
  induction hshows with
  | nil => rfl
  | cons hfirst hrest ih =>
      rw [lineBytes, List.flatMap_cons, hfirst.line_eq, List.flatMap_cons, ← ih]
      rfl

end Frame

/-! ## Framers -/

namespace Framer

variable {source : Source} {capacity : Nat} {ids : Nat → String}
variable {stream : Bytes} {yielded : List Message} {framer : Framer}

/-- The messages that the framer has made and the bytes that it holds are the bytes that
it has received, without the newlines. -/
theorem Follows.lineBytes_eq (hframer : framer.Follows source capacity ids stream yielded)
    (hheld : framer.ended = true → framer.buffer = []) :
    lineBytes (yielded ++ framer.pending) ++ framer.buffer = withoutNewlines stream := by
  cases hended : framer.ended with
  | false =>
      obtain ⟨times, hreflects, hshows⟩ := hframer.going hended
      have hheldLine : framer.buffer = _ :=
        (List.reverse_reverse framer.buffer).symm.trans hreflects.heldLine_eq
      rw [hshows.lineBytes_eq, hheldLine]
      exact Frame.flatMap_line_soFar capacity stream
  | true =>
      obtain ⟨times, hshows⟩ := hframer.done hended
      rw [hshows.lineBytes_eq, Frame.flatMap_line_canonical, hheld hended]
      exact List.append_nil _

/-- No more has been made of the bytes that the framer has received than their lines. -/
theorem Follows.totalSize_le (hframer : framer.Follows source capacity ids stream yielded) :
    totalSize yielded ≤ (withoutNewlines stream).length := by
  obtain ⟨times, frames, ⟨later, hframes⟩, hshows⟩ := hframer.showsAll_prefix
  have htotal : totalSize (yielded ++ framer.pending) ≤ (withoutNewlines stream).length := by
    rw [totalSize, hshows.lineBytes_eq, ← Frame.flatMap_line_canonical capacity stream, ← hframes,
      List.flatMap_append, List.length_append]
    exact Nat.le_add_right _ _
  rw [totalSize_append] at htotal
  exact Nat.le_trans (Nat.le_add_right _ _) htotal

theorem Follows.length_eq (hframer : framer.Follows source capacity ids stream yielded)
    (hheld : framer.ended = true → framer.buffer = []) :
    stream.length = totalSize yielded + totalSize framer.pending + framer.buffer.length +
      stream.count newline := by
  have hlength := congrArg List.length (hframer.lineBytes_eq hheld)
  rw [List.length_append] at hlength
  rw [← length_withoutNewlines stream, ← hlength, ← totalSize_append]
  rfl

end Framer

end LogRelay
