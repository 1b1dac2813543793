import LogRelay.Message
import LogRelay.Proofs.Text.Lines
import Mathlib.Data.List.Forall2

/-!
# The canonical framing of a stream

What a stream is framed to does not depend on how it is read.  The stream is
cut at every newline and empty pieces are dropped.  An ended piece that is
shorter than the working buffer is one message; every other piece is a run of
segments of the size of the buffer, with the rest of the piece as the last.

A framing that is still going on shows the frames of the complete lines and the
full segments of the unfinished one.  A byte adds frames at the end of it and
takes none back.
-/

namespace LogRelay

/-- Where a segment stands: the number of its run in the stream, its place in
the run counted from one, and whether it ends the run. -/
structure Place where
  run : Nat
  ordinal : Nat
  last : Bool
  deriving DecidableEq, Repr

/-- A message as far as the stream determines it. -/
structure Frame where
  line : Bytes
  place : Option Place
  deriving DecidableEq, Repr

namespace Frame

/-- The segment of a piece behind that many full ones. -/
def segment (capacity run : Nat) (piece : Bytes) (before : Nat) : Frame :=
  ⟨(piece.drop (before * capacity)).take capacity, some ⟨run, before + 1, false⟩⟩

/-- As many segments of the size of the buffer as the piece has. -/
def fullSegments (capacity run : Nat) (piece : Bytes) : List Frame :=
  (List.range (piece.length / capacity)).map (segment capacity run piece)

/-- What is left of the piece behind its full segments, perhaps nothing. -/
def lastSegment (capacity run : Nat) (piece : Bytes) : Frame :=
  ⟨piece.drop (piece.length / capacity * capacity),
    some ⟨run, piece.length / capacity + 1, true⟩⟩

/-- A piece as a run of segments. -/
def split (capacity run : Nat) (piece : Bytes) : List Frame :=
  fullSegments capacity run piece ++ [lastSegment capacity run piece]

/-- A piece that a newline has ended. -/
def ofLine (capacity run : Nat) (piece : Bytes) : List Frame :=
  if piece = [] then []
  else if piece.length < capacity then [⟨piece, none⟩]
  else split capacity run piece

/-- A piece that the end of the stream has ended. -/
def ofRest (capacity run : Nat) (piece : Bytes) : List Frame :=
  if piece = [] then [] else split capacity run piece

/-- How many of the lines are split. -/
def runCount (capacity : Nat) (lines : List Bytes) : Nat :=
  lines.countP (capacity ≤ ·.length)

/-- The frames of the lines, whose runs are numbered from `run` on. -/
def ofLines (capacity : Nat) : (run : Nat) → List Bytes → List Frame
  | _, [] => []
  | run, line :: rest =>
    ofLine capacity run line ++ ofLines capacity (run + runCount capacity [line]) rest

/-- The number of the run that the unfinished line has or would have. -/
def nextRun (capacity : Nat) (stream : Bytes) : Nat :=
  runCount capacity (Lines.complete stream)

/-- The frames of a stream that may go on. -/
def soFar (capacity : Nat) (stream : Bytes) : List Frame :=
  ofLines capacity 0 (Lines.complete stream) ++
    fullSegments capacity (nextRun capacity stream) (Lines.unfinished stream)

/-- The frames of a stream that has ended. -/
def canonical (capacity : Nat) (stream : Bytes) : List Frame :=
  ofLines capacity 0 (Lines.complete stream) ++
    ofRest capacity (nextRun capacity stream) (Lines.unfinished stream)

/-- A short line, a longer one, an empty one and a rest of the size of the buffer. -/
example : canonical 4 [97, 98, 10, 99, 100, 101, 102, 103, 10, 10, 104, 105, 106, 107] =
    [⟨[97, 98], none⟩, ⟨[99, 100, 101, 102], some ⟨0, 1, false⟩⟩, ⟨[103], some ⟨0, 2, true⟩⟩,
      ⟨[104, 105, 106, 107], some ⟨1, 1, false⟩⟩, ⟨[], some ⟨1, 2, true⟩⟩] := by
  decide

/-! ## Lines one after the other -/

theorem runCount_concat (capacity : Nat) (lines : List Bytes) (line : Bytes) :
    runCount capacity (lines ++ [line]) =
      runCount capacity lines + if capacity ≤ line.length then 1 else 0 := by
  simp [runCount, List.countP_append, List.countP_cons]

theorem ofLines_append (capacity run : Nat) (left right : List Bytes) :
    ofLines capacity run (left ++ right) =
      ofLines capacity run left ++ ofLines capacity (run + runCount capacity left) right := by
  induction left generalizing run with
  | nil => simp [ofLines, runCount]
  | cons line left ih =>
      have hcount : runCount capacity [line] + runCount capacity left =
          runCount capacity (line :: left) := by
        simp only [runCount, ← List.countP_append, List.singleton_append]
      rw [List.cons_append, ofLines, ofLines, ih, List.append_assoc, Nat.add_assoc, hcount]

theorem ofLines_concat (capacity run : Nat) (lines : List Bytes) (line : Bytes) :
    ofLines capacity run (lines ++ [line]) =
      ofLines capacity run lines ++ ofLine capacity (run + runCount capacity lines) line := by
  rw [ofLines_append, ofLines, ofLines, List.append_nil]

/-! ## Segments -/

theorem fullSegments_of_short {capacity : Nat} {piece : Bytes} (run : Nat)
    (hpiece : piece.length < capacity) : fullSegments capacity run piece = [] := by
  simp [fullSegments, Nat.div_eq_of_lt hpiece]

/-- Bytes behind a full segment do not change it. -/
theorem segment_append {capacity before : Nat} {piece : Bytes} (run : Nat) (more : Bytes)
    (hbefore : before < piece.length / capacity) :
    segment capacity run (piece ++ more) before = segment capacity run piece before := by
  have hend : before * capacity + capacity ≤ piece.length := by
    calc
      before * capacity + capacity = (before + 1) * capacity := (Nat.succ_mul _ _).symm
      _ ≤ piece.length / capacity * capacity := Nat.mul_le_mul_right _ hbefore
      _ ≤ piece.length := Nat.div_mul_le_self _ _
  rw [segment, segment, List.drop_append_of_le_length (by omega),
    List.take_append_of_le_length (by rw [List.length_drop]; omega)]

/-- A byte completes a segment where the length of the piece comes to a multiple
of the size of the buffer. -/
theorem fullSegments_concat (capacity run : Nat) (piece : Bytes) (byte : UInt8) :
    fullSegments capacity run (piece ++ [byte]) =
      fullSegments capacity run piece ++
        if capacity ∣ piece.length + 1 then
          [segment capacity run (piece ++ [byte]) (piece.length / capacity)]
        else [] := by
  have hold : (List.range (piece.length / capacity)).map
      (segment capacity run (piece ++ [byte])) = fullSegments capacity run piece := by
    apply List.map_congr_left
    intro before hbefore
    exact segment_append run [byte] (List.mem_range.mp hbefore)
  rw [fullSegments, List.length_append, List.length_singleton, Nat.succ_div]
  split
  · rw [List.range_succ, List.map_append, hold, List.map_singleton]
  · rw [Nat.add_zero, hold, List.append_nil]

/-! ## One more byte -/

/-- The frames that a newline adds behind that unfinished line. -/
def atNewline (capacity run : Nat) (piece : Bytes) : List Frame :=
  if piece = [] then []
  else if piece.length < capacity then [⟨piece, none⟩]
  else [lastSegment capacity run piece]

theorem ofLine_eq_append (capacity run : Nat) (piece : Bytes) :
    ofLine capacity run piece =
      fullSegments capacity run piece ++ atNewline capacity run piece := by
  rw [ofLine, atNewline]
  split
  · next hempty => simp [hempty, fullSegments]
  · split
    · next hshort => rw [fullSegments_of_short run hshort, List.nil_append]
    · rfl

@[simp]
theorem nextRun_concat_newline (capacity : Nat) (stream : Bytes) :
    nextRun capacity (stream ++ [newline]) =
      nextRun capacity stream +
        if capacity ≤ (Lines.unfinished stream).length then 1 else 0 := by
  rw [nextRun, Lines.complete_concat_newline, runCount_concat, nextRun]

theorem nextRun_concat {byte : UInt8} (hbyte : byte ≠ newline) (capacity : Nat)
    (stream : Bytes) : nextRun capacity (stream ++ [byte]) = nextRun capacity stream := by
  rw [nextRun, Lines.complete_concat hbyte, nextRun]

theorem soFar_concat_newline (capacity : Nat) (stream : Bytes) :
    soFar capacity (stream ++ [newline]) =
      soFar capacity stream ++
        atNewline capacity (nextRun capacity stream) (Lines.unfinished stream) := by
  rw [soFar, soFar, Lines.complete_concat_newline, Lines.unfinished_concat_newline,
    ofLines_concat, ofLine_eq_append, Nat.zero_add]
  simp [fullSegments, nextRun]

theorem soFar_concat {byte : UInt8} (hbyte : byte ≠ newline) (capacity : Nat)
    (stream : Bytes) :
    soFar capacity (stream ++ [byte]) =
      soFar capacity stream ++
        if capacity ∣ (Lines.unfinished stream).length + 1 then
          [segment capacity (nextRun capacity stream) (Lines.unfinished stream ++ [byte])
            ((Lines.unfinished stream).length / capacity)]
        else [] := by
  rw [soFar, soFar, Lines.complete_concat hbyte, nextRun_concat hbyte,
    Lines.unfinished_concat hbyte, fullSegments_concat, List.append_assoc]

/-- The end of the stream adds the last segment of the unfinished line. -/
theorem canonical_eq_append (capacity : Nat) (stream : Bytes) :
    canonical capacity stream =
      soFar capacity stream ++
        if Lines.unfinished stream = [] then []
        else [lastSegment capacity (nextRun capacity stream) (Lines.unfinished stream)] := by
  rw [canonical, soFar, ofRest, List.append_assoc]
  split
  · next hempty => simp [hempty, fullSegments]
  · rfl

theorem soFar_prefix_canonical (capacity : Nat) (stream : Bytes) :
    soFar capacity stream <+: canonical capacity stream := by
  rw [canonical_eq_append]
  exact List.prefix_append _ _

/-! ## A stream that is left -/

/-- The frames so far are those of the lines that have been ended, and the full
segments of the unfinished one. -/
theorem soFar_eq_canonical_append (capacity : Nat) (stream : Bytes) :
    soFar capacity stream =
      canonical capacity (Lines.terminated stream) ++
        fullSegments capacity (nextRun capacity stream) (Lines.unfinished stream) := by
  rw [soFar, canonical, Lines.complete_terminated, Lines.unfinished_terminated, ofRest, if_pos rfl,
    List.append_nil]

/-- The full segments of a piece are its first bytes. -/
theorem flatMap_line_fullSegments (capacity run : Nat) (piece : Bytes) :
    (fullSegments capacity run piece).flatMap line =
      piece.take (piece.length / capacity * capacity) := by
  rw [fullSegments]
  generalize piece.length / capacity = count
  induction count with
  | zero => simp
  | succ count ih =>
      rw [List.range_succ, List.map_append, List.flatMap_append, ih, Nat.succ_mul, List.take_add]
      simp [segment]

/-- What is left behind the full segments is shorter than one. -/
theorem length_line_lastSegment (capacity run : Nat) (piece : Bytes) :
    (lastSegment capacity run piece).line.length = piece.length % capacity := by
  rw [lastSegment, List.length_drop, Nat.mod_eq_sub_div_mul]

theorem fullSegments_append_lastSegment (capacity run : Nat) (piece : Bytes) :
    (fullSegments capacity run piece).flatMap line ++ (lastSegment capacity run piece).line =
      piece := by
  rw [flatMap_line_fullSegments, lastSegment, List.take_append_drop]

/-! ## No frame is larger than the buffer -/

theorem length_line_split_le {capacity run : Nat} {piece : Bytes} {frame : Frame}
    (hcapacity : 0 < capacity) (hmem : frame ∈ split capacity run piece) :
    frame.line.length ≤ capacity := by
  rcases List.mem_append.mp hmem with hfull | hlast
  · obtain ⟨before, -, rfl⟩ := List.mem_map.mp hfull
    exact List.length_take_le _ _
  · rw [List.mem_singleton.mp hlast, length_line_lastSegment]
    exact Nat.le_of_lt (Nat.mod_lt _ hcapacity)

theorem length_line_ofLine_le {capacity run : Nat} {piece : Bytes} {frame : Frame}
    (hcapacity : 0 < capacity) (hmem : frame ∈ ofLine capacity run piece) :
    frame.line.length ≤ capacity := by
  rw [ofLine] at hmem
  split at hmem
  · exact absurd hmem List.not_mem_nil
  · split at hmem
    · next hshort =>
        rw [List.mem_singleton.mp hmem]
        exact Nat.le_of_lt hshort
    · exact length_line_split_le hcapacity hmem

theorem length_line_ofLines_le {capacity run : Nat} {lines : List Bytes} {frame : Frame}
    (hcapacity : 0 < capacity) (hmem : frame ∈ ofLines capacity run lines) :
    frame.line.length ≤ capacity := by
  induction lines generalizing run with
  | nil => exact absurd hmem List.not_mem_nil
  | cons first rest ih =>
      rcases List.mem_append.mp hmem with hfirst | hrest
      · exact length_line_ofLine_le hcapacity hfirst
      · exact ih hrest

theorem length_line_canonical_le {capacity : Nat} {stream : Bytes} {frame : Frame}
    (hcapacity : 0 < capacity) (hmem : frame ∈ canonical capacity stream) :
    frame.line.length ≤ capacity := by
  rcases List.mem_append.mp hmem with hlines | hrest
  · exact length_line_ofLines_le hcapacity hlines
  · rw [ofRest] at hrest
    split at hrest
    · exact absurd hrest List.not_mem_nil
    · exact length_line_split_le hcapacity hrest

/-! ## How many segments a piece has -/

/-- Every piece of the stream has fewer than 2^32 segments, so that the place of each is
a 32-bit number. -/
def HasFewSegments (capacity : Nat) (stream : Bytes) : Prop :=
  ∀ piece ∈ Lines.complete stream ++ [Lines.unfinished stream],
    piece.length / capacity + 1 < UInt32.size

instance (capacity : Nat) (stream : Bytes) : Decidable (HasFewSegments capacity stream) :=
  inferInstanceAs (Decidable (∀ piece ∈ _, _))

theorem ordinal_split_le {capacity run : Nat} {piece : Bytes} {frame : Frame} {place : Place}
    (hmem : frame ∈ split capacity run piece) (hplace : place ∈ frame.place) :
    place.ordinal ≤ piece.length / capacity + 1 := by
  rcases List.mem_append.mp hmem with hfull | hlast
  · obtain ⟨before, hbefore, rfl⟩ := List.mem_map.mp hfull
    obtain rfl := Option.mem_some_iff.mp hplace
    exact Nat.le_succ_of_le (List.mem_range.mp hbefore)
  · rw [List.mem_singleton.mp hlast] at hplace
    obtain rfl := Option.mem_some_iff.mp hplace
    exact Nat.le_refl _

theorem ordinal_ofLines_le {capacity run : Nat} {lines : List Bytes} {frame : Frame}
    {place : Place} (hmem : frame ∈ ofLines capacity run lines) (hplace : place ∈ frame.place) :
    ∃ line ∈ lines, place.ordinal ≤ line.length / capacity + 1 := by
  induction lines generalizing run with
  | nil => exact absurd hmem List.not_mem_nil
  | cons first rest ih =>
      rcases List.mem_append.mp hmem with hfirst | hrest
      · refine ⟨first, List.mem_cons_self, ?_⟩
        rw [ofLine] at hfirst
        split at hfirst
        · exact absurd hfirst List.not_mem_nil
        · split at hfirst
          · rw [List.mem_singleton.mp hfirst] at hplace
            exact absurd hplace (Option.not_mem_none _)
          · exact ordinal_split_le hfirst hplace
      · obtain ⟨line, hline, hle⟩ := ih hrest
        exact ⟨line, List.mem_cons_of_mem _ hline, hle⟩

/-- Where every piece has few segments, every place is a 32-bit number. -/
theorem HasFewSegments.ordinal_lt {capacity : Nat} {stream : Bytes} {frame : Frame}
    {place : Place} (hfew : HasFewSegments capacity stream)
    (hmem : frame ∈ canonical capacity stream) (hplace : place ∈ frame.place) :
    place.ordinal < UInt32.size := by
  rcases List.mem_append.mp hmem with hlines | hrest
  · obtain ⟨line, hline, hle⟩ := ordinal_ofLines_le hlines hplace
    exact Nat.lt_of_le_of_lt hle (hfew line (List.mem_append_left _ hline))
  · rw [ofRest] at hrest
    split at hrest
    · exact absurd hrest List.not_mem_nil
    · exact Nat.lt_of_le_of_lt (ordinal_split_le hrest hplace)
        (hfew _ (List.mem_append_right _ List.mem_cons_self))

/-- A stream that goes on only gets more segments. -/
theorem HasFewSegments.of_append {capacity : Nat} {stream more : Bytes}
    (hfew : HasFewSegments capacity (stream ++ more)) : HasFewSegments capacity stream := by
  induction more using List.reverseRecOn with
  | nil => rwa [List.append_nil] at hfew
  | append_singleton more byte ih =>
      refine ih fun piece hpiece => ?_
      rw [← List.append_assoc] at hfew
      by_cases hbyte : byte = newline
      · subst hbyte
        refine hfew piece (List.mem_append_left _ ?_)
        rwa [Lines.complete_concat_newline]
      · rcases List.mem_append.mp hpiece with hline | hrest
        · refine hfew piece (List.mem_append_left _ ?_)
          rwa [Lines.complete_concat hbyte]
        · rw [List.mem_singleton.mp hrest]
          have hlonger := hfew _ (List.mem_append_right _ List.mem_cons_self)
          rw [Lines.unfinished_concat hbyte, List.length_append] at hlonger
          have hle := Nat.div_le_div_right (c := capacity)
            (Nat.le_add_right (Lines.unfinished (stream ++ more)).length [byte].length)
          omega

end Frame

end LogRelay
