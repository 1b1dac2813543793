import LogRelay.Framing.Framer
import LogRelay.Proofs.Framing.Canonical

/-!
# The cutter follows the canonical framing

A cutter takes one byte at a time: a newline ends the line in hand, any other byte is
held, and as many bytes as the working buffer has become a segment.  So its messages
cannot depend on how the bytes arrive, and a pass of a framer over its buffer comes to
the same messages.

The state of a cutter is determined by the stream that it has been fed: it
holds the rest of the unfinished line behind its full segments, and it has a
run in progress exactly if there are such segments.  Every byte keeps this and
gives the message of the frame that the byte adds.
-/

namespace LogRelay

structure Cutter where
  source : Source
  /-- The size of a segment. -/
  capacity : Nat
  /-- The bytes of the unfinished line, the newest first. -/
  held : Bytes
  /-- How many bytes are held. -/
  count : Nat
  run : Option OpenRun
  runsBegun : Nat

namespace Cutter

def create (source : Source) (capacity : Nat) : Cutter where
  source := source
  capacity := capacity
  held := []
  count := 0
  run := none
  runsBegun := 0

def heldLine (cutter : Cutter) : Bytes :=
  cutter.held.reverse

/-- One more byte is held. -/
def hold (cutter : Cutter) (byte : UInt8) : Cutter :=
  { cutter with held := byte :: cutter.held, count := cutter.count + 1 }

/-- The line in hand has ended: a whole line, or the last segment of the run.
An empty line is dropped. -/
def endLine (cutter : Cutter) (now : Timestamp) : Cutter × Option Message :=
  let fresh := { cutter with held := [], count := 0, run := none }
  match cutter.run with
  | none =>
    if cutter.held.isEmpty then (fresh, none)
    else (fresh, some (Message.complete cutter.heldLine cutter.source now))
  | some run =>
    (fresh,
      some ⟨cutter.heldLine, cutter.source, run.time, some ⟨run.id, run.ordinal + 1, true⟩⟩)

/-- The run that the next segment belongs to, with the place of that segment. -/
def nextRun (cutter : Cutter) (ids : Nat → String) (now : Timestamp) : OpenRun :=
  OpenRun.next cutter.run (ids cutter.runsBegun) now

/-- The bytes in hand become a segment. -/
def cutSegment (cutter : Cutter) (ids : Nat → String) (now : Timestamp) (last : Bool) :
    Cutter × Message :=
  let run := cutter.nextRun ids now
  ({ cutter with
      held := []
      count := 0
      run := if last then none else some run
      runsBegun := cutter.runsBegun + if cutter.run.isNone then 1 else 0 },
    ⟨cutter.heldLine, cutter.source, run.time, some ⟨run.id, run.ordinal, last⟩⟩)

/-- One byte: it ends the line, or it is held; as many bytes as there is room for
become a segment. -/
def feed (cutter : Cutter) (ids : Nat → String) (now : Timestamp) (byte : UInt8) :
    Cutter × Option Message :=
  if byte = newline then cutter.endLine now
  else if cutter.capacity ≤ cutter.count + 1 then
    let (cutter, segment) := (cutter.hold byte).cutSegment ids now false
    (cutter, some segment)
  else (cutter.hold byte, none)

/-- The messages of all bytes, in reverse on top of those already `cut`. -/
def feedOnto (ids : Nat → String) (now : Timestamp) (cutter : Cutter) (cut : List Message) :
    Bytes → Cutter × List Message
  | [] => (cutter, cut)
  | byte :: rest =>
    match cutter.feed ids now byte with
    | (cutter, some message) => feedOnto ids now cutter (message :: cut) rest
    | (cutter, none) => feedOnto ids now cutter cut rest

def feedAll (cutter : Cutter) (ids : Nat → String) (now : Timestamp) (bytes : Bytes) :
    Cutter × List Message :=
  let (cutter, cut) := feedOnto ids now cutter [] bytes
  (cutter, cut.reverse)

/-- The stream has ended: what is left of a line is the last segment of its run.
A run whose bytes are all out is closed by an empty segment. -/
def close (cutter : Cutter) (ids : Nat → String) (now : Timestamp) : Cutter × Option Message :=
  if cutter.held.isEmpty && cutter.run.isNone then (cutter, none)
  else
    let (cutter, segment) := cutter.cutSegment ids now true
    (cutter, some segment)

end Cutter

/-- The place behind that one, as a 32-bit number. -/
theorem OpenRun.ofNat_succ (ordinal : Nat) :
    UInt32.ofNat ordinal + 1 = UInt32.ofNat (ordinal + 1) :=
  (UInt32.ofNat_add ordinal 1).symm

variable {source : Source} {capacity : Nat} {ids : Nat → String}
variable {times moreTimes : List Timestamp} {run : Nat} {piece : Bytes}

/-- The message is what the frame says.  All segments of a run carry the
identifier that has been drawn for it and the time at which it began, which is
listed in `times`.  The place of a segment is written as a 32-bit number. -/
structure Frame.Shows (source : Source) (ids : Nat → String) (times : List Timestamp)
    (frame : Frame) (message : Message) : Prop where
  line_eq : message.line = frame.line
  source_eq : message.source = source
  tag_eq : message.partialTag =
    frame.place.map fun place => ⟨ids place.run, UInt32.ofNat place.ordinal, place.last⟩
  time_eq : ∀ place ∈ frame.place, times[place.run]? = some message.time

/-- The messages are what the frames say, in order. -/
abbrev Frame.ShowsAll (source : Source) (ids : Nat → String) (times : List Timestamp) :
    List Frame → List Message → Prop :=
  List.Forall₂ (Frame.Shows source ids times)

/-- The message is what the frame says, and the place of a segment is the very number
that is written in it. -/
structure Frame.ShowsExactly (source : Source) (ids : Nat → String) (times : List Timestamp)
    (frame : Frame) (message : Message) : Prop extends
    Frame.Shows source ids times frame message where
  ordinal_eq : ∀ place ∈ frame.place, ∀ tag ∈ message.partialTag,
    tag.ordinal.toNat = place.ordinal

abbrev Frame.ShowsAllExactly (source : Source) (ids : Nat → String) (times : List Timestamp) :
    List Frame → List Message → Prop :=
  List.Forall₂ (Frame.ShowsExactly source ids times)

/-- A place that is a 32-bit number is written as it is. -/
theorem Frame.Shows.exactly {frame : Frame} {message : Message}
    (hshows : Frame.Shows source ids times frame message)
    (hplaces : ∀ place ∈ frame.place, place.ordinal < UInt32.size) :
    Frame.ShowsExactly source ids times frame message where
  toShows := hshows
  ordinal_eq place hplace tag htag := by
    rw [hshows.tag_eq, Option.mem_def.mp hplace] at htag
    obtain rfl := Option.mem_some_iff.mp htag
    exact UInt32.toNat_ofNat_of_lt' (hplaces place hplace)

theorem Frame.ShowsAll.exactly {frames : List Frame} {messages : List Message}
    (hshows : Frame.ShowsAll source ids times frames messages)
    (hplaces : ∀ frame ∈ frames, ∀ place ∈ frame.place, place.ordinal < UInt32.size) :
    Frame.ShowsAllExactly source ids times frames messages := by
  induction hshows with
  | nil => exact .nil
  | cons hfirst hrest ih =>
      obtain ⟨hplace, hlater⟩ := List.forall_mem_cons.mp hplaces
      exact .cons (hfirst.exactly hplace) (ih hlater)

/-- Frames of a stream whose pieces have few segments are shown exactly. -/
theorem Frame.ShowsAll.exactly_of_few {stream : Bytes} {frames : List Frame}
    {messages : List Message} (hshows : Frame.ShowsAll source ids times frames messages)
    (hfew : Frame.HasFewSegments capacity stream)
    (hframes : frames ⊆ Frame.canonical capacity stream) :
    Frame.ShowsAllExactly source ids times frames messages :=
  hshows.exactly fun _ hframe _ hplace => hfew.ordinal_lt (hframes hframe) hplace

theorem Frame.Shows.append_times {frame : Frame} {message : Message}
    (hshows : Frame.Shows source ids times frame message) :
    Frame.Shows source ids (times ++ moreTimes) frame message where
  line_eq := hshows.line_eq
  source_eq := hshows.source_eq
  tag_eq := hshows.tag_eq
  time_eq place hplace := by
    have htime := hshows.time_eq place hplace
    rw [List.getElem?_append_left (List.getElem?_eq_some_iff.mp htime).1]
    exact htime

/-- All messages are of the one source. -/
theorem Frame.ShowsAll.source_eq {frames : List Frame} {messages : List Message}
    (hshows : Frame.ShowsAll source ids times frames messages) :
    ∀ message ∈ messages, message.source = source := by
  induction hshows with
  | nil => simp
  | cons hfirst _ ih => exact List.forall_mem_cons.mpr ⟨hfirst.source_eq, ih⟩

theorem Frame.ShowsAll.exists_frame {frames : List Frame} {messages : List Message}
    (hshows : Frame.ShowsAll source ids times frames messages) {message : Message}
    (hmem : message ∈ messages) : ∃ frame ∈ frames, Frame.Shows source ids times frame message := by
  induction hshows with
  | nil => exact absurd hmem List.not_mem_nil
  | cons hfirst hrest ih =>
      rcases List.mem_cons.mp hmem with rfl | hlater
      · exact ⟨_, List.mem_cons_self, hfirst⟩
      · obtain ⟨frame, hframe, hshow⟩ := ih hlater
        exact ⟨frame, List.mem_cons_of_mem _ hframe, hshow⟩

namespace Cutter

/-- The state of a cutter while the piece is the unfinished line.  `run` is the
number of the run that the piece has or would have. -/
structure Reflects (source : Source) (capacity : Nat) (ids : Nat → String)
    (times : List Timestamp) (run : Nat) (piece : Bytes) (cutter : Cutter) : Prop where
  source_eq : cutter.source = source
  capacity_eq : cutter.capacity = capacity
  heldLine_eq : cutter.heldLine = piece.drop (piece.length / capacity * capacity)
  count_eq : cutter.count = piece.length % capacity
  /-- A run is in progress if the piece has a full segment. -/
  run_eq : cutter.run =
    if piece.length < capacity then none
    else times[run]?.map fun time => ⟨ids run, UInt32.ofNat (piece.length / capacity), time⟩
  runsBegun_eq : cutter.runsBegun = times.length
  length_times : times.length = run + if piece.length < capacity then 0 else 1

theorem reflects_create (source : Source) (ids : Nat → String) (hcapacity : 0 < capacity) :
    (create source capacity).Reflects source capacity ids [] 0 [] where
  source_eq := rfl
  capacity_eq := rfl
  heldLine_eq := by simp [create, heldLine]
  count_eq := by simp [create]
  run_eq := by simp [create, hcapacity]
  runsBegun_eq := rfl
  length_times := by simp [hcapacity]

namespace Reflects

variable {cutter : Cutter}

/-- There is always room for a byte. -/
theorem count_lt (hcutter : cutter.Reflects source capacity ids times run piece)
    (hcapacity : 0 < capacity) : cutter.count < cutter.capacity := by
  rw [hcutter.count_eq, hcutter.capacity_eq]
  exact Nat.mod_lt _ hcapacity

theorem length_held (hcutter : cutter.Reflects source capacity ids times run piece) :
    cutter.held.length = cutter.count := by
  have hline := congrArg List.length hcutter.heldLine_eq
  rw [heldLine, List.length_reverse, List.length_drop] at hline
  rw [hline, hcutter.count_eq, Nat.mod_eq_sub_div_mul]

/-- What is held belongs to a line that has not ended. -/
theorem newline_notMem_held {stream : Bytes} (hcutter :
    cutter.Reflects source capacity ids times run (Lines.unfinished stream)) :
    newline ∉ cutter.held := by
  rw [← List.mem_reverse]
  have hline := hcutter.heldLine_eq
  rw [heldLine] at hline
  rw [hline]
  exact fun hmem => Lines.newline_notMem_unfinished stream (List.mem_of_mem_drop hmem)

theorem held_eq_nil_iff (hcutter : cutter.Reflects source capacity ids times run piece) :
    cutter.held = [] ↔ piece.length % capacity = 0 := by
  rw [← hcutter.count_eq, ← hcutter.length_held, List.length_eq_zero_iff]

theorem held_eq_nil_iff_of_short (hcutter : cutter.Reflects source capacity ids times run piece)
    (hshort : piece.length < capacity) : cutter.held = [] ↔ piece = [] := by
  rw [hcutter.held_eq_nil_iff, Nat.mod_eq_of_lt hshort, List.length_eq_zero_iff]

theorem heldLine_of_short (hcutter : cutter.Reflects source capacity ids times run piece)
    (hshort : piece.length < capacity) : cutter.heldLine = piece := by
  rw [hcutter.heldLine_eq, Nat.div_eq_of_lt hshort, Nat.zero_mul, List.drop_zero]

/-- The place of the latest segment, and the one behind it, are 32-bit numbers as long as
the line has few segments. -/
theorem ordinal_succ_lt (hcutter : cutter.Reflects source capacity ids times run piece)
    (hfew : piece.length / capacity + 1 < UInt32.size) :
    ∀ run ∈ cutter.run, run.ordinal.toNat + 1 < UInt32.size := by
  intro found hrun
  rw [hcutter.run_eq] at hrun
  split at hrun
  · exact absurd hrun (Option.not_mem_none _)
  · obtain ⟨time, -, rfl⟩ := Option.map_eq_some_iff.mp hrun
    rw [UInt32.toNat_ofNat_of_lt' (Nat.lt_of_succ_lt hfew)]
    exact hfew

theorem run_of_short (hcutter : cutter.Reflects source capacity ids times run piece)
    (hshort : piece.length < capacity) : cutter.run = none := by
  rw [hcutter.run_eq, if_pos hshort]

/-- The run in progress is the last one that began. -/
theorem run_of_long (hcutter : cutter.Reflects source capacity ids times run piece)
    (hlong : ¬ piece.length < capacity) :
    ∃ time, times[run]? = some time ∧
      cutter.run = some ⟨ids run, UInt32.ofNat (piece.length / capacity), time⟩ := by
  have hlength := hcutter.length_times
  rw [if_neg hlong] at hlength
  have hbound : run < times.length := by omega
  refine ⟨times[run], List.getElem?_eq_getElem hbound, ?_⟩
  rw [hcutter.run_eq, if_neg hlong, List.getElem?_eq_getElem hbound, Option.map_some]

/-! ## A newline -/

theorem endLine (hcutter : cutter.Reflects source capacity ids times run piece)
    (hcapacity : 0 < capacity) (now : Timestamp) :
    (cutter.endLine now).1.Reflects source capacity ids times
      (run + if capacity ≤ piece.length then 1 else 0) [] := by
  have hfresh : (cutter.endLine now).1 = { cutter with held := [], count := 0, run := none } := by
    rw [Cutter.endLine]
    cases cutter.run with
    | some run => rfl
    | none => by_cases hheld : cutter.held.isEmpty <;> simp [hheld]
  rw [hfresh]
  constructor
  · exact hcutter.source_eq
  · exact hcutter.capacity_eq
  · simp [heldLine]
  · simp
  · simp [hcapacity]
  · exact hcutter.runsBegun_eq
  · rw [hcutter.length_times]
    by_cases hshort : piece.length < capacity
    · simp [hshort, hcapacity, Nat.not_le_of_lt hshort]
    · simp [hshort, hcapacity, Nat.le_of_not_lt hshort]

theorem showsAll_endLine (hcutter : cutter.Reflects source capacity ids times run piece)
    (hcapacity : 0 < capacity) (now : Timestamp) :
    Frame.ShowsAll source ids times (Frame.atNewline capacity run piece)
      (cutter.endLine now).2.toList := by
  unfold Cutter.endLine Frame.atNewline
  by_cases hshort : piece.length < capacity
  · rw [hcutter.run_of_short hshort]
    by_cases hempty : piece = []
    · simp [hempty, (hcutter.held_eq_nil_iff_of_short hshort).mpr hempty]
    · have hheld : cutter.held.isEmpty = false := by
        simpa using fun h => hempty ((hcutter.held_eq_nil_iff_of_short hshort).mp h)
      simp only [hempty, hshort, hheld, if_true, if_false, Bool.false_eq_true, Option.toList_some]
      refine List.Forall₂.cons ⟨hcutter.heldLine_of_short hshort, hcutter.source_eq, rfl, ?_⟩
        List.Forall₂.nil
      simp
  · obtain ⟨time, htime, hrun⟩ := hcutter.run_of_long hshort
    have hempty : piece ≠ [] := by
      intro hnil
      simp [hnil, hcapacity] at hshort
    simp only [hempty, hshort, hrun, if_false, Option.toList_some]
    have hlast := OpenRun.ofNat_succ (piece.length / capacity)
    refine List.Forall₂.cons ⟨hcutter.heldLine_eq, hcutter.source_eq, ?_, ?_⟩ List.Forall₂.nil
    · rw [hlast]
      rfl
    · simpa [Frame.lastSegment] using htime

/-! ## Other bytes -/

/-- A byte fills the buffer exactly if it completes a segment. -/
theorem capacity_le_count_succ_iff
    (hcutter : cutter.Reflects source capacity ids times run piece) (hcapacity : 0 < capacity) :
    cutter.capacity ≤ cutter.count + 1 ↔ capacity ∣ piece.length + 1 := by
  have hdivision := Nat.div_add_mod piece.length capacity
  have hmod := Nat.mod_lt piece.length hcapacity
  have hdvd : capacity ∣ piece.length + 1 ↔ capacity ∣ piece.length % capacity + 1 := by
    conv_lhs => rw [← hdivision, Nat.add_assoc]
    exact Nat.dvd_add_right (Nat.dvd_mul_right _ _)
  rw [hcutter.capacity_eq, hcutter.count_eq, hdvd]
  constructor
  · intro hfull
    exact ⟨1, by omega⟩
  · exact Nat.le_of_dvd (Nat.succ_pos _)

/-- The bytes in hand with one more are what stands behind the full segments. -/
theorem reverse_held_cons (hcutter : cutter.Reflects source capacity ids times run piece)
    (byte : UInt8) :
    (byte :: cutter.held).reverse =
      (piece ++ [byte]).drop (piece.length / capacity * capacity) := by
  rw [List.reverse_cons, List.drop_append_of_le_length (Nat.div_mul_le_self _ _),
    ← hcutter.heldLine_eq]
  rfl

/-- A byte that completes no segment is held. -/
theorem hold (hcutter : cutter.Reflects source capacity ids times run piece) (byte : UInt8)
    (hroom : ¬ capacity ∣ piece.length + 1) :
    (cutter.hold byte).Reflects source capacity ids times run (piece ++ [byte]) := by
  have hlength : (piece ++ [byte]).length = piece.length + 1 := List.length_append
  have hdiv : (piece.length + 1) / capacity = piece.length / capacity := by
    rw [Nat.succ_div, if_neg hroom, Nat.add_zero]
  have hshort : piece.length + 1 < capacity ↔ piece.length < capacity := by
    refine ⟨by omega, fun hlt => ?_⟩
    have hne : piece.length + 1 ≠ capacity := fun heq => hroom ⟨1, by omega⟩
    omega
  constructor
  · exact hcutter.source_eq
  · exact hcutter.capacity_eq
  · rw [hlength, hdiv]
    exact hcutter.reverse_held_cons byte
  · have hdivision := Nat.div_add_mod piece.length capacity
    have hdivision' := Nat.div_add_mod (piece.length + 1) capacity
    rw [hdiv] at hdivision'
    have hcount : (cutter.hold byte).count = piece.length % capacity + 1 :=
      congrArg (· + 1) hcutter.count_eq
    rw [hlength, hcount]
    omega
  · rw [hlength, hdiv]
    simp only [hshort]
    exact hcutter.run_eq
  · exact hcutter.runsBegun_eq
  · rw [hlength, hcutter.length_times]
    simp only [hshort]

/-- The next segment belongs to the run in progress, or to a new one that has the
next identifier and begins now. -/
theorem nextRun_eq (hcutter : cutter.Reflects source capacity ids times run piece)
    (now : Timestamp) :
    ∃ time, cutter.nextRun ids now = ⟨ids run, UInt32.ofNat (piece.length / capacity + 1), time⟩ ∧
      (times ++ if cutter.run.isNone then [now] else [])[run]? = some time := by
  have hlength := hcutter.length_times
  by_cases hshort : piece.length < capacity
  · rw [if_pos hshort, Nat.add_zero] at hlength
    refine ⟨now, ?_, ?_⟩
    · rw [Cutter.nextRun, hcutter.run_of_short hshort, hcutter.runsBegun_eq, hlength,
        Nat.div_eq_of_lt hshort]
      rfl
    · simp [hcutter.run_of_short hshort, ← hlength]
  · obtain ⟨time, htime, hrun⟩ := hcutter.run_of_long hshort
    refine ⟨time, ?_, ?_⟩
    · rw [Cutter.nextRun, hrun, ← OpenRun.ofNat_succ]
      rfl
    · simpa [hrun] using htime

theorem length_times_append (hcutter : cutter.Reflects source capacity ids times run piece)
    (now : Timestamp) :
    (times ++ if cutter.run.isNone then [now] else []).length = run + 1 := by
  have hlength := hcutter.length_times
  by_cases hshort : piece.length < capacity
  · rw [if_pos hshort] at hlength
    simp [hcutter.run_of_short hshort, hlength]
  · obtain ⟨time, -, hrun⟩ := hcutter.run_of_long hshort
    rw [if_neg hshort] at hlength
    simp [hrun, hlength]

/-- A byte that completes a segment. -/
theorem cut (hcutter : cutter.Reflects source capacity ids times run piece)
    (now : Timestamp) (byte : UInt8) (hfull : capacity ∣ piece.length + 1) :
    Reflects source capacity ids (times ++ if cutter.run.isNone then [now] else []) run
      (piece ++ [byte])
      ((cutter.hold byte).cutSegment ids now false).1 := by
  have hlength : (piece ++ [byte]).length = piece.length + 1 := List.length_append
  have hlong : ¬ piece.length + 1 < capacity :=
    Nat.not_lt_of_le (Nat.le_of_dvd (Nat.succ_pos _) hfull)
  obtain ⟨time, hnext, htime⟩ := hcutter.nextRun_eq now
  constructor
  · exact hcutter.source_eq
  · exact hcutter.capacity_eq
  · rw [hlength, Nat.div_mul_cancel hfull, ← hlength, List.drop_length]
    rfl
  · rw [hlength]
    exact (Nat.mod_eq_zero_of_dvd hfull).symm
  · rw [hlength, if_neg hlong, htime, Nat.succ_div, if_pos hfull, Option.map_some, ← hnext]
    rfl
  · change cutter.runsBegun + (if cutter.run.isNone then 1 else 0) = _
    rw [hcutter.runsBegun_eq, List.length_append]
    split <;> rfl
  · rw [hcutter.length_times_append, hlength, if_neg hlong]

/-- What is cut off next shows the next segment of the run. -/
theorem shows_next (hcutter : cutter.Reflects source capacity ids times run piece)
    (now : Timestamp) (line : Bytes) (last : Bool) :
    Frame.Shows source ids (times ++ if cutter.run.isNone then [now] else [])
      ⟨line, some ⟨run, piece.length / capacity + 1, last⟩⟩
      ⟨line, cutter.source, (cutter.nextRun ids now).time,
        some ⟨(cutter.nextRun ids now).id, (cutter.nextRun ids now).ordinal, last⟩⟩ := by
  obtain ⟨time, hnext, htime⟩ := hcutter.nextRun_eq now
  rw [hnext]
  refine ⟨rfl, hcutter.source_eq, rfl, fun place hplace => ?_⟩
  obtain rfl := Option.mem_some_iff.mp hplace
  exact htime

theorem shows_cut (hcutter : cutter.Reflects source capacity ids times run piece)
    (now : Timestamp) (byte : UInt8) (hfull : capacity ∣ piece.length + 1) :
    Frame.Shows source ids (times ++ if cutter.run.isNone then [now] else [])
      (Frame.segment capacity run (piece ++ [byte]) (piece.length / capacity))
      ((cutter.hold byte).cutSegment ids now false).2 := by
  have hrest : ((piece ++ [byte]).drop (piece.length / capacity * capacity)).length ≤
      capacity := by
    have hdiv : (piece.length + 1) / capacity = piece.length / capacity + 1 := by
      rw [Nat.succ_div, if_pos hfull]
    have hmul := Nat.div_mul_cancel hfull
    rw [hdiv, Nat.succ_mul] at hmul
    rw [List.length_drop, List.length_append, List.length_singleton]
    omega
  rw [Frame.segment, List.take_of_length_le hrest, ← hcutter.reverse_held_cons byte]
  exact hcutter.shows_next now (byte :: cutter.held).reverse false

/-- A byte that ends no line. -/
theorem feed (hcutter : cutter.Reflects source capacity ids times run piece)
    (hcapacity : 0 < capacity) (now : Timestamp) {byte : UInt8} (hbyte : byte ≠ newline) :
    ∃ more, (cutter.feed ids now byte).1.Reflects source capacity ids (times ++ more) run
        (piece ++ [byte]) ∧
      Frame.ShowsAll source ids (times ++ more)
        (if capacity ∣ piece.length + 1 then
          [Frame.segment capacity run (piece ++ [byte]) (piece.length / capacity)]
        else [])
        (cutter.feed ids now byte).2.toList := by
  have hfills := hcutter.capacity_le_count_succ_iff hcapacity
  rw [Cutter.feed]
  by_cases hfull : capacity ∣ piece.length + 1
  · refine ⟨if cutter.run.isNone then [now] else [], ?_, ?_⟩
    · simpa [hbyte, hfills.mpr hfull] using hcutter.cut now byte hfull
    · simpa [hbyte, hfills.mpr hfull, hfull] using hcutter.shows_cut now byte hfull
  · refine ⟨[], ?_, ?_⟩
    · simpa [hbyte, mt hfills.mp hfull] using hcutter.hold byte hfull
    · simp [hbyte, mt hfills.mp hfull, hfull]

/-! ## The end of the stream -/

theorem close_eq (hcutter : cutter.Reflects source capacity ids times run piece)
    (hcapacity : 0 < capacity) (now : Timestamp) :
    cutter.close ids now =
      if piece = [] then (cutter, none)
      else ((cutter.cutSegment ids now true).1, some (cutter.cutSegment ids now true).2) := by
  have hidle : (cutter.held.isEmpty && cutter.run.isNone) = true ↔ piece = [] := by
    by_cases hshort : piece.length < capacity
    · simp [hcutter.run_of_short hshort, hcutter.held_eq_nil_iff_of_short hshort]
    · obtain ⟨time, -, hrun⟩ := hcutter.run_of_long hshort
      have hempty : piece ≠ [] := by
        intro hnil
        simp [hnil, hcapacity] at hshort
      simp [hrun, hempty]
  rw [Cutter.close]
  by_cases hempty : piece = []
  · simp [hidle.mpr hempty, hempty]
  · rw [if_neg (mt hidle.mp hempty), if_neg hempty]

theorem shows_lastSegment (hcutter : cutter.Reflects source capacity ids times run piece)
    (now : Timestamp) :
    Frame.Shows source ids (times ++ if cutter.run.isNone then [now] else [])
      (Frame.lastSegment capacity run piece) (cutter.cutSegment ids now true).2 := by
  rw [Frame.lastSegment, ← hcutter.heldLine_eq]
  exact hcutter.shows_next now cutter.heldLine true

theorem showsAll_close (hcutter : cutter.Reflects source capacity ids times run piece)
    (hcapacity : 0 < capacity) (now : Timestamp) :
    ∃ more, Frame.ShowsAll source ids (times ++ more)
      (if piece = [] then [] else [Frame.lastSegment capacity run piece])
      (cutter.close ids now).2.toList := by
  refine ⟨if cutter.run.isNone then [now] else [], ?_⟩
  rw [hcutter.close_eq hcapacity]
  by_cases hempty : piece = []
  · simp [hempty]
  · simpa [hempty] using hcutter.shows_lastSegment now

end Reflects

end Cutter

end LogRelay
