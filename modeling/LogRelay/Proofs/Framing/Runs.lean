import LogRelay.Proofs.Framing.Framer

/-!
# Messages come as lines and runs

What a framer has handed out by any time is whole lines and runs of segments, one after
the other.  The segments of a run stand together and agree in all but their bytes and
their place, which is counted from one.  Each run takes the next identifier.  Only the
last of all runs may still be open, and a segment says that it is the last one exactly
where its run ends.
-/

namespace LogRelay

variable {source : Source} {ids : Nat → String} {times : List Timestamp}

/-- Segments of a run from that place on; the last of them ends it if it is closed.  The
place is written as a 32-bit number. -/
def Message.run (source : Source) (id : String) (time : Timestamp) (closed : Bool) :
    (ordinal : Nat) → List Bytes → List Message
  | _, [] => []
  | ordinal, line :: rest =>
    ⟨line, source, time, some ⟨id, UInt32.ofNat ordinal, closed && rest.isEmpty⟩⟩ ::
      run source id time closed (ordinal + 1) rest

/-- Whole lines and runs, the runs with the identifiers from that number on. -/
inductive Message.Grouped (source : Source) (ids : Nat → String) :
    (number : Nat) → List Message → Prop where
  | nil {number : Nat} : Grouped source ids number []
  | whole {number : Nat} {rest : List Message} (line : Bytes) (time : Timestamp)
      (hrest : Grouped source ids number rest) :
      Grouped source ids number (Message.complete line source time :: rest)
  | closed {number : Nat} {rest : List Message} {lines : List Bytes} (time : Timestamp)
      (hlines : lines ≠ []) (hrest : Grouped source ids (number + 1) rest) :
      Grouped source ids number (Message.run source (ids number) time true 1 lines ++ rest)
  | going {number : Nat} {lines : List Bytes} (time : Timestamp) (hlines : lines ≠ []) :
      Grouped source ids number (Message.run source (ids number) time false 1 lines)

namespace Frame

/-- The same for frames. -/
def run (number : Nat) (closed : Bool) : (ordinal : Nat) → List Bytes → List Frame
  | _, [] => []
  | ordinal, line :: rest =>
    ⟨line, some ⟨number, ordinal, closed && rest.isEmpty⟩⟩ ::
      run number closed (ordinal + 1) rest

inductive Grouped : (number : Nat) → List Frame → Prop where
  | nil {number : Nat} : Grouped number []
  | whole {number : Nat} {rest : List Frame} (line : Bytes) (hrest : Grouped number rest) :
      Grouped number (⟨line, none⟩ :: rest)
  | closed {number : Nat} {rest : List Frame} {lines : List Bytes} (hlines : lines ≠ [])
      (hrest : Grouped (number + 1) rest) : Grouped number (run number true 1 lines ++ rest)
  | going {number : Nat} {lines : List Bytes} (hlines : lines ≠ []) :
      Grouped number (run number false 1 lines)

variable {number : Nat} {frames rest : List Frame} {messages : List Message}

theorem length_run (number : Nat) (closed : Bool) (ordinal : Nat) (lines : List Bytes) :
    (run number closed ordinal lines).length = lines.length := by
  induction lines generalizing ordinal with
  | nil => rfl
  | cons line lines ih => rw [run, List.length_cons, ih, List.length_cons]

/-- Only the last segments of a run tell whether it is closed. -/
theorem run_append {right : List Bytes} (hright : right ≠ []) (number : Nat) (closed : Bool)
    (ordinal : Nat) (left : List Bytes) :
    run number closed ordinal (left ++ right) =
      run number false ordinal left ++ run number closed (ordinal + left.length) right := by
  induction left generalizing ordinal with
  | nil => rfl
  | cons line left ih =>
      have hmore : (left ++ right).isEmpty = false := by simp [hright]
      rw [List.cons_append, run, run, ih, hmore, Bool.and_false, Bool.false_and,
        List.cons_append, List.length_cons, Nat.add_assoc, Nat.add_comm 1]

/-- What stands in front of the last segments of a run is an open run. -/
theorem eq_run_of_append {ordinal : Nat} {closed : Bool} {lines : List Bytes}
    {left right : List Frame} (hright : right ≠ [])
    (hrun : run number closed ordinal lines = left ++ right) :
    left = run number false ordinal (lines.take left.length) := by
  have hlength := congrArg List.length hrun
  rw [length_run, List.length_append] at hlength
  have hdrop : lines.drop left.length ≠ [] := by
    intro hnil
    have hpos := List.length_pos_iff.mpr hright
    have hle := List.drop_eq_nil_iff.mp hnil
    omega
  have hsplit := run_append hdrop number closed ordinal (lines.take left.length)
  rw [List.take_append_drop, hrun] at hsplit
  refine (List.append_inj hsplit ?_).1
  rw [length_run, List.length_take]
  omega

theorem grouped_run (number : Nat) (closed : Bool) (lines : List Bytes) :
    Grouped number (run number closed 1 lines) := by
  by_cases hlines : lines = []
  · rw [hlines]
    exact .nil
  · cases closed with
    | false => exact .going hlines
    | true =>
        rw [← List.append_nil (run number true 1 lines)]
        exact .closed hlines .nil

theorem grouped_of_run_append {closed : Bool} {lines : List Bytes} {left right : List Frame}
    (hrun : run number closed 1 lines = left ++ right) : Grouped number left := by
  by_cases hright : right = []
  · rw [hright, List.append_nil] at hrun
    rw [← hrun]
    exact grouped_run number closed lines
  · rw [eq_run_of_append hright hrun]
    exact grouped_run number false _

/-- What has been handed out of lines and runs is lines and runs. -/
theorem Grouped.of_append {left right : List Frame} (hgrouped : Grouped number (left ++ right)) :
    Grouped number left := by
  generalize hframes : left ++ right = frames at hgrouped
  induction hgrouped generalizing left with
  | nil =>
      obtain ⟨rfl, -⟩ := List.append_eq_nil_iff.mp hframes
      exact .nil
  | whole line hrest ih =>
      cases left with
      | nil => exact .nil
      | cons frame left =>
          obtain ⟨rfl, hrest⟩ := List.cons.inj hframes
          exact .whole line (ih hrest)
  | @closed number rest lines hlines hrest ih =>
      rcases List.append_eq_append_iff.mp hframes with
        ⟨later, hrun, -⟩ | ⟨more, rfl, hmore⟩
      · exact grouped_of_run_append hrun
      · exact .closed hlines (ih hmore.symm)
  | going hlines => exact grouped_of_run_append hframes.symm

/-! ## The canonical framing -/

/-- The full segments of a piece are an open run. -/
theorem fullSegments_eq_run (capacity number : Nat) (piece : Bytes) :
    ∃ lines, fullSegments capacity number piece = run number false 1 lines ∧
      lines.length = piece.length / capacity := by
  rw [fullSegments]
  generalize piece.length / capacity = count
  induction count with
  | zero => exact ⟨[], rfl, rfl⟩
  | succ count ih =>
      obtain ⟨lines, heq, hlength⟩ := ih
      refine ⟨lines ++ [(piece.drop (count * capacity)).take capacity], ?_, by simp [hlength]⟩
      rw [run_append (List.cons_ne_nil _ _), hlength, List.range_succ, List.map_append, heq,
        Nat.add_comm 1]
      rfl

/-- A piece that is split is a closed run. -/
theorem split_eq_run (capacity number : Nat) (piece : Bytes) :
    ∃ lines, lines ≠ [] ∧ split capacity number piece = run number true 1 lines := by
  obtain ⟨lines, heq, hlength⟩ := fullSegments_eq_run capacity number piece
  refine ⟨lines ++ [(lastSegment capacity number piece).line], by simp, ?_⟩
  rw [split, heq, run_append (List.cons_ne_nil _ _), hlength, Nat.add_comm 1]
  rfl

theorem Grouped.ofLine_append {capacity : Nat} {piece : Bytes} (hcapacity : 0 < capacity)
    (hrest : Grouped (number + runCount capacity [piece]) rest) :
    Grouped number (ofLine capacity number piece ++ rest) := by
  have hcount : runCount capacity [piece] = if capacity ≤ piece.length then 1 else 0 := by
    have hconcat := runCount_concat capacity [] piece
    have hnone : runCount capacity [] = 0 := rfl
    rwa [List.nil_append, hnone, Nat.zero_add] at hconcat
  rw [hcount] at hrest
  rw [ofLine]
  split
  · next hempty =>
      rw [hempty, List.length_nil, if_neg (Nat.not_le_of_lt hcapacity)] at hrest
      exact hrest
  · split
    · next hshort =>
        rw [if_neg (Nat.not_le_of_lt hshort)] at hrest
        exact .whole piece hrest
    · next hlong =>
        obtain ⟨lines, hlines, heq⟩ := split_eq_run capacity number piece
        rw [if_pos (Nat.le_of_not_lt hlong)] at hrest
        rw [heq]
        exact .closed hlines hrest

theorem Grouped.ofLines_append {capacity : Nat} {lines : List Bytes} (hcapacity : 0 < capacity)
    (hrest : Grouped (number + runCount capacity lines) rest) :
    Grouped number (ofLines capacity number lines ++ rest) := by
  induction lines generalizing number with
  | nil => exact hrest
  | cons line lines ih =>
      have hcount : runCount capacity (line :: lines) =
          runCount capacity [line] + runCount capacity lines := by
        simp only [runCount, ← List.countP_append, List.singleton_append]
      rw [hcount, ← Nat.add_assoc] at hrest
      rw [ofLines, List.append_assoc]
      exact (ih hrest).ofLine_append hcapacity

theorem grouped_canonical {capacity : Nat} (hcapacity : 0 < capacity) (stream : Bytes) :
    Grouped 0 (canonical capacity stream) := by
  refine Grouped.ofLines_append hcapacity ?_
  rw [Nat.zero_add, ofRest]
  split
  · exact .nil
  · obtain ⟨lines, -, heq⟩ := split_eq_run capacity (nextRun capacity stream)
      (Lines.unfinished stream)
    rw [nextRun] at heq ⊢
    rw [heq]
    exact grouped_run _ true lines

/-! ## Messages -/

theorem ShowsAll.eq_run {ordinal : Nat} {closed : Bool} {lines : List Bytes} {time : Timestamp}
    (htime : times[number]? = some time)
    (hshows : ShowsAll source ids times (run number closed ordinal lines) messages) :
    messages = Message.run source (ids number) time closed ordinal lines := by
  induction lines generalizing ordinal messages with
  | nil =>
      cases hshows
      rfl
  | cons line lines ih =>
      cases hshows with
      | @cons _ message _ rest hfirst hrest =>
          obtain ⟨text, origin, moment, tag⟩ := message
          have hmoment := hfirst.time_eq _ rfl
          rw [htime] at hmoment
          obtain rfl : time = moment := Option.some.inj hmoment
          obtain rfl : text = line := hfirst.line_eq
          obtain rfl : origin = source := hfirst.source_eq
          obtain rfl : tag = some ⟨ids number, UInt32.ofNat ordinal, closed && lines.isEmpty⟩ :=
            hfirst.tag_eq
          rw [Message.run, ih hrest]

/-- A run began at a time, which all its segments carry. -/
theorem ShowsAll.exists_run {closed : Bool} {lines : List Bytes} (hlines : lines ≠ [])
    (hshows : ShowsAll source ids times (run number closed 1 lines) messages) :
    ∃ time, messages = Message.run source (ids number) time closed 1 lines := by
  obtain ⟨line, rest, rfl⟩ := List.exists_cons_of_ne_nil hlines
  have hfirst := hshows
  cases hfirst with
  | @cons _ message _ others hfirst hrest =>
      exact ⟨message.time, hshows.eq_run (hfirst.time_eq _ rfl)⟩

/-- Messages are grouped as their frames are. -/
theorem Grouped.showsAll (hgrouped : Grouped number frames)
    (hshows : ShowsAll source ids times frames messages) :
    Message.Grouped source ids number messages := by
  induction hgrouped generalizing messages with
  | nil =>
      cases hshows
      exact .nil
  | whole line hrest ih =>
      cases hshows with
      | @cons _ message _ rest hfirst hrest =>
          obtain ⟨text, origin, moment, tag⟩ := message
          obtain rfl : text = line := hfirst.line_eq
          obtain rfl : origin = source := hfirst.source_eq
          obtain rfl : tag = none := hfirst.tag_eq
          exact .whole text moment (ih hrest)
  | @closed number rest lines hlines hrest ih =>
      have hfirst := List.forall₂_take (run number true 1 lines).length hshows
      have hothers := List.forall₂_drop (run number true 1 lines).length hshows
      rw [List.take_left] at hfirst
      rw [List.drop_left] at hothers
      obtain ⟨time, heq⟩ := ShowsAll.exists_run hlines hfirst
      rw [← List.take_append_drop (run number true 1 lines).length messages, heq]
      exact .closed time hlines (ih hothers)
  | going hlines =>
      obtain ⟨time, rfl⟩ := ShowsAll.exists_run hlines hshows
      exact .going time hlines

end Frame

/-- What a framer has handed out is whole lines and runs. -/
theorem Framer.Follows.grouped {capacity : Nat} {stream : Bytes} {yielded : List Message}
    {framer : Framer} (hframer : framer.Follows source capacity ids stream yielded) :
    Message.Grouped source ids 0 yielded := by
  obtain ⟨times, frames, ⟨later, hframes⟩, hshows⟩ := hframer.showsAll_prefix
  have hcanonical := Frame.grouped_canonical hframer.capacity_pos stream
  have hyielded := List.forall₂_take_append frames yielded framer.pending hshows
  rw [← hframes, ← List.take_append_drop yielded.length frames, List.append_assoc] at hcanonical
  exact hcanonical.of_append.showsAll hyielded

end LogRelay
