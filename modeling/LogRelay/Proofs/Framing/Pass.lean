import LogRelay.Proofs.Framing.Cutter

/-!
# A pass over the buffer cuts as one would byte by byte

Between two reads the buffer of a framer has room and holds no newline.  So at the end
of a pass there are only two cases.  If a newline was met, all lines that have ended
are taken out, and what is left of the buffer is shorter than the buffer, even if the
read had filled it.  If none was met, the buffer holds one unfinished line, and it
becomes a segment exactly if it fills the buffer.  Either way the framer stands where
a cutter would that takes the bytes one at a time.
-/

namespace LogRelay

variable {source : Source} {capacity : Nat} {ids : Nat → String} {now : Timestamp}
variable {line rest bytes : Bytes}

namespace Pass

/-- The cutter that has come as far as the pass and holds the bytes. -/
def cutter (source : Source) (capacity : Nat) (held : Bytes) (pass : Pass) : Cutter where
  source := source
  capacity := capacity
  held := held.reverse
  count := held.length
  run := pass.run
  runsBegun := pass.runsBegun

variable {pass : Pass}

/-! ## Lines that are taken out -/

theorem takeLines_of_notMem (hrest : newline ∉ rest) (source : Source) (now : Timestamp)
    (pass : Pass) (left : Bytes) (place : Nat) :
    takeLines source now pass left place rest = pass := by
  induction rest generalizing place with
  | nil => rfl
  | cons byte rest ih =>
      obtain ⟨hbyte, hlater⟩ := not_or.mp (List.mem_cons.not.mp hrest)
      rw [takeLines, if_neg (Ne.symm hbyte), ih hlater]

/-- The first newline ends the bytes that stand in front of it. -/
theorem takeLines_of_place (hline : newline ∉ line) (left : Bytes) (place : Nat) (rest : Bytes) :
    takeLines source now pass left place (line ++ newline :: rest) =
      takeLines source now (pass.takeLine source now (left.take (place + line.length))) rest 0
        rest := by
  induction line generalizing place with
  | nil => simp [takeLines]
  | cons byte line ih =>
      obtain ⟨hbyte, hlater⟩ := not_or.mp (List.mem_cons.not.mp hline)
      have hplace : place + 1 + line.length = place + (byte :: line).length := by
        rw [List.length_cons, Nat.add_assoc, Nat.add_comm 1]
      rw [List.cons_append, takeLines, if_neg (Ne.symm hbyte), ih hlater, hplace]

theorem takeLines_append_newline (hline : newline ∉ line) (source : Source) (now : Timestamp)
    (pass : Pass) (rest : Bytes) :
    takeLines source now pass (line ++ newline :: rest) 0 (line ++ newline :: rest) =
      takeLines source now (pass.takeLine source now line) rest 0 rest := by
  rw [takeLines_of_place hline, Nat.zero_add, List.take_left]

@[simp]
theorem consumed_takeLine (source : Source) (now : Timestamp) (pass : Pass) (line : Bytes) :
    (pass.takeLine source now line).consumed = pass.consumed + line.length + 1 := rfl

@[simp]
theorem newlines_takeLine (source : Source) (now : Timestamp) (pass : Pass) (line : Bytes) :
    (pass.takeLine source now line).newlines = pass.newlines + 1 := rfl

/-- The lines that have ended are done with, and no byte behind them. -/
theorem consumed_takeLines (source : Source) (now : Timestamp) (pass : Pass) (rest : Bytes) :
    (takeLines source now pass rest 0 rest).consumed =
      pass.consumed + (Lines.terminated rest).length := by
  induction rest using Lines.lineInduction generalizing pass with
  | rest bytes hbytes => rw [takeLines_of_notMem hbytes, Lines.terminated_eq_nil hbytes]; rfl
  | line line bytes hline ih =>
      rw [takeLines_append_newline hline, ih, Lines.terminated_append_newline hline,
        List.length_append, List.length_cons, consumed_takeLine]
      omega

theorem newlines_takeLines (source : Source) (now : Timestamp) (pass : Pass) (rest : Bytes) :
    (takeLines source now pass rest 0 rest).newlines = pass.newlines + rest.count newline := by
  induction rest using Lines.lineInduction generalizing pass with
  | rest bytes hbytes =>
      rw [takeLines_of_notMem hbytes, List.count_eq_zero_of_not_mem hbytes, Nat.add_zero]
  | line line bytes hline ih =>
      rw [takeLines_append_newline hline, ih, List.count_append,
        List.count_eq_zero_of_not_mem hline, List.count_cons_self, newlines_takeLine]
      omega

end Pass

/-! ## Cutting byte by byte -/

namespace Cutter

variable {pass : Pass} {held : Bytes}

theorem feedOnto_append (ids : Nat → String) (now : Timestamp) (cutter : Cutter)
    (cut : List Message) (left right : Bytes) :
    feedOnto ids now cutter cut (left ++ right) =
      feedOnto ids now (feedOnto ids now cutter cut left).1 (feedOnto ids now cutter cut left).2
        right := by
  induction left generalizing cutter cut with
  | nil => rfl
  | cons byte left ih =>
      rw [List.cons_append, feedOnto, feedOnto]
      rcases cutter.feed ids now byte with ⟨next, _ | message⟩
      · exact ih next cut
      · exact ih next (message :: cut)

/-- Bytes of one line for which there is room are held. -/
theorem feedOnto_held (hline : newline ∉ line) (hroom : held.length + line.length < capacity)
    (cut : List Message) :
    feedOnto ids now (pass.cutter source capacity held) cut line =
      (pass.cutter source capacity (held ++ line), cut) := by
  induction line generalizing held with
  | nil => rw [feedOnto, List.append_nil]
  | cons byte line ih =>
      obtain ⟨hbyte, hlater⟩ := not_or.mp (List.mem_cons.not.mp hline)
      rw [List.length_cons] at hroom
      have hfeed : (pass.cutter source capacity held).feed ids now byte =
          (pass.cutter source capacity (held ++ [byte]), none) := by
        have hcount : ¬ capacity ≤ held.length + 1 := by omega
        simp [feed, Ne.symm hbyte, Pass.cutter, hcount, hold]
      have hmore : (held ++ [byte]).length + line.length < capacity := by
        rw [List.length_append, List.length_singleton]
        omega
      rw [feedOnto, hfeed]
      dsimp only
      rw [ih hlater hmore, List.append_assoc, List.singleton_append]

/-- One line as long as there is room becomes a segment. -/
theorem feedOnto_full (source : Source) (ids : Nat → String) (now : Timestamp) (pass : Pass)
    (hcapacity : 0 < capacity) (hline : newline ∉ line) (hfull : line.length = capacity) :
    feedOnto ids now (pass.cutter source capacity []) pass.made line =
      ((pass.emitPartial source ids now line false).cutter source capacity [],
        (pass.emitPartial source ids now line false).made) := by
  obtain ⟨front, byte, rfl⟩ : ∃ front byte, line = front ++ [byte] :=
    ⟨_, _, (List.dropLast_concat_getLast (by rintro rfl; simp at hfull; omega)).symm⟩
  rw [List.length_append, List.length_singleton] at hfull
  have hfront : newline ∉ front := fun hmem => hline (List.mem_append_left _ hmem)
  have hbyte : byte ≠ newline := by
    rintro rfl
    exact hline (List.mem_append_right _ List.mem_cons_self)
  have hroom : ([] : Bytes).length + front.length < capacity := by
    rw [List.length_nil]
    omega
  have hcount : capacity ≤ front.length + 1 := hfull.ge
  rw [feedOnto_append, feedOnto_held hfront hroom, List.nil_append]
  simp [feedOnto, feed, hbyte, Pass.cutter, hcount, hold, cutSegment, nextRun, heldLine,
    Pass.emitPartial]

/-- A newline takes out the line that is held. -/
theorem feedOnto_newline (ids : Nat → String) (line bytes : Bytes) :
    feedOnto ids now (pass.cutter source capacity line) pass.made (newline :: bytes) =
      feedOnto ids now ((pass.takeLine source now line).cutter source capacity [])
        (pass.takeLine source now line).made bytes := by
  have hfeed : (pass.cutter source capacity line).feed ids now newline =
      (pass.cutter source capacity line).endLine now := if_pos rfl
  rw [feedOnto, hfeed]
  obtain ⟨run, begun, made, consumed, newlines⟩ := pass
  cases run with
  | none =>
      by_cases hline : line.isEmpty <;>
        simp [endLine, Pass.cutter, Pass.takeLine, Pass.emitLine, hline, heldLine]
  | some run =>
      simp [endLine, Pass.cutter, Pass.takeLine, Pass.emitLine, heldLine]

/-- Taking the lines out of a buffer comes to feeding it, unless it is full of one
unfinished line. -/
theorem feedOnto_eq_takeLines (source : Source) (ids : Nat → String) (now : Timestamp)
    (pass : Pass)
    (hroom : bytes.length < capacity ∨ newline ∈ bytes ∧ bytes.length ≤ capacity) :
    feedOnto ids now (pass.cutter source capacity []) pass.made bytes =
      ((Pass.takeLines source now pass bytes 0 bytes).cutter source capacity
          (Lines.unfinished bytes),
        (Pass.takeLines source now pass bytes 0 bytes).made) := by
  induction bytes using Lines.lineInduction generalizing pass with
  | rest bytes hbytes =>
      have hless : ([] : Bytes).length + bytes.length < capacity := by
        rw [List.length_nil, Nat.zero_add]
        exact hroom.resolve_right fun hfull => hbytes hfull.1
      rw [feedOnto_held hbytes hless, Pass.takeLines_of_notMem hbytes,
        Lines.unfinished_eq_self hbytes, List.nil_append]
  | line line bytes hline ih =>
      have hlength : (line ++ newline :: bytes).length = line.length + bytes.length + 1 := by
        rw [List.length_append, List.length_cons, Nat.add_assoc]
      have hfits : line.length + bytes.length + 1 ≤ capacity := by omega
      have hless : ([] : Bytes).length + line.length < capacity := by
        rw [List.length_nil]
        omega
      rw [feedOnto_append, feedOnto_held hline hless, List.nil_append]
      dsimp only
      rw [feedOnto_newline, ih _ (Or.inl (by omega)), Pass.takeLines_append_newline hline,
        Lines.unfinished_append_newline]

end Cutter

/-! ## The framer and its cutter -/

/-- Behind the lines that have ended stands the unfinished one. -/
theorem Lines.drop_terminated (bytes : Bytes) :
    bytes.drop (terminated bytes).length = unfinished bytes := by
  have hsplit : (terminated bytes ++ unfinished bytes).drop (terminated bytes).length =
      unfinished bytes := List.drop_left
  rwa [terminated_append_unfinished] at hsplit

theorem Lines.terminated_eq_nil_iff (bytes : Bytes) : terminated bytes = [] ↔ newline ∉ bytes := by
  refine ⟨fun hnone hmem => ?_, terminated_eq_nil⟩
  have hrest := terminated_append_unfinished bytes
  rw [hnone, List.nil_append] at hrest
  rw [← hrest] at hmem
  exact newline_notMem_unfinished bytes hmem

namespace Framer

variable {framer : Framer} {asked : Nat}

/-- The cutter that has come as far as the framer. -/
def cutter (framer : Framer) : Cutter where
  source := framer.source
  capacity := framer.capacity
  held := framer.buffer.reverse
  count := framer.buffer.length
  run := framer.run
  runsBegun := framer.runsBegun

/-- The framer is about to read that many bytes: it has not seen the end of the stream,
and its buffer has room and holds no newline. -/
structure Awaits (asked : Nat) (framer : Framer) : Prop where
  going : framer.ended = false
  asked_eq : asked = framer.request
  clean : newline ∉ framer.buffer
  room : framer.buffer.length < framer.capacity

theorem consumed_lines (framer : Framer) (now : Timestamp) :
    (Pass.takeLines framer.source now framer.startPass framer.buffer 0 framer.buffer).consumed =
      (Lines.terminated framer.buffer).length :=
  (Pass.consumed_takeLines _ _ _ _).trans (Nat.zero_add _)

theorem drop_consumed_lines (framer : Framer) (now : Timestamp) :
    framer.buffer.drop
        (Pass.takeLines framer.source now framer.startPass framer.buffer 0 framer.buffer).consumed =
      Lines.unfinished framer.buffer := by
  rw [consumed_lines, Lines.drop_terminated]

/-- While the stream goes on and the buffer is not full of one line, a pass only takes
lines out. -/
theorem pass_of_room (hended : framer.ended = false)
    (hroom : framer.buffer.length < framer.capacity ∨ newline ∈ framer.buffer) :
    framer.pass ids now =
      Pass.takeLines framer.source now framer.startPass framer.buffer 0 framer.buffer := by
  have hfull : (decide (framer.buffer.length = framer.capacity) &&
      decide ((Lines.terminated framer.buffer).length = 0)) = false := by
    rw [Bool.and_eq_false_iff, decide_eq_false_iff_not, decide_eq_false_iff_not,
      List.length_eq_zero_iff, Lines.terminated_eq_nil_iff, not_not]
    exact hroom.imp_left Nat.ne_of_lt
  simp only [pass, finishPass, framer.consumed_lines now, hfull, hended, Bool.or_self,
    Bool.false_and, Bool.false_eq_true, if_false]

/-- A buffer that is full of one line becomes a segment. -/
theorem pass_of_full (hended : framer.ended = false) (hcapacity : 0 < framer.capacity)
    (hfull : framer.buffer.length = framer.capacity) (hclean : newline ∉ framer.buffer) :
    framer.pass ids now =
      { framer.startPass.emitPartial framer.source ids now framer.buffer false with
        consumed := framer.buffer.length } := by
  have hpos : 0 < framer.buffer.length := hfull ▸ hcapacity
  simp [pass, finishPass, startPass, Pass.takeLines_of_notMem hclean, hended, hfull, hcapacity]

/-- At the end of the stream what is left of a line is the last segment of its run. -/
theorem pass_of_ended (ids : Nat → String) (now : Timestamp) (hended : framer.ended = true)
    (hclean : newline ∉ framer.buffer) :
    framer.pass ids now =
      if 0 < framer.buffer.length then
        { framer.startPass.emitPartial framer.source ids now framer.buffer true with
          consumed := framer.buffer.length }
      else if framer.run.isSome then framer.startPass.emitPartial framer.source ids now [] true
      else framer.startPass := by
  simp [pass, finishPass, startPass, Pass.takeLines_of_notMem hclean, hended]

/-- What a pass leaves is the cutter that holds the rest of the buffer. -/
theorem cutter_keep (framer : Framer) {pass : Pass} {left : Bytes}
    (hleft : framer.buffer.drop pass.consumed = left) :
    (framer.keep pass).cutter = pass.cutter framer.source framer.capacity left := by
  rw [keep, cutter, hleft]
  rfl

/-- A pass comes to what feeding the whole buffer byte by byte does. -/
theorem feedOnto_eq_pass (hended : framer.ended = false) (hcapacity : 0 < framer.capacity)
    (hfits : framer.buffer.length ≤ framer.capacity) (ids : Nat → String) (now : Timestamp) :
    Cutter.feedOnto ids now (framer.startPass.cutter framer.source framer.capacity []) []
        framer.buffer =
      ((framer.keep (framer.pass ids now)).cutter, (framer.pass ids now).made) ∧
      (framer.pass ids now).newlines = framer.buffer.count newline := by
  have hstart : framer.startPass.made = [] := rfl
  by_cases hroom : framer.buffer.length < framer.capacity ∨ newline ∈ framer.buffer
  · have hfed := Cutter.feedOnto_eq_takeLines framer.source ids now framer.startPass
      (hroom.imp_right fun hmem => ⟨hmem, hfits⟩)
    rw [hstart] at hfed
    rw [hfed, pass_of_room hended hroom, framer.cutter_keep (framer.drop_consumed_lines now),
      Pass.newlines_takeLines]
    exact ⟨rfl, Nat.zero_add _⟩
  · obtain ⟨hnot, hclean⟩ := not_or.mp hroom
    have hfull : framer.buffer.length = framer.capacity :=
      Nat.le_antisymm hfits (Nat.le_of_not_lt hnot)
    have hfed := Cutter.feedOnto_full framer.source ids now framer.startPass hcapacity hclean
      hfull
    rw [hstart] at hfed
    rw [hfed, pass_of_full hended hcapacity hfull hclean, framer.cutter_keep List.drop_length]
    exact ⟨rfl, (List.count_eq_zero_of_not_mem hclean).symm⟩

/-- A framer whose buffer holds one unfinished line stands where a cutter does that has
been fed that line. -/
theorem feedOnto_buffer (hclean : newline ∉ framer.buffer)
    (hroom : framer.buffer.length < framer.capacity) (ids : Nat → String) (now : Timestamp) :
    Cutter.feedOnto ids now (framer.startPass.cutter framer.source framer.capacity []) []
      framer.buffer = (framer.cutter, []) := by
  rw [Cutter.feedOnto_held hclean (by simpa using hroom), List.nil_append]
  rfl

theorem fill_of_ne_nil (hbytes : bytes ≠ []) (framer : Framer) :
    framer.fill bytes = { framer with buffer := framer.buffer ++ bytes } := by
  rw [fill, if_neg (by simpa using hbytes)]

/-- What a read has brought is cut as it would be byte by byte, and its newlines are
counted. -/
theorem receive_eq_feedAll (hawaits : framer.Awaits asked) (hbytes : bytes ≠ [])
    (hfits : bytes.length ≤ asked) (ids : Nat → String) (now : Timestamp) :
    (framer.receive ids now bytes).1.cutter = (framer.cutter.feedAll ids now bytes).1 ∧
      (framer.receive ids now bytes).1.pending =
        framer.pending ++ (framer.cutter.feedAll ids now bytes).2 ∧
      (framer.receive ids now bytes).2 = bytes.count newline := by
  obtain ⟨hended, hasked, hclean, hroom⟩ := hawaits
  rw [receive, fill_of_ne_nil hbytes]
  generalize hfilled : ({ framer with buffer := framer.buffer ++ bytes } : Framer) = filled
  have hlength : filled.buffer.length ≤ filled.capacity := by
    rw [hasked, request] at hfits
    simp only [← hfilled, List.length_append]
    omega
  have hcapacity : 0 < filled.capacity := by
    simp only [← hfilled]
    exact Nat.zero_lt_of_lt hroom
  obtain ⟨hfed, hcount⟩ := feedOnto_eq_pass (by rw [← hfilled]; exact hended) hcapacity hlength
    ids now
  have hfeed : Cutter.feedOnto ids now framer.cutter [] bytes =
      ((filled.keep (filled.pass ids now)).cutter, (filled.pass ids now).made) := by
    have hbefore := feedOnto_buffer hclean hroom ids now
    rw [← hfed, ← hfilled]
    dsimp only
    rw [Cutter.feedOnto_append]
    exact congrArg (fun fed => Cutter.feedOnto ids now fed.1 fed.2 bytes) hbefore.symm
  rw [Cutter.feedAll, hfeed]
  refine ⟨rfl, ?_, ?_⟩
  · rw [← hfilled]
    rfl
  · rw [hcount, ← hfilled]
    dsimp only
    rw [List.count_append, List.count_eq_zero_of_not_mem hclean, Nat.zero_add]

/-- At the end of the stream what is left is cut off as it would be by the cutter. -/
theorem receive_nil_eq_close (hclean : newline ∉ framer.buffer) (ids : Nat → String)
    (now : Timestamp) :
    (framer.receive ids now []).1.cutter = (framer.cutter.close ids now).1 ∧
      (framer.receive ids now []).1.pending =
        framer.pending ++ (framer.cutter.close ids now).2.toList ∧
      (framer.receive ids now []).2 = 0 := by
  have hpass : (framer.fill []).pass ids now = _ := pass_of_ended ids now rfl hclean
  rw [receive, hpass, Cutter.close]
  obtain ⟨source, capacity, buffer, readLimit, run, runsBegun, pending, ended⟩ := framer
  cases buffer with
  | cons byte buffer =>
      simp [fill, keep, cutter, startPass, Pass.emitPartial, Cutter.cutSegment, Cutter.nextRun,
        Cutter.heldLine]
  | nil =>
      cases run with
      | none => simp [fill, keep, cutter, startPass]
      | some run =>
          simp [fill, keep, cutter, startPass, Pass.emitPartial, Cutter.cutSegment,
            Cutter.nextRun, Cutter.heldLine]

end Framer

end LogRelay
