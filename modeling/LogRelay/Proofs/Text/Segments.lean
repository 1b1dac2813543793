import LogRelay.Proofs.Text.Utf8

/-!
# Text in segments

A line is cut into segments of one size, and each of them is read as text on its
own.  Together they read as the line exactly if no cut falls within a character.
-/

namespace LogRelay.Utf8

variable {capacity : Nat} {line : Bytes}

/-- The line in segments of the size and what is left, perhaps nothing. -/
def segments (capacity : Nat) (line : Bytes) : List Bytes :=
  (List.range (line.length / capacity)).map
      (fun before => (line.drop (before * capacity)).take capacity) ++
    [line.drop (line.length / capacity * capacity)]

/-- No character has bytes on both sides of a cut. -/
def CutsBetweenCharacters (capacity : Nat) (bytes : Bytes) : Prop :=
  ∀ before byte, bytes[before * capacity]? = some byte → isContinuation byte = false

/-- What the segments show, one after the other. -/
def shown (capacity : Nat) (line : Bytes) : List Char :=
  (segments capacity line).flatMap decodeLossyChars

theorem segments_of_lt (hline : line.length < capacity) : segments capacity line = [line] := by
  simp [segments, Nat.div_eq_of_lt hline]

theorem segments_of_le (hcapacity : 0 < capacity) (hline : capacity ≤ line.length) :
    segments capacity line = line.take capacity :: segments capacity (line.drop capacity) := by
  have hcount : line.length / capacity = (line.length - capacity) / capacity + 1 :=
    Nat.div_eq_sub_div hcapacity hline
  have hdrop : ∀ before, line.drop ((before + 1) * capacity) =
      (line.drop capacity).drop (before * capacity) := by
    intro before
    rw [List.drop_drop, Nat.succ_mul, Nat.add_comm]
  rw [segments, segments, hcount, List.range_succ_eq_map, List.map_cons, List.map_map,
    List.length_drop, hdrop]
  simp [Function.comp_def, hdrop]

theorem shown_of_lt (hline : line.length < capacity) :
    shown capacity line = decodeLossyChars line := by
  rw [shown, segments_of_lt hline, List.flatMap_singleton]

theorem shown_of_le (hcapacity : 0 < capacity) (hline : capacity ≤ line.length) :
    shown capacity line =
      decodeLossyChars (line.take capacity) ++ shown capacity (line.drop capacity) := by
  rw [shown, segments_of_le hcapacity hline, List.flatMap_cons, shown]

/-- Induction from the first segment of a line to the rest. -/
theorem segmentInduction {motive : Bytes → Prop} (hcapacity : 0 < capacity)
    (rest : ∀ line, line.length < capacity → motive line)
    (segment : ∀ line, capacity ≤ line.length → motive (line.drop capacity) → motive line)
    (line : Bytes) : motive line := by
  induction hlength : line.length using Nat.strong_induction_on generalizing line with
  | _ length ih =>
      rcases Nat.lt_or_ge line.length capacity with hshort | hlong
      · exact rest line hshort
      · refine segment line hlong (ih _ ?_ (line.drop capacity) rfl)
        rw [List.length_drop]
        omega

theorem beginnings_eq_add (capacity : Nat) (line : Bytes) :
    beginnings line = beginnings (line.take capacity) + beginnings (line.drop capacity) := by
  rw [← beginnings_append, List.take_append_drop]

theorem le_length_shown (hcapacity : 0 < capacity) (line : Bytes) :
    beginnings line ≤ (shown capacity line).length := by
  induction line using segmentInduction hcapacity with
  | rest line hline =>
      rw [shown_of_lt hline]
      exact le_length_decodeLossyChars line
  | segment line hline ih =>
      have hfirst := le_length_decodeLossyChars (line.take capacity)
      rw [shown_of_le hcapacity hline, List.length_append, beginnings_eq_add capacity]
      exact Nat.add_le_add hfirst ih

/-- A cut within a character shows on both sides of it. -/
theorem lt_length_shown (hcapacity : 0 < capacity) {before : Nat} {bytes : Bytes} {byte : UInt8}
    (hcut : bytes[before * capacity]? = some byte) (hbyte : isContinuation byte = true) :
    beginnings bytes < (shown capacity bytes).length := by
  induction bytes using segmentInduction hcapacity generalizing before with
  | rest line hline =>
      rw [shown_of_lt hline]
      cases line with
      | nil => simp at hcut
      | cons first rest =>
          have hzero : before * capacity = 0 := by
            have hlength := (List.getElem?_eq_some_iff.mp hcut).1
            have hbefore : before < 1 := by
              apply Nat.lt_of_mul_lt_mul_right (a := capacity)
              omega
            rw [Nat.lt_one_iff.mp hbefore, Nat.zero_mul]
          rw [hzero] at hcut
          rw [Option.some.inj hcut]
          exact lt_length_decodeLossyChars hbyte
  | segment line hline ih =>
      rw [shown_of_le hcapacity hline, List.length_append, beginnings_eq_add capacity]
      cases before with
      | zero =>
          have hrest := le_length_shown hcapacity (line.drop capacity)
          have hfirst : beginnings (line.take capacity) <
              (decodeLossyChars (line.take capacity)).length := by
            cases line with
            | nil => simp at hcut
            | cons first rest =>
                obtain ⟨room, rfl⟩ := Nat.exists_eq_succ_of_ne_zero (Nat.ne_of_gt hcapacity)
                rw [Nat.zero_mul] at hcut
                rw [List.take_succ_cons, Option.some.inj hcut]
                exact lt_length_decodeLossyChars hbyte
          exact Nat.add_lt_add_of_lt_of_le hfirst hrest
      | succ before =>
          have hfirst := le_length_decodeLossyChars (line.take capacity)
          have hcutRest : (line.drop capacity)[before * capacity]? = some byte := by
            rw [List.getElem?_drop, ← hcut, Nat.succ_mul, Nat.add_comm]
          exact Nat.add_lt_add_of_le_of_lt hfirst (ih hcutRest)

theorem CutsBetweenCharacters.drop (hcuts : CutsBetweenCharacters capacity line) :
    CutsBetweenCharacters capacity (line.drop capacity) := by
  intro before byte hbyte
  apply hcuts (before + 1) byte
  rw [← hbyte, List.getElem?_drop, Nat.succ_mul, Nat.add_comm]

theorem CutsBetweenCharacters.beginsCharacter (hcuts : CutsBetweenCharacters capacity line) :
    BeginsCharacter (line.drop capacity) := by
  intro byte hbyte
  apply hcuts 1 byte
  rw [Nat.one_mul, ← List.head?_drop]
  exact hbyte

/-- Cuts between characters do not show. -/
theorem shown_eq_of_cuts (hcapacity : 0 < capacity) (hvalid : isValid line = true)
    (hcuts : CutsBetweenCharacters capacity line) : shown capacity line = decodeLossyChars line := by
  induction line using segmentInduction hcapacity with
  | rest line hline => exact shown_of_lt hline
  | segment line hline ih =>
      have hsplit : isValid (line.take capacity ++ line.drop capacity) = true := by
        rw [List.take_append_drop]
        exact hvalid
      obtain ⟨hfirst, hrest⟩ := isValid_append hcuts.beginsCharacter hsplit
      rw [shown_of_le hcapacity hline, ih hrest hcuts.drop, ← decodeLossyChars_append _ hfirst,
        List.take_append_drop]

/-- The segments of a line show its text exactly if it is cut between characters. -/
theorem shown_eq_iff (hcapacity : 0 < capacity) (hvalid : isValid line = true) :
    shown capacity line = decodeLossyChars line ↔ CutsBetweenCharacters capacity line := by
  constructor
  · intro hshown before byte hcut
    apply Bool.eq_false_iff.mpr
    intro hbyte
    have hlength := lt_length_shown hcapacity hcut hbyte
    rw [hshown, length_decodeLossyChars hvalid] at hlength
    exact absurd hlength (Nat.lt_irrefl _)
  · exact shown_eq_of_cuts hcapacity hvalid

end LogRelay.Utf8
