import LogRelay.Text.Lines
import Mathlib.Data.List.DropRight

/-!
# A stream as lines and a rest

A stream is its complete lines, each with its newline, and the unfinished line
behind the last newline.  A byte at the end of the stream either completes the
unfinished line or makes it longer.
-/

namespace LogRelay.Lines

/-- The bytes behind the last newline. -/
def unfinished (bytes : Bytes) : Bytes :=
  bytes.rtakeWhile (· ≠ newline)

/-- The lines that are not empty, the unfinished one included. -/
def nonEmpty (bytes : Bytes) : List Bytes :=
  (complete bytes ++ [unfinished bytes]).filter (· ≠ [])

@[simp]
theorem unfinished_nil : unfinished [] = [] := rfl

@[simp]
theorem complete_nil : complete [] = [] := rfl

theorem newline_notMem_unfinished (bytes : Bytes) : newline ∉ unfinished bytes := by
  intro hmem
  simpa using List.mem_rtakeWhile_imp hmem

theorem unfinished_eq_self {bytes : Bytes} (hbytes : newline ∉ bytes) :
    unfinished bytes = bytes := by
  rw [unfinished, List.rtakeWhile_eq_self_iff]
  intro byte hbyte
  simpa using fun heq : byte = newline => hbytes (heq ▸ hbyte)

theorem unfinished_append_newline (line rest : Bytes) :
    unfinished (line ++ newline :: rest) = unfinished rest := by
  induction rest using List.reverseRecOn with
  | nil => simp [unfinished]
  | append_singleton rest byte ih =>
      have hassoc : line ++ newline :: (rest ++ [byte]) = (line ++ newline :: rest) ++ [byte] := by
        simp
      rw [hassoc, unfinished, unfinished, List.rtakeWhile_concat, List.rtakeWhile_concat]
      rw [unfinished, unfinished] at ih
      rw [ih]

@[simp]
theorem unfinished_concat_newline (bytes : Bytes) :
    unfinished (bytes ++ [newline]) = [] :=
  unfinished_append_newline bytes []

theorem unfinished_concat {byte : UInt8} (hbyte : byte ≠ newline) (bytes : Bytes) :
    unfinished (bytes ++ [byte]) = unfinished bytes ++ [byte] := by
  simp [unfinished, hbyte]

/-- A stream has no newline, or it begins with a line and its newline. -/
theorem eq_line_or_append_newline (bytes : Bytes) :
    newline ∉ bytes ∨ ∃ line rest, newline ∉ line ∧ bytes = line ++ newline :: rest := by
  by_cases hbytes : newline ∈ bytes
  · obtain ⟨line, rest, heq, hline⟩ := List.eq_append_cons_of_mem hbytes
    exact Or.inr ⟨line, rest, hline, heq⟩
  · exact Or.inl hbytes

/-- Induction over the lines of a stream. -/
theorem lineInduction {motive : Bytes → Prop} (rest : ∀ bytes, newline ∉ bytes → motive bytes)
    (line : ∀ line bytes, newline ∉ line → motive bytes → motive (line ++ newline :: bytes))
    (bytes : Bytes) : motive bytes := by
  induction hlength : bytes.length using Nat.strong_induction_on generalizing bytes with
  | _ length ih =>
      rcases eq_line_or_append_newline bytes with hbytes | ⟨head, tail, hhead, rfl⟩
      · exact rest bytes hbytes
      · refine line head tail hhead (ih tail.length ?_ tail rfl)
        simp only [List.length_append, List.length_cons] at hlength
        omega

theorem complete_concat_newline (bytes : Bytes) :
    complete (bytes ++ [newline]) = complete bytes ++ [unfinished bytes] := by
  induction bytes using lineInduction with
  | rest bytes hbytes =>
      rw [complete_append_newline hbytes, complete_eq_nil hbytes, unfinished_eq_self hbytes]
      rfl
  | line line bytes hline ih =>
      rw [List.append_assoc, List.cons_append, complete_append_newline hline, ih,
        complete_append_newline hline, unfinished_append_newline]
      rfl

theorem complete_concat {byte : UInt8} (hbyte : byte ≠ newline) (bytes : Bytes) :
    complete (bytes ++ [byte]) = complete bytes := by
  induction bytes using lineInduction with
  | rest bytes hbytes =>
      have hconcat : newline ∉ bytes ++ [byte] := by
        simp [hbytes, Ne.symm hbyte]
      rw [complete_eq_nil hbytes, complete_eq_nil hconcat]
  | line line bytes hline ih =>
      rw [List.append_assoc, List.cons_append, complete_append_newline hline, ih,
        complete_append_newline hline]

/-! ## The part that is ended by newlines -/

/-- The bytes up to the last newline. -/
def terminated (bytes : Bytes) : Bytes :=
  (complete bytes).flatMap (· ++ [newline])

theorem terminated_append_newline {line : Bytes} (hline : newline ∉ line) (bytes : Bytes) :
    terminated (line ++ newline :: bytes) = line ++ newline :: terminated bytes := by
  simp [terminated, complete_append_newline hline]

theorem terminated_eq_nil {bytes : Bytes} (hbytes : newline ∉ bytes) : terminated bytes = [] := by
  rw [terminated, complete_eq_nil hbytes]
  rfl

/-- Nothing is lost: the lines with their newlines and the rest are the stream. -/
theorem terminated_append_unfinished (bytes : Bytes) :
    terminated bytes ++ unfinished bytes = bytes := by
  induction bytes using lineInduction with
  | rest bytes hbytes => rw [terminated_eq_nil hbytes, unfinished_eq_self hbytes, List.nil_append]
  | line line bytes hline ih =>
      rw [terminated_append_newline hline, unfinished_append_newline, List.append_assoc,
        List.cons_append, ih]

theorem complete_terminated (bytes : Bytes) : complete (terminated bytes) = complete bytes := by
  induction bytes using lineInduction with
  | rest bytes hbytes => rw [terminated_eq_nil hbytes, complete_eq_nil hbytes, complete_nil]
  | line line bytes hline ih =>
      rw [terminated_append_newline hline, complete_append_newline hline,
        complete_append_newline hline, ih]

theorem unfinished_terminated (bytes : Bytes) : unfinished (terminated bytes) = [] := by
  induction bytes using lineInduction with
  | rest bytes hbytes => rw [terminated_eq_nil hbytes, unfinished_nil]
  | line line bytes hline ih =>
      rw [terminated_append_newline hline, unfinished_append_newline, ih]

end LogRelay.Lines
