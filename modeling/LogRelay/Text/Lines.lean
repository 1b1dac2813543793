import LogRelay.Text.Utf8

/-!
# Lines

A line of bytes ends at a newline, which does not belong to it.
-/

namespace LogRelay

def newline : UInt8 := 10

namespace Lines

/-- What a byte in front makes of the lines behind it.  Bytes before the end of
no line are not in any. -/
def prepend (byte : UInt8) (lines : List Bytes) : List Bytes :=
  if byte = newline then [] :: lines
  else
    match lines with
    | [] => []
    | line :: rest => (byte :: line) :: rest

/-- The lines that have come to their end. -/
def complete (bytes : Bytes) : List Bytes :=
  bytes.foldr prepend []

theorem complete_append_newline {line rest : Bytes} (hline : newline ∉ line) :
    complete (line ++ newline :: rest) = line :: complete rest := by
  induction line with
  | nil => simp [complete, prepend]
  | cons byte line ih =>
    have hbyte : byte ≠ newline := fun h => hline (by simp [h])
    have hrest := ih fun h => hline (List.mem_cons_of_mem _ h)
    simp only [complete, List.cons_append, List.foldr_cons] at hrest ⊢
    simp [hrest, prepend, hbyte]

theorem complete_eq_nil {bytes : Bytes} (hbytes : newline ∉ bytes) : complete bytes = [] := by
  induction bytes with
  | nil => rfl
  | cons byte bytes ih =>
    have hbyte : byte ≠ newline := fun h => hbytes (by simp [h])
    have hrest := ih fun h => hbytes (List.mem_cons_of_mem _ h)
    simp only [complete, List.foldr_cons] at hrest ⊢
    simp [hrest, prepend, hbyte]

end Lines

end LogRelay
