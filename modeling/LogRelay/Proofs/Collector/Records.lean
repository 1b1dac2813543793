import LogRelay.Collector.Record
import Mathlib.Data.List.Infix

/-!
# A record is one line

Newlines within a text are escaped where the text is written, and no character
but the newline has a newline among its bytes.  So the only newline of a record
is the one that ends it, and whoever reads records behind one another gets back
where each of them ends.
-/

namespace LogRelay

/-! ## Characters -/

namespace Utf8

theorem newline_notMem_utf8EncodeChar {character : Char} (hcharacter : character ≠ '\n') :
    newline ∉ String.utf8EncodeChar character := by
  have hvalue : character.val.toNat ≠ 10 := by
    intro hvalue
    apply hcharacter
    exact Char.ext (UInt32.toNat_inj.mp hvalue)
  intro hmem
  have hbyte : ∃ byte ∈ String.utf8EncodeChar character, byte.toNat = 10 := ⟨newline, hmem, rfl⟩
  unfold String.utf8EncodeChar at hbyte
  simp only at hbyte
  generalize character.val.toNat = value at hvalue hbyte
  split at hbyte
  · simp only [List.mem_singleton, exists_eq_left, UInt8.toNat_ofNat'] at hbyte
    omega
  · -- All bytes of a longer encoding are at least 128.
    split at hbyte
    on_goal 2 => split at hbyte
    all_goals
      simp only [List.mem_cons, List.not_mem_nil, or_false, exists_eq_or_imp, exists_eq_left,
        UInt8.toNat_ofNat'] at hbyte
      omega

theorem newline_notMem_encodeChars {text : List Char} (htext : '\n' ∉ text) :
    newline ∉ encodeChars text := by
  rw [encodeChars, List.mem_flatMap]
  rintro ⟨character, hcharacter, hmem⟩
  exact newline_notMem_utf8EncodeChar (fun heq => htext (heq ▸ hcharacter)) hmem

end Utf8

/-! ## Values -/

namespace JsonWriter

theorem newline_notMem_toDigits (value : Nat) : '\n' ∉ Nat.toDigits 10 value := by
  intro hmem
  exact absurd (Nat.isDigit_of_mem_toDigits (by decide) (by decide) hmem) (by decide)

theorem newline_notMem_hexDigits (count value : Nat) : '\n' ∉ Text.hexDigits count value := by
  induction count generalizing value with
  | zero => exact List.not_mem_nil
  | succ count ih =>
      have hdigit : ∀ digit < 16, Text.hexDigit digit ≠ '\n' := by decide
      rw [Text.hexDigits, List.mem_append, List.mem_singleton]
      rintro (hmem | heq)
      · exact ih _ hmem
      · exact hdigit _ (Nat.mod_lt _ (by decide)) heq.symm

theorem newline_notMem_escape (character : Char) : '\n' ∉ escape character := by
  unfold escape
  split
  case h_8 hnewline _ _ =>
    split
    · simp [newline_notMem_hexDigits]
    · simpa using fun heq : '\n' = character => hnewline heq.symm
  all_goals decide

theorem newline_notMem_text (content : String) : '\n' ∉ text content := by
  have hescaped : '\n' ∉ content.toList.flatMap escape := by
    rw [List.mem_flatMap]
    rintro ⟨character, -, hmem⟩
    exact newline_notMem_escape character hmem
  simpa [text] using hescaped

theorem newline_notMem_string (content : JsonString) : '\n' ∉ string content := by
  cases content with
  | none =>
      have hhalf : '\n' ∉ "\"\\ud800\"".toList := by decide +kernel
      exact hhalf
  | some content => exact newline_notMem_text content

theorem newline_notMem_number_ofNat (value : Nat) :
    '\n' ∉ number (JsonNumber.ofNat value) := by
  simpa [number, JsonNumber.ofNat] using newline_notMem_toDigits value

theorem newline_notMem_member {entry : JsonString × JsonValue}
    (hentry : '\n' ∉ value entry.2) : '\n' ∉ member entry := by
  obtain ⟨key, content⟩ := entry
  rw [member, List.mem_append, List.mem_cons]
  rintro (hmem | heq | hmem)
  · exact newline_notMem_string key hmem
  · exact absurd heq (by decide)
  · exact hentry hmem

theorem newline_notMem_members {entries : List (JsonString × JsonValue)}
    (hentries : ∀ entry ∈ entries, '\n' ∉ value entry.2) : '\n' ∉ members entries := by
  induction entries with
  | nil => exact List.not_mem_nil
  | cons entry rest ih =>
      have hentry := newline_notMem_member (hentries entry List.mem_cons_self)
      have hrest := ih fun other hother => hentries other (List.mem_cons_of_mem _ hother)
      cases rest with
      | nil => simpa [members] using hentry
      | cons next rest =>
          rw [members, List.mem_append, List.mem_cons]
          · rintro (hmem | heq | hmem)
            · exact hentry hmem
            · exact absurd heq (by decide)
            · exact hrest hmem
          · simp

theorem newline_notMem_object {entries : List (JsonString × JsonValue)}
    (hentries : ∀ entry ∈ entries, '\n' ∉ value entry.2) : '\n' ∉ value (.object entries) := by
  simpa [value] using newline_notMem_members hentries

end JsonWriter

/-! ## Records -/

namespace Record

/-- The line of a record, without its end. -/
def line (identity : Identity) (message : Message) : Bytes :=
  Utf8.encodeChars (JsonWriter.value (object identity message))

theorem encode_eq (identity : Identity) (message : Message) :
    encode identity message = line identity message ++ [newline] := rfl

theorem encode_ne_nil (identity : Identity) (message : Message) :
    encode identity message ≠ [] := by
  simp [encode]

theorem newline_notMem_stringMember (key content : String) :
    '\n' ∉ JsonWriter.value (stringMember key content).2 := by
  rw [stringMember, JsonWriter.value]
  exact JsonWriter.newline_notMem_string _

theorem newline_notMem_partialObject (tag : Partial) :
    '\n' ∉ JsonWriter.value (partialObject tag) := by
  apply JsonWriter.newline_notMem_object
  intro entry hentry
  simp only [List.mem_cons, List.not_mem_nil, or_false] at hentry
  rcases hentry with rfl | rfl | rfl
  · exact newline_notMem_stringMember _ _
  · rw [JsonWriter.value]
    exact JsonWriter.newline_notMem_number_ofNat _
  · cases tag.last <;> decide

theorem newline_notMem_partialMembers {message : Message} {entry : JsonString × JsonValue}
    (hentry : entry ∈ partialMembers message) : '\n' ∉ JsonWriter.value entry.2 := by
  rw [partialMembers] at hentry
  split at hentry
  · rw [List.mem_singleton.mp hentry]
    exact newline_notMem_partialObject _
  · exact absurd hentry List.not_mem_nil

theorem newline_notMem_object (identity : Identity) (message : Message) :
    '\n' ∉ JsonWriter.value (object identity message) := by
  apply JsonWriter.newline_notMem_object
  intro entry hentry
  rw [List.mem_append, List.mem_append, List.mem_singleton] at hentry
  rcases hentry with (hfirst | hpartial) | rfl
  · simp only [List.mem_cons, List.not_mem_nil, or_false] at hfirst
    rcases hfirst with rfl | rfl | rfl | rfl | rfl
    all_goals exact newline_notMem_stringMember _ _
  · exact newline_notMem_partialMembers hpartial
  · exact newline_notMem_stringMember _ _

theorem newline_notMem_line (identity : Identity) (message : Message) :
    newline ∉ line identity message :=
  Utf8.newline_notMem_encodeChars (newline_notMem_object identity message)

end Record

end LogRelay
