import LogRelay.Proofs.Collector.Records
import LogRelay.Proofs.Collector.Rejoining
import LogRelay.Proofs.Json.Reading
import LogRelay.Proofs.Text.Encoding

/-!
# Records as the collector reads them

The bytes of a record are UTF-8 and end one line.  Whoever takes the line for JSON
finds in it what the record was made of, whatever bytes the message has and whatever
its texts are, for the writer escapes all that could end a string or a line.
-/

namespace LogRelay

namespace JsonValue

/-- The keys of an object, in the order of its members. -/
def keys : JsonValue → List JsonString
  | object members => members.map (·.1)
  | _ => []

end JsonValue

namespace Record

open JsonReader

variable {identity : Identity} {message : Message}

/-- The record says all of the message and of where it comes from.  No key stands
twice in it, so it does not matter which member with a key a reader takes. -/
structure Tells (identity : Identity) (message : Message) (record : JsonValue) : Prop where
  keys : record.keys.Nodup
  containerId : record.member? "container_id" = some (.string (some identity.containerId))
  containerName : record.member? "container_name" = some (.string (some identity.containerName))
  source : record.member? "source" = some (.string (some message.source.name))
  log : record.member? "log" = some (.string (some (Utf8.decodeLossy message.line)))
  host : record.member? "host" = some (.string (some identity.host))
  whole : message.partialTag = none → record.member? "partial_message" = none
  segment : ∀ tag, message.partialTag = some tag →
    ∃ value, record.member? "partial_message" = some value ∧
      value.keys = [some "id", some "ordinal", some "last"] ∧
      Rejoining.readTag? value = some (Rejoining.tagOf tag)

theorem tells_object (identity : Identity) (message : Message) :
    Tells identity message (object identity message) where
  keys := by
    cases htag : message.partialTag <;>
      simp [object, partialMembers, htag, stringMember, JsonValue.keys]
  containerId := rfl
  containerName := by simp [object, stringMember, JsonValue.member?]
  source := by simp [object, stringMember, JsonValue.member?]
  log := by simp [object, stringMember, JsonValue.member?, Message.lossyText]
  host := by
    cases htag : message.partialTag <;>
      simp [object, partialMembers, htag, stringMember, JsonValue.member?]
  whole htag := by simp [object, partialMembers, htag, stringMember, JsonValue.member?]
  segment tag htag := by
    refine ⟨partialObject tag, ?_, rfl, Rejoining.readTag?_partialObject tag⟩
    simp [object, partialMembers, htag, stringMember, JsonValue.member?]

/-! ## The line of a record -/

theorem isPlain_stringMember (key content : String) : IsPlain (stringMember key content).2 :=
  .string (some content)

theorem isPlain_partialObject (tag : Partial) : IsPlain (partialObject tag) := by
  refine .object fun entry hentry => ?_
  simp only [List.mem_cons, List.not_mem_nil, or_false] at hentry
  rcases hentry with rfl | rfl | rfl
  · exact isPlain_stringMember _ _
  · exact .number (isLegal_ofNat _)
  · exact .truth _

theorem isPlain_object (identity : Identity) (message : Message) :
    IsPlain (object identity message) := by
  refine .object fun entry hentry => ?_
  rw [List.mem_append, List.mem_append, List.mem_singleton] at hentry
  rcases hentry with (hfirst | hpartial) | rfl
  · simp only [List.mem_cons, List.not_mem_nil, or_false] at hfirst
    rcases hfirst with rfl | rfl | rfl | rfl | rfl
    all_goals exact isPlain_stringMember _ _
  · rw [partialMembers] at hpartial
    split at hpartial
    · rw [List.mem_singleton.mp hpartial]
      exact isPlain_partialObject _
    · exact absurd hpartial List.not_mem_nil
  · exact isPlain_stringMember _ _

theorem decode?_line (identity : Identity) (message : Message) :
    Utf8.decode? (line identity message) =
      some (String.ofList (JsonWriter.value (object identity message))) := by
  rw [← Utf8.decode?_encode, Utf8.encode, String.toList_ofList, line]

theorem isValid_encode (identity : Identity) (message : Message) :
    Utf8.isValid (encode identity message) = true := by
  have hnewline : Utf8.encodeChars ['\n'] = [newline] := by decide
  rw [encode, ← hnewline, Utf8.encodeChars, Utf8.encodeChars, ← List.flatMap_append]
  exact Utf8.isValid_encodeChars _

theorem count_newline_encode (identity : Identity) (message : Message) :
    (encode identity message).count newline = 1 := by
  rw [encode_eq, List.count_append, List.count_eq_zero.mpr (newline_notMem_line identity message)]
  rfl

/-- A message is one line of UTF-8 on its way to the collector, and the line read as
JSON tells all of it. -/
theorem message_is_read_back (identity : Identity) (message : Message) :
    Utf8.isValid (encode identity message) = true ∧
      (encode identity message).count newline = 1 ∧
      ∃ line text record,
        encode identity message = line ++ [newline] ∧ Utf8.decode? line = some text ∧
          JsonReader.parse? text = some record ∧ Tells identity message record ∧
          (Utf8.isValid message.line = true →
            Utf8.encode (Utf8.decodeLossy message.line) = message.line) := by
  refine ⟨isValid_encode identity message, count_newline_encode identity message,
    line identity message, _, object identity message, encode_eq identity message,
    decode?_line identity message, ?_, tells_object identity message, Utf8.encode_decodeLossy⟩
  rw [JsonReader.parse?, String.toList_ofList]
  exact parseChars?_value (isPlain_object identity message)

/-- The last segment of a line with a quote, a backslash, a newline, a control byte
and a character of two bytes. -/
theorem escaped_segment_is_read_back :
    let message : Message := ⟨[0x22, 0x5C, 0x0A, 0x01, 0xC3, 0xA9], .stderr, default,
      some ⟨"run", 2, true⟩⟩
    ∃ line text record,
      encode default message = line ++ [newline] ∧ Utf8.decode? line = some text ∧
        JsonReader.parse? text = some record ∧
        (record.member? "log").bind JsonValue.text? = some "\"\\\n\x01é" ∧
        (record.member? "partial_message").bind Rejoining.readTag? = some ⟨"run", 2, true⟩ ∧
        Utf8.encode (Utf8.decodeLossy message.line) = message.line := by
  intro message
  obtain ⟨-, -, line, text, record, hencode, hdecode, hparse, htells, hline⟩ :=
    message_is_read_back default message
  obtain ⟨value, hvalue, -, htag⟩ := htells.segment ⟨"run", 2, true⟩ rfl
  have hlog : Utf8.decodeLossy message.line = "\"\\\n\x01é" := by decide +kernel
  refine ⟨line, text, record, hencode, hdecode, hparse, ?_, ?_, hline (by decide)⟩
  · rw [htells.log, hlog]
    rfl
  · rw [hvalue]
    exact htag

end Record

end LogRelay
