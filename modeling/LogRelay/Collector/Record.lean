import LogRelay.Json.Writer
import LogRelay.Message
import LogRelay.Text.Lines

/-!
# Records

What the collector is told about a message: one JSON object on one line.
-/

namespace LogRelay

/-- What is the same in all records: the container and the host it runs on. -/
structure Identity where
  containerId : String
  containerName : String
  host : String
  deriving DecidableEq, Repr, Inhabited

namespace Record

def stringMember (key value : String) : JsonString × JsonValue :=
  (some key, .string (some value))

def partialObject (tag : Partial) : JsonValue :=
  .object [
    stringMember "id" tag.id,
    (some "ordinal", .number (JsonNumber.ofNat tag.ordinal.toNat)),
    (some "last", .truth tag.last)]

/-- Whole lines have no member for the run. -/
def partialMembers (message : Message) : List (JsonString × JsonValue) :=
  match message.partialTag with
  | some tag => [(some "partial_message", partialObject tag)]
  | none => []

def object (identity : Identity) (message : Message) : JsonValue :=
  .object (
    [stringMember "container_id" identity.containerId,
      stringMember "container_name" identity.containerName,
      stringMember "source" message.source.name,
      stringMember "log" message.lossyText,
      stringMember "time" (String.ofList message.time.rfc3339)] ++
    partialMembers message ++
    [stringMember "host" identity.host])

/-- The object and the end of its line. -/
def encode (identity : Identity) (message : Message) : Bytes :=
  Utf8.encodeChars (JsonWriter.value (object identity message)) ++ [newline]

end Record

end LogRelay
