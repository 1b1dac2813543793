import LogRelay.Config.Decode
import LogRelay.Config.Fault
import LogRelay.Config.Validation
import LogRelay.Json.Reader
import LogRelay.Text.Utf8
import LogRelay.Toml.Reader

/-!
# Loading settings
-/

namespace LogRelay.Config

/-- The settings in a TOML text. -/
def ofToml? (text : List Char) : Option Config := do
  (← Toml.parse? text).asConfig? DecodeRules.toml

/-- The settings in a JSON text. -/
def ofJson? (text : String) : Option Config := do
  (← JsonReader.parse? text).toDocument.asConfig? DecodeRules.json

/-- The settings in the file with that content; a file may also fail to be read. -/
def load (content : Except Failure Bytes) : Except ConfigFault Config :=
  match content with
  | .error failure => .error (.unreadable failure.text)
  | .ok bytes =>
    match Utf8.decode? bytes with
    | none => .error (.unreadable "stream did not contain valid UTF-8")
    | some text =>
      match ofToml? text.toList with
      | some config => .ok config
      | none => .error .malformed

end LogRelay.Config
