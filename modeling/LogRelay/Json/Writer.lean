import LogRelay.Json.Value

/-!
# Writing JSON

The compact form of a value: no blanks, and in a string an escape only for
what could not stand there otherwise.
-/

namespace LogRelay.JsonWriter

open Text

/-- Quotes, backslashes and control characters are escaped; everything else
stands for itself. -/
def escape : Char → List Char
  | '"' => ['\\', '"']
  | '\\' => ['\\', '\\']
  | '\x08' => ['\\', 'b']
  | '\x0c' => ['\\', 'f']
  | '\n' => ['\\', 'n']
  | '\r' => ['\\', 'r']
  | '\t' => ['\\', 't']
  | character =>
    if character.toNat < 0x20 then '\\' :: 'u' :: hexDigits 4 character.toNat else [character]

def text (content : String) : List Char :=
  '"' :: content.toList.flatMap escape ++ ['"']

/-- A string without a text is written as half of a surrogate pair. -/
def string : JsonString → List Char
  | some content => text content
  | none => "\"\\ud800\"".toList

def integer (value : Int) : List Char :=
  if value < 0 then '-' :: Nat.toDigits 10 value.natAbs else Nat.toDigits 10 value.natAbs

def number (number : JsonNumber) : List Char :=
  (if number.negative then ['-'] else []) ++ number.whole ++
    (match number.fraction with
      | some digits => '.' :: digits
      | none => []) ++
    (match number.exponent with
      | some exponent => 'e' :: integer exponent
      | none => [])

mutual

def value : JsonValue → List Char
  | .null => "null".toList
  | .truth true => "true".toList
  | .truth false => "false".toList
  | .number literal => number literal
  | .string content => string content
  | .array items => '[' :: listed items ++ [']']
  | .object entries => '\x7b' :: members entries ++ ['\x7d']

/-- The items of an array, with commas between them. -/
def listed : List JsonValue → List Char
  | [] => []
  | [item] => value item
  | item :: rest => value item ++ ',' :: listed rest

/-- The members of an object, with commas between them. -/
def members : List (JsonString × JsonValue) → List Char
  | [] => []
  | [entry] => member entry
  | entry :: rest => member entry ++ ',' :: members rest

def member : JsonString × JsonValue → List Char
  | (key, content) => string key ++ ':' :: value content

end

end LogRelay.JsonWriter
