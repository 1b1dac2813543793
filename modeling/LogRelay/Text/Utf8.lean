/-!
# Text as bytes

UTF-8 in both directions.  Reading is total: bytes that belong to no character
are shown as one replacement character for each longest run that could have
begun a character.
-/

namespace LogRelay

/-- The contents of a pipe, a line or a record. -/
abbrev Bytes := List UInt8

namespace Utf8

def encodeChars (text : List Char) : Bytes :=
  text.flatMap String.utf8EncodeChar

def encode (text : String) : Bytes :=
  encodeChars text.toList

/-- Shown for bytes that belong to no character. -/
def replacement : Char := '\ufffd'

/-- Where a reader stands inside a character: how many continuation bytes are
still owed, the range that the next one has to lie in, and the code point read
so far. -/
structure Unfinished where
  owed : Nat
  low : UInt8
  high : UInt8
  codePoint : Nat
  deriving DecidableEq, Repr

/-- A reader stands between two characters or inside one. -/
abbrev Position := Option Unfinished

inductive Opening where
  | whole (character : Char)
  | opens (unfinished : Unfinished)
  | stray
  deriving DecidableEq

/-- What a byte means where a character is to begin. -/
def opening (byte : UInt8) : Opening :=
  let value := byte.toNat
  if value < 0x80 then .whole (Char.ofNat value)
  else if value < 0xC2 then .stray
  else if value < 0xE0 then .opens ⟨1, 0x80, 0xBF, value - 0xC0⟩
  else if value = 0xE0 then .opens ⟨2, 0xA0, 0xBF, 0⟩
  else if value = 0xED then .opens ⟨2, 0x80, 0x9F, 0xD⟩
  else if value < 0xF0 then .opens ⟨2, 0x80, 0xBF, value - 0xE0⟩
  else if value = 0xF0 then .opens ⟨3, 0x90, 0xBF, 0⟩
  else if value < 0xF4 then .opens ⟨3, 0x80, 0xBF, value - 0xF0⟩
  else if value = 0xF4 then .opens ⟨3, 0x80, 0x8F, 4⟩
  else .stray

/-- The characters that a byte completes at the start of a character, and
where the reader stands after it. -/
def begin (byte : UInt8) : List Char × Position :=
  match opening byte with
  | .whole character => ([character], none)
  | .opens unfinished => ([], some unfinished)
  | .stray => ([replacement], none)

/-- One byte.  A byte that cannot continue the character in hand ends it as a
replacement and is looked at again as the start of the next one. -/
def advance (position : Position) (byte : UInt8) : List Char × Position :=
  match position with
  | none => begin byte
  | some unfinished =>
    if unfinished.low ≤ byte ∧ byte ≤ unfinished.high then
      let codePoint := unfinished.codePoint * 64 + byte.toNat % 64
      if unfinished.owed ≤ 1 then ([Char.ofNat codePoint], none)
      else ([], some ⟨unfinished.owed - 1, 0x80, 0xBF, codePoint⟩)
    else
      let (characters, next) := begin byte
      (replacement :: characters, next)

/-- `shown` holds the characters read so far, the newest first. -/
def decodeFrom (shown : List Char) (position : Position) : Bytes → List Char
  | [] =>
    match position with
    | none => shown.reverse
    | some _ => (replacement :: shown).reverse
  | byte :: rest =>
    let (characters, next) := advance position byte
    decodeFrom (characters.reverse ++ shown) next rest

/-- The characters of `bytes`, with replacements for what is not UTF-8. -/
def decodeLossyChars (bytes : Bytes) : List Char :=
  decodeFrom [] none bytes

def decodeLossy (bytes : Bytes) : String :=
  String.ofList (decodeLossyChars bytes)

/-- Whether the bytes are UTF-8 from the given position to the end. -/
def validFrom (position : Position) : Bytes → Bool
  | [] => position.isNone
  | byte :: rest =>
    match position with
    | none =>
      match opening byte with
      | .whole _ => validFrom none rest
      | .opens unfinished => validFrom (some unfinished) rest
      | .stray => false
    | some unfinished =>
      if unfinished.low ≤ byte ∧ byte ≤ unfinished.high then validFrom (advance position byte).2 rest
      else false

def isValid (bytes : Bytes) : Bool :=
  validFrom none bytes

/-- The text of `bytes`, if they are UTF-8. -/
def decode? (bytes : Bytes) : Option String :=
  if isValid bytes then some (decodeLossy bytes) else none

end Utf8

end LogRelay
