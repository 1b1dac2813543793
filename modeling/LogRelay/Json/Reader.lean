import LogRelay.Json.Value
import LogRelay.Text.Utf8

/-!
# Reading JSON

The grammar of JSON texts.  A reader returns what it has read and the text
behind it.
-/

namespace LogRelay.JsonReader

open Text

def isBlank (character : Char) : Bool :=
  character = ' ' || character = '\t' || character = '\n' || character = '\r'

def skipBlanks (text : List Char) : List Char :=
  text.dropWhile isBlank

/-! ## Strings -/

/-- A character of a string, or a number that was given for one. -/
inductive StringPart where
  | character (character : Char)
  | codeUnit (value : Nat)
  deriving DecidableEq, Repr

def codeUnit? (first second third fourth : Char) : Option Nat := do
  return (((← hexValue? first) * 16 + (← hexValue? second)) * 16 + (← hexValue? third)) * 16 +
    (← hexValue? fourth)

/-- The character that a short escape stands for. -/
def escaped? : Char → Option Char
  | '"' => some '"'
  | '\\' => some '\\'
  | '/' => some '/'
  | 'b' => some '\x08'
  | 'f' => some '\x0c'
  | 'n' => some '\n'
  | 'r' => some '\r'
  | 't' => some '\t'
  | _ => none

/-- The parts of a string behind its opening quote. -/
def stringParts? : List Char → Option (List StringPart × List Char)
  | [] => none
  | '"' :: rest => some ([], rest)
  | '\\' :: 'u' :: first :: second :: third :: fourth :: rest => do
    let value ← codeUnit? first second third fourth
    let (parts, rest) ← stringParts? rest
    return (.codeUnit value :: parts, rest)
  | '\\' :: letter :: rest => do
    let character ← escaped? letter
    let (parts, rest) ← stringParts? rest
    return (.character character :: parts, rest)
  | character :: rest => do
    if character = '\\' ∨ character.toNat < 0x20 then none
    else
      let (parts, rest) ← stringParts? rest
      return (.character character :: parts, rest)

def isLead (value : Nat) : Bool := 0xD800 ≤ value && value < 0xDC00

def isTrail (value : Nat) : Bool := 0xDC00 ≤ value && value < 0xE000

/-- The characters of a string; two numbers that make a surrogate pair are one
character, and half a pair is none. -/
def assemble? : List StringPart → Option (List Char)
  | [] => some []
  | .character character :: rest => (assemble? rest).map (character :: ·)
  | .codeUnit lead :: .codeUnit trail :: rest =>
    if isLead lead then
      if isTrail trail then
        (assemble? rest).map
          (Char.ofNat (0x10000 + (lead - 0xD800) * 0x400 + (trail - 0xDC00)) :: ·)
      else none
    else if isTrail lead then none
    else (assemble? (.codeUnit trail :: rest)).map (Char.ofNat lead :: ·)
  | .codeUnit value :: rest =>
    if isLead value || isTrail value then none
    else (assemble? rest).map (Char.ofNat value :: ·)

/-- A string behind its opening quote. -/
def string? (text : List Char) : Option (JsonString × List Char) := do
  let (parts, rest) ← stringParts? text
  return ((assemble? parts).map String.ofList, rest)

/-! ## Numbers -/

/-- Some digits at least. -/
def digits? (text : List Char) : Option (List Char × List Char) :=
  match text.takeWhile isDigit with
  | [] => none
  | digits => some (digits, text.dropWhile isDigit)

/-- The digits before the point, which begin with zero only if there is no other. -/
def whole? (text : List Char) : Option (List Char × List Char) := do
  let (digits, rest) ← digits? text
  match digits with
  | '0' :: _ :: _ => none
  | _ => return (digits, rest)

def fraction? : List Char → Option (Option (List Char) × List Char)
  | '.' :: rest => do
    let (digits, rest) ← digits? rest
    return (some digits, rest)
  | rest => some (none, rest)

def exponent? : List Char → Option (Option Int × List Char)
  | mark :: rest => do
    if mark = 'e' ∨ mark = 'E' then
      match rest with
      | '-' :: rest =>
        let (digits, rest) ← digits? rest
        return (some (-(digitsValue digits : Int)), rest)
      | '+' :: rest =>
        let (digits, rest) ← digits? rest
        return (some (digitsValue digits : Int), rest)
      | _ =>
        let (digits, rest) ← digits? rest
        return (some (digitsValue digits : Int), rest)
    else return (none, mark :: rest)
  | [] => some (none, [])

def magnitude? (negative : Bool) (text : List Char) : Option (JsonNumber × List Char) := do
  let (whole, rest) ← whole? text
  let (fraction, rest) ← fraction? rest
  let (exponent, rest) ← exponent? rest
  return (⟨negative, whole, fraction, exponent⟩, rest)

def number? : List Char → Option (JsonNumber × List Char)
  | '-' :: rest => magnitude? true rest
  | text => magnitude? false text

/-! ## Values -/

mutual

/-- A value, perhaps behind blanks.  `fuel` bounds the number of steps. -/
def value? : (fuel : Nat) → List Char → Option (JsonValue × List Char)
  | 0, _ => none
  | fuel + 1, text =>
    match skipBlanks text with
    | 'n' :: 'u' :: 'l' :: 'l' :: rest => some (.null, rest)
    | 't' :: 'r' :: 'u' :: 'e' :: rest => some (.truth true, rest)
    | 'f' :: 'a' :: 'l' :: 's' :: 'e' :: rest => some (.truth false, rest)
    | '"' :: rest => (string? rest).map fun (text, rest) => (.string text, rest)
    | '[' :: rest =>
      match skipBlanks rest with
      | ']' :: rest => some (.array [], rest)
      | rest => (items? fuel rest).map fun (items, rest) => (.array items, rest)
    | '\x7b' :: rest =>
      match skipBlanks rest with
      | '\x7d' :: rest => some (.object [], rest)
      | rest => (members? fuel rest).map fun (members, rest) => (.object members, rest)
    | rest => (number? rest).map fun (number, rest) => (.number number, rest)

/-- The items of an array up to its end. -/
def items? : (fuel : Nat) → List Char → Option (List JsonValue × List Char)
  | 0, _ => none
  | fuel + 1, text => do
    let (item, rest) ← value? fuel text
    match skipBlanks rest with
    | ',' :: rest =>
      let (items, rest) ← items? fuel rest
      return (item :: items, rest)
    | ']' :: rest => return ([item], rest)
    | _ => none

/-- The members of an object up to its end. -/
def members? : (fuel : Nat) → List Char → Option (List (JsonString × JsonValue) × List Char)
  | 0, _ => none
  | fuel + 1, text => do
    match skipBlanks text with
    | '"' :: rest =>
      let (key, rest) ← string? rest
      match skipBlanks rest with
      | ':' :: rest =>
        let (value, rest) ← value? fuel rest
        match skipBlanks rest with
        | ',' :: rest =>
          let (members, rest) ← members? fuel rest
          return ((key, value) :: members, rest)
        | '\x7d' :: rest => return ([(key, value)], rest)
        | _ => none
      | _ => none
    | _ => none

end

/-- The value of a whole text. -/
def parseChars? (text : List Char) : Option JsonValue := do
  let (value, rest) ← value? (2 * text.length + 2) text
  if (skipBlanks rest).isEmpty then some value else none

def parse? (text : String) : Option JsonValue :=
  parseChars? text.toList

end LogRelay.JsonReader
