import LogRelay.Text.Characters

/-!
# Strings of TOML

Quoted strings on one line or several, with or without escapes.  A reader
returns what it has read and the text behind it.
-/

namespace LogRelay.Toml

/-- Spaces and tabs. -/
def isSpace (character : Char) : Bool :=
  character = ' ' || character = '\t'

def skipSpaces (text : List Char) : List Char :=
  text.dropWhile isSpace

/-- What may stand in a line: tabs and everything that is no control character. -/
def isLineChar (character : Char) : Bool :=
  character = '\t' || (' ' ≤ character && character ≠ '\x7f')

/-- The text behind a line ending, if it begins with one. -/
def newline? : List Char → Option (List Char)
  | '\n' :: rest => some rest
  | '\r' :: '\n' :: rest => some rest
  | _ => none

def skipNewline (text : List Char) : List Char :=
  (newline? text).getD text

/-- A code point given by that many hexadecimal digits. -/
def codePoint? (count : Nat) (text : List Char) : Option (Char × List Char) := do
  let digits ← (text.take count).mapM Text.hexValue?
  let value := digits.foldl (fun value digit => value * 16 + digit) 0
  if digits.length = count ∧ value.isValidChar then
    some (Char.ofNat value, text.drop count)
  else none

/-- What stands behind a backslash. -/
def escape? : List Char → Option (Char × List Char)
  | 'b' :: rest => some ('\x08', rest)
  | 't' :: rest => some ('\t', rest)
  | 'n' :: rest => some ('\n', rest)
  | 'f' :: rest => some ('\x0c', rest)
  | 'r' :: rest => some ('\r', rest)
  | '"' :: rest => some ('"', rest)
  | '\\' :: rest => some ('\\', rest)
  | 'u' :: rest => codePoint? 4 rest
  | 'U' :: rest => codePoint? 8 rest
  | _ => none

/-- A string on one line, behind its opening quote. -/
def basicString? : (fuel : Nat) → List Char → Option (List Char × List Char)
  | 0, _ => none
  | _ + 1, [] => none
  | _ + 1, '"' :: rest => some ([], rest)
  | fuel + 1, '\\' :: rest => do
    let (character, rest) ← escape? rest
    let (text, rest) ← basicString? fuel rest
    return (character :: text, rest)
  | fuel + 1, character :: rest => do
    if isLineChar character then
      let (text, rest) ← basicString? fuel rest
      return (character :: text, rest)
    else none

/-- A string on one line without escapes, behind its opening quote. -/
def literalString? : List Char → Option (List Char × List Char)
  | [] => none
  | '\'' :: rest => some ([], rest)
  | character :: rest => do
    if isLineChar character then
      let (text, rest) ← literalString? rest
      return (character :: text, rest)
    else none

/-- How a string of several lines goes on: three quotes end it, and up to two
more before them belong to it. -/
def closing? (quote : Char) (text : List Char) : Option (List Char × List Char) :=
  let run := (text.takeWhile (· = quote)).length
  if run < 3 then none
  else
    let inside := min (run - 3) 2
    some (List.replicate inside quote, text.drop (inside + 3))

/-- Behind a backslash at the end of a line all blanks and line endings are
passed over. -/
def skipBlankLines : (fuel : Nat) → List Char → List Char
  | 0, text => text
  | fuel + 1, text =>
    let rest := skipSpaces text
    match newline? rest with
    | some rest => skipBlankLines fuel rest
    | none => rest

/-- A string of several lines, behind its opening quotes. -/
def longBasicString? : (fuel : Nat) → List Char → Option (List Char × List Char)
  | 0, _ => none
  | fuel + 1, text =>
    match closing? '"' text with
    | some closed => some closed
    | none =>
      match text with
      | [] => none
      | '\\' :: rest => do
        match newline? (skipSpaces rest) with
        | some next => longBasicString? fuel (skipBlankLines next.length next)
        | none =>
          let (character, rest) ← escape? rest
          let (text, rest) ← longBasicString? fuel rest
          return (character :: text, rest)
      | character :: rest => do
        match newline? (character :: rest) with
        | some rest =>
          let (text, rest) ← longBasicString? fuel rest
          return ('\n' :: text, rest)
        | none =>
          if isLineChar character then
            let (text, rest) ← longBasicString? fuel rest
            return (character :: text, rest)
          else none

/-- A string of several lines without escapes, behind its opening quotes. -/
def longLiteralString? : (fuel : Nat) → List Char → Option (List Char × List Char)
  | 0, _ => none
  | fuel + 1, text =>
    match closing? '\'' text with
    | some closed => some closed
    | none =>
      match text with
      | [] => none
      | character :: rest => do
        match newline? (character :: rest) with
        | some rest =>
          let (text, rest) ← longLiteralString? fuel rest
          return ('\n' :: text, rest)
        | none =>
          if isLineChar character then
            let (text, rest) ← longLiteralString? fuel rest
            return (character :: text, rest)
          else none

/-- A string of any kind. -/
def string? : List Char → Option (String × List Char)
  | '"' :: '"' :: '"' :: rest => do
    let (text, rest) ← longBasicString? (rest.length + 1) (skipNewline rest)
    return (String.ofList text, rest)
  | '"' :: rest => do
    let (text, rest) ← basicString? (rest.length + 1) rest
    return (String.ofList text, rest)
  | '\'' :: '\'' :: '\'' :: rest => do
    let (text, rest) ← longLiteralString? (rest.length + 1) (skipNewline rest)
    return (String.ofList text, rest)
  | '\'' :: rest => do
    let (text, rest) ← literalString? rest
    return (String.ofList text, rest)
  | _ => none

def isBareKeyChar (character : Char) : Bool :=
  ('a' ≤ character && character ≤ 'z') || ('A' ≤ character && character ≤ 'Z') ||
    Text.isDigit character || character = '-' || character = '_'

/-- One part of a key: bare, or a string on one line. -/
def keyPart? : List Char → Option (String × List Char)
  | '"' :: rest => do
    let (text, rest) ← basicString? (rest.length + 1) rest
    return (String.ofList text, rest)
  | '\'' :: rest => do
    let (text, rest) ← literalString? rest
    return (String.ofList text, rest)
  | text =>
    match text.takeWhile isBareKeyChar with
    | [] => none
    | key => some (String.ofList key, text.dropWhile isBareKeyChar)

/-- How deep values may be nested and how many parts a key may have. -/
def depthLimit : Nat := 80

/-- The parts of a dotted key. -/
def keyParts? : (fuel : Nat) → List Char → Option (List String × List Char)
  | 0, _ => none
  | fuel + 1, text => do
    let (part, rest) ← keyPart? (skipSpaces text)
    match skipSpaces rest with
    | '.' :: rest =>
      let (parts, rest) ← keyParts? fuel rest
      return (part :: parts, rest)
    | rest => return ([part], rest)

def key? (text : List Char) : Option (List String × List Char) := do
  let (parts, rest) ← keyParts? (text.length + 1) text
  if depthLimit ≤ parts.length then none else some (parts, rest)

end LogRelay.Toml
