import LogRelay.Toml.Numbers
import LogRelay.Toml.Tree

/-!
# Reading TOML

The grammar of TOML files.  The result is the document of the whole file, or
nothing if the file is not well formed.
-/

namespace LogRelay.Toml

/-- The text behind a comment, which goes up to the end of its line. -/
def skipComment : List Char → List Char
  | '#' :: rest => rest.dropWhile isLineChar
  | text => text

/-- Passes over blanks, line endings and comments. -/
def skipFiller : (fuel : Nat) → List Char → List Char
  | 0, text => text
  | fuel + 1, text =>
    let rest := skipComment (skipSpaces text)
    match newline? rest with
    | some rest => skipFiller fuel rest
    | none => rest

def skipFillers (text : List Char) : List Char :=
  skipFiller (text.length + 1) text

/-- The text behind the end of a line, where only a comment may stand. -/
def endOfLine? (text : List Char) : Option (List Char) :=
  match skipComment (skipSpaces text) with
  | [] => some []
  | rest => newline? rest

/-- The table that the entries of an inline table make. -/
def inlineTable? (entries : List (List String × Document)) : Option Document := do
  let node ← entries.foldlM (fun node (path, document) => node.define [] path document)
    TomlNode.opened
  return node.toDocument

mutual

/-- A value inside of `depth` others.  `fuel` bounds the number of steps. -/
def value? : (fuel depth : Nat) → List Char → Option (Document × List Char)
  | 0, _, _ => none
  | fuel + 1, depth, text =>
    match text with
    | [] => none
    | first :: behind =>
      if first = '"' ∨ first = '\'' then
        (string? text).map fun (text, rest) => (.text text, rest)
      else if first = '[' then
        if depthLimit ≤ depth + 1 then none
        else (items? fuel (depth + 1) behind).map fun (items, rest) => (.list items, rest)
      else if first = '\x7b' then
        if depthLimit ≤ depth + 1 then none
        else do
          let (entries, rest) ←
            match skipSpaces behind with
            | '\x7d' :: rest => some ([], rest)
            | rest => entries? fuel (depth + 1) rest
          return (← inlineTable? entries, rest)
      else
        match text with
        | 't' :: 'r' :: 'u' :: 'e' :: rest => some (.truth true, rest)
        | 'f' :: 'a' :: 'l' :: 's' :: 'e' :: rest => some (.truth false, rest)
        | _ => momentOrNumber? text

/-- The items of an array up to its end, among which lines may be broken. -/
def items? : (fuel depth : Nat) → List Char → Option (List Document × List Char)
  | 0, _, _ => none
  | fuel + 1, depth, text =>
    match skipFillers text with
    | ']' :: rest => some ([], rest)
    | start => do
      let (item, rest) ← value? fuel depth start
      match skipFillers rest with
      | ',' :: rest =>
        let (items, rest) ← items? fuel depth rest
        return (item :: items, rest)
      | ']' :: rest => return ([item], rest)
      | _ => none

/-- The entries of an inline table up to its end. -/
def entries? : (fuel depth : Nat) → List Char →
    Option (List (List String × Document) × List Char)
  | 0, _, _ => none
  | fuel + 1, depth, text => do
    let (path, rest) ← key? text
    match rest with
    | '=' :: rest =>
      let (document, rest) ← value? fuel depth (skipSpaces rest)
      match skipSpaces rest with
      | ',' :: rest =>
        let (entries, rest) ← entries? fuel depth rest
        return ((path, document) :: entries, rest)
      | '\x7d' :: rest => return ([(path, document)], rest)
      | _ => none
    | _ => none

end

/-- The tree so far and the header that the next lines belong to. -/
structure Progress where
  root : TomlNode
  header : List String

/-- A line with a header of a table or of an item of an array of tables. -/
def headerLine? (root : TomlNode) : List Char → Option (Progress × List Char)
  | '[' :: '[' :: rest => do
    let (header, rest) ← key? rest
    match rest with
    | ']' :: ']' :: rest => return (⟨← root.openItem header, header⟩, ← endOfLine? rest)
    | _ => none
  | '[' :: rest => do
    let (header, rest) ← key? rest
    match rest with
    | ']' :: rest => return (⟨← root.openTable header, header⟩, ← endOfLine? rest)
    | _ => none
  | _ => none

/-- A line with a key and its value. -/
def entryLine? (progress : Progress) (text : List Char) : Option (Progress × List Char) := do
  let (path, rest) ← key? text
  match rest with
  | '=' :: rest =>
    let (document, rest) ← value? (2 * rest.length + 2) 0 (skipSpaces rest)
    let root ← progress.root.define progress.header path document
    return ({ progress with root := root }, ← endOfLine? rest)
  | _ => none

/-- All lines.  Every step takes at least one character. -/
def lines? : (fuel : Nat) → Progress → List Char → Option TomlNode
  | 0, _, _ => none
  | fuel + 1, progress, text =>
    match skipSpaces text with
    | [] => some progress.root
    | '#' :: rest => do lines? fuel progress (← endOfLine? ('#' :: rest))
    | '[' :: rest => do
      let (progress, rest) ← headerLine? progress.root ('[' :: rest)
      lines? fuel progress rest
    | '\n' :: rest => lines? fuel progress rest
    | '\r' :: rest => do lines? fuel progress (← newline? ('\r' :: rest))
    | start => do
      let (progress, rest) ← entryLine? progress start
      lines? fuel progress rest

/-- The document of a file; a byte order mark before it does not count. -/
def parse? (text : List Char) : Option Document := do
  let text :=
    match text with
    | '\ufeff' :: rest => rest
    | rest => rest
  return (← lines? (text.length + 1) ⟨TomlNode.opened, []⟩ text).toDocument

end LogRelay.Toml
