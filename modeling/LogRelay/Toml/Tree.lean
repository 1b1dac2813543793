import LogRelay.Document

/-!
# Trees of tables

A TOML file builds a tree of tables line by line.  Some tables are defined by
their own header and some only by being passed through; those of the latter
kind may still be added to, under the rules below.
-/

namespace LogRelay

inductive TomlNode where
  /-- A value, which cannot be added to. -/
  | value (document : Document)
  /-- `passed` tables have only been passed through on the way to another one,
  by a dotted key if `dotted`. -/
  | table (passed dotted : Bool) (entries : List (String × TomlNode))
  /-- An array of tables; what is added goes to the last one. -/
  | tables (items : List TomlNode)
  deriving Repr, Inhabited

namespace TomlNode

/-- The root, or a table that its header has just opened. -/
def opened : TomlNode := .table false false []

/-- Puts a node in the place of the one with that key, or at the end. -/
def put (key : String) (node : TomlNode) : List (String × TomlNode) → List (String × TomlNode)
  | [] => [(key, node)]
  | (other, old) :: rest => if other = key then (key, node) :: rest else (other, old) :: put key node rest

/-- Changes the entries of the table at the end of a path.  Tables that are
missing on the way are created.  A dotted key may not enter a table that has
been defined already. -/
def change (dotted : Bool) (edit : TomlNode → Option TomlNode) :
    List String → TomlNode → Option TomlNode
  | [], node => edit node
  | key :: path, .table passed wasDotted entries => do
    let child ←
      match entries.lookup key with
      | none => change dotted edit path (.table true dotted [])
      | some (.value _) => none
      | some (.tables items) => do
        let last ← change dotted edit path (← items.getLast?)
        some (.tables (items.dropLast ++ [last]))
      | some (.table childPassed childDotted childEntries) =>
        if dotted && !childPassed then none
        else change dotted edit path (.table childPassed childDotted childEntries)
    return .table passed wasDotted (put key child entries)
  | _ :: _, _ => none

/-- Adds a value under a key that is new to the table.  Behind a dotted key the
table has to be one that dotted keys have made. -/
def addValue (isDottedKey : Bool) (key : String) (document : Document) : TomlNode → Option TomlNode
  | .table passed dotted entries =>
    if dotted ≠ isDottedKey ∨ (entries.lookup key).isSome then none
    else some (.table passed dotted (put key (.value document) entries))
  | _ => none

/-- Adds `path = document` below the table with the header `header`. -/
def define (header path : List String) (document : Document) (root : TomlNode) :
    Option TomlNode := do
  let key ← path.getLast?
  let parents := path.dropLast
  let add := change true (addValue (!parents.isEmpty) key document) parents
  change false add header root

/-- Opens the table of a header.  Only a table that other headers have passed
through may exist already. -/
def openTable (header : List String) (root : TomlNode) : Option TomlNode := do
  let key ← header.getLast?
  let edit : TomlNode → Option TomlNode
    | .table passed dotted entries =>
      match entries.lookup key with
      | none => some (.table passed dotted (put key opened entries))
      | some (.table true false inner) =>
        some (.table passed dotted (put key (.table false false inner) entries))
      | some _ => none
    | _ => none
  change false edit header.dropLast root

/-- Opens one more table of the array of a header. -/
def openItem (header : List String) (root : TomlNode) : Option TomlNode := do
  let key ← header.getLast?
  let edit : TomlNode → Option TomlNode
    | .table passed dotted entries =>
      match entries.lookup key with
      | none => some (.table passed dotted (put key (.tables [opened]) entries))
      | some (.tables items) =>
        some (.table passed dotted (put key (.tables (items ++ [opened])) entries))
      | some _ => none
    | _ => none
  change false edit header.dropLast root

mutual

def toDocument : TomlNode → Document
  | .value document => document
  | .table _ _ entries => .table (entryDocuments entries)
  | .tables items => .list (itemDocuments items)

def itemDocuments : List TomlNode → List Document
  | [] => []
  | item :: rest => item.toDocument :: itemDocuments rest

def entryDocuments : List (String × TomlNode) → List (String × Document)
  | [] => []
  | entry :: rest => entryDocument entry :: entryDocuments rest

def entryDocument : String × TomlNode → String × Document
  | (key, node) => (key, node.toDocument)

end

end TomlNode

end LogRelay
