import LogRelay.Number.Binary64

/-!
# Documents

What a JSON text or a TOML file says, before it is read as settings.
-/

namespace LogRelay

inductive Document where
  | text (value : String)
  | integer (value : Int)
  | number (value : Binary64)
  | truth (value : Bool)
  | list (items : List Document)
  | table (entries : List (String × Document))
  /-- A date or a time.  Nothing is known in it when it is read as a table. -/
  | moment
  | null
  /-- A value that is well formed and means nothing, such as a text with half of
  a surrogate pair or a number beyond the greatest one. -/
  | meaningless
  deriving Repr, Inhabited

/-- Integers with a sign have 64 bits: they are below this, and not below its
negative. -/
def Document.signedLimit : Nat := 0x8000000000000000

end LogRelay
