/-!
# Delivery modes

How messages travel from the readers to the sink.
-/

namespace LogRelay

inductive Mode where
  /-- Readers deliver each message themselves and wait for the sink. -/
  | blocking
  /-- Readers put messages into a buffer and never wait for the sink. -/
  | nonBlocking
  deriving DecidableEq, Repr

namespace Mode

instance : Inhabited Mode := ⟨blocking⟩

def name : Mode → String
  | blocking => "blocking"
  | nonBlocking => "non-blocking"

def ofName? (name : String) : Option Mode :=
  if name = "blocking" then some blocking
  else if name = "non-blocking" then some nonBlocking
  else none

end Mode

end LogRelay
