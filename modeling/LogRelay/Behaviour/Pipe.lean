import LogRelay.Framing.Framer

/-!
# How a pipe behaves

A pipe is described by what its reads will meet, one after the other.  After
the end of the description the pipe is at the end of its stream.
-/

namespace LogRelay

inductive PipeStep where
  /-- Bytes that are there; a read takes as many as it asked for.  No bytes at
  all are the end of the stream. -/
  | data (bytes : Bytes)
  | wait (ms : Nat)
  /-- A wait that has begun and is over at that time. -/
  | waitUntil (time : Nat)
  | fail (failure : Failure)
  /-- The session is cancelled, and the read goes on. -/
  | cancel
  | hang
  | crash
  deriving DecidableEq, Repr

abbrev PipeScript := List PipeStep

/-- What a look at the pipe comes to. -/
inductive PipeAnswer where
  | ready (result : ReadResult)
  | crashed
  /-- Nothing before that time, or never. -/
  | pending (until? : Option Nat)
  | cancels
  deriving DecidableEq, Repr

namespace PipeScript

/-- Bytes in pieces of the size, which is at least one; the last may be shorter. -/
def pieces (size : Nat) (bytes : Bytes) : List Bytes :=
  if bytes.isEmpty then []
  else bytes.take (max size 1) :: pieces size (bytes.drop (max size 1))
termination_by bytes.length
decreasing_by
  simp_all [List.isEmpty_iff]
  have := List.length_pos_iff.mpr ‹_›
  omega

/-- A file of that content.  It is read in pieces, and between two of them
there is time for everything else. -/
def ofContent (size : Nat) (content : Bytes) : PipeScript :=
  (pieces size content).flatMap fun piece => [.data piece, .wait 1]

/-- Looks at the pipe for `asked` bytes; also says what is left of the pipe.  A
wait that is over is passed by. -/
def look (clock asked : Nat) : PipeScript → PipeAnswer × PipeScript
  | [] => (.ready (.data []), [])
  | .data bytes :: rest =>
    (.ready (.data (bytes.take asked)),
      if bytes.length ≤ asked then rest else .data (bytes.drop asked) :: rest)
  | .wait ms :: rest =>
    if ms = 0 then look clock asked rest
    else (.pending (some (clock + ms)), .waitUntil (clock + ms) :: rest)
  | .waitUntil time :: rest =>
    if time ≤ clock then look clock asked rest
    else (.pending (some time), .waitUntil time :: rest)
  | .fail failure :: rest => (.ready (.failed failure), rest)
  | .cancel :: rest => (.cancels, rest)
  | .hang :: rest => (.pending none, .hang :: rest)
  | .crash :: rest => (.crashed, rest)

/-- Whether a look at the pipe changes nothing for now. -/
def isWaiting (clock : Nat) : PipeScript → Bool
  | .waitUntil time :: _ => clock < time
  | .hang :: _ => true
  | _ => false

end PipeScript

end LogRelay
