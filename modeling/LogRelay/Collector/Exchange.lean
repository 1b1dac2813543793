import LogRelay.Collector.Link

/-!
# A link and its collector

What the calls of a link come to when one follows the other and it is known
when the collector listens and when it hangs up.
-/

namespace LogRelay

/-- The collector's side of the socket. -/
structure Collector where
  listening : Bool
  /-- The file of the socket is there. -/
  socketFile : Bool
  /-- The collector has closed the connection that the link holds. -/
  hungUp : Bool
  /-- How many bytes the connection takes before the collector reads again. -/
  room : Nat
  deriving DecidableEq, Repr

namespace Collector

/-- How many bytes a connection takes while nobody reads. -/
def capacity : Nat := 212992

/-- A collector that has not been started. -/
def absent : Collector :=
  ⟨false, false, false, capacity⟩

def listen (collector : Collector) : Collector :=
  { collector with listening := true, socketFile := true }

/-- The file of the socket stays. -/
def stop (collector : Collector) : Collector :=
  { collector with listening := false }

def remove (collector : Collector) : Collector :=
  { collector with listening := false, socketFile := false }

/-- Closes the connection; one that is opened later is open again. -/
def hangUp (collector : Collector) : Collector :=
  { collector with hungUp := true }

/-- Takes everything that has been written. -/
def read (collector : Collector) : Collector :=
  { collector with room := capacity }

/-- What an attempt to connect comes to. -/
def connect (collector : Collector) : LinkEvent × Collector :=
  if !collector.socketFile then (.connectFailed (.system 2), collector)
  else if !collector.listening then (.connectFailed (.system 111), collector)
  else (.connected, { collector with hungUp := false, room := capacity })

/-- What an attempt to write that many bytes comes to. -/
def accept (collector : Collector) (count : Nat) : LinkEvent × Collector :=
  if collector.hungUp then (.writeFailed (.system 32), collector)
  else if collector.room = 0 then (.writeTimedOut, collector)
  else
    let taken := min count collector.room
    (.wrote taken, { collector with room := collector.room - taken })

/-- What comes next for a call at that stage. -/
def reply (collector : Collector) : LinkStage → LinkEvent × Collector
  | .connecting _ => collector.connect
  | .writing _ left => collector.accept left.length
  | .closing => (.shut none, collector)

end Collector

structure Exchange where
  link : Link
  collector : Collector
  /-- How many calls there have been. -/
  calls : Nat

namespace Exchange

def create : Exchange :=
  ⟨Link.create, Collector.absent, 0⟩

/-- Goes on with the call that has the lock until it is over. -/
def proceed (settings : LinkSettings) : (fuel : Nat) → Exchange → Exchange
  | 0, exchange => exchange
  | fuel + 1, exchange =>
    match exchange.link.holder with
    | none => exchange
    | some (_, stage) =>
      let (event, collector) := exchange.collector.reply stage
      match exchange.link.step? settings event with
      | some link => proceed settings fuel { exchange with link := link, collector := collector }
      | none => exchange

/-- A call connects, writes what the connection takes and waits for the rest. -/
def replyBound : Nat := 3

/-- A call that nothing comes between.  The collector reads before it. -/
def call (settings : LinkSettings) (exchange : Exchange) (request : LinkRequest) : Exchange :=
  let number := exchange.calls
  match exchange.link.run? settings [.request number request, .enter number] with
  | some link =>
    proceed settings replyBound ⟨link, exchange.collector.read, number + 1⟩
  | none => exchange

/-- How the last call ended. -/
def lastResult? (exchange : Exchange) : Option (Except Error Unit) :=
  exchange.link.returns.getLast?.map (·.result)

end Exchange

end LogRelay
