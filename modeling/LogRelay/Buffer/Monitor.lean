import LogRelay.Buffer.Basic

/-!
# Waiting on the buffer

Several consumers may wait for a message.  A consumer registers first and looks
at the queue afterwards.  A producer wakes the consumer that registered first
or, if none waits, leaves one permit that the next registration takes up.
Closing wakes all of them.  Each step below is atomic, and the steps of
different tasks may come in any order; a consumer is given up only while it
waits, so never between its registration and its look at the queue.
-/

namespace LogRelay

/-- Why a registered consumer may go on: a producer chose it, the buffer was
closed, or it took up the permit. -/
inductive Signal where
  | chosen
  | broadcast
  | permit
  deriving DecidableEq, Repr

structure Consumer where
  name : Nat
  signal : Option Signal
  /-- Whether it has looked at the queue since it registered. -/
  looked : Bool
  deriving DecidableEq, Repr

structure Monitor where
  buffer : Buffer
  /-- The registered consumers, the first to register first. -/
  consumers : List Consumer
  permit : Bool
  /-- Wake-ups of one consumer that producers still owe. -/
  owedWakes : Nat
  /-- Wake-ups of all consumers that producers still owe. -/
  owedBroadcasts : Nat
  deriving DecidableEq, Repr, Inhabited

namespace Monitor

def create (capacity producers : Nat) : Monitor where
  buffer := Buffer.create capacity producers
  consumers := []
  permit := false
  owedWakes := 0
  owedBroadcasts := 0

def find? (monitor : Monitor) (name : Nat) : Option Consumer :=
  monitor.consumers.find? (·.name = name)

/-- Gives the signal to the first consumer that has none. -/
def choose : List Consumer → Option (List Consumer)
  | [] => none
  | consumer :: rest =>
    if consumer.signal.isNone then some ({ consumer with signal := some .chosen } :: rest)
    else (choose rest).map (consumer :: ·)

/-- Wakes one consumer, or leaves a permit. -/
def wakeOne (monitor : Monitor) : Monitor :=
  match choose monitor.consumers with
  | some consumers => { monitor with consumers := consumers }
  | none => { monitor with permit := true }

def wakeAll (monitor : Monitor) : Monitor :=
  { monitor with
    consumers := monitor.consumers.map fun consumer =>
      if consumer.signal.isNone then { consumer with signal := some .broadcast } else consumer }

def remove (monitor : Monitor) (name : Nat) : Monitor :=
  { monitor with consumers := monitor.consumers.filter (·.name ≠ name) }

/-- Takes a consumer off the list.  A wake-up that was meant for it alone goes
to the next one. -/
def leave (monitor : Monitor) (consumer : Consumer) : Monitor :=
  let monitor := monitor.remove consumer.name
  if consumer.signal = some .chosen then monitor.wakeOne else monitor

/-- Puts a consumer at the end of the list, where it takes up the permit. -/
def register (monitor : Monitor) (name : Nat) : Monitor :=
  let consumer : Consumer := ⟨name, if monitor.permit then some .permit else none, false⟩
  { monitor with consumers := monitor.consumers ++ [consumer], permit := false }

inductive Action where
  | offer (message : Message)
  | wake
  | close
  | broadcast
  | register (name : Nat)
  | look (name : Nat)
  | resume (name : Nat)
  | abandon (name : Nat)
  | flush
  deriving DecidableEq, Repr

inductive Event where
  | quiet
  | stored (message : Message)
  | refused (message : Message)
  | taken (name : Nat) (message : Message)
  | ended (name : Nat)
  | flushed (messages : List Message)
  deriving DecidableEq, Repr

def offer (monitor : Monitor) (message : Message) : Monitor × Event :=
  ({ monitor with
      buffer := monitor.buffer.enqueue message
      owedWakes := monitor.owedWakes + 1 },
    if monitor.buffer.accepts message then .stored message else .refused message)

/-- A producer finishes.  The one that closes the buffer owes a wake-up of all. -/
def close (monitor : Monitor) : Monitor :=
  let buffer := monitor.buffer.closeProducer
  let closes := buffer.closed && !monitor.buffer.closed
  { monitor with
    buffer := buffer
    owedBroadcasts := monitor.owedBroadcasts + if closes then 1 else 0 }

/-- A registered consumer looks at the queue: it leaves with a message or with
the news that there will be none, or it stays and waits. -/
def look (monitor : Monitor) (consumer : Consumer) : Monitor × Event :=
  match monitor.buffer.dequeue? with
  | some (message, buffer) =>
    (({ monitor with buffer := buffer }).leave consumer, .taken consumer.name message)
  | none =>
    if monitor.buffer.closed then (monitor.leave consumer, .ended consumer.name)
    else
      ({ monitor with
          consumers := monitor.consumers.map fun other =>
            if other.name = consumer.name then { other with looked := true } else other },
        .quiet)

/-- One atomic step, if it is possible. -/
def step? (monitor : Monitor) : Action → Option (Monitor × Event)
  | .offer message => some (monitor.offer message)
  | .wake =>
    if 0 < monitor.owedWakes then
      some (({ monitor with owedWakes := monitor.owedWakes - 1 }).wakeOne, .quiet)
    else none
  | .close => some (monitor.close, .quiet)
  | .broadcast =>
    if 0 < monitor.owedBroadcasts then
      some (({ monitor with owedBroadcasts := monitor.owedBroadcasts - 1 }).wakeAll, .quiet)
    else none
  | .register name =>
    if (monitor.find? name).isNone then some (monitor.register name, .quiet) else none
  | .look name =>
    match monitor.find? name with
    | some consumer => if consumer.looked then none else some (monitor.look consumer)
    | none => none
  | .resume name =>
    match monitor.find? name with
    | some consumer =>
      if consumer.looked ∧ consumer.signal.isSome then
        some ((monitor.remove name).register name, .quiet)
      else none
    | none => none
  | .abandon name =>
    match monitor.find? name with
    | some consumer => if consumer.looked then some (monitor.leave consumer, .quiet) else none
    | none => none
  | .flush =>
    some ({ monitor with buffer := monitor.buffer.flush }, .flushed monitor.buffer.messages)

/-- The steps one after the other, with their events. -/
def run? (monitor : Monitor) : List Action → Option (Monitor × List Event)
  | [] => some (monitor, [])
  | action :: rest => do
    let (monitor, event) ← monitor.step? action
    let (monitor, events) ← run? monitor rest
    return (monitor, event :: events)

end Monitor

end LogRelay
