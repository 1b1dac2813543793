import LogRelay.Buffer.Monitor

/-!
# Taking turns on the buffer

Operations that run to their end before the next one begins, made of the
atomic steps.
-/

namespace LogRelay.Monitor

/-- What a dequeue comes to: a message, or none once the buffer is closed. -/
abbrev Taken := Option Message

def takenOf? : Event → Option Taken
  | .taken _ message => some (some message)
  | .ended _ => some none
  | _ => none

/-- Lets a consumer go on until it leaves or has to wait.  Every resumption uses
up a signal, of which a consumer finds at most two: its own and the permit. -/
def pollFor : Nat → Monitor → Nat → Monitor × Option Taken
  | 0, monitor, _ => (monitor, none)
  | rounds + 1, monitor, name =>
    match monitor.find? name with
    | none => (monitor, none)
    | some consumer =>
      if !consumer.looked then
        let (monitor, event) := monitor.look consumer
        match takenOf? event with
        | some taken => (monitor, some taken)
        | none => pollFor rounds monitor name
      else if consumer.signal.isSome then pollFor rounds ((monitor.remove name).register name) name
      else (monitor, none)

def poll (monitor : Monitor) (name : Nat) : Monitor × Option Taken :=
  pollFor 6 monitor name

/-- Enqueues and wakes a consumer.  Also says whether the message was stored. -/
def put (monitor : Monitor) (message : Message) : Monitor × Bool :=
  let (offered, _) := monitor.offer message
  (({ offered with owedWakes := offered.owedWakes - 1 }).wakeOne,
    monitor.buffer.accepts message)

/-- Finishes a producer and wakes everyone if that closes the buffer. -/
def finishProducer (monitor : Monitor) : Monitor :=
  let closed := monitor.close
  if 0 < closed.owedBroadcasts then
    ({ closed with owedBroadcasts := closed.owedBroadcasts - 1 }).wakeAll
  else closed

/-- A dequeue that is given up if it would have to wait. -/
def tryTake (monitor : Monitor) (name : Nat) : Monitor × Option Taken :=
  match (monitor.register name).poll name with
  | (polled, some taken) => (polled, some taken)
  | (polled, none) =>
    match polled.find? name with
    | some consumer => (polled.leave consumer, none)
    | none => (polled, none)

def abandon (monitor : Monitor) (name : Nat) : Monitor :=
  match monitor.find? name with
  | some consumer => monitor.leave consumer
  | none => monitor

def takeAll (monitor : Monitor) : Monitor × List Message :=
  ({ monitor with buffer := monitor.buffer.flush }, monitor.buffer.messages)

/-- Polls the named consumers in turn; says who is done and who still waits. -/
def sweep (monitor : Monitor) : List Nat → Monitor × List (Nat × Taken) × List Nat
  | [] => (monitor, [], [])
  | name :: rest =>
    match monitor.poll name with
    | (polled, some taken) =>
      let (swept, finished, waiting) := sweep polled rest
      (swept, (name, taken) :: finished, waiting)
    | (polled, none) =>
      let (swept, finished, waiting) := sweep polled rest
      (swept, finished, name :: waiting)

def settleFor : Nat → Monitor → List Nat → Monitor × List (Nat × Taken) × List Nat
  | 0, monitor, names => (monitor, [], names)
  | rounds + 1, monitor, names =>
    match monitor.sweep names with
    | (swept, [], waiting) => (swept, [], waiting)
    | (swept, finished, waiting) =>
      let (settled, later, waiting) := settleFor rounds swept waiting
      (settled, finished ++ later, waiting)

/-- Sweeps until nobody can finish any more; every sweep but the last one takes
a consumer off the list. -/
def settle (monitor : Monitor) (names : List Nat) : Monitor × List (Nat × Taken) × List Nat :=
  settleFor (names.length + 1) monitor names

end LogRelay.Monitor
