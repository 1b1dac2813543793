import LogRelay.Collector.Record
import LogRelay.Duration.Printer
import LogRelay.Error

/-!
# The link to the collector

A link writes records to a socket, on a connection that is opened when a record
is to be sent and none is held.  A lock lets one call at a time through.  After
a failed write the connection is given up, because a record may have been torn
on it; the next call opens another one.

The steps are atomic, and the calls of any number of tasks may be interleaved
in every way that is possible.
-/

namespace LogRelay

/-- What is fixed for a link. -/
structure LinkSettings where
  path : String
  identity : Identity
  connectTimeout : Duration
  writeTimeout : Duration
  deriving DecidableEq, Repr

inductive LinkRequest where
  | send (message : Message)
  | close
  deriving DecidableEq, Repr

/-- A call waits for the lock, or holds it while it connects, writes what is left
of a record, or shuts a connection down. -/
inductive LinkStage where
  | connecting (message : Message)
  | writing (message : Message) (left : Bytes)
  | closing
  deriving DecidableEq, Repr

/-- A call that is over: which one it was, what it asked for, how it ended. -/
structure LinkReturn where
  call : Nat
  request : LinkRequest
  result : Except Error Unit

structure Link where
  /-- The calls that wait for the lock. -/
  waiting : List (Nat × LinkRequest)
  /-- The call that has the lock. -/
  holder : Option (Nat × LinkStage)
  /-- What has been written on each connection that is no longer held, in the
  order in which they were opened. -/
  past : List Bytes
  /-- What has been written on the connection that is held. -/
  held : Option Bytes
  /-- The calls that are over, in order. -/
  returns : List LinkReturn

inductive LinkEvent where
  | request (call : Nat) (request : LinkRequest)
  /-- The lock passes to a call that waits for it. -/
  | enter (call : Nat)
  | connected
  | connectFailed (failure : Failure)
  | connectTimedOut
  /-- The connection takes that many bytes. -/
  | wrote (count : Nat)
  | writeFailed (failure : Failure)
  | writeTimedOut
  /-- The connection has been shut down, perhaps with a failure. -/
  | shut (failure? : Option Failure)
  deriving DecidableEq, Repr

namespace LinkSettings

/-- Connecting and writing may take the same time. -/
def withTimeout (path : String) (identity : Identity) (seconds : UInt64) : LinkSettings where
  path := path
  identity := identity
  connectTimeout := Duration.ofSeconds seconds
  writeTimeout := Duration.ofSeconds seconds

def standard (path : String) (identity : Identity) : LinkSettings :=
  withTimeout path identity 5

def connectError (settings : LinkSettings) (failure : Failure) : Error :=
  .connection ("Failed to connect to " ++ settings.path ++ ": " ++ failure.text)

def connectTimeoutError : Error :=
  .connection "Connection timeout"

def writeError (failure : Failure) : Error :=
  .sink ("Failed to write to collector: " ++ failure.text)

def writeTimeoutError (settings : LinkSettings) : Error :=
  .sink ("Write to collector timed out after " ++ settings.writeTimeout.text)

end LinkSettings

namespace Link

/-- No connection is held before the first call. -/
def create : Link :=
  ⟨[], none, [], none, []⟩

def isConnected (link : Link) : Bool :=
  link.held.isSome

/-- What has been written on each connection, in the order of their opening. -/
def streams (link : Link) : List Bytes :=
  link.past ++ link.held.toList

/-- The lines that the collector has got, on all connections. -/
def lines (link : Link) : List Bytes :=
  link.streams.flatMap Lines.complete

/-- The connection is held no longer. -/
def drop (link : Link) : Link :=
  { link with past := link.streams, held := none }

/-- The call that has the lock is over. -/
def finish (link : Link) (call : Nat) (request : LinkRequest) (result : Except Error Unit) :
    Link :=
  { link with holder := none, returns := link.returns ++ [⟨call, request, result⟩] }

def isKnown (link : Link) (call : Nat) : Bool :=
  link.waiting.any (·.1 = call) || link.holder.any (·.1 = call) ||
    link.returns.any (·.call = call)

/-- A call that gets the lock connects if it has to; a close without a
connection has nothing to do. -/
def begin (settings : LinkSettings) (link : Link) (call : Nat) : LinkRequest → Link
  | .send message =>
    if link.isConnected then
      { link with holder := some (call, .writing message (Record.encode settings.identity message)) }
    else { link with holder := some (call, .connecting message) }
  | .close =>
    if link.isConnected then { link.drop with holder := some (call, .closing) }
    else link.finish call .close (.ok ())

def step? (settings : LinkSettings) (link : Link) : LinkEvent → Option Link
  | .request call request =>
    if link.isKnown call then none
    else some { link with waiting := link.waiting ++ [(call, request)] }
  | .enter call =>
    match link.holder, link.waiting.lookup call with
    | none, some request =>
      let waiting := link.waiting.filter (·.1 ≠ call)
      some ({ link with waiting := waiting }.begin settings call request)
    | _, _ => none
  | .connected =>
    match link.holder with
    | some (call, .connecting message) =>
      some { link with
        holder := some (call, .writing message (Record.encode settings.identity message))
        held := some [] }
    | _ => none
  | .connectFailed failure =>
    match link.holder with
    | some (call, .connecting message) =>
      some (link.finish call (.send message) (.error (settings.connectError failure)))
    | _ => none
  | .connectTimedOut =>
    match link.holder with
    | some (call, .connecting message) =>
      some (link.finish call (.send message) (.error LinkSettings.connectTimeoutError))
    | _ => none
  | .wrote count =>
    match link.holder, link.held with
    | some (call, .writing message left), some stream =>
      if count = 0 ∨ left.length < count then none
      else
        let link := { link with held := some (stream ++ left.take count) }
        if count = left.length then some (link.finish call (.send message) (.ok ()))
        else some { link with holder := some (call, .writing message (left.drop count)) }
    | _, _ => none
  | .writeFailed failure =>
    match link.holder with
    | some (call, .writing message _) =>
      some (link.drop.finish call (.send message) (.error (LinkSettings.writeError failure)))
    | _ => none
  | .writeTimedOut =>
    match link.holder with
    | some (call, .writing message _) =>
      some (link.drop.finish call (.send message) (.error settings.writeTimeoutError))
    | _ => none
  | .shut failure? =>
    match link.holder with
    | some (call, .closing) =>
      let result :=
        match failure? with
        | none => .ok ()
        | some failure => .error (.io failure)
      some (link.finish call .close result)
    | _ => none

/-- The steps one after the other, if all are possible. -/
def run? (settings : LinkSettings) (link : Link) (events : List LinkEvent) : Option Link :=
  events.foldlM (step? settings) link

end Link

end LogRelay
