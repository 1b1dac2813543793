import LogRelay.Proofs.Collector.Calls
import LogRelay.Proofs.Collector.Records
import Mathlib.Data.List.Forall2

/-!
# What is written on the connections

A connection carries whole records and at most a part of one more, and only the
last thing written on it can be a part: a call that could not write its record
to the end gives the connection up.  The whole records on all connections are
those of the calls that ended well, in the order in which they ended.
-/

namespace LogRelay

namespace Record

variable {identity : Identity}

/-- The records of the messages, one behind the other. -/
def encodeAll (identity : Identity) (messages : List Message) : Bytes :=
  messages.flatMap (encode identity)

theorem encodeAll_append (identity : Identity) (before behind : List Message) :
    encodeAll identity (before ++ behind) =
      encodeAll identity before ++ encodeAll identity behind :=
  List.flatMap_append

theorem encodeAll_concat (identity : Identity) (messages : List Message) (message : Message) :
    encodeAll identity (messages ++ [message]) =
      encodeAll identity messages ++ encode identity message := by
  rw [encodeAll_append, encodeAll, encodeAll, List.flatMap_singleton]

/-- A part of the record that is not the whole of it. -/
def IsTornFrom (identity : Identity) (message : Message) (torn : Bytes) : Prop :=
  torn <+: encode identity message ∧ torn ≠ encode identity message

theorem isTornFrom_of_append {message : Message} {written left : Bytes}
    (hrecord : written ++ left = encode identity message) (hleft : left ≠ []) :
    IsTornFrom identity message written := by
  refine ⟨⟨left, hrecord⟩, fun hwhole => hleft ?_⟩
  rw [← hwhole] at hrecord
  exact List.append_right_eq_self.mp hrecord

/-- The only newline of a record is its last byte. -/
theorem newline_notMem_of_isTornFrom {message : Message} {torn : Bytes}
    (htorn : IsTornFrom identity message torn) : newline ∉ torn := by
  have hline : torn <+: line identity message := by
    rcases List.prefix_concat_iff.mp htorn.1 with hwhole | hline
    · exact absurd hwhole htorn.2
    · exact hline
  exact fun hmem => newline_notMem_line identity message (hline.mem hmem)

/-- What comes behind whole records has no part in their lines. -/
theorem complete_encodeAll_append (identity : Identity) (messages : List Message)
    {rest : Bytes} (hrest : newline ∉ rest) :
    Lines.complete (encodeAll identity messages ++ rest) = messages.map (line identity) := by
  induction messages with
  | nil => exact Lines.complete_eq_nil hrest
  | cons message messages ih =>
      rw [encodeAll, List.flatMap_cons, ← encodeAll, encode_eq, List.append_assoc,
        List.append_assoc, List.singleton_append,
        Lines.complete_append_newline (newline_notMem_line identity message), ih, List.map_cons]

end Record

namespace LinkReturn

/-- The message of a send that ended well. -/
def accepted? (ended : LinkReturn) : Option Message :=
  match ended.request, ended.result with
  | .send message, .ok () => some message
  | _, _ => none

end LinkReturn

namespace Link

variable {settings : LinkSettings} {identity : Identity} {link next : Link}

/-- The messages whose sends ended well, in the order in which they ended. -/
def accepted (link : Link) : List Message :=
  link.returns.filterMap LinkReturn.accepted?

/-- The records of the messages and perhaps a part of one more. -/
def Carries (identity : Identity) (messages : List Message) (stream : Bytes) : Prop :=
  ∃ message torn, stream = Record.encodeAll identity messages ++ torn ∧
    Record.IsTornFrom identity message torn

theorem carries_encodeAll (identity : Identity) (messages : List Message) :
    Carries identity messages (Record.encodeAll identity messages) := by
  have hnothing : Record.IsTornFrom identity default [] :=
    ⟨List.nil_prefix, fun hempty => Record.encode_ne_nil identity default hempty.symm⟩
  exact ⟨default, [], (List.append_nil _).symm, hnothing⟩

/-- What the held connection carries at each stage of the call that has the lock. -/
def HeldCarries (identity : Identity) (messages : List Message) :
    Option LinkStage → Option Bytes → Prop
  | none, some stream => stream = Record.encodeAll identity messages
  | some (.writing message left), some stream =>
    ∃ written, stream = Record.encodeAll identity messages ++ written ∧
      written ++ left = Record.encode identity message ∧ left ≠ []
  | none, none | some (.connecting _), none | some .closing, none => messages = []
  | _, _ => False

theorem HeldCarries.carries {messages : List Message} {stage : Option LinkStage} {stream : Bytes}
    (hheld : HeldCarries identity messages stage (some stream)) :
    Carries identity messages stream := by
  match stage, hheld with
  | none, hstream =>
      rw [hstream]
      exact carries_encodeAll identity messages
  | some (.writing message left), ⟨written, hstream, hrecord, hleft⟩ =>
      exact ⟨message, written, hstream, Record.isTornFrom_of_append hrecord hleft⟩

theorem HeldCarries.eq_nil {messages : List Message} {stage : Option LinkStage}
    (hheld : HeldCarries identity messages stage none) : messages = [] := by
  match stage, hheld with
  | none, hmessages | some (.connecting _), hmessages | some .closing, hmessages => exact hmessages

theorem HeldCarries.of_connecting {messages : List Message} {message : Message}
    {held : Option Bytes} (hheld : HeldCarries identity messages (some (.connecting message)) held) :
    held = none ∧ messages = [] := by
  match held, hheld with
  | none, hmessages => exact ⟨rfl, hmessages⟩

theorem HeldCarries.of_closing {messages : List Message} {held : Option Bytes}
    (hheld : HeldCarries identity messages (some .closing) held) :
    held = none ∧ messages = [] := by
  match held, hheld with
  | none, hmessages => exact ⟨rfl, hmessages⟩

theorem HeldCarries.exists_of_writing {messages : List Message} {message : Message} {left : Bytes}
    {held : Option Bytes}
    (hheld : HeldCarries identity messages (some (.writing message left)) held) :
    ∃ stream, held = some stream := by
  match held, hheld with
  | some stream, _ => exact ⟨stream, rfl⟩

/-- The connections that are given up carry the groups of messages, the held one
carries the last messages, and together these are the messages that were sent. -/
structure Aligned (identity : Identity) (link : Link) (groups : List (List Message))
    (last : List Message) : Prop where
  past : List.Forall₂ (Carries identity) groups link.past
  held : HeldCarries identity last (link.holder.map (·.2)) link.held
  accepted : groups.flatten ++ last = link.accepted

theorem accepted_finish_error (link : Link) (call : Nat) (request : LinkRequest) (error : Error) :
    (link.finish call request (.error error)).accepted = link.accepted := by
  rw [accepted, finish, List.filterMap_append, accepted]
  cases request <;> simp [LinkReturn.accepted?]

theorem accepted_finish_close (link : Link) (call : Nat) (result : Except Error Unit) :
    (link.finish call .close result).accepted = link.accepted := by
  rw [accepted, finish, List.filterMap_append, accepted]
  simp [LinkReturn.accepted?]

theorem accepted_finish_send (link : Link) (call : Nat) (message : Message) :
    (link.finish call (.send message) (.ok ())).accepted = link.accepted ++ [message] := by
  rw [accepted, finish, List.filterMap_append, accepted]
  rfl

namespace Aligned

variable {groups : List (List Message)} {last : List Message}

theorem create (identity : Identity) : Aligned identity Link.create [] [] :=
  ⟨.nil, rfl, rfl⟩

/-- A connection that is given up takes its messages with it. -/
theorem drop {stream : Bytes} (haligned : Aligned identity link groups last)
    (hheld : link.held = some stream) :
    List.Forall₂ (Carries identity) (groups ++ [last]) link.drop.past := by
  have hcarries := haligned.held
  rw [hheld] at hcarries
  have hstreams : link.drop.past = link.past ++ [stream] := by
    rw [Link.drop, streams, hheld]
    rfl
  rw [hstreams]
  exact List.rel_append haligned.past (.cons hcarries.carries .nil)

theorem accepted_drop (haligned : Aligned identity link groups last) :
    (groups ++ [last]).flatten ++ [] = link.accepted := by
  rw [List.append_nil, List.flatten_append, List.flatten_singleton]
  exact haligned.accepted

theorem move (haligned : Aligned settings.identity link groups last)
    (hmove : Moves settings link next) :
    ∃ groups last, Aligned settings.identity next groups last := by
  have ⟨hpast, hheld, haccepted⟩ := haligned
  cases hmove with
  | ask hnew => exact ⟨groups, last, hpast, hheld, haccepted⟩
  | @beginWriting call message hfree hwaits hconnected =>
      obtain ⟨stream, hstream⟩ := Option.isSome_iff_exists.mp hconnected
      rw [hfree, hstream] at hheld
      refine ⟨groups, last, hpast, ?_, haccepted⟩
      rw [hstream]
      exact ⟨[], hheld.trans (List.append_nil _).symm, List.nil_append _,
        Record.encode_ne_nil _ _⟩
  | beginConnecting hfree hwaits hconnected =>
      have hstream : link.held = none := by simpa [isConnected] using hconnected
      rw [hfree, hstream] at hheld
      refine ⟨groups, last, hpast, ?_, haccepted⟩
      rw [hstream]
      exact hheld
  | beginClosing hfree hwaits hconnected =>
      obtain ⟨stream, hstream⟩ := Option.isSome_iff_exists.mp hconnected
      exact ⟨groups ++ [last], [], haligned.drop hstream, rfl, haligned.accepted_drop⟩
  | closeNothing hfree hwaits hconnected =>
      have hstream : link.held = none := by simpa [isConnected] using hconnected
      rw [hfree, hstream] at hheld
      refine ⟨groups, last, hpast, ?_, ?_⟩
      · rw [finish, hstream]
        exact hheld
      · rw [accepted_finish_close]
        exact haccepted
  | @connect call message hholder =>
      rw [hholder] at hheld
      obtain ⟨hstream, rfl⟩ := hheld.of_connecting
      exact ⟨groups, [], hpast, ⟨[], rfl, List.nil_append _, Record.encode_ne_nil _ _⟩, haccepted⟩
  | failToConnect hholder =>
      rw [hholder] at hheld
      obtain ⟨hstream, rfl⟩ := hheld.of_connecting
      refine ⟨groups, [], hpast, ?_, ?_⟩
      · rw [finish, hstream]
        rfl
      · rw [accepted_finish_error]
        exact haccepted
  | @writePart call message part left stream hholder hstream hleft =>
      rw [hholder, hstream] at hheld
      obtain ⟨written, rfl, hrecord, -⟩ := hheld
      refine ⟨groups, last, hpast, ⟨written ++ part, ?_, ?_, hleft⟩, haccepted⟩
      · exact List.append_assoc _ _ _
      · rw [List.append_assoc]
        exact hrecord
  | @writeAll call message left stream hholder hstream =>
      rw [hholder, hstream] at hheld
      obtain ⟨written, rfl, hrecord, -⟩ := hheld
      refine ⟨groups, last ++ [message], hpast, ?_, ?_⟩
      · show _ ++ written ++ left = Record.encodeAll settings.identity (last ++ [message])
        rw [Record.encodeAll_concat, List.append_assoc, hrecord]
      · rw [accepted_finish_send, ← List.append_assoc, haccepted]
        rfl
  | @failToWrite call message left error hholder =>
      rw [hholder] at hheld
      obtain ⟨stream, hstream⟩ := hheld.exists_of_writing
      refine ⟨groups ++ [last], [], haligned.drop hstream, rfl, ?_⟩
      rw [accepted_finish_error]
      exact haligned.accepted_drop
  | @shut call result hholder =>
      rw [hholder] at hheld
      obtain ⟨hstream, rfl⟩ := hheld.of_closing
      refine ⟨groups, [], hpast, ?_, ?_⟩
      · rw [finish, hstream]
        rfl
      · rw [accepted_finish_close]
        exact haccepted

/-- The connections that there have been, and what each of them carries whole. -/
theorem exists_groups (haligned : Aligned identity link groups last) :
    ∃ all, List.Forall₂ (Carries identity) all link.streams ∧ all.flatten = link.accepted := by
  cases hstream : link.held with
  | none =>
      have hheld := haligned.held
      rw [hstream] at hheld
      have haccepted := haligned.accepted
      rw [hheld.eq_nil, List.append_nil] at haccepted
      refine ⟨groups, ?_, haccepted⟩
      rw [streams, hstream, Option.toList_none, List.append_nil]
      exact haligned.past
  | some stream =>
      have haccepted := haligned.accepted_drop
      rw [List.append_nil] at haccepted
      exact ⟨groups ++ [last], haligned.drop hstream, haccepted⟩

end Aligned

theorem exists_aligned {events : List LinkEvent}
    (hrun : create.run? settings events = some link) :
    ∃ groups last, Aligned settings.identity link groups last :=
  run?_induction
    (motive := fun link => ∃ groups last, Aligned settings.identity link groups last)
    (fun hmove ⟨_, _, haligned⟩ => haligned.move hmove) hrun
    ⟨[], [], Aligned.create settings.identity⟩

/-- The lines that the collector gets are those of the records that are whole. -/
theorem complete_of_carries {messages : List Message} {stream : Bytes}
    (hcarries : Carries identity messages stream) :
    Lines.complete stream = messages.map (Record.line identity) := by
  obtain ⟨message, torn, rfl, htorn⟩ := hcarries
  exact Record.complete_encodeAll_append identity messages
    (Record.newline_notMem_of_isTornFrom htorn)

theorem flatMap_complete {groups : List (List Message)} {streams : List Bytes}
    (hcarries : List.Forall₂ (Carries identity) groups streams) :
    streams.flatMap Lines.complete = groups.flatten.map (Record.line identity) := by
  induction hcarries with
  | nil => rfl
  | cons hfirst hrest ih =>
      rw [List.flatMap_cons, complete_of_carries hfirst, ih, List.flatten_cons, List.map_append]

/-- Whatever the calls do and the collector does: each connection carries whole
records and at most a part of one more, which is the last thing on it.  The
whole records on all connections are those of the sends that ended well, and
the collector gets the line of each of them once.  A send that ends keeps the
connection if and only if it ended well. -/
theorem streams_carry_accepted {events : List LinkEvent}
    (hrun : create.run? settings events = some link) :
    (∃ groups, List.Forall₂ (Carries settings.identity) groups link.streams ∧
      groups.flatten = link.accepted) ∧
    link.lines = link.accepted.map (Record.line settings.identity) ∧
    (link.returns.map (·.call)).Nodup ∧
    (link.holder = none → ∀ stream, link.held = some stream →
      ∃ messages, stream = Record.encodeAll settings.identity messages) ∧
    (∀ later next, link.run? settings later = some next → link.past <+: next.past) ∧
    (∀ event next call stage message, link.step? settings event = some next →
      link.holder = some (call, stage) → stage.message? = some message → next.holder = none →
      ∃ result, next.returns = link.returns ++ [⟨call, .send message, result⟩] ∧
        (next.isConnected = true ↔ result = .ok ())) := by
  obtain ⟨groups, last, haligned⟩ := exists_aligned hrun
  obtain ⟨all, hcarries, haccepted⟩ := haligned.exists_groups
  refine ⟨⟨all, hcarries, haccepted⟩, ?_, returns_nodup hrun, ?_, ?_, ?_⟩
  · rw [lines, flatMap_complete hcarries, haccepted]
  · intro hfree stream hstream
    have hheld := haligned.held
    rw [hfree, hstream] at hheld
    exact ⟨last, hheld⟩
  · intro later next hlater
    exact past_prefix_of_run? hlater
  · intro event next call stage message hstep hholder hstage hfree
    apply (moves_of_step? hstep).ends_send hholder hstage hfree
    intro hconnecting
    have hheld := haligned.held
    rw [hholder, hconnecting] at hheld
    exact hheld.of_connecting.1

/-- Two tasks send and one closes; the first record is torn by a timeout. -/
def tornThenWhole : List LinkEvent :=
  [.request 0 (.send default), .request 1 (.send default), .enter 0, .connected, .wrote 5,
    .writeTimedOut, .request 2 .close, .enter 1, .connected, .wrote 7, .wrote 100, .enter 2,
    .shut none]

theorem streams_carry_accepted_of_torn_write :
    ∃ link, create.run? (LinkSettings.standard "log.sock" default) tornThenWhole = some link ∧
      link.streams.map List.length = [5, 107] ∧ (Record.encode default default).length = 107 ∧
      link.isConnected = false ∧ link.accepted = [default] ∧
      link.lines = [Record.line default default] ∧ (link.returns.map (·.call)).Nodup := by
  have hview : (create.run? (LinkSettings.standard "log.sock" default) tornThenWhole).map
      (fun link => (link.streams.map List.length, link.isConnected, link.accepted)) =
      some ([5, 107], false, [default]) := by
    decide +kernel
  obtain ⟨link, hrun, heq⟩ := Option.map_eq_some_iff.mp hview
  rw [Prod.mk.injEq, Prod.mk.injEq] at heq
  obtain ⟨hstreams, hconnected, haccepted⟩ := heq
  obtain ⟨-, hlines, hnodup, -⟩ := streams_carry_accepted hrun
  rw [haccepted] at hlines
  exact ⟨link, hrun, hstreams, by decide +kernel, hconnected, haccepted, hlines, hnodup⟩

end Link

end LogRelay
