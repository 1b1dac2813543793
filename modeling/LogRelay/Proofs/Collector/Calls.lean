import LogRelay.Collector.Link
import Mathlib.Data.List.Infix
import Mathlib.Data.List.Nodup
import Mathlib.Data.List.Perm.Basic

/-!
# The calls of a link

Each call waits, gets the lock and ends, once.  A connection that is given up
is never written on again, and the call that has the lock keeps the connection
if and only if it could send.
-/

namespace LogRelay

namespace LinkStage

/-- The message that a call at this stage is to send. -/
def message? : LinkStage → Option Message
  | connecting message | writing message _ => some message
  | closing => none

end LinkStage

namespace Link

variable {settings : LinkSettings} {link next : Link}

/-! ## What a step can do -/

/-- A call waits, begins, goes on or ends. -/
inductive Moves (settings : LinkSettings) (link : Link) : Link → Prop where
  | ask {call : Nat} {request : LinkRequest} (hnew : link.isKnown call = false) :
      Moves settings link { link with waiting := link.waiting ++ [(call, request)] }
  | beginWriting {call : Nat} {message : Message} (hfree : link.holder = none)
      (hwaits : link.waiting.lookup call = some (.send message))
      (hheld : link.isConnected = true) :
      Moves settings link { link with
        waiting := link.waiting.filter (·.1 ≠ call)
        holder := some (call, .writing message (Record.encode settings.identity message)) }
  | beginConnecting {call : Nat} {message : Message} (hfree : link.holder = none)
      (hwaits : link.waiting.lookup call = some (.send message))
      (hheld : link.isConnected = false) :
      Moves settings link { link with
        waiting := link.waiting.filter (·.1 ≠ call)
        holder := some (call, .connecting message) }
  | beginClosing {call : Nat} (hfree : link.holder = none)
      (hwaits : link.waiting.lookup call = some .close) (hheld : link.isConnected = true) :
      Moves settings link { link.drop with
        waiting := link.waiting.filter (·.1 ≠ call)
        holder := some (call, .closing) }
  | closeNothing {call : Nat} (hfree : link.holder = none)
      (hwaits : link.waiting.lookup call = some .close) (hheld : link.isConnected = false) :
      Moves settings link
        (Link.finish { link with waiting := link.waiting.filter (·.1 ≠ call) } call .close
          (.ok ()))
  | connect {call : Nat} {message : Message}
      (hholder : link.holder = some (call, .connecting message)) :
      Moves settings link { link with
        holder := some (call, .writing message (Record.encode settings.identity message))
        held := some [] }
  | failToConnect {call : Nat} {message : Message} {error : Error}
      (hholder : link.holder = some (call, .connecting message)) :
      Moves settings link (link.finish call (.send message) (.error error))
  | writePart {call : Nat} {message : Message} {part left stream : Bytes}
      (hholder : link.holder = some (call, .writing message (part ++ left)))
      (hheld : link.held = some stream) (hleft : left ≠ []) :
      Moves settings link { link with
        held := some (stream ++ part)
        holder := some (call, .writing message left) }
  | writeAll {call : Nat} {message : Message} {left stream : Bytes}
      (hholder : link.holder = some (call, .writing message left))
      (hheld : link.held = some stream) :
      Moves settings link
        (Link.finish { link with held := some (stream ++ left) } call (.send message) (.ok ()))
  | failToWrite {call : Nat} {message : Message} {left : Bytes} {error : Error}
      (hholder : link.holder = some (call, .writing message left)) :
      Moves settings link (link.drop.finish call (.send message) (.error error))
  | shut {call : Nat} {result : Except Error Unit}
      (hholder : link.holder = some (call, .closing)) :
      Moves settings link (link.finish call .close result)

/-- What a call does that gets the lock. -/
theorem moves_begin {call : Nat} {request : LinkRequest} (hfree : link.holder = none)
    (hwaits : link.waiting.lookup call = some request) :
    Moves settings link
      (Link.begin settings { link with waiting := link.waiting.filter (·.1 ≠ call) } call
        request) := by
  cases request with
  | send message =>
      unfold begin
      dsimp only
      split
      · next hheld => exact .beginWriting hfree hwaits hheld
      · next hheld => exact .beginConnecting hfree hwaits (Bool.eq_false_iff.mpr hheld)
  | close =>
      unfold begin
      dsimp only
      split
      · next hheld => exact .beginClosing hfree hwaits hheld
      · next hheld => exact .closeNothing hfree hwaits (Bool.eq_false_iff.mpr hheld)

theorem moves_of_step? {event : LinkEvent} (hstep : link.step? settings event = some next) :
    Moves settings link next := by
  cases event with
  | request call request =>
      simp only [step?] at hstep
      split at hstep
      · cases hstep
      · next hnew =>
          cases hstep
          exact .ask (Bool.eq_false_iff.mpr hnew)
  | enter call =>
      simp only [step?] at hstep
      split at hstep
      · next request hfree hwaits =>
          cases hstep
          exact moves_begin hfree hwaits
      · cases hstep
  | connected =>
      simp only [step?] at hstep
      split at hstep
      · next hholder =>
          cases hstep
          exact .connect hholder
      · cases hstep
  | connectFailed failure =>
      simp only [step?] at hstep
      split at hstep
      · next hholder =>
          cases hstep
          exact .failToConnect hholder
      · cases hstep
  | connectTimedOut =>
      simp only [step?] at hstep
      split at hstep
      · next hholder =>
          cases hstep
          exact .failToConnect hholder
      · cases hstep
  | wrote count =>
      simp only [step?] at hstep
      split at hstep
      · next call message left stream hholder hheld =>
          split at hstep
          · cases hstep
          · next hcount =>
              rw [not_or, Nat.not_lt] at hcount
              split at hstep
              · next hall =>
                  cases hstep
                  rw [hall, List.take_length]
                  exact .writeAll hholder hheld
              · next hpart =>
                  cases hstep
                  have hleft : left.drop count ≠ [] := by
                    rw [Ne, List.drop_eq_nil_iff]
                    omega
                  rw [← List.take_append_drop count left] at hholder
                  exact .writePart hholder hheld hleft
      · cases hstep
  | writeFailed failure =>
      simp only [step?] at hstep
      split at hstep
      · next hholder =>
          cases hstep
          exact .failToWrite hholder
      · cases hstep
  | writeTimedOut =>
      simp only [step?] at hstep
      split at hstep
      · next hholder =>
          cases hstep
          exact .failToWrite hholder
      · cases hstep
  | shut failure? =>
      simp only [step?] at hstep
      split at hstep
      · next hholder =>
          cases hstep
          exact .shut hholder
      · cases hstep

/-- What each step keeps is kept by all of them. -/
theorem run?_induction {motive : Link → Prop}
    (hstep : ∀ {link next : Link}, Moves settings link next → motive link → motive next)
    {events : List LinkEvent} (hrun : link.run? settings events = some next) (hlink : motive link) :
    motive next := by
  induction events generalizing link with
  | nil =>
      cases hrun
      exact hlink
  | cons event events ih =>
      rw [run?, List.foldlM_cons] at hrun
      obtain ⟨middle, hfirst, hrest⟩ := Option.bind_eq_some_iff.mp hrun
      exact ih hrest (hstep (moves_of_step? hfirst) hlink)

/-! ## Connections that are given up -/

theorem Moves.past_prefix (hmove : Moves settings link next) : link.past <+: next.past := by
  cases hmove with
  | beginClosing hfree hwaits hheld => exact ⟨link.held.toList, rfl⟩
  | failToWrite hholder => exact ⟨link.held.toList, rfl⟩
  | _ => exact List.prefix_rfl

/-- Nothing is written on a connection that is given up. -/
theorem past_prefix_of_run? {events : List LinkEvent}
    (hrun : link.run? settings events = some next) : link.past <+: next.past :=
  run?_induction (motive := fun later => link.past <+: later.past)
    (fun hmove hpast => hpast.trans hmove.past_prefix) hrun List.prefix_rfl

/-! ## The end of a send -/

/-- A send that ends leaves a connection behind if and only if it ended well. -/
theorem Moves.ends_send {call : Nat} {stage : LinkStage} {message : Message}
    (hmove : Moves settings link next) (hholder : link.holder = some (call, stage))
    (hstage : stage.message? = some message) (hfree : next.holder = none)
    (haway : stage = .connecting message → link.held = none) :
    ∃ result, next.returns = link.returns ++ [⟨call, .send message, result⟩] ∧
      (next.isConnected = true ↔ result = .ok ()) := by
  cases hmove with
  | ask hnew => exact absurd (hholder.symm.trans hfree) (by simp)
  | beginWriting hlock hwaits hheld | beginConnecting hlock hwaits hheld
  | beginClosing hlock hwaits hheld | closeNothing hlock hwaits hheld =>
      exact absurd (hholder.symm.trans hlock) (by simp)
  | connect hcaller | writePart hcaller hheld hleft => cases hfree
  | @failToConnect caller wanted error hcaller =>
      cases hholder.symm.trans hcaller
      cases hstage
      refine ⟨.error error, rfl, ?_⟩
      simp [isConnected, finish, haway rfl]
  | @writeAll caller wanted left stream hcaller hheld =>
      cases hholder.symm.trans hcaller
      cases hstage
      exact ⟨.ok (), rfl, by simp [isConnected, finish]⟩
  | @failToWrite caller wanted left error hcaller =>
      cases hholder.symm.trans hcaller
      cases hstage
      exact ⟨.error error, rfl, by simp [isConnected, finish, drop]⟩
  | shut hcaller =>
      cases hholder.symm.trans hcaller
      cases hstage

/-! ## Each call ends once -/

/-- The calls that wait, the one that has the lock, and those that are over. -/
def calls (link : Link) : List Nat :=
  link.waiting.map (·.1) ++ (link.holder.toList.map (·.1) ++ link.returns.map (·.call))

theorem notMem_calls_of_isKnown {call : Nat} (hnew : link.isKnown call = false) :
    call ∉ link.calls := by
  rw [isKnown, Bool.or_eq_false_iff, Bool.or_eq_false_iff] at hnew
  obtain ⟨⟨hwaiting, hholder⟩, hreturns⟩ := hnew
  rw [calls, List.mem_append, List.mem_append]
  rintro (hmem | hmem | hmem)
  all_goals obtain ⟨other, hother, hcall⟩ := List.mem_map.mp hmem
  · exact List.any_eq_false.mp hwaiting other hother (decide_eq_true hcall)
  · rw [Option.mem_toList.mp hother, Option.any_some] at hholder
    exact of_decide_eq_false hholder hcall
  · exact List.any_eq_false.mp hreturns other hother (decide_eq_true hcall)

/-- The call that gets the lock waits no longer. -/
theorem waiting_perm {call : Nat} {request : LinkRequest} (hnodup : link.calls.Nodup)
    (hwaits : link.waiting.lookup call = some request) :
    (link.waiting.map (·.1)).Perm
      (call :: (link.waiting.filter (·.1 ≠ call)).map (·.1)) := by
  have hmem : call ∈ link.waiting.map (·.1) := by
    obtain ⟨before, behind, hwaiting, -⟩ := List.lookup_eq_some_iff.mp hwaits
    rw [hwaiting]
    simp
  have hwaiting : (link.waiting.map (·.1)).Nodup := (List.nodup_append.mp hnodup).1
  have hfilter : (link.waiting.filter (·.1 ≠ call)).map (·.1) =
      (link.waiting.map (·.1)).erase call := by
    rw [hwaiting.erase_eq_filter, List.filter_map]
    congr 1
    apply List.filter_congr
    intro other _
    simp [bne, beq_eq_decide]
  rw [hfilter]
  exact List.perm_cons_erase hmem

/-- The call that gets the lock is the same call as before. -/
theorem calls_perm_of_lookup {call : Nat} {request : LinkRequest} (hnodup : link.calls.Nodup)
    (hfree : link.holder = none) (hwaits : link.waiting.lookup call = some request) :
    ((link.waiting.filter (·.1 ≠ call)).map (·.1) ++
      (call :: link.returns.map (·.call))).Perm link.calls := by
  have hcalls : link.calls = link.waiting.map (·.1) ++ link.returns.map (·.call) := by
    rw [calls, hfree]
    rfl
  rw [hcalls]
  exact List.perm_middle.trans ((waiting_perm hnodup hwaits).append_right _).symm

theorem calls_finish (link : Link) (call : Nat) (request : LinkRequest)
    (result : Except Error Unit) :
    (link.finish call request result).calls.Perm
      (link.waiting.map (·.1) ++ (call :: link.returns.map (·.call))) := by
  have hcalls : (link.finish call request result).calls =
      link.waiting.map (·.1) ++ (link.returns.map (·.call) ++ [call]) := by
    rw [calls, finish, List.map_append]
    rfl
  rw [hcalls]
  exact List.Perm.append_left _ (List.perm_append_singleton call _)

theorem calls_of_holder {call : Nat} {stage : LinkStage}
    (hholder : link.holder = some (call, stage)) :
    link.calls = link.waiting.map (·.1) ++ (call :: link.returns.map (·.call)) := by
  rw [calls, hholder]
  rfl

theorem Moves.calls_perm (hmove : Moves settings link next) (hnodup : link.calls.Nodup) :
    next.calls.Perm link.calls ∨
      ∃ call, call ∉ link.calls ∧ next.calls.Perm (call :: link.calls) := by
  cases hmove with
  | @ask call request hnew =>
      refine Or.inr ⟨call, notMem_calls_of_isKnown hnew, ?_⟩
      rw [calls, List.map_append, List.append_assoc]
      exact List.perm_middle
  | beginWriting hfree hwaits hheld | beginConnecting hfree hwaits hheld
  | beginClosing hfree hwaits hheld =>
      exact Or.inl (calls_perm_of_lookup hnodup hfree hwaits)
  | closeNothing hfree hwaits hheld =>
      exact Or.inl ((calls_finish _ _ _ _).trans (calls_perm_of_lookup hnodup hfree hwaits))
  | connect hholder =>
      rw [calls_of_holder hholder]
      exact Or.inl List.Perm.rfl
  | writePart hholder hheld hleft =>
      rw [calls_of_holder hholder]
      exact Or.inl List.Perm.rfl
  | failToConnect hholder | writeAll hholder hheld | failToWrite hholder | shut hholder =>
      rw [calls_of_holder hholder]
      exact Or.inl (calls_finish _ _ _ _)

theorem Moves.calls_nodup (hmove : Moves settings link next) (hnodup : link.calls.Nodup) :
    next.calls.Nodup := by
  rcases hmove.calls_perm hnodup with hperm | ⟨call, hnew, hperm⟩
  · exact hperm.nodup_iff.mpr hnodup
  · exact hperm.nodup_iff.mpr (List.nodup_cons.mpr ⟨hnew, hnodup⟩)

/-- No call ends twice. -/
theorem returns_nodup {events : List LinkEvent}
    (hrun : create.run? settings events = some link) :
    (link.returns.map (·.call)).Nodup := by
  have hnodup : link.calls.Nodup :=
    run?_induction (fun hmove hnodup => hmove.calls_nodup hnodup) hrun List.nodup_nil
  exact (List.nodup_append.mp (List.nodup_append.mp hnodup).2.1).2.1

end Link

end LogRelay
