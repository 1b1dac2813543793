import LogRelay.Proofs.Session.Results
import LogRelay.Proofs.Session.Returning

/-!
# Sessions whose deliveries cannot crash

Where the sink does not crash and the jitter of the policy is a number, a task
ends because of its pipe or because there is nothing left to do for it, whatever
the sink refuses.  This holds at every moment, in whatever order the tasks take
turns.
-/

namespace LogRelay.Session

variable {plan : Plan} {pipes : Source → Option PipeScript} {session next : Session}

/-- A session in which no delivery crashes, with the pipes that it was created with. -/
structure Safe (plan : Plan) (pipes : Source → Option PipeScript) (session : Session) : Prop where
  live : session.Live plan
  policy : session.KeepsPolicy plan
  careful : session.Careful
  explained : session.Explained plan pipes
  present : ∀ source, (session.reader? source).isSome = (pipes source).isSome
  stands : session.main ≠ .crashed

theorem safe_create (plan : Plan) (stdout stderr : Option PipeScript) {sink : SinkBehaviour}
    (hsink : sink.neverCrashes = true) :
    (create plan stdout stderr sink).Safe plan (pipesOf stdout stderr) where
  live := live_create plan stdout stderr sink
  policy := keepsPolicy_create plan stdout stderr sink
  careful := careful_create plan stdout stderr hsink
  explained := explained_create plan stdout stderr sink
  present source := by rw [reader?_create, Option.isSome_map]
  stands := MainStage.noConfusion

theorem Safe.deliversSafely (hsafe : session.Safe plan pipes)
    (hjitter : plan.options.retry.jitter.isNaN = false) : session.DeliversSafely plan :=
  fun _ _ hsends => hsafe.careful.not_crashes hsafe.policy hjitter hsends

/-- The main task crashes only with a delivery of its own. -/
theorem MainMove.stands (hdelivers : session.DeliversSafely plan)
    (hmove : session.MainMove plan session.main next) : next.main ≠ .crashed := by
  generalize hmain : session.main = stage at hmove
  cases hmove with
  | ready =>
      cases hready : plan.readyError <;> simp [Session.ready, hready, stop]
  | sendCrashes sending remaining sent hdue hsend =>
      exact absurd hsend (hdelivers sending sent (.main remaining hmain))
  | _ => exact MainStage.noConfusion

theorem Move.stands {event : SessionEvent} (hdelivers : session.DeliversSafely plan)
    (hstands : session.main ≠ .crashed) (hmove : session.Move plan event next) :
    next.main ≠ .crashed := by
  rcases hmove.main_cases with hmain | hmove
  · rw [hmain]
    exact hstands
  · exact hmove.stands hdelivers

theorem Safe.move {event : SessionEvent} (hready : plan.readyError = none)
    (hjitter : plan.options.retry.jitter.isNaN = false) (hsafe : session.Safe plan pipes)
    (hmove : session.Move plan event next) : next.Safe plan pipes where
  live := hsafe.live.move hmove
  policy := hsafe.policy.move hmove
  careful := hsafe.careful.move hmove
  explained := hsafe.explained.move hready (hsafe.deliversSafely hjitter) hmove
  present source := (hmove.reader?_isSome source).trans (hsafe.present source)
  stands := hmove.stands (hsafe.deliversSafely hjitter) hsafe.stands

/-- A session that is over has returned. -/
theorem Safe.exists_done (hsafe : session.Safe plan pipes) (hover : session.isOver = true) :
    ∃ result, session.main = .done result := by
  cases hmain : session.main with
  | done result => exact ⟨result, rfl⟩
  | crashed => exact absurd hmain hsafe.stands
  | _ => simp [isOver, hmain] at hover

theorem Safe.exists_reader {source : Source} {pipe : PipeScript} (hsafe : session.Safe plan pipes)
    (hpipe : pipes source = some pipe) : ∃ reader, session.reader? source = some reader := by
  apply Option.isSome_iff_exists.mp
  rw [hsafe.present source, hpipe]
  rfl

theorem hasPipe_of_reader {source : Source} {reader : Reader}
    (hreader : session.reader? source = some reader) : session.hasPipe = true := by
  rw [hasPipe, Bool.or_eq_true_iff]
  cases source with
  | stdout => exact Or.inl (Option.isSome_of_eq_some hreader)
  | stderr => exact Or.inr (Option.isSome_of_eq_some hreader)

theorem atWork_le_readersAtWork {source : Source} {reader : Reader}
    (hreader : session.reader? source = some reader) : reader.atWork ≤ session.readersAtWork := by
  rw [readersAtWork]
  cases source with
  | stdout =>
      have hstdout : session.stdout = some reader := hreader
      rw [hstdout]
      exact Nat.le_add_right _ _
  | stderr =>
      have hstderr : session.stderr = some reader := hreader
      rw [hstderr]
      exact Nat.le_add_left _ _

/-- When the main task of a session with pipes has returned, no task is at work, and
none waits to be joined. -/
theorem Live.settled {result : Except Error Unit} (hready : plan.readyError = none)
    (hlive : session.Live plan) (hdone : session.main = .done result)
    (hpipe : session.hasPipe = true) : session.atWork = 0 ∧ session.toJoin = [] := by
  have hcounted := (hlive.orderly hready).counted
  rw [Counted, ((hlive.concluded hdone).joined_of_ready hready hpipe).1] at hcounted
  have hzero := Nat.add_eq_zero_iff.mp hcounted.symm
  exact ⟨hzero.1, List.length_eq_zero_iff.mp hzero.2⟩

/-- When the main task has returned, every reader has ended. -/
theorem Live.exists_ended {source : Source} {reader : Reader} {result : Except Error Unit}
    (hready : plan.readyError = none) (hlive : session.Live plan)
    (hdone : session.main = .done result) (hreader : session.reader? source = some reader) :
    ∃ ended, reader.stage = .ended ended ∧ session.taskResult? (.reader source) = some ended := by
  have hidle := (hlive.settled hready hdone (hasPipe_of_reader hreader)).1
  rcases taskResult?_eq_of_reader hreader with ⟨-, hwork⟩ | ⟨hsome, -⟩
  · have hle := atWork_le_readersAtWork hreader
    rw [hwork] at hle
    rw [atWork] at hidle
    omega
  · obtain ⟨ended, hended⟩ := Option.isSome_iff_exists.mp hsome
    obtain ⟨found, hfound, hstage⟩ := taskResult?_reader hended
    obtain rfl : found = reader := Option.some.inj (hfound.symm.trans hreader)
    exact ⟨ended, hstage, hended⟩

end LogRelay.Session
