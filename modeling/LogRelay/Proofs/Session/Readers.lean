import LogRelay.Proofs.Session.Moves

/-!
# What a step makes of a reader

Whatever the step of a session is, it leaves a reader as it was or it is one of
the steps below: one of the reader's own, or its end when the session is not
ready.  What is kept by these is true of every reader throughout every run.
-/

namespace LogRelay

/-- The reader ends where it stands, unless it has ended before. -/
def Reader.abort (reader : Reader) : Reader :=
  match reader.stage with
  | .ended _ => reader
  | _ => { reader with stage := .ended .aborted }

theorem Reader.pipe_abort (reader : Reader) : reader.abort.pipe = reader.pipe := by
  rw [abort]
  split <;> rfl

/-- What a step of the session makes of the reader of a source. -/
inductive Reader.Step (plan : Plan) (source : Source) (session : Session) (reader : Reader) :
    Reader → Prop where
  | offers (message : Message) (framer : Framer) (hstage : reader.stage = .asking)
      (hdemand : reader.framer.demand session.cancelled = .message message framer)
      (hbuffer : session.buffer.isSome = true) :
      Step plan source session reader { reader with framer := framer, stage := .asking }
  | hands (message : Message) (framer : Framer) (hstage : reader.stage = .asking)
      (hdemand : reader.framer.demand session.cancelled = .message message framer)
      (hbuffer : session.buffer = none) :
      Step plan source session reader
        { reader with
          framer := framer
          stage := .sending ((session.note (.framed message)).hand plan message).2 }
  | finishes (hstage : reader.stage = .asking)
      (hdemand : reader.framer.demand session.cancelled = .finished) :
      Step plan source session reader { reader with stage := .ended .finished }
  | begins (asked : Nat) (hstage : reader.stage = .asking)
      (hdemand : reader.framer.demand session.cancelled = .read asked) :
      Step plan source session reader { reader with stage := .reading asked false }
  | leaves (asked : Nat) (hstage : reader.stage = .reading asked false)
      (hcancelled : session.cancelled = true) :
      Step plan source session reader { reader with stage := .ended .finished }
  | brings (asked : Nat) (looking : Bool) (bytes : Bytes) (pipe : PipeScript)
      (hstage : reader.stage = .reading asked looking)
      (hlook : reader.pipe.look session.clock asked = (.ready (.data bytes), pipe)) :
      Step plan source session reader
        { framer := (reader.framer.receive (plan.runIds source)
            (plan.timeOfDay session.clock) bytes).1
          pipe := pipe
          stage := .asking }
  | startsAgain (asked : Nat) (looking : Bool) (failure : Failure) (pipe : PipeScript)
      (hstage : reader.stage = .reading asked looking)
      (hlook : reader.pipe.look session.clock asked = (.ready (.failed failure), pipe))
      (hfailure : failure.isInterruption = true) :
      Step plan source session reader { reader with pipe := pipe, stage := .asking }
  | fails (asked : Nat) (looking : Bool) (failure : Failure) (pipe : PipeScript)
      (hstage : reader.stage = .reading asked looking)
      (hlook : reader.pipe.look session.clock asked = (.ready (.failed failure), pipe))
      (hfailure : failure.isInterruption = false) :
      Step plan source session reader
        { reader with pipe := pipe, stage := .ended (.failed (.read source failure)) }
  | crashes (asked : Nat) (looking : Bool) (pipe : PipeScript)
      (hstage : reader.stage = .reading asked looking)
      (hlook : reader.pipe.look session.clock asked = (.crashed, pipe)) :
      Step plan source session reader { reader with pipe := pipe, stage := .ended .crashed }
  | cancels (asked : Nat) (looking : Bool) (pipe : PipeScript)
      (hstage : reader.stage = .reading asked looking)
      (hlook : reader.pipe.look session.clock asked = (.cancels, pipe)) :
      Step plan source session reader { reader with pipe := pipe, stage := .reading asked true }
  | waits (asked : Nat) (looking : Bool) (until? : Option Nat) (pipe : PipeScript)
      (hstage : reader.stage = .reading asked looking)
      (hlook : reader.pipe.look session.clock asked = (.pending until?, pipe)) :
      Step plan source session reader { reader with pipe := pipe, stage := .reading asked false }
  | sendGoesOn (sending later : Sending) (next : Session) (hstage : reader.stage = .sending sending)
      (hsend : session.SendMove plan sending next (.goesOn later)) :
      Step plan source session reader { reader with stage := .sending later }
  | sendOver (sending : Sending) (next : Session) (hstage : reader.stage = .sending sending)
      (hsend : session.SendMove plan sending next .done) :
      Step plan source session reader { reader with stage := .asking }
  | sendCrashes (sending : Sending) (next : Session) (hstage : reader.stage = .sending sending)
      (hsend : session.SendMove plan sending next .crashed) :
      Step plan source session reader { reader with stage := .ended .crashed }
  | aborts (hready : plan.readyError.isSome = true) :
      Step plan source session reader reader.abort

namespace Session

variable {plan : Plan} {session next : Session} {source : Source}

theorem ReaderMove.reader_step {reader : Reader}
    (hmove : session.ReaderMove plan source reader next) :
    ∃ after, reader.Step plan source session after ∧
      ∀ other, next.reader? other =
        if other = source then some after else session.reader? other := by
  cases hmove with
  | offers message framer buffer hstage hdemand hbuffer =>
      refine ⟨_, .offers message framer hstage hdemand (by rw [hbuffer]; rfl), fun other => ?_⟩
      simp [reader?_setReader]
      rfl
  | hands message framer hstage hdemand hbuffer =>
      refine ⟨_, .hands message framer hstage hdemand hbuffer, fun other => ?_⟩
      simp [reader?_setReader]
      rfl
  | finishes hstage hdemand =>
      exact ⟨_, .finishes hstage hdemand, fun other => reader?_endReader _ _ _ _ _⟩
  | begins asked hstage hdemand =>
      refine ⟨_, .begins asked hstage hdemand, fun other => ?_⟩
      simp [reader?_setReader]
  | leaves asked hstage hcancelled =>
      exact ⟨_, .leaves asked hstage hcancelled, fun other => reader?_endReader _ _ _ _ _⟩
  | reads asked looking next hstage hgoes hread =>
      cases hread with
      | brings bytes pipe hlook =>
          refine ⟨_, .brings asked looking bytes pipe hstage hlook, fun other => ?_⟩
          simp [reader?_setReader]
      | startsAgain failure pipe hlook hfailure =>
          refine ⟨_, .startsAgain asked looking failure pipe hstage hlook hfailure, fun other => ?_⟩
          simp [reader?_setReader]
      | fails failure pipe hlook hfailure =>
          refine ⟨_, .fails asked looking failure pipe hstage hlook hfailure, fun other => ?_⟩
          simp [reader?_endReader]
      | crashes pipe hlook =>
          exact ⟨_, .crashes asked looking pipe hstage hlook,
            fun other => reader?_endReader _ _ _ _ _⟩
      | cancels pipe hlook =>
          refine ⟨_, .cancels asked looking pipe hstage hlook, fun other => ?_⟩
          simp [reader?_setReader]
      | waits until? pipe hlook hwaits =>
          exact ⟨_, .waits asked looking until? pipe hstage hlook,
            fun other => reader?_setReader _ _ _ _⟩
  | sendGoesOn sending later sent hstage hdue hsend =>
      refine ⟨_, .sendGoesOn sending later sent hstage hsend, fun other => ?_⟩
      rw [reader?_setReader, hsend.reader?_eq]
  | sendOver sending sent hstage hdue hsend =>
      refine ⟨_, .sendOver sending sent hstage hsend, fun other => ?_⟩
      rw [reader?_setReader, hsend.reader?_eq]
  | sendCrashes sending sent hstage hdue hsend =>
      refine ⟨_, .sendCrashes sending sent hstage hsend, fun other => ?_⟩
      rw [reader?_endReader, hsend.reader?_eq]

/-! ## Steps of the other tasks -/

theorem reader?_of_same (hstdout : next.stdout = session.stdout)
    (hstderr : next.stderr = session.stderr) : next.reader? = session.reader? := by
  funext other
  cases other with
  | stdout => exact hstdout
  | stderr => exact hstderr

/-- What is true of the reader that is put in the place of one, and of the others, is
true of every reader. -/
theorem forall_reader_of_replace {motive : Source → Reader → Prop} {after : Reader}
    (hreaders : ∀ other, next.reader? other =
      if other = source then some after else session.reader? other)
    (hothers : ∀ other reader, other ≠ source → session.reader? other = some reader →
      motive other reader)
    (hafter : motive source after) (other : Source) (reader : Reader)
    (hreader : next.reader? other = some reader) : motive other reader := by
  rw [hreaders] at hreader
  by_cases hother : other = source
  · rw [if_pos hother] at hreader
    rw [hother, ← Option.some.inj hreader]
    exact hafter
  · rw [if_neg hother] at hreader
    exact hothers other reader hother hreader

theorem reader?_endDrain (session : Session) (result : TaskResult) :
    (session.endDrain result).reader? = session.reader? :=
  reader?_of_same (by simp) (by simp)

theorem reader?_abortReader (session : Session) (source other : Source) :
    (session.abortReader source).reader? other =
      if other = source then (session.reader? source).map Reader.abort
      else session.reader? other := by
  have hkept : (session.reader? source).map Reader.abort = session.reader? source →
      session.reader? other = if other = source then (session.reader? source).map Reader.abort
        else session.reader? other := by
    intro heq
    split
    · next hother => rw [hother, heq]
    · rfl
  cases hreader : session.reader? source with
  | none =>
      have hsame : session.abortReader source = session := by rw [abortReader, hreader]
      rw [hsame, ← hreader]
      exact hkept (by rw [hreader]; rfl)
  | some reader =>
      cases hstage : reader.stage with
      | ended result =>
          have hsame : session.abortReader source = session := by
            simp only [abortReader, hreader, hstage]
          rw [hsame, ← hreader]
          exact hkept (by rw [hreader, Option.map_some, Reader.abort, hstage])
      | _ => simp only [abortReader, hreader, hstage, reader?_endReader, Reader.abort,
          Option.map_some]

theorem reader?_abortDrain (session : Session) :
    session.abortDrain.reader? = session.reader? := by
  unfold abortDrain
  split
  · rfl
  · exact reader?_endDrain _ _
  · rfl

theorem reader?_ready_of_none (hready : plan.readyError = none) (session : Session) :
    (session.ready plan).reader? = session.reader? := by
  rw [ready, hready]
  exact reader?_of_same rfl rfl

theorem reader?_ready_of_some {error : Error} (hready : plan.readyError = some error)
    (session : Session) (other : Source) :
    (session.ready plan).reader? other = (session.reader? other).map Reader.abort := by
  have hsame : (session.ready plan).reader? =
      ((((session.note .readyCalled).cancel.abortReader .stdout).abortReader
        .stderr).abortDrain).reader? := by
    rw [ready, hready]
    exact reader?_of_same rfl rfl
  rw [hsame, reader?_abortDrain, reader?_abortReader, reader?_abortReader]
  cases other <;> simp [reader?_abortReader]

theorem MainMove.reader_step {stage : MainStage} (hmove : session.MainMove plan stage next)
    (source : Source) :
    next.reader? source = session.reader? source ∨
      plan.readyError.isSome = true ∧
        next.reader? source = (session.reader? source).map Reader.abort := by
  cases hmove with
  | ready =>
      cases hready : plan.readyError with
      | none => exact Or.inl (congrFun (reader?_ready_of_none hready session) source)
      | some error => exact Or.inr ⟨rfl, reader?_ready_of_some hready session source⟩
  | refuses | launches | flushes | skipsFlush | stops | finishes =>
      exact Or.inl (congrFun (reader?_of_same rfl rfl) source)
  | hands => exact Or.inl (congrFun (reader?_of_same (by simp) (by simp)) source)
  | endsFlush =>
      refine Or.inl (congrFun (reader?_of_same ?_ ?_) source)
      · unfold finishFlush
        dsimp only
        split <;> rfl
      · unfold finishFlush
        dsimp only
        split <;> rfl
  | sendGoesOn sending later remaining sent hdue hsend => exact Or.inl (hsend.reader?_eq source)
  | sendOver sending remaining sent hdue hsend => exact Or.inl (hsend.reader?_eq source)
  | sendCrashes sending remaining sent hdue hsend => exact Or.inl (hsend.reader?_eq source)

/-- The main task leaves the readers of a session that is ready alone. -/
theorem MainMove.reader?_eq {stage : MainStage} (hready : plan.readyError = none)
    (hmove : session.MainMove plan stage next) : next.reader? = session.reader? := by
  funext source
  rcases hmove.reader_step source with heq | ⟨hsome, -⟩
  · exact heq
  · simp [hready] at hsome

theorem DrainMove.reader?_eq {buffer : Buffer} {stage : DrainStage}
    (hmove : session.DrainMove plan buffer stage next) : next.reader? = session.reader? := by
  cases hmove with
  | takes => exact reader?_of_same (by simp [setDrain]) (by simp [setDrain])
  | finishes => exact reader?_endDrain _ _
  | sendGoesOn sending later sent hdue hsend => exact funext hsend.reader?_eq
  | sendOver sending sent hdue hsend => exact funext hsend.reader?_eq
  | sendCrashes sending sent hdue hsend =>
      rw [reader?_endDrain]
      exact funext hsend.reader?_eq

theorem JoinMove.reader?_eq {task : Task} {result : TaskResult}
    (hmove : session.JoinMove task result next) : next.reader? = session.reader? := by
  cases hmove <;> exact reader?_of_same (by simp) (by simp)

/-- Every step of a session leaves a reader as it was or makes a step of it. -/
theorem Move.reader_step {event : SessionEvent} {after : Reader}
    (hmove : session.Move plan event next) (hafter : next.reader? source = some after) :
    ∃ reader, session.reader? source = some reader ∧
      (after = reader ∨ reader.Step plan source session after) := by
  have hsame : next.reader? source = session.reader? source →
      ∃ reader, session.reader? source = some reader ∧
        (after = reader ∨ reader.Step plan source session after) :=
    fun heq => ⟨after, heq.symm.trans hafter, Or.inl rfl⟩
  cases hmove with
  | pass => exact hsame (congrFun (reader?_of_same rfl rfl) source)
  | cancel => exact hsame (reader?_cancel _ _)
  | reader own reader next hlaunched hreader hmove =>
      obtain ⟨changed, hstep, hreaders⟩ := hmove.reader_step
      rw [hreaders] at hafter hsame
      by_cases hsource : source = own
      · subst hsource
        rw [if_pos rfl, Option.some.injEq] at hafter
        exact ⟨reader, hreader, Or.inr (hafter ▸ hstep)⟩
      · exact hsame (if_neg hsource)
  | drain stage buffer next hlaunched hdrain hbuffer hmove =>
      exact hsame (congrFun hmove.reader?_eq source)
  | join task result next hmain hresult hmem hmove =>
      exact hsame (congrFun hmove.reader?_eq source)
  | main next hmove =>
      rcases hmove.reader_step source with heq | ⟨hready, heq⟩
      · exact hsame heq
      · rw [heq] at hafter
        obtain ⟨reader, hreader, rfl⟩ := Option.map_eq_some_iff.mp hafter
        exact ⟨reader, hreader, Or.inr (.aborts hready)⟩
  | tracer action tracer sample? =>
      cases sample? <;> exact hsame (congrFun (reader?_of_same rfl rfl) source)

/-- The session reads the same pipes throughout. -/
theorem Move.reader?_isSome {event : SessionEvent} (hmove : session.Move plan event next)
    (source : Source) : (next.reader? source).isSome = (session.reader? source).isSome := by
  cases hmove with
  | pass => exact congrArg Option.isSome (congrFun (reader?_of_same rfl rfl) source)
  | cancel => rw [reader?_cancel]
  | reader own reader next hlaunched hreader hmove =>
      obtain ⟨changed, -, hreaders⟩ := hmove.reader_step
      rw [hreaders]
      split
      · next hsource => rw [hsource, hreader]; rfl
      · rfl
  | drain stage buffer next hlaunched hdrain hbuffer hmove => rw [hmove.reader?_eq]
  | join task result next hmain hresult hmem hmove => rw [hmove.reader?_eq]
  | main next hmove =>
      rcases hmove.reader_step source with heq | ⟨-, heq⟩
      · rw [heq]
      · rw [heq, Option.isSome_map]
  | tracer action tracer sample? =>
      cases sample? <;> exact congrArg Option.isSome (congrFun (reader?_of_same rfl rfl) source)

end Session

end LogRelay
