import LogRelay.CommandLine.Program
import LogRelay.Proofs.Config.Validation
import LogRelay.Proofs.Session.Sending

/-!
# What is prepared before the session

Everything that can go wrong before the session is an error that ends the
program.  If nothing does, the settings have been validated, and so a session is
prepared in which no delivery crashes.
-/

namespace LogRelay

theorem ConfigFault.isFatal_toError (fault : ConfigFault) : fault.toError.isFatal = true :=
  rfl

namespace Program

namespace Stage

variable {α β : Type} {holds : α → Prop} {later : β → Prop}

/-- What the stage gives satisfies this, and the errors with which it breaks down
end the program. -/
def Ensures (stage : Stage α) (holds : α → Prop) : Prop :=
  ∀ lines, match (stage.run.run lines).1 with
    | .ok value => holds value
    | .error (.error error) => error.isFatal = true
    | .error .crash => True

theorem ensures_pure {value : α} (hvalue : holds value) : Ensures (pure value) holds :=
  fun _ => hvalue

theorem ensures_error {error : Error} (hfatal : error.isFatal = true) :
    Ensures (throw (.error error)) holds :=
  fun _ => hfatal

theorem ensures_crash : Ensures (throw .crash : Stage α) holds :=
  fun _ => trivial

theorem Ensures.bind {stage : Stage α} {next : α → Stage β} (hstage : Ensures stage holds)
    (hnext : ∀ value, holds value → Ensures (next value) later) :
    Ensures (stage >>= next) later := by
  intro lines
  have hfirst := hstage lines
  rw [ExceptT.run_bind, StateT.run_bind]
  cases hrun : stage.run.run lines with
  | mk result after =>
      rw [hrun] at hfirst
      cases result with
      | ok value => exact hnext value hfirst after
      | error breakdown => cases breakdown <;> exact hfirst

end Stage

open Stage

theorem ensures_say (severity : Severity) (text : String) :
    Ensures (say severity text) fun _ => True :=
  fun _ => trivial

theorem ensures_checked {α : Type} (result : Except ConfigFault α) :
    Ensures (checked result) fun value => result = .ok value := by
  cases result with
  | ok value => exact ensures_pure rfl
  | error fault =>
      rw [checked]
      split
      · exact ensures_crash
      · exact ensures_error fault.isFatal_toError

theorem ensures_openPipe (surroundings : Surroundings) (arguments : Arguments)
    (options : SessionOptions) (switch : Switch) :
    Ensures (openPipe surroundings arguments options switch) fun _ => True := by
  rw [openPipe]
  split
  · exact ensures_pure trivial
  · split
    · exact ensures_error rfl
    · exact (ensures_say _ _).bind fun _ _ => ensures_pure trivial

theorem reply_step_ne_crashed (call : SinkCall) : call.step.reply ≠ .crashed := by
  rw [SinkCall.step]
  cases call.failure? with
  | none => exact Reply.noConfusion
  | some error => exact Reply.noConfusion

/-- The collector may refuse every record, and that is no crash. -/
theorem neverCrashes_sink (settings : LinkSettings) (collector : Collector)
    (calls : Source → List SinkCall) : (sink settings collector calls).neverCrashes = true := by
  rw [sink]
  split
  · rfl
  · simp [SinkBehaviour.neverCrashes, SinkScript.neverCrashes, reply_step_ne_crashed]

/-- No delivery of the prepared session can crash. -/
structure Prepared.IsSafe (prepared : Prepared) : Prop where
  jitter : prepared.plan.options.retry.jitter.isNaN = false
  sink : prepared.sink.neverCrashes = true

theorem ensures_greet (arguments : Arguments) : Ensures (greet arguments) fun _ => True := by
  refine (ensures_say _ _).bind fun _ _ => ?_
  split
  · exact ensures_say _ _
  · exact ensures_pure trivial

theorem ensures_prepare (surroundings : Surroundings) (arguments : Arguments) :
    Ensures (prepare surroundings arguments) Prepared.IsSafe := by
  refine (ensures_greet _).bind fun _ _ => ?_
  refine (ensures_checked _).bind fun config _ => ?_
  refine (ensures_checked _).bind fun options hoptions => ?_
  refine (ensures_checked _).bind fun cleanup _ => ?_
  refine (ensures_say _ _).bind fun _ _ => ?_
  refine (ensures_say _ _).bind fun _ _ => ?_
  refine (ensures_openPipe _ _ _ _).bind fun stdout _ => ?_
  refine (ensures_openPipe _ _ _ _).bind fun stderr _ => ?_
  refine (ensures_say _ _).bind fun _ _ => ?_
  refine (ensures_say _ _).bind fun _ _ => ?_
  exact ensures_pure ⟨Config.isNaN_jitter_of_sessionOptions hoptions, neverCrashes_sink _ _ _⟩

end Program

end LogRelay
