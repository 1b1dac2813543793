import LogRelay.Proofs.CommandLine.Preparing
import LogRelay.Proofs.Session.Numbering
import LogRelay.Proofs.Session.Timeline

/-!
# The exit status

The program exits with a failure if and only if it returns an error, for every
error that it can return ends it.  A sink that refuses messages is no reason for
one: the pipes and the ready callback alone decide how the session ends.
-/

namespace LogRelay.Program

open Session

/-- The pipes of the session. -/
def Prepared.pipes (prepared : Prepared) : Source → Option PipeScript :=
  pipesOf prepared.stdout prepared.stderr

/-- The errors that are returned end the program, and the exit status tells them
from a success. -/
structure Performance.IsFaithful (performance : Performance) : Prop where
  fatal : ∀ error, performance.result = .error (.error error) → error.isFatal = true
  success : performance.outcome.exitCode = 0 ↔ performance.result = .ok ()
  failure : performance.outcome.exitCode = 1 ↔ ∃ error, performance.result = .error (.error error)

theorem Performance.exitCode_outcome {performance : Performance}
    (hfatal : ∀ error, performance.result = .error (.error error) → error.isFatal = true) :
    performance.outcome.exitCode =
      match performance.result with
      | .ok () => 0
      | .error (.error _) => 1
      | .error .crash => 101 := by
  rw [outcome]
  cases hresult : performance.result with
  | ok => rfl
  | error breakdown =>
      cases breakdown with
      | error error => exact congrArg Outcome.exitCode (if_pos (hfatal error hresult))
      | crash => rfl

theorem Performance.isFaithful_of_fatal {performance : Performance}
    (hfatal : ∀ error, performance.result = .error (.error error) → error.isFatal = true) :
    performance.IsFaithful := by
  have hexit := performance.exitCode_outcome hfatal
  constructor
  · exact hfatal
  · rw [hexit]
    split <;> simp_all
  · rw [hexit]
    split <;> simp_all

variable {prepared : Prepared} {arguments : Arguments} {lines : List LogLine} {session : Session}

/-- The run returns what its session has returned. -/
theorem result_conclude {result : Except Error Unit} (hdone : session.main = .done result) :
    (prepared.conclude arguments lines session).result = result.mapError Breakdown.error := by
  cases result with
  | ok => simp [Prepared.conclude, verdict, hdone, Except.mapError]
  | error error => simp [Prepared.conclude, verdict, hdone, Except.mapError]

/-- A run that returns an error has it from its session. -/
theorem main_of_conclude {error : Error}
    (hresult : (prepared.conclude arguments lines session).result = .error (.error error)) :
    session.main = .done (.error error) := by
  cases hmain : session.main with
  | done result =>
      rw [result_conclude hmain] at hresult
      cases result with
      | ok => cases hresult
      | error cause =>
          cases hresult
          rfl
  | _ => simp [Prepared.conclude, verdict, hmain] at hresult

/-- A run whose preparation has succeeded performs the session that has been prepared. -/
theorem exists_perform_eq {surroundings : Surroundings}
    (hrun : (prepare surroundings arguments).run.run [] = (.ok prepared, lines)) :
    ∃ schedule now, perform surroundings arguments =
      prepared.conclude arguments lines (course prepared.plan prepared.start schedule now) := by
  obtain ⟨events, hevents⟩ :=
    SessionTimeline.exists_run prepared.plan horizon surroundings.stopAt prepared.start
  refine ⟨scheduleOf events, events.length, ?_⟩
  rw [course_scheduleOf hevents, perform, hrun]

/-- Every error that a run can return ends the program, be it one from before the
session or one of the session. -/
theorem isFaithful_perform (surroundings : Surroundings) (arguments : Arguments) :
    (perform surroundings arguments).IsFaithful := by
  apply Performance.isFaithful_of_fatal
  intro error hresult
  have hprepared := ensures_prepare surroundings arguments []
  cases hrun : (prepare surroundings arguments).run.run [] with
  | mk outcome lines =>
      rw [hrun] at hprepared
      cases outcome with
      | error breakdown =>
          rw [perform, hrun] at hresult
          cases hresult
          exact hprepared
      | ok prepared =>
          obtain ⟨schedule, now, hperform⟩ := exists_perform_eq hrun
          rw [hperform] at hresult
          have hdone := main_of_conclude hresult
          exact (returned_of_done hprepared.jitter hprepared.sink hdone).fatal error rfl

/-- A session in which no delivery can crash does not crash itself.  When it
returns, its pipes and the ready callback account for the result, whatever the
sink has refused: it succeeds if none of them fails, and then it has read every
pipe to its end unless it was cancelled; else it fails with the error of one of
them.  It does return, unless a pipe hangs and nobody cancels.  No line has more
segments than can be numbered, and so no number of a segment ever overflows.

A run of the program that cannot prepare a session says so; every other one is such a
session, in which no delivery can crash, and returns what it returns.  Every error that it
can return ends it, and the exit status is 1 for these errors alone. -/
theorem fails_iff_blamed (hsafe : prepared.IsSafe)
    (hfew : FewSegments prepared.plan prepared.pipes) (schedule : Schedule) :
    (∀ now, (course prepared.plan prepared.start schedule now).main ≠ .crashed ∧
      (course prepared.plan prepared.start schedule now).NumbersFit prepared.plan) ∧
    (∀ now session result, course prepared.plan prepared.start schedule now = session →
      session.main = .done result →
        Returned prepared.plan prepared.pipes schedule session result ∧
        ∀ arguments lines,
          (prepared.conclude arguments lines session).result = result.mapError Breakdown.error ∧
          (prepared.conclude arguments lines session).IsFaithful) ∧
    (Fair prepared.plan prepared.start schedule →
      ((∀ source pipe, prepared.pipes source = some pipe → pipe.isAlive = true) ∨
        ∃ now, (course prepared.plan prepared.start schedule now).cancelled = true) →
      ∃ now result, (course prepared.plan prepared.start schedule now).main = .done result) ∧
    ∀ surroundings arguments, (perform surroundings arguments).IsFaithful ∧
      (∀ breakdown lines,
        (prepare surroundings arguments).run.run [] = (.error breakdown, lines) →
          (perform surroundings arguments).result = .error breakdown) ∧
      ∀ prepared lines, (prepare surroundings arguments).run.run [] = (.ok prepared, lines) →
        prepared.IsSafe ∧ ∃ schedule now, perform surroundings arguments =
          prepared.conclude arguments lines
            (course prepared.plan prepared.start schedule now) := by
  have hstands : ∀ now, (course prepared.plan prepared.start schedule now).main ≠ .crashed :=
    stands_course hsafe.jitter hsafe.sink
  refine ⟨fun now => ⟨hstands now, numbersFit_course hfew now⟩, ?_, ?_, ?_⟩
  · rintro now session result rfl hdone
    have hreturned := returned_of_done hsafe.jitter hsafe.sink hdone
    refine ⟨hreturned, fun arguments lines => ⟨result_conclude hdone, ?_⟩⟩
    apply Performance.isFaithful_of_fatal
    intro error hresult
    have hfailed := hdone.symm.trans (main_of_conclude hresult)
    exact hreturned.fatal error (MainStage.done.inj hfailed)
  · intro hfair hends
    obtain ⟨now, hover⟩ := hfair.exists_isOver (live_create _ _ _ _)
      (hends.imp_left (pipesAlive_create _ _))
    cases hmain : (course prepared.plan prepared.start schedule now).main with
    | done result => exact ⟨now, result, hmain⟩
    | crashed => exact absurd hmain (hstands now)
    | _ => simp [isOver, hmain] at hover
  · intro surroundings arguments
    refine ⟨isFaithful_perform surroundings arguments, fun breakdown lines hrun => ?_,
      fun prepared lines hrun => ⟨?_, exists_perform_eq hrun⟩⟩
    · rw [perform, hrun]
    · have hprepared := ensures_prepare surroundings arguments []
      rw [hrun] at hprepared
      exact hprepared

/-- One line, and a sink that refuses it twice. -/
def refusedOnce : Prepared where
  identity := ⟨"f00d", "api", "host"⟩
  plan := promptPlan .nonBlocking (.immediate 2)
  stdout := some [.data [97, 10]]
  stderr := none
  sink := ⟨[⟨0, .refused (.sink "busy"), 2⟩], []⟩

/-- One order of the steps of that session. -/
def refusedEvents : List SessionEvent :=
  [.main, .reader .stdout, .reader .stdout, .reader .stdout, .reader .stdout, .reader .stdout,
    .reader .stdout, .drain, .drain, .drain, .drain, .drain, .main, .join .drain,
    .join (.reader .stdout), .main, .main, .main, .tracer .start, .tracer .conclude, .tracer .take,
    .tracer .take, .tracer .take, .main]

/-- The line is given up, and the program exits with a success. -/
theorem succeeds_of_refusals :
    refusedOnce.IsSafe ∧ FewSegments refusedOnce.plan refusedOnce.pipes ∧ ∃ session,
      refusedOnce.start.run? refusedOnce.plan refusedEvents = some session ∧
      Returned refusedOnce.plan refusedOnce.pipes (scheduleOf refusedEvents) session (.ok ()) ∧
      ∀ arguments lines, (refusedOnce.conclude arguments lines session).outcome.exitCode = 0 := by
  have hview : (refusedOnce.start.run? refusedOnce.plan refusedEvents).map verdict =
      some .finished := by
    decide +kernel
  obtain ⟨session, hrun, hverdict⟩ := Option.map_eq_some_iff.mp hview
  have hsafe : refusedOnce.IsSafe := ⟨rfl, rfl⟩
  have hfew : FewSegments refusedOnce.plan refusedOnce.pipes := forall_pipe_of_stdout (by decide)
  obtain ⟨hreturned, hexits⟩ := (fails_iff_blamed hsafe hfew (scheduleOf refusedEvents)).2.1
    refusedEvents.length session (.ok ()) (course_scheduleOf hrun) (main_of_finished hverdict)
  refine ⟨hsafe, hfew, session, hrun, hreturned, fun arguments lines => ?_⟩
  obtain ⟨hresult, hfaithful⟩ := hexits arguments lines
  exact hfaithful.success.mpr hresult

/-- Two lines that a sink refuses, with a jitter that is not a number. -/
def unsettledOnce : Prepared where
  identity := ⟨"f00d", "api", "host"⟩
  plan := promptPlan .nonBlocking unsettledPolicy
  stdout := some [.data [97, 10, 98, 10]]
  stderr := none
  sink := ⟨[⟨0, .refused (.sink "busy"), 4⟩], []⟩

/-- One order of the steps of that session. -/
def unsettledEvents : List SessionEvent :=
  [.main, .reader .stdout, .reader .stdout, .reader .stdout, .reader .stdout, .reader .stdout,
    .reader .stdout, .reader .stdout, .drain, .drain, .main, .join .drain, .join (.reader .stdout),
    .main, .main, .main]

/-- The pipe does not fail and the sink does not crash, but the pause after a
refusal cannot be computed.  The session crashes in the flush and returns nothing. -/
theorem crashed_of_refusal :
    unsettledOnce.sink.neverCrashes = true ∧ unsettledOnce.plan.readyError = none ∧
      (∀ source pipe, unsettledOnce.pipes source = some pipe → pipe.isSteady = true) ∧
      ∃ session, unsettledOnce.start.run? unsettledOnce.plan unsettledEvents = some session ∧
        session.verdict = .crashed := by
  have hview : (unsettledOnce.start.run? unsettledOnce.plan unsettledEvents).map verdict =
      some .crashed := by
    decide +kernel
  obtain ⟨session, hrun, hverdict⟩ := Option.map_eq_some_iff.mp hview
  exact ⟨rfl, rfl, forall_pipe_of_stdout rfl, session, hrun, hverdict⟩

end LogRelay.Program
