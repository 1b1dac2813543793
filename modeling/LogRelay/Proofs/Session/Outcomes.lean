import LogRelay.Proofs.Session.Journal
import LogRelay.Proofs.Session.Readers
import LogRelay.Proofs.Session.Reading

/-!
# What the reads come to

What each read of a source has come to is in the journal, and it decides how the
reader goes on.  A failure ends it, an interruption does not, and the framer has
seen the end of the stream only if a read has brought it.
-/

namespace LogRelay

/-- What a read of the source has come to. -/
@[simp, reducible]
def Entry.outcome? (source : Source) : Entry → Option ReadResult
  | .readDone origin _ result => if origin = source then some result else none
  | _ => none

namespace Session

/-- What the reads of the source have come to, in order. -/
def outcomes (source : Source) (journal : List (Nat × Entry)) : List ReadResult :=
  selected (Entry.outcome? source) journal

/-- A read of the source has failed, and was not just to be made again. -/
def ReadFails (source : Source) (failure : Failure) (journal : List (Nat × Entry)) : Prop :=
  failure.isInterruption = false ∧ .failed failure ∈ outcomes source journal

/-- A read of the source has come to the end of the stream. -/
def ReadsToEnd (source : Source) (journal : List (Nat × Entry)) : Prop :=
  .data [] ∈ outcomes source journal

end Session

/-- The reader stands where the reads of its source have brought it. -/
structure Reader.Heeds (source : Source) (outcomes : List ReadResult) (reader : Reader) :
    Prop where
  ended : reader.framer.ended = true ↔ .data [] ∈ outcomes
  failed : ∀ failure, failure.isInterruption = false → .failed failure ∈ outcomes →
    reader.stage = .ended (.failed (.read source failure))
  blamed : ∀ failure, reader.stage = .ended (.failed (.read source failure)) →
    failure.isInterruption = false ∧ .failed failure ∈ outcomes

namespace Session

variable {plan : Plan} {session next : Session}

/-- Every reader heeds the outcomes of its reads. -/
def ReadersHeed (session : Session) : Prop :=
  ∀ source reader, session.reader? source = some reader →
    reader.Heeds source (outcomes source session.journal)

theorem readersHeed_create (plan : Plan) (stdout stderr : Option PipeScript)
    (sink : SinkBehaviour) : (create plan stdout stderr sink).ReadersHeed := by
  intro source reader hreader
  obtain ⟨pipe, -, rfl⟩ := exists_pipe_of_create hreader
  constructor
  · exact iff_of_false Bool.false_ne_true List.not_mem_nil
  · exact fun _ _ hmem => absurd hmem List.not_mem_nil
  · exact fun _ hstage => ReaderStage.noConfusion hstage

theorem outcome?_of_isOfMain (entry : Entry) (hentry : entry.isOfMain = true) (source : Source) :
    entry.outcome? source = none := by
  cases entry <;> first | rfl | exact absurd hentry Bool.false_ne_true

theorem outcome?_of_isOfJoin (entry : Entry) (hentry : entry.isOfJoin = true) (source : Source) :
    entry.outcome? source = none := by
  cases entry <;> first | rfl | exact absurd hentry Bool.false_ne_true

theorem Adds.outcomes_eq {allowed : Entry → Bool} (hadds : session.Adds allowed next)
    (hallowed : ∀ entry, allowed entry = true → ∀ source, entry.outcome? source = none)
    (source : Source) : outcomes source next.journal = outcomes source session.journal :=
  hadds.selected_eq fun entry hentry => hallowed entry hentry source

end Session

namespace Reader

variable {source : Source} {outcomes : List ReadResult} {reader after : Reader}

/-- No read of a reader that goes on has failed. -/
theorem Heeds.not_failed (hheeds : reader.Heeds source outcomes)
    (hgoing : ∀ result, reader.stage ≠ .ended result) {failure : Failure}
    (hfailure : failure.isInterruption = false) : .failed failure ∉ outcomes :=
  fun hmem => hgoing _ (hheeds.failed failure hfailure hmem)

/-- A step without an outcome, which does not end in a failure. -/
theorem Heeds.quiet (hheeds : reader.Heeds source outcomes)
    (hgoing : ∀ result, reader.stage ≠ .ended result)
    (hended : after.framer.ended = reader.framer.ended)
    (hstage : ∀ error, after.stage ≠ .ended (.failed error)) : after.Heeds source outcomes where
  ended := hended ▸ hheeds.ended
  failed _ hfailure hmem := absurd hmem (hheeds.not_failed hgoing hfailure)
  blamed _ hfailed := absurd hfailed (hstage _)

/-- A read that brings bytes or the end of the stream, or that is just made again. -/
theorem Heeds.goesOn (hheeds : reader.Heeds source outcomes)
    (hgoing : ∀ result, reader.stage ≠ .ended result) (result : ReadResult)
    (hended : after.framer.ended = true ↔ reader.framer.ended = true ∨ result = .data [])
    (hresult : ∀ failure, result = .failed failure → failure.isInterruption = true)
    (hstage : ∀ error, after.stage ≠ .ended (.failed error)) :
    after.Heeds source (outcomes ++ [result]) where
  ended := by
    rw [hended, hheeds.ended, List.mem_append, List.mem_singleton, @eq_comm _ result]
  failed failure hfailure hmem := by
    rcases List.mem_append.mp hmem with hold | hnew
    · exact absurd hold (hheeds.not_failed hgoing hfailure)
    · have hinterruption := hresult failure (List.mem_singleton.mp hnew).symm
      exact absurd (hfailure.symm.trans hinterruption) Bool.false_ne_true
  blamed _ hfailed := absurd hfailed (hstage _)

/-- A read that fails ends the reader. -/
theorem Heeds.fails (hheeds : reader.Heeds source outcomes)
    (hgoing : ∀ result, reader.stage ≠ .ended result) {failure : Failure}
    (hfailure : failure.isInterruption = false) (hended : after.framer.ended = reader.framer.ended)
    (hstage : after.stage = .ended (.failed (.read source failure))) :
    after.Heeds source (outcomes ++ [.failed failure]) where
  ended := by
    rw [hended, hheeds.ended, List.mem_append, List.mem_singleton]
    exact (or_iff_left ReadResult.noConfusion).symm
  failed other hother hmem := by
    rcases List.mem_append.mp hmem with hold | hnew
    · exact absurd hold (hheeds.not_failed hgoing hother)
    · obtain rfl := ReadResult.failed.inj (List.mem_singleton.mp hnew)
      exact hstage
  blamed other hfailed := by
    simp only [hstage, ReaderStage.ended.injEq, TaskResult.failed.injEq, Error.read.injEq,
      true_and] at hfailed
    rw [← hfailed]
    exact ⟨hfailure, List.mem_append_right _ List.mem_cons_self⟩

end Reader

namespace Session

variable {plan : Plan} {session next : Session} {source : Source}

/-! ## Steps -/

/-- A step that is no reader's own. -/
theorem ReadersHeed.of_same (hheed : session.ReadersHeed)
    (hreaders : next.reader? = session.reader?)
    (houtcomes : ∀ source, outcomes source next.journal = outcomes source session.journal) :
    next.ReadersHeed := by
  intro source reader hreader
  rw [hreaders] at hreader
  rw [houtcomes]
  exact hheed source reader hreader

/-- A step of a reader, with what its read has come to if it has read. -/
theorem ReadersHeed.replace (hheed : session.ReadersHeed) (source : Source) (after : Reader)
    (result? : Option ReadResult)
    (hreaders : ∀ other, next.reader? other =
      if other = source then some after else session.reader? other)
    (houtcomes : ∀ other, outcomes other next.journal =
      outcomes other session.journal ++ if other = source then result?.toList else [])
    (hafter : after.Heeds source (outcomes source session.journal ++ result?.toList)) :
    next.ReadersHeed := by
  apply forall_reader_of_replace
    (motive := fun other reader => reader.Heeds other (outcomes other next.journal)) hreaders
  · intro other reader hother hreader
    rw [houtcomes, if_neg hother, List.append_nil]
    exact hheed other reader hreader
  · rw [houtcomes, if_pos rfl]
    exact hafter

/-- A step of a reader that goes on, without an outcome and without a failure. -/
theorem ReadersHeed.replace_quiet {reader : Reader} (hheed : session.ReadersHeed) (after : Reader)
    (hreader : session.reader? source = some reader)
    (hgoing : ∀ result, reader.stage ≠ .ended result)
    (hreaders : ∀ other, next.reader? other =
      if other = source then some after else session.reader? other)
    (houtcomes : ∀ other, outcomes other next.journal = outcomes other session.journal)
    (hended : after.framer.ended = reader.framer.ended)
    (hstage : ∀ error, after.stage ≠ .ended (.failed error)) : next.ReadersHeed := by
  apply hheed.replace source after none hreaders
  · intro other
    rw [houtcomes, Option.toList_none, ite_self, List.append_nil]
  · rw [Option.toList_none, List.append_nil]
    exact (hheed source reader hreader).quiet hgoing hended hstage

theorem ended_ne_failed {result : TaskResult} (hresult : ∀ error, result ≠ .failed error)
    (error : Error) : ReaderStage.ended result ≠ .ended (.failed error) :=
  fun heq => hresult error (ReaderStage.ended.inj heq)

theorem ReadersHeed.read {reader : Reader} {asked : Nat} {looking : Bool}
    (hheed : session.ReadersHeed) (hreader : session.reader? source = some reader)
    (hstage : reader.stage = .reading asked looking)
    (hread : session.ReadMove plan source reader asked looking next) : next.ReadersHeed := by
  have hheeds := hheed source reader hreader
  have hgoing : ∀ result, reader.stage ≠ .ended result :=
    fun result hended => ReaderStage.noConfusion (hstage.symm.trans hended)
  have hnoted : ∀ result other,
      outcomes other ((session.clock, Entry.readDone source asked result) :: session.journal) =
        outcomes other session.journal ++ if other = source then [result] else [] := by
    intro result other
    by_cases hother : other = source
    · simp [outcomes, hother]
    · simp [outcomes, hother, Ne.symm hother]
  cases hread with
  | brings bytes pipe =>
      apply hheed.replace source ⟨(reader.framer.receive (plan.runIds source)
        (plan.timeOfDay session.clock) bytes).1, pipe, .asking⟩ (some (.data bytes))
      · intro other
        simp [reader?_setReader]
      · intro other
        simpa using hnoted _ other
      · apply hheeds.goesOn hgoing (.data bytes)
        · rw [Framer.ended_receive, Bool.or_eq_true_iff, List.isEmpty_iff, ReadResult.data.injEq]
        · exact fun _ => ReadResult.noConfusion
        · exact fun _ => ReaderStage.noConfusion
  | startsAgain failure pipe hlook hfailure =>
      apply hheed.replace source { reader with pipe := pipe, stage := .asking }
        (some (.failed failure))
      · intro other
        simp [reader?_setReader]
      · intro other
        simpa using hnoted _ other
      · apply hheeds.goesOn hgoing (.failed failure)
        · exact (or_iff_left ReadResult.noConfusion).symm
        · intro other hother
          rw [← ReadResult.failed.inj hother]
          exact hfailure
        · exact fun _ => ReaderStage.noConfusion
  | fails failure pipe hlook hfailure =>
      apply hheed.replace source
        { reader with pipe := pipe, stage := .ended (.failed (.read source failure)) }
        (some (.failed failure))
      · intro other
        simp [reader?_endReader]
      · intro other
        simpa [outcomes] using hnoted _ other
      · exact hheeds.fails hgoing hfailure rfl rfl
  | crashes pipe =>
      exact hheed.replace_quiet { reader with pipe := pipe, stage := .ended .crashed } hreader hgoing
        (fun _ => reader?_endReader _ _ _ _ _) (fun _ => by simp [outcomes]) rfl
        (ended_ne_failed fun _ => TaskResult.noConfusion)
  | cancels pipe =>
      exact hheed.replace_quiet { reader with pipe := pipe, stage := .reading asked true } hreader
        hgoing (fun _ => by simp [reader?_setReader]) (fun _ => by simp [outcomes]) rfl
        fun _ => ReaderStage.noConfusion
  | waits until? pipe =>
      exact hheed.replace_quiet { reader with pipe := pipe, stage := .reading asked false } hreader
        hgoing (fun _ => reader?_setReader _ _ _ _) (fun _ => by simp [outcomes]) rfl
        fun _ => ReaderStage.noConfusion

theorem SendMove.outcomes_eq {sending : Sending} {progress : SendProgress}
    (hsend : session.SendMove plan sending next progress) (source : Source) :
    outcomes source next.journal = outcomes source session.journal :=
  hsend.adds.outcomes_eq (fun entry hentry => outcome?_of_isOfMain entry
    (isOfMain_of_isOfTask entry hentry)) source

theorem ReadersHeed.reader {reader : Reader} (hheed : session.ReadersHeed)
    (hreader : session.reader? source = some reader)
    (hmove : session.ReaderMove plan source reader next) : next.ReadersHeed := by
  have hgoing : ∀ {stage : ReaderStage}, reader.stage = stage → (∀ result, stage ≠ .ended result) →
      ∀ result, reader.stage ≠ .ended result :=
    fun hstage hnot result hended => hnot result (hstage.symm.trans hended)
  cases hmove with
  | reads asked looking next hstage hgoes hread => exact hheed.read hreader hstage hread
  | offers message framer buffer hstage hdemand =>
      obtain ⟨rest, -, rfl⟩ := Framer.pending_of_demand hdemand
      apply hheed.replace_quiet
        { reader with framer := { reader.framer with pending := rest }, stage := .asking } hreader
        (hgoing hstage fun _ => ReaderStage.noConfusion)
      · intro other
        simp [reader?_setReader]
        rfl
      · intro other
        cases buffer.accepts message <;> simp [outcomes]
      · rfl
      · exact fun _ => ReaderStage.noConfusion
  | hands message framer hstage hdemand =>
      obtain ⟨rest, -, rfl⟩ := Framer.pending_of_demand hdemand
      apply hheed.replace_quiet
        { reader with
          framer := { reader.framer with pending := rest }
          stage := .sending ((session.note (.framed message)).hand plan message).2 } hreader
        (hgoing hstage fun _ => ReaderStage.noConfusion)
      · intro other
        simp [reader?_setReader]
        rfl
      · intro other
        simp [outcomes]
      · rfl
      · exact fun _ => ReaderStage.noConfusion
  | begins asked hstage =>
      exact hheed.replace_quiet { reader with stage := .reading asked false } hreader
        (hgoing hstage fun _ => ReaderStage.noConfusion) (fun _ => by simp [reader?_setReader])
        (fun _ => by simp [outcomes]) rfl fun _ => ReaderStage.noConfusion
  | finishes hstage =>
      exact hheed.replace_quiet { reader with stage := .ended .finished } hreader
        (hgoing hstage fun _ => ReaderStage.noConfusion) (fun _ => reader?_endReader _ _ _ _ _)
        (fun _ => by simp [outcomes]) rfl (ended_ne_failed fun _ => TaskResult.noConfusion)
  | leaves asked hstage =>
      exact hheed.replace_quiet { reader with stage := .ended .finished } hreader
        (hgoing hstage fun _ => ReaderStage.noConfusion) (fun _ => reader?_endReader _ _ _ _ _)
        (fun _ => by simp [outcomes]) rfl (ended_ne_failed fun _ => TaskResult.noConfusion)
  | sendGoesOn sending later sent hstage hdue hsend =>
      apply hheed.replace_quiet { reader with stage := .sending later } hreader
        (hgoing hstage fun _ => ReaderStage.noConfusion)
      · intro other
        rw [reader?_setReader, hsend.reader?_eq]
      · intro other
        rw [← hsend.outcomes_eq]
        simp [outcomes]
      · rfl
      · exact fun _ => ReaderStage.noConfusion
  | sendOver sending sent hstage hdue hsend =>
      apply hheed.replace_quiet { reader with stage := .asking } hreader
        (hgoing hstage fun _ => ReaderStage.noConfusion)
      · intro other
        rw [reader?_setReader, hsend.reader?_eq]
      · intro other
        rw [← hsend.outcomes_eq]
        simp [outcomes]
      · rfl
      · exact fun _ => ReaderStage.noConfusion
  | sendCrashes sending sent hstage hdue hsend =>
      apply hheed.replace_quiet { reader with stage := .ended .crashed } hreader
        (hgoing hstage fun _ => ReaderStage.noConfusion)
      · intro other
        rw [reader?_endReader, hsend.reader?_eq]
      · intro other
        rw [← hsend.outcomes_eq]
        simp [outcomes]
      · rfl
      · exact ended_ne_failed fun _ => TaskResult.noConfusion

theorem ReadersHeed.move {event : SessionEvent} (hready : plan.readyError = none)
    (hheed : session.ReadersHeed) (hmove : session.Move plan event next) : next.ReadersHeed := by
  cases hmove with
  | pass => exact hheed.of_same (reader?_of_same rfl rfl) fun _ => rfl
  | cancel =>
      have hadds : session.Adds Entry.isOfJoin session.cancel := adds_cancel session rfl
      exact hheed.of_same (funext (reader?_cancel session)) (hadds.outcomes_eq outcome?_of_isOfJoin)
  | reader source reader next hlaunched hreader hmove => exact hheed.reader hreader hmove
  | drain stage buffer next hlaunched hdrain hbuffer hmove =>
      have hadds := hmove.adds.mono isOfMain_of_isOfTask
      exact hheed.of_same hmove.reader?_eq (hadds.outcomes_eq outcome?_of_isOfMain)
  | join task result next hmain hresult hmem hmove =>
      exact hheed.of_same hmove.reader?_eq (hmove.adds.outcomes_eq outcome?_of_isOfJoin)
  | main next hmove =>
      exact hheed.of_same (hmove.reader?_eq hready) (hmove.adds.outcomes_eq outcome?_of_isOfMain)
  | tracer action tracer sample? =>
      cases sample? with
      | none => exact hheed.of_same (reader?_of_same rfl rfl) fun _ => rfl
      | some sample =>
          exact hheed.of_same (reader?_of_same rfl rfl) fun _ => by simp [outcomes]

end Session

end LogRelay
