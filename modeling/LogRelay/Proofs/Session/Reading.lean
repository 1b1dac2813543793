import LogRelay.Proofs.Framing.Framer
import LogRelay.Proofs.Framing.Reads
import LogRelay.Proofs.Session.Ledger
import LogRelay.Proofs.Session.Readers

/-!
# Readers follow their pipes

The framer of each source has received what the reads of its pipe have brought,
and it has handed out the messages that the session knows of that source.  So
these are at every moment a beginning of the canonical framing of those bytes.
-/

namespace LogRelay

@[simp, reducible]
def Entry.brought? (source : Source) : Entry → Option Bytes
  | .readDone origin _ (.data bytes) => if origin = source then some bytes else none
  | _ => none

/-- What a framer has received and handed out. -/
@[ext]
structure Progress where
  received : Bytes
  yielded : List Message

/-- The framer has come so far, and while a read is under way it waits for what the read
brings. -/
structure Reader.Follows (plan : Plan) (source : Source) (progress : Progress)
    (reader : Reader) : Prop where
  framer_follows : reader.framer.Follows source (max plan.options.bufferSize 1)
    (plan.runIds source) progress.received progress.yielded
  awaits : ∀ asked looking, reader.stage = .reading asked looking → reader.framer.Awaits asked

namespace Session

variable {plan : Plan} {session next : Session} {source : Source}

/-- What the reads of a source have brought, and what its framer has handed out. -/
def progress (session : Session) (source : Source) : Progress where
  received := (selected (Entry.brought? source) session.journal).flatten
  yielded := ofSource source session.framed

/-- Every reader follows its pipe. -/
def ReadersFollow (plan : Plan) (session : Session) : Prop :=
  ∀ source reader, session.reader? source = some reader →
    reader.Follows plan source (session.progress source)

theorem readersFollow_create (plan : Plan) (stdout stderr : Option PipeScript)
    (sink : SinkBehaviour) : (create plan stdout stderr sink).ReadersFollow plan := by
  intro source reader hreader
  obtain ⟨pipe, -, rfl⟩ := exists_pipe_of_create hreader
  constructor
  · exact Framer.follows_create source _ _ _
  · exact fun _ _ hstage => ReaderStage.noConfusion hstage

/-- A step that is no reader's own. -/
theorem ReadersFollow.of_same (hfollow : session.ReadersFollow plan)
    (hstdout : next.stdout = session.stdout) (hstderr : next.stderr = session.stderr)
    (hprogress : next.progress = session.progress) : next.ReadersFollow plan := by
  intro source reader hreader
  have hbefore : session.reader? source = some reader := by
    cases source with
    | stdout => exact hstdout.symm.trans hreader
    | stderr => exact hstderr.symm.trans hreader
  rw [hprogress]
  exact hfollow source reader hbefore

/-- A step that puts another reader in the place of one. -/
theorem ReadersFollow.replace {after : Reader} (hfollow : session.ReadersFollow plan)
    (hreaders : ∀ other, next.reader? other =
      if other = source then some after else session.reader? other)
    (hothers : ∀ other, other ≠ source → next.progress other = session.progress other)
    (hafter : after.Follows plan source (next.progress source)) : next.ReadersFollow plan := by
  apply forall_reader_of_replace
    (motive := fun other reader => reader.Follows plan other (next.progress other)) hreaders _
    hafter
  intro other reader hother hreader
  rw [hothers other hother]
  exact hfollow other reader hreader

/-- A step of a reader that brings nothing and hands out nothing. -/
theorem ReadersFollow.replace_quiet {reader : Reader} (hfollow : session.ReadersFollow plan)
    (after : Reader) (hreader : session.reader? source = some reader)
    (hreaders : ∀ other, next.reader? other =
      if other = source then some after else session.reader? other)
    (hprogress : next.progress = session.progress) (hframer : after.framer = reader.framer)
    (hreading : ∀ asked looking, after.stage = .reading asked looking →
      after.framer.Awaits asked) : next.ReadersFollow plan := by
  apply hfollow.replace hreaders (fun other _ => congrFun hprogress other)
  rw [hprogress]
  have hfollows := (hfollow source reader hreader).framer_follows
  rw [← hframer] at hfollows
  exact ⟨hfollows, hreading⟩

theorem progress_endReader (session : Session) (source : Source) (reader : Reader)
    (result : TaskResult) :
    (session.endReader source reader result).progress = session.progress := by
  funext other
  simp [progress, framed]

theorem ReadersFollow.endReader {reader : Reader} (hfollow : session.ReadersFollow plan)
    (after : Reader) (hreader : session.reader? source = some reader)
    (hframer : after.framer = reader.framer)
    (result : TaskResult) : (session.endReader source after result).ReadersFollow plan :=
  hfollow.replace_quiet _ hreader (fun other => reader?_endReader session source other after result)
    (progress_endReader session source after result) hframer
    fun _ _ hstage => ReaderStage.noConfusion hstage

theorem SendMove.progress_eq {sending : Sending} {progress : SendProgress}
    (hsend : session.SendMove plan sending next progress) : next.progress = session.progress := by
  funext source
  have hframed : next.framed = session.framed := congrArg Ledger.framed hsend.ledger_eq
  have hbrought : selected (Entry.brought? source) next.journal =
      selected (Entry.brought? source) session.journal :=
    hsend.selected_eq (fun _ _ => rfl) (fun _ _ => rfl) (fun _ => rfl) fun _ _ => rfl
  rw [Session.progress, Session.progress, hframed, hbrought]

theorem ReadersFollow.send {sending : Sending} {progress : SendProgress}
    (hfollow : session.ReadersFollow plan)
    (hsend : session.SendMove plan sending next progress) : next.ReadersFollow plan := by
  obtain ⟨-, -, hstdout, hstderr, -⟩ := hsend.keeps
  exact hfollow.of_same hstdout hstderr hsend.progress_eq

/-! ## Steps -/

/-- The framer hands out a message, and the bytes stay as they are. -/
theorem ReadersFollow.frame {reader : Reader} {message : Message} {framer : Framer}
    {cancelled : Bool} (hfollow : session.ReadersFollow plan) (after : Reader)
    (hreader : session.reader? source = some reader)
    (hdemand : reader.framer.demand cancelled = .message message framer)
    (hreaders : ∀ other, next.reader? other =
      if other = source then some after else session.reader? other)
    (hbrought : ∀ other, (next.progress other).received = (session.progress other).received)
    (hframed : next.framed = session.framed ++ [message]) (hframer : after.framer = framer)
    (hstage : ∀ asked looking, after.stage ≠ .reading asked looking) :
    next.ReadersFollow plan := by
  have hfollows := (hfollow source reader hreader).framer_follows
  obtain ⟨rest, hpending, hrest⟩ := Framer.pending_of_demand hdemand
  have hsource := hfollows.source_eq_of_pending hpending
  have hyielded : ∀ other, (next.progress other).yielded =
      (session.progress other).yielded ++ if other = source then [message] else [] := by
    intro other
    rw [progress, progress, hframed, ofSource, ofSource, List.filter_append]
    by_cases hother : other = source
    · simp [hother, hsource]
    · simp [hother, hsource, Ne.symm hother]
  refine hfollow.replace hreaders (fun other hother => ?_) ⟨?_, fun asked looking hreading => ?_⟩
  · apply Progress.ext (hbrought other)
    rw [hyielded, if_neg hother, List.append_nil]
  · rw [hbrought, hyielded, if_pos rfl, hframer, hrest]
    exact hfollows.yield hpending
  · exact absurd hreading (hstage asked looking)

/-- A read brings bytes, or none at all at the end of the stream. -/
theorem ReadersFollow.bring {reader : Reader} {asked : Nat} {looking : Bool}
    (hfollow : session.ReadersFollow plan) (after : Reader) (bytes : Bytes) (now : Timestamp)
    (hreader : session.reader? source = some reader)
    (hstage : reader.stage = .reading asked looking) (hfits : bytes.length ≤ asked)
    (hreaders : ∀ other, next.reader? other =
      if other = source then some after else session.reader? other)
    (hbrought : ∀ other, (next.progress other).received =
      (session.progress other).received ++ if other = source then bytes else [])
    (hframed : next.framed = session.framed)
    (hframer : after.framer = (reader.framer.receive (plan.runIds source) now bytes).1)
    (hasking : after.stage = .asking) : next.ReadersFollow plan := by
  have hfollows := hfollow source reader hreader
  have hawaits := hfollows.awaits asked looking hstage
  have hyielded : ∀ other, (next.progress other).yielded = (session.progress other).yielded := by
    intro other
    rw [progress, progress, hframed]
  refine hfollow.replace hreaders (fun other hother => ?_) ⟨?_, fun _ _ hreading => ?_⟩
  · refine Progress.ext ?_ (hyielded other)
    rw [hbrought, if_neg hother, List.append_nil]
  · rw [hbrought, hyielded, if_pos rfl, hframer]
    exact hfollows.framer_follows.receive hawaits hfits now
  · exact absurd (hasking.symm.trans hreading) ReaderStage.noConfusion

theorem ReadersFollow.read {reader : Reader} {asked : Nat} {looking : Bool}
    (hfollow : session.ReadersFollow plan) (hreader : session.reader? source = some reader)
    (hstage : reader.stage = .reading asked looking)
    (hread : session.ReadMove plan source reader asked looking next) :
    next.ReadersFollow plan := by
  have hawaits := (hfollow source reader hreader).awaits asked looking hstage
  cases hread with
  | brings bytes pipe hlook =>
      refine hfollow.bring ⟨(reader.framer.receive (plan.runIds source)
        (plan.timeOfDay session.clock) bytes).1, pipe, .asking⟩ bytes
        (plan.timeOfDay session.clock) hreader hstage (PipeScript.length_le_of_look hlook)
        (fun other => ?_) (fun other => ?_) ?_ rfl rfl
      · simp [reader?_setReader]
      · by_cases hother : other = source
        · simp [progress, hother]
        · simp [progress, hother, Ne.symm hother]
      · simp [framed]
  | startsAgain failure pipe =>
      refine hfollow.replace_quiet ⟨reader.framer, pipe, .asking⟩ hreader (fun other => ?_) ?_ rfl
        fun _ _ hreading => ReaderStage.noConfusion hreading
      · simp [reader?_setReader]
      · funext other
        simp [progress, framed]
  | fails failure pipe =>
      have hnoted : (session.note (.readDone source asked (.failed failure))).ReadersFollow plan := by
        refine hfollow.of_same rfl rfl ?_
        funext other
        simp [progress, framed]
      exact hnoted.endReader { reader with pipe := pipe } ((reader?_note _ _ _).trans hreader) rfl
        (.failed (.read source failure))
  | crashes pipe => exact hfollow.endReader { reader with pipe := pipe } hreader rfl .crashed
  | cancels pipe =>
      refine hfollow.replace_quiet ⟨reader.framer, pipe, .reading asked true⟩ hreader
        (fun other => ?_) ?_ rfl fun _ _ hreading => (ReaderStage.reading.inj hreading).1 ▸ hawaits
      · simp [reader?_setReader]
      · funext other
        simp [progress, framed]
  | waits until? pipe =>
      refine hfollow.replace_quiet ⟨reader.framer, pipe, .reading asked false⟩ hreader
        (fun other => ?_) ?_ rfl fun _ _ hreading => (ReaderStage.reading.inj hreading).1 ▸ hawaits
      · simp [reader?_setReader]
      · funext other
        simp [progress, framed]

theorem ReadersFollow.reader {reader : Reader} (hfollow : session.ReadersFollow plan)
    (hreader : session.reader? source = some reader)
    (hmove : session.ReaderMove plan source reader next) : next.ReadersFollow plan := by
  cases hmove with
  | offers message framer buffer hstage hdemand hbuffer =>
      refine hfollow.frame { reader with framer := framer, stage := .asking } hreader hdemand
        (fun other => ?_) (fun other => ?_) ?_ rfl
        fun _ _ hreading => ReaderStage.noConfusion hreading
      · simp [reader?_setReader]
        rfl
      · cases haccepts : buffer.accepts message <;> simp [progress]
      · cases haccepts : buffer.accepts message <;> simp [framed]
  | hands message framer hstage hdemand hbuffer =>
      refine hfollow.frame ⟨framer, reader.pipe,
        .sending ((session.note (.framed message)).hand plan message).2⟩ hreader hdemand
        (fun other => ?_) (fun other => ?_) ?_ rfl
        fun _ _ hreading => ReaderStage.noConfusion hreading
      · simp [reader?_setReader]
        rfl
      · simp [progress]
      · simp [framed]
  | finishes hstage hdemand => exact hfollow.endReader reader hreader rfl .finished
  | begins asked hstage hdemand =>
      obtain ⟨-, hended, hasked, -⟩ := Framer.read_of_demand hdemand
      have hawaits := (hfollow source reader hreader).framer_follows.awaits hended
      rw [← hasked] at hawaits
      refine hfollow.replace_quiet { reader with stage := .reading asked false } hreader
        (fun other => ?_) ?_ rfl fun _ _ hreading => (ReaderStage.reading.inj hreading).1 ▸ hawaits
      · simp [reader?_setReader]
      · funext other
        simp [progress, framed]
  | leaves => exact hfollow.endReader reader hreader rfl .finished
  | reads asked looking next hstage hgoes hread => exact hfollow.read hreader hstage hread
  | sendGoesOn sending later sent hstage hdue hsend =>
      refine (hfollow.send hsend).replace_quiet { reader with stage := .sending later }
        ((hsend.reader?_eq source).trans hreader) (fun other => ?_) ?_ rfl
        fun _ _ hreading => ReaderStage.noConfusion hreading
      · rw [reader?_setReader]
      · funext other
        simp [progress, framed]
  | sendOver sending sent hstage hdue hsend =>
      refine (hfollow.send hsend).replace_quiet { reader with stage := .asking }
        ((hsend.reader?_eq source).trans hreader) (fun other => ?_) ?_ rfl
        fun _ _ hreading => ReaderStage.noConfusion hreading
      · rw [reader?_setReader]
      · funext other
        simp [progress, framed]
  | sendCrashes sending sent hstage hdue hsend =>
      exact (hfollow.send hsend).endReader reader ((hsend.reader?_eq source).trans hreader) rfl
        .crashed

theorem ReadersFollow.cancel (hfollow : session.ReadersFollow plan) :
    session.cancel.ReadersFollow plan := by
  apply hfollow.of_same (by simp) (by simp)
  funext source
  simp [progress, framed]

theorem ReadersFollow.abortReader (hfollow : session.ReadersFollow plan) (source : Source) :
    (session.abortReader source).ReadersFollow plan := by
  rw [Session.abortReader]
  split
  · next reader hreader =>
      split
      · exact hfollow
      · exact hfollow.endReader reader hreader rfl .aborted
  · exact hfollow

theorem ReadersFollow.endDrain (hfollow : session.ReadersFollow plan) (result : TaskResult) :
    (session.endDrain result).ReadersFollow plan := by
  apply hfollow.of_same (by simp) (by simp)
  funext source
  simp [progress, framed]

theorem ReadersFollow.abortDrain (hfollow : session.ReadersFollow plan) :
    session.abortDrain.ReadersFollow plan := by
  rw [Session.abortDrain]
  split
  · exact hfollow
  · exact hfollow.endDrain .aborted
  · exact hfollow

theorem ReadersFollow.ready (hfollow : session.ReadersFollow plan) :
    (session.ready plan).ReadersFollow plan := by
  have hnoted : (session.note .readyCalled).ReadersFollow plan := by
    refine hfollow.of_same rfl rfl ?_
    funext source
    simp [progress, framed]
  rw [Session.ready]
  cases plan.readyError with
  | none => exact hnoted.of_same rfl rfl rfl
  | some error =>
      have haborted := ((hnoted.cancel.abortReader .stdout).abortReader .stderr).abortDrain
      exact haborted.of_same rfl rfl rfl

theorem ReadersFollow.main {stage : MainStage} (hfollow : session.ReadersFollow plan)
    (hmove : session.MainMove plan stage next) : next.ReadersFollow plan := by
  cases hmove with
  | refuses | launches | skipsFlush | stops | finishes => exact hfollow.of_same rfl rfl rfl
  | ready => exact hfollow.ready
  | flushes | hands =>
      apply hfollow.of_same (by simp) (by simp)
      funext source
      simp [progress, framed]
  | endsFlush =>
      unfold finishFlush
      refine hfollow.of_same ?_ ?_ ?_
      · dsimp only
        split <;> rfl
      · dsimp only
        split <;> rfl
      · funext source
        dsimp only
        split <;> simp [clean, progress, framed]
  | sendGoesOn sending later remaining sent hdue hsend =>
      exact (hfollow.send hsend).of_same rfl rfl rfl
  | sendOver sending remaining sent hdue hsend =>
      exact (hfollow.send hsend).of_same rfl rfl rfl
  | sendCrashes sending remaining sent hdue hsend =>
      exact (hfollow.send hsend).of_same rfl rfl rfl

theorem ReadersFollow.drain {buffer : Buffer} {stage : DrainStage}
    (hfollow : session.ReadersFollow plan) (hmove : session.DrainMove plan buffer stage next) :
    next.ReadersFollow plan := by
  cases hmove with
  | takes =>
      apply hfollow.of_same (by simp [setDrain]) (by simp [setDrain])
      funext source
      simp [setDrain, progress, framed]
  | finishes => exact hfollow.endDrain .finished
  | sendGoesOn sending later sent hdue hsend =>
      exact (hfollow.send hsend).of_same rfl rfl rfl
  | sendOver sending sent hdue hsend =>
      exact (hfollow.send hsend).of_same rfl rfl rfl
  | sendCrashes sending sent hdue hsend => exact (hfollow.send hsend).endDrain .crashed

theorem ReadersFollow.move {event : SessionEvent} (hfollow : session.ReadersFollow plan)
    (hmove : session.Move plan event next) : next.ReadersFollow plan := by
  cases hmove with
  | pass => exact hfollow.of_same rfl rfl rfl
  | cancel => exact hfollow.cancel
  | reader source reader next hlaunched hreader hmove => exact hfollow.reader hreader hmove
  | drain stage buffer next hlaunched hdrain hbuffer hmove => exact hfollow.drain hmove
  | join task result next hmain hresult hmem hmove =>
      cases hmove with
      | ends | fails =>
          apply hfollow.of_same (by simp) (by simp)
          funext source
          simp [progress, framed]
  | main next hmove => exact hfollow.main hmove
  | tracer action tracer sample? =>
      cases sample? with
      | none => exact hfollow.of_same rfl rfl rfl
      | some sample =>
          refine hfollow.of_same rfl rfl ?_
          funext source
          simp [progress, framed]

end Session

end LogRelay
