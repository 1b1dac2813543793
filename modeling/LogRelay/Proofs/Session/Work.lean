import LogRelay.Proofs.Behaviour.Pipe
import LogRelay.Proofs.Buffer.Messages
import LogRelay.Proofs.Session.Reading
import LogRelay.Proofs.Session.Sending

/-!
# Work that is left

How much the tasks of a session can still do, whatever comes of it.  A byte of a
pipe may become a message, a message costs its place in the buffer and all
attempts of the policy, and what ends has to be joined.  Every step of a reader,
of the drain and of the main task is paid for by the work that is left, and
nothing else adds to it; so there are only so many of these steps.
-/

namespace LogRelay

/-- The calls and pauses that a delivery may still need. -/
def Sending.rank (sending : Sending) : Nat :=
  2 * (sending.delivery.attempts - sending.delivery.made) +
    match sending.stage with
    | .calling _ _ => 1
    | .pausing _ => 2

def ReaderStage.weight (stage : ReaderStage) : Nat :=
  match stage with
  | .asking => 1
  | .reading _ looking => if looking then 1 else 0
  | .sending delivery => delivery.rank + 1
  | .ended _ => 0

variable (attempts : Nat)

/-- What a message that its reader has not passed on may cost. -/
def messageWeight : Nat := 2 * attempts + 1

/-- A byte, and the end of the stream, may become a message. -/
def byteWeight : Nat := messageWeight attempts + 2

/-- What a reader at work can still do if each message gets that many attempts. -/
def Reader.work (reader : Reader) : Nat :=
  match reader.stage with
  | .ended _ => 0
  | stage =>
    2 + stage.weight + messageWeight attempts * reader.framer.pending.length +
      (if reader.framer.ended then 0 else byteWeight attempts) +
      reader.pipe.weight (byteWeight attempts)

def DrainStage.work (stage : DrainStage) : Nat :=
  match stage with
  | .waiting => 2
  | .sending delivery => 2 + delivery.rank
  | .ended _ => 0

def MainStage.work : MainStage → Nat
  | .starting => 8
  | .launched => 7
  | .joining => 6
  | .flushing remaining => 3 + 2 * attempts * remaining.length
  | .flushSending sending remaining => 3 + sending.rank + 2 * attempts * remaining.length
  | .cleaning _ => 2
  | .stopping _ => 1
  | .done _ | .crashed => 0

namespace Session

/-- How many messages are in the buffer. -/
def held (session : Session) : Nat :=
  (session.buffer.map (·.messages.length)).getD 0

def readersWork (session : Session) : Nat :=
  (session.stdout.map (Reader.work attempts)).getD 0 +
    (session.stderr.map (Reader.work attempts)).getD 0

/-- The work of a session. -/
def work (session : Session) : Nat :=
  session.readersWork attempts + (session.drain.map DrainStage.work).getD 0 +
    2 * attempts * session.held + session.main.work attempts + session.toJoin.length

end Session

/-! ## Deliveries -/

variable {attempts}

theorem Sending.rank_pos (sending : Sending) : 0 < sending.rank := by
  rw [rank]
  split <;> omega

namespace Session

variable {plan : Plan} {session next : Session} {sending later : Sending}

theorem SendMove.rank_lt (hsend : session.SendMove plan sending next (.goesOn later)) :
    later.rank < sending.rank := by
  cases hsend with
  | recalls wakeAt hstage =>
      simp only [Sending.rank, call, hstage]
      omega
  | pauses answerAt reply duration delivery hstage hanswer =>
      obtain ⟨hmade, -, rfl⟩ := Delivery.answer_eq_pause hanswer
      simp only [Sending.rank, hstage]
      omega

theorem rank_hand (plan : Plan) (session : Session) (message : Message) :
    (session.hand plan message).2.rank + 1 = 2 * plan.options.retry.attempts := by
  have hpos : 0 < plan.options.retry.attempts :=
    Nat.lt_of_lt_of_le Nat.one_pos (Nat.le_max_right _ _)
  simp only [hand, call, Sending.rank, Delivery.start]
  omega

/-! ## Readers -/

theorem Reader.work_of_not_ended (attempts : Nat) {reader : Reader}
    (hwork : reader.atWork = 1) :
    reader.work attempts =
      2 + reader.stage.weight + messageWeight attempts * reader.framer.pending.length +
        (if reader.framer.ended then 0 else byteWeight attempts) +
        reader.pipe.weight (byteWeight attempts) := by
  rw [Reader.atWork] at hwork
  rw [Reader.work]
  cases hstage : reader.stage with
  | ended result => simp [hstage] at hwork
  | asking | reading | sending => rfl

/-- What a read brings is worth more than the messages that it can make. -/
theorem work_receive_lt (attempts : Nat) {reader : Reader} {source : Source} {asked : Nat}
    {looking : Bool} {bytes : Bytes} {pipe : PipeScript}
    (hstage : reader.stage = .reading asked looking) (hawaits : reader.framer.Awaits asked)
    (hlook : reader.pipe.look session.clock asked = (.ready (.data bytes), pipe))
    (now : Timestamp) :
    Reader.work attempts ⟨(reader.framer.receive (plan.runIds source) now bytes).1, pipe,
      .asking⟩ < reader.work attempts := by
  have hpending := Nat.mul_le_mul_left (messageWeight attempts)
    (hawaits.length_pending_receive_le (PipeScript.length_le_of_look hlook) (plan.runIds source)
      now)
  have hpipe := PipeScript.weight_look (byteWeight attempts) session.clock asked reader.pipe
  simp only [hlook, PipeScript.reportWeight] at hpipe
  have hbyte : byteWeight attempts * bytes.length =
      messageWeight attempts * bytes.length + 2 * bytes.length := Nat.add_mul _ _ _
  have hend : byteWeight attempts = messageWeight attempts + 2 := rfl
  simp only [Reader.work, hstage, ReaderStage.weight, Framer.ended_receive, hawaits.going]
  rw [Nat.mul_add] at hpending
  cases bytes with
  | nil =>
      simp only [List.length_nil, List.isEmpty_nil, Bool.false_or, if_true, Bool.false_eq_true,
        if_false, Nat.zero_max, Nat.mul_one] at *
      omega
  | cons byte bytes =>
      have hmax : max (byte :: bytes).length 1 = (byte :: bytes).length :=
        Nat.max_eq_left (Nat.succ_le_of_lt (Nat.succ_pos _))
      have hpos : 0 < (byte :: bytes).length := Nat.succ_pos _
      rw [hmax] at hpending
      simp only [List.isEmpty_cons, Bool.or_false, Bool.false_eq_true, if_false] at *
      omega

/-- How much of the work is in the buffer. -/
def heldWork (attempts : Nat) (session : Session) : Nat :=
  2 * attempts * session.held

theorem held_of_closeProducer (hbuffer : next.buffer = session.buffer.map Buffer.closeProducer) :
    next.held = session.held := by
  rw [held, held, hbuffer, Option.map_map]
  rfl

theorem Reader.work_pos (attempts : Nat) {reader : Reader} (hwork : reader.atWork = 1) :
    2 ≤ reader.work attempts := by
  rw [Reader.work_of_not_ended attempts hwork]
  omega

theorem Reader.work_ended (attempts : Nat) (framer : Framer) (pipe : PipeScript)
    (result : TaskResult) : Reader.work attempts ⟨framer, pipe, .ended result⟩ = 0 := rfl

/-- A step that puts another reader in the place of one, at the cost of some of its
work. -/
def Spends (attempts : Nat) (source : Source) (reader : Reader) (session next : Session) : Prop :=
  ∃ after : Reader,
    next.stdout = (if source = .stdout then some after else session.stdout) ∧
    next.stderr = (if source = .stderr then some after else session.stderr) ∧
    after.work attempts + (heldWork attempts next + next.toJoin.length) <
      reader.work attempts + heldWork attempts session + session.toJoin.length

/-- A reader that has ended waits to be joined, which is less than it could do. -/
theorem spends_endReader {source : Source} {reader : Reader} (attempts : Nat) (last : Reader)
    (result : TaskResult) (hwork : reader.atWork = 1) (hstdout : next.stdout = session.stdout)
    (hstderr : next.stderr = session.stderr) (hbuffer : next.buffer = session.buffer)
    (htoJoin : next.toJoin = session.toJoin) :
    Spends attempts source reader session (next.endReader source last result) := by
  refine ⟨{ last with stage := .ended result }, by simp [hstdout], by simp [hstderr], ?_⟩
  have hheld : (next.endReader source last result).held = session.held := by
    apply held_of_closeProducer
    simp [hbuffer]
  have hpos := Reader.work_pos attempts hwork
  rw [Reader.work_ended, Nat.zero_add]
  simp only [heldWork, hheld, endReader_keeps, htoJoin, List.length_append,
    List.length_singleton]
  omega

/-- A read costs some of the work of its reader. -/
theorem ReadMove.work_lt {source : Source} {reader : Reader} {asked : Nat} {looking : Bool}
    (attempts : Nat) (hstage : reader.stage = .reading asked looking)
    (hawaits : reader.framer.Awaits asked) (hwork : reader.atWork = 1)
    (hread : session.ReadMove plan source reader asked looking next) :
    Spends attempts source reader session next := by
  have hreader := Reader.work_of_not_ended attempts hwork
  have hpipe := PipeScript.weight_look (byteWeight attempts) session.clock asked reader.pipe
  cases hread with
  | brings bytes pipe hlook =>
      have hless : Reader.work attempts ⟨(reader.framer.receive (plan.runIds source)
          (plan.timeOfDay session.clock) bytes).1, pipe, .asking⟩ < reader.work attempts :=
        work_receive_lt attempts hstage hawaits hlook _
      refine ⟨⟨(reader.framer.receive (plan.runIds source) (plan.timeOfDay session.clock) bytes).1,
        pipe, .asking⟩, by simp, by simp, ?_⟩
      simp only [heldWork, held, record_keeps, setReader_keeps, note_keeps]
      omega
  | startsAgain failure pipe hlook hfailure =>
      simp only [hlook, PipeScript.reportWeight] at hpipe
      refine ⟨{ reader with pipe := pipe, stage := .asking }, by simp, by simp, ?_⟩
      rw [hreader]
      simp only [Reader.work, hstage, ReaderStage.weight, heldWork, held, note_keeps,
        setReader_keeps]
      omega
  | fails failure pipe hlook hfailure =>
      exact spends_endReader attempts _ _ hwork (by simp) (by simp) (by simp) (by simp)
  | crashes pipe hlook => exact spends_endReader attempts _ _ hwork rfl rfl rfl rfl
  | cancels pipe hlook =>
      simp only [hlook, PipeScript.reportWeight] at hpipe
      refine ⟨{ reader with pipe := pipe, stage := .reading asked true }, by simp, by simp, ?_⟩
      rw [hreader]
      simp only [Reader.work, hstage, ReaderStage.weight, heldWork, held, cancel_keeps,
        setReader_keeps, if_true]
      omega
  | waits until? pipe hlook hwaits =>
      refine ⟨{ reader with pipe := pipe, stage := .reading asked false }, by simp, by simp, ?_⟩
      simp only [hlook, PipeScript.reportWeight] at hpipe
      rw [hreader]
      simp only [Reader.work, hstage, ReaderStage.weight, heldWork, held, setReader_keeps,
        Bool.false_eq_true, if_false]
      -- A reader that was not looking begins to wait, and one that was looks no more.
      cases looking with
      | true => simp only [if_true]; omega
      | false =>
          rw [Bool.not_false, Bool.and_true] at hwaits
          have hless := PipeScript.weight_look_of_pending (byteWeight attempts) hwaits hlook
          simp only [Bool.false_eq_true, if_false]
          omega

/-- A step of a reader costs some of its work. -/
theorem ReaderMove.work_lt {source : Source} {reader : Reader} {attempts : Nat}
    (hattempts : attempts = plan.options.retry.attempts)
    (hawaits : ∀ asked looking, reader.stage = .reading asked looking →
      reader.framer.Awaits asked)
    (hmove : session.ReaderMove plan source reader next) :
    Spends attempts source reader session next := by
  have hwork := hmove.changes.1
  have hreader := Reader.work_of_not_ended attempts hwork
  cases hmove with
  | offers message framer buffer hstage hdemand hbuffer =>
      obtain ⟨rest, hpending, rfl⟩ := Framer.pending_of_demand hdemand
      refine ⟨{ reader with framer := { reader.framer with pending := rest }, stage := .asking },
        by simp, by simp, ?_⟩
      have hheld : (buffer.enqueue message).messages.length ≤ buffer.messages.length + 1 := by
        rw [Buffer.messages_enqueue, List.length_append]
        split <;> simp
      have hcost := Nat.mul_le_mul_left (2 * attempts) hheld
      rw [hreader]
      simp only [Reader.work, hstage, ReaderStage.weight, hpending, List.length_cons, heldWork,
        held, hbuffer, note_keeps, setReader_keeps, Option.map_some, Option.getD_some]
      simp only [messageWeight, Nat.mul_add] at hcost ⊢
      omega
  | hands message framer hstage hdemand hbuffer =>
      obtain ⟨rest, hpending, rfl⟩ := Framer.pending_of_demand hdemand
      refine ⟨⟨{ reader.framer with pending := rest }, reader.pipe,
        .sending ((session.note (.framed message)).hand plan message).2⟩, by simp, by simp, ?_⟩
      have hrank := rank_hand plan (session.note (.framed message)) message
      rw [hreader]
      simp only [Reader.work, hstage, ReaderStage.weight, hpending, List.length_cons, heldWork,
        held, hbuffer, note_keeps, setReader_keeps, hand_keeps, Option.map_none, Option.getD_none]
      simp only [messageWeight, Nat.mul_add]
      omega
  | finishes | leaves => exact spends_endReader attempts _ _ hwork rfl rfl rfl rfl
  | begins asked hstage =>
      refine ⟨{ reader with stage := .reading asked false }, by simp, by simp, ?_⟩
      rw [hreader]
      simp only [Reader.work, hstage, ReaderStage.weight, heldWork, held, note_keeps,
        setReader_keeps, Bool.false_eq_true, if_false]
      omega
  | reads asked looking next hstage hgoes hread =>
      exact hread.work_lt attempts hstage (hawaits asked looking hstage) hwork
  | sendGoesOn sending later sent hstage hdue hsend =>
      have hrank := hsend.rank_lt
      refine ⟨{ reader with stage := .sending later }, by simp [hsend.keeps], by simp [hsend.keeps],
        ?_⟩
      rw [hreader]
      simp only [Reader.work, hstage, ReaderStage.weight, heldWork, held, setReader_keeps,
        hsend.keeps]
      omega
  | sendOver sending sent hstage hdue hsend =>
      have hrank := sending.rank_pos
      refine ⟨{ reader with stage := .asking }, by simp [hsend.keeps], by simp [hsend.keeps], ?_⟩
      rw [hreader]
      simp only [Reader.work, hstage, ReaderStage.weight, heldWork, held, setReader_keeps,
        hsend.keeps]
      omega
  | sendCrashes sending sent hstage hdue hsend =>
      exact spends_endReader attempts _ _ hwork (by simp [hsend.keeps]) (by simp [hsend.keeps])
        (by simp [hsend.keeps]) (by simp [hsend.keeps])

/-! ## The other tasks -/

theorem DrainMove.work_lt {buffer : Buffer} {stage : DrainStage} {attempts : Nat}
    (hattempts : attempts = plan.options.retry.attempts) (hbuffer : session.buffer = some buffer)
    (hmove : session.DrainMove plan buffer stage next) :
    ∃ after, next.drain = some after ∧
      after.work + (heldWork attempts next + next.toJoin.length) <
        stage.work + heldWork attempts session + session.toJoin.length := by
  cases hmove with
  | takes message rest hdequeue =>
      have hrank := rank_hand plan { session with buffer := some rest } message
      refine ⟨_, rfl, ?_⟩
      simp only [DrainStage.work, heldWork, held, setDrain, hand_keeps, hbuffer, Option.map_some,
        Option.getD_some, Buffer.messages_of_dequeue? hdequeue, List.length_cons, Nat.mul_succ]
      omega
  | finishes =>
      refine ⟨_, (endDrain_keeps _ _).2.2.2.2.1, ?_⟩
      simp only [DrainStage.work, heldWork, held, endDrain_keeps, List.length_append,
        List.length_singleton]
      omega
  | sendGoesOn sending later sent hdue hsend =>
      have hrank := hsend.rank_lt
      refine ⟨_, rfl, ?_⟩
      simp only [DrainStage.work, heldWork, held, setDrain, hsend.keeps]
      omega
  | sendOver sending sent hdue hsend =>
      have hrank := sending.rank_pos
      refine ⟨_, rfl, ?_⟩
      simp only [DrainStage.work, heldWork, held, setDrain, hsend.keeps]
      omega
  | sendCrashes sending sent hdue hsend =>
      refine ⟨_, (endDrain_keeps _ _).2.2.2.2.1, ?_⟩
      simp only [DrainStage.work, heldWork, held, endDrain_keeps, hsend.keeps, List.length_append,
        List.length_singleton]
      omega

theorem readersWork_of_same (attempts : Nat) (hstdout : next.stdout = session.stdout)
    (hstderr : next.stderr = session.stderr) :
    next.readersWork attempts = session.readersWork attempts := by
  rw [readersWork, readersWork, hstdout, hstderr]

theorem work_of_same (attempts : Nat) (hstdout : next.stdout = session.stdout)
    (hstderr : next.stderr = session.stderr) (hdrain : next.drain = session.drain)
    (hbuffer : next.buffer = session.buffer) (hmain : next.main = session.main)
    (htoJoin : next.toJoin = session.toJoin) : next.work attempts = session.work attempts := by
  simp only [work, readersWork, held, hstdout, hstderr, hdrain, hbuffer, hmain, htoJoin]

theorem work_endReader_lt (attempts : Nat) {source : Source} {reader : Reader}
    {result : TaskResult} (hreader : session.reader? source = some reader)
    (hwork : reader.atWork = 1) :
    (session.endReader source reader result).work attempts < session.work attempts := by
  have hpos := Reader.work_pos attempts hwork
  have hheld : (session.endReader source reader result).held = session.held :=
    held_of_closeProducer (by simp)
  cases source with
  | stdout =>
      have hstdout : session.stdout = some reader := hreader
      simp only [work, readersWork, hheld, hstdout, stdout_endReader, stderr_endReader, if_true,
        reduceCtorEq, if_false, endReader_keeps, Option.map_some, Option.getD_some,
        Reader.work_ended, List.length_append, List.length_singleton]
      omega
  | stderr =>
      have hstderr : session.stderr = some reader := hreader
      simp only [work, readersWork, hheld, hstderr, stdout_endReader, stderr_endReader, if_true,
        reduceCtorEq, if_false, endReader_keeps, Option.map_some, Option.getD_some,
        Reader.work_ended, List.length_append, List.length_singleton]
      omega

theorem work_abortReader_le (attempts : Nat) (session : Session) (source : Source) :
    (session.abortReader source).work attempts ≤ session.work attempts := by
  unfold abortReader
  cases hreader : session.reader? source with
  | none => exact Nat.le_refl _
  | some reader =>
      cases hstage : reader.stage with
      | ended result => simp only [hstage, Nat.le_refl]
      | asking | reading | sending =>
          simp only [hstage]
          exact Nat.le_of_lt (work_endReader_lt attempts hreader (by rw [Reader.atWork, hstage]))

theorem work_abortDrain_le (attempts : Nat) (session : Session) :
    session.abortDrain.work attempts ≤ session.work attempts := by
  have hends : ∀ stage, session.drain = some stage → stage.atWork = 1 →
      (session.endDrain .aborted).work attempts ≤ session.work attempts := by
    intro stage hdrain hwork
    have hpos : 2 ≤ stage.work := by
      cases stage with
      | waiting => exact Nat.le_refl _
      | sending sending => exact Nat.le_add_right _ _
      | ended result => exact absurd hwork Nat.zero_ne_one
    have hended : (session.endDrain .aborted).work attempts + stage.work =
        session.work attempts + 1 := by
      simp only [work, readersWork, held, hdrain, endDrain_keeps, Option.map_some,
        Option.getD_some, DrainStage.work, List.length_append, List.length_singleton]
      omega
    omega
  unfold abortDrain
  cases hdrain : session.drain with
  | none => exact Nat.le_refl _
  | some stage =>
      cases stage with
      | ended result => exact Nat.le_refl _
      | waiting => exact hends _ hdrain rfl
      | sending sending => exact hends _ hdrain rfl

theorem work_ready_lt (attempts : Nat) (hmain : session.main = .launched) :
    (session.ready plan).work attempts < session.work attempts := by
  unfold ready
  cases plan.readyError with
  | none =>
      simp only [work, readersWork, held, hmain, MainStage.work, note_keeps]
      omega
  | some error =>
      have hnoted : (session.note .readyCalled).cancel.work attempts = session.work attempts :=
        work_of_same attempts (by simp) (by simp) (by simp) (by simp) (by simp) (by simp)
      have haborted := Nat.le_trans (work_abortDrain_le attempts _) (Nat.le_trans
        (work_abortReader_le attempts _ .stderr) (work_abortReader_le attempts
          (session.note .readyCalled).cancel .stdout))
      have hstage : ((((session.note .readyCalled).cancel.abortReader .stdout).abortReader
          .stderr).abortDrain).main = .launched := by
        simp [abortDrain_leaves_others, abortReader_leaves_others, hmain]
      rw [hnoted] at haborted
      simp only [stop]
      generalize (((session.note .readyCalled).cancel.abortReader .stdout).abortReader
        .stderr).abortDrain = aborted at haborted hstage
      simp only [work, readersWork, held, hstage, MainStage.work] at haborted ⊢
      omega

theorem MainMove.work_lt {attempts : Nat} (hattempts : attempts = plan.options.retry.attempts)
    (hmove : session.MainMove plan session.main next) :
    next.work attempts < session.work attempts := by
  generalize hmain : session.main = stage at hmove
  cases hmove with
  | refuses | launches | stops | finishes =>
      simp only [work, readersWork, held, hmain, MainStage.work, stop]
      omega
  | ready => exact work_ready_lt attempts hmain
  | flushes buffer hunjoined hbuffer =>
      simp only [work, readersWork, held, hmain, MainStage.work, note_keeps, hbuffer,
        Option.map_some, Option.getD_some, Buffer.messages_flush, List.length_nil, Nat.mul_zero]
      omega
  | skipsFlush =>
      simp only [work, readersWork, held, hmain, MainStage.work, clean]
      omega
  | endsFlush =>
      have hother :
          (session.finishFlush plan).work attempts = (session.clean plan).work attempts := by
        unfold finishFlush
        dsimp only
        split <;> rfl
      rw [hother]
      simp only [work, readersWork, held, hmain, MainStage.work, clean, List.length_nil,
        Nat.mul_zero]
      omega
  | hands message remaining =>
      have hrank := rank_hand plan session message
      simp only [work, readersWork, held, hmain, MainStage.work, hand_keeps, List.length_cons,
        Nat.mul_succ]
      omega
  | sendGoesOn sending later remaining sent hdue hsend =>
      have hrank := hsend.rank_lt
      simp only [work, readersWork, held, hmain, MainStage.work, hsend.keeps]
      omega
  | sendOver sending remaining sent hdue hsend =>
      have hrank := sending.rank_pos
      simp only [work, readersWork, held, hmain, MainStage.work, hsend.keeps]
      omega
  | sendCrashes sending remaining sent hdue hsend =>
      simp only [work, readersWork, held, hmain, MainStage.work, hsend.keeps]
      omega

theorem JoinMove.work_lt {task : Task} {result : TaskResult} (attempts : Nat)
    (hmem : task ∈ session.toJoin) (hmove : session.JoinMove task result next) :
    next.work attempts < session.work attempts := by
  have hlength := List.length_erase_of_mem hmem
  have hpos := List.length_pos_of_mem hmem
  obtain ⟨-, hdrain, hmain, htoJoin, -⟩ := hmove.counts
  have hbuffer : next.buffer = session.buffer := hmove.ledger_eq.1
  have hreaders : next.readersWork attempts = session.readersWork attempts :=
    readersWork_of_same attempts (congrFun hmove.reader?_eq .stdout)
      (congrFun hmove.reader?_eq .stderr)
  simp only [work, held, hreaders, hdrain, hbuffer, hmain, htoJoin]
  omega

end Session

/-- The steps of the readers, the drain and the main task. -/
def SessionEvent.isWork : SessionEvent → Bool
  | .reader _ | .drain | .join _ | .main => true
  | .pass _ | .cancel | .tracer _ => false

namespace Session

variable {plan : Plan} {session next : Session}

/-- Every step of the work makes it less. -/
theorem Move.work_lt {event : SessionEvent} (hfollow : session.ReadersFollow plan)
    (hmove : session.Move plan event next) (hevent : event.isWork = true) :
    next.work plan.options.retry.attempts < session.work plan.options.retry.attempts := by
  cases hmove with
  | pass | cancel | tracer => exact absurd hevent Bool.noConfusion
  | reader source reader next hlaunched hreader hmove =>
      obtain ⟨after, hstdout, hstderr, hless⟩ :=
        hmove.work_lt rfl (hfollow source reader hreader).awaits
      obtain ⟨-, hmain, hdrain, -⟩ := hmove.changes
      cases source with
      | stdout =>
          have hbefore : session.stdout = some reader := hreader
          simp only [work, readersWork, hstdout, hstderr, hbefore, hdrain, hmain, if_true,
            reduceCtorEq, if_false, Option.map_some, Option.getD_some]
          simp only [heldWork] at hless
          omega
      | stderr =>
          have hbefore : session.stderr = some reader := hreader
          simp only [work, readersWork, hstdout, hstderr, hbefore, hdrain, hmain, if_true,
            reduceCtorEq, if_false, Option.map_some, Option.getD_some]
          simp only [heldWork] at hless
          omega
  | drain stage buffer next hlaunched hdrain hbuffer hmove =>
      obtain ⟨after, hafter, hless⟩ := hmove.work_lt rfl hbuffer
      have hmain := hmove.counts.2.2.1
      have hreaders : next.readersWork plan.options.retry.attempts =
          session.readersWork plan.options.retry.attempts :=
        readersWork_of_same _ (congrFun hmove.reader?_eq .stdout)
          (congrFun hmove.reader?_eq .stderr)
      simp only [work, hreaders, hafter, hdrain, hmain, Option.map_some, Option.getD_some]
      simp only [heldWork] at hless
      omega
  | join task result next hmain hresult hmem hmove => exact hmove.work_lt _ hmem
  | main next hmove => exact hmove.work_lt rfl

/-- What time, the outside and the reporting task leave as it is. -/
structure SameTasks (session next : Session) : Prop where
  stdout : next.stdout = session.stdout
  stderr : next.stderr = session.stderr
  drain : next.drain = session.drain
  buffer : next.buffer = session.buffer
  main : next.main = session.main
  toJoin : next.toJoin = session.toJoin
  unjoined : next.unjoined = session.unjoined

theorem Move.sameTasks {event : SessionEvent} (hmove : session.Move plan event next)
    (hevent : event.isWork = false) : session.SameTasks next := by
  cases hmove with
  | pass => exact ⟨rfl, rfl, rfl, rfl, rfl, rfl, rfl⟩
  | cancel => constructor <;> simp
  | tracer action tracer sample? => cases sample? <;> exact ⟨rfl, rfl, rfl, rfl, rfl, rfl, rfl⟩
  | reader | drain | join | main => exact absurd hevent.symm Bool.false_ne_true

theorem SameTasks.work_eq (hsame : session.SameTasks next) (attempts : Nat) :
    next.work attempts = session.work attempts :=
  work_of_same attempts hsame.stdout hsame.stderr hsame.drain hsame.buffer hsame.main hsame.toJoin

/-- Nothing adds to the work. -/
theorem Move.work_le {event : SessionEvent} (hfollow : session.ReadersFollow plan)
    (hmove : session.Move plan event next) :
    next.work plan.options.retry.attempts ≤ session.work plan.options.retry.attempts := by
  cases hevent : event.isWork with
  | true => exact Nat.le_of_lt (hmove.work_lt hfollow hevent)
  | false => exact Nat.le_of_eq ((hmove.sameTasks hevent).work_eq _)

end Session

end LogRelay
