import LogRelay.Proofs.Session.Counting
import LogRelay.Proofs.Session.InOrder

/-!
# The bytes of a session are accounted for

A message that has been handed to the dispatcher is delivered or abandoned in the end,
and one that has not was refused by the buffer.  What the framers have yielded, with
the newlines and what a framer still holds when it is left, is what the reads have
brought.  So the samples of a session in which nothing crashes balance.
-/

namespace LogRelay

/-- The messages that have been handed over are those that have been delivered, those that
have been given up and those that are under way. -/
def Books.Settle (books : Books) (underWay : Multiset Message) : Prop :=
  (books.handed : Multiset Message) = books.delivered + books.abandoned + underWay

/-- The buffer of the framer is empty when it has seen the end of the stream, and the
reader finishes only then or when the session is cancelled. -/
structure Reader.Stops (cancelled : Bool) (reader : Reader) : Prop where
  held : reader.framer.ended = true → reader.framer.buffer = []
  finished : reader.stage = .ended .finished → reader.framer.ended = true ∨ cancelled = true

namespace Session

variable {plan : Plan} {session next : Session} {source : Source}

/-! ## What becomes of the messages -/

theorem settle_create (plan : Plan) (stdout stderr : Option PipeScript) (sink : SinkBehaviour) :
    (create plan stdout stderr sink).books.Settle (create plan stdout stderr sink).inHand := by
  cases stdout <;> cases stderr <;> cases hmode : plan.options.mode <;>
    simp [Books.Settle, books, inHand, create, hmode, reader?, newReader, ReaderStage.inHand,
      DrainStage.inHand, MainStage.inHand]

theorem Enters.settle (henters : session.Enters next) (hcalm : next.Calm)
    (hsettle : session.books.Settle session.inHand) : next.books.Settle next.inHand := by
  rw [Books.Settle] at hsettle ⊢
  cases henters with
  | nothing hbooks hcounters hinHand | brings bytes hbooks hcounters hinHand =>
      rw [hbooks, hinHand]
      exact hsettle
  | hands message hbooks hcounters hinHand =>
      rw [hbooks, hinHand, ← add_assoc, ← hsettle]
      exact (Multiset.coe_add _ _).symm
  | delivers message hbooks hcounters hinHand =>
      have hone : ((session.delivered ++ [message] : List Message) : Multiset Message) =
          session.books.delivered + {message} := (Multiset.coe_add _ _).symm
      rw [← hinHand] at hsettle
      rw [hbooks, hsettle, hone]
      abel
  | abandons message hbooks hcounters hinHand =>
      have hone : ((session.abandoned ++ [message] : List Message) : Multiset Message) =
          session.books.abandoned + {message} := (Multiset.coe_add _ _).symm
      rw [← hinHand] at hsettle
      rw [hbooks, hsettle, hone]
      abel
  | crashes hbooks hcounters hcrashed => exact absurd hcalm hcrashed

theorem settle_move {event : SessionEvent} (hready : plan.readyError = none) (hcalm : next.Calm)
    (hfollow : session.ReadersFollow plan) (hmove : session.Move plan event next)
    (hsettle : session.books.Settle session.inHand) :
    next.books.Settle next.inHand := by
  rcases hmove.enters hready hfollow with
    ⟨henters, -⟩ | ⟨action, sample?, -, -, hbooks, hinHand⟩
  · exact henters.settle hcalm hsettle
  · rw [hbooks, hinHand]
    exact hsettle

/-! ## How the readers stop -/

def ReadersStop (session : Session) : Prop :=
  ∀ source reader, session.reader? source = some reader → reader.Stops session.cancelled

theorem readersStop_create (plan : Plan) (stdout stderr : Option PipeScript)
    (sink : SinkBehaviour) : (create plan stdout stderr sink).ReadersStop := by
  intro source reader hreader
  obtain ⟨pipe, -, rfl⟩ := exists_pipe_of_create hreader
  exact ⟨fun hended => absurd hended Bool.false_ne_true,
    fun hstage => ReaderStage.noConfusion hstage⟩

theorem Reader.Step.stops {reader after : Reader} (hstep : reader.Step plan source session after)
    (hready : plan.readyError = none)
    (hawaits : ∀ asked looking, reader.stage = .reading asked looking →
      reader.framer.Awaits asked)
    (hstops : reader.Stops session.cancelled) : after.Stops session.cancelled := by
  cases hstep with
  | offers message framer hstage hdemand | hands message framer hstage hdemand =>
      obtain ⟨rest, -, rfl⟩ := Framer.pending_of_demand hdemand
      exact ⟨hstops.held, fun hfinished => ReaderStage.noConfusion hfinished⟩
  | finishes hstage hdemand =>
      exact ⟨hstops.held, fun _ => (Framer.pending_of_demand_finished hdemand).2⟩
  | leaves asked hstage hcancelled => exact ⟨hstops.held, fun _ => Or.inr hcancelled⟩
  | brings asked looking bytes pipe hstage =>
      exact ⟨(hawaits asked looking hstage).buffer_receive,
        fun hfinished => ReaderStage.noConfusion hfinished⟩
  | fails | crashes | sendCrashes =>
      refine ⟨hstops.held, fun hfinished => ?_⟩
      exact TaskResult.noConfusion (ReaderStage.ended.inj hfinished)
  | begins | startsAgain | cancels | waits | sendGoesOn | sendOver =>
      exact ⟨hstops.held, fun hfinished => ReaderStage.noConfusion hfinished⟩
  | aborts hsome => simp [hready] at hsome

theorem ReadersStop.move {event : SessionEvent} (hready : plan.readyError = none)
    (hfollow : session.ReadersFollow plan) (hstop : session.ReadersStop)
    (hmove : session.Move plan event next) : next.ReadersStop := by
  intro source after hafter
  obtain ⟨reader, hreader, hstep⟩ := hmove.reader_step hafter
  have hstops : after.Stops session.cancelled := by
    rcases hstep with rfl | hstep
    · exact hstop source _ hreader
    · exact Reader.Step.stops hstep hready (hfollow source reader hreader).awaits
        (hstop source reader hreader)
  exact ⟨hstops.held, fun hfinished => (hstops.finished hfinished).imp_right hmove.cancelled_mono⟩

/-! ## What is yielded, source by source -/

/-- The call of the ready callback is no matter of the ledger, whatever comes of it. -/
theorem ledger_ready (plan : Plan) (session : Session) :
    (session.ready plan).ledger = session.ledger := by
  have hcalled : (session.note .readyCalled).ledger = session.ledger := by
    simp [ledger, framed, stored, refused, handed]
  rw [ready, ← hcalled]
  cases plan.readyError with
  | none => rfl
  | some error =>
      have hended := (((adds_cancel (session.note .readyCalled) rfl).trans
        (adds_abortReader _ .stdout)).trans (adds_abortReader _ .stderr)).trans (adds_abortDrain _)
      rw [ledger, ledger, framed, framed, stored, stored, refused, refused, handed, handed]
      congr 1 <;>
        · refine hended.selected_eq fun entry hentry => ?_
          cases entry <;> first | rfl | exact absurd hentry Bool.false_ne_true

theorem framed_refused_of_ledger (hledger : next.ledger = session.ledger) :
    next.framed = session.framed ∧ next.refused = session.refused :=
  ⟨congrArg Ledger.framed hledger, congrArg Ledger.refused hledger⟩

/-- A step yields one message at most, which a reader has asked its framer for, and it is
the only one that the buffer may refuse. -/
theorem Move.framed_cases {event : SessionEvent} (hmove : session.Move plan event next) :
    (next.framed = session.framed ∧ next.refused = session.refused) ∨
      ∃ source reader message framer, session.reader? source = some reader ∧
        reader.framer.demand session.cancelled = .message message framer ∧
        next.framed = session.framed ++ [message] ∧
        (next.refused = session.refused ∨
          ∃ buffer, session.buffer = some buffer ∧ buffer.accepts message = false) := by
  cases hmove with
  | pass => exact Or.inl ⟨rfl, rfl⟩
  | cancel => exact Or.inl (framed_refused_of_ledger (ledger_cancel session))
  | reader source reader next hlaunched hreader hmove =>
      cases hmove with
      | offers message framer buffer hstage hdemand hbuffer =>
          refine Or.inr ⟨source, reader, message, framer, hreader, hdemand, ?_⟩
          cases haccepts : buffer.accepts message with
          | true => exact ⟨by simp [framed], Or.inl (by simp [refused])⟩
          | false => exact ⟨by simp [framed], Or.inr ⟨buffer, hbuffer, haccepts⟩⟩
      | hands message framer hstage hdemand =>
          exact Or.inr ⟨source, reader, message, framer, hreader, hdemand, by simp [framed],
            Or.inl (by simp [refused])⟩
      | reads asked looking next hstage hgoes hread =>
          left
          cases hread <;> simp [framed, refused]
      | sendGoesOn sending later sent hstage hdue hsend
      | sendOver sending sent hstage hdue hsend
      | sendCrashes sending sent hstage hdue hsend =>
          left
          obtain ⟨hframed, hrefused⟩ := framed_refused_of_ledger hsend.ledger_eq
          rw [← hframed, ← hrefused]
          simp [framed, refused]
      | finishes | begins | leaves => exact Or.inl (by simp [framed, refused])
  | drain stage buffer next hlaunched hdrain hbuffer hmove =>
      left
      rcases hmove.ledger_cases hbuffer with ⟨message, rest, -, -, hledger⟩ | ⟨-, hledger⟩
      · exact ⟨congrArg Ledger.framed hledger, congrArg Ledger.refused hledger⟩
      · exact framed_refused_of_ledger hledger
  | join task result next hmain hresult hmem hmove =>
      exact Or.inl (framed_refused_of_ledger hmove.ledger_eq.2)
  | main next hmove =>
      left
      generalize session.main = stage at hmove
      cases hmove with
      | refuses | launches | skipsFlush | stops | finishes => exact ⟨rfl, rfl⟩
      | ready => exact framed_refused_of_ledger (ledger_ready plan session)
      | flushes | hands => simp [framed, refused]
      | endsFlush =>
          unfold finishFlush
          dsimp only
          split <;> simp [clean, framed, refused]
      | sendGoesOn sending later remaining sent hdue hsend
      | sendOver sending remaining sent hdue hsend
      | sendCrashes sending remaining sent hdue hsend =>
          exact framed_refused_of_ledger hsend.ledger_eq
  | tracer action tracer sample? => cases sample? <;> exact Or.inl (by simp [framed, refused])

theorem stream_of_no_reader (hnone : session.reader? source = none) :
    session.stream source = (session.progress source).received := by
  rw [stream, hnone]
  exact List.append_nil _

/-- Where there is no pipe, nothing is received and nothing is yielded. -/
def NothingWithout (session : Session) : Prop :=
  ∀ source, session.reader? source = none → session.progress source = ⟨[], []⟩

theorem NothingWithout.move {event : SessionEvent} (hfollow : session.ReadersFollow plan)
    (hnothing : session.NothingWithout) (hmove : session.Move plan event next) :
    next.NothingWithout := by
  intro source hnone
  have hbefore : session.reader? source = none := by
    have hsame := hmove.reader?_isSome source
    rw [hnone] at hsame
    exact Option.isNone_iff_eq_none.mp (Option.isSome_eq_false_iff.mp hsame.symm)
  have hreceived : (next.progress source).received = (session.progress source).received := by
    rw [← stream_of_no_reader hnone, hmove.stream_eq, stream_of_no_reader hbefore]
  rw [← hnothing source hbefore]
  refine Progress.ext hreceived ?_
  rcases hmove.framed_cases with ⟨hsame, -⟩ |
    ⟨origin, reader, message, framer, hreader, hdemand, heq, -⟩
  · rw [progress, progress, hsame]
  · obtain ⟨rest, hpending, -⟩ := Framer.pending_of_demand hdemand
    have horigin := (hfollow origin reader hreader).framer_follows.source_eq_of_pending hpending
    rw [yielded_of_framed heq, if_neg, List.append_nil]
    rintro rfl
    rw [horigin, hreader] at hbefore
    exact Option.some_ne_none _ hbefore

/-- The bytes that are left in the buffer of the framer. -/
def unframed (session : Session) (source : Source) : Bytes :=
  ((session.reader? source).map (·.framer.buffer)).getD []

theorem ReadersStop.unframed_eq_nil {reader : Reader} (hstop : session.ReadersStop)
    (hreader : session.reader? source = some reader) (hended : reader.framer.ended = true) :
    session.unframed source = [] := by
  rw [unframed, hreader, Option.map_some, Option.getD_some,
    (hstop source reader hreader).held hended]

/-- When all that a framer has made has been passed on, what was received of its source is
what it has yielded, with the newlines and what it still holds. -/
theorem length_received (hfollow : session.ReadersFollow plan) (hstop : session.ReadersStop)
    (hnothing : session.NothingWithout)
    (hpending : ∀ reader, session.reader? source = some reader → reader.framer.pending = []) :
    (session.progress source).received.length =
      totalSize (session.progress source).yielded + (session.unframed source).length +
        (session.progress source).received.count newline := by
  cases hreader : session.reader? source with
  | none =>
      rw [hnothing source hreader, unframed, hreader]
      rfl
  | some reader =>
      have hlength := (hfollow source reader hreader).framer_follows.length_eq
        (hstop source reader hreader).held
      rw [hpending reader hreader, totalSize_nil, Nat.add_zero] at hlength
      rw [hlength, unframed, hreader, Option.map_some, Option.getD_some]

/-! ## Both sources together -/

/-- What is selected in one of two ways is selected in the one or the other. -/
theorem selected_perm {α : Type} {select left right : Entry → Option α}
    (hselect : ∀ entry, (select entry).toList = (left entry).toList ++ (right entry).toList)
    (journal : List (Nat × Entry)) :
    (selected select journal).Perm (selected left journal ++ selected right journal) := by
  induction journal with
  | nil => exact .refl _
  | cons noted journal ih =>
      obtain ⟨time, entry⟩ := noted
      rw [selected_cons, selected_cons, selected_cons, hselect]
      refine (ih.append_right _).trans ?_
      rw [List.append_assoc, List.append_assoc]
      exact (List.perm_append_comm_assoc _ _ _).append_left _

theorem brought_perm (session : Session) :
    session.brought.Perm
      ((session.progress .stdout).received ++ (session.progress .stderr).received) := by
  rw [brought, progress, progress, ← List.flatten_append]
  apply List.Perm.flatten
  apply selected_perm
  intro entry
  cases entry with
  | readDone origin asked result => cases origin <;> cases result <;> rfl
  | _ => rfl

theorem offered_perm (session : Session) :
    session.offered.Perm (session.stored ++ session.refused) := by
  apply selected_perm
  intro entry
  cases entry <;> rfl

theorem framed_perm_sources (session : Session) :
    session.framed.Perm
      ((session.progress .stdout).yielded ++ (session.progress .stderr).yielded) := by
  have hstderr : (session.progress .stderr).yielded =
      session.framed.filter fun message => !decide (message.source = .stdout) :=
    List.filter_congr fun message _ => by cases message.source <;> rfl
  rw [hstderr]
  exact (List.filter_append_perm _ _).symm

/-! ## When the session has returned -/

theorem inHand_eq_zero_of_idle (hidle : session.atWork = 0) (hmain : session.main.inHand = 0) :
    session.inHand = 0 := by
  have hreader : ∀ reader? : Option Reader, (reader?.map Reader.atWork).getD 0 = 0 →
      (reader?.map (·.stage.inHand)).getD 0 = 0 := by
    intro reader? hended
    cases reader? with
    | none => rfl
    | some reader =>
        rw [Option.map_some, Option.getD_some, Reader.atWork] at hended
        rw [Option.map_some, Option.getD_some]
        cases hstage : reader.stage with
        | sending => simp [hstage] at hended
        | asking | reading | ended => rfl
  have hdrain : (session.drain.map DrainStage.atWork).getD 0 = 0 →
      (session.drain.map DrainStage.inHand).getD 0 = 0 := by
    intro hended
    cases hstage : session.drain with
    | none => rfl
    | some stage =>
        cases stage with
        | sending => simp [hstage, DrainStage.atWork] at hended
        | waiting | ended => rfl
  rw [atWork, readersAtWork, Nat.add_eq_zero_iff, Nat.add_eq_zero_iff] at hidle
  obtain ⟨⟨hstdout, hstderr⟩, hended⟩ := hidle
  rw [inHand, hdrain hended, hmain]
  have hout := hreader (session.reader? .stdout) hstdout
  have herr := hreader (session.reader? .stderr) hstderr
  rw [hout, herr]
  rfl

/-- Every message that was framed has been handed over or refused. -/
theorem Diligent.framed_perm {result : Except Error Unit} (hdiligent : session.Diligent plan)
    (hdone : session.main = .done result) :
    session.framed.Perm (session.handed ++ session.refused) := by
  have hhands := hdiligent.handsOn hdone
  rw [HandsOn] at hhands
  cases hmode : plan.options.mode with
  | blocking =>
      rw [(hdiligent.blocking hmode).2.refused_eq, (hdiligent.blocking hmode).2.handed_eq,
        List.append_nil]
  | nonBlocking =>
      rw [hmode] at hhands
      rw [← hhands.1, hhands.2]
      exact session.offered_perm

/-- What holds at every moment for the samples to balance. -/
structure Audited (plan : Plan) (session : Session) : Prop where
  diligent : session.Diligent plan
  tallies : session.Tallies
  watched : session.Watched
  stop : session.ReadersStop
  nothing : session.NothingWithout
  settle : session.Calm → session.books.Settle session.inHand

theorem audited_create (plan : Plan) (stdout stderr : Option PipeScript) (sink : SinkBehaviour) :
    (create plan stdout stderr sink).Audited plan where
  diligent := diligent_create plan stdout stderr sink
  tallies := tallies_create plan stdout stderr sink
  watched := watched_create plan stdout stderr sink
  stop := readersStop_create plan stdout stderr sink
  nothing source _ := by cases source <;> rfl
  settle _ := settle_create plan stdout stderr sink

theorem Audited.move {event : SessionEvent} (hready : plan.readyError = none)
    (haudited : session.Audited plan) (hmove : session.Move plan event next) :
    next.Audited plan where
  diligent := haudited.diligent.move hready hmove
  tallies := haudited.tallies.move hready haudited.diligent.account.live.follows hmove
  watched := haudited.watched.move hready haudited.diligent.account.live hmove
  stop := haudited.stop.move hready haudited.diligent.account.live.follows hmove
  nothing := haudited.nothing.move haudited.diligent.account.live.follows hmove
  settle hcalm := settle_move hready hcalm haudited.diligent.account.live.follows hmove
    (haudited.settle (hcalm.of_move hready hmove))

/-- When the session has returned, every message that was handed over has been delivered or
given up. -/
theorem Audited.handed_perm {result : Except Error Unit} (hready : plan.readyError = none)
    (haudited : session.Audited plan) (hcalm : session.Calm) (hdone : session.main = .done result) :
    session.handed.Perm (session.delivered ++ session.abandoned) := by
  have hsettle := haudited.settle hcalm
  have hnone : session.inHand = 0 := by
    cases hpipe : session.hasPipe with
    | true =>
        apply inHand_eq_zero_of_idle
        · exact (haudited.diligent.account.live.settled hready hdone hpipe).1
        · rw [hdone]
          rfl
    | false =>
        -- Such a session returns at once.  Without a pipe nothing is framed, so nothing was handed.
        rw [hasPipe, Bool.or_eq_false_iff, Option.isSome_eq_false_iff, Option.isSome_eq_false_iff,
          Option.isNone_iff_eq_none, Option.isNone_iff_eq_none] at hpipe
        have hnothing := session.framed_perm_sources
        rw [haudited.nothing .stdout hpipe.1, haudited.nothing .stderr hpipe.2] at hnothing
        have hframed := haudited.diligent.framed_perm hdone
        rw [hnothing.eq_nil] at hframed
        have hhanded : session.handed = [] := (List.append_eq_nil_iff.mp hframed.nil_eq.symm).1
        rw [Books.Settle] at hsettle
        have hzero : (session.books.handed : Multiset Message) = 0 := congrArg _ hhanded
        rw [hzero] at hsettle
        exact (add_eq_zero.mp hsettle.symm).2
  rw [Books.Settle, hnone, add_zero] at hsettle
  exact Multiset.coe_eq_coe.mp hsettle

/-- What the samples of a session come to, and what has become of the bytes that were
read. -/
structure Balances (session : Session) : Prop where
  sampled : session.sampleTotal = ⟨UInt64.ofNat session.brought.length,
    UInt64.ofNat (totalSize session.delivered), UInt64.ofNat (session.brought.count newline)⟩
  settled : session.handed.Perm (session.delivered ++ session.abandoned)
  bytes : session.brought.length =
    totalSize session.delivered + session.brought.count newline + totalSize session.abandoned +
      totalSize session.refused +
      ((session.unframed .stdout).length + (session.unframed .stderr).length)
  counted : session.sampleTotal.read =
    session.sampleTotal.sent + session.sampleTotal.newlines +
      UInt64.ofNat (totalSize session.abandoned) + UInt64.ofNat (totalSize session.refused) +
      UInt64.ofNat ((session.unframed .stdout).length + (session.unframed .stderr).length)
  ended : ∀ source, ReadsToEnd source session.journal → session.unframed source = []
  /-- A framer that holds something was left when the session was cancelled or when a read
  failed. -/
  stopped : ∀ source, session.unframed source ≠ [] →
    session.taskResult? (.reader source) = some .finished ∧ session.cancelled = true ∨
      ∃ failure, session.taskResult? (.reader source) = some (.failed (.read source failure))

theorem Audited.length_brought {result : Except Error Unit} (hready : plan.readyError = none)
    (haudited : session.Audited plan) (hcalm : session.Calm) (hdone : session.main = .done result) :
    session.brought.length =
      totalSize session.delivered + session.brought.count newline + totalSize session.abandoned +
        totalSize session.refused +
        ((session.unframed .stdout).length + (session.unframed .stderr).length) := by
  have hlive := haudited.diligent.account.live
  have hpending : ∀ source reader, session.reader? source = some reader →
      reader.framer.pending = [] := by
    intro source reader hreader
    obtain ⟨ended, hstage, -⟩ := hlive.exists_ended hready hdone hreader
    exact haudited.diligent.tidy.pending_eq_nil hready hcalm hreader hstage
  have hreceived : ∀ source, (session.progress source).received.length =
      totalSize (session.progress source).yielded + (session.unframed source).length +
        (session.progress source).received.count newline :=
    fun source => length_received hlive.follows haudited.stop haudited.nothing (hpending source)
  -- One equation for each source, and one for each list of which the two are the parts.
  have hout := hreceived .stdout
  have herr := hreceived .stderr
  have hlength := session.brought_perm.length_eq
  have hcount := session.brought_perm.count_eq newline
  have hsources := totalSize_perm session.framed_perm_sources
  have hframed := totalSize_perm (haudited.diligent.framed_perm hdone)
  have hhanded := totalSize_perm (haudited.handed_perm hready hcalm hdone)
  rw [List.length_append] at hlength
  rw [List.count_append] at hcount
  rw [totalSize_append] at hsources hframed hhanded
  omega

theorem Audited.balances {result : Except Error Unit} (hready : plan.readyError = none)
    (haudited : session.Audited plan) (hcalm : session.Calm) (hdone : session.main = .done result) :
    session.Balances := by
  have hlive := haudited.diligent.account.live
  have hsampled := haudited.tallies.sampleTotal_eq haudited.watched hdone
  have hbytes := haudited.length_brought hready hcalm hdone
  refine ⟨hsampled, haudited.handed_perm hready hcalm hdone, hbytes, ?_, fun source hends => ?_,
    fun source hheld => ?_⟩
  · rw [hsampled]
    dsimp only
    conv_lhs => rw [hbytes]
    simp only [UInt64.ofNat_add]
  · cases hreader : session.reader? source with
    | none => rw [unframed, hreader]; rfl
    | some reader =>
        exact haudited.stop.unframed_eq_nil hreader
          ((haudited.diligent.heed source reader hreader).ended.mpr hends)
  · cases hreader : session.reader? source with
    | none => exact absurd (by rw [unframed, hreader]; rfl) hheld
    | some reader =>
        obtain ⟨ended, hstage, hresult⟩ := hlive.exists_ended hready hdone hreader
        have hleft := haudited.diligent.tidy.readers source reader hreader
        rw [hstage] at hleft
        rw [hresult]
        cases ended with
        | finished =>
            have hstops := (haudited.stop source reader hreader).finished hstage
            exact Or.inl ⟨rfl, hstops.resolve_left fun hended =>
              hheld (haudited.stop.unframed_eq_nil hreader hended)⟩
        | failed error =>
            obtain ⟨-, failure, rfl⟩ := hleft
            exact Or.inr ⟨failure, rfl⟩
        | crashed => exact absurd hresult (hcalm.tasks (.reader source))
        | aborted =>
            rw [ReaderStage.LeavesNothing, hready] at hleft
            exact absurd hleft Bool.false_ne_true

/-- When a session in which nothing crashes has returned, its samples come to the bytes and
the newlines that the reads have brought and to the lines that have been delivered.  All
that was read is accounted for: it was a newline, or it was delivered, given up, refused by
the buffer or left in a framer that had not seen the end of its stream. -/
theorem samples_balance {stdout stderr : Option PipeScript} {sink : SinkBehaviour}
    {events : List SessionEvent} {result : Except Error Unit} (hready : plan.readyError = none)
    (hrun : (create plan stdout stderr sink).run? plan events = some session)
    (hdone : session.main = .done result)
    (hcalm : ∀ task, session.taskResult? task ≠ some .crashed) : session.Balances := by
  have haudited : session.Audited plan :=
    run?_induction hrun (audited_create plan stdout stderr sink)
      fun _ _ _ hbefore hmove => hbefore.move hready hmove
  refine haudited.balances hready ⟨?_, hcalm⟩ hdone
  rw [hdone]
  exact MainStage.noConfusion

/-- A sink that refuses the first line, and a pipe that hangs in an unfinished one. -/
def spillingStart : Session :=
  create tightPlan (some [.data [97, 98, 10, 99, 100, 10], .data [101, 10, 102], .hang]) none
    ⟨[⟨0, .refused (.sink "busy"), 1⟩], []⟩

/-- One order of the steps of that session.  The second read comes in while a sample is
being taken, and the session is cancelled in the third. -/
def spillingEvents : List SessionEvent :=
  [.main, .main, .reader .stdout, .reader .stdout, .tracer .start, .tracer .tick, .tracer .take,
    .reader .stdout, .reader .stdout, .drain, .reader .stdout, .drain, .reader .stdout,
    .tracer .take, .tracer .take, .reader .stdout, .drain, .drain, .reader .stdout, .cancel,
    .reader .stdout, .drain, .join (.reader .stdout), .join .drain, .main, .main, .main,
    .tracer .conclude, .tracer .take, .tracer .take, .tracer .take, .main]

/-- One line is delivered, one is given up and one is refused, and a byte is left. -/
theorem samples_balance_of_spills :
    tightPlan.readyError = none ∧
      ∃ session, spillingStart.run? tightPlan spillingEvents = some session ∧
        session.main = .done (.ok ()) ∧
        (∀ task, session.taskResult? task ≠ some .crashed) ∧
        session.samples = [(0, ⟨6, 0, 3⟩), (0, ⟨3, 1, 0⟩)] ∧
        session.delivered.map (·.line) = [[101]] ∧
        session.abandoned.map (·.line) = [[97, 98]] ∧
        session.refused.map (·.line) = [[99, 100]] ∧ session.unframed .stdout = [102] ∧
        session.Balances := by
  have hview : (spillingStart.run? tightPlan spillingEvents).map (fun session =>
      (session.verdict, session.samples,
        [Task.drain, .reader .stdout, .reader .stderr].map session.taskResult?)) =
      some (.finished, [(0, ⟨6, 0, 3⟩), (0, ⟨3, 1, 0⟩)],
        [some .finished, some .finished, none]) := by
    decide +kernel
  have hlines : (spillingStart.run? tightPlan spillingEvents).map (fun session =>
      ([session.delivered, session.abandoned, session.refused].map (·.map (·.line)),
        session.unframed .stdout)) = some ([[[101]], [[97, 98]], [[99, 100]]], [102]) := by
    decide +kernel
  obtain ⟨session, hrun, hsession⟩ := Option.map_eq_some_iff.mp hview
  rw [hrun, Option.map_some, Option.some.injEq] at hlines
  simp only [Prod.mk.injEq, List.map_cons, List.map_nil, List.cons.injEq, and_true]
    at hsession hlines
  obtain ⟨hverdict, hsamples, hdrain, hout, herr⟩ := hsession
  obtain ⟨⟨hdelivered, habandoned, hrefused⟩, hunframed⟩ := hlines
  have hdone := main_of_finished hverdict
  have hcalm : ∀ task, session.taskResult? task ≠ some .crashed := by
    intro task
    cases task with
    | drain => simp [hdrain]
    | reader source => cases source <;> simp [hout, herr]
  exact ⟨rfl, session, hrun, hdone, hcalm, hsamples, hdelivered, habandoned, hrefused, hunframed,
    samples_balance rfl hrun hdone hcalm⟩

/-- If the jitter is not a number, a refusal crashes the reader in the pause: the line is
neither delivered nor given up, although no pipe and no call of the sink has crashed. -/
theorem not_balanced_of_unsettled_policy :
    (promptPlan .blocking unsettledPolicy).readyError = none ∧
      PipeStep.crash ∉ [PipeStep.data [97, 10]] ∧
      SinkBehaviour.neverCrashes ⟨[⟨0, .refused (.sink "busy"), 2⟩], []⟩ = true ∧
      ∃ session result,
        (create (promptPlan .blocking unsettledPolicy) (some [.data [97, 10]]) none
          ⟨[⟨0, .refused (.sink "busy"), 2⟩], []⟩).run? (promptPlan .blocking unsettledPolicy)
            oneLineEvents = some session ∧ session.main = .done result ∧
        session.sampleTotal = ⟨2, 0, 1⟩ ∧ session.delivered = [] ∧ session.abandoned = [] ∧
        session.refused = [] ∧ (∀ source, session.unframed source = []) ∧ ¬ session.Balances := by
  have hview : ((create (promptPlan .blocking unsettledPolicy) (some [.data [97, 10]]) none
      ⟨[⟨0, .refused (.sink "busy"), 2⟩], []⟩).run? (promptPlan .blocking unsettledPolicy)
        oneLineEvents).map (fun session =>
          (session.verdict, session.sampleTotal,
            [session.delivered, session.abandoned, session.refused],
            [session.unframed .stdout, session.unframed .stderr])) =
      some (.failed (.task TaskResult.crashText), ⟨2, 0, 1⟩, [[], [], []], [[], []]) := by
    decide +kernel
  obtain ⟨session, hrun, hsession⟩ := Option.map_eq_some_iff.mp hview
  simp only [Prod.mk.injEq, List.cons.injEq, and_true] at hsession
  obtain ⟨hverdict, htotal, ⟨hdelivered, habandoned, hrefused⟩, hout, herr⟩ := hsession
  have hunframed : ∀ source, session.unframed source = [] := by
    intro source
    cases source with
    | stdout => exact hout
    | stderr => exact herr
  refine ⟨rfl, by decide, rfl, session, _, hrun, main_of_verdict hverdict, htotal, hdelivered,
    habandoned, hrefused, hunframed, fun hbalances => ?_⟩
  have hcounted := hbalances.counted
  rw [htotal, habandoned, hrefused, hout, herr] at hcounted
  exact absurd hcounted (by decide)

end Session

end LogRelay
