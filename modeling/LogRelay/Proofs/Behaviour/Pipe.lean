import LogRelay.Proofs.Framing.Reads

/-!
# Looks at any pipe

Whatever a pipe does, a look at it reports a step of its description and leaves
a later part of it, in which data may have become less and a wait may have
begun.  So each look that is not in vain uses something of the pipe up.
-/

namespace LogRelay

/-- The bytes that a look has brought. -/
def PipeAnswer.bytes : PipeAnswer → Bytes
  | .ready (.data bytes) => bytes
  | _ => []

/-- What the step weighs if a byte weighs that much.  A wait that has begun is
less than one that has not. -/
def PipeStep.weight (byteWeight : Nat) : PipeStep → Nat
  | .data bytes => byteWeight * bytes.length
  | .wait _ | .fail _ | .cancel => 2
  | .waitUntil _ => 1
  | .hang | .crash => 0

/-- The read of it fails, and is not just made again. -/
def PipeStep.isFailure : PipeStep → Bool
  | .fail failure => !failure.isInterruption
  | .crash => true
  | _ => false

/-- The step keeps a read waiting for a time. -/
def PipeStep.isWait : PipeStep → Bool
  | .wait _ | .waitUntil _ => true
  | _ => false

namespace PipeScript

variable {clock asked : Nat} {pipe rest : PipeScript} {answer : PipeAnswer}

/-- What the pipe weighs if a byte weighs that much. -/
def weight (byteWeight : Nat) : PipeScript → Nat
  | [] => 0
  | step :: rest => step.weight byteWeight + weight byteWeight rest

/-- No read of the pipe fails but for interruptions. -/
def isSound (pipe : PipeScript) : Bool :=
  pipe.all fun step => !step.isFailure

theorem isSound_iff : pipe.isSound = true ↔ ∀ step ∈ pipe, step.isFailure = false := by
  simp [isSound]

/-- The pipe has no place at which it hangs. -/
def isAlive (pipe : PipeScript) : Bool :=
  pipe.all (· ≠ .hang)

theorem isSteady_of_mem {step : PipeStep} (hsteady : pipe.isSteady = true) (hmem : step ∈ pipe) :
    step.isSteady = true :=
  List.all_eq_true.mp hsteady step hmem

/-- A steady pipe fails only by interruptions. -/
theorem isSound_of_isSteady (hsteady : pipe.isSteady = true) : pipe.isSound = true := by
  rw [isSound_iff]
  intro step hmem
  have hstep := isSteady_of_mem hsteady hmem
  cases step with
  | fail failure =>
      rw [PipeStep.isFailure, Bool.not_eq_false']
      exact hstep
  | crash => exact absurd hstep Bool.false_ne_true
  | _ => rfl

theorem isAlive_of_isSteady (hsteady : pipe.isSteady = true) : pipe.isAlive = true := by
  rw [isAlive, List.all_eq_true]
  intro step hmem
  have hstep := isSteady_of_mem hsteady hmem
  cases step with
  | hang => exact absurd hstep Bool.false_ne_true
  | _ => rfl

theorem cancel_notMem_of_isSteady (hsteady : pipe.isSteady = true) : .cancel ∉ pipe :=
  fun hmem => absurd (isSteady_of_mem hsteady hmem) Bool.false_ne_true

/-- What a look can report, with the step of the description behind it. -/
inductive Reports (pipe : PipeScript) : PipeAnswer → Prop where
  | data (bytes : Bytes) : Reports pipe (.ready (.data bytes))
  | failed (failure : Failure) (hmem : .fail failure ∈ pipe) :
      Reports pipe (.ready (.failed failure))
  | crashed (hmem : .crash ∈ pipe) : Reports pipe .crashed
  | pending (time : Nat) : Reports pipe (.pending (some time))
  | hangs (hmem : .hang ∈ pipe) : Reports pipe (.pending none)
  | cancels (hmem : .cancel ∈ pipe) : Reports pipe .cancels

theorem Reports.cons (step : PipeStep) (hreports : rest.Reports answer) :
    Reports (step :: rest) answer := by
  cases hreports with
  | data bytes => exact .data bytes
  | failed failure hmem => exact .failed failure (List.mem_cons_of_mem _ hmem)
  | crashed hmem => exact .crashed (List.mem_cons_of_mem _ hmem)
  | pending time => exact .pending time
  | hangs hmem => exact .hangs (List.mem_cons_of_mem _ hmem)
  | cancels hmem => exact .cancels (List.mem_cons_of_mem _ hmem)

theorem reports_look (clock asked : Nat) (pipe : PipeScript) :
    pipe.Reports (pipe.look clock asked).1 := by
  induction pipe with
  | nil => exact .data []
  | cons step rest ih =>
      cases step with
      | data bytes => exact .data _
      | wait ms =>
          rw [look]
          split
          · exact ih.cons _
          · exact .pending _
      | waitUntil time =>
          rw [look]
          split
          · exact ih.cons _
          · exact .pending _
      | fail failure => exact .failed failure List.mem_cons_self
      | cancel => exact .cancels List.mem_cons_self
      | hang => exact .hangs List.mem_cons_self
      | crash => exact .crashed List.mem_cons_self

/-- The steps that are left are steps of the pipe, or data or a wait that is left
of one. -/
theorem mem_of_mem_look {step : PipeStep} (hmem : step ∈ (pipe.look clock asked).2) :
    step ∈ pipe ∨ (∃ bytes, step = .data bytes) ∨ ∃ time, step = .waitUntil time := by
  induction pipe with
  | nil => exact absurd hmem List.not_mem_nil
  | cons first rest ih =>
      have htail : step ∈ rest → step ∈ first :: rest := List.mem_cons_of_mem _
      cases first with
      | data bytes =>
          rw [look] at hmem
          dsimp only at hmem
          split at hmem
          · exact Or.inl (htail hmem)
          · rcases List.mem_cons.mp hmem with rfl | hrest
            · exact Or.inr (Or.inl ⟨_, rfl⟩)
            · exact Or.inl (htail hrest)
      | wait ms =>
          rw [look] at hmem
          split at hmem
          · exact (ih hmem).imp_left htail
          · rcases List.mem_cons.mp hmem with rfl | hrest
            · exact Or.inr (Or.inr ⟨_, rfl⟩)
            · exact Or.inl (htail hrest)
      | waitUntil time =>
          rw [look] at hmem
          split at hmem
          · exact (ih hmem).imp_left htail
          · exact Or.inl hmem
      | fail failure => exact Or.inl (htail hmem)
      | cancel => exact Or.inl (htail hmem)
      | hang => exact Or.inl hmem
      | crash => exact Or.inl (htail hmem)

/-- No byte is lost or made up by a look. -/
theorem content_look (clock asked : Nat) (pipe : PipeScript) :
    pipe.content = (pipe.look clock asked).1.bytes ++ (pipe.look clock asked).2.content := by
  induction pipe with
  | nil => rfl
  | cons step rest ih =>
      cases step with
      | data bytes =>
          rw [look, content_cons, PipeAnswer.bytes, PipeStep.bytes]
          dsimp only
          split
          · next hall => rw [List.take_of_length_le hall]
          · rw [content_cons, PipeStep.bytes, ← List.append_assoc, List.take_append_drop]
      | wait ms =>
          rw [look, content_cons]
          split
          · exact ih
          · rfl
      | waitUntil time =>
          rw [look, content_cons]
          split
          · exact ih
          · rfl
      | fail | cancel | hang | crash => rfl

/-! ## Weights -/

/-- What the report of a look takes off the weight at least. -/
def reportWeight (byteWeight : Nat) : PipeAnswer → Nat
  | .ready (.data bytes) => byteWeight * bytes.length
  | .ready (.failed _) | .cancels => 2
  | .crashed | .pending _ => 0

theorem weight_look (byteWeight clock asked : Nat) (pipe : PipeScript) :
    reportWeight byteWeight (pipe.look clock asked).1 +
      weight byteWeight (pipe.look clock asked).2 ≤ weight byteWeight pipe := by
  induction pipe with
  | nil => exact Nat.le_refl _
  | cons step rest ih =>
      cases step with
      | data bytes =>
          rw [look, reportWeight]
          dsimp only
          split
          · next hall =>
              apply Nat.le_of_eq
              rw [List.take_of_length_le hall, weight, PipeStep.weight]
          · have hsplit := congrArg List.length (List.take_append_drop asked bytes)
            rw [List.length_append] at hsplit
            rw [weight, weight, PipeStep.weight, PipeStep.weight, ← hsplit, Nat.mul_add]
            omega
      | wait ms =>
          rw [look, weight]
          split
          · exact Nat.le_trans ih (Nat.le_add_left _ _)
          · simp only [weight, PipeStep.weight, reportWeight]
            omega
      | waitUntil time =>
          rw [look, weight]
          split
          · exact Nat.le_trans ih (Nat.le_add_left _ _)
          · simp only [weight, PipeStep.weight, reportWeight]
            omega
      | fail | cancel | hang | crash => simp [look, weight, PipeStep.weight, reportWeight]

/-- A look that finds the pipe not yet waiting begins the wait. -/
theorem weight_look_of_pending {until? : Option Nat} (byteWeight : Nat)
    (hwaiting : pipe.isWaiting clock = false)
    (hlook : pipe.look clock asked = (.pending until?, rest)) :
    weight byteWeight rest < weight byteWeight pipe := by
  cases pipe with
  | nil => simp [look] at hlook
  | cons step tail =>
      cases step with
      | wait ms =>
          rw [look] at hlook
          split at hlook
          · have hless := weight_look byteWeight clock asked tail
            simp only [hlook] at hless
            simp only [weight, PipeStep.weight]
            omega
          · cases hlook
            simp only [weight, PipeStep.weight]
            omega
      | waitUntil time =>
          rw [isWaiting, decide_eq_false_iff_not, Nat.not_lt] at hwaiting
          rw [look, if_pos hwaiting] at hlook
          have hless := weight_look byteWeight clock asked tail
          simp only [hlook] at hless
          simp only [weight, PipeStep.weight]
          omega
      | hang => exact absurd hwaiting Bool.noConfusion
      | data | fail | cancel | crash => simp [look] at hlook

/-- A pipe that does not hang waits no longer than for a time. -/
theorem exists_time_of_isAlive (halive : pipe.isAlive = true) :
    ∃ time, ∀ later, time ≤ later → pipe.isWaiting later = false := by
  cases pipe with
  | nil => exact ⟨0, fun _ _ => rfl⟩
  | cons step tail =>
      cases step with
      | waitUntil time =>
          refine ⟨time, fun later hlater => ?_⟩
          rw [isWaiting, decide_eq_false_iff_not, Nat.not_lt]
          exact hlater
      | hang => simp [isAlive] at halive
      | data | wait | fail | cancel | crash => exact ⟨0, fun _ _ => rfl⟩

theorem isAlive_look (clock asked : Nat) (halive : pipe.isAlive = true) :
    (pipe.look clock asked).2.isAlive = true := by
  rw [isAlive, List.all_eq_true] at halive ⊢
  intro step hmem
  rcases mem_of_mem_look hmem with hold | ⟨bytes, rfl⟩ | ⟨time, rfl⟩
  · exact halive step hold
  · rfl
  · rfl

/-! ## Waits -/

/-- The pipe without its waits. -/
def awake (pipe : PipeScript) : PipeScript :=
  pipe.filter fun step => !step.isWait

/-- A look at a pipe that waits finds nothing new. -/
theorem look_of_isWaiting (asked : Nat) (hwaiting : pipe.isWaiting clock = true) :
    ∃ until?, pipe.look clock asked = (.pending until?, pipe) := by
  cases pipe with
  | nil => exact absurd hwaiting Bool.false_ne_true
  | cons step tail =>
      cases step with
      | waitUntil time =>
          rw [isWaiting, decide_eq_true_iff] at hwaiting
          exact ⟨some time, by rw [look, if_neg (Nat.not_le_of_lt hwaiting)]⟩
      | hang => exact ⟨none, rfl⟩
      | data | wait | fail | cancel | crash => exact absurd hwaiting Bool.false_ne_true

/-- As long as nothing is reported, only waits are used up. -/
theorem awake_of_pending {until? : Option Nat}
    (hlook : pipe.look clock asked = (.pending until?, rest)) : rest.awake = pipe.awake := by
  induction pipe with
  | nil => simp [look] at hlook
  | cons step tail ih =>
      cases step with
      | wait ms =>
          rw [look] at hlook
          split at hlook
          · exact ih hlook
          · cases hlook
            rfl
      | waitUntil time =>
          rw [look] at hlook
          split at hlook
          · exact ih hlook
          · cases hlook
            rfl
      | hang =>
          cases hlook
          rfl
      | data | fail | cancel | crash => simp [look] at hlook

/-- What a look reports does not depend on the waits in front of it, nor on the time. -/
theorem look_awake (later : Nat) (hlook : pipe.look clock asked = (answer, rest))
    (hanswer : ∀ until?, answer ≠ .pending until?) :
    pipe.awake.look later asked = (answer, rest.awake) := by
  induction pipe with
  | nil =>
      cases hlook
      rfl
  | cons step tail ih =>
      cases step with
      | data bytes =>
          rw [look] at hlook
          cases hlook
          rw [awake, List.filter_cons_of_pos rfl, look, Prod.mk.injEq]
          refine ⟨rfl, ?_⟩
          split
          · rfl
          · exact (List.filter_cons_of_pos rfl).symm
      | wait ms =>
          rw [look] at hlook
          split at hlook
          · exact ih hlook
          · cases hlook
            exact absurd rfl (hanswer _)
      | waitUntil time =>
          rw [look] at hlook
          split at hlook
          · exact ih hlook
          · cases hlook
            exact absurd rfl (hanswer _)
      | hang =>
          cases hlook
          exact absurd rfl (hanswer _)
      | fail | cancel | crash =>
          cases hlook
          rfl

end PipeScript

end LogRelay
