import LogRelay.Buffer.Monitor
import Mathlib.Data.List.Nodup

/-!
# The looks that are due

A consumer that waits without a signal has found the queue empty.  What has
come into the queue since then is owed a look: by a producer that still has to
wake someone, by a consumer that has been chosen, or by one that has registered
and not yet looked.  A look that is due is never given up without being passed
on, as long as there is a consumer that needs it.
-/

namespace LogRelay

namespace Consumer

/-- It has found the queue empty and nothing makes it look again. -/
def IsIdle (consumer : Consumer) : Prop :=
  consumer.looked = true ∧ consumer.signal = none

instance (consumer : Consumer) : Decidable consumer.IsIdle :=
  inferInstanceAs (Decidable (_ ∧ _))

/-- The looks that can be expected of a consumer.  One that was chosen before it
looked takes a look itself and passes its signal on. -/
def looksDue (consumer : Consumer) : Nat :=
  (if consumer.looked then 0 else 1) + if consumer.signal = some .chosen then 1 else 0

end Consumer

namespace Monitor

/-- The looks that can be expected of all consumers. -/
def consumerLooks : List Consumer → Nat
  | [] => 0
  | consumer :: rest => consumer.looksDue + consumerLooks rest

theorem consumerLooks_append (first second : List Consumer) :
    consumerLooks (first ++ second) = consumerLooks first + consumerLooks second := by
  induction first with
  | nil => exact (Nat.zero_add _).symm
  | cons consumer rest ih => rw [List.cons_append, consumerLooks, consumerLooks, ih, Nat.add_assoc]

theorem consumerLooks_eq_zero {consumers : List Consumer}
    (hnone : ∀ consumer ∈ consumers, consumer.looksDue = 0) : consumerLooks consumers = 0 := by
  induction consumers with
  | nil => rfl
  | cons consumer rest ih =>
      rw [List.forall_mem_cons] at hnone
      rw [consumerLooks, hnone.1, ih hnone.2]

/-- The looks that are due, those included that producers have still to ask for. -/
def looksDue (monitor : Monitor) : Nat :=
  monitor.owedWakes + consumerLooks monitor.consumers

def names (monitor : Monitor) : List Nat :=
  monitor.consumers.map Consumer.name

/-! ## Waking -/

theorem choose_eq_none {consumers : List Consumer} (hchoose : choose consumers = none) :
    ∀ consumer ∈ consumers, consumer.signal ≠ none := by
  induction consumers with
  | nil => simp
  | cons first rest ih =>
      by_cases hsignal : first.signal.isNone = true
      · simp [choose, hsignal] at hchoose
      · simp only [choose, hsignal, Bool.false_eq_true, if_false, Option.map_eq_none_iff] at hchoose
        intro consumer hmem
        rcases List.mem_cons.mp hmem with rfl | hrest
        · simpa using hsignal
        · exact ih hchoose consumer hrest

/-- One consumer without a signal is chosen, and nothing else changes. -/
theorem choose_eq_some {consumers chosen : List Consumer}
    (hchoose : choose consumers = some chosen) :
    ∃ before consumer after, consumers = before ++ consumer :: after ∧
      consumer.signal = none ∧
      chosen = before ++ { consumer with signal := some .chosen } :: after := by
  induction consumers generalizing chosen with
  | nil => simp [choose] at hchoose
  | cons first rest ih =>
      by_cases hsignal : first.signal.isNone = true
      · simp only [choose, hsignal, if_true, Option.some.injEq] at hchoose
        exact ⟨[], first, rest, rfl, Option.isNone_iff_eq_none.mp hsignal, hchoose.symm⟩
      · simp only [choose, hsignal, Bool.false_eq_true, if_false, Option.map_eq_some_iff] at hchoose
        obtain ⟨chosen', hchoose', rfl⟩ := hchoose
        obtain ⟨before, consumer, after, rfl, hnone, rfl⟩ := ih hchoose'
        exact ⟨first :: before, consumer, after, rfl, hnone, rfl⟩

@[simp]
theorem buffer_wakeOne (monitor : Monitor) : monitor.wakeOne.buffer = monitor.buffer := by
  rw [wakeOne]
  split <;> rfl

@[simp]
theorem owedWakes_wakeOne (monitor : Monitor) :
    monitor.wakeOne.owedWakes = monitor.owedWakes := by
  rw [wakeOne]
  split <;> rfl

@[simp]
theorem owedBroadcasts_wakeOne (monitor : Monitor) :
    monitor.wakeOne.owedBroadcasts = monitor.owedBroadcasts := by
  rw [wakeOne]
  split <;> rfl

@[simp]
theorem names_wakeOne (monitor : Monitor) : monitor.wakeOne.names = monitor.names := by
  rw [wakeOne]
  split
  · next chosen hchoose =>
      obtain ⟨before, consumer, after, heq, -, rfl⟩ := choose_eq_some hchoose
      simp [names, heq]
  · rfl

theorem names_wakeAll (monitor : Monitor) : monitor.wakeAll.names = monitor.names := by
  rw [names, wakeAll, List.map_map]
  apply List.map_congr_left
  intro consumer _
  rw [Function.comp_apply]
  split <;> rfl

/-- If there is still an idle consumer after a wake-up, one look more is due. -/
theorem looksDue_wakeOne {monitor : Monitor} {consumer : Consumer}
    (hmem : consumer ∈ monitor.wakeOne.consumers) (hidle : consumer.IsIdle) :
    consumer ∈ monitor.consumers ∧ monitor.wakeOne.looksDue = monitor.looksDue + 1 := by
  rw [wakeOne] at hmem ⊢
  split at hmem
  · next chosen hchoose =>
      obtain ⟨before, first, after, heq, hnone, rfl⟩ := choose_eq_some hchoose
      constructor
      · have hne : consumer ≠ { first with signal := some .chosen } := by
          rintro rfl
          exact absurd hidle.2 (Option.some_ne_none _)
        simp only [List.mem_append, List.mem_cons, hne, false_or] at hmem
        rw [heq]
        simp only [List.mem_append, List.mem_cons]
        exact hmem.imp_right Or.inr
      · simp only [looksDue, heq, consumerLooks_append, consumerLooks, Consumer.looksDue, hnone,
          if_true]
        simp
        omega
  · next hchoose => exact absurd hidle.2 (choose_eq_none hchoose consumer hmem)

/-! ## Consumers that come and go -/

theorem mem_of_find? {monitor : Monitor} {name : Nat} {consumer : Consumer}
    (hfind : monitor.find? name = some consumer) :
    consumer ∈ monitor.consumers ∧ consumer.name = name := by
  refine ⟨List.mem_of_find?_eq_some hfind, ?_⟩
  simpa using List.find?_some hfind

theorem name_notMem_of_find? {monitor : Monitor} {name : Nat}
    (hfind : (monitor.find? name).isNone = true) : name ∉ monitor.names := by
  intro hmem
  obtain ⟨consumer, hconsumer, rfl⟩ := List.mem_map.mp hmem
  rw [Option.isNone_iff_eq_none, find?, List.find?_eq_none] at hfind
  simpa using hfind consumer hconsumer

/-- A consumer that is taken off the list takes its looks with it. -/
theorem consumerLooks_filter {consumers : List Consumer} {consumer : Consumer}
    (hnodup : (consumers.map Consumer.name).Nodup) (hmem : consumer ∈ consumers) :
    consumerLooks consumers =
      consumerLooks (consumers.filter (·.name ≠ consumer.name)) + consumer.looksDue := by
  induction consumers with
  | nil => simp at hmem
  | cons first rest ih =>
      rw [List.map_cons, List.nodup_cons] at hnodup
      rcases List.mem_cons.mp hmem with rfl | hrest
      · have hfilter : rest.filter (·.name ≠ consumer.name) = rest := by
          apply List.filter_eq_self.mpr
          intro other hother
          have hne : other.name ≠ consumer.name := fun heq =>
            hnodup.1 (heq ▸ List.mem_map_of_mem hother)
          simpa using hne
        simp only [List.filter_cons, ne_eq, not_true_eq_false, decide_false, Bool.false_eq_true,
          if_false]
        rw [hfilter]
        rw [consumerLooks, Nat.add_comm]
      · have hne : first.name ≠ consumer.name := fun heq =>
          hnodup.1 (heq ▸ List.mem_map_of_mem hrest)
        have hih := ih hnodup.2 hrest
        simp only [consumerLooks, List.filter_cons, ne_eq, hne, not_false_eq_true, decide_true,
          if_true] at hih ⊢
        omega

@[simp]
theorem buffer_leave (monitor : Monitor) (consumer : Consumer) :
    (monitor.leave consumer).buffer = monitor.buffer := by
  rw [leave]
  split
  · rw [buffer_wakeOne]
    rfl
  · rfl

@[simp]
theorem owedWakes_leave (monitor : Monitor) (consumer : Consumer) :
    (monitor.leave consumer).owedWakes = monitor.owedWakes := by
  rw [leave]
  split
  · rw [owedWakes_wakeOne]
    rfl
  · rfl

@[simp]
theorem owedBroadcasts_leave (monitor : Monitor) (consumer : Consumer) :
    (monitor.leave consumer).owedBroadcasts = monitor.owedBroadcasts := by
  rw [leave]
  split
  · rw [owedBroadcasts_wakeOne]
    rfl
  · rfl

theorem names_remove (monitor : Monitor) (name : Nat) :
    (monitor.remove name).names = monitor.names.filter (· ≠ name) := by
  rw [names, names, remove, List.filter_map]
  rfl

theorem names_leave (monitor : Monitor) (consumer : Consumer) :
    (monitor.leave consumer).names = monitor.names.filter (· ≠ consumer.name) := by
  rw [← names_remove, leave]
  split
  · exact names_wakeOne _
  · rfl

theorem names_register (monitor : Monitor) (name : Nat) :
    (monitor.register name).names = monitor.names ++ [name] := by
  rw [names, register, List.map_append]
  rfl

/-- If there is still an idle consumer after another one has left, then no look
is lost but the one that the other would have taken on its own account. -/
theorem looksDue_leave {monitor : Monitor} {consumer idle : Consumer}
    (hnodup : monitor.names.Nodup) (hconsumer : consumer ∈ monitor.consumers)
    (hmem : idle ∈ (monitor.leave consumer).consumers) (hidle : idle.IsIdle) :
    idle ∈ monitor.consumers ∧
      monitor.looksDue = (monitor.leave consumer).looksDue + if consumer.looked then 0 else 1 := by
  have hfilter := consumerLooks_filter hnodup hconsumer
  rw [leave] at hmem ⊢
  by_cases hchosen : consumer.signal = some .chosen
  · rw [if_pos hchosen] at hmem ⊢
    obtain ⟨hmem', hlooks⟩ := looksDue_wakeOne hmem hidle
    refine ⟨(List.mem_filter.mp hmem').1, ?_⟩
    rw [hlooks]
    simp only [looksDue, remove, hfilter, Consumer.looksDue, hchosen, if_true]
    omega
  · rw [if_neg hchosen] at hmem ⊢
    refine ⟨(List.mem_filter.mp hmem).1, ?_⟩
    simp only [looksDue, remove, hfilter, Consumer.looksDue, hchosen, if_false]
    omega

end Monitor

end LogRelay
