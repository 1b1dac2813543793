/-!
# First in, first out

A queue as two lists: the front in order and the back in reverse.  Its content
is the list `toList`, and every operation is described by it.
-/

namespace LogRelay

structure Fifo (α : Type) where
  front : List α
  back : List α
  deriving DecidableEq, Repr

namespace Fifo

variable {α : Type}

def empty : Fifo α := ⟨[], []⟩

instance : Inhabited (Fifo α) := ⟨empty⟩

def toList (queue : Fifo α) : List α :=
  queue.front ++ queue.back.reverse

def push (queue : Fifo α) (item : α) : Fifo α :=
  { queue with back := item :: queue.back }

def isEmpty (queue : Fifo α) : Bool :=
  queue.front.isEmpty && queue.back.isEmpty

def length (queue : Fifo α) : Nat :=
  queue.front.length + queue.back.length

/-- The oldest item and the queue without it. -/
def pop? (queue : Fifo α) : Option (α × Fifo α) :=
  match queue.front with
  | item :: front => some (item, ⟨front, queue.back⟩)
  | [] =>
    match queue.back.reverse with
    | item :: front => some (item, ⟨front, []⟩)
    | [] => none

@[simp]
theorem toList_empty : (empty : Fifo α).toList = [] := rfl

@[simp]
theorem toList_push (queue : Fifo α) (item : α) :
    (queue.push item).toList = queue.toList ++ [item] := by
  simp [toList, push]

theorem isEmpty_iff (queue : Fifo α) : queue.isEmpty = true ↔ queue.toList = [] := by
  simp [isEmpty, toList]

theorem eq_empty_of_toList {queue : Fifo α} (hempty : queue.toList = []) : queue = empty := by
  rcases queue with ⟨front, back⟩
  rw [toList, List.append_eq_nil_iff, List.reverse_eq_nil_iff] at hempty
  obtain ⟨rfl, rfl⟩ := hempty
  rfl

theorem length_toList (queue : Fifo α) : queue.toList.length = queue.length := by
  simp [toList, length]

theorem pop?_eq_none_iff (queue : Fifo α) : queue.pop? = none ↔ queue.toList = [] := by
  rcases queue with ⟨front, back⟩
  cases front with
  | cons item front => simp [pop?, toList]
  | nil =>
    cases hback : back.reverse with
    | cons item front => simp [pop?, toList, hback]
    | nil => simp [pop?, toList, hback]

theorem toList_of_pop? {queue rest : Fifo α} {item : α} (hpop : queue.pop? = some (item, rest)) :
    queue.toList = item :: rest.toList := by
  rcases queue with ⟨front, back⟩
  cases front with
  | cons first front =>
    simp only [pop?, Option.some.injEq, Prod.mk.injEq] at hpop
    obtain ⟨rfl, rfl⟩ := hpop
    rfl
  | nil =>
    cases hback : back.reverse with
    | cons first front =>
      simp only [pop?, hback, Option.some.injEq, Prod.mk.injEq] at hpop
      obtain ⟨rfl, rfl⟩ := hpop
      simp [toList, hback]
    | nil => simp [pop?, hback] at hpop

end Fifo

end LogRelay
