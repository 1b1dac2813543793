import LogRelay.Framing.Timeline
import Mathlib.Data.List.Basic

/-!
# Pipes that come to their end

A steady pipe brings bytes, interruptions and waits in any order, and then the
end of its stream.  A look at it brings the next bytes of its content, as many
as were asked for at most, and comes closer to the end.
-/

namespace LogRelay

/-- The step brings bytes, is made again at once, or passes with time. -/
def PipeStep.isSteady : PipeStep → Bool
  | .data bytes => !bytes.isEmpty
  | .wait _ | .waitUntil _ => true
  | .fail failure => failure.isInterruption
  | .cancel | .hang | .crash => false

def PipeStep.bytes : PipeStep → Bytes
  | .data bytes => bytes
  | _ => []

namespace PipeScript

def isSteady (pipe : PipeScript) : Bool :=
  pipe.all PipeStep.isSteady

/-- The stream that the pipe brings. -/
def content (pipe : PipeScript) : Bytes :=
  pipe.flatMap PipeStep.bytes

/-- The time at which the waits of the pipe are over if it is read from `clock`
on without delay. -/
def endsBy (clock : Nat) : PipeScript → Nat
  | [] => clock
  | .wait ms :: rest => endsBy (clock + ms) rest
  | .waitUntil time :: rest => endsBy (max clock time) rest
  | _ :: rest => endsBy clock rest

/-- A bound for the looks at the pipe before its end. -/
def looksLeft (clock : Nat) : PipeScript → Nat
  | [] => 0
  | .data bytes :: rest => bytes.length + looksLeft clock rest
  | .waitUntil time :: rest => (if time ≤ clock then 0 else 1) + looksLeft clock rest
  | _ :: rest => 1 + looksLeft clock rest

@[simp]
theorem isSteady_cons (step : PipeStep) (rest : PipeScript) :
    isSteady (step :: rest) = true ↔ step.isSteady = true ∧ rest.isSteady = true := by
  rw [isSteady, List.all_cons, Bool.and_eq_true]
  rfl

@[simp]
theorem content_cons (step : PipeStep) (rest : PipeScript) :
    content (step :: rest) = step.bytes ++ rest.content :=
  List.flatMap_cons

theorem le_endsBy (clock : Nat) (pipe : PipeScript) : clock ≤ endsBy clock pipe := by
  induction clock, pipe using endsBy.induct with
  | case1 clock => exact Nat.le_refl clock
  | case2 clock ms rest ih =>
      rw [endsBy]
      omega
  | case3 clock time rest ih =>
      rw [endsBy]
      omega
  | case4 clock step rest hwait huntil ih =>
      rw [endsBy]
      · exact ih
      · exact hwait
      · exact huntil

theorem looksLeft_anti {clock later : Nat} (hlater : clock ≤ later) (pipe : PipeScript) :
    looksLeft later pipe ≤ looksLeft clock pipe := by
  induction pipe with
  | nil => exact Nat.le_refl _
  | cons step rest ih =>
      cases step with
      | waitUntil time =>
          simp only [looksLeft]
          split <;> split <;> omega
      | _ => simpa [looksLeft] using ih

/-- The fuel that is given for the looks at a pipe is enough. -/
theorem looksLeft_lt_work (clock : Nat) (pipe : PipeScript) :
    looksLeft clock pipe < FramerTimeline.work pipe := by
  induction pipe with
  | nil => simp [looksLeft, FramerTimeline.work]
  | cons step rest ih =>
      cases step with
      | waitUntil time =>
          simp only [looksLeft, FramerTimeline.work]
          split <;> omega
      | _ =>
          simp only [looksLeft, FramerTimeline.work]
          omega

theorem length_content_lt_work (pipe : PipeScript) :
    pipe.content.length < FramerTimeline.work pipe := by
  induction pipe with
  | nil => simp [content, FramerTimeline.work]
  | cons step rest ih =>
      rw [content_cons, List.length_append]
      cases step <;> simp only [PipeStep.bytes, FramerTimeline.work, List.length_nil] <;> omega

/-- A read brings no more than it asked for. -/
theorem length_le_of_look {clock asked : Nat} {pipe rest : PipeScript} {bytes : Bytes}
    (hlook : pipe.look clock asked = (.ready (.data bytes), rest)) : bytes.length ≤ asked := by
  induction pipe with
  | nil =>
      cases hlook
      exact Nat.zero_le _
  | cons step tail ih =>
      cases step with
      | data bytes =>
          cases hlook
          exact List.length_take_le _ _
      | wait ms =>
          rw [look] at hlook
          split at hlook
          · exact ih hlook
          · cases hlook
      | waitUntil time =>
          rw [look] at hlook
          split at hlook
          · exact ih hlook
          · cases hlook
      | fail | cancel | hang | crash => cases hlook

/-- What a look at a steady pipe comes to, with what is left of the pipe. -/
inductive Brings (clock : Nat) (pipe : PipeScript) : PipeAnswer × PipeScript → Prop where
  | bytes {bytes : Bytes} {rest : PipeScript} (hbytes : bytes ≠ [])
      (hsteady : rest.isSteady) (hcontent : pipe.content = bytes ++ rest.content)
      (hlooks : looksLeft clock rest < looksLeft clock pipe)
      (hends : endsBy clock rest = endsBy clock pipe) :
      Brings clock pipe (.ready (.data bytes), rest)
  | nothing (hcontent : pipe.content = []) : Brings clock pipe (.ready (.data []), [])
  | interruption {failure : Failure} {rest : PipeScript} (hfailure : failure.isInterruption)
      (hsteady : rest.isSteady) (hcontent : pipe.content = rest.content)
      (hlooks : looksLeft clock rest < looksLeft clock pipe)
      (hends : endsBy clock rest = endsBy clock pipe) :
      Brings clock pipe (.ready (.failed failure), rest)
  | wait {time : Nat} {rest : PipeScript} (htime : clock < time)
      (hsteady : rest.isSteady) (hcontent : pipe.content = rest.content)
      (hlooks : looksLeft time rest < looksLeft clock pipe)
      (hends : endsBy time rest = endsBy clock pipe) :
      Brings clock pipe (.pending (some time), rest)

/-- The data of a look is the next of the content.  If there is none, nothing more comes,
and else the look was not in vain. -/
theorem Brings.of_data {clock : Nat} {pipe rest : PipeScript} {bytes : Bytes}
    (hbrings : Brings clock pipe (.ready (.data bytes), rest)) :
    rest.isSteady = true ∧ pipe.content = bytes ++ rest.content ∧
      (bytes = [] → rest.content = []) ∧ endsBy clock rest ≤ endsBy clock pipe ∧
      (looksLeft clock rest + if bytes.isEmpty then 0 else 1) ≤ looksLeft clock pipe := by
  cases hbrings with
  | bytes hbytes hsteady hcontent hlooks hends =>
      refine ⟨hsteady, hcontent, fun hnone => absurd hnone hbytes, Nat.le_of_eq hends, ?_⟩
      split <;> omega
  | nothing hcontent =>
      exact ⟨rfl, hcontent, fun _ => rfl, le_endsBy clock pipe, Nat.zero_le _⟩

/-- A step that is passed by changes nothing of what a look brings. -/
theorem Brings.cons {clock : Nat} {pipe : PipeScript} {step : PipeStep}
    {result : PipeAnswer × PipeScript} (hbrings : Brings clock pipe result)
    (hcontent : content (step :: pipe) = pipe.content)
    (hlooks : looksLeft clock pipe ≤ looksLeft clock (step :: pipe))
    (hends : endsBy clock (step :: pipe) = endsBy clock pipe) :
    Brings clock (step :: pipe) result := by
  cases hbrings with
  | bytes hbytes hsteady hcontent' hlooks' hends' =>
      exact .bytes hbytes hsteady (hcontent.trans hcontent') (by omega) (hends'.trans hends.symm)
  | nothing hcontent' => exact .nothing (hcontent.trans hcontent')
  | interruption hfailure hsteady hcontent' hlooks' hends' =>
      exact .interruption hfailure hsteady (hcontent.trans hcontent') (by omega)
        (hends'.trans hends.symm)
  | wait htime hsteady hcontent' hlooks' hends' =>
      exact .wait htime hsteady (hcontent.trans hcontent') (by omega) (hends'.trans hends.symm)

theorem brings_look (clock : Nat) {asked : Nat} (hasked : 0 < asked) {pipe : PipeScript}
    (hsteady : pipe.isSteady) : Brings clock pipe (pipe.look clock asked) := by
  induction pipe with
  | nil => exact .nothing rfl
  | cons step rest ih =>
      obtain ⟨hstep, hrest⟩ := (isSteady_cons step rest).mp hsteady
      cases step with
      | data bytes =>
          have hbytes : bytes ≠ [] := by simpa [PipeStep.isSteady] using hstep
          have hlength := List.length_pos_iff.mpr hbytes
          rw [look]
          by_cases hall : bytes.length ≤ asked
          · rw [if_pos hall, List.take_of_length_le hall]
            refine .bytes hbytes hrest (content_cons _ _) ?_ (by simp [endsBy])
            simp only [looksLeft]
            omega
          · rw [if_neg hall]
            have htake : bytes.take asked ≠ [] := by
              simp only [ne_eq, List.take_eq_nil_iff, not_or]
              exact ⟨by omega, hbytes⟩
            refine .bytes htake ((isSteady_cons _ _).mpr ⟨?_, hrest⟩) ?_ ?_ (by simp [endsBy])
            · simpa [PipeStep.isSteady] using hall
            · rw [content_cons, content_cons, PipeStep.bytes, PipeStep.bytes,
                ← List.append_assoc, List.take_append_drop]
            · simp only [looksLeft, List.length_drop]
              omega
      | wait ms =>
          rw [look]
          by_cases hms : ms = 0
          · subst hms
            rw [if_pos rfl]
            exact (ih hrest).cons (content_cons _ _) (by simp [looksLeft]) (by simp [endsBy])
          · rw [if_neg hms]
            refine .wait (by omega) ((isSteady_cons _ _).mpr ⟨rfl, hrest⟩)
              (content_cons _ _) ?_ (by simp [endsBy])
            have hanti := looksLeft_anti (Nat.le_add_right clock ms) rest
            simp only [looksLeft, Nat.le_refl, if_true]
            omega
      | waitUntil time =>
          rw [look]
          by_cases htime : time ≤ clock
          · rw [if_pos htime]
            exact (ih hrest).cons (content_cons _ _) (by simp [looksLeft, htime])
              (by simp [endsBy, Nat.max_eq_left htime])
          · rw [if_neg htime]
            have hlater : clock ≤ time := by omega
            refine .wait (by omega) ((isSteady_cons _ _).mpr ⟨rfl, hrest⟩)
              (content_cons _ _) ?_ (by simp [endsBy, Nat.max_eq_right hlater])
            have hanti := looksLeft_anti hlater rest
            simp only [looksLeft, Nat.le_refl, if_true, if_neg htime]
            omega
      | fail failure =>
          rw [look]
          exact .interruption hstep hrest (content_cons _ _) (by simp [looksLeft])
            (by simp [endsBy])
      | cancel => exact absurd hstep Bool.false_ne_true
      | hang => exact absurd hstep Bool.false_ne_true
      | crash => exact absurd hstep Bool.false_ne_true

end PipeScript

end LogRelay
