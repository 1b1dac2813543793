import LogRelay.Text.Characters
import Mathlib.Data.List.DropRight

/-!
# Trimmed text

Trimming takes the blanks away that are around a text, and nothing else: what begins and ends
without a blank is what is left of it, however many blanks stand around it.
-/

namespace LogRelay.Text

/-- Nothing but blanks. -/
def IsBlankText (text : List Char) : Prop :=
  ∀ character ∈ text, isBlank character = true

/-- No blank at either end. -/
def IsTrimmed (text : List Char) : Prop :=
  (∀ character ∈ text.head?, isBlank character = false) ∧
    ∀ character ∈ text.getLast?, isBlank character = false

variable {text lead trail : List Char}

theorem IsBlankText.append (hlead : IsBlankText lead) (htrail : IsBlankText trail) :
    IsBlankText (lead ++ trail) :=
  List.forall_mem_append.mpr ⟨hlead, htrail⟩

theorem isTrimmed_of_forall (htext : ∀ character ∈ text, isBlank character = false) :
    IsTrimmed text :=
  ⟨fun character hhead => htext character (List.mem_of_mem_head? hhead),
    fun character hlast => htext character (List.mem_of_mem_getLast? hlast)⟩

theorem isTrimmed_of_ends {front back : List Char} (between : List Char) (hfront : front ≠ [])
    (hback : back ≠ []) (hfrontSolid : ∀ character ∈ front, isBlank character = false)
    (hbackSolid : ∀ character ∈ back, isBlank character = false) :
    IsTrimmed (front ++ between ++ back) := by
  constructor
  · rw [List.append_assoc, List.head?_append_of_ne_nil _ hfront]
    exact fun character hhead => hfrontSolid character (List.mem_of_mem_head? hhead)
  · rw [List.getLast?_append_of_ne_nil _ hback]
    exact fun character hlast => hbackSolid character (List.mem_of_mem_getLast? hlast)

theorem trimEnd_append_of_blank (text : List Char) (htrail : IsBlankText trail) :
    trimEnd (text ++ trail) = trimEnd text := by
  have hreverse : ∀ character ∈ trail.reverse, isBlank character = true :=
    fun character hmem => htrail character (List.mem_reverse.mp hmem)
  rw [trimEnd, List.reverse_append, List.dropWhile_append_of_pos hreverse, trimEnd]

theorem trimEnd_of_isTrimmed (htext : IsTrimmed text) : trimEnd text = text := by
  change text.rdropWhile isBlank = text
  rw [List.rdropWhile_eq_self_iff]
  intro hsome
  rw [htext.2 _ (List.getLast?_eq_some_getLast hsome)]
  exact Bool.false_ne_true

theorem trim_of_isTrimmed (hlead : IsBlankText lead) (htrail : IsBlankText trail)
    (htext : IsTrimmed text) : trim (lead ++ text ++ trail) = text := by
  rw [trim, trimStart, List.append_assoc, List.dropWhile_append_of_pos hlead]
  cases text with
  | nil =>
      rw [List.nil_append, List.dropWhile_eq_nil_iff.mpr htrail]
      rfl
  | cons first rest =>
      have hfirst : ¬ isBlank first = true := by
        rw [htext.1 first rfl]
        exact Bool.false_ne_true
      rw [List.cons_append, List.dropWhile_cons_of_neg hfirst, ← List.cons_append,
        trimEnd_append_of_blank _ htrail, trimEnd_of_isTrimmed htext]

/-- Only blanks are taken away. -/
theorem exists_trim (text : List Char) :
    ∃ lead trail, text = lead ++ trim text ++ trail ∧ IsBlankText lead ∧ IsBlankText trail := by
  refine ⟨text.takeWhile isBlank, (trimStart text).rtakeWhile isBlank, ?_,
    fun _ => List.mem_takeWhile_imp, fun _ => List.mem_rtakeWhile_imp⟩
  have hend : trim text ++ (trimStart text).rtakeWhile isBlank = trimStart text :=
    List.rdropWhile_append_rtakeWhile
  rw [List.append_assoc, hend, trimStart, List.takeWhile_append_dropWhile]

end LogRelay.Text
