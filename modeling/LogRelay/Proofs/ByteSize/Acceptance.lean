import LogRelay.Config.Validation
import LogRelay.Proofs.ByteSize.Grammar
import Mathlib.Data.List.Nodup

/-!
# Which texts are sizes

A text is accepted if and only if it spells a size; every other text is refused with one and
the same fault.  Signs, exponents, a second point, a letter that comes twice and blanks inside
the unit are among what is refused.
-/

namespace LogRelay

namespace ByteSize

open Text

/-- A mistake that no size has. -/
inductive IsMisspelt (text : List Char) : Prop
  /-- A sign, the letter of an exponent, or a letter of `inf` or `nan`. -/
  | foreign {character : Char} (hmem : character ∈ text) (hblank : isBlank character = false)
      (hnumber : isNumberChar character = false) (hletter : character ∉ unitLetters)
  | points (htwice : 1 < text.count '.')
  | repeated {letter : Char} (hletter : letter ∈ smallLetters)
      (htwice : 1 < (text.map Char.toLower).count letter)
  /-- A blank between two letters of the unit. -/
  | parted {before after : List Char} {blank first second : Char}
      (htext : text = before ++ blank :: after) (hblank : isBlank blank = true)
      (hfirst : first ∈ before) (hfirstLetter : first ∈ unitLetters)
      (hsecond : second ∈ after) (hsecondLetter : second ∈ unitLetters)

/-- A text without a letter of a unit. -/
def HasNoLetter (text : List Char) : Prop :=
  ∀ character ∈ text, character ∉ unitLetters

theorem hasNoLetter_of_blank {text : List Char} (hblank : IsBlankText text) :
    HasNoLetter text := by
  intro character hmem hletter
  have hsolid := (solid_of_mem_unitLetters character hletter).1
  exact Bool.false_ne_true (hsolid.symm.trans (hblank character hmem))

theorem IsNumber.hasNoLetter {text : List Char} (hnumber : IsNumber text) : HasNoLetter text := by
  intro character hmem hletter
  have hsolid := (solid_of_mem_unitLetters character hletter).2
  exact Bool.false_ne_true (hsolid.symm.trans (hnumber.areNumberChars character hmem))

/-- The unit with what stands before and behind it; there are no letters but in the unit. -/
theorem Spells.exists_unit {number text : List Char} {scale : Option Scale}
    (hspells : Spells number scale text) :
    ∃ front unit trail, text = front ++ unit ++ trail ∧ HasNoLetter front ∧ IsUnit scale unit ∧
      HasNoLetter trail := by
  obtain ⟨hlead, hnumber, hbetween, hunit, htrail⟩ := hspells
  refine ⟨_, _, _, rfl, ?_, hunit, hasNoLetter_of_blank htrail⟩
  exact List.forall_mem_append.mpr ⟨List.forall_mem_append.mpr ⟨hasNoLetter_of_blank hlead,
    hnumber.hasNoLetter⟩, hasNoLetter_of_blank hbetween⟩

variable {number text : List Char} {scale : Option Scale}

theorem Spells.not_foreign (hspells : Spells number scale text) {character : Char}
    (hmem : character ∈ text) :
    isBlank character = true ∨ isNumberChar character = true ∨ character ∈ unitLetters := by
  obtain ⟨hlead, hnumber, hbetween, hunit, htrail⟩ := hspells
  simp only [List.mem_append] at hmem
  rcases hmem with (((hmem | hmem) | hmem) | hmem) | hmem
  · exact Or.inl (hlead character hmem)
  · exact Or.inr (Or.inl (hnumber.areNumberChars character hmem))
  · exact Or.inl (hbetween character hmem)
  · exact Or.inr (Or.inr (hunit.mem_unitLetters character hmem))
  · exact Or.inl (htrail character hmem)

theorem AreDigits.count_point {digits : List Char} (hdigits : AreDigits digits) :
    digits.count '.' = 0 :=
  List.count_eq_zero.mpr fun hmem => isDigit_point (hdigits '.' hmem)

theorem IsNumber.count_point_le (hnumber : IsNumber number) : number.count '.' ≤ 1 := by
  cases hnumber with
  | whole hsome hdigits =>
      rw [hdigits.count_point]
      exact Nat.zero_le 1
  | decimal hsome hwhole hfraction =>
      rw [List.count_append, List.count_cons_self, hwhole.count_point, hfraction.count_point]
  | fraction hsome hfraction => rw [List.count_cons_self, hfraction.count_point]

theorem Spells.count_point_le (hspells : Spells number scale text) : text.count '.' ≤ 1 := by
  have hblank : ∀ {blanks : List Char}, IsBlankText blanks → blanks.count '.' = 0 :=
    fun hblanks => List.count_eq_zero.mpr fun hmem =>
      Bool.false_ne_true (show isBlank '.' = true from hblanks '.' hmem)
  have hpoint : isNumberChar '.' = true := by decide
  obtain ⟨hlead, hnumber, hbetween, hunit, htrail⟩ := hspells
  have hunit := List.count_eq_zero.mpr fun hmem =>
    Bool.false_ne_true ((solid_of_mem_unitLetters '.'
      (hunit.mem_unitLetters '.' hmem)).2.symm.trans hpoint)
  simp only [List.count_append, hblank hlead, hblank hbetween, hblank htrail, hunit, Nat.zero_add,
    Nat.add_zero]
  exact hnumber.count_point_le

theorem HasNoLetter.count_eq_zero (hnone : HasNoLetter text) {letter : Char}
    (hletter : letter ∈ smallLetters) : (text.map Char.toLower).count letter = 0 := by
  have hall : (smallLetters.all fun letter => 'a' ≤ letter && letter ≤ 'z') = true := by decide
  have hsmall : 'a' ≤ letter ∧ letter ≤ 'z' := by
    simpa using List.all_eq_true.mp hall letter hletter
  rw [List.count_eq_zero, List.mem_map]
  rintro ⟨character, hmem, hlower⟩
  apply hnone character hmem
  rw [unitLetters, List.mem_append]
  rcases (toLower_eq_iff hsmall).mp hlower with rfl | rfl
  · exact Or.inl hletter
  · exact Or.inr (List.mem_map_of_mem hletter)

theorem nodup_smallUnit (scale : Option Scale) (binary bytes : Bool) :
    (smallUnit scale binary bytes).Nodup := by
  rcases scale with _ | scale
  · cases binary <;> cases bytes <;> decide
  · cases scale <;> cases binary <;> cases bytes <;> decide

theorem Spells.count_letter_le (hspells : Spells number scale text) {letter : Char}
    (hletter : letter ∈ smallLetters) : (text.map Char.toLower).count letter ≤ 1 := by
  obtain ⟨front, unit, trail, rfl, hfront, hunit, htrail⟩ := hspells.exists_unit
  obtain ⟨binary, bytes, hsmall⟩ := (isUnit_iff _ _).mp hunit
  rw [List.map_append, List.map_append, List.count_append, List.count_append,
    hfront.count_eq_zero hletter, htrail.count_eq_zero hletter, hsmall, Nat.zero_add]
  exact List.nodup_iff_count_le_one.mp (nodup_smallUnit scale binary bytes) letter

/-- Between two letters of a unit there is no blank. -/
theorem Spells.not_parted (hspells : Spells number scale text) {before after : List Char}
    {blank first second : Char} (htext : text = before ++ blank :: after)
    (hfirst : first ∈ before) (hfirstLetter : first ∈ unitLetters) (hsecond : second ∈ after)
    (hsecondLetter : second ∈ unitLetters) : isBlank blank = false := by
  obtain ⟨front, unit, trail, rfl, hfront, hunit, htrail⟩ := hspells.exists_unit
  rw [List.append_assoc] at htext
  rcases List.append_eq_append_iff.mp htext with ⟨more, rfl, hrest⟩ | ⟨more, rfl, -⟩
  · rcases List.append_eq_append_iff.mp hrest with ⟨gap, -, htail⟩ | ⟨rest, rfl, htail⟩
    · -- The unit ends before the blank.
      have hmem : second ∈ trail := by
        rw [htail]
        exact List.mem_append_right _ (List.mem_cons_of_mem _ hsecond)
      exact absurd hsecondLetter (htrail second hmem)
    · cases rest with
      | nil =>
          have hmem : second ∈ trail := by
            rw [List.nil_append] at htail
            rw [← htail]
            exact List.mem_cons_of_mem _ hsecond
          exact absurd hsecondLetter (htrail second hmem)
      | cons _ rest =>
          obtain rfl := (List.cons.inj htail).1
          have hmem := hunit.mem_unitLetters blank (List.mem_append_right _ List.mem_cons_self)
          exact (solid_of_mem_unitLetters blank hmem).1
  · -- The blank stands before the unit.
    exact absurd hfirstLetter (hfront first (List.mem_append_left _ hfirst))

theorem Spells.not_isMisspelt (hspells : Spells number scale text) : ¬ IsMisspelt text := by
  intro hmistake
  cases hmistake with
  | foreign hmem hblank hnumber hletter =>
      rcases hspells.not_foreign hmem with hkind | hkind | hkind
      · exact Bool.false_ne_true (hblank.symm.trans hkind)
      · exact Bool.false_ne_true (hnumber.symm.trans hkind)
      · exact hletter hkind
  | points htwice => exact Nat.not_lt_of_le hspells.count_point_le htwice
  | repeated hletter htwice => exact Nat.not_lt_of_le (hspells.count_letter_le hletter) htwice
  | parted htext hblank hfirst hfirstLetter hsecond hsecondLetter =>
      exact Bool.false_ne_true ((hspells.not_parted htext hfirst hfirstLetter hsecond
        hsecondLetter).symm.trans hblank)

end ByteSize

namespace Config

open ByteSize

theorem exists_parseSize_of_spells {number : List Char} {scale : Option Scale} {text : String}
    (hspells : Spells number scale text.toList) : ∃ size, parseSize text = .ok size := by
  obtain ⟨value, -, hparse⟩ := hspells.exists_parse?
  rw [parseSize, hparse]
  exact ⟨_, rfl⟩

theorem parseSize_of_not_spells {text : String}
    (hnone : ∀ number scale, ¬ Spells number scale text.toList) :
    parseSize text = .error (.invalidSize text) := by
  rw [parseSize]
  cases hparse : ByteSize.parse? text.toList with
  | none => rfl
  | some size =>
      obtain ⟨number, scale, hspells⟩ := exists_spells_of_parse? hparse
      exact absurd hspells (hnone number scale)

/-- A text is accepted if and only if it spells a size.  Any other one is refused as an invalid
size, those with a mistake that no size has among them.  Two spellings of the same number and
the same scale are the same size. -/
theorem parseSize_ok_iff_spells (text : String) :
    ((∃ size, parseSize text = .ok size) ↔ ∃ number scale, Spells number scale text.toList) ∧
    ((∀ number scale, ¬ Spells number scale text.toList) →
      parseSize text = .error (.invalidSize text) ∧
        (ConfigFault.invalidSize text).toError =
          .configuration ("Invalid size: " ++ Text.quote text)) ∧
    (IsMisspelt text.toList → parseSize text = .error (.invalidSize text)) ∧
    ∀ number scale (other : String), Spells number scale text.toList →
      Spells number scale other.toList →
      ∃ size, parseSize text = .ok size ∧ parseSize other = .ok size := by
  refine ⟨⟨?_, ?_⟩, ?_, ?_, ?_⟩
  · rintro ⟨size, hsize⟩
    by_contra hnone
    rw [parseSize_of_not_spells fun number scale hspells => hnone ⟨number, scale, hspells⟩] at hsize
    cases hsize
  · rintro ⟨number, scale, hspells⟩
    exact exists_parseSize_of_spells hspells
  · exact fun hnone => ⟨parseSize_of_not_spells hnone, rfl⟩
  · exact fun hmistake => parseSize_of_not_spells fun _ _ hspells =>
      hspells.not_isMisspelt hmistake
  · intro number scale other htext hother
    obtain ⟨value, hvalue, hparse⟩ := htext.exists_parse?
    obtain ⟨again, hagain, hotherParse⟩ := hother.exists_parse?
    obtain rfl := Option.some.inj (hvalue.symm.trans hagain)
    rw [parseSize, parseSize, hparse, hotherParse]
    exact ⟨_, rfl, rfl⟩

/-- One and a half kibibytes, spelt in two ways, and with a blank inside the unit. -/
theorem parseSize_of_two_spellings :
    (∃ size, parseSize " 1.5 KiB" = .ok size ∧ parseSize "1.5k\n" = .ok size) ∧
      parseSize "1.5 k b" = .error (.invalidSize "1.5 k b") := by
  have hnone : Text.IsBlankText [] := List.forall_mem_nil _
  have hspace : Text.IsBlankText [' '] := List.forall_mem_singleton.mpr rfl
  have hnewline : Text.IsBlankText ['\n'] := List.forall_mem_singleton.mpr rfl
  have hone : AreDigits ['1'] := List.forall_mem_singleton.mpr rfl
  have hfive : AreDigits ['5'] := List.forall_mem_singleton.mpr rfl
  have hnumber : IsNumber ['1', '.', '5'] := .decimal (List.cons_ne_nil _ _) hone hfive
  have hcapital : IsScale (some .kilo) ['K'] := Or.inr rfl
  have hsmall : IsScale (some .kilo) ['k'] := Or.inl rfl
  have hbinary : MayBe 'i' ['i'] := Or.inr (Or.inl rfl)
  have hbytes : MayBe 'b' ['B'] := Or.inr (Or.inr rfl)
  have hlong : IsUnit (some .kilo) ['K', 'i', 'B'] := .letters hcapital hbinary hbytes
  have hshort : IsUnit (some .kilo) ['k'] := .letters hsmall (Or.inl rfl) (Or.inl rfl)
  have hspaced : Spells ['1', '.', '5'] (some .kilo) " 1.5 KiB".toList :=
    .parts hspace hnumber hspace hlong hnone
  have hplain : Spells ['1', '.', '5'] (some .kilo) "1.5k\n".toList :=
    .parts hnone hnumber hnone hshort hnewline
  have htext : "1.5 k b".toList = ['1', '.', '5', ' ', 'k'] ++ ' ' :: ['b'] := rfl
  have hbefore : 'k' ∈ ['1', '.', '5', ' ', 'k'] := by decide
  have hafter : 'b' ∈ ['b'] := List.mem_singleton_self _
  have hparted : IsMisspelt "1.5 k b".toList :=
    .parted htext rfl hbefore (by decide) hafter (by decide)
  exact ⟨(parseSize_ok_iff_spells _).2.2.2 _ _ _ hspaced hplain,
    (parseSize_ok_iff_spells _).2.2.1 hparted⟩

end Config

end LogRelay
