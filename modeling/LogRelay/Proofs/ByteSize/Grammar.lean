import LogRelay.ByteSize
import LogRelay.Proofs.Text.Trimming

/-!
# How sizes are written

A size is a number and a unit with blanks around them and in between.  The reader takes
exactly the texts of this form, and what it makes of one depends on the number and on the
scale of the unit alone.
-/

namespace LogRelay.ByteSize

open Text

/-! ## Numbers -/

def AreDigits (digits : List Char) : Prop :=
  ∀ digit ∈ digits, isDigit digit = true

/-- Digits that may go on behind a point, or a point with digits behind it. -/
inductive IsNumber : List Char → Prop
  | whole {digits : List Char} (hsome : digits ≠ []) (hdigits : AreDigits digits) : IsNumber digits
  | decimal {whole fraction : List Char} (hsome : whole ≠ []) (hwhole : AreDigits whole)
      (hfraction : AreDigits fraction) : IsNumber (whole ++ '.' :: fraction)
  | fraction {fraction : List Char} (hsome : fraction ≠ []) (hfraction : AreDigits fraction) :
      IsNumber ('.' :: fraction)

theorem isDigit_point : ¬ isDigit '.' = true := by
  decide

theorem number?_of_digits {digits : List Char} (hsome : digits ≠ [])
    (hdigits : AreDigits digits) :
    number? digits = some (Binary64.ofDecimal false (digitsValue digits) 0) := by
  have hrest : digits.dropWhile isDigit = [] := List.dropWhile_eq_nil_iff.mpr hdigits
  have hwhole : digits.takeWhile isDigit = digits := List.takeWhile_eq_self_iff.mpr hdigits
  have hempty : ¬ digits.isEmpty = true := by
    rw [List.isEmpty_iff]
    exact hsome
  rw [number?, hrest, hwhole]
  exact if_neg hempty

theorem exists_number?_of_point {whole fraction : List Char} (hsome : whole ≠ [] ∨ fraction ≠ [])
    (hwhole : AreDigits whole) (hfraction : AreDigits fraction) :
    ∃ value, number? (whole ++ '.' :: fraction) = some value := by
  have hrest : (whole ++ '.' :: fraction).dropWhile isDigit = '.' :: fraction := by
    rw [List.dropWhile_append_of_pos hwhole, List.dropWhile_cons_of_neg isDigit_point]
  have htake : (whole ++ '.' :: fraction).takeWhile isDigit = whole := by
    rw [List.takeWhile_append_of_pos hwhole, List.takeWhile_cons_of_neg isDigit_point,
      List.append_nil]
  have hall : fraction.all isDigit = true := List.all_eq_true.mpr hfraction
  have hnotBoth : ¬ (whole.isEmpty = true ∧ fraction.isEmpty = true) := by
    rw [List.isEmpty_iff, List.isEmpty_iff, not_and_or]
    exact hsome
  rw [number?, hrest, htake]
  exact ⟨_, if_pos ⟨rfl, hall, hnotBoth⟩⟩

theorem IsNumber.exists_number? {text : List Char} (hnumber : IsNumber text) :
    ∃ value, number? text = some value := by
  cases hnumber with
  | whole hsome hdigits => exact ⟨_, number?_of_digits hsome hdigits⟩
  | decimal hsome hwhole hfraction => exact exists_number?_of_point (Or.inl hsome) hwhole hfraction
  | fraction hsome hfraction =>
      exact exists_number?_of_point (Or.inr hsome) (List.forall_mem_nil _) hfraction

theorem isNumber_of_number? {text : List Char} {value : Binary64}
    (hvalue : number? text = some value) : IsNumber text := by
  have hsplit := List.takeWhile_append_dropWhile (p := isDigit) (l := text)
  have hwhole : AreDigits (text.takeWhile isDigit) := fun _ => List.mem_takeWhile_imp
  rw [number?] at hvalue
  generalize text.takeWhile isDigit = whole at hsplit hwhole hvalue
  cases hrest : text.dropWhile isDigit with
  | nil =>
      rw [hrest, List.append_nil] at hsplit
      rw [hrest, Option.ite_none_left_eq_some, List.isEmpty_iff] at hvalue
      rw [← hsplit]
      exact .whole hvalue.1 hwhole
  | cons point fraction =>
      rw [hrest] at hsplit hvalue
      rw [Option.ite_none_right_eq_some, List.isEmpty_iff, List.isEmpty_iff] at hvalue
      obtain ⟨⟨rfl, hall, hnotBoth⟩, -⟩ := hvalue
      have hfraction : AreDigits fraction := List.all_eq_true.mp hall
      rw [← hsplit]
      by_cases hsome : whole = []
      · rw [hsome]
        exact .fraction (fun hnone => hnotBoth ⟨hsome, hnone⟩) hfraction
      · exact .decimal hsome hwhole hfraction

theorem AreDigits.areNumberChars {digits : List Char} (hdigits : AreDigits digits) :
    ∀ character ∈ digits, isNumberChar character = true := by
  intro character hmem
  rw [isNumberChar, hdigits character hmem, Bool.true_or]

theorem IsNumber.areNumberChars {text : List Char} (hnumber : IsNumber text) :
    ∀ character ∈ text, isNumberChar character = true := by
  have hpoint : isNumberChar '.' = true := by decide
  cases hnumber with
  | whole hsome hdigits => exact hdigits.areNumberChars
  | decimal hsome hwhole hfraction =>
      exact List.forall_mem_append.mpr ⟨hwhole.areNumberChars,
        List.forall_mem_cons.mpr ⟨hpoint, hfraction.areNumberChars⟩⟩
  | fraction hsome hfraction =>
      exact List.forall_mem_cons.mpr ⟨hpoint, hfraction.areNumberChars⟩

theorem IsNumber.ne_nil {text : List Char} (hnumber : IsNumber text) : text ≠ [] := by
  cases hnumber with
  | whole hsome hdigits => exact hsome
  | decimal hsome hwhole hfraction =>
      exact List.append_ne_nil_of_right_ne_nil _ (List.cons_ne_nil _ _)
  | fraction hsome hfraction => exact List.cons_ne_nil _ _

/-! ## Units -/

/-- What the letter at the front of a unit scales the number by. -/
inductive Scale where
  | kilo
  | mega
  | giga
  | tera
  | peta
  deriving DecidableEq, Repr

namespace Scale

def letter : Scale → Char
  | kilo => 'k'
  | mega => 'm'
  | giga => 'g'
  | tera => 't'
  | peta => 'p'

/-- The power of two of a unit, which may have no letter for it. -/
def exponent : Option Scale → Nat
  | none => 0
  | some kilo => 10
  | some mega => 20
  | some giga => 30
  | some tera => 40
  | some peta => 50

end Scale

/-- Nothing, or the letter in either case. -/
def MayBe (letter : Char) (text : List Char) : Prop :=
  text = [] ∨ text = [letter] ∨ text = [letter.toUpper]

/-- The letter of the scale in either case; nothing for no scale. -/
def IsScale : Option Scale → List Char → Prop
  | none, text => text = []
  | some scale, text => text = [scale.letter] ∨ text = [scale.letter.toUpper]

/-- A letter for the scale, then `i`, then `b`, each of which may be missing. -/
inductive IsUnit (scale : Option Scale) : List Char → Prop
  | letters {letter binary bytes : List Char} (hletter : IsScale scale letter)
      (hbinary : MayBe 'i' binary) (hbytes : MayBe 'b' bytes) :
      IsUnit scale (letter ++ binary ++ bytes)

/-- The unit in small letters. -/
def smallUnit (scale : Option Scale) (binary bytes : Bool) : List Char :=
  (scale.map Scale.letter).toList ++ (if binary then ['i'] else []) ++
    if bytes then ['b'] else []

theorem toNat_toLower (character : Char) : character.toLower.toNat =
    if 65 ≤ character.toNat ∧ character.toNat ≤ 90 then character.toNat + 32
    else character.toNat := by
  have hgap : ('a'.val - 'A'.val).toNat = 32 := rfl
  delta Char.toLower
  simp only [ge_iff_le, UInt32.le_iff_toNat_le]
  split
  · next hcapital =>
      have hbounds : 65 ≤ character.toNat ∧ character.toNat ≤ 90 := hcapital
      have hfits : character.toNat + 32 < 2 ^ 32 := by omega
      rw [if_pos hbounds]
      change (character.val + ('a'.val - 'A'.val)).toNat = character.toNat + 32
      rw [UInt32.toNat_add, hgap]
      exact Nat.mod_eq_of_lt hfits
  · next hother => exact (if_neg hother).symm

theorem toNat_toUpper (character : Char) : character.toUpper.toNat =
    if 97 ≤ character.toNat ∧ character.toNat ≤ 122 then character.toNat - 32
    else character.toNat := by
  have hgap : ('A'.val - 'a'.val).toNat = 2 ^ 32 - 32 := rfl
  delta Char.toUpper
  simp only [UInt32.le_iff_toNat_le]
  split
  · next hsmall =>
      have hbounds : 97 ≤ character.toNat ∧ character.toNat ≤ 122 := hsmall
      rw [if_pos hbounds]
      change (character.val + ('A'.val - 'a'.val)).toNat = character.toNat - 32
      rw [UInt32.toNat_add, hgap]
      change (character.toNat + (2 ^ 32 - 32)) % 2 ^ 32 = character.toNat - 32
      omega
  · next hother => exact (if_neg hother).symm

theorem toLower_eq_iff {letter character : Char} (hsmall : 'a' ≤ letter ∧ letter ≤ 'z') :
    character.toLower = letter ↔ character = letter ∨ character = letter.toUpper := by
  have hbounds : 97 ≤ letter.toNat ∧ letter.toNat ≤ 122 := hsmall
  rw [← Char.toNat_inj, ← Char.toNat_inj, ← Char.toNat_inj, toNat_toLower, toNat_toUpper,
    if_pos hbounds]
  split <;> omega

theorem map_toLower_eq_singleton_iff {letter : Char} (hsmall : 'a' ≤ letter ∧ letter ≤ 'z')
    (text : List Char) :
    text.map Char.toLower = [letter] ↔ text = [letter] ∨ text = [letter.toUpper] := by
  rw [List.map_eq_singleton_iff]
  constructor
  · rintro ⟨character, rfl, hlower⟩
    rcases (toLower_eq_iff hsmall).mp hlower with rfl | rfl
    · exact Or.inl rfl
    · exact Or.inr rfl
  · rintro (rfl | rfl)
    · exact ⟨_, rfl, (toLower_eq_iff hsmall).mpr (Or.inl rfl)⟩
    · exact ⟨_, rfl, (toLower_eq_iff hsmall).mpr (Or.inr rfl)⟩

theorem mayBe_iff {letter : Char} (hsmall : 'a' ≤ letter ∧ letter ≤ 'z') (text : List Char) :
    MayBe letter text ↔ ∃ present : Bool,
      text.map Char.toLower = if present then [letter] else [] := by
  rw [Bool.exists_bool, if_neg Bool.false_ne_true, if_pos rfl, List.map_eq_nil_iff,
    map_toLower_eq_singleton_iff hsmall]
  rfl

theorem isScale_iff (scale : Option Scale) (text : List Char) :
    IsScale scale text ↔ text.map Char.toLower = (scale.map Scale.letter).toList := by
  cases scale with
  | none => exact List.map_eq_nil_iff.symm
  | some scale =>
      have hsmall : 'a' ≤ scale.letter ∧ scale.letter ≤ 'z' := by
        cases scale <;> decide
      exact (map_toLower_eq_singleton_iff hsmall text).symm

theorem isUnit_iff (scale : Option Scale) (unit : List Char) :
    IsUnit scale unit ↔ ∃ binary bytes, unit.map Char.toLower = smallUnit scale binary bytes := by
  constructor
  · rintro ⟨hletter, hbinary, hbytes⟩
    rw [isScale_iff] at hletter
    obtain ⟨binary, hbinary⟩ := (mayBe_iff (by decide) _).mp hbinary
    obtain ⟨bytes, hbytes⟩ := (mayBe_iff (by decide) _).mp hbytes
    refine ⟨binary, bytes, ?_⟩
    rw [List.map_append, List.map_append, hletter, hbinary, hbytes, smallUnit]
  · rintro ⟨binary, bytes, hunit⟩
    obtain ⟨front, last, rfl, hfront, hlast⟩ := List.map_eq_append_iff.mp hunit
    obtain ⟨first, middle, rfl, hfirst, hmiddle⟩ := List.map_eq_append_iff.mp hfront
    exact .letters ((isScale_iff _ _).mpr hfirst) ((mayBe_iff (by decide) _).mpr ⟨binary, hmiddle⟩)
      ((mayBe_iff (by decide) _).mpr ⟨bytes, hlast⟩)

theorem exists_eq_dropLetter (letter : Char) (text : List Char) :
    ∃ present : Bool, text = dropLetter letter text ++ if present then [letter] else [] := by
  rw [dropLetter]
  split
  · next hlast =>
      refine ⟨true, ?_⟩
      rw [if_pos rfl, List.dropLast_append_getLast? letter hlast]
  · exact ⟨false, (List.append_nil _).symm⟩

/-- The reader of units takes exactly the units. -/
theorem unitExponent?_eq_some_iff (unit : List Char) (exponent : Nat) :
    unitExponent? unit = some exponent ↔
      ∃ scale, IsUnit scale unit ∧ Scale.exponent scale = exponent := by
  simp only [isUnit_iff]
  constructor
  · intro hexponent
    obtain ⟨bytes, hbytes⟩ := exists_eq_dropLetter 'b' (unit.map Char.toLower)
    obtain ⟨binary, hbinary⟩ := exists_eq_dropLetter 'i' (dropLetter 'b' (unit.map Char.toLower))
    rw [hbinary] at hbytes
    have hunit : ∀ scale : Option Scale,
        dropLetter 'i' (dropLetter 'b' (unit.map Char.toLower)) =
          (scale.map Scale.letter).toList → some (Scale.exponent scale) = some exponent →
        ∃ scale, (∃ binary bytes, unit.map Char.toLower = smallUnit scale binary bytes) ∧
          Scale.exponent scale = exponent := by
      intro scale hletter hsome
      rw [hletter] at hbytes
      exact ⟨scale, ⟨binary, bytes, hbytes⟩, Option.some.inj hsome⟩
    rw [unitExponent?] at hexponent
    split at hexponent
    case h_1 hletter => exact hunit none hletter hexponent
    case h_2 hletter => exact hunit (some .kilo) hletter hexponent
    case h_3 hletter => exact hunit (some .mega) hletter hexponent
    case h_4 hletter => exact hunit (some .giga) hletter hexponent
    case h_5 hletter => exact hunit (some .tera) hletter hexponent
    case h_6 hletter => exact hunit (some .peta) hletter hexponent
    case h_7 => exact absurd hexponent (Option.some_ne_none _).symm
  · rintro ⟨scale, ⟨binary, bytes, hunit⟩, rfl⟩
    rw [unitExponent?, hunit]
    rcases scale with _ | scale
    · cases binary <;> cases bytes <;> rfl
    · cases scale <;> cases binary <;> cases bytes <;> rfl

/-- The letters of units, as small letters. -/
def smallLetters : List Char :=
  ['k', 'm', 'g', 't', 'p', 'i', 'b']

/-- All letters that units have. -/
def unitLetters : List Char :=
  smallLetters ++ smallLetters.map Char.toUpper

theorem IsUnit.mem_unitLetters {scale : Option Scale} {unit : List Char}
    (hunit : IsUnit scale unit) : ∀ character ∈ unit, character ∈ unitLetters := by
  have hmayBe : ∀ {letter : Char} {text : List Char}, letter ∈ unitLetters →
      letter.toUpper ∈ unitLetters → MayBe letter text →
      ∀ character ∈ text, character ∈ unitLetters := by
    rintro letter text hsmall hcapital (rfl | rfl | rfl)
    · exact List.forall_mem_nil _
    · exact List.forall_mem_singleton.mpr hsmall
    · exact List.forall_mem_singleton.mpr hcapital
  obtain ⟨hletter, hbinary, hbytes⟩ := hunit
  refine List.forall_mem_append.mpr ⟨List.forall_mem_append.mpr ⟨?_,
    hmayBe (by decide) (by decide) hbinary⟩, hmayBe (by decide) (by decide) hbytes⟩
  cases scale with
  | none =>
      cases hletter
      exact List.forall_mem_nil _
  | some scale =>
      have hsmall : scale.letter ∈ unitLetters := by
        cases scale <;> decide
      have hcapital : scale.letter.toUpper ∈ unitLetters := by
        cases scale <;> decide
      exact hmayBe hsmall hcapital (Or.inr hletter)

/-- No letter of a unit is a blank or may stand in a number. -/
theorem solid_of_mem_unitLetters :
    ∀ letter ∈ unitLetters, isBlank letter = false ∧ isNumberChar letter = false := by
  have hall : (unitLetters.all fun letter => !isBlank letter && !isNumberChar letter) = true := by
    decide
  intro letter hmem
  simpa using List.all_eq_true.mp hall letter hmem

/-! ## Sizes -/

/-- Blanks, a number, blanks, a unit, and blanks again. -/
inductive Spells (number : List Char) (scale : Option Scale) : List Char → Prop
  | parts {lead between unit trail : List Char} (hlead : IsBlankText lead)
      (hnumber : IsNumber number) (hbetween : IsBlankText between) (hunit : IsUnit scale unit)
      (htrail : IsBlankText trail) :
      Spells number scale (lead ++ number ++ between ++ unit ++ trail)

theorem isBlank_of_isNumberChar {character : Char} (hnumber : isNumberChar character = true) :
    isBlank character = false := by
  have hdigits : ∀ value < 58, 48 ≤ value → isBlank (Char.ofNat value) = false := by decide
  rw [isNumberChar, Bool.or_eq_true, decide_eq_true_eq] at hnumber
  rcases hnumber with hdigit | rfl
  · rw [isDigit, Bool.and_eq_true, decide_eq_true_eq, decide_eq_true_eq] at hdigit
    have hbounds : 48 ≤ character.toNat ∧ character.toNat ≤ 57 := hdigit
    have hblank := hdigits character.toNat (by omega) hbounds.1
    rwa [Char.ofNat_toNat] at hblank
  · decide

theorem isNumberChar_of_isBlank {character : Char} (hblank : isBlank character = true) :
    isNumberChar character = false := by
  rw [← Bool.not_eq_true]
  intro hnumber
  rw [isBlank_of_isNumberChar hnumber] at hblank
  exact Bool.false_ne_true hblank

/-- The number is what stands before the first character that no number has. -/
theorem span_number {number rest : List Char}
    (hnumber : ∀ character ∈ number, isNumberChar character = true)
    (hrest : ∀ character ∈ rest, isNumberChar character = false) :
    (number ++ rest).takeWhile isNumberChar = number ∧
      (number ++ rest).dropWhile isNumberChar = rest := by
  rw [List.takeWhile_append_of_pos hnumber, List.dropWhile_append_of_pos hnumber]
  cases rest with
  | nil => exact ⟨List.append_nil _, rfl⟩
  | cons first rest =>
      have hfirst : ¬ isNumberChar first = true := by
        rw [hrest first List.mem_cons_self]
        exact Bool.false_ne_true
      rw [List.takeWhile_cons_of_neg hfirst, List.dropWhile_cons_of_neg hfirst]
      exact ⟨List.append_nil _, rfl⟩

/-- What is left of a size without the blanks around it. -/
theorem Spells.exists_trimmed {number text : List Char} {scale : Option Scale}
    (hspells : Spells number scale text) :
    IsNumber number ∧ ∃ rest, trim text = number ++ rest ∧
      (∀ character ∈ rest, isNumberChar character = false) ∧ IsUnit scale (trim rest) := by
  obtain ⟨hlead, hnumber, hbetween, hunit, htrail⟩ := hspells
  rename_i lead between unit trail
  have hsolid : ∀ character ∈ number, isBlank character = false :=
    fun character hmem => isBlank_of_isNumberChar (hnumber.areNumberChars character hmem)
  have hunitSolid : ∀ character ∈ unit, isBlank character = false :=
    fun character hmem => (solid_of_mem_unitLetters _ (hunit.mem_unitLetters character hmem)).1
  refine ⟨hnumber, ?_⟩
  by_cases hnone : unit = []
  · -- The blanks behind the number are trimmed, too.
    rw [hnone] at hunit ⊢
    refine ⟨[], ?_, List.forall_mem_nil _, hunit⟩
    have hblanks := hbetween.append htrail
    have htrimmed := trim_of_isTrimmed hlead hblanks (isTrimmed_of_forall hsolid)
    rw [List.append_nil, List.append_nil, List.append_assoc, htrimmed]
  · refine ⟨between ++ unit, ?_, ?_, ?_⟩
    · have htrimmed := trim_of_isTrimmed hlead htrail
        (isTrimmed_of_ends between hnumber.ne_nil hnone hsolid hunitSolid)
      rw [← List.append_assoc, ← htrimmed]
      simp only [List.append_assoc]
    · refine List.forall_mem_append.mpr ⟨fun character hmem => ?_, fun character hmem => ?_⟩
      · exact isNumberChar_of_isBlank (hbetween character hmem)
      · exact (solid_of_mem_unitLetters _ (hunit.mem_unitLetters character hmem)).2
    · have htrimmed := trim_of_isTrimmed hbetween (List.forall_mem_nil _)
        (isTrimmed_of_forall hunitSolid)
      rw [List.append_nil] at htrimmed
      rw [htrimmed]
      exact hunit

/-- A size is read, and it is what its number and its scale make it. -/
theorem Spells.exists_parse? {number text : List Char} {scale : Option Scale}
    (hspells : Spells number scale text) :
    ∃ value, number? number = some value ∧
      parse? text = some ((value * Binary64.ofNat (powerOfTwo (Scale.exponent scale))).toNatSaturating
        limit) := by
  obtain ⟨hnumber, rest, htrim, hrest, hunit⟩ := hspells.exists_trimmed
  obtain ⟨value, hvalue⟩ := hnumber.exists_number?
  obtain ⟨htake, hdrop⟩ := span_number hnumber.areNumberChars hrest
  have hexponent := (unitExponent?_eq_some_iff (trim rest) _).mpr ⟨scale, hunit, rfl⟩
  refine ⟨value, hvalue, ?_⟩
  simp only [parse?, htrim, htake, hdrop, hvalue, hexponent, Option.bind_eq_bind, Option.bind_some,
    Option.pure_def]

/-- What is read is a size. -/
theorem exists_spells_of_parse? {text : List Char} {size : Nat} (hsize : parse? text = some size) :
    ∃ number scale, Spells number scale text := by
  simp only [parse?, Option.bind_eq_bind, Option.bind_eq_some_iff] at hsize
  obtain ⟨value, hvalue, exponent, hexponent, -⟩ := hsize
  obtain ⟨scale, hunit, -⟩ := (unitExponent?_eq_some_iff _ _).mp hexponent
  obtain ⟨lead, trail, htext, hlead, htrail⟩ := exists_trim text
  obtain ⟨between, behind, hrest, hbetween, hbehind⟩ :=
    exists_trim ((trim text).dropWhile isNumberChar)
  have hspells := Spells.parts hlead (isNumber_of_number? hvalue) hbetween hunit
    (hbehind.append htrail)
  have hwhole : text = lead ++ (trim text).takeWhile isNumberChar ++ between ++
      trim ((trim text).dropWhile isNumberChar) ++ (behind ++ trail) := by
    calc
      text = lead ++ ((trim text).takeWhile isNumberChar ++
          (trim text).dropWhile isNumberChar) ++ trail := by
        rw [List.takeWhile_append_dropWhile, ← htext]
      _ = lead ++ ((trim text).takeWhile isNumberChar ++
          (between ++ trim ((trim text).dropWhile isNumberChar) ++ behind)) ++ trail := by
        rw [← hrest]
      _ = _ := by simp only [List.append_assoc]
  rw [← hwhole] at hspells
  exact ⟨_, scale, hspells⟩

end LogRelay.ByteSize
