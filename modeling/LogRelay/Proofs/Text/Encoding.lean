import LogRelay.Proofs.Text.Utf8

/-!
# Text as bytes and back

A reader that is given the bytes of a character comes to that character, and bytes
that lead it to a character are the bytes of it.  So text that is written as bytes is
UTF-8 and is read as it was, and bytes that are UTF-8 are written as they were read.
-/

namespace LogRelay.Utf8

variable {position : Position} {byte : UInt8} {character : Char} {bytes rest : Bytes}

/-- The reader accepts the bytes one after the other, and the last of them completes
the character. -/
inductive Completes (character : Char) : Position → Bytes → Prop where
  | last {position : Position} {byte : UInt8} (haccepts : accepts position byte)
      (hadvance : advance position byte = ([character], none)) :
      Completes character position [byte]
  | more {position next : Position} {byte : UInt8} {rest : Bytes}
      (haccepts : accepts position byte) (hadvance : advance position byte = ([], next))
      (hrest : Completes character next rest) : Completes character position (byte :: rest)

theorem Completes.decodeFrom_append (hbytes : Completes character position bytes)
    (rest : Bytes) :
    decodeFrom [] position (bytes ++ rest) = character :: decodeLossyChars rest := by
  induction hbytes with
  | last haccepts hadvance =>
      rw [List.singleton_append, decodeFrom_cons, hadvance]
      rfl
  | more haccepts hadvance hrest ih =>
      rw [List.cons_append, decodeFrom_cons, hadvance, List.nil_append]
      exact ih

theorem Completes.validFrom_append_iff (hbytes : Completes character position bytes)
    (rest : Bytes) : validFrom position (bytes ++ rest) = true ↔ isValid rest = true := by
  induction hbytes with
  | last haccepts hadvance =>
      rw [List.singleton_append, validFrom_cons_iff, hadvance]
      exact and_iff_right haccepts
  | more haccepts hadvance hrest ih =>
      rw [List.cons_append, validFrom_cons_iff, hadvance]
      exact (and_iff_right haccepts).trans ih

/-- A byte that is accepted completes a character or leads into one. -/
theorem advance_cases (haccepts : accepts position byte) :
    (∃ character, advance position byte = ([character], none)) ∨
      ∃ unfinished, advance position byte = ([], some unfinished) := by
  cases position with
  | none =>
      rw [advance, begin]
      cases hopening : opening byte with
      | whole character => exact Or.inl ⟨character, rfl⟩
      | opens unfinished => exact Or.inr ⟨unfinished, rfl⟩
      | stray => exact absurd hopening haccepts
  | some unfinished =>
      rw [advance_of_accepts haccepts]
      split
      · exact Or.inl ⟨_, rfl⟩
      · exact Or.inr ⟨_, rfl⟩

/-- Bytes that are UTF-8 begin with those of a character. -/
theorem exists_completes (hvalid : validFrom position (byte :: bytes) = true) :
    ∃ character front rest, byte :: bytes = front ++ rest ∧
      Completes character position front ∧ isValid rest = true := by
  induction bytes generalizing position byte with
  | nil =>
      obtain ⟨haccepts, hrest⟩ := (validFrom_cons_iff _ _ _).mp hvalid
      rcases advance_cases haccepts with ⟨character, hadvance⟩ | ⟨unfinished, hadvance⟩
      · exact ⟨character, [byte], [], rfl, .last haccepts hadvance, rfl⟩
      · rw [hadvance] at hrest
        exact absurd hrest Bool.false_ne_true
  | cons next bytes ih =>
      obtain ⟨haccepts, hrest⟩ := (validFrom_cons_iff _ _ _).mp hvalid
      rcases advance_cases haccepts with ⟨character, hadvance⟩ | ⟨unfinished, hadvance⟩
      · rw [hadvance] at hrest
        exact ⟨character, [byte], next :: bytes, rfl, .last haccepts hadvance, hrest⟩
      · obtain ⟨character, front, rest, heq, hfront, hrest⟩ := ih hrest
        rw [hadvance] at hfront
        exact ⟨character, byte :: front, rest, by rw [heq, List.cons_append],
          .more haccepts hadvance hfront, hrest⟩

/-! ## Inside a character -/

theorem completes_one_iff {low high : UInt8} {codePoint : Nat} :
    Completes character (some ⟨1, low, high, codePoint⟩) bytes ↔
      ∃ byte, bytes = [byte] ∧ low ≤ byte ∧ byte ≤ high ∧
        character = Char.ofNat (codePoint * 64 + byte.toNat % 64) := by
  constructor
  · intro hbytes
    cases hbytes with
    | @last _ byte haccepts hadvance =>
        rw [advance_of_accepts haccepts, if_pos (Nat.le_refl 1)] at hadvance
        cases hadvance
        exact ⟨byte, rfl, haccepts.1, haccepts.2, rfl⟩
    | more haccepts hadvance hrest =>
        rw [advance_of_accepts haccepts, if_pos (Nat.le_refl 1)] at hadvance
        cases hadvance
  · rintro ⟨byte, rfl, hlow, hhigh, rfl⟩
    exact .last ⟨hlow, hhigh⟩ ((advance_of_accepts ⟨hlow, hhigh⟩).trans (if_pos (Nat.le_refl 1)))

theorem completes_succ_iff {owed codePoint : Nat} {low high : UInt8} :
    Completes character (some ⟨owed + 2, low, high, codePoint⟩) bytes ↔
      ∃ byte rest, bytes = byte :: rest ∧ low ≤ byte ∧ byte ≤ high ∧
        Completes character
          (some ⟨owed + 1, 0x80, 0xBF, codePoint * 64 + byte.toNat % 64⟩) rest := by
  have howed : ¬ owed + 2 ≤ 1 := by omega
  constructor
  · intro hbytes
    cases hbytes with
    | last haccepts hadvance =>
        rw [advance_of_accepts haccepts, if_neg howed] at hadvance
        cases hadvance
    | @more _ _ byte rest haccepts hadvance hrest =>
        rw [advance_of_accepts haccepts, if_neg howed] at hadvance
        cases hadvance
        exact ⟨byte, rest, rfl, haccepts.1, haccepts.2, hrest⟩
  · rintro ⟨byte, rest, rfl, hlow, hhigh, hrest⟩
    exact .more ⟨hlow, hhigh⟩ ((advance_of_accepts ⟨hlow, hhigh⟩).trans (if_neg howed)) hrest

/-- From the start of a character on, a byte is the whole of it or opens it. -/
theorem completes_none_iff :
    Completes character none bytes ↔
      (∃ byte, bytes = [byte] ∧ opening byte = .whole character) ∨
        ∃ byte rest unfinished, bytes = byte :: rest ∧ opening byte = .opens unfinished ∧
          Completes character (some unfinished) rest := by
  constructor
  · intro hbytes
    cases hbytes with
    | @last _ byte haccepts hadvance =>
        rw [advance, begin] at hadvance
        cases hopening : opening byte with
        | whole other =>
            rw [hopening] at hadvance
            cases hadvance
            exact Or.inl ⟨byte, rfl, hopening⟩
        | opens unfinished =>
            rw [hopening] at hadvance
            cases hadvance
        | stray => exact absurd hopening haccepts
    | @more _ _ byte rest haccepts hadvance hrest =>
        rw [advance, begin] at hadvance
        cases hopening : opening byte with
        | whole other =>
            rw [hopening] at hadvance
            cases hadvance
        | opens unfinished =>
            rw [hopening] at hadvance
            cases hadvance
            exact Or.inr ⟨byte, rest, unfinished, rfl, hopening, hrest⟩
        | stray => exact absurd hopening haccepts
  · rintro (⟨byte, rfl, hopening⟩ | ⟨byte, rest, unfinished, rfl, hopening, hrest⟩)
    · refine .last (by rw [accepts, hopening]; exact Opening.noConfusion) ?_
      rw [advance, begin, hopening]
    · refine .more (by rw [accepts, hopening]; exact Opening.noConfusion) ?_ hrest
      rw [advance, begin, hopening]

/-! ## The bytes of a code point -/

theorem opening_eq_whole_iff :
    opening byte = .whole character ↔
      byte.toNat < 0x80 ∧ character = Char.ofNat byte.toNat := by
  unfold opening
  grind

/-- The bytes that open a character of two, three or four bytes. -/
theorem opening_eq_opens_iff {unfinished : Unfinished} :
    opening byte = .opens unfinished ↔
      ((0xC2 ≤ byte.toNat ∧ byte.toNat < 0xE0) ∧
        unfinished = ⟨1, 0x80, 0xBF, byte.toNat - 0xC0⟩) ∨
      ((0xE0 ≤ byte.toNat ∧ byte.toNat < 0xF0) ∧
        unfinished = ⟨2, if byte.toNat = 0xE0 then 0xA0 else 0x80,
          if byte.toNat = 0xED then 0x9F else 0xBF, byte.toNat - 0xE0⟩) ∨
      ((0xF0 ≤ byte.toNat ∧ byte.toNat ≤ 0xF4) ∧
        unfinished = ⟨3, if byte.toNat = 0xF0 then 0x90 else 0x80,
          if byte.toNat = 0xF4 then 0x8F else 0xBF, byte.toNat - 0xF0⟩) := by
  unfold opening
  grind

/-- A continuation byte, and one of a narrower range at the ends of the code points. -/
def Continues (atLow atHigh : Prop) (low high : Nat) (byte : UInt8) : Prop :=
  (0x80 ≤ byte.toNat ∧ byte.toNat ≤ 0xBF) ∧ (atLow → low ≤ byte.toNat) ∧
    (atHigh → byte.toNat ≤ high)

theorem continues_iff {atLow atHigh : Prop} [Decidable atLow] [Decidable atHigh]
    (low high : UInt8) (hlow : 0x80 ≤ low.toNat) (hhigh : high.toNat ≤ 0xBF) :
    (if atLow then low else 0x80) ≤ byte ∧ byte ≤ (if atHigh then high else 0xBF) ↔
      Continues atLow atHigh low.toNat high.toNat byte := by
  rw [Continues, UInt8.le_iff_toNat_le, UInt8.le_iff_toNat_le]
  by_cases hatLow : atLow <;> by_cases hatHigh : atHigh <;> simp [hatLow, hatHigh] <;> omega

theorem val_ofNat {codePoint : Nat} (hvalid : codePoint.isValidChar) :
    (Char.ofNat codePoint).val.toNat = codePoint := by
  rw [Char.ofNat, dif_pos hvalid]
  rfl

theorem utf8EncodeChar_one {first : UInt8} (hfirst : first.toNat < 0x80) :
    String.utf8EncodeChar (Char.ofNat first.toNat) = [first] := by
  rw [String.utf8EncodeChar, val_ofNat (Or.inl (by omega)), if_pos (by omega), UInt8.ofNat_toNat]

theorem utf8EncodeChar_two {first second : UInt8}
    (hfirst : 0xC2 ≤ first.toNat ∧ first.toNat < 0xE0)
    (hsecond : 0x80 ≤ second.toNat ∧ second.toNat ≤ 0xBF) :
    String.utf8EncodeChar (Char.ofNat ((first.toNat - 0xC0) * 64 + second.toNat % 64)) =
      [first, second] := by
  rw [String.utf8EncodeChar, val_ofNat (Or.inl (by omega)), if_neg (by omega), if_pos (by omega)]
  simp only [List.cons.injEq, ← UInt8.toNat_inj, UInt8.toNat_ofNat', and_true]
  omega

theorem utf8EncodeChar_three {first second third : UInt8}
    (hfirst : 0xE0 ≤ first.toNat ∧ first.toNat < 0xF0)
    (hsecond : Continues (first.toNat = 0xE0) (first.toNat = 0xED) 0xA0 0x9F second)
    (hthird : 0x80 ≤ third.toNat ∧ third.toNat ≤ 0xBF) :
    String.utf8EncodeChar
        (Char.ofNat (((first.toNat - 0xE0) * 64 + second.toNat % 64) * 64 + third.toNat % 64)) =
      [first, second, third] := by
  rw [Continues] at hsecond
  have hvalid :
      (((first.toNat - 0xE0) * 64 + second.toNat % 64) * 64 + third.toNat % 64).isValidChar := by
    rw [Nat.isValidChar]
    omega
  rw [String.utf8EncodeChar, val_ofNat hvalid, if_neg (by omega), if_neg (by omega),
    if_pos (by omega)]
  simp only [List.cons.injEq, ← UInt8.toNat_inj, UInt8.toNat_ofNat', and_true]
  omega

theorem utf8EncodeChar_four {first second third fourth : UInt8}
    (hfirst : 0xF0 ≤ first.toNat ∧ first.toNat ≤ 0xF4)
    (hsecond : Continues (first.toNat = 0xF0) (first.toNat = 0xF4) 0x90 0x8F second)
    (hthird : 0x80 ≤ third.toNat ∧ third.toNat ≤ 0xBF)
    (hfourth : 0x80 ≤ fourth.toNat ∧ fourth.toNat ≤ 0xBF) :
    String.utf8EncodeChar
        (Char.ofNat ((((first.toNat - 0xF0) * 64 + second.toNat % 64) * 64 +
          third.toNat % 64) * 64 + fourth.toNat % 64)) =
      [first, second, third, fourth] := by
  rw [Continues] at hsecond
  rw [String.utf8EncodeChar, val_ofNat (Or.inr (by omega)), if_neg (by omega), if_neg (by omega),
    if_neg (by omega)]
  simp only [List.cons.injEq, ← UInt8.toNat_inj, UInt8.toNat_ofNat', and_true]
  omega

/-- Bytes that lead to a character are those of the character. -/
theorem Completes.eq_utf8EncodeChar (hbytes : Completes character none bytes) :
    bytes = String.utf8EncodeChar character := by
  rcases completes_none_iff.mp hbytes with
    ⟨first, rfl, hopening⟩ | ⟨first, rest, unfinished, rfl, hopening, hrest⟩
  · obtain ⟨hfirst, rfl⟩ := opening_eq_whole_iff.mp hopening
    exact (utf8EncodeChar_one hfirst).symm
  · rcases opening_eq_opens_iff.mp hopening with
      ⟨hfirst, rfl⟩ | ⟨hfirst, rfl⟩ | ⟨hfirst, rfl⟩
    · obtain ⟨second, rfl, hsecond, hsecond', rfl⟩ := completes_one_iff.mp hrest
      exact (utf8EncodeChar_two hfirst ⟨hsecond, hsecond'⟩).symm
    · obtain ⟨second, rest, rfl, hsecond, hsecond', hrest⟩ := completes_succ_iff.mp hrest
      obtain ⟨third, rfl, hthird, hthird', rfl⟩ := completes_one_iff.mp hrest
      have hrange := (continues_iff 0xA0 0x9F (by decide) (by decide)).mp ⟨hsecond, hsecond'⟩
      exact (utf8EncodeChar_three hfirst hrange ⟨hthird, hthird'⟩).symm
    · obtain ⟨second, rest, rfl, hsecond, hsecond', hrest⟩ := completes_succ_iff.mp hrest
      obtain ⟨third, rest, rfl, hthird, hthird', hrest⟩ := completes_succ_iff.mp hrest
      obtain ⟨fourth, rfl, hfourth, hfourth', rfl⟩ := completes_one_iff.mp hrest
      have hrange := (continues_iff 0x90 0x8F (by decide) (by decide)).mp ⟨hsecond, hsecond'⟩
      exact (utf8EncodeChar_four hfirst hrange ⟨hthird, hthird'⟩ ⟨hfourth, hfourth'⟩).symm

theorem toNat_ofNat {code : Nat} (hcode : code < 256) : (UInt8.ofNat code).toNat = code := by
  rw [UInt8.toNat_ofNat', Nat.mod_eq_of_lt hcode]

theorem toNat_continuation (bits : Nat) :
    (UInt8.ofNat (bits % 64 + 128)).toNat = bits % 64 + 128 :=
  toNat_ofNat (by omega)

/-- Six bits of a code point make a continuation byte. -/
theorem continuation_mem (bits : Nat) :
    0x80 ≤ UInt8.ofNat (bits % 64 + 128) ∧ UInt8.ofNat (bits % 64 + 128) ≤ 0xBF := by
  rw [UInt8.le_iff_toNat_le, UInt8.le_iff_toNat_le, toNat_continuation]
  exact ⟨Nat.le_add_left .., (by omega : bits % 64 + 128 ≤ 191)⟩

theorem completes_two {first second : UInt8} {codePoint : Nat}
    (hfirst : 0xC2 ≤ first.toNat ∧ first.toNat < 0xE0) (hsecond : 0x80 ≤ second ∧ second ≤ 0xBF)
    (hcodePoint : codePoint = (first.toNat - 0xC0) * 64 + second.toNat % 64) :
    Completes (Char.ofNat codePoint) none [first, second] :=
  completes_none_iff.mpr (Or.inr ⟨first, _, _, rfl, opening_eq_opens_iff.mpr (Or.inl ⟨hfirst, rfl⟩),
    completes_one_iff.mpr ⟨second, rfl, hsecond.1, hsecond.2, congrArg _ hcodePoint⟩⟩)

theorem completes_three {first second third : UInt8} {codePoint : Nat}
    (hfirst : 0xE0 ≤ first.toNat ∧ first.toNat < 0xF0)
    (hsecond : Continues (first.toNat = 0xE0) (first.toNat = 0xED) 0xA0 0x9F second)
    (hthird : 0x80 ≤ third ∧ third ≤ 0xBF)
    (hcodePoint : codePoint =
      ((first.toNat - 0xE0) * 64 + second.toNat % 64) * 64 + third.toNat % 64) :
    Completes (Char.ofNat codePoint) none [first, second, third] := by
  obtain ⟨hlow, hhigh⟩ := (continues_iff 0xA0 0x9F (by decide) (by decide)).mpr hsecond
  refine completes_none_iff.mpr (Or.inr ⟨first, _, _, rfl,
    opening_eq_opens_iff.mpr (Or.inr (Or.inl ⟨hfirst, rfl⟩)), ?_⟩)
  refine completes_succ_iff.mpr ⟨second, _, rfl, hlow, hhigh, ?_⟩
  exact completes_one_iff.mpr ⟨third, rfl, hthird.1, hthird.2, congrArg _ hcodePoint⟩

theorem completes_four {first second third fourth : UInt8} {codePoint : Nat}
    (hfirst : 0xF0 ≤ first.toNat ∧ first.toNat ≤ 0xF4)
    (hsecond : Continues (first.toNat = 0xF0) (first.toNat = 0xF4) 0x90 0x8F second)
    (hthird : 0x80 ≤ third ∧ third ≤ 0xBF) (hfourth : 0x80 ≤ fourth ∧ fourth ≤ 0xBF)
    (hcodePoint : codePoint = (((first.toNat - 0xF0) * 64 + second.toNat % 64) * 64 +
      third.toNat % 64) * 64 + fourth.toNat % 64) :
    Completes (Char.ofNat codePoint) none [first, second, third, fourth] := by
  obtain ⟨hlow, hhigh⟩ := (continues_iff 0x90 0x8F (by decide) (by decide)).mpr hsecond
  refine completes_none_iff.mpr (Or.inr ⟨first, _, _, rfl,
    opening_eq_opens_iff.mpr (Or.inr (Or.inr ⟨hfirst, rfl⟩)), ?_⟩)
  refine completes_succ_iff.mpr ⟨second, _, rfl, hlow, hhigh, ?_⟩
  refine completes_succ_iff.mpr ⟨third, _, rfl, hthird.1, hthird.2, ?_⟩
  exact completes_one_iff.mpr ⟨fourth, rfl, hfourth.1, hfourth.2, congrArg _ hcodePoint⟩

/-- The bytes of a character lead to it. -/
theorem completes_utf8EncodeChar (character : Char) :
    Completes character none (String.utf8EncodeChar character) := by
  have hvalid : character.val.toNat.isValidChar := character.valid
  have hcharacter : character = Char.ofNat character.val.toNat := (Char.ofNat_toNat _).symm
  rw [String.utf8EncodeChar]
  generalize character.val.toNat = codePoint at hvalid hcharacter
  subst hcharacter
  rw [Nat.isValidChar] at hvalid
  split
  · refine completes_none_iff.mpr (Or.inl ⟨_, rfl, opening_eq_whole_iff.mpr ?_⟩)
    rw [toNat_ofNat (by omega)]
    exact ⟨by omega, rfl⟩
  · split
    · have hfirst := toNat_ofNat (show codePoint / 64 % 32 + 192 < 256 by omega)
      refine completes_two ?_ (continuation_mem _) ?_
      all_goals simp only [hfirst, toNat_continuation]
      all_goals omega
    · split
      · have hfirst := toNat_ofNat (show codePoint / 4096 % 16 + 224 < 256 by omega)
        refine completes_three ?_ ?_ (continuation_mem _) ?_
        all_goals simp only [Continues, hfirst, toNat_continuation]
        all_goals omega
      · have hfirst := toNat_ofNat (show codePoint / 262144 % 8 + 240 < 256 by omega)
        refine completes_four ?_ ?_ (continuation_mem _) (continuation_mem _) ?_
        all_goals simp only [Continues, hfirst, toNat_continuation]
        all_goals omega

/-! ## Text -/

theorem utf8EncodeChar_ne_nil (character : Char) : String.utf8EncodeChar character ≠ [] := by
  intro hnil
  have hcompletes := completes_utf8EncodeChar character
  rw [hnil] at hcompletes
  cases hcompletes

/-- What is written as bytes is UTF-8. -/
theorem isValid_encodeChars (text : List Char) : isValid (encodeChars text) = true := by
  induction text with
  | nil => rfl
  | cons character rest ih =>
      rw [encodeChars, List.flatMap_cons]
      exact ((completes_utf8EncodeChar character).validFrom_append_iff _).mpr ih

/-- What is written as bytes is read as it was. -/
theorem decodeLossyChars_encodeChars (text : List Char) :
    decodeLossyChars (encodeChars text) = text := by
  induction text with
  | nil => rfl
  | cons character rest ih =>
      rw [encodeChars, List.flatMap_cons, decodeLossyChars,
        (completes_utf8EncodeChar character).decodeFrom_append]
      exact congrArg _ ih

theorem decode?_encode (text : String) : decode? (encode text) = some text := by
  rw [decode?, encode, if_pos (isValid_encodeChars _), decodeLossy, decodeLossyChars_encodeChars,
    String.ofList_toList]

/-- Bytes that are UTF-8 are written as they were read. -/
theorem encodeChars_decodeLossyChars (bytes : Bytes) (hvalid : isValid bytes = true) :
    encodeChars (decodeLossyChars bytes) = bytes := by
  induction hlength : bytes.length using Nat.strong_induction_on generalizing bytes with
  | _ length ih =>
      cases bytes with
      | nil => rfl
      | cons byte bytes =>
          obtain ⟨character, front, rest, heq, hfront, hrest⟩ := exists_completes hvalid
          obtain rfl := hfront.eq_utf8EncodeChar
          have hpos := List.length_pos_of_ne_nil (utf8EncodeChar_ne_nil character)
          rw [heq, List.length_append] at hlength
          have hih := ih rest.length (by omega) rest hrest rfl
          rw [heq, decodeLossyChars, hfront.decodeFrom_append, encodeChars, List.flatMap_cons]
          exact congrArg _ hih

theorem encode_decodeLossy {bytes : Bytes} (hvalid : isValid bytes = true) :
    encode (decodeLossy bytes) = bytes := by
  rw [encode, decodeLossy, String.toList_ofList, encodeChars_decodeLossyChars bytes hvalid]

end LogRelay.Utf8
