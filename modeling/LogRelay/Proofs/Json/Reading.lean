import LogRelay.Json.Reader
import LogRelay.Json.Writer
import Mathlib.Data.List.Basic

/-!
# JSON that is written and read

A value is read as it was written, and the reader stops right behind it, whatever
stands there.  Only what follows a number matters: it must not go on with digits, a
point or an exponent.  The fuel of the reader is never short, for each step that
spends some is paid by a character of the text.
-/

namespace LogRelay.JsonReader

open Text

/-! ## Strings -/

/-- The part stands for the character. -/
def StringPart.Denotes (part : StringPart) (character : Char) : Prop :=
  part = .character character ∨ part = .codeUnit character.toNat ∧ character.toNat < 0x20

theorem hexValue?_hexDigit : ∀ value < 16, hexValue? (hexDigit value) = some value := by
  decide

theorem codeUnit?_hexDigits {value : Nat} (hvalue : value < 0x10000) :
    ∃ first second third fourth, hexDigits 4 value = [first, second, third, fourth] ∧
      codeUnit? first second third fourth = some value := by
  refine ⟨_, _, _, _, rfl, ?_⟩
  simp only [codeUnit?, hexValue?_hexDigit _ (Nat.mod_lt _ (by decide)), Option.pure_def,
    Option.bind_eq_bind, Option.bind_some, Option.some.injEq]
  omega

theorem stringParts?_character {character : Char} (rest : List Char) (hquote : character ≠ '"')
    (hslash : character ≠ '\\') (hcontrol : ¬ character.toNat < 0x20) :
    stringParts? (character :: rest) = do
      let (parts, rest) ← stringParts? rest
      return (.character character :: parts, rest) := by
  rw [stringParts?]
  · rw [if_neg (not_or.mpr ⟨hslash, hcontrol⟩)]
  · exact hquote
  · exact fun _ _ _ _ _ heq _ => hslash heq
  · exact fun _ _ heq _ => hslash heq

/-- The writer and the reader agree on every character. -/
theorem exists_part (character : Char) (rest : List Char) :
    ∃ part : StringPart, part.Denotes character ∧
      stringParts? (JsonWriter.escape character ++ rest) = do
        let (parts, rest) ← stringParts? rest
        return (part :: parts, rest) := by
  unfold JsonWriter.escape
  split
  case h_8 hquote hslash _ _ _ _ _ =>
    by_cases hcontrol : character.toNat < 0x20
    · obtain ⟨first, second, third, fourth, hdigits, hvalue⟩ :=
        codeUnit?_hexDigits (show character.toNat < 0x10000 by omega)
      refine ⟨.codeUnit character.toNat, Or.inr ⟨rfl, hcontrol⟩, ?_⟩
      rw [if_pos hcontrol, hdigits]
      simp [stringParts?, hvalue]
    · refine ⟨.character character, Or.inl rfl, ?_⟩
      rw [if_neg hcontrol]
      exact stringParts?_character rest hquote hslash hcontrol
  all_goals exact ⟨.character _, Or.inl rfl, by simp [stringParts?, escaped?]⟩

theorem assemble?_cons {part : StringPart} {character : Char} (hpart : part.Denotes character)
    (parts : List StringPart) :
    assemble? (part :: parts) = (assemble? parts).map (character :: ·) := by
  rcases hpart with rfl | ⟨rfl, hcontrol⟩
  · rfl
  · have hlead : isLead character.toNat = false := by
      simp only [isLead, Bool.and_eq_false_iff, decide_eq_false_iff_not]
      omega
    have htrail : isTrail character.toNat = false := by
      simp only [isTrail, Bool.and_eq_false_iff, decide_eq_false_iff_not]
      omega
    have hcharacter : Char.ofNat character.toNat = character := Char.ofNat_toNat _
    rcases parts with _ | ⟨next | next, parts⟩ <;>
      simp [assemble?, hlead, htrail, hcharacter]

theorem exists_parts (text rest : List Char) :
    ∃ parts, stringParts? (text.flatMap JsonWriter.escape ++ '"' :: rest) = some (parts, rest) ∧
      assemble? parts = some text := by
  induction text with
  | nil => exact ⟨[], by simp [stringParts?], rfl⟩
  | cons character text ih =>
      obtain ⟨parts, hparts, htext⟩ := ih
      obtain ⟨part, hpart, heq⟩ :=
        exists_part character (text.flatMap JsonWriter.escape ++ '"' :: rest)
      refine ⟨part :: parts, ?_, ?_⟩
      · rw [List.flatMap_cons, List.append_assoc, heq, hparts]
        rfl
      · rw [assemble?_cons hpart, htext]
        rfl

/-- A string is read as it was written, also the one that has no text. -/
theorem exists_string? (content : JsonString) (rest : List Char) :
    ∃ behind, JsonWriter.string content ++ rest = '"' :: behind ∧
      string? behind = some (content, rest) := by
  cases content with
  | none =>
      have hhalf : JsonWriter.string none = ['"', '\\', 'u', 'd', '8', '0', '0', '"'] := by
        decide +kernel
      refine ⟨'\\' :: 'u' :: 'd' :: '8' :: '0' :: '0' :: '"' :: rest, ?_, ?_⟩
      · rw [hhalf]
        rfl
      · have hvalue : codeUnit? 'd' '8' '0' '0' = some 0xD800 := by decide
        have hnone : assemble? [.codeUnit 0xD800] = none := by decide
        simp [string?, stringParts?, hvalue, hnone]
  | some content =>
      obtain ⟨parts, hparts, htext⟩ := exists_parts content.toList rest
      have hcontent : JsonWriter.string (some content) = JsonWriter.text content := rfl
      refine ⟨content.toList.flatMap JsonWriter.escape ++ '"' :: rest, ?_, ?_⟩
      · rw [hcontent, JsonWriter.text]
        simp
      · simp [string?, hparts, htext]

/-! ## Numbers -/

/-- Digits, and at least one. -/
def IsDigits (digits : List Char) : Prop :=
  digits ≠ [] ∧ ∀ digit ∈ digits, isDigit digit = true

/-- What is behind a number cannot be taken for more of it. -/
def EndsNumber (rest : List Char) : Prop :=
  ∀ character ∈ rest.head?,
    isDigit character = false ∧ character ≠ '.' ∧ character ≠ 'e' ∧ character ≠ 'E'

theorem isDigits_toDigits (value : Nat) : IsDigits (Nat.toDigits 10 value) := by
  refine ⟨Nat.toDigits_ne_nil, fun digit hdigit => ?_⟩
  have hdecimal := Nat.isDigit_of_mem_toDigits (by decide) (by decide) hdigit
  simpa [isDigit, Char.isDigit, UInt32.le_iff_toNat_le, Char.le_def] using hdecimal

theorem digitsValue_toDigits (value : Nat) : digitsValue (Nat.toDigits 10 value) = value := by
  rw [digitsValue_eq, Nat.ofDigitChars_ten_toDigits]

theorem digits?_append {digits rest : List Char} (hdigits : IsDigits digits)
    (hrest : ∀ character ∈ rest.head?, isDigit character = false) :
    digits? (digits ++ rest) = some (digits, rest) := by
  obtain ⟨hne, hall⟩ := hdigits
  have hnone : rest.takeWhile isDigit = [] ∧ rest.dropWhile isDigit = rest := by
    cases rest with
    | nil => exact ⟨rfl, rfl⟩
    | cons character rest =>
        have hcharacter := hrest character rfl
        simp [hcharacter]
  have htake : (digits ++ rest).takeWhile isDigit = digits := by
    rw [List.takeWhile_append_of_pos hall, hnone.1, List.append_nil]
  rw [digits?, htake, List.dropWhile_append_of_pos hall, hnone.2]
  cases digits with
  | nil => exact absurd rfl hne
  | cons digit digits => rfl

/-- The digits of a number are ones that JSON allows. -/
structure IsLegal (number : JsonNumber) : Prop where
  whole : IsDigits number.whole
  leading : number.whole.head? = some '0' → number.whole = ['0']
  fraction : ∀ digits ∈ number.fraction, IsDigits digits

/-- Only zero is written with a zero in front. -/
theorem toDigits_of_leading_zero (value : Nat) :
    (Nat.toDigits 10 value).head? = some '0' → Nat.toDigits 10 value = ['0'] := by
  induction value using Nat.strongRecOn with
  | ind value ih =>
      intro hzero
      rcases Nat.lt_or_ge value 10 with hsmall | hlarge
      · rw [Nat.toDigits_of_lt_base hsmall] at hzero ⊢
        exact congrArg (fun digit => [digit]) (Option.some.inj hzero)
      · rw [Nat.toDigits_of_base_le (by decide) hlarge,
          List.head?_append_of_ne_nil _ Nat.toDigits_ne_nil] at hzero
        have hquotient := congrArg digitsValue (ih (value / 10) (by omega) hzero)
        rw [digitsValue_toDigits] at hquotient
        exact absurd hquotient (by change value / 10 ≠ 0; omega)

theorem isLegal_ofNat (value : Nat) : IsLegal (JsonNumber.ofNat value) where
  whole := isDigits_toDigits value
  leading := toDigits_of_leading_zero value
  fraction _ hdigits := by cases hdigits

theorem IsDigits.exists_head {digits : List Char} (hdigits : IsDigits digits) :
    ∃ digit rest, digits = digit :: rest ∧ isDigit digit = true := by
  obtain ⟨hne, hall⟩ := hdigits
  cases digits with
  | nil => exact absurd rfl hne
  | cons digit rest => exact ⟨digit, rest, rfl, hall digit List.mem_cons_self⟩

theorem ne_of_test {test : Char → Bool} {character other : Char}
    (hcharacter : test character = true) (hother : test other = false) : character ≠ other := by
  rintro rfl
  exact absurd hcharacter (Bool.eq_false_iff.mp hother)

theorem whole?_append {digits rest : List Char} (hdigits : IsDigits digits)
    (hleading : digits.head? = some '0' → digits = ['0'])
    (hrest : ∀ character ∈ rest.head?, isDigit character = false) :
    whole? (digits ++ rest) = some (digits, rest) := by
  rw [whole?, digits?_append hdigits hrest]
  dsimp only [Option.bind_eq_bind, Option.bind_some]
  split
  · exact absurd (hleading rfl) (by simp)
  · rfl

def fractionText : Option (List Char) → List Char
  | some digits => '.' :: digits
  | none => []

def exponentText : Option Int → List Char
  | some exponent => 'e' :: JsonWriter.integer exponent
  | none => []

theorem fraction?_append (fraction : Option (List Char)) {rest : List Char}
    (hfraction : ∀ digits ∈ fraction, IsDigits digits)
    (hrest : ∀ character ∈ rest.head?, isDigit character = false ∧ character ≠ '.') :
    fraction? (fractionText fraction ++ rest) = some (fraction, rest) := by
  cases fraction with
  | none =>
      rw [fractionText, List.nil_append, fraction?.eq_def]
      split
      · exact absurd rfl (hrest '.' rfl).2
      · rfl
  | some digits =>
      have hread := digits?_append (hfraction digits rfl) fun character hcharacter =>
        (hrest character hcharacter).1
      rw [fractionText, List.cons_append, fraction?, hread]
      rfl

theorem exponent?_append (exponent : Option Int) {rest : List Char}
    (hrest : ∀ character ∈ rest.head?,
      isDigit character = false ∧ character ≠ 'e' ∧ character ≠ 'E') :
    exponent? (exponentText exponent ++ rest) = some (exponent, rest) := by
  cases exponent with
  | none =>
      cases rest with
      | nil => rfl
      | cons character rest =>
          obtain ⟨-, hsmall, hlarge⟩ := hrest character rfl
          exact if_neg (not_or.mpr ⟨hsmall, hlarge⟩)
  | some exponent =>
      generalize hsize : exponent.natAbs = size
      have hread := digits?_append (isDigits_toDigits size) fun character hcharacter =>
        (hrest character hcharacter).1
      rw [exponentText, JsonWriter.integer, hsize]
      split
      · next hnegative =>
          have hvalue : -(size : Int) = exponent := by omega
          simp [exponent?, hread, digitsValue_toDigits, hvalue]
      · next hnonneg =>
          have hvalue : (size : Int) = exponent := by omega
          obtain ⟨digit, digits, heq, hdigit⟩ := (isDigits_toDigits size).exists_head
          have hminus : digit ≠ '-' := ne_of_test hdigit (by decide)
          have hplus : digit ≠ '+' := ne_of_test hdigit (by decide)
          have hdenoted := digitsValue_toDigits size
          rw [heq] at hdenoted
          rw [heq, List.cons_append] at hread
          rw [heq]
          simp [exponent?, hread, hdenoted, hvalue, hminus, hplus]

theorem number_eq (number : JsonNumber) :
    JsonWriter.number number = (if number.negative then ['-'] else []) ++
      (number.whole ++ (fractionText number.fraction ++ exponentText number.exponent)) := by
  have hparts : JsonWriter.number number = (if number.negative then ['-'] else []) ++
    number.whole ++ fractionText number.fraction ++ exponentText number.exponent := rfl
  rw [hparts, List.append_assoc, List.append_assoc]

theorem head?_exponentText (exponent : Option Int) {rest : List Char} (hrest : EndsNumber rest) :
    ∀ character ∈ (exponentText exponent ++ rest).head?,
      isDigit character = false ∧ character ≠ '.' := by
  cases exponent with
  | none => exact fun character hcharacter =>
      ⟨(hrest character hcharacter).1, (hrest character hcharacter).2.1⟩
  | some exponent =>
      rintro _ ⟨⟩
      decide

theorem head?_fractionText (fraction : Option (List Char)) {rest : List Char}
    (hrest : ∀ character ∈ rest.head?, isDigit character = false) :
    ∀ character ∈ (fractionText fraction ++ rest).head?, isDigit character = false := by
  cases fraction with
  | none => exact hrest
  | some digits =>
      rintro _ ⟨⟩
      decide

theorem magnitude?_append {number : JsonNumber} {rest : List Char} (hlegal : IsLegal number)
    (hrest : EndsNumber rest) :
    magnitude? number.negative
        (number.whole ++ (fractionText number.fraction ++ exponentText number.exponent) ++ rest) =
      some (number, rest) := by
  have hexponent := head?_exponentText number.exponent hrest
  have hfraction := head?_fractionText number.fraction fun character hcharacter =>
    (hexponent character hcharacter).1
  rw [magnitude?, List.append_assoc, List.append_assoc,
    whole?_append hlegal.whole hlegal.leading hfraction]
  simp only [Option.bind_eq_bind, Option.bind_some]
  rw [fraction?_append _ hlegal.fraction hexponent]
  simp only [Option.bind_some]
  rw [exponent?_append _ fun character hcharacter =>
    ⟨(hrest character hcharacter).1, (hrest character hcharacter).2.2⟩]
  rfl

/-- A number is read as it was written. -/
theorem number?_append {number : JsonNumber} {rest : List Char} (hlegal : IsLegal number)
    (hrest : EndsNumber rest) : number? (JsonWriter.number number ++ rest) = some (number, rest) := by
  have hread := magnitude?_append hlegal hrest
  rw [number_eq]
  cases hnegative : number.negative with
  | true =>
      rw [hnegative] at hread
      exact hread
  | false =>
      obtain ⟨digit, digits, heq, hdigit⟩ := hlegal.whole.exists_head
      rw [hnegative, heq] at hread
      rw [heq]
      have hminus : digit ≠ '-' := ne_of_test hdigit (by decide)
      rw [if_neg Bool.false_ne_true, List.nil_append, List.cons_append, List.cons_append, number?]
      · exact hread
      · intro _ h
        cases h
        exact hminus rfl

/-! ## Values -/

/-- All numbers of the value are legal. -/
inductive IsPlain : JsonValue → Prop where
  | null : IsPlain .null
  | truth (value : Bool) : IsPlain (.truth value)
  | number {number : JsonNumber} (hlegal : IsLegal number) : IsPlain (.number number)
  | string (text : JsonString) : IsPlain (.string text)
  | array {items : List JsonValue} (hitems : ∀ item ∈ items, IsPlain item) :
      IsPlain (.array items)
  | object {entries : List (JsonString × JsonValue)}
      (hentries : ∀ entry ∈ entries, IsPlain entry.2) : IsPlain (.object entries)

variable {value : JsonValue} {items : List JsonValue} {entries : List (JsonString × JsonValue)}
  {fuel : Nat} {rest : List Char}

/-- Given enough fuel the value is read as it was written, and the reader stops behind it. -/
def ReadsBack (value : JsonValue) : Prop :=
  ∀ fuel rest, (JsonWriter.value value).length < fuel → EndsNumber rest →
    value? fuel (JsonWriter.value value ++ rest) = some (value, rest)

theorem skipBlanks_cons {character : Char} (hblank : isBlank character = false)
    (rest : List Char) : skipBlanks (character :: rest) = character :: rest :=
  List.dropWhile_cons_of_neg (by rw [hblank]; exact Bool.false_ne_true)

/-- A number begins with its sign or with a digit. -/
def opensNumber (character : Char) : Bool :=
  character = '-' || isDigit character

theorem isBlank_of_opensNumber {character : Char} (hopens : opensNumber character = true) :
    isBlank character = false := by
  simp only [isBlank, Bool.or_eq_false_iff, decide_eq_false_iff_not]
  exact ⟨⟨⟨ne_of_test hopens (by decide), ne_of_test hopens (by decide)⟩,
    ne_of_test hopens (by decide)⟩, ne_of_test hopens (by decide)⟩

theorem IsLegal.exists_head {number : JsonNumber} (hlegal : IsLegal number) :
    ∃ character rest, JsonWriter.number number = character :: rest ∧
      opensNumber character = true := by
  rw [number_eq]
  cases number.negative with
  | true => exact ⟨'-', _, rfl, by decide⟩
  | false =>
      obtain ⟨digit, digits, heq, hdigit⟩ := hlegal.whole.exists_head
      rw [heq]
      exact ⟨digit, _, rfl, by rw [opensNumber, hdigit, Bool.or_true]⟩

/-- A value begins where it is written, and not with the end of an array. -/
theorem IsPlain.exists_head (hplain : IsPlain value) :
    ∃ character rest, JsonWriter.value value = character :: rest ∧
      isBlank character = false ∧ character ≠ ']' := by
  cases hplain with
  | null => exact ⟨'n', ['u', 'l', 'l'], by decide +kernel, by decide, by decide⟩
  | truth value =>
      cases value with
      | false => exact ⟨'f', ['a', 'l', 's', 'e'], by decide +kernel, by decide, by decide⟩
      | true => exact ⟨'t', ['r', 'u', 'e'], by decide +kernel, by decide, by decide⟩
  | @number number hlegal =>
      obtain ⟨character, behind, heq, hopens⟩ := hlegal.exists_head
      rw [JsonWriter.value, heq]
      exact ⟨character, behind, rfl, isBlank_of_opensNumber hopens,
        ne_of_test hopens (by decide)⟩
  | string text =>
      obtain ⟨behind, heq, -⟩ := exists_string? text []
      rw [List.append_nil] at heq
      exact ⟨'"', behind, by rw [JsonWriter.value, heq], by decide, by decide⟩
  | array => exact ⟨'[', _, by rw [JsonWriter.value]; rfl, by decide, by decide⟩
  | object => exact ⟨'\x7b', _, by rw [JsonWriter.value]; rfl, by decide, by decide⟩

theorem readsBack_null : ReadsBack .null := by
  rintro (_ | fuel) rest hfuel -
  · exact absurd hfuel (Nat.not_lt_zero _)
  · have htext : JsonWriter.value .null = ['n', 'u', 'l', 'l'] := by decide +kernel
    rw [htext]
    rfl

theorem readsBack_truth (truth : Bool) : ReadsBack (.truth truth) := by
  rintro (_ | fuel) rest hfuel -
  · exact absurd hfuel (Nat.not_lt_zero _)
  · cases truth with
    | false =>
        have htext : JsonWriter.value (.truth false) = ['f', 'a', 'l', 's', 'e'] := by
          decide +kernel
        rw [htext]
        rfl
    | true =>
        have htext : JsonWriter.value (.truth true) = ['t', 'r', 'u', 'e'] := by decide +kernel
        rw [htext]
        rfl

theorem readsBack_string (text : JsonString) : ReadsBack (.string text) := by
  rintro (_ | fuel) rest hfuel -
  · exact absurd hfuel (Nat.not_lt_zero _)
  · obtain ⟨behind, heq, hread⟩ := exists_string? text rest
    rw [JsonWriter.value, heq, value?, skipBlanks_cons (by decide)]
    simp [hread]

theorem value?_of_opensNumber {character : Char} (hopens : opensNumber character = true) :
    value? (fuel + 1) (character :: rest) =
      (number? (character :: rest)).map fun (number, rest) => (.number number, rest) := by
  rw [value?, skipBlanks_cons (isBlank_of_opensNumber hopens)]
  split
  case h_7 => rfl
  all_goals
    next heq =>
      cases heq
      exact absurd hopens (by decide)

theorem readsBack_number {number : JsonNumber} (hlegal : IsLegal number) :
    ReadsBack (.number number) := by
  rintro (_ | fuel) rest hfuel hrest
  · exact absurd hfuel (Nat.not_lt_zero _)
  · have hread := number?_append hlegal hrest
    obtain ⟨character, behind, heq, hopens⟩ := hlegal.exists_head
    rw [JsonWriter.value, heq, List.cons_append, value?_of_opensNumber hopens,
      ← List.cons_append, ← heq, hread]
    rfl

theorem endsNumber_nil : EndsNumber [] := by
  rintro _ ⟨⟩

theorem endsNumber_cons {character : Char} (hcharacter : isDigit character = false ∧
    character ≠ '.' ∧ character ≠ 'e' ∧ character ≠ 'E') : EndsNumber (character :: rest) := by
  rintro _ ⟨⟩
  exact hcharacter

theorem items?_listed (hne : items ≠ []) (hitems : ∀ item ∈ items, ReadsBack item)
    (hfuel : (JsonWriter.listed items).length + 1 < fuel) :
    items? fuel (JsonWriter.listed items ++ ']' :: rest) = some (items, rest) := by
  induction items generalizing fuel with
  | nil => exact absurd rfl hne
  | cons item others ih =>
      obtain _ | fuel := fuel
      · exact absurd hfuel (Nat.not_lt_zero _)
      · cases others with
        | nil =>
            rw [JsonWriter.listed] at hfuel ⊢
            have hread := hitems item List.mem_cons_self fuel (']' :: rest) (by omega)
              (endsNumber_cons (by decide))
            simp [items?, hread, skipBlanks_cons (show isBlank ']' = false by decide)]
        | cons next others =>
            have hlisted : JsonWriter.listed (item :: next :: others) =
                JsonWriter.value item ++ ',' :: JsonWriter.listed (next :: others) := by
              rw [JsonWriter.listed]
              simp
            rw [hlisted] at hfuel ⊢
            rw [List.length_append, List.length_cons] at hfuel
            have hread := hitems item List.mem_cons_self fuel
              (',' :: (JsonWriter.listed (next :: others) ++ ']' :: rest)) (by omega)
              (endsNumber_cons (by decide))
            have hothers : items? fuel (JsonWriter.listed (next :: others) ++ ']' :: rest) =
                some (next :: others, rest) :=
              ih (List.cons_ne_nil _ _)
                (fun other hother => hitems other (List.mem_cons_of_mem _ hother)) (by omega)
            simp [items?, hread, hothers, skipBlanks_cons (show isBlank ',' = false by decide)]

/-- A member is read, and what follows it tells whether there are more. -/
theorem members?_member {key : JsonString} {character : Char} {behind : List Char}
    (hread : value? fuel (JsonWriter.value value ++ character :: behind) =
      some (value, character :: behind)) (hblank : isBlank character = false) :
    (character = '\x7d' →
      members? (fuel + 1) (JsonWriter.member (key, value) ++ character :: behind) =
        some ([(key, value)], behind)) ∧
    (character = ',' → ∀ others rest, members? fuel behind = some (others, rest) →
      members? (fuel + 1) (JsonWriter.member (key, value) ++ character :: behind) =
        some ((key, value) :: others, rest)) := by
  obtain ⟨text, heq, hkey⟩ :=
    exists_string? key (':' :: JsonWriter.value value ++ character :: behind)
  rw [JsonWriter.member, List.append_assoc, heq, members?,
    skipBlanks_cons (show isBlank '"' = false by decide)]
  simp only [hkey, Option.bind_eq_bind, Option.bind_some, List.cons_append,
    skipBlanks_cons (show isBlank ':' = false by decide), hread, skipBlanks_cons hblank]
  constructor
  · rintro rfl
    rfl
  · rintro rfl others rest hothers
    simp [hothers]

theorem members?_members (hne : entries ≠ [])
    (hentries : ∀ entry ∈ entries, ReadsBack entry.2)
    (hfuel : (JsonWriter.members entries).length + 1 < fuel) :
    members? fuel (JsonWriter.members entries ++ '\x7d' :: rest) = some (entries, rest) := by
  induction entries generalizing fuel with
  | nil => exact absurd rfl hne
  | cons entry others ih =>
      obtain ⟨key, value⟩ := entry
      obtain _ | fuel := fuel
      · exact absurd hfuel (Nat.not_lt_zero _)
      · have hmember : (JsonWriter.member (key, value)).length =
            (JsonWriter.string key).length + (JsonWriter.value value).length + 1 := by
          rw [JsonWriter.member, List.length_append, List.length_cons, Nat.add_assoc]
        cases others with
        | nil =>
            rw [JsonWriter.members] at hfuel ⊢
            have hread := hentries (key, value) List.mem_cons_self fuel ('\x7d' :: rest)
              (by change (JsonWriter.value value).length < fuel; omega)
              (endsNumber_cons (by decide))
            exact (members?_member hread (by decide)).1 rfl
        | cons next others =>
            have hmembers : JsonWriter.members ((key, value) :: next :: others) =
                JsonWriter.member (key, value) ++ ',' :: JsonWriter.members (next :: others) := by
              rw [JsonWriter.members]
              simp
            rw [hmembers] at hfuel ⊢
            rw [List.length_append, List.length_cons] at hfuel
            have hread := hentries (key, value) List.mem_cons_self fuel
              (',' :: (JsonWriter.members (next :: others) ++ '\x7d' :: rest))
              (by change (JsonWriter.value value).length < fuel; omega)
              (endsNumber_cons (by decide))
            have hothers : members? fuel (JsonWriter.members (next :: others) ++ '\x7d' :: rest) =
                some (next :: others, rest) :=
              ih (List.cons_ne_nil _ _)
                (fun other hother => hentries other (List.mem_cons_of_mem _ hother)) (by omega)
            rw [List.append_assoc, List.cons_append]
            exact (members?_member hread (by decide)).2 rfl _ _ hothers

theorem exists_head_listed {item : JsonValue} (hplain : IsPlain item) (others : List JsonValue) :
    ∃ character rest, JsonWriter.listed (item :: others) = character :: rest ∧
      isBlank character = false ∧ character ≠ ']' := by
  obtain ⟨character, behind, heq, hcharacter⟩ := hplain.exists_head
  cases others with
  | nil => exact ⟨character, behind, by rw [JsonWriter.listed, heq], hcharacter⟩
  | cons next others =>
      refine ⟨character, behind ++ ',' :: JsonWriter.listed (next :: others), ?_, hcharacter⟩
      rw [JsonWriter.listed, heq]
      · rfl
      · simp

theorem exists_head_members (entry : JsonString × JsonValue)
    (others : List (JsonString × JsonValue)) :
    ∃ rest, JsonWriter.members (entry :: others) = '"' :: rest := by
  obtain ⟨key, value⟩ := entry
  obtain ⟨behind, heq, -⟩ := exists_string? key (':' :: JsonWriter.value value)
  cases others with
  | nil => exact ⟨behind, by rw [JsonWriter.members, JsonWriter.member, heq]⟩
  | cons next others =>
      refine ⟨behind ++ ',' :: JsonWriter.members (next :: others), ?_⟩
      rw [JsonWriter.members, JsonWriter.member, heq]
      · rfl
      · simp

theorem readsBack_array (hplain : ∀ item ∈ items, IsPlain item)
    (hitems : ∀ item ∈ items, ReadsBack item) : ReadsBack (.array items) := by
  rintro (_ | fuel) rest hfuel -
  · exact absurd hfuel (Nat.not_lt_zero _)
  · have hvalue : JsonWriter.value (.array items) ++ rest =
        '[' :: (JsonWriter.listed items ++ ']' :: rest) := by
      rw [JsonWriter.value]
      simp
    have hlength : (JsonWriter.value (.array items)).length =
        (JsonWriter.listed items).length + 2 := by
      rw [JsonWriter.value]
      simp
    rw [hvalue, value?, skipBlanks_cons (by decide)]
    cases items with
    | nil => rfl
    | cons item others =>
        have hread : items? fuel (JsonWriter.listed (item :: others) ++ ']' :: rest) =
            some (item :: others, rest) :=
          items?_listed (List.cons_ne_nil _ _) hitems (by omega)
        obtain ⟨character, behind, heq, hblank, hclosing⟩ :=
          exists_head_listed (hplain item List.mem_cons_self) others
        rw [heq, List.cons_append] at hread ⊢
        simp only [skipBlanks_cons hblank]
        split
        · next hclose =>
            cases hclose
            exact absurd rfl hclosing
        · rw [hread]
          rfl

theorem readsBack_object (hentries : ∀ entry ∈ entries, ReadsBack entry.2) :
    ReadsBack (.object entries) := by
  rintro (_ | fuel) rest hfuel -
  · exact absurd hfuel (Nat.not_lt_zero _)
  · have hvalue : JsonWriter.value (.object entries) ++ rest =
        '\x7b' :: (JsonWriter.members entries ++ '\x7d' :: rest) := by
      rw [JsonWriter.value]
      simp
    have hlength : (JsonWriter.value (.object entries)).length =
        (JsonWriter.members entries).length + 2 := by
      rw [JsonWriter.value]
      simp
    rw [hvalue, value?, skipBlanks_cons (by decide)]
    cases entries with
    | nil => rfl
    | cons entry others =>
        have hread : members? fuel (JsonWriter.members (entry :: others) ++ '\x7d' :: rest) =
            some (entry :: others, rest) :=
          members?_members (List.cons_ne_nil _ _) hentries (by omega)
        obtain ⟨behind, heq⟩ := exists_head_members entry others
        rw [heq, List.cons_append] at hread ⊢
        simp only [skipBlanks_cons (show isBlank '"' = false by decide)]
        split
        · next hclose => cases hclose
        · rw [hread]
          rfl

/-- Every plain value is read as it was written. -/
theorem IsPlain.readsBack (hplain : IsPlain value) : ReadsBack value := by
  induction hplain with
  | null => exact readsBack_null
  | truth truth => exact readsBack_truth truth
  | number hlegal => exact readsBack_number hlegal
  | string text => exact readsBack_string text
  | array hplain hitems => exact readsBack_array hplain hitems
  | object _ hentries => exact readsBack_object hentries

/-- The whole text of a plain value is read as that value. -/
theorem parseChars?_value (hplain : IsPlain value) :
    parseChars? (JsonWriter.value value) = some value := by
  have hread := hplain.readsBack (2 * (JsonWriter.value value).length + 2) [] (by omega)
    endsNumber_nil
  rw [List.append_nil] at hread
  rw [parseChars?, hread]
  rfl

end LogRelay.JsonReader
