import LogRelay.Proofs.Text.Lines
import Mathlib.Data.List.Basic

/-!
# Text that is cut

A reader shows at least one character for every byte that is no continuation
byte, and for UTF-8 exactly one.  So where UTF-8 is cut between two characters,
the parts are read as they are in the whole; where it is cut within a character,
there is more to show for the parts than for the whole.
-/

namespace LogRelay.Utf8

/-- The byte cannot begin a character, only go on with one. -/
def isContinuation (byte : UInt8) : Bool :=
  128 ≤ byte.toNat && byte.toNat < 192

/-- How many bytes are no continuation bytes. -/
def beginnings (bytes : Bytes) : Nat :=
  bytes.countP fun byte => !isContinuation byte

/-- Inside a character nothing but continuation bytes is expected. -/
def Sound : Position → Prop
  | none => True
  | some unfinished => 128 ≤ unfinished.low.toNat ∧ unfinished.high.toNat < 192

/-- The characters that a reader still owes for what it has seen. -/
def owing (position : Position) : Nat :=
  if position.isSome then 1 else 0

/-- The byte begins a character or goes on with the one in hand. -/
def accepts (position : Position) (byte : UInt8) : Prop :=
  match position with
  | none => opening byte ≠ .stray
  | some unfinished => unfinished.low ≤ byte ∧ byte ≤ unfinished.high

variable {position : Position} {byte : UInt8}

/-! ## One byte -/

theorem opening_of_isContinuation (hbyte : isContinuation byte = true) :
    opening byte = .stray := by
  rw [isContinuation, Bool.and_eq_true, decide_eq_true_eq, decide_eq_true_eq] at hbyte
  unfold opening
  dsimp only
  rw [if_neg (by omega), if_pos (by omega)]

theorem sound_of_opens {unfinished : Unfinished} (hopens : opening byte = .opens unfinished) :
    Sound (some unfinished) := by
  unfold opening at hopens
  dsimp only at hopens
  repeat' split at hopens
  all_goals cases hopens
  all_goals exact ⟨by simp, by simp⟩

theorem advance_of_accepts {unfinished : Unfinished} (haccepts : accepts (some unfinished) byte) :
    advance (some unfinished) byte =
      if unfinished.owed ≤ 1 then
        ([Char.ofNat (unfinished.codePoint * 64 + byte.toNat % 64)], none)
      else
        ([], some ⟨unfinished.owed - 1, 0x80, 0xBF,
          unfinished.codePoint * 64 + byte.toNat % 64⟩) :=
  if_pos haccepts

theorem advance_of_not_accepts {unfinished : Unfinished}
    (haccepts : ¬ accepts (some unfinished) byte) :
    advance (some unfinished) byte = (replacement :: (begin byte).1, (begin byte).2) :=
  if_neg haccepts

theorem sound_begin (byte : UInt8) : Sound (begin byte).2 := by
  rw [begin]
  split
  · trivial
  · next unfinished hopens => exact sound_of_opens hopens
  · trivial

theorem sound_advance (position : Position) (byte : UInt8) : Sound (advance position byte).2 := by
  cases position with
  | none => exact sound_begin byte
  | some unfinished =>
      by_cases haccepts : accepts (some unfinished) byte
      · rw [advance_of_accepts haccepts]
        split
        · trivial
        · exact ⟨Nat.le_refl 128, Nat.lt_succ_self 191⟩
      · rw [advance_of_not_accepts haccepts]
        exact sound_begin byte

theorem length_begin (byte : UInt8) :
    (begin byte).1.length + owing (begin byte).2 = 1 := by
  rw [begin]
  split <;> rfl

/-- A byte that goes on with a character is a continuation byte. -/
theorem isContinuation_of_accepts {unfinished : Unfinished} (hsound : Sound (some unfinished))
    (haccepts : accepts (some unfinished) byte) : isContinuation byte = true := by
  obtain ⟨hlow, hhigh⟩ := haccepts
  rw [UInt8.le_iff_toNat_le] at hlow hhigh
  rw [isContinuation, Bool.and_eq_true, decide_eq_true_eq, decide_eq_true_eq]
  exact ⟨Nat.le_trans hsound.1 hlow, Nat.lt_of_le_of_lt hhigh hsound.2⟩

theorem length_advance_of_accepts (hsound : Sound position) (haccepts : accepts position byte) :
    (advance position byte).1.length + owing (advance position byte).2 =
      owing position + if isContinuation byte then 0 else 1 := by
  cases position with
  | none =>
      have hbyte : isContinuation byte = false := by
        apply Bool.eq_false_iff.mpr
        intro hbyte
        exact haccepts (opening_of_isContinuation hbyte)
      rw [advance, length_begin, hbyte]
      rfl
  | some unfinished =>
      have hbyte := isContinuation_of_accepts hsound haccepts
      rw [advance_of_accepts haccepts, hbyte]
      split <;> rfl

theorem le_length_advance (hsound : Sound position) (byte : UInt8) :
    (owing position + if isContinuation byte then 0 else 1) ≤
      (advance position byte).1.length + owing (advance position byte).2 := by
  cases position with
  | none =>
      rw [advance, length_begin]
      split <;> simp [owing]
  | some unfinished =>
      by_cases haccepts : accepts (some unfinished) byte
      · exact Nat.le_of_eq (length_advance_of_accepts hsound haccepts).symm
      · have hbegin := length_begin byte
        have howing : owing (some unfinished) = 1 := rfl
        rw [advance_of_not_accepts haccepts, howing]
        simp only [List.length_cons]
        split <;> omega

/-! ## Reading -/

theorem decodeFrom_eq_append (shown : List Char) (position : Position) (bytes : Bytes) :
    decodeFrom shown position bytes = shown.reverse ++ decodeFrom [] position bytes := by
  induction bytes generalizing shown position with
  | nil => cases position <;> simp [decodeFrom]
  | cons byte rest ih =>
      rw [decodeFrom, decodeFrom]
      dsimp only
      rw [ih, ih ((advance position byte).1.reverse ++ [])]
      simp

theorem decodeFrom_cons (position : Position) (byte : UInt8) (rest : Bytes) :
    decodeFrom [] position (byte :: rest) =
      (advance position byte).1 ++ decodeFrom [] (advance position byte).2 rest := by
  rw [decodeFrom]
  dsimp only
  rw [decodeFrom_eq_append]
  simp

theorem length_decodeFrom_nil (position : Position) :
    (decodeFrom [] position []).length = owing position := by
  cases position <;> rfl

theorem beginnings_cons (byte : UInt8) (rest : Bytes) :
    beginnings (byte :: rest) = (if isContinuation byte then 0 else 1) + beginnings rest := by
  rw [beginnings, List.countP_cons, beginnings]
  cases isContinuation byte <;> simp [Nat.add_comm]

theorem beginnings_append (left right : Bytes) :
    beginnings (left ++ right) = beginnings left + beginnings right :=
  List.countP_append

theorem le_length_decodeFrom (hsound : Sound position) (bytes : Bytes) :
    owing position + beginnings bytes ≤ (decodeFrom [] position bytes).length := by
  induction bytes generalizing position with
  | nil => exact Nat.le_of_eq (length_decodeFrom_nil position).symm
  | cons byte rest ih =>
      have hbyte := le_length_advance hsound byte
      have hrest := ih (sound_advance position byte)
      rw [decodeFrom_cons, List.length_append, beginnings_cons]
      omega

theorem le_length_decodeLossyChars (bytes : Bytes) :
    beginnings bytes ≤ (decodeLossyChars bytes).length := by
  have hlength := @le_length_decodeFrom none trivial bytes
  rwa [owing, Option.isSome_none, if_neg Bool.false_ne_true, Nat.zero_add] at hlength

/-- Bytes that begin inside a character show a replacement for its rest. -/
theorem lt_length_decodeLossyChars {rest : Bytes} (hbyte : isContinuation byte = true) :
    beginnings (byte :: rest) < (decodeLossyChars (byte :: rest)).length := by
  have hrest := le_length_decodeLossyChars rest
  rw [decodeLossyChars, decodeFrom_cons, advance, begin, opening_of_isContinuation hbyte,
    beginnings_cons, hbyte, if_pos rfl, Nat.zero_add]
  exact Nat.lt_succ_of_le hrest

/-! ## UTF-8 -/

theorem validFrom_cons_iff (position : Position) (byte : UInt8) (rest : Bytes) :
    validFrom position (byte :: rest) = true ↔
      accepts position byte ∧ validFrom (advance position byte).2 rest = true := by
  cases position with
  | none =>
      rw [validFrom, accepts, advance, begin]
      cases opening byte <;> simp
  | some unfinished =>
      rw [validFrom, accepts]
      rw [Bool.if_false_right, Bool.and_eq_true, decide_eq_true_eq]

theorem length_decodeFrom_of_validFrom {bytes : Bytes} (hsound : Sound position)
    (hvalid : validFrom position bytes = true) :
    (decodeFrom [] position bytes).length = owing position + beginnings bytes := by
  induction bytes generalizing position with
  | nil => exact length_decodeFrom_nil position
  | cons byte rest ih =>
      obtain ⟨haccepts, hrest⟩ := (validFrom_cons_iff position byte rest).mp hvalid
      have hbyte := length_advance_of_accepts hsound haccepts
      rw [decodeFrom_cons, List.length_append, ih (sound_advance position byte) hrest,
        beginnings_cons]
      omega

theorem length_decodeLossyChars {bytes : Bytes} (hvalid : isValid bytes = true) :
    (decodeLossyChars bytes).length = beginnings bytes := by
  have hlength := @length_decodeFrom_of_validFrom none bytes trivial hvalid
  rwa [owing, Option.isSome_none, if_neg Bool.false_ne_true, Nat.zero_add] at hlength

/-- The bytes are empty or begin with a character. -/
def BeginsCharacter (bytes : Bytes) : Prop :=
  ∀ byte ∈ bytes.head?, isContinuation byte = false

theorem validFrom_append {left right : Bytes} (hsound : Sound position)
    (hright : BeginsCharacter right) (hvalid : validFrom position (left ++ right) = true) :
    validFrom position left = true ∧ isValid right = true := by
  induction left generalizing position with
  | nil =>
      cases position with
      | none => exact ⟨rfl, hvalid⟩
      | some unfinished =>
          cases right with
          | nil => exact absurd hvalid Bool.false_ne_true
          | cons byte rest =>
              obtain ⟨haccepts, -⟩ := (validFrom_cons_iff _ _ _).mp hvalid
              have hbyte := isContinuation_of_accepts hsound haccepts
              exact absurd ((hright byte rfl).symm.trans hbyte) Bool.false_ne_true
  | cons byte left ih =>
      obtain ⟨haccepts, hrest⟩ := (validFrom_cons_iff _ _ _).mp hvalid
      obtain ⟨hleft, hvalidRight⟩ := ih (sound_advance position byte) hrest
      exact ⟨(validFrom_cons_iff _ _ _).mpr ⟨haccepts, hleft⟩, hvalidRight⟩

theorem isValid_append {left right : Bytes} (hright : BeginsCharacter right)
    (hvalid : isValid (left ++ right) = true) : isValid left = true ∧ isValid right = true :=
  validFrom_append trivial hright hvalid

theorem decodeFrom_append {left : Bytes} (right : Bytes)
    (hvalid : validFrom position left = true) :
    decodeFrom [] position (left ++ right) =
      decodeFrom [] position left ++ decodeLossyChars right := by
  induction left generalizing position with
  | nil =>
      cases position with
      | none => rfl
      | some unfinished => exact absurd hvalid Bool.false_ne_true
  | cons byte left ih =>
      obtain ⟨-, hrest⟩ := (validFrom_cons_iff _ _ _).mp hvalid
      rw [List.cons_append, decodeFrom_cons, decodeFrom_cons, ih hrest, List.append_assoc]

/-- Behind whole characters a reader goes on as if it began anew. -/
theorem decodeLossyChars_append {left : Bytes} (right : Bytes) (hvalid : isValid left = true) :
    decodeLossyChars (left ++ right) = decodeLossyChars left ++ decodeLossyChars right :=
  decodeFrom_append right hvalid

/-! ## Lines -/

theorem beginsCharacter_newline (rest : Bytes) : BeginsCharacter (newline :: rest) := by
  intro byte hbyte
  rw [← Option.some.inj hbyte]
  rfl

theorem isValid_newline_cons (rest : Bytes) : isValid (newline :: rest) = isValid rest := rfl

/-- The lines of UTF-8 are UTF-8, and so is what follows them. -/
theorem isValid_lines {content : Bytes} (hvalid : isValid content = true) :
    (∀ line ∈ Lines.complete content, isValid line = true) ∧
      isValid (Lines.unfinished content) = true := by
  induction content using Lines.lineInduction with
  | rest bytes hbytes =>
      rw [Lines.complete_eq_nil hbytes, Lines.unfinished_eq_self hbytes]
      exact ⟨fun line hline => absurd hline List.not_mem_nil, hvalid⟩
  | line line rest hline ih =>
      obtain ⟨hvalidLine, hnewline⟩ := isValid_append (beginsCharacter_newline rest) hvalid
      rw [isValid_newline_cons] at hnewline
      obtain ⟨hlines, hunfinished⟩ := ih hnewline
      rw [Lines.complete_append_newline hline, Lines.unfinished_append_newline]
      refine ⟨fun other hother => ?_, hunfinished⟩
      rcases List.mem_cons.mp hother with rfl | hother
      · exact hvalidLine
      · exact hlines other hother

theorem isValid_of_mem_nonEmpty {content line : Bytes} (hvalid : isValid content = true)
    (hline : line ∈ Lines.nonEmpty content) : isValid line = true := by
  obtain ⟨hlines, hunfinished⟩ := isValid_lines hvalid
  rcases List.mem_append.mp (List.mem_filter.mp hline).1 with hcomplete | hrest
  · exact hlines line hcomplete
  · rw [List.mem_singleton.mp hrest]
    exact hunfinished

end LogRelay.Utf8
