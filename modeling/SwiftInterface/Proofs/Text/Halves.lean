import Mathlib.Data.List.Basic
import Mathlib.Data.List.TakeWhile
import SwiftInterface.Text.Halves

/-!
# Texts with halves as code points

A text in which private characters stand for halves is as good as the sequence
of its code points: the code points tell all texts apart, and every sequence
that leaves the block of the private characters alone is that of some text.
Such a text can be written just if it holds no half, and then as it is.
-/

namespace SwiftInterface

namespace Text

namespace Halves

variable (halves : Halves)

/-! ## One character -/

/-- A code point that is that of a half. -/
def IsHalfCode (code : Nat) : Prop :=
  firstHalf ≤ code ∧ code < firstHalf + halfCount

/-- A code point in the block of the characters that stand for halves. -/
def Occupies (code : Nat) : Prop :=
  halves.first ≤ code ∧ code < halves.first + halfCount

theorem isHalf_iff {char : Char} :
    halves.isHalf char = true ↔ halves.Occupies char.toNat := by
  simp [isHalf, Occupies]

theorem toNat_standIn {code : Nat} (isHalf : IsHalfCode code) :
    (halves.standIn code).toNat = halves.first + (code - firstHalf) := by
  obtain ⟨fromFirst, toLast⟩ := isHalf
  obtain ⟨isPrivate, inside⟩ := halves.isPrivate
  have valid : (halves.first + (code - firstHalf)).isValidChar := by
    refine .inr ⟨by omega, ?_⟩
    have last : halves.first + (code - firstHalf) < halves.first + halfCount := by
      omega
    exact Nat.lt_of_lt_of_le last inside
  rw [standIn, Char.ofNat, dif_pos valid]
  rfl

/-- The character in the place of a half has the code point of the half. -/
theorem codeOf_standIn {code : Nat} (isHalf : IsHalfCode code) :
    halves.codeOf (halves.standIn code) = code := by
  have numbered := halves.toNat_standIn isHalf
  obtain ⟨fromFirst, toLast⟩ := isHalf
  have occupies : halves.isHalf (halves.standIn code) = true := by
    rw [isHalf_iff, Occupies, numbered]
    omega
  rw [codeOf, if_pos occupies, numbered]
  omega

/-- No character has the code point of a half for its own. -/
theorem not_isHalfCode (char : Char) : ¬ IsHalfCode char.toNat := by
  rintro ⟨fromFirst, toLast⟩
  simp only [firstHalf, halfCount] at fromFirst toLast
  rcases char.valid with below | ⟨above, -⟩
  · exact absurd fromFirst (Nat.not_le_of_lt below)
  · exact absurd toLast (Nat.not_lt_of_le above)

theorem isHalfCode_codeOf_iff {char : Char} :
    IsHalfCode (halves.codeOf char) ↔ halves.isHalf char = true := by
  rw [codeOf]
  split
  case isTrue isHalf =>
      obtain ⟨fromFirst, toLast⟩ := halves.isHalf_iff.mp isHalf
      refine iff_of_true ?_ isHalf
      rw [IsHalfCode]
      omega
  case isFalse noHalf => exact iff_of_false (not_isHalfCode char) noHalf

theorem codeOf_injective : Function.Injective halves.codeOf := by
  intro first second same
  have alike : halves.isHalf first = halves.isHalf second := by
    rw [Bool.eq_iff_iff, ← isHalfCode_codeOf_iff, ← isHalfCode_codeOf_iff, same]
  rw [codeOf, codeOf, alike] at same
  split at same
  case isTrue isHalf =>
      obtain ⟨firstAbove, -⟩ := halves.isHalf_iff.mp (alike.trans isHalf)
      obtain ⟨secondAbove, -⟩ := halves.isHalf_iff.mp isHalf
      exact Char.toNat_inj.mp (by omega)
  case isFalse => exact Char.toNat_inj.mp same

/-- Every code point outside the block is that of a character or of a half. -/
theorem exists_codeOf {code : Nat} (small : code < 0x110000)
    (free : ¬ halves.Occupies code) : ∃ char, halves.codeOf char = code := by
  by_cases isHalf : IsHalfCode code
  · exact ⟨halves.standIn code, halves.codeOf_standIn isHalf⟩
  · have valid : code.isValidChar := by
      simp only [IsHalfCode, firstHalf, halfCount] at isHalf
      rw [Nat.isValidChar]
      omega
    refine ⟨Char.ofNat code, ?_⟩
    have numbered : (Char.ofNat code).toNat = code := by
      rw [Char.ofNat, dif_pos valid]
      rfl
    have noHalf : ¬ halves.isHalf (Char.ofNat code) = true := by
      rwa [isHalf_iff, numbered]
    rw [codeOf, if_neg noHalf, numbered]

/-! ## Texts -/

/-- The code points tell all texts apart. -/
theorem codesOf_injective : Function.Injective halves.codesOf := by
  intro first second same
  exact String.toList_inj.mp
    (List.map_injective_iff.mpr halves.codeOf_injective same)

/-- Every sequence of code points outside the block is that of a text. -/
theorem exists_codesOf {codes : List Nat}
    (free : ∀ code ∈ codes, code < 0x110000 ∧ ¬ halves.Occupies code) :
    ∃ text, halves.codesOf text = codes := by
  have spelled : ∃ chars : List Char, chars.map halves.codeOf = codes := by
    induction codes with
    | nil => exact ⟨[], rfl⟩
    | cons code codes ih =>
        obtain ⟨small, unoccupied⟩ := free code List.mem_cons_self
        obtain ⟨char, rfl⟩ := halves.exists_codeOf small unoccupied
        obtain ⟨chars, rfl⟩ := ih fun other member =>
          free other (List.mem_cons_of_mem _ member)
        exact ⟨char :: chars, rfl⟩
  obtain ⟨chars, rfl⟩ := spelled
  exact ⟨String.ofList chars, by rw [codesOf, String.toList_ofList]⟩

theorem drop_length_takeWhile (test : Char → Bool) (chars : List Char) :
    chars.drop (chars.takeWhile test).length = chars.dropWhile test := by
  calc chars.drop (chars.takeWhile test).length
      = (chars.takeWhile test ++ chars.dropWhile test).drop
          (chars.takeWhile test).length := by
        rw [List.takeWhile_append_dropWhile]
    _ = chars.dropWhile test := List.drop_left

theorem encodeFault?_eq_none_iff {text : String} :
    halves.encodeFault? text = none ↔ halves.areMissingIn text = true := by
  rw [encodeFault?, areMissingIn]
  simp only [drop_length_takeWhile]
  constructor
  · intro whole
    split at whole
    case h_1 ended =>
        rw [List.all_eq_true]
        exact List.dropWhile_eq_nil_iff.mp ended
    case h_2 => cases whole
  · intro missing
    have ended : text.toList.dropWhile (fun char => !halves.isHalf char) = [] :=
      List.dropWhile_eq_nil_iff.mpr (List.all_eq_true.mp missing)
    rw [ended]

theorem areMissingIn_iff {text : String} :
    halves.areMissingIn text = true ↔
      ∀ code ∈ halves.codesOf text, ¬ IsHalfCode code := by
  simp [areMissingIn, codesOf, isHalfCode_codeOf_iff]

/-- A text can be written just if none of its code points is that of a half, and
then its bytes are those of its characters. -/
theorem encode_eq_ok_iff {text : String} {content : ByteArray} :
    halves.encode text = .ok content ↔
      (∀ code ∈ halves.codesOf text, ¬ IsHalfCode code) ∧
        content = encodeUtf8 text := by
  rw [← areMissingIn_iff, ← encodeFault?_eq_none_iff, encode]
  cases halves.encodeFault? text with
  | none => simp [eq_comm]
  | some fault => simp

/-- The block that is chosen for some texts is in none of them, if there is such
a block. -/
theorem areMissingIn_avoiding {texts : List String}
    (free : ∃ halves ∈ blocks, ∀ text ∈ texts, halves.areMissingIn text = true) :
    ∀ text ∈ texts, (avoiding texts).areMissingIn text = true := by
  have found : (blocks.find? fun halves =>
      texts.all halves.areMissingIn).isSome = true := by
    rw [List.find?_isSome]
    simpa using free
  obtain ⟨halves, found⟩ := Option.isSome_iff_exists.mp found
  rw [avoiding, found]
  simpa using List.find?_some found

end Halves

end Text

end SwiftInterface
