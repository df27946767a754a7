import Mathlib.Data.List.Induction
import Mathlib.Data.Nat.Digits.Defs
import SwiftInterface.Number.Integer
import SwiftInterface.Proofs.Text.Trimming

/-!
# How integers are written

A positive integer is written as digits of any scripts, with single underscores
between them, perhaps after a plus sign and between white space.  Reading makes
the characters plain first and drops the white space around them; trimming the
text before that changes nothing, unless an information separator stands at one
of the ends: only the trimming of texts takes separators for white space.
-/

namespace SwiftInterface

namespace Text

/-- The information separators. -/
def isSeparator (char : Char) : Bool :=
  0x1c ≤ char.toNat && char.toNat ≤ 0x1f

variable {char : Char} {value : Nat}

theorem exists_zero_of_digitValue? (isDigit : digitValue? char = some value) :
    ∃ first ∈ digitZeros, char.toNat = first + value ∧ value < 10 := by
  obtain ⟨first, found, valueEq⟩ := Option.map_eq_some_iff.mp isDigit
  have member : first ∈ digitZeros := List.mem_of_find?_eq_some found
  have inside := List.find?_some found
  simp only [Bool.and_eq_true, decide_eq_true_eq] at inside
  exact ⟨first, member, by omega, by omega⟩

theorem isBlank_of_digitValue? (isDigit : digitValue? char = some value) :
    isBlank char = false := by
  obtain ⟨first, member, codeEq, small⟩ := exists_zero_of_digitValue? isDigit
  -- The digits of every script lie in one of the gaps between white space.
  have gaps : ∀ first ∈ digitZeros,
      0x20 < first ∧ first + 10 ≤ 0x85 ∨ 0xa0 < first ∧ first + 10 ≤ 0x1680 ∨
        0x1680 < first ∧ first + 10 ≤ 0x2000 ∨ 0x3000 < first := by
    decide
  have gap := gaps first member
  simp only [isBlank, codeEq, Bool.or_eq_false_iff, Bool.and_eq_false_iff,
    decide_eq_false_iff_not, beq_eq_false_iff_ne]
  omega

end Text

namespace Number

open Text

variable {base : Nat} {char : Char} {chars : List Char} {digits : List Nat}
  {digit? : Char → Option Nat}

/-! ## Digits -/

/-- Digits in order, where one underscore may stand between two of them. -/
inductive Spelled (digit? : Char → Option Nat) : List Char → List Nat → Prop
  | last {char : Char} {digit : Nat} (isDigit : digit? char = some digit) :
      Spelled digit? [char] [digit]
  | next {char : Char} {digit : Nat} {rest : List Char} {digits : List Nat}
      (isDigit : digit? char = some digit)
      (others : Spelled digit? rest digits) :
      Spelled digit? (char :: rest) (digit :: digits)
  | underscored {char : Char} {digit : Nat} {rest : List Char}
      {digits : List Nat} (isDigit : digit? char = some digit)
      (others : Spelled digit? rest digits) :
      Spelled digit? (char :: '_' :: rest) (digit :: digits)

theorem Spelled.exists_head (spelled : Spelled digit? chars digits) :
    ∃ first rest digit, chars = first :: rest ∧ digit? first = some digit := by
  cases spelled with
  | last isDigit => exact ⟨_, _, _, rfl, isDigit⟩
  | next isDigit others => exact ⟨_, _, _, rfl, isDigit⟩
  | underscored isDigit others => exact ⟨_, _, _, rfl, isDigit⟩

theorem Spelled.exists_last (spelled : Spelled digit? chars digits) :
    ∃ last digit, chars.getLast? = some last ∧ digit? last = some digit := by
  induction spelled with
  | last isDigit => exact ⟨_, _, rfl, isDigit⟩
  | next isDigit others ih =>
      obtain ⟨last, digit, lastEq, found⟩ := ih
      exact ⟨last, digit, by simp [List.getLast?_cons, lastEq], found⟩
  | underscored isDigit others ih =>
      obtain ⟨last, digit, lastEq, found⟩ := ih
      exact ⟨last, digit, by simp [List.getLast?_cons, lastEq], found⟩

theorem Spelled.map {plain? : Char → Option Nat} {convert : Char → Char}
    (spelled : Spelled digit? chars digits)
    (keeps : ∀ char digit, digit? char = some digit →
      plain? (convert char) = some digit)
    (underscore : convert '_' = '_') :
    Spelled plain? (chars.map convert) digits := by
  induction spelled with
  | last isDigit => exact .last (keeps _ _ isDigit)
  | next isDigit others ih => exact .next (keeps _ _ isDigit) ih
  | underscored isDigit others ih =>
      rw [List.map_cons, List.map_cons, underscore]
      exact .underscored (keeps _ _ isDigit) ih

theorem digitIn?_underscore (base : Nat) : digitIn? base '_' = none :=
  rfl

theorem spelled_of_digitsIn?
    (read : digitsIn? base chars = some (digits, [])) :
    Spelled (digitIn? base) chars digits := by
  fun_induction digitsIn? base chars generalizing digits with
  | case1 => cases read
  | case2 char =>
      simp only [Option.map_eq_some_iff, Prod.mk.injEq, and_true] at read
      obtain ⟨digit, isDigit, rfl⟩ := read
      exact .last isDigit
  | case3 char rest ih =>
      simp only [Option.bind_eq_bind, Option.bind_eq_some_iff] at read
      obtain ⟨digit, isDigit, ⟨others, left⟩, readRest, same⟩ := read
      cases same
      exact .underscored isDigit (ih readRest)
  | case4 char next rest _ ih =>
      simp only [Option.bind_eq_bind, Option.bind_eq_some_iff] at read
      obtain ⟨digit, isDigit, read⟩ := read
      split at read
      · cases read
      · obtain ⟨⟨others, left⟩, readRest, same⟩ :=
          Option.bind_eq_some_iff.mp read
        cases same
        exact .next isDigit (ih readRest)

theorem digitsIn?_of_spelled (spelled : Spelled (digitIn? base) chars digits) :
    digitsIn? base chars = some (digits, []) := by
  induction spelled with
  | last isDigit => simp [digitsIn?, isDigit]
  | underscored isDigit others ih => simp [digitsIn?, isDigit, ih]
  | next isDigit others ih =>
      obtain ⟨first, rest, digit, rfl, isDigitToo⟩ := others.exists_head
      have noUnderscore : first ≠ '_' := by
        rintro rfl
        simp [digitIn?_underscore] at isDigitToo
      rw [digitsIn?.eq_4 _ _ _ _ noUnderscore]
      simp [isDigit, isDigitToo, ih]

theorem ofDigits_eq (base : Nat) (digits : List Nat) :
    ofDigits base digits = Nat.ofDigits base digits.reverse := by
  induction digits using List.reverseRecOn with
  | nil => rfl
  | append_singleton digits digit ih =>
      have shifted : ofDigits base (digits ++ [digit]) =
          base * ofDigits base digits + digit := by
        simp [ofDigits]
      rw [shifted, ih, List.reverse_append, List.reverse_singleton,
        List.singleton_append, Nat.ofDigits_cons]
      simp [Nat.add_comm]

/-! ## Plain characters -/

theorem digitIn?_basic : ∀ digit < 10,
    digitIn? 10 (Char.ofNat ('0'.toNat + digit)) = some digit := by
  decide

theorem digitIn?_plainChar {digit : Nat}
    (isDigit : digitValue? char = some digit) :
    digitIn? 10 (plainChar char) = some digit := by
  obtain ⟨first, member, codeEq, small⟩ := exists_zero_of_digitValue? isDigit
  have basic := digitIn?_basic digit small
  rw [plainChar, isBlank_of_digitValue? isDigit, isDigit]
  split
  case isTrue low =>
      have onlyBasic : ∀ first ∈ digitZeros, first < 127 →
          first = '0'.toNat := by
        decide
      have firstEq := onlyBasic first member (by omega)
      rwa [← firstEq, ← codeEq, Char.ofNat_toNat] at basic
  case isFalse => exact basic

theorem isNumberBlank_iff :
    isNumberBlank char = true ↔
      char.toNat = 0x20 ∨ 0x09 ≤ char.toNat ∧ char.toNat ≤ 0x0d := by
  have space : char = ' ' ↔ char.toNat = 0x20 := by
    rw [← Char.toNat_inj]
    rfl
  simp [isNumberBlank, space]

theorem marks_of_basic : ∀ digit < 10,
    isNumberBlank (Char.ofNat ('0'.toNat + digit)) = false ∧
      isSeparator (Char.ofNat ('0'.toNat + digit)) = false := by
  decide

/-- A character is kept, or it is white space that becomes a space, or it becomes
a mark that is neither white space nor a separator. -/
theorem plainChar_cases (char : Char) :
    char.toNat < 127 ∧ plainChar char = char ∨
      isBlank char = true ∧ plainChar char = ' ' ∨
        isBlank char = false ∧ isNumberBlank (plainChar char) = false ∧
          isSeparator (plainChar char) = false := by
  by_cases low : char.toNat < 127
  · exact .inl ⟨low, by simp [plainChar, low]⟩
  · cases blank : isBlank char with
    | true => exact .inr (.inl ⟨rfl, by simp [plainChar, low, blank]⟩)
    | false =>
        refine .inr (.inr ⟨rfl, ?_⟩)
        cases isDigit : digitValue? char with
        | none => simp [plainChar, low, blank, isDigit, isNumberBlank, isSeparator]
        | some digit =>
            obtain ⟨_, _, _, small⟩ := exists_zero_of_digitValue? isDigit
            have marks := marks_of_basic digit small
            simpa [plainChar, low, blank, isDigit] using marks

theorem isBlank_of_isNumberBlank
    (plain : isNumberBlank (plainChar char) = true) : isBlank char = true := by
  rcases plainChar_cases char with ⟨-, same⟩ | ⟨blank, -⟩ | ⟨-, notPlain, -⟩
  · rw [same, isNumberBlank_iff] at plain
    simp only [isBlank, Bool.or_eq_true, Bool.and_eq_true, decide_eq_true_eq,
      beq_iff_eq]
    omega
  · exact blank
  · simp [notPlain] at plain

/-- White space that does not become a space is a separator. -/
theorem isSeparator_of_isBlank (blank : isBlank char = true)
    (notPlain : isNumberBlank (plainChar char) = false) :
    isSeparator (plainChar char) = true := by
  rcases plainChar_cases char with ⟨low, same⟩ | ⟨-, space⟩ | ⟨noBlank, -⟩
  · rw [same] at notPlain ⊢
    have noSpace : ¬ isNumberBlank char = true := by simp [notPlain]
    rw [isNumberBlank_iff] at noSpace
    simp only [isBlank, Bool.or_eq_true, Bool.and_eq_true, decide_eq_true_eq,
      beq_iff_eq] at blank
    simp only [isSeparator, Bool.and_eq_true, decide_eq_true_eq]
    omega
  · simp [space, isNumberBlank] at notPlain
  · simp [noBlank] at blank

theorem isSeparator_plainChar (noSeparator : isSeparator char = false) :
    isSeparator (plainChar char) = false := by
  rcases plainChar_cases char with ⟨-, same⟩ | ⟨-, space⟩ | ⟨-, -, mark⟩
  · rwa [same]
  · rw [space]
    rfl
  · exact mark

/-- A text without separators at the ends of its plain form may be trimmed
before it is made plain. -/
theorem plainChars_trimBy
    (first : ∀ char ∈ (plainChars chars).head?, isSeparator char = false)
    (last : ∀ char ∈ (plainChars chars).getLast?, isSeparator char = false) :
    plainChars (trimBy isBlank chars) = plainChars chars := by
  have trims : Trims isNumberBlank (chars.map plainChar) (plainChars chars) :=
    trims_trimBy _
  generalize mapped : chars.map plainChar = plain at trims
  generalize plainChars chars = core at trims first last ⊢
  cases trims with
  | @intro front core back before after firstPlain lastPlain =>
      obtain ⟨_, backChars, rfl, mappedFront, rfl⟩ :=
        List.map_eq_append_iff.mp mapped
      obtain ⟨frontChars, inner, rfl, rfl, rfl⟩ :=
        List.map_eq_append_iff.mp mappedFront
      have around (side : List Char)
          (blank : ∀ char ∈ side.map plainChar, isNumberBlank char = true) :
          ∀ char ∈ side, isBlank char = true := by
        intro char member
        apply isBlank_of_isNumberBlank
        exact blank (plainChar char) (List.mem_map_of_mem member)
      have kept (char : Char) (notPlain : isNumberBlank (plainChar char) = false)
          (noSeparator : isSeparator (plainChar char) = false) :
          isBlank char = false := by
        by_contra blank
        have separator :=
          isSeparator_of_isBlank (by simpa using blank) notPlain
        simp [noSeparator] at separator
      have trimmed : trimBy isBlank (frontChars ++ inner ++ backChars) =
          inner := by
        apply Trims.trimBy_eq
        refine .intro (around _ before) (around _ after) ?_ ?_
        · intro char member
          have mappedMember : plainChar char ∈ (inner.map plainChar).head? := by
            simp [Option.mem_def.mp member]
          exact kept char (firstPlain _ mappedMember) (first _ mappedMember)
        · intro char member
          have mappedMember :
              plainChar char ∈ (inner.map plainChar).getLast? := by
            simp [Option.mem_def.mp member]
          exact kept char (lastPlain _ mappedMember) (last _ mappedMember)
      rw [trimmed, plainChars]
      have alone : Trims isNumberBlank ([] ++ inner.map plainChar ++ [])
          (inner.map plainChar) :=
        .intro (by simp) (by simp) firstPlain lastPlain
      simpa using alone.trimBy_eq

/-! ## Reading -/

theorem dropBaseMark_ten (chars : List Char) : dropBaseMark 10 chars = chars := by
  unfold dropBaseMark
  split
  · rfl
  · rfl

theorem readInteger_ten (chars : List Char) :
    readInteger 10 chars =
      match digitsIn? 10 (splitSign (plainChars chars)).2 with
      | none => .error .malformed
      | some (digits, others) =>
          if digitLimit < digits.length then .error (.tooLong digits.length)
          else if others.isEmpty then
            .ok (signed (splitSign (plainChars chars)).1 (ofDigits 10 digits))
          else .error .malformed := by
  unfold readInteger
  dsimp only
  rw [dropBaseMark_ten]
  cases digitsIn? 10 (splitSign (plainChars chars)).2 with
  | none => rfl
  | some found =>
      obtain ⟨digits, others⟩ := found
      by_cases long : digitLimit < digits.length
      · simp [long]
      · simp [long]

theorem toNat_of_digitIn? {digit : Nat} (isDigit : digitIn? 10 char = some digit) :
    0x30 ≤ char.toNat := by
  by_contra low
  have below (other : Char) (large : 0x30 ≤ other.toNat) : ¬ other ≤ char := by
    intro le
    have : other.toNat ≤ char.toNat := le
    omega
  have noDigit : hexDigitValue? char = none := by
    simp [hexDigitValue?, isBasicDigit, below]
  simp [digitIn?, noDigit] at isDigit

theorem marks_of_digitIn? {digit : Nat} (isDigit : digitIn? 10 char = some digit) :
    isNumberBlank char = false ∧ isSeparator char = false := by
  have large := toNat_of_digitIn? isDigit
  constructor
  · rw [Bool.eq_false_iff, ne_eq, isNumberBlank_iff]
    omega
  · simp only [isSeparator, Bool.and_eq_false_iff, decide_eq_false_iff_not]
    omega

theorem splitSign_eq (chars : List Char) :
    ∃ sign, chars = sign ++ (splitSign chars).2 ∧
      (sign = [] ∨ sign = ['-'] ∨ sign = ['+']) := by
  unfold splitSign
  split
  · exact ⟨['-'], rfl, .inr (.inl rfl)⟩
  · exact ⟨['+'], rfl, .inr (.inr rfl)⟩
  · exact ⟨[], rfl, .inl rfl⟩

theorem spelled_of_readInteger {number : Int}
    (read : readInteger 10 chars = .ok number) :
    ∃ digits, Spelled (digitIn? 10) (splitSign (plainChars chars)).2 digits := by
  rw [readInteger_ten] at read
  split at read
  case h_1 => cases read
  case h_2 digits others found =>
      split at read
      case isTrue => cases read
      case isFalse =>
          split at read
          case isTrue nothing =>
              obtain rfl : others = [] := by simpa using nothing
              exact ⟨digits, spelled_of_digitsIn? found⟩
          case isFalse => cases read

/-- The plain form of an integer has no separator at its ends: a sign or a digit
comes first and a digit last. -/
theorem plainChars_of_readInteger {number : Int}
    (read : readInteger 10 chars = .ok number) :
    (∀ char ∈ (plainChars chars).head?, isSeparator char = false) ∧
      ∀ char ∈ (plainChars chars).getLast?, isSeparator char = false := by
  obtain ⟨digits, spelled⟩ := spelled_of_readInteger read
  obtain ⟨sign, split, signs⟩ := splitSign_eq (plainChars chars)
  obtain ⟨first, rest, firstDigit, restEq, isDigit⟩ := spelled.exists_head
  obtain ⟨last, lastDigit, lastEq, lastIsDigit⟩ := spelled.exists_last
  have firstFree := (marks_of_digitIn? isDigit).2
  have lastFree := (marks_of_digitIn? lastIsDigit).2
  rw [split]
  constructor
  · rcases signs with rfl | rfl | rfl
    · simpa [restEq] using firstFree
    · simp [isSeparator]
    · simp [isSeparator]
  · simpa [List.getLast?_append, lastEq] using lastFree

/-- Trimming a text changes nothing about the integer that is read from it. -/
theorem readInteger_trimBy {number : Int}
    (read : readInteger 10 chars = .ok number) :
    readInteger 10 (trimBy isBlank chars) = .ok number := by
  obtain ⟨first, last⟩ := plainChars_of_readInteger read
  rw [readInteger, plainChars_trimBy first last]
  exact read

theorem readInteger_trimBy_of_free
    (free : ∀ char ∈ chars, isSeparator char = false) :
    readInteger base (trimBy isBlank chars) = readInteger base chars := by
  have plainFree : ∀ char ∈ plainChars chars, isSeparator char = false := by
    intro char member
    have inPlain : char ∈ chars.map plainChar := by
      rw [plainChars, trimBy, List.mem_reverse] at member
      have inRest := (List.dropWhile_sublist _).mem member
      rw [List.mem_reverse] at inRest
      exact (List.dropWhile_sublist _).mem inRest
    obtain ⟨original, inChars, rfl⟩ := List.mem_map.mp inPlain
    exact isSeparator_plainChar (free original inChars)
  have same : plainChars (trimBy isBlank chars) = plainChars chars := by
    apply plainChars_trimBy
    · intro char member
      exact plainFree char (List.mem_of_mem_head? member)
    · intro char member
      exact plainFree char (List.mem_of_getLast? member)
  rw [readInteger, readInteger, same]

/-! ## Written integers -/

/-- The number is written with digits of any scripts, perhaps after a plus sign
and between white space. -/
inductive Written : List Char → Nat → Prop
  | intro {front sign body back : List Char} {digits : List Nat}
      (before : ∀ char ∈ front, isBlank char = true ∧ isSeparator char = false)
      (after : ∀ char ∈ back, isBlank char = true ∧ isSeparator char = false)
      (signs : sign = [] ∨ sign = ['+'])
      (spelled : Spelled digitValue? body digits)
      (short : digits.length ≤ digitLimit) :
      Written (front ++ (sign ++ body) ++ back) (Nat.ofDigits 10 digits.reverse)

theorem plainChars_of_around {front core back : List Char}
    (before : ∀ char ∈ front, isBlank char = true ∧ isSeparator char = false)
    (after : ∀ char ∈ back, isBlank char = true ∧ isSeparator char = false)
    (first : ∀ char ∈ (core.map plainChar).head?, isNumberBlank char = false)
    (last : ∀ char ∈ (core.map plainChar).getLast?,
      isNumberBlank char = false) :
    plainChars (front ++ core ++ back) = core.map plainChar := by
  have around (side : List Char)
      (blank : ∀ char ∈ side, isBlank char = true ∧ isSeparator char = false) :
      ∀ char ∈ side.map plainChar, isNumberBlank char = true := by
    intro char member
    obtain ⟨original, inSide, rfl⟩ := List.mem_map.mp member
    obtain ⟨isBlank, noSeparator⟩ := blank original inSide
    by_contra notPlain
    have separator := isSeparator_of_isBlank isBlank (by simpa using notPlain)
    simp [isSeparator_plainChar noSeparator] at separator
  rw [plainChars, List.map_append, List.map_append]
  apply Trims.trimBy_eq
  exact .intro (around front before) (around back after) first last

theorem readInteger_of_written {number : Nat} (written : Written chars number) :
    readInteger 10 chars = .ok number := by
  cases written with
  | @intro front sign body back digits before after signs spelled short =>
      have plainBody : Spelled (digitIn? 10) (body.map plainChar) digits :=
        spelled.map (fun _ _ => digitIn?_plainChar) rfl
      obtain ⟨first, rest, _, bodyEq, isDigit⟩ := plainBody.exists_head
      obtain ⟨last, _, lastEq, lastIsDigit⟩ := plainBody.exists_last
      have plainSign : (sign ++ body).map plainChar =
          sign ++ body.map plainChar := by
        rcases signs with rfl | rfl
        · rfl
        · rfl
      have plain : plainChars (front ++ (sign ++ body) ++ back) =
          sign ++ body.map plainChar := by
        rw [← plainSign]
        apply plainChars_of_around before after
        · rw [plainSign]
          rcases signs with rfl | rfl
          · simpa [bodyEq] using (marks_of_digitIn? isDigit).1
          · simp [isNumberBlank]
        · rw [plainSign]
          simpa [List.getLast?_append, lastEq] using
            (marks_of_digitIn? lastIsDigit).1
      have split : splitSign (sign ++ body.map plainChar) =
          (false, body.map plainChar) := by
        rcases signs with rfl | rfl
        · have noMinus : first ≠ '-' := by
            rintro rfl
            cases isDigit
          have noPlus : first ≠ '+' := by
            rintro rfl
            cases isDigit
          rw [List.nil_append, bodyEq, splitSign]
          · rintro rest ⟨⟩
            exact noMinus rfl
          · rintro rest ⟨⟩
            exact noPlus rfl
        · rfl
      rw [readInteger_ten, plain, split, digitsIn?_of_spelled plainBody]
      simp [short, signed, ofDigits_eq]

end Number

end SwiftInterface
