import Mathlib.Data.List.Basic
import SwiftInterface.Access.Choice
import SwiftInterface.Proofs.Text.Trimming

/-!
# Recognised access levels

A keyword is compared in upper case, which takes ligatures apart and makes one
letter of several.  Of all texts, those that spell the keyword of a level are
the ones that become it when every dotless `i` is written as `i` and every
ligature of `f` and `i` as the two letters: the other characters whose
upper-case form is made of basic letters have an `S` in it, or two letters that
no keyword has side by side.
-/

namespace SwiftInterface

namespace AccessLevel

open Text

/-- The keyword in a classification text: the text without the white space
around it and without one classification key in front. -/
inductive KeywordIn (raw : List Char) : List Char → Prop
  | keyed {keyword : List Char}
      (trims : Trims isBlank raw (classificationKey.toList ++ keyword)) :
      KeywordIn raw keyword
  | bare {keyword : List Char} (trims : Trims isBlank raw keyword)
      (noKey : ¬ classificationKey.toList <+: keyword) :
      KeywordIn raw keyword

/-- The small letter `i` without its dot. -/
def dotlessI : Char :=
  '\u0131'

/-- The ligature of `f` and `i`. -/
def ligatureFi : Char :=
  '\ufb01'

/-- A character in the basic letters of keywords. -/
def basicForm (char : Char) : List Char :=
  if char = dotlessI then ['i']
  else if char = ligatureFi then ['f', 'i']
  else [char]

/-- The text names the level: its keyword is that of the level, up to the
dotless `i` and the ligature. -/
def Names (raw : String) (level : AccessLevel) : Prop :=
  ∃ keyword, KeywordIn raw.toList keyword ∧
    keyword.flatMap basicForm = level.label.toList

/-! ## The letters of keywords -/

/-- The letters from `a` to `z`. -/
def basicLetters : List Char :=
  (List.range' 0x61 26).map Char.ofNat

/-- All characters that a text with the keyword of a level may have. -/
def keywordLetters : List Char :=
  basicLetters ++ [dotlessI, ligatureFi]

/-- What the tables of letters say of a letter of keywords. -/
structure KeywordLetter (char : Char) : Prop where
  notCapital : isCapital char = false
  small : isSmall char = true
  notBlank : isBlank char = false
  notDot : char ≠ '.'
  upperForm_eq : upperForm char = (basicForm char).map Char.toUpper
  basic : ∀ other ∈ basicForm char, other ∈ basicLetters

theorem keywordLetter_of_mem {char : Char} (listed : char ∈ keywordLetters) :
    KeywordLetter char := by
  have known : keywordLetters.all (fun letter =>
      !isCapital letter && isSmall letter && !isBlank letter &&
        letter != '.' && upperForm letter == (basicForm letter).map Char.toUpper &&
        (basicForm letter).all fun other => basicLetters.contains other) := by
    decide +kernel
  have ofChar := List.all_eq_true.mp known char listed
  simp only [Bool.and_eq_true, Bool.not_eq_true', bne_iff_ne, beq_iff_eq,
    List.all_eq_true, List.contains_iff_mem] at ofChar
  obtain ⟨⟨⟨⟨⟨notCapital, small⟩, notBlank⟩, notDot⟩, upperForm_eq⟩, basic⟩ :=
    ofChar
  exact ⟨notCapital, small, notBlank, notDot, upperForm_eq, basic⟩

theorem basicLetters_toUpper :
    ∀ char ∈ basicLetters, char.toUpper.toLower = char ∧
      0x41 ≤ char.toUpper.toNat ∧ char.toUpper.toNat ≤ 0x5a := by
  rw [basicLetters, List.forall_mem_map]
  decide +kernel

theorem basicLetters_of_toNat {char : Char} (above : 0x61 ≤ char.toNat)
    (below : char.toNat ≤ 0x7a) : char ∈ basicLetters := by
  have inRange : char.toNat ∈ List.range' 0x61 26 :=
    List.mem_range'_1.mpr ⟨above, by omega⟩
  exact List.mem_map.mpr ⟨char.toNat, inRange, Char.ofNat_toNat char⟩

theorem label_basic (level : AccessLevel) :
    ∀ char ∈ level.label.toList, char ∈ basicLetters := by
  have inRange : ∀ char ∈ level.label.toList,
      0x61 ≤ char.toNat ∧ char.toNat ≤ 0x7a := by
    cases level <;> simp [label]
  intro char charMem
  obtain ⟨above, below⟩ := inRange char charMem
  exact basicLetters_of_toNat above below

theorem mem_keywordLetters_of_basicForm {char : Char}
    (basic : ∀ other ∈ basicForm char, other ∈ basicLetters) :
    char ∈ keywordLetters := by
  rw [basicForm] at basic
  split at basic
  case isTrue dotless => simp [keywordLetters, dotless]
  case isFalse notDotless =>
      split at basic
      case isTrue ligature => simp [keywordLetters, ligature]
      case isFalse notLigature =>
          exact List.mem_append_left _ (basic char (by simp))

/-! ## Characters whose upper-case form is part of a keyword -/

theorem toNat_of_mem_upperLabel {level : AccessLevel} :
    ∀ char ∈ level.upperLabel, 0x41 ≤ char.toNat ∧ char.toNat ≤ 0x5a := by
  intro char charMem
  obtain ⟨letter, letterMem, rfl⟩ := List.mem_map.mp charMem
  exact (basicLetters_toUpper letter (label_basic level letter letterMem)).2

theorem upperRuns_of_basic :
    ∀ run ∈ upperRuns, 0x5a < run.first + run.shift ∨
      run = ⟨0x61, 0x7a, 1, -32⟩ ∨ run = ⟨0x131, 0x131, 1, -232⟩ ∨
      run = ⟨0x17f, 0x17f, 1, -300⟩ := by
  decide +kernel

theorem upperSpellings_of_infix :
    ∀ entry ∈ upperSpellings, ∀ level ∈ all,
      entry.2.map Char.ofNat <:+: level.upperLabel → entry.1 = 0xfb01 := by
  decide +kernel

theorem isCapital_of_toNat {char : Char} (above : 0x41 ≤ char.toNat)
    (below : char.toNat ≤ 0x5a) : isCapital char = true := by
  have held : LetterRun.holds ⟨0x41, 0x5a, 1⟩ char.toNat = true := by
    simp [LetterRun.holds, above, below, Nat.mod_one]
  rw [isCapital, capitalRuns, inRuns, held, Bool.true_or, Bool.and_true]
  exact decide_eq_true above

theorem toNat_ofNat (code : Nat) :
    (Char.ofNat code).toNat = code ∨ (Char.ofNat code).toNat = 0 := by
  by_cases valid : code.isValidChar
  · left
    rw [Char.ofNat, dif_pos valid]
    rfl
  · right
    rw [Char.ofNat, dif_neg valid]
    rfl

/-- Of the letters with a single upper-case form, only the basic letters and the
dotless `i` get one that stands in a keyword. -/
theorem mem_keywordLetters_of_run {char : Char} {run : CaseRun}
    {level : AccessLevel} (listed : run ∈ upperRuns)
    (held : run.holds char.toNat = true)
    (formMem : Char.ofNat (char.toNat + run.shift).toNat ∈ level.upperLabel) :
    char ∈ keywordLetters := by
  simp only [CaseRun.holds, Bool.and_eq_true, decide_eq_true_eq] at held
  obtain ⟨⟨above, below⟩, -⟩ := held
  have formRange := toNat_of_mem_upperLabel _ formMem
  rcases upperRuns_of_basic run listed with beyond | rfl | rfl | rfl
  · rcases toNat_ofNat (char.toNat + run.shift).toNat with code | code
    · omega
    · omega
  · exact List.mem_append_left _ (basicLetters_of_toNat above below)
  · have code : char.toNat = dotlessI.toNat := Nat.le_antisymm below above
    simp [keywordLetters, Char.toNat_inj.mp code]
  · have code : char.toNat = 0x17f := Nat.le_antisymm below above
    rw [code] at formMem
    have noS : 'S' ∉ level.upperLabel := by
      cases level <;> decide
    exact absurd formMem noS

/-- A character that is not capital and whose upper-case form is part of a
keyword is one of the letters of keywords. -/
theorem mem_keywordLetters_of_infix {char : Char} {level : AccessLevel}
    (notCapital : isCapital char = false)
    (part : upperForm char <:+: level.upperLabel) : char ∈ keywordLetters := by
  rw [upperForm] at part
  split at part
  case h_1 run found =>
      have held : run.holds char.toNat = true := by
        simpa using List.find?_some found
      exact mem_keywordLetters_of_run (List.mem_of_find?_eq_some found) held
        (part.subset (by simp))
  case h_2 =>
      split at part
      case h_1 codes found =>
          obtain ⟨before, after, split, -⟩ := List.lookup_eq_some_iff.mp found
          have listed : (char.toNat, codes) ∈ upperSpellings := by
            simp [split]
          have level_mem : level ∈ all := by
            cases level <;> decide
          have code : char.toNat = ligatureFi.toNat :=
            upperSpellings_of_infix _ listed level level_mem part
          simp [keywordLetters, Char.toNat_inj.mp code]
      case h_2 =>
          have charMem : char ∈ level.upperLabel := part.subset (by simp)
          obtain ⟨above, below⟩ := toNat_of_mem_upperLabel char charMem
          rw [isCapital_of_toNat above below] at notCapital
          cases notCapital

/-! ## Keywords -/

theorem upper_of_keywordLetters {chars : List Char}
    (letters : ∀ char ∈ chars, char ∈ keywordLetters) :
    upper chars = (chars.flatMap basicForm).map Char.toUpper := by
  rw [upper, List.map_flatMap]
  apply List.flatMap_congr
  intro char charMem
  exact (keywordLetter_of_mem (letters char charMem)).upperForm_eq

theorem toLower_toUpper {chars : List Char}
    (basic : ∀ char ∈ chars, char ∈ basicLetters) :
    (chars.map Char.toUpper).map Char.toLower = chars := by
  rw [List.map_map]
  have unchanged : ∀ char ∈ chars,
      (Char.toLower ∘ Char.toUpper) char = id char :=
    fun char charMem => (basicLetters_toUpper char (basic char charMem)).1
  rw [List.map_congr_left unchanged, List.map_id]

theorem basicForm_of_upper {chars : List Char} {level : AccessLevel}
    (lower : isLowerCase chars = true)
    (spells : upper chars = level.upperLabel) :
    chars.flatMap basicForm = level.label.toList := by
  have noCapital := List.all_eq_true.mp (Bool.and_eq_true_iff.mp lower).1
  have letters : ∀ char ∈ chars, char ∈ keywordLetters := by
    intro char charMem
    apply mem_keywordLetters_of_infix
    · simpa using noCapital char charMem
    · rw [← spells]
      exact List.infix_of_mem_flatten (List.mem_map_of_mem charMem)
  have basic : ∀ other ∈ chars.flatMap basicForm, other ∈ basicLetters := by
    intro other otherMem
    obtain ⟨char, charMem, formMem⟩ := List.mem_flatMap.mp otherMem
    exact (keywordLetter_of_mem (letters char charMem)).basic other formMem
  rw [← toLower_toUpper basic, ← upper_of_keywordLetters letters, spells]
  exact toLower_toUpper (label_basic level)

theorem keywordLetters_of_basicForm {chars : List Char} {level : AccessLevel}
    (spells : chars.flatMap basicForm = level.label.toList) :
    ∀ char ∈ chars, char ∈ keywordLetters := by
  intro char charMem
  apply mem_keywordLetters_of_basicForm
  intro other formMem
  apply label_basic level
  rw [← spells]
  exact List.mem_flatMap.mpr ⟨char, charMem, formMem⟩

theorem upper_of_basicForm {chars : List Char} {level : AccessLevel}
    (spells : chars.flatMap basicForm = level.label.toList) :
    isLowerCase chars = true ∧ upper chars = level.upperLabel := by
  have letters := keywordLetters_of_basicForm spells
  have nonempty : chars ≠ [] := by
    rintro rfl
    cases level <;> simp [label] at spells
  obtain ⟨char, charMem⟩ := List.exists_mem_of_ne_nil chars nonempty
  constructor
  · rw [isLowerCase, Bool.and_eq_true_iff, List.all_eq_true, List.any_eq_true]
    constructor
    · intro other otherMem
      simp [(keywordLetter_of_mem (letters other otherMem)).notCapital]
    · exact ⟨char, charMem, (keywordLetter_of_mem (letters char charMem)).small⟩
  · rw [upper_of_keywordLetters letters, spells]
    rfl

theorem find?_upperLabel (level : AccessLevel) :
    (all.find? fun other => other.upperLabel == level.upperLabel) =
      some level := by
  cases level <;> rfl

/-- A text is the keyword of a level exactly if it becomes the label of the
level in basic letters. -/
theorem ofKeyword?_eq_some_iff {chars : List Char} {level : AccessLevel} :
    ofKeyword? chars = some level ↔
      chars.flatMap basicForm = level.label.toList := by
  constructor
  · intro found
    rw [ofKeyword?] at found
    split at found
    case isTrue lower =>
        have spells : level.upperLabel = upper chars := by
          simpa using List.find?_some found
        exact basicForm_of_upper lower spells.symm
    case isFalse => cases found
  · intro spells
    obtain ⟨lower, upperEq⟩ := upper_of_basicForm spells
    rw [ofKeyword?, if_pos lower, upperEq]
    exact find?_upperLabel level

/-! ## Classification texts -/

theorem dropKey_append (keyword : List Char) :
    dropKey (classificationKey.toList ++ keyword) = keyword := by
  have keyed : classificationKey.toList.isPrefixOf
      (classificationKey.toList ++ keyword) = true :=
    List.isPrefixOf_iff_prefix.mpr (List.prefix_append _ keyword)
  rw [dropKey, if_pos keyed, List.drop_left]

theorem dropKey_of_unkeyed {chars : List Char}
    (noKey : ¬ classificationKey.toList <+: chars) : dropKey chars = chars := by
  rw [dropKey, if_neg fun keyed => noKey (List.isPrefixOf_iff_prefix.mp keyed)]

theorem keywordIn_iff {raw keyword : List Char} :
    KeywordIn raw keyword ↔ dropKey (trimBy isBlank raw) = keyword := by
  constructor
  · intro contains
    cases contains with
    | keyed trims => rw [trims.trimBy_eq, dropKey_append]
    | bare trims noKey => rw [trims.trimBy_eq, dropKey_of_unkeyed noKey]
  · rintro rfl
    by_cases key : classificationKey.toList <+: trimBy isBlank raw
    · obtain ⟨keyword, keyed⟩ := key
      rw [← keyed, dropKey_append]
      exact .keyed (trims_iff.mpr keyed.symm)
    · rw [dropKey_of_unkeyed key]
      exact .bare (trims_trimBy raw) key

theorem lookup?_eq_some_iff {raw : String} {level : AccessLevel} :
    lookup? raw = some level ↔ Names raw level := by
  rw [lookup?, ofKeyword?_eq_some_iff]
  constructor
  · intro spells
    exact ⟨_, keywordIn_iff.mpr rfl, spells⟩
  · rintro ⟨keyword, contains, spells⟩
    rwa [keywordIn_iff.mp contains]

example : lookup? "\u2003source.lang.swift.accessibility.\ufb01lepr\u0131vate\n" =
    some .fileprivateAccess := by
  decide +kernel

theorem lookup?_eq_none_iff {raw : String} :
    lookup? raw = none ↔ ∀ level, ¬ Names raw level := by
  simp only [← lookup?_eq_some_iff, Option.eq_none_iff_forall_ne_some, ne_eq]

/-- A keyword with a capital letter, with white space or with a second key in
front of it is that of no level. -/
theorem lookup?_of_stray {raw : String} {keyword : List Char}
    (contains : KeywordIn raw.toList keyword)
    (stray : (∃ char ∈ keyword, isCapital char = true ∨ isBlank char = true) ∨
      classificationKey.toList <+: keyword) : lookup? raw = none := by
  rw [lookup?_eq_none_iff]
  rintro level ⟨other, otherContains, spells⟩
  obtain rfl : keyword = other :=
    (keywordIn_iff.mp contains).symm.trans (keywordIn_iff.mp otherContains)
  have letter {char : Char} (charMem : char ∈ keyword) : KeywordLetter char :=
    keywordLetter_of_mem (keywordLetters_of_basicForm spells char charMem)
  rcases stray with ⟨char, charMem, capital | blank⟩ | key
  · simp [(letter charMem).notCapital] at capital
  · simp [(letter charMem).notBlank] at blank
  · have dot : '.' ∈ keyword := key.subset (by decide)
    exact (letter dot).notDot rfl

/-! ## Both readings of a value -/

/-- Both readings of a value give the level, without a warning. -/
def RecognisedAs (value : Json) (level : AccessLevel) : Prop :=
  parse value.text? = level ∧
    ∀ world, choose value world = .ok level world

/-- A value is read as the most restrictive level where it classifies a
declaration, and as the fallback level with a single warning where it is a
user's choice. -/
def FallsBack (value : Json) : Prop :=
  parse value.text? = privateAccess ∧
    ∀ world, choose value world =
      .ok publicAccess
        (world.log .warning .access (unknownNameWarning world.machine value)
          none)

theorem named?_eq (value : Json) : named? value = value.text?.bind lookup? := by
  cases value <;> rfl

theorem recognisedAs_of_named {value : Json} {level : AccessLevel}
    (named : named? value = some level) : RecognisedAs value level := by
  constructor
  · rw [parse, ← named?_eq, named, Option.getD_some]
  · intro world
    rw [choose, named]
    rfl

theorem fallsBack_of_unnamed {value : Json} (unnamed : named? value = none) :
    FallsBack value := by
  constructor
  · rw [parse, ← named?_eq, unnamed, Option.getD_none]
  · intro world
    rw [choose, unnamed]
    rfl

/-- A warning shows in the log of a world that keeps it. -/
theorem log_warning_ne (message : String) :
    ({} : World).log .warning .access message none ≠ {} := by
  intro same
  have kept : Log.Level.info ≤ Log.Level.warning := by decide
  have records := congrArg World.records same
  simp [World.log, kept] at records

theorem not_recognisedAs_of_fallsBack {value : Json} {level : AccessLevel}
    (fallsBack : FallsBack value) : ¬ RecognisedAs value level := by
  intro recognised
  have chosen := (fallsBack.2 {}).symm.trans (recognised.2 {})
  exact log_warning_ne _ (EStateM.Result.ok.inj chosen).2

theorem named?_eq_some_iff {value : Json} {level : AccessLevel} :
    named? value = some level ↔ ∃ raw, value = .string raw ∧ Names raw level := by
  constructor
  · intro named
    cases value with
    | string raw => exact ⟨raw, rfl, lookup?_eq_some_iff.mp named⟩
    | _ => cases named
  · rintro ⟨raw, rfl, names⟩
    exact lookup?_eq_some_iff.mpr names

theorem recognisedAs_iff {value : Json} {level : AccessLevel} :
    RecognisedAs value level ↔ named? value = some level := by
  constructor
  · intro recognised
    cases named : named? value with
    | none =>
        exact absurd recognised
          (not_recognisedAs_of_fallsBack (fallsBack_of_unnamed named))
    | some other =>
        have sameLevel := (recognisedAs_of_named named).1.symm.trans recognised.1
        rw [sameLevel]
  · exact recognisedAs_of_named

theorem fallsBack_iff {value : Json} :
    FallsBack value ↔ named? value = none := by
  constructor
  · intro fallsBack
    cases named : named? value with
    | none => rfl
    | some level =>
        exact absurd (recognisedAs_of_named named)
          (not_recognisedAs_of_fallsBack fallsBack)
  · exact fallsBack_of_unnamed

/-- A text is looked up as a level exactly if it names the level.  Both readings
of a value give a level without a warning exactly for the texts that name it,
and fall back exactly for all other texts and values. -/
theorem recognition_exact :
    (∀ raw : String,
      (∀ level, lookup? raw = some level ↔ Names raw level) ∧
      (lookup? raw = none ↔ ∀ level, ¬ Names raw level) ∧
      ∀ keyword, KeywordIn raw.toList keyword →
        (∃ char ∈ keyword, isCapital char = true ∨ isBlank char = true) ∨
            classificationKey.toList <+: keyword →
          lookup? raw = none) ∧
    (∀ value level, RecognisedAs value level ↔
      ∃ raw, value = .string raw ∧ Names raw level) ∧
    ∀ value, FallsBack value ↔
      ∀ raw level, value = .string raw → ¬ Names raw level := by
  refine ⟨fun raw => ⟨fun level => lookup?_eq_some_iff, lookup?_eq_none_iff,
    fun keyword contains stray => lookup?_of_stray contains stray⟩,
    fun value level => recognisedAs_iff.trans named?_eq_some_iff,
    fun value => ?_⟩
  rw [fallsBack_iff, Option.eq_none_iff_forall_ne_some]
  simp only [ne_eq, named?_eq_some_iff, not_exists, not_and]
  exact forall_comm

end AccessLevel

end SwiftInterface
