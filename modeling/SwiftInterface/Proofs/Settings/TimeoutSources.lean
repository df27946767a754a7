import SwiftInterface.Proofs.Number.Spelling
import SwiftInterface.Settings.Environment

/-!
# The two sources of the timeout

The time that programs may take is given by a text in a settings file or in an
environment variable.  The file reads the integer in the text as it stands, the
environment trims the text first and takes a blank one for none.  Both read the
same positive integers.  A text that the file rejects leaves the default of the
environment in place, unless information separators stand around an integer:
only the environment ignores them.
-/

namespace SwiftInterface

namespace Environment

open Number Text

variable {text variableName : String} {name : Setting.Name}
  {seconds default : Int} {failure : Failure} {world : World}

theorem acceptTimeout_text_eq_ok_iff :
    Setting.acceptTimeout name (.text text) = .ok seconds ↔
      readDecimal text = .ok seconds ∧ 0 < seconds := by
  rw [Setting.acceptTimeout, Setting.integerOf?]
  cases readDecimal text with
  | error fault => simp [Except.toOption]
  | ok number =>
      by_cases positive : 0 < number
      · simp only [Except.toOption, positive, if_true, Except.ok.injEq]
        constructor
        · rintro rfl
          exact ⟨rfl, positive⟩
        · exact And.left
      · simp only [Except.toOption, positive, if_false, reduceCtorEq, false_iff,
          Except.ok.injEq]
        rintro ⟨rfl, isPositive⟩
        exact positive isPositive

theorem not_positive_of_rejected
    (rejected : Setting.acceptTimeout name (.text text) = .error failure)
    (read : readDecimal text = .ok seconds) : ¬ 0 < seconds := by
  intro positive
  have accepted : Setting.acceptTimeout name (.text text) = .ok seconds :=
    acceptTimeout_text_eq_ok_iff.mpr ⟨read, positive⟩
  rw [rejected] at accepted
  cases accepted

theorem readPositive_eq_number_iff :
    readPositive (some text) = .number seconds ↔
      readInteger 10 (trimBy isBlank text.toList) = .ok seconds ∧
        0 < seconds := by
  cases trimmed : trimBy isBlank text.toList with
  | nil =>
      have unreadable : readInteger 10 [] = .error .malformed := rfl
      simp [readPositive, trimmed, unreadable]
  | cons char rest =>
      cases read : readInteger 10 (char :: rest) with
      | error fault => simp [readPositive, trimmed, read]
      | ok number =>
          by_cases isPositive : 0 < number
          · simp only [readPositive, trimmed, read, isPositive]
            simp only [List.isEmpty_cons, Bool.false_eq_true, if_false, if_true,
              Reading.number.injEq, Except.ok.injEq]
            constructor
            · rintro rfl
              exact ⟨rfl, isPositive⟩
            · exact And.left
          · simp only [readPositive, trimmed, read, isPositive]
            simp only [List.isEmpty_cons, Bool.false_eq_true, if_false,
              reduceCtorEq, Except.ok.injEq, false_iff, not_and]
            rintro rfl
            exact isPositive

/-- A variable whose trimmed text is a positive integer gives it, without a
word in the log. -/
theorem positive_of_read
    (read : readInteger 10 (trimBy isBlank text.toList) = .ok seconds)
    (isPositive : 0 < seconds) :
    positive variableName (some text) default world = .ok seconds world := by
  have reading : readPositive (some text) = .number seconds :=
    readPositive_eq_number_iff.mpr ⟨read, isPositive⟩
  rw [positive, reading]
  rfl

/-- A variable whose trimmed text is no positive integer gives the default. -/
theorem exists_positive_of_not_read
    (unread : ∀ seconds,
      readInteger 10 (trimBy isBlank text.toList) = .ok seconds →
        ¬ 0 < seconds) :
    ∃ after,
      positive variableName (some text) default world = .ok default after := by
  rw [positive]
  cases reading : readPositive (some text) with
  | unset => exact ⟨_, rfl⟩
  | notInteger => exact ⟨_, rfl⟩
  | notPositive => exact ⟨_, rfl⟩
  | number number =>
      obtain ⟨read, isPositive⟩ := readPositive_eq_number_iff.mp reading
      exact absurd isPositive (unread number read)

/-- A time that a settings file accepts is what a variable with the same text
gives; a text without separators that the file rejects leaves the default; and
both sources read every positive integer that is written with digits of any
scripts. -/
theorem timeout_sources_agree (text variableName : String)
    (name : Setting.Name) (default : Int) (world : World) :
    (∀ seconds, Setting.acceptTimeout name (.text text) = .ok seconds →
      positive variableName (some text) default world = .ok seconds world) ∧
    ((∀ char ∈ text.toList, isSeparator char = false) →
      ∀ failure, Setting.acceptTimeout name (.text text) = .error failure →
        ∃ after,
          positive variableName (some text) default world =
            .ok default after) ∧
    ∀ number : Nat, 0 < number → Written text.toList number →
      Setting.acceptTimeout name (.text text) = .ok number ∧
        positive variableName (some text) default world = .ok number world := by
  have accepted (seconds : Int)
      (accepts : Setting.acceptTimeout name (.text text) = .ok seconds) :
      positive variableName (some text) default world = .ok seconds world := by
    obtain ⟨read, isPositive⟩ := acceptTimeout_text_eq_ok_iff.mp accepts
    exact positive_of_read (readInteger_trimBy read) isPositive
  refine ⟨accepted, ?_, ?_⟩
  · intro free failure rejected
    apply exists_positive_of_not_read
    intro seconds read
    rw [readInteger_trimBy_of_free free] at read
    exact not_positive_of_rejected rejected read
  · intro number isPositive written
    have accepts : Setting.acceptTimeout name (.text text) = .ok (number : Int) :=
      acceptTimeout_text_eq_ok_iff.mpr
        ⟨readInteger_of_written written, by omega⟩
    exact ⟨accepts, accepted number accepts⟩

/-- A hundred and five in digits of three scripts. -/
def scriptsText : String :=
  "\u3000+１_0٥\u0085"

theorem written_scriptsText : Written scriptsText.toList 105 :=
  @Written.intro ['\u3000'] ['+'] ['１', '_', '0', '٥'] ['\u0085'] [1, 0, 5]
    (List.forall_mem_singleton.mpr (by decide))
    (List.forall_mem_singleton.mpr (by decide)) (.inr rfl)
    (.underscored rfl (.next rfl (.last rfl))) (by decide)

theorem timeout_sources_agree_scripts :
    (Setting.acceptTimeout .timeout (.text scriptsText) = .ok 105 ∧
      positive "MODULEINTERFACE_TIMEOUT" (some scriptsText) 600 {} =
        .ok 105 {}) ∧
    ∃ after,
      positive "MODULEINTERFACE_TIMEOUT" (some "1.5") 600 {} =
        .ok 600 after := by
  constructor
  · exact (timeout_sources_agree scriptsText "MODULEINTERFACE_TIMEOUT" .timeout
      600 {}).2.2 105 (by decide) written_scriptsText
  · have agree := timeout_sources_agree "1.5" "MODULEINTERFACE_TIMEOUT" .timeout
      600 {}
    have free : ∀ char ∈ "1.5".toList, isSeparator char = false := by
      have noneOf : ("1.5".toList.any isSeparator) = false := by decide
      simpa only [List.any_eq_false, Bool.not_eq_true] using noneOf
    exact agree.2.1 free (.settings (.notTimeout "timeout_s")) (by rfl)

/-- The environment ignores a separator that the file does not ignore. -/
example :
    positive "MODULEINTERFACE_TIMEOUT" (some "\x1f5") 600 {} = .ok 5 {} ∧
      Setting.acceptTimeout .timeout (.text "\x1f5") =
        .error (.settings (.notTimeout "timeout_s")) := by
  exact ⟨rfl, rfl⟩

end Environment

end SwiftInterface
