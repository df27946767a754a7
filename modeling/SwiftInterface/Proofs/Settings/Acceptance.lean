import SwiftInterface.Settings.File

/-!
# Accepting settings

The entries of a settings file are judged one by one: an entry is accepted, or
it is rejected with a reason, or a fault escapes.  A fault escapes in two ways
only.  The time of an external program may be given as an infinite number, which
has no integer part; and a rejection that shows the rejected value may meet an
integer with too many digits or collections that nest too deeply.  Everything
else in an entry is accepted or rejected.
-/

namespace SwiftInterface

variable {α β : Type}

/-- What a judgement comes to: something is accepted, or rejected, or a fault
escapes, namely the one that `escapes` tells. -/
inductive Judged (escapes : Fault → Prop) : Except Failure α → Prop
  | accepted (value : α) (contained : ∀ fault, ¬ escapes fault) :
      Judged escapes (.ok value)
  | rejected (cause : SettingsFailure) (contained : ∀ fault, ¬ escapes fault) :
      Judged escapes (.error (.settings cause))
  | escaped {fault : Fault} (only : ∀ other, escapes other ↔ other = fault) :
      Judged escapes (.error (.fault fault))

namespace Judged

variable {escapes other : Fault → Prop} {judgement : Except Failure α}

theorem eq_fault_iff (judged : Judged escapes judgement) {fault : Fault} :
    judgement = .error (.fault fault) ↔ escapes fault := by
  cases judged with
  | accepted value contained => exact iff_of_false nofun (contained fault)
  | rejected cause contained => exact iff_of_false nofun (contained fault)
  | escaped only => simp [only, eq_comm]

theorem documented_iff (judged : Judged escapes judgement) :
    ((∃ value, judgement = .ok value) ∨
      ∃ cause, judgement = .error (.settings cause)) ↔
      ¬ ∃ fault, escapes fault := by
  cases judged with
  | accepted value contained => simp [contained]
  | rejected cause contained => simp [contained]
  | escaped only => simp [only]

theorem congr (judged : Judged escapes judgement)
    (same : ∀ fault, escapes fault ↔ other fault) : Judged other judgement := by
  have sameEscapes : escapes = other := funext fun fault => propext (same fault)
  rwa [← sameEscapes]

theorem map (judged : Judged escapes judgement) (convert : α → β) :
    Judged escapes (judgement.map convert) := by
  cases judged with
  | accepted value contained => exact .accepted _ contained
  | rejected cause contained => exact .rejected cause contained
  | escaped only => exact .escaped only

/-- What is judged in two steps escapes in the first, or in the second after the
first has accepted. -/
theorem bind {next : α → Except Failure β} {later : α → Fault → Prop}
    (judged : Judged escapes judgement)
    (onward : ∀ value, judgement = .ok value →
      Judged (later value) (next value)) :
    Judged (fun fault => escapes fault ∨
      ∃ value, judgement = .ok value ∧ later value fault)
      (judgement >>= next) := by
  cases judged with
  | accepted value contained =>
      refine (onward value rfl).congr fun fault => ?_
      simp [contained]
  | rejected cause contained =>
      exact .rejected cause fun fault => by simp [contained]
  | escaped only => exact .escaped fun fault => by simp [only]

theorem bind_contained {next : α → Except Failure β}
    (judged : Judged escapes judgement)
    (onward : ∀ value, Judged (fun _ => False) (next value)) :
    Judged escapes (judgement >>= next) := by
  refine (judged.bind fun value _ => onward value).congr fun fault => ?_
  simp

end Judged

/-! ## Values -/

namespace Setting

variable {collections : Collections} {value : Value} {name : Name}
  {fault : Fault}

/-- A fault that escapes where a value is shown. -/
def ShownEscapes (collections : Collections) (value : Value) (fault : Fault) :
    Prop :=
  ∃ obstacle, collections.describe value = .error obstacle ∧
    fault = faultOf obstacle

theorem not_shownEscapes {text : String}
    (written : collections.describe value = .ok text) (fault : Fault) :
    ¬ ShownEscapes collections value fault := by
  simp [ShownEscapes, written]

theorem not_shownEscapes_text (text : String) (fault : Fault) :
    ¬ ShownEscapes collections (.text text) fault :=
  not_shownEscapes (by rw [Collections.describe, Collections.describeWithin])
    fault

theorem not_shownEscapes_bool (flag : Bool) (fault : Fault) :
    ¬ ShownEscapes collections (.bool flag) fault :=
  not_shownEscapes (by rw [Collections.describe, Collections.describeWithin])
    fault

theorem describe_judged (collections : Collections) (value : Value) :
    Judged (ShownEscapes collections value) (describe collections value) := by
  rw [describe]
  cases written : collections.describe value with
  | ok text => exact .accepted text (not_shownEscapes written)
  | error obstacle =>
      exact .escaped fun other => by simp [ShownEscapes, written]

theorem reject_judged (collections : Collections)
    (cause : String → SettingsFailure) (value : Value) :
    Judged (ShownEscapes collections value)
      (reject collections cause value : Except Failure α) := by
  refine (describe_judged collections value).bind_contained fun text => ?_
  exact .rejected (cause text) fun _ escapes => escapes

theorem acceptText_judged (collections : Collections) (name : Name)
    (value : Value) :
    Judged (ShownEscapes collections value)
      (acceptText collections name value) := by
  cases value with
  | text text => exact .accepted _ (not_shownEscapes_text text)
  | _ => exact reject_judged collections _ _

theorem exceedsDigits_of_natAbs_le_one {number : Int}
    (small : number.natAbs ≤ 1) : Number.exceedsDigits number = false := by
  have positive : Number.digitLimit ≠ 0 := by decide
  delta Number.exceedsDigits
  -- The power itself is far too large to be computed.
  generalize Number.digitLimit = digits at positive
  have large : 1 < 10 ^ digits := Nat.one_lt_pow positive (by decide)
  exact decide_eq_false (Nat.not_le_of_lt (Nat.lt_of_le_of_lt small large))

/-- An integer that is a flag is short enough to be written. -/
theorem describe_of_natAbs_le_one {number : Int} (small : number.natAbs ≤ 1) :
    collections.describe (.int number) = .ok (toString number) := by
  simp [Collections.describe, Collections.describeWithin,
    exceedsDigits_of_natAbs_le_one small]

theorem acceptFlag_judged (collections : Collections) (name : Name)
    (value : Value) :
    Judged (ShownEscapes collections value)
      (acceptFlag collections name value) := by
  cases value with
  | bool flag => exact .accepted flag (not_shownEscapes_bool flag)
  | text text =>
      rw [acceptFlag, acceptFlag.ofWord]
      split
      · exact .accepted true (not_shownEscapes_text text)
      · split
        · exact .accepted false (not_shownEscapes_text text)
        · exact reject_judged collections _ _
  | int number =>
      rw [acceptFlag]
      split
      case isTrue one =>
          have small : number.natAbs ≤ 1 := by omega
          exact .accepted true
            (not_shownEscapes (describe_of_natAbs_le_one small))
      case isFalse =>
          split
          case isTrue zero =>
              have small : number.natAbs ≤ 1 := by omega
              exact .accepted false
                (not_shownEscapes (describe_of_natAbs_le_one small))
          case isFalse => exact reject_judged collections _ _
  | _ => exact reject_judged collections _ _

/-- A fault that escapes from a list of arguments: the first one that is no text
cannot be shown. -/
inductive ArgumentsEscape (collections : Collections) :
    List Value → Fault → Prop
  | here {value : Value} {rest : List Value} {fault : Fault}
      (noText : ∀ text, value ≠ .text text)
      (escapes : ShownEscapes collections value fault) :
      ArgumentsEscape collections (value :: rest) fault
  | later {text : String} {rest : List Value} {fault : Fault}
      (escapes : ArgumentsEscape collections rest fault) :
      ArgumentsEscape collections (.text text :: rest) fault

theorem argumentsEscape_text_iff {text : String} {rest : List Value} :
    ArgumentsEscape collections (.text text :: rest) fault ↔
      ArgumentsEscape collections rest fault := by
  refine ⟨fun escapes => ?_, .later⟩
  cases escapes with
  | here noText escapes => exact absurd rfl (noText text)
  | later escapes => exact escapes

theorem argumentsEscape_iff {rest : List Value}
    (noText : ∀ text, value ≠ .text text) :
    ArgumentsEscape collections (value :: rest) fault ↔
      ShownEscapes collections value fault := by
  refine ⟨fun escapes => ?_, .here noText⟩
  cases escapes with
  | here noText escapes => exact escapes
  | later escapes => exact absurd rfl (noText _)

theorem acceptArgumentList_judged (collections : Collections) (name : Name)
    (values : List Value) :
    Judged (ArgumentsEscape collections values)
      (acceptArgumentList collections name values) := by
  induction values with
  | nil => exact .accepted [] nofun
  | cons value rest ih =>
      cases value with
      | text text =>
          refine (ih.bind_contained fun others => ?_).congr fun fault => ?_
          · exact .accepted _ fun _ escapes => escapes
          · exact argumentsEscape_text_iff.symm
      | _ =>
          refine (reject_judged collections _ _).congr fun fault => ?_
          exact (argumentsEscape_iff (by simp)).symm

theorem acceptArguments_judged (collections : Collections) (name : Name)
    (value : Value) :
    Judged (fun fault => ∃ items, collections.items? value = some items ∧
      ArgumentsEscape collections items fault)
      (acceptArguments collections name value) := by
  rw [acceptArguments.eq_def]
  split
  case h_1 text => exact .accepted _ (by simp [Collections.items?])
  case h_2 =>
      split
      case h_1 items found =>
          refine (acceptArgumentList_judged collections name items).congr
            fun fault => ?_
          simp [found]
      case h_2 noList => exact .rejected _ (by simp [noList])

theorem integerOf?_eq_error_iff :
    integerOf? value = .error fault ↔
      ∃ negative origin, value = .float (.infinite negative) origin ∧
        fault = .infiniteNumber := by
  cases value with
  | float number origin =>
      cases number with
      | infinite negative => simp [integerOf?, eq_comm]
      | _ => simp [integerOf?]
  | _ => simp [integerOf?]

theorem acceptTimeout_judged (name : Name) (value : Value) :
    Judged (fun fault => integerOf? value = .error fault)
      (acceptTimeout name value) := by
  rw [acceptTimeout]
  cases integerOf? value with
  | error fault => exact .escaped fun other => by simp [eq_comm]
  | ok number =>
      cases number with
      | none => exact .rejected _ nofun
      | some seconds =>
          dsimp only
          split
          · exact .accepted seconds nofun
          · exact .rejected _ nofun

/-- A rejection of a value for the setting shows the value. -/
def Name.ShowsValue (name : Name) : Prop :=
  name ≠ .formatterArguments ∧ name ≠ .timeout

/-- A fault that escapes from an entry of a settings file. -/
inductive Escapes (collections : Collections) : Name → Value → Fault → Prop
  | shown {name : Name} {value : Value} {fault : Fault}
      (shows : name.ShowsValue)
      (escapes : ShownEscapes collections value fault) :
      Escapes collections name value fault
  | argument {value : Value} {items : List Value} {fault : Fault}
      (isList : collections.items? value = some items)
      (escapes : ArgumentsEscape collections items fault) :
      Escapes collections .formatterArguments value fault
  | infinite {negative : Bool} {origin : Nat} :
      Escapes collections .timeout (.float (.infinite negative) origin)
        .infiniteNumber

theorem escapes_iff_shown (shows : name.ShowsValue) :
    Escapes collections name value fault ↔
      ShownEscapes collections value fault := by
  refine ⟨fun escapes => ?_, .shown shows⟩
  cases escapes with
  | shown _ escapes => exact escapes
  | argument isList escapes => exact absurd rfl shows.1
  | infinite => exact absurd rfl shows.2

theorem accept_judged (collections : Collections) (name : Name)
    (value : Value) :
    Judged (Escapes collections name value) (accept collections name value) := by
  have asText (convert : String → Setting) (shows : name.ShowsValue) :
      Judged (Escapes collections name value)
        ((acceptText collections name value).map convert) :=
    ((acceptText_judged collections name value).map convert).congr
      fun _ => (escapes_iff_shown shows).symm
  cases name with
  | outputFolder => exact asText _ ⟨nofun, nofun⟩
  | minimumLevel => exact asText _ ⟨nofun, nofun⟩
  | indexerPath => exact asText _ ⟨nofun, nofun⟩
  | formatterPath => exact asText _ ⟨nofun, nofun⟩
  | skipUnbalanced =>
      have shows : Name.skipUnbalanced.ShowsValue := ⟨nofun, nofun⟩
      refine ((acceptFlag_judged collections _ value).map _).congr fun _ => ?_
      exact (escapes_iff_shown shows).symm
  | formatterArguments =>
      refine ((acceptArguments_judged collections _ value).map _).congr
        fun fault => ⟨?_, ?_⟩
      · rintro ⟨items, isList, escapes⟩
        exact .argument isList escapes
      · intro escapes
        cases escapes with
        | shown shows _ => exact absurd rfl shows.1
        | argument isList escapes => exact ⟨_, isList, escapes⟩
  | timeout =>
      refine ((acceptTimeout_judged _ value).map _).congr fun fault => ?_
      rw [integerOf?_eq_error_iff]
      constructor
      · rintro ⟨negative, origin, rfl, rfl⟩
        exact .infinite
      · intro escapes
        cases escapes with
        | shown shows _ => exact absurd rfl shows.2
        | infinite => exact ⟨_, _, rfl, rfl⟩

end Setting

/-! ## Entries -/

namespace Settings

open Setting

variable {collections : Collections} {entries : List (Value × Value)}
  {fault : Fault}

/-- A fault that escapes where values are shown one after the other: the first
one that cannot be shown leads to it. -/
inductive RowEscapes (collections : Collections) : List Value → Fault → Prop
  | here {value : Value} {rest : List Value} {fault : Fault}
      (escapes : ShownEscapes collections value fault) :
      RowEscapes collections (value :: rest) fault
  | later {value : Value} {text : String} {rest : List Value} {fault : Fault}
      (written : describe collections value = .ok text)
      (escapes : RowEscapes collections rest fault) :
      RowEscapes collections (value :: rest) fault

theorem mapM_describe_judged (collections : Collections)
    (values : List Value) :
    Judged (RowEscapes collections values)
      (values.mapM (describe collections)) := by
  induction values with
  | nil => exact .accepted [] nofun
  | cons value rest ih =>
      rw [List.mapM_cons]
      have shown := describe_judged collections value
      refine (shown.bind fun text _ => ih.bind_contained fun texts =>
        .accepted (text :: texts) fun _ escapes => escapes).congr
        fun fault => ⟨?_, ?_⟩
      · rintro (escapes | ⟨text, written, escapes⟩)
        · exact .here escapes
        · exact .later written escapes
      · intro escapes
        cases escapes with
        | here escapes => exact .inl escapes
        | later written escapes => exact .inr ⟨_, written, escapes⟩

theorem nonTextKeys_eq_nil_iff :
    nonTextKeys entries = [] ↔
      ∀ entry ∈ entries, ∃ label, entry.1 = .text label := by
  rw [nonTextKeys, List.filter_eq_nil_iff, List.forall_mem_map]
  refine forall₂_congr fun entry _ => ?_
  cases entry.1 <;> simp

theorem unknownNames_eq_nil_iff :
    unknownNames collections entries = [] ↔ ∀ entry ∈ entries, ∀ label,
      entry.1 = .text label → (Name.ofLabel? label).isSome = true := by
  rw [unknownNames, ← List.length_eq_zero_iff, List.length_mergeSort,
    List.length_eq_zero_iff, List.filterMap_eq_nil_iff]
  refine forall₂_congr fun entry _ => ?_
  rcases entry with ⟨key, value⟩
  cases key <;> simp [Option.isSome_iff_ne_none]

/-- All entries have names of settings as keys. -/
def AllNamed (entries : List (Value × Value)) : Prop :=
  ∀ entry ∈ entries, (nameOf? entry.1).isSome = true

theorem allNamed_iff :
    AllNamed entries ↔
      nonTextKeys entries = [] ∧ unknownNames collections entries = [] := by
  rw [nonTextKeys_eq_nil_iff, unknownNames_eq_nil_iff, ← forall_and]
  refine forall_congr' fun entry => ?_
  rw [← imp_and]
  refine imp_congr_right fun _ => ?_
  cases entry.1 <;> simp [nameOf?]

theorem requireNames_judged (collections : Collections)
    (entries : List (Value × Value)) :
    Judged (RowEscapes collections (nonTextKeys entries))
      (requireNames collections entries) := by
  rw [requireNames]
  split
  · refine (mapM_describe_judged collections _).bind_contained fun texts => ?_
    exact .rejected (.namesNotText texts) fun _ escapes => escapes
  case isFalse allTexts =>
    have noKey : nonTextKeys entries = [] := by simpa using allTexts
    dsimp only
    split
    · exact .rejected _ (noKey ▸ nofun)
    · exact .accepted _ (noKey ▸ nofun)

theorem requireNames_eq_ok_iff :
    requireNames collections entries = .ok () ↔ AllNamed entries := by
  rw [allNamed_iff, requireNames]
  split
  case isTrue someKey =>
      have keyed : nonTextKeys entries ≠ [] := by simpa using someKey
      refine iff_of_false ?_ fun named => keyed named.1
      cases (nonTextKeys entries).mapM (describe collections) with
      | ok texts => nofun
      | error failure => nofun
  case isFalse allTexts =>
      have noKey : nonTextKeys entries = [] := by simpa using allTexts
      dsimp only
      split
      case isTrue someName =>
          have unknown : unknownNames collections entries ≠ [] := by
            simpa using someName
          exact iff_of_false nofun fun named => unknown named.2
      case isFalse noName =>
          exact iff_of_true rfl ⟨noKey, by simpa using noName⟩

/-- An entry is accepted if it names a setting. -/
def Accepts (collections : Collections) (entry : Value × Value) : Prop :=
  ∀ name, nameOf? entry.1 = some name →
    ∃ setting, accept collections name entry.2 = .ok setting

/-- A fault that escapes from an entry after all entries before it were
accepted. -/
inductive EntryEscapes (collections : Collections) :
    List (Value × Value) → Fault → Prop
  | here {key value : Value} {rest : List (Value × Value)} {name : Name}
      {fault : Fault} (named : nameOf? key = some name)
      (escapes : Setting.Escapes collections name value fault) :
      EntryEscapes collections ((key, value) :: rest) fault
  | later {entry : Value × Value} {rest : List (Value × Value)}
      {fault : Fault} (accepted : Accepts collections entry)
      (escapes : EntryEscapes collections rest fault) :
      EntryEscapes collections (entry :: rest) fault

theorem acceptEntries_judged (collections : Collections)
    (entries : List (Value × Value)) :
    Judged (EntryEscapes collections entries)
      (acceptEntries collections entries) := by
  induction entries with
  | nil => exact .accepted [] nofun
  | cons entry rest ih =>
      rcases entry with ⟨key, value⟩
      rw [acceptEntries]
      split
      case h_1 unnamed =>
          refine ih.congr fun fault => ⟨?_, ?_⟩
          · exact .later (by simp [Accepts, unnamed])
          · intro escapes
            cases escapes with
            | here named _ => simp [unnamed] at named
            | later _ escapes => exact escapes
      case h_2 name named =>
          have judged := accept_judged collections name value
          refine (judged.bind fun setting _ => ih.bind_contained fun others =>
            .accepted (setting :: others) fun _ escapes => escapes).congr
            fun fault => ⟨?_, ?_⟩
          · rintro (escapes | ⟨setting, accepted, escapes⟩)
            · exact .here named escapes
            · refine .later ?_ escapes
              intro other namedToo
              obtain rfl := Option.some.inj (named.symm.trans namedToo)
              exact ⟨setting, accepted⟩
          · intro escapes
            cases escapes with
            | here namedToo escapes =>
                obtain rfl := Option.some.inj (named.symm.trans namedToo)
                exact .inl escapes
            | later accepted escapes =>
                obtain ⟨setting, accepted⟩ := accepted name named
                exact .inr ⟨setting, accepted, escapes⟩

theorem requirePaths_judged (accepted : List Setting) :
    Judged (fun _ => False) (requirePaths accepted) := by
  rw [requirePaths]
  split
  · exact .rejected _ fun _ escapes => escapes
  · split
    · exact .rejected _ fun _ escapes => escapes
    · exact .accepted () fun _ escapes => escapes

/-- A fault that escapes from the entries of a settings file. -/
inductive EntriesEscape (collections : Collections)
    (entries : List (Value × Value)) : Fault → Prop
  | keys {fault : Fault}
      (escapes : RowEscapes collections (nonTextKeys entries) fault) :
      EntriesEscape collections entries fault
  | entry {fault : Fault} (named : AllNamed entries)
      (escapes : EntryEscapes collections entries fault) :
      EntriesEscape collections entries fault

theorem overrides_judged (collections : Collections)
    (entries : List (Value × Value)) :
    Judged (EntriesEscape collections entries)
      (overrides collections entries) := by
  have judged := requireNames_judged collections entries
  have onward := (acceptEntries_judged collections entries).bind_contained
    fun accepted => (requirePaths_judged accepted).bind_contained fun _ =>
      .accepted accepted fun _ escapes => escapes
  refine (judged.bind fun _ _ => onward).congr fun fault => ⟨?_, ?_⟩
  · rintro (escapes | ⟨_, named, escapes⟩)
    · exact .keys escapes
    · exact .entry (requireNames_eq_ok_iff.mp named) escapes
  · intro escapes
    cases escapes with
    | keys escapes => exact .inl escapes
    | entry named escapes =>
        exact .inr ⟨(), requireNames_eq_ok_iff.mpr named, escapes⟩

end Settings

end SwiftInterface
