import Mathlib.Data.List.Forall2
import SwiftInterface.Proofs.Settings.Acceptance

/-!
# Likeness of values

A value names the places of its collections, and the places of one file mean
nothing in another.  Two values of different files are alike if they cannot be
told apart by following them: equal scalars, and collections of the same kind
with alike values in the same order.  Since a collection can hold itself, alike
values are those that some relation pairs which passes this test at every step.

Whether a value is accepted for a setting, and as what, is the same for alike
values.  Moving collections to other places gives alike values, so the values of
two files can stand in one.
-/

namespace SwiftInterface

/-- Collections of the same kind that hold related values in the same order. -/
inductive Collection.Matches (related : Value → Value → Prop) :
    Collection → Collection → Prop
  | list {items others : List Value}
      (each : List.Forall₂ related items others) :
      Matches related (.list items) (.list others)
  | pair {first second third fourth : Value} (firsts : related first third)
      (seconds : related second fourth) :
      Matches related (.pair first second) (.pair third fourth)
  | mapping {entries others : List (Value × Value)}
      (each : List.Forall₂
        (fun entry other => related entry.1 other.1 ∧ related entry.2 other.2)
        entries others) :
      Matches related (.mapping entries) (.mapping others)
  | set {members others : List Value}
      (each : List.Forall₂ related members others) :
      Matches related (.set members) (.set others)

namespace Value

/-- Values that pass the test of likeness for one step.  The origin of a number
does not matter, and places without a collection are all the same. -/
inductive Matches (first second : Collections)
    (related : Value → Value → Prop) : Value → Value → Prop
  | scalar {value : Value} (isScalar : value.isKey = true) :
      Matches first second related value value
  | float (number : Number.Double) (origin other : Nat) :
      Matches first second related (.float number origin) (.float number other)
  | collection {place other : Nat} {here there : Collection}
      (standsHere : first.places[place]? = some here)
      (standsThere : second.places[other]? = some there)
      (matched : here.Matches related there) :
      Matches first second related (.collection place) (.collection other)
  | nothing {place other : Nat} (emptyHere : first.places[place]? = none)
      (emptyThere : second.places[other]? = none) :
      Matches first second related (.collection place) (.collection other)

/-- Values of two files that cannot be told apart. -/
def Alike (first second : Collections) (value other : Value) : Prop :=
  ∃ related : Value → Value → Prop,
    (∀ value other, related value other →
      Matches first second related value other) ∧ related value other

variable {first second : Collections} {related : Value → Value → Prop}
  {value other : Value}

theorem Alike.text {chars : String}
    (alike : Alike first second (.text chars) other) : other = .text chars := by
  obtain ⟨related, closed, pair⟩ := alike
  cases closed _ _ pair
  rfl

end Value

/-! ## Moving collections -/

/-- A value whose collection has moved to another place. -/
def Value.relocate (move : Nat → Nat) : Value → Value
  | .collection place => .collection (move place)
  | value => value

/-- A collection whose values have moved. -/
def Collection.relocate (move : Nat → Nat) : Collection → Collection
  | .list items => .list (items.map (Value.relocate move))
  | .pair first second => .pair (first.relocate move) (second.relocate move)
  | .mapping entries =>
      .mapping (entries.map (Prod.map (Value.relocate move) (Value.relocate move)))
  | .set members => .set (members.map (Value.relocate move))

theorem Collection.matches_relocate (move : Nat → Nat)
    (collection : Collection) :
    collection.Matches (fun value other => other = value.relocate move)
      (collection.relocate move) := by
  have each (items : List Value) :
      List.Forall₂ (fun value other => other = value.relocate move) items
        (items.map (Value.relocate move)) := by
    rw [List.forall₂_map_right_iff]
    exact List.forall₂_same.mpr fun _ _ => rfl
  cases collection with
  | list items => exact .list (each items)
  | pair first second => exact .pair rfl rfl
  | mapping entries =>
      refine .mapping ?_
      rw [List.forall₂_map_right_iff]
      exact List.forall₂_same.mpr fun _ _ => ⟨rfl, rfl⟩
  | set members => exact .set (each members)

/-- A value is like itself where all collections have moved. -/
theorem Value.alike_relocate {first second : Collections} {move : Nat → Nat}
    (moved : ∀ place,
      second.places[move place]? =
        (first.places[place]?).map (Collection.relocate move))
    (value : Value) : Alike first second value (value.relocate move) := by
  refine ⟨fun value other => other = value.relocate move, ?_, rfl⟩
  rintro value other rfl
  cases value with
  | collection place =>
      have there := moved place
      cases stands : first.places[place]? with
      | none =>
          rw [stands] at there
          exact .nothing stands there
      | some here =>
          rw [stands] at there
          exact .collection stands there (here.matches_relocate move)
  | _ => exact .scalar rfl

theorem Collection.relocate_id (collection : Collection) :
    collection.relocate id = collection := by
  have same : Value.relocate id = id := by
    funext value
    cases value <;> rfl
  cases collection <;> simp [relocate, same]

theorem Value.Alike.refl (collections : Collections) (value : Value) :
    Alike collections collections value value := by
  have moved (place : Nat) : collections.places[id place]? =
      (collections.places[place]?).map (Collection.relocate id) := by
    cases stands : collections.places[place]? with
    | none => simpa using stands
    | some here => simpa [Collection.relocate_id] using stands
  have alike := alike_relocate moved value
  have same : value.relocate id = value := by
    cases value <;> rfl
  rwa [same] at alike

namespace Collections

/-- Where a collection of the first file stands in both files together.  A place
without a collection stays one. -/
def moveFirst (first second : Collections) (place : Nat) : Nat :=
  if place < first.places.size then place else place + second.places.size

/-- Where a collection of the second file stands in both files together. -/
def moveSecond (first : Collections) (place : Nat) : Nat :=
  first.places.size + place

/-- The collections of two files. -/
def both (first second : Collections) : Collections where
  machine := first.machine
  places := first.places.map (Collection.relocate (moveFirst first second)) ++
    second.places.map (Collection.relocate (moveSecond first))

theorem both_moveFirst (first second : Collections) (place : Nat) :
    (both first second).places[moveFirst first second place]? =
      (first.places[place]?).map
        (Collection.relocate (moveFirst first second)) := by
  rw [both, moveFirst]
  by_cases inside : place < first.places.size
  · rw [if_pos inside]
    simp [Array.getElem?_append, inside]
  · rw [if_neg inside]
    simp [inside]

theorem both_moveSecond (first second : Collections) (place : Nat) :
    (both first second).places[moveSecond first place]? =
      (second.places[place]?).map (Collection.relocate (moveSecond first)) := by
  have behind : ¬ first.places.size + place < first.places.size := by omega
  rw [both, moveSecond]
  simp [Array.getElem?_append, behind]

end Collections

/-! ## Accepting alike values -/

namespace Setting

open Value

variable {first second : Collections} {related : Value → Value → Prop}
  {value other : Value} {name : Name}

theorem reject_ne_ok {α : Type} {collections : Collections}
    {cause : String → SettingsFailure} {result : α} :
    reject collections cause value ≠ .ok result := by
  rw [reject]
  cases describe collections value with
  | ok text => nofun
  | error failure => nofun

theorem acceptText_of_matches {text : String}
    (matched : Matches first second related value other)
    (accepted : acceptText first name value = .ok text) :
    acceptText second name other = .ok text := by
  cases value with
  | text chars =>
      cases matched
      exact accepted
  | _ => exact absurd accepted reject_ne_ok

theorem acceptFlag_of_matches {flag : Bool}
    (matched : Matches first second related value other)
    (accepted : acceptFlag first name value = .ok flag) :
    acceptFlag second name other = .ok flag := by
  cases value with
  | bool given =>
      cases matched
      exact accepted
  | text chars =>
      cases matched
      rw [acceptFlag, acceptFlag.ofWord] at accepted ⊢
      split at accepted
      case isTrue isYes =>
          rw [if_pos isYes]
          exact accepted
      case isFalse noYes =>
          split at accepted
          case isTrue isNo =>
              rw [if_neg noYes, if_pos isNo]
              exact accepted
          case isFalse => exact absurd accepted reject_ne_ok
  | int number =>
      cases matched
      rw [acceptFlag] at accepted ⊢
      split at accepted
      case isTrue isOne =>
          rw [if_pos isOne]
          exact accepted
      case isFalse notOne =>
          split at accepted
          case isTrue isZero =>
              rw [if_neg notOne, if_pos isZero]
              exact accepted
          case isFalse => exact absurd accepted reject_ne_ok
  | _ => exact absurd accepted reject_ne_ok

theorem acceptArgumentList_of_matches {items others : List Value}
    {arguments : List String}
    (each : List.Forall₂ (Matches first second related) items others)
    (accepted : acceptArgumentList first name items = .ok arguments) :
    acceptArgumentList second name others = .ok arguments := by
  induction each generalizing arguments with
  | nil => exact accepted
  | @cons item other items others matched each ih =>
      cases item with
      | text chars =>
          cases matched
          rw [acceptArgumentList] at accepted ⊢
          cases outcome : acceptArgumentList first name items with
          | error failure =>
              rw [outcome] at accepted
              cases accepted
          | ok found =>
              rw [outcome] at accepted
              rw [ih outcome]
              exact accepted
      | _ => exact absurd accepted reject_ne_ok

theorem acceptArguments_of_matches {arguments : List String}
    (closed : ∀ value other, related value other →
      Matches first second related value other)
    (matched : Matches first second related value other)
    (accepted : acceptArguments first name value = .ok arguments) :
    acceptArguments second name other = .ok arguments := by
  cases value with
  | text chars =>
      cases matched
      exact accepted
  | collection place =>
      rw [acceptArguments.eq_def] at accepted
      cases matched with
      | scalar isScalar => cases isScalar
      | nothing emptyHere emptyThere =>
          simp [Collections.items?, emptyHere] at accepted
      | @collection _ place _ _ standsHere standsThere matched =>
          cases matched with
          | list each =>
              simp only [Collections.items?, standsHere] at accepted
              simp only [acceptArguments, Collections.items?, standsThere]
              exact acceptArgumentList_of_matches (each.imp closed) accepted
          | _ => simp [Collections.items?, standsHere] at accepted
  | _ => cases accepted

theorem integerOf?_of_matches
    (matched : Matches first second related value other) :
    integerOf? other = integerOf? value := by
  cases matched with
  | scalar isScalar => rfl
  | float number origin other => cases number <;> rfl
  | collection standsHere standsThere matched => rfl
  | nothing emptyHere emptyThere => rfl

theorem map_ok_of_imp {α β : Type} {judgement second : Except Failure α}
    {convert : α → β} {result : β}
    (carries : ∀ value, judgement = .ok value → second = .ok value)
    (converted : judgement.map convert = .ok result) :
    second.map convert = .ok result := by
  cases judgement with
  | error failure => cases converted
  | ok value =>
      rw [carries value rfl]
      exact converted

/-- What is accepted for a setting does not depend on the places of
collections. -/
theorem accept_of_alike {setting : Setting}
    (alike : Alike first second value other)
    (accepted : accept first name value = .ok setting) :
    accept second name other = .ok setting := by
  obtain ⟨related, closed, pair⟩ := alike
  have matched := closed value other pair
  have asText (text : String) :
      acceptText first name value = .ok text →
        acceptText second name other = .ok text :=
    acceptText_of_matches matched
  cases name with
  | outputFolder => exact map_ok_of_imp asText accepted
  | minimumLevel => exact map_ok_of_imp asText accepted
  | indexerPath => exact map_ok_of_imp asText accepted
  | formatterPath => exact map_ok_of_imp asText accepted
  | skipUnbalanced =>
      exact map_ok_of_imp (fun _ => acceptFlag_of_matches matched) accepted
  | formatterArguments =>
      exact map_ok_of_imp (fun _ => acceptArguments_of_matches closed matched)
        accepted
  | timeout =>
      rw [accept, acceptTimeout] at accepted ⊢
      rw [integerOf?_of_matches matched]
      exact accepted

end Setting

end SwiftInterface
