import SwiftInterface.Declaration.Dump
import SwiftInterface.Proofs.Render.Fate
import SwiftInterface.Render.Descent

/-!
# Rendering with and without room

As long as there is room, looking for it finds the drops that rendering finds.
There is room for all declarations that fit, and for others as well if what
nests too deeply is dropped on the way.
-/

namespace SwiftInterface

namespace Render

open Declaration

variable {options : Options} {forest : Forest}

/-- The drops of siblings are those of rendering if this holds of each of
them. -/
theorem forestDropsWithin_eq_ok_of
    (each : ∀ member ∈ forest, ∀ room drops,
      dropsWithin options room member = .ok drops →
        drops = (renderDeclaration options member).drops)
    {room : Nat} {drops : List Drop}
    (found : forestDropsWithin options room forest = .ok drops) :
    drops = (renderForest options forest).drops := by
  induction forest generalizing drops with
  | nil =>
      rw [forestDropsWithin] at found
      rw [renderForest, Except.ok.inj found]
  | cons declaration rest ih =>
      rw [forestDropsWithin] at found
      split at found
      case h_1 => cases found
      case h_2 first foundFirst =>
          split at found
          case h_1 => cases found
          case h_2 others foundOthers =>
              have here := each declaration (by simp) room first foundFirst
              have later := ih (fun member memberMem =>
                each member (List.mem_cons_of_mem declaration memberMem))
                foundOthers
              rw [renderForest, ← Except.ok.inj found, here, later]

theorem dropsWithin_eq_ok (options : Options) (declaration : Declaration) :
    ∀ room drops, dropsWithin options room declaration = .ok drops →
      drops = (renderDeclaration options declaration).drops := by
  induction declaration using memberInduction with
  | node declaration ih =>
      intro room drops found
      obtain ⟨kind, name, accessibility, documentation, signature, children⟩ :=
        declaration
      cases room with
      | zero => simp [dropsWithin] at found
      | succ room =>
          cases kind with
          | none =>
              rw [dropsWithin] at found
              rw [renderDeclaration]
              exact forestDropsWithin_eq_ok_of ih found
          | some kind =>
              rw [dropsWithin] at found
              rw [renderDeclaration]
              split at found
              case isTrue group =>
                  rw [if_pos group, ← Except.ok.inj found]
              case isFalse single =>
                  rw [if_neg single]
                  cases tested : verdict options accessibility signature with
                  | belowLevel =>
                      rw [tested] at found
                      exact (Except.ok.inj found).symm
                  | unsigned =>
                      rw [tested] at found
                      exact (Except.ok.inj found).symm
                  | unbalanced signature =>
                      rw [tested] at found
                      exact (Except.ok.inj found).symm
                  | emitted signature =>
                      rw [tested] at found
                      dsimp only at found ⊢
                      split at found
                      case isTrue hasBody =>
                          rw [if_pos hasBody]
                          exact forestDropsWithin_eq_ok_of ih found
                      case isFalse bare =>
                          rw [if_neg bare]
                          exact (Except.ok.inj found).symm

/-- Where there is room for a forest, the drops are those of rendering it. -/
theorem forestDropsWithin_eq_ok {room : Nat} {drops : List Drop}
    (found : forestDropsWithin options room forest = .ok drops) :
    drops = (renderForest options forest).drops :=
  forestDropsWithin_eq_ok_of
    (fun declaration _ => dropsWithin_eq_ok options declaration) found

theorem exists_forestDropsWithin_of {room : Nat}
    (each : ∀ member ∈ forest, ∀ room, member.fits room = true →
      ∃ drops, dropsWithin options room member = .ok drops)
    (fit : allFit room forest = true) :
    ∃ drops, forestDropsWithin options room forest = .ok drops := by
  induction forest with
  | nil => exact ⟨[], by rw [forestDropsWithin]⟩
  | cons declaration rest ih =>
      rw [allFit, Bool.and_eq_true] at fit
      obtain ⟨first, foundFirst⟩ := each declaration (by simp) room fit.1
      obtain ⟨others, foundOthers⟩ := ih (fun member memberMem =>
        each member (List.mem_cons_of_mem declaration memberMem)) fit.2
      exact ⟨first ++ others, by
        rw [forestDropsWithin, foundFirst, foundOthers]⟩

theorem exists_dropsWithin (options : Options) (declaration : Declaration) :
    ∀ room, declaration.fits room = true →
      ∃ drops, dropsWithin options room declaration = .ok drops := by
  induction declaration using memberInduction with
  | node declaration ih =>
      intro room fit
      obtain ⟨kind, name, accessibility, documentation, signature, children⟩ :=
        declaration
      cases room with
      | zero => simp [fits] at fit
      | succ room =>
          rw [fits] at fit
          obtain ⟨drops, inside⟩ := exists_forestDropsWithin_of ih fit
          cases kind with
          | none => exact ⟨drops, by rw [dropsWithin, inside]⟩
          | some kind =>
              rw [dropsWithin]
              split
              case isTrue => exact ⟨[], rfl⟩
              case isFalse =>
                  cases verdict options accessibility signature with
                  | belowLevel => exact ⟨_, rfl⟩
                  | unsigned => exact ⟨_, rfl⟩
                  | unbalanced signature => exact ⟨_, rfl⟩
                  | emitted signature =>
                      dsimp only
                      split
                      case isTrue => exact ⟨drops, inside⟩
                      case isFalse => exact ⟨[], rfl⟩

/-- Declarations that fit are rendered. -/
theorem forestDropsWithin_of_allFit {room : Nat}
    (fit : allFit room forest = true) :
    forestDropsWithin options room forest =
      .ok (renderForest options forest).drops := by
  obtain ⟨drops, found⟩ := exists_forestDropsWithin_of
    (fun declaration _ => exists_dropsWithin options declaration) fit
  rw [found, forestDropsWithin_eq_ok found]

end Render

end SwiftInterface
