import SwiftInterface.Render.Tree

/-!
# Rendering as far as there is room

Rendering goes down from a source file, and from a container that is printed,
to the declarations nested in it.  When these nest too deeply the rendering
ends there, and nothing is left of it but the messages about what was dropped
before.
-/

namespace SwiftInterface

namespace Render

mutual

/-- The drops met while a declaration is rendered.  If it nests too deeply,
these are the drops before that is noticed. -/
def dropsWithin (options : Options) :
    Nat → Declaration → Except (List Drop) (List Drop)
  | 0, _ => .error []
  | room + 1, ⟨none, _, _, _, _, children⟩ =>
      forestDropsWithin options room children
  | room + 1, ⟨some kind, name, accessibility, _, signature, children⟩ =>
      if Declaration.isEnumCaseKind (some kind) then .ok []
      else
        match verdict options accessibility signature with
        | .belowLevel => .ok []
        | .unsigned => .ok [.unsigned kind name]
        | .unbalanced signature => .ok [.unbalanced signature]
        | .emitted _ =>
            if !children.isEmpty && Declaration.isContainerKind (some kind) then
              forestDropsWithin options room children
            else .ok []
termination_by structural _ declaration => declaration

/-- The drops met while sibling declarations are rendered, in order. -/
def forestDropsWithin (options : Options) :
    Nat → Forest → Except (List Drop) (List Drop)
  | _, [] => .ok []
  | room, declaration :: rest =>
      match dropsWithin options room declaration with
      | .error drops => .error drops
      | .ok drops =>
          match forestDropsWithin options room rest with
          | .error others => .error (drops ++ others)
          | .ok others => .ok (drops ++ others)
termination_by structural _ forest => forest

end

end Render

end SwiftInterface
