import SwiftInterface.Value.Basic

/-!
# The order of sets

A set of numbers is listed in the order of a table.  Every number has a first
choice among the slots of the table, given by its residue modulo a prime, and
takes the first free slot on a fixed path from there.  Other sets are listed
in the order in which they were written.
-/

namespace SwiftInterface

namespace Value

/-- The prime whose residues choose the slots of numbers. -/
def slotPrime : Nat :=
  Nat.pow 2 61 - 1

/-- The residue of an infinite number. -/
def infiniteResidue : Nat :=
  314159

/-- A residue with its sign; minus one is not used. -/
def signedResidue (negative : Bool) (magnitude : Nat) : Int :=
  let residue := Number.signed negative (magnitude % slotPrime)
  if residue = -1 then -2 else residue

/-- The residue of a number.  Equal numbers of different types have the same
residue; multiplying by two to the power of 61 changes no residue. -/
def residue? : Value → Option Int
  | bool flag => some (flagNumber flag)
  | int number => some (signedResidue (decide (number < 0)) number.natAbs)
  | float .nan _ => none
  | float (.infinite negative) _ =>
      some (Number.signed negative infiniteResidue)
  | float (.finite negative mantissa exponent) _ =>
      some (signedResidue negative
        (mantissa * Nat.pow 2 (exponent.emod 61).toNat))
  | _ => none

/-- The number of slots for some members: the least power of two above twice
their number, and at least eight. -/
def slotCount (members : Nat) : Nat :=
  if members < 5 then 8 else Nat.pow 2 ((2 * members).log2 + 1)

/-- A residue as a word of 64 bits. -/
def wordOf (residue : Int) : Nat :=
  (residue.emod (Nat.pow 2 64 : Nat)).toNat

/-- The number of slots that are tried after a slot, before another part of
the table is tried. -/
def neighbours (slots slot : Nat) : Nat :=
  if slot + 9 < slots then 9 else 0

/-- The first free slot on the path that starts at a slot.  The remaining
bits of the residue choose the parts of the table that are tried. -/
def freeSlot (table : Array (Option Value)) : Nat → Nat → Nat → Nat
  | 0, slot, _ => slot
  | fuel + 1, slot, bits =>
      let near := (List.range (neighbours table.size slot + 1)).map (slot + ·)
      match near.find? fun place => table[place]? == some none with
      | some place => place
      | none =>
          let fewer := bits / 32
          freeSlot table fuel ((slot * 5 + 1 + fewer) % table.size) fewer

/-- Put members into a table, each with its residue. -/
def fillTable (members : List (Value × Int)) : Array (Option Value) :=
  members.foldl
    (fun table (member, residue) =>
      let word := wordOf residue
      table.setIfInBounds
        (freeSlot table (table.size + 64) (word % table.size) word)
        (some member))
    (Array.replicate (slotCount members.length) none)

/-- The members of a set in the order in which they are listed. -/
def listed (members : List Value) : List Value :=
  match members.mapM fun member =>
      (residue? member).map fun residue => (member, residue) with
  | some numbers => (fillTable numbers).toList.filterMap id
  | none => members

end Value

end SwiftInterface
