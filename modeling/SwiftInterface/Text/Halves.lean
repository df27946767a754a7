import SwiftInterface.Text.Utf8

/-!
# Halves of pairs

An escape in JSON or YAML can name one half of a pair of code units without
the other.  Such a half is kept in a text although it is no character: it is
shown by its escape in messages, and a text that holds one cannot be written
as UTF-8.

A text here is made of characters, so a private character stands for each
half.  Which ones is a choice for each run, a block of the private planes that
its texts hold nowhere else.  Only documents bring halves in; paths, the names
of programs and their arguments are taken to hold none.
-/

namespace SwiftInterface

namespace Text

/-- The first code point of a half. -/
def firstHalf : Nat :=
  0xd800

/-- The number of halves. -/
def halfCount : Nat :=
  0x800

/-- The block of private characters that stand for halves. -/
structure Halves where
  /-- The code point of the first character of the block. -/
  first : Nat
  isPrivate : 0xf0000 ≤ first ∧ first + halfCount ≤ 0x110000
deriving DecidableEq, Repr

/-- The last block, if there is no other choice. -/
instance : Inhabited Halves where
  default := { first := 0x10f800, isPrivate := by decide }

/-- Why a text cannot be written as UTF-8: the place of the first halves in
it, the code point of the first of them and how many follow one another. -/
structure EncodeFault where
  position : Nat
  code : Nat
  count : Nat
deriving DecidableEq, Repr, Inhabited

/-- The wording of a fault. -/
def EncodeFault.message (fault : EncodeFault) : String :=
  let place :=
    if fault.count ≤ 1 then
      "character '" ++ String.ofList (escapeCode fault.code) ++
        "' in position " ++ toString fault.position
    else
      "characters in position " ++ toString fault.position ++ "-" ++
        toString (fault.position + fault.count - 1)
  "'utf-8' codec can't encode " ++ place ++ ": surrogates not allowed"

namespace Halves

/-- The character that stands for the half with a code point. -/
def standIn (halves : Halves) (code : Nat) : Char :=
  Char.ofNat (halves.first + (code - firstHalf))

/-- Whether a character stands for a half. -/
def isHalf (halves : Halves) (char : Char) : Bool :=
  halves.first ≤ char.toNat && char.toNat < halves.first + halfCount

/-- The code point that a character or the half in its place has. -/
def codeOf (halves : Halves) (char : Char) : Nat :=
  if halves.isHalf char then firstHalf + (char.toNat - halves.first)
  else char.toNat

/-- The code points of a text. -/
def codesOf (halves : Halves) (text : String) : List Nat :=
  text.toList.map halves.codeOf

/-- One character or half inside quotes. -/
def quoteChar (halves : Halves) (quote char : Char) : List Char :=
  if halves.isHalf char then escapeCode (halves.codeOf char)
  else Text.quoteChar quote char

/-- A text between quotes. -/
def quoted (halves : Halves) (text : String) : String :=
  let chars := text.toList
  let quote := quoteFor chars
  String.ofList (quote :: chars.flatMap (halves.quoteChar quote) ++ [quote])

/-- The first halves in a text, if it holds any. -/
def encodeFault? (halves : Halves) (text : String) : Option EncodeFault :=
  let before := text.toList.takeWhile fun char => !halves.isHalf char
  match text.toList.drop before.length with
  | [] => none
  | half :: rest =>
      some
        { position := before.length, code := halves.codeOf half,
          count := 1 + (rest.takeWhile halves.isHalf).length }

/-- Whether a text holds no half. -/
def areMissingIn (halves : Halves) (text : String) : Bool :=
  text.toList.all fun char => !halves.isHalf char

/-- Blocks of private characters without a character in common. -/
def blocks : List Halves :=
  (List.finRange 64).map fun index : Fin 64 =>
    { first := 0xf0000 + index.val * halfCount
      isPrivate := by
        have := index.isLt
        rw [halfCount]
        omega }

/-- A block that some texts hold nowhere, if there is one. -/
def avoiding (texts : List String) : Halves :=
  (blocks.find? fun halves => texts.all halves.areMissingIn).getD default

/-- The bytes that spell a text, or the halves that no bytes spell. -/
def encode (halves : Halves) (text : String) : Except EncodeFault ByteArray :=
  match halves.encodeFault? text with
  | none => .ok (encodeUtf8 text)
  | some fault => .error fault

end Halves

end Text

end SwiftInterface
