import SwiftInterface.Text.Printable

/-!
# Quoted texts

A quoted text stands between single quotes, or between double quotes if it
holds single quotes and no double ones.  The quote, the backslash and what is
not printable are escaped.
-/

namespace SwiftInterface

namespace Text

/-- The lower-case hexadecimal digits of a number, padded with zeros. -/
def hexDigits (width number : Nat) : List Char :=
  let digits := Nat.toDigits 16 number
  List.replicate (width - digits.length) '0' ++ digits

/-- The quote around a text with the given characters. -/
def quoteFor (chars : List Char) : Char :=
  if chars.contains '\'' && !chars.contains '"' then '"' else '\''

/-- The escape of a code point: two, four or eight hexadecimal digits. -/
def escapeCode (code : Nat) : List Char :=
  if code < 0x100 then '\\' :: 'x' :: hexDigits 2 code
  else if code < 0x10000 then '\\' :: 'u' :: hexDigits 4 code
  else '\\' :: 'U' :: hexDigits 8 code

/-- One character inside quotes. -/
def quoteChar (quote char : Char) : List Char :=
  if char == quote || char == '\\' then ['\\', char]
  else if char == '\n' then ['\\', 'n']
  else if char == '\r' then ['\\', 'r']
  else if char == '\t' then ['\\', 't']
  else if isPrintable char then [char]
  else escapeCode char.toNat

/-- A text between quotes. -/
def quoted (text : String) : String :=
  let chars := text.toList
  let quote := quoteFor chars
  String.ofList (quote :: chars.flatMap (quoteChar quote) ++ [quote])

/-- Bytes between quotes; those outside the printable ASCII range are
escaped. -/
def quotedBytes (bytes : List UInt8) : String :=
  let chars := bytes.map fun byte => Char.ofNat byte.toNat
  let quote := quoteFor chars
  let body := chars.flatMap fun char =>
    if char.toNat < 0x7f then quoteChar quote char
    else escapeCode char.toNat
  String.ofList ('b' :: quote :: body ++ [quote])

end Text

end SwiftInterface
