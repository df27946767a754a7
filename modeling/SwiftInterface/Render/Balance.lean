/-!
# Bracket balance

A text is balanced when each of its brackets is closed by a bracket of the
same shape in the right order.  Other characters do not matter.
-/

namespace SwiftInterface

namespace Render

/-- The opening bracket that a closing bracket needs. -/
def openerOf? : Char → Option Char
  | ')' => some '('
  | ']' => some '['
  | '\x7d' => some '\x7b'
  | _ => none

/-- Whether a character is an opening bracket. -/
def isOpener (char : Char) : Bool :=
  char == '(' || char == '[' || char == '\x7b'

/-- Whether the brackets of a text close the brackets in `pending`, innermost
first, and all of their own. -/
def closes (pending : List Char) : List Char → Bool
  | [] => pending.isEmpty
  | char :: rest =>
      if isOpener char then closes (char :: pending) rest
      else
        match openerOf? char with
        | none => closes pending rest
        | some opener =>
            match pending with
            | [] => false
            | innermost :: outer => innermost == opener && closes outer rest

/-- Whether every bracket of a text is closed in the right order. -/
def isBalanced (text : String) : Bool :=
  closes [] text.toList

end Render

end SwiftInterface
