import SwiftInterface.Number.Double

/-!
# JSON values

Objects keep their members in the order of the text.  When a name is written
twice, the last value counts and stands where the name stood first.
-/

namespace SwiftInterface

/-- A JSON value. -/
inductive Json where
  | null
  | bool (flag : Bool)
  | int (number : Int)
  | float (number : Number.Double)
  | string (text : String)
  | array (items : List Json)
  | object (members : List (String × Json))
deriving Inhabited, Repr

namespace Json

/-- The members of an object; other values have none. -/
def members : Json → List (String × Json)
  | object members => members
  | _ => []

/-- The value of the first member with the given name. -/
def find? (name : String) (members : List (String × Json)) : Option Json :=
  members.lookup name

/-- Whether a member with the given name exists. -/
def hasMember (name : String) (members : List (String × Json)) : Bool :=
  members.any fun member => member.1 == name

/-- Add a member, or replace the value of the member with its name. -/
def insertMember (name : String) (value : Json) :
    List (String × Json) → List (String × Json)
  | [] => [(name, value)]
  | member :: rest =>
      if member.1 == name then (name, value) :: rest
      else member :: insertMember name value rest

/-- The members that remain of a list of members with repeated names. -/
def unifyMembers (members : List (String × Json)) : List (String × Json) :=
  members.foldl (fun kept member => insertMember member.1 member.2 kept) []

/-- The text of a string value. -/
def text? : Json → Option String
  | string text => some text
  | _ => none

/-- The name of a value's type in messages. -/
def typeName : Json → String
  | null => "NoneType"
  | bool _ => "bool"
  | int _ => "int"
  | float _ => "float"
  | string _ => "str"
  | array _ => "list"
  | object _ => "dict"

end Json

end SwiftInterface
