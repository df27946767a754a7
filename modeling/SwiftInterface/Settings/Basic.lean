import SwiftInterface.Failure
import SwiftInterface.Text.Blank
import SwiftInterface.Value.Basic

/-!
# Settings

The settings of the tool and how single values of a settings file are
accepted for them.  Every setting is accepted on its own; the acceptance of a
file is the acceptance of its entries.
-/

namespace SwiftInterface

/-- The settings of one run. -/
structure Settings where
  outputFolder : String := "Documentation"
  /-- The name of the least access level to keep. -/
  minimumLevel : String := "public"
  skipUnbalanced : Bool := false
  indexerPath : String := "sourcekitten"
  formatterPath : String := "swiftformat"
  formatterArguments : List String := []
  /-- The time that the external programs may take, in seconds. -/
  timeout : Int := 600
deriving DecidableEq, Repr, Inhabited

/-- One setting with a value that was accepted. -/
inductive Setting where
  | outputFolder (folder : String)
  | minimumLevel (name : String)
  | skipUnbalanced (flag : Bool)
  | indexerPath (path : String)
  | formatterPath (path : String)
  | formatterArguments (arguments : List String)
  | timeout (seconds : Int)
deriving DecidableEq, Repr, Inhabited

namespace Setting

/-- Put a setting in place of the old one. -/
def apply (settings : Settings) : Setting → Settings
  | outputFolder folder => { settings with outputFolder := folder }
  | minimumLevel name => { settings with minimumLevel := name }
  | skipUnbalanced flag => { settings with skipUnbalanced := flag }
  | indexerPath path => { settings with indexerPath := path }
  | formatterPath path => { settings with formatterPath := path }
  | formatterArguments arguments =>
      { settings with formatterArguments := arguments }
  | timeout seconds => { settings with timeout := seconds }

/-- The names of the settings. -/
inductive Name where
  | outputFolder
  | minimumLevel
  | skipUnbalanced
  | indexerPath
  | formatterPath
  | formatterArguments
  | timeout
deriving DecidableEq, Repr, Inhabited

namespace Name

/-- A name as it is written in settings files. -/
def label : Name → String
  | outputFolder => "output_folder"
  | minimumLevel => "min_acl"
  | skipUnbalanced => "skip_unbalanced"
  | indexerPath => "sourcekitten_path"
  | formatterPath => "swiftformat_path"
  | formatterArguments => "swiftformat_args"
  | timeout => "timeout_s"

/-- All names. -/
def all : List Name :=
  [ outputFolder, minimumLevel, skipUnbalanced, indexerPath, formatterPath,
    formatterArguments, timeout ]

/-- The name that is written in a certain way. -/
def ofLabel? (label : String) : Option Name :=
  all.find? fun name => name.label == label

end Name

/-! ## Accepting values -/

/-- The words that mean yes. -/
def trueWords : List String :=
  ["1", "true", "yes", "on"]

/-- The words that mean no. -/
def falseWords : List String :=
  ["0", "false", "no", "off"]

/-- A word as it is compared: trimmed and in lower case.  The words above are
spelled in basic letters, and no other character has one of their letters as
its lower-case form. -/
def comparedWord (text : String) : String :=
  String.ofList ((Text.trimBy Text.isBlank text.toList).map Char.toLower)

/-- The fault that an obstacle to showing a value ends in. -/
def faultOf : Obstacle → Fault
  | .longInteger => .unwritableInteger
  | .tooDeep => .tooDeep .showingValue

/-- The text of a value for a message. -/
def describe (collections : Collections) (value : Value) :
    Except Failure String :=
  match collections.describe value with
  | .ok text => .ok text
  | .error obstacle => .error (.fault (faultOf obstacle))

/-- Reject a value with a message that shows it. -/
def reject {α : Type} (collections : Collections)
    (cause : String → SettingsFailure) (value : Value) : Except Failure α := do
  let text ← describe collections value
  throw (.settings (cause text))

/-- Accept a flag: a flag value, or a text or integer that is one of the words
for yes and no. -/
def acceptFlag (collections : Collections) (name : Name) (value : Value) :
    Except Failure Bool :=
  match value with
  | .bool flag => .ok flag
  | .text text => ofWord (comparedWord text)
  | .int number =>
      if number = 1 then .ok true
      else if number = 0 then .ok false
      else reject collections (.notFlag name.label) value
  | _ => reject collections (.notFlag name.label) value
where
  /-- The flag that a word stands for. -/
  ofWord (word : String) : Except Failure Bool :=
    if trueWords.contains word then .ok true
    else if falseWords.contains word then .ok false
    else reject collections (.notFlag name.label) value

/-- Accept a text and trim it. -/
def acceptText (collections : Collections) (name : Name) :
    Value → Except Failure String
  | .text text => .ok (Text.trim text)
  | value => reject collections (.notText name.label) value

/-- Accept texts in a list. -/
def acceptArgumentList (collections : Collections) (name : Name) :
    List Value → Except Failure (List String)
  | [] => .ok []
  | .text text :: rest => do
      let others ← acceptArgumentList collections name rest
      return text :: others
  | value :: _ => reject collections (.notArgument name.label) value

/-- Accept arguments: a list of texts, or a text that is split into words. -/
def acceptArguments (collections : Collections) (name : Name) (value : Value) :
    Except Failure (List String) :=
  match value with
  | .text text => .ok (Text.words text)
  | _ =>
      match collections.items? value with
      | some items => acceptArgumentList collections name items
      | none => .error (.settings (.notArgumentList name.label))

/-- The characters that bytes stand for where a number is read; a byte
outside ASCII is never part of a number. -/
def numberChars (bytes : List UInt8) : List Char :=
  bytes.map fun byte =>
    if byte.toNat < 127 then Char.ofNat byte.toNat else '?'

/-- The integer that a value stands for: an integer, the integer part of a
number, or a text or bytes that spell an integer. -/
def integerOf? : Value → Except Fault (Option Int)
  | .int number => .ok (some number)
  | .float (.infinite _) _ => .error .infiniteNumber
  | .float number _ => .ok number.truncate?
  | .text text => .ok (Number.readDecimal text).toOption
  | .bytes bytes => .ok (Number.readInteger 10 (numberChars bytes)).toOption
  | _ => .ok none

/-- Accept a time in whole seconds, which must be positive. -/
def acceptTimeout (name : Name) (value : Value) : Except Failure Int :=
  match integerOf? value with
  | .error fault => .error (.fault fault)
  | .ok none => .error (.settings (.notTimeout name.label))
  | .ok (some seconds) =>
      if 0 < seconds then .ok seconds
      else .error (.settings (.notTimeout name.label))

/-- Accept a value for the setting with the given name. -/
def accept (collections : Collections) (name : Name) (value : Value) :
    Except Failure Setting :=
  match name with
  | .outputFolder => (acceptText collections name value).map outputFolder
  | .minimumLevel => (acceptText collections name value).map minimumLevel
  | .skipUnbalanced => (acceptFlag collections name value).map skipUnbalanced
  | .indexerPath => (acceptText collections name value).map indexerPath
  | .formatterPath => (acceptText collections name value).map formatterPath
  | .formatterArguments =>
      (acceptArguments collections name value).map formatterArguments
  | .timeout => (acceptTimeout name value).map timeout

end Setting

end SwiftInterface
