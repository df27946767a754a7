import SwiftInterface.Files.Path
import SwiftInterface.Text.Digit
import SwiftInterface.Text.Quoted

/-!
# Arguments of a command line

A command line is a list of texts.  Options start with a dash and may be
shortened as long as they stay unambiguous; a value follows an option or is
joined to it by an equals sign, and flags with one letter may be written
together.  After a lone double dash nothing is an option any more.  What is
neither an option nor the value of one is a positional argument, and
positional arguments are taken by the first run of them only.

The arguments are first classified one by one and then consumed from left to
right.  What is joined to an option is read as in the releases 3.11.0 to 3.11.8
of the reference runtime; 3.11.10 reads `-v=c`, `-vx` and `--output-folder=--`
in another way.
-/

namespace SwiftInterface

namespace CommandLine

/-- An option of a command. -/
structure OptionSpec where
  /-- The ways to write it, the long one last. -/
  names : List String
  /-- Whether a value must follow. -/
  takesValue : Bool := false
  /-- Whether it asks for help and ends the command line. -/
  asksHelp : Bool := false
deriving DecidableEq, Repr, Inhabited

/-- What positional arguments a command takes. -/
inductive Positional where
  | nothing
  /-- Exactly one argument. -/
  | single (name : String)
  /-- Any number of arguments. -/
  | many
  /-- A subcommand followed by all other arguments. -/
  | subcommand
deriving DecidableEq, Repr, Inhabited

/-- What a command accepts. -/
structure Grammar where
  options : List OptionSpec
  positional : Positional
deriving Inhabited

/-- Why a command line is rejected. -/
inductive UsageError where
  | ambiguous (text : String) (candidates : List String)
  | ignoredValue (option : OptionSpec) (value : String)
  | expectedValue (option : OptionSpec)
  | required (name : String)
  | unrecognized (arguments : List String)
  | invalidChoice (choice : String) (choices : List String)
deriving DecidableEq, Repr, Inhabited

/-- The name of an option in messages. -/
def OptionSpec.display (option : OptionSpec) : String :=
  "/".intercalate option.names

/-- The wording of a usage error. -/
def UsageError.message : UsageError → String
  | ambiguous text candidates =>
      "ambiguous option: " ++ text ++ " could match " ++
        ", ".intercalate candidates
  | ignoredValue option value =>
      "argument " ++ option.display ++ ": ignored explicit argument " ++
        Text.quoted value
  | expectedValue option =>
      "argument " ++ option.display ++ ": expected one argument"
  | required name => "the following arguments are required: " ++ name
  | unrecognized arguments =>
      "unrecognized arguments: " ++ " ".intercalate arguments
  | invalidChoice choice choices =>
      "argument command: invalid choice: " ++ Text.quoted choice ++
        " (choose from " ++
        ", ".intercalate (choices.map Text.quoted) ++ ")"

/-! ## Classifying arguments -/

/-- What an argument looks like on its own. -/
inductive Shape where
  /-- An option, with the way it is written and a value joined to it. -/
  | option (option : OptionSpec) (name : String) (joined : Option String)
  /-- Something that looks like an option but is none. -/
  | unknownOption
  /-- The double dash. -/
  | separator
  | argument
deriving DecidableEq, Repr, Inhabited

namespace Shape

/-- Whether an argument is consumed as an option. -/
def isOption : Shape → Bool
  | option _ _ _ => true
  | unknownOption => true
  | _ => false

end Shape

/-- An argument with its shape. -/
abbrev Shaped := String × Shape

namespace Grammar

/-- The ways to write options, each with its option, in order. -/
def spellings (grammar : Grammar) : List (String × OptionSpec) :=
  grammar.options.flatMap fun option =>
    option.names.map fun name => (name, option)

/-- The option that is written in exactly this way. -/
def spelled? (grammar : Grammar) (name : String) : Option OptionSpec :=
  grammar.spellings.lookup name

end Grammar

/-- Split a text at its first equals sign. -/
def splitEquals (text : String) : Option (String × String) :=
  let chars := text.toList
  if chars.contains '=' then
    some (String.ofList (chars.takeWhile (· ≠ '=')),
      String.ofList ((chars.dropWhile (· ≠ '=')).drop 1))
  else none

/-- Whether a text starts with another. -/
def startsWith (front text : String) : Bool :=
  front.toList.isPrefixOf text.toList

/-- The options that a text may be short for. -/
def candidates (grammar : Grammar) (text : String) :
    List (OptionSpec × String × Option String) :=
  if startsWith "--" text then
    let (front, joined) :=
      match splitEquals text with
      | some (front, value) => (front, some value)
      | none => (text, none)
    grammar.spellings.filterMap fun (name, option) =>
      if startsWith front name then some (option, name, joined) else none
  else
    let short := String.ofList (text.toList.take 2)
    let tail := String.ofList (text.toList.drop 2)
    grammar.spellings.filterMap fun (name, option) =>
      if name = short then some (option, name, some tail)
      else if startsWith text name then some (option, name, none)
      else none

/-- Whether characters are digits and at least one, perhaps with a line feed
after them. -/
def areDigits (chars : List Char) : Bool :=
  let isDigit (char : Char) : Bool := (Text.digitValue? char).isSome
  let digits := chars.takeWhile isDigit
  let after := chars.dropWhile isDigit
  !digits.isEmpty && (after.isEmpty || after == ['\n'])

/-- Whether a text is a negative number without exponent, perhaps with a line
feed after it. -/
def isNegativeNumber (text : String) : Bool :=
  match text.toList with
  | '-' :: chars =>
      areDigits chars ||
        (match chars.dropWhile fun char => (Text.digitValue? char).isSome with
          | '.' :: digits => areDigits digits
          | _ => false)
  | _ => false

/-- The shape of an argument in front of the double dash. -/
def shapeOf (grammar : Grammar) (text : String) : Except UsageError Shape :=
  if text.toList.head? ≠ some '-' then .ok .argument
  else
    match grammar.spelled? text with
    | some option => .ok (.option option text none)
    | none =>
        if text = "-" then .ok .argument
        else
          match (splitEquals text).bind fun (name, value) =>
              (grammar.spelled? name).map fun option => (option, name, value) with
          | some (option, name, value) => .ok (.option option name (some value))
          | none =>
              match candidates grammar text with
              | [(option, name, joined)] => .ok (.option option name joined)
              | [] =>
                  if isNegativeNumber text || text.toList.contains ' ' then
                    .ok .argument
                  else .ok .unknownOption
              | several =>
                  .error (.ambiguous text (several.map fun found => found.2.1))

/-- The arguments with their shapes. -/
def classify (grammar : Grammar) :
    List String → Except UsageError (List Shaped)
  | [] => .ok []
  | text :: rest =>
      if text = "--" then
        .ok ((text, .separator) :: rest.map fun other => (other, .argument))
      else do
        let shape ← shapeOf grammar text
        let others ← classify grammar rest
        return (text, shape) :: others

/-! ## Consuming arguments -/

/-- What was found on a command line. -/
structure Found where
  /-- The options with their values, in order.  A flag has no value, and
  neither has an option whose value was dropped. -/
  options : List (OptionSpec × Option String) := []
  /-- The positional arguments, once they were taken. -/
  positionals : Option (List String) := none
  /-- The arguments that nobody takes. -/
  extras : List String := []
deriving Inhabited

/-- Why the reading of a command line ends early. -/
inductive Stop where
  | help
  | usage (error : UsageError)
deriving DecidableEq, Repr, Inhabited

namespace Found

/-- Note an option; a request for help ends the reading. -/
def take (found : Found) (option : OptionSpec) (value : Option String) :
    Except Stop Found :=
  if option.asksHelp then .error .help
  else .ok { found with options := found.options ++ [(option, value)] }

/-- Note options in order. -/
def takeAll (found : Found) :
    List (OptionSpec × Option String) → Except Stop Found
  | [] => .ok found
  | (option, value) :: rest => do
      let next ← found.take option value
      next.takeAll rest

/-- The last value given to the option with the given long name. -/
def value? (found : Found) (name : String) : Option String :=
  (found.options.reverse.find? fun entry =>
    entry.1.names.contains name).bind Prod.snd

/-- Whether the option with the given long name occurs. -/
def has (found : Found) (name : String) : Bool :=
  found.options.any fun entry => entry.1.names.contains name

/-- The folder that the option with the given long name asks for, if it
occurs. -/
def folder? (found : Found) (name : String) : Option Files.Folder :=
  match found.value? name with
  | some path => some (.named path)
  | none => if found.has name then some .nameless else none

end Found

/-- The value that is joined to an option.  In the releases 3.11.0 to 3.11.8 a
double dash is dropped here as well, as everywhere where it comes first. -/
def joinedValue (joined : String) : Option String :=
  if joined = "--" then none else some joined

/-- The flags that a joined text stands for, the last one perhaps with a
value, as the releases 3.11.0 to 3.11.8 take them apart.  Fuel is the length
of the text. -/
def joinedOptions (grammar : Grammar) :
    Nat → OptionSpec → String → String →
      Except UsageError (List (OptionSpec × Option String))
  | 0, option, _, joined => .error (.ignoredValue option joined)
  | fuel + 1, option, name, joined =>
      if option.takesValue then .ok [(option, joinedValue joined)]
      else if startsWith "--" name then .error (.ignoredValue option joined)
      else
        match joined.toList with
        | [] => .error (.ignoredValue option joined)
        | letter :: rest =>
            let next := String.ofList ['-', letter]
            match grammar.spelled? next with
            | none => .error (.ignoredValue option joined)
            | some other =>
                if rest.isEmpty then
                  if other.takesValue then .error (.expectedValue other)
                  else .ok [(option, none), (other, none)]
                else do
                  let others ← joinedOptions grammar fuel other next
                    (String.ofList rest)
                  return (option, none) :: others

/-- How many arguments the positional part takes of a rest of the command
line, if it can take any. -/
def positionalCount? : Positional → List Shaped → Option Nat
  | .nothing, _ => none
  | .single _, items =>
      let dashes := (items.takeWhile fun item => item.2 == .separator).length
      match items.drop dashes with
      | (_, .argument) :: rest =>
          some (dashes + 1 +
            (rest.takeWhile fun item => item.2 == .separator).length)
      | _ => none
  | .many, items =>
      some (items.takeWhile fun item => !item.2.isOption).length
  | .subcommand, items =>
      let dashes := (items.takeWhile fun item => item.2 == .separator).length
      match items.drop dashes with
      | (_, .argument) :: _ => some items.length
      | _ => none

/-- The positional arguments without the double dash; a subcommand keeps
it. -/
def positionalValues : Positional → List String → List String
  | .subcommand, texts => texts
  | _, texts => texts.erase "--"

/-- Take positional arguments if they were not taken before.  The result is
what was found and what is left. -/
def takePositionals (grammar : Grammar) (found : Found)
    (items : List Shaped) : Found × List Shaped :=
  if found.positionals.isSome then (found, items)
  else
    match positionalCount? grammar.positional items with
    | none => (found, items)
    | some count =>
        let texts := (items.take count).map Prod.fst
        ({ found with
            positionals := some (positionalValues grammar.positional texts) },
          items.drop count)

/-- Take the option at the front. -/
def takeOption (grammar : Grammar) (found : Found) (text : String)
    (shape : Shape) (rest : List Shaped) :
    Except Stop (Found × List Shaped) :=
  match shape with
  | .option option name (some joined) =>
      match joinedOptions grammar (joined.length + 1) option name joined with
      | .error error => .error (.usage error)
      | .ok options => (found.takeAll options).map fun next => (next, rest)
  | .option option _ none =>
      if option.takesValue then
        match rest with
        | (value, .argument) :: after =>
            (found.take option (some value)).map fun next => (next, after)
        | _ => .error (.usage (.expectedValue option))
      else (found.take option none).map fun next => (next, rest)
  | _ => .ok ({ found with extras := found.extras ++ [text] }, rest)

/-- Consume the arguments from left to right.  Every round takes at least one
argument, so their number is enough fuel. -/
def consume (grammar : Grammar) :
    Nat → Found → List Shaped → Except Stop Found
  | 0, found, _ => .ok found
  | fuel + 1, found, items =>
      if items.any fun item => item.2.isOption then
        let front := items.takeWhile fun item => !item.2.isOption
        let (taken, left) :=
          if front.isEmpty then (found, items)
          else takePositionals grammar found items
        if left.length < items.length then consume grammar fuel taken left
        else
          let skipped :=
            { taken with extras := taken.extras ++ front.map Prod.fst }
          match items.drop front.length with
          | [] => .ok skipped
          | (text, shape) :: rest => do
              let (next, after) ← takeOption grammar skipped text shape rest
              consume grammar fuel next after
      else
        let (taken, left) := takePositionals grammar found items
        .ok { taken with extras := taken.extras ++ left.map Prod.fst }

/-- Fail if a single positional argument is missing. -/
def requirePositional (grammar : Grammar) (found : Found) :
    Except Stop Found :=
  match grammar.positional, found.positionals with
  | .single name, none => .error (.usage (.required name))
  | _, _ => .ok found

/-- Read a command line. -/
def read (grammar : Grammar) (arguments : List String) : Except Stop Found :=
  match classify grammar arguments with
  | .error error => .error (.usage error)
  | .ok items => do
      let found ← consume grammar (items.length + 1) {} items
      requirePositional grammar found

end CommandLine

end SwiftInterface
