import SwiftInterface.Files.Tree
import SwiftInterface.Json.Reader
import SwiftInterface.Text.Utf8

/-!
# Failures

Every way in which a run can fail, as a cause with the facts that its message
tells.  The first four groups are reported to the user as they are; a fault
is a problem of the surroundings that no part of the program foresees.
-/

namespace SwiftInterface

/-- Why no declarations could be produced. -/
inductive ProducerFailure where
  | inputFolderMissing (folder : String)
  | executableMissing (executable : String)
  | toolFailed (subject : String) (status : Int) (detail : String)
  | toolTimedOut (seconds : Int) (subject : String)
  | invalidOutput (subject problem : String)
  | noDeclarations (subject : String)
  | unexpectedPayload (typeName : String)
  | dumpMissing (path : String)
  | dumpUnreadable (path : String) (error : Files.Error)
  | invalidDump (path problem : String)
  | emptyForest (moduleName : String)
deriving DecidableEq, Repr, Inhabited

namespace ProducerFailure

/-- The wording of a failure to produce declarations. -/
def message : ProducerFailure → String
  | inputFolderMissing folder => "Input folder not found: " ++ folder
  | executableMissing executable =>
      "sourcekitten executable not found: " ++ executable
  | toolFailed subject status detail =>
      "Failed to generate documentation for " ++ subject ++ " (exit=" ++
        toString status ++ "): " ++ detail
  | toolTimedOut seconds subject =>
      "sourcekitten timed out after " ++ toString seconds ++ "s for " ++
        subject
  | invalidOutput subject problem =>
      "SourceKitten returned invalid JSON for " ++ subject ++ ": " ++ problem
  | noDeclarations subject =>
      "Unable to parse " ++ subject ++ ": no declarations"
  | unexpectedPayload typeName =>
      "Unexpected SourceKitten payload type: " ++ typeName
  | dumpMissing path => "SourceKitten JSON not found: " ++ path
  | dumpUnreadable path error =>
      "Error reading SourceKitten JSON " ++ path ++ ": " ++ error.message
  | invalidDump path problem =>
      "Invalid SourceKitten JSON in " ++ path ++ ": " ++ problem
  | emptyForest moduleName => "Unable to parse module named " ++ moduleName

end ProducerFailure

/-- Why an interface text could not be formatted. -/
inductive FormatFailure where
  | executableMissing (executable : String)
  | toolFailed (status : Int) (detail : String)
  | toolTimedOut (seconds : Int)
deriving DecidableEq, Repr, Inhabited

namespace FormatFailure

/-- The wording of a failure to format. -/
def message : FormatFailure → String
  | executableMissing executable =>
      "swiftformat executable not found: " ++ executable
  | toolFailed status detail =>
      "swiftformat failed (exit=" ++ toString status ++ "): " ++ detail
  | toolTimedOut seconds =>
      "swiftformat timed out after " ++ toString seconds ++ "s"

end FormatFailure

/-- Why an interface file or its folder could not be changed. -/
inductive OutputFailure where
  | folderRefused (folder : String) (error : Files.Error)
  | writeRefused (path : String) (error : Files.Error)
  | removalRefused (path : String) (error : Files.Error)
deriving DecidableEq, Repr, Inhabited

namespace OutputFailure

/-- The wording of a failure to change a file or folder. -/
def message : OutputFailure → String
  | folderRefused folder error =>
      "Cannot create output folder " ++ folder ++ ": " ++ error.message
  | writeRefused path error =>
      "Cannot write " ++ path ++ ": " ++ error.message
  | removalRefused path error =>
      "Cannot remove " ++ path ++ ": " ++ error.message

end OutputFailure

/-- Why a settings file was rejected. -/
inductive SettingsFailure where
  | fileMissing (path : String)
  | unparsable (path problem : String)
  | notMapping (typeName : String)
  | namesNotText (names : List String)
  | unknownNames (names : List String)
  | notFlag (name value : String)
  | notText (name value : String)
  | notArgumentList (name : String)
  | notArgument (name value : String)
  | notTimeout (name : String)
  | emptyText (name : String)
deriving DecidableEq, Repr, Inhabited

namespace SettingsFailure

/-- The wording of a rejection. -/
def message : SettingsFailure → String
  | fileMissing path => "Settings file not found: " ++ path
  | unparsable path problem =>
      "Failed to parse settings file " ++ path ++ ": " ++ problem
  | notMapping typeName =>
      "Settings file must contain a mapping, got " ++ typeName
  | namesNotText names =>
      "Setting names must be strings: " ++ ", ".intercalate names
  | unknownNames names => "Unknown settings: " ++ ", ".intercalate names
  | notFlag name value =>
      "'" ++ name ++ "' must be a boolean, got " ++ value
  | notText name value => "'" ++ name ++ "' must be a string, got " ++ value
  | notArgumentList name => "'" ++ name ++ "' must be a list of strings"
  | notArgument name value =>
      "'" ++ name ++ "' must be a list of strings, got " ++ value
  | notTimeout name => "'" ++ name ++ "' must be a positive integer"
  | emptyText name => "'" ++ name ++ "' must not be empty"

end SettingsFailure

/-- What is wrong with the numbers of a date or time. -/
inductive CalendarFault where
  | year (number : Nat)
  | month
  | day
  | hour
  | minute
  | second
  | offset (span : String)
deriving DecidableEq, Repr, Inhabited

namespace CalendarFault

/-- The wording of a calendar fault. -/
def message : CalendarFault → String
  | year number => "year " ++ toString number ++ " is out of range"
  | month => "month must be in 1..12"
  | day => "day is out of range for month"
  | hour => "hour must be in 0..23"
  | minute => "minute must be in 0..59"
  | second => "second must be in 0..59"
  | offset span =>
      "offset must be a timedelta strictly between -timedelta(hours=24) " ++
        "and timedelta(hours=24), not " ++ span ++ "."

end CalendarFault

/-- What can go wrong with a program beside that it is missing, may not be
run, fails or does not end in time. -/
inductive Tool.Trouble where
  /-- The system refuses to start it. -/
  | refused (number : Nat) (wording : String)
  /-- An argument holds a null character. -/
  | nullCharacter
  /-- An argument is no text that can be handed over. -/
  | unencodableArgument (fault : Text.EncodeFault)
  /-- The clock cannot measure the time that it may take. -/
  | endlessTime (wording : String)
  /-- What it writes is not UTF-8. -/
  | undecodableOutput (fault : Text.Utf8Fault)
deriving DecidableEq, Repr, Inhabited

namespace Tool.Trouble

/-- Whether the program was started. -/
def afterStart : Trouble → Bool
  | endlessTime _ => true
  | undecodableOutput _ => true
  | _ => false

/-- The wording of a trouble with a program. -/
def message (executable : String) : Trouble → String
  | refused number wording =>
      "[Errno " ++ toString number ++ "] " ++ wording ++ ": " ++
        Text.quoted executable
  | nullCharacter => "embedded null byte"
  | unencodableArgument fault => fault.message
  | endlessTime wording => wording
  | undecodableOutput fault => fault.message

end Tool.Trouble

/-- A problem of the surroundings that no part of the program foresees. -/
inductive Fault where
  /-- An operation on a file or program was refused. -/
  | refused (error : Files.Error)
  /-- A program could not be run. -/
  | program (executable : String) (trouble : Tool.Trouble)
  /-- Something nests more deeply than can be followed. -/
  | tooDeep (descent : Descent)
  /-- A text holds halves, which cannot be written. -/
  | unencodable (fault : Text.EncodeFault)
  /-- An output folder has no name. -/
  | namelessOutput
  /-- An input folder has no name. -/
  | namelessInput
  /-- A file is not UTF-8. -/
  | undecodable (fault : Text.Utf8Fault)
  /-- An integer has more digits than can be read. -/
  | unreadableInteger (digits : Nat)
  /-- An integer has more digits than can be written. -/
  | unwritableInteger
  /-- An infinite number has no integer part. -/
  | infiniteNumber
  /-- A date or time does not exist. -/
  | calendar (fault : CalendarFault)
  /-- An integer is too large for the floating-point format. -/
  | integerTooLarge
  /-- A text marked as an integer is none. -/
  | notInteger (base : Nat) (text : String)
  /-- A text marked as a floating-point number is none. -/
  | notFloat (text : String)
  /-- A text marked as a number is empty. -/
  | emptyNumber
  /-- A text marked as a flag is none. -/
  | notFlag (text : String)
  /-- A text marked as a time is none. -/
  | notTime
  /-- A collection is marked as a time. -/
  | timeOfCollection
  /-- An escape names a code point that does not exist. -/
  | codePointTooLarge
  /-- An escape names a code point beyond all machine integers. -/
  | codePointOverflow
deriving DecidableEq, Repr, Inhabited

namespace Fault

/-- The number of characters that are shown of a quoted text that is no
integer. -/
def quotedLimit : Nat :=
  200

/-- The wording of a fault. -/
def message (halves : Text.Halves) : Fault → String
  | refused error => error.message
  | program executable trouble => trouble.message executable
  | tooDeep descent => descent.message
  | unencodable fault => fault.message
  | namelessOutput => "expected str, bytes or os.PathLike object, not list"
  | namelessInput =>
      "stat: path should be string, bytes, os.PathLike or integer, not list"
  | undecodable fault => fault.message
  | unreadableInteger digits => Json.digitLimitMessage digits
  | unwritableInteger =>
      "Exceeds the limit (" ++ toString Number.digitLimit ++
        " digits) for integer string conversion; " ++
        "use sys.set_int_max_str_digits() to increase the limit"
  | infiniteNumber => "cannot convert float infinity to integer"
  | integerTooLarge => "int too large to convert to float"
  | calendar fault => fault.message
  | notInteger base text =>
      "invalid literal for int() with base " ++ toString base ++ ": " ++
        String.ofList ((halves.quoted text).toList.take quotedLimit)
  | notFloat text =>
      "could not convert string to float: " ++ halves.quoted text
  | emptyNumber => "string index out of range"
  | notFlag text => halves.quoted text
  | notTime => "'NoneType' object has no attribute 'groupdict'"
  | timeOfCollection =>
      "expected string or bytes-like object, got 'list'"
  | codePointTooLarge => "chr() arg not in range(0x110000)"
  | codePointOverflow => "Python int too large to convert to C int"

end Fault

/-- A failed run. -/
inductive Failure where
  | producer (cause : ProducerFailure)
  | format (cause : FormatFailure)
  | output (cause : OutputFailure)
  | settings (cause : SettingsFailure)
  | fault (cause : Fault)
deriving DecidableEq, Repr, Inhabited

namespace Failure

/-- The wording of a failure. -/
def message (halves : Text.Halves) : Failure → String
  | producer cause => cause.message
  | format cause => cause.message
  | output cause => cause.message
  | settings cause => cause.message
  | fault cause => cause.message halves

/-- Whether a failure is one of those the program reports as it is. -/
def isForeseen : Failure → Bool
  | fault _ => false
  | _ => true

end Failure

end SwiftInterface
