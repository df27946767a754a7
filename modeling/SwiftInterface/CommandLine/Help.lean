/-!
# Help texts

The usage and help texts of the tool and its commands, laid out for lines of
eighty characters.
-/

namespace SwiftInterface

namespace CommandLine

/-- Lines as a text. -/
def unlines (lines : List String) : String :=
  String.join (lines.map fun line => line ++ "\n")

/-- How the tool is used. -/
def mainUsage : List String :=
  [ "usage: moduleinterface [-h] [-v] \x7bgenerate,clean,version\x7d ..." ]

/-- What the tool accepts, after its usage. -/
def mainDetails : List String :=
  [ "Generate the public interface of a Swift module.",
    "",
    "positional arguments:",
    "  \x7bgenerate,clean,version\x7d",
    "    generate            Generates the Swift Module Interface.",
    "    clean               Deletes the module's interface and quits.",
    "    version             Display the current version of ModuleInterface",
    "",
    "options:",
    "  -h, --help            show this help message and exit",
    "  -v, --verbose         Enable debug logging.",
    "",
    "Examples:",
    "  moduleinterface generate --spm-module Yams",
    "  moduleinterface generate --module-name Mini -- -scheme Mini",
    "  moduleinterface clean Yams" ]

/-- How the command that generates an interface is used. -/
def generateUsage : List String :=
  [ "usage: moduleinterface generate [-h] [-v] [--spm-module SPM_MODULE]",
    "                                [--module-name MODULE_NAME]",
    "                                [--input-folder INPUT_FOLDER]",
    "                                [--input-json INPUT_JSON]",
    "                                [--output-folder OUTPUT_FOLDER]",
    "                                [--min-acl MIN_ACL] [-c] [--skip-unbalanced]",
    "                                [--no-format] [--config CONFIG]",
    "                                [xcode_arguments ...]" ]

/-- What the command that generates an interface accepts, after its usage. -/
def generateDetails : List String :=
  [ "positional arguments:",
    "  xcode_arguments       List of arguments to pass to xcodebuild (after '--').",
    "",
    "options:",
    "  -h, --help            show this help message and exit",
    "  -v, --verbose         Enable debug logging.",
    "  --spm-module SPM_MODULE",
    "                        Generate documentation for Swift Package Manager",
    "                        module.",
    "  --module-name MODULE_NAME",
    "                        Generate documentation for a Swift module.",
    "  --input-folder INPUT_FOLDER",
    "                        Path to the input directory (defaults to the current",
    "                        directory).",
    "  --input-json INPUT_JSON",
    "                        Read a saved 'sourcekitten doc' JSON file instead of",
    "                        running sourcekitten.",
    "  --output-folder OUTPUT_FOLDER",
    "                        Output directory (defaults to Documentation).",
    "  --min-acl MIN_ACL     The minimum access level to generate documentation.",
    "                        Defaults to public.",
    "  -c, --clean           Delete the existing interface before generating",
    "                        documentation.",
    "  --skip-unbalanced     Drop declarations whose brackets are unbalanced.",
    "  --no-format           Write the interface without running swiftformat.",
    "  --config CONFIG       YAML or JSON settings file." ]

/-- How the command that removes an interface is used. -/
def cleanUsage : List String :=
  [ "usage: moduleinterface clean [-h] [-v] [--output-folder OUTPUT_FOLDER]",
    "                             [--config CONFIG]",
    "                             module" ]

/-- What the command that removes an interface accepts, after its usage. -/
def cleanDetails : List String :=
  [ "positional arguments:",
    "  module                The module's interface name to clean.",
    "",
    "options:",
    "  -h, --help            show this help message and exit",
    "  -v, --verbose         Enable debug logging.",
    "  --output-folder OUTPUT_FOLDER",
    "                        Output directory (defaults to Documentation).",
    "  --config CONFIG       YAML or JSON settings file." ]

/-- How the command that shows the version is used. -/
def versionUsage : List String :=
  [ "usage: moduleinterface version [-h]" ]

/-- What the command that shows the version accepts, after its usage. -/
def versionDetails : List String :=
  [ "options:",
    "  -h, --help  show this help message and exit" ]

/-- A command as far as its help goes: the name under which it reports errors
and its texts. -/
structure Manual where
  program : String
  usage : List String
  details : List String
deriving Inhabited

namespace Manual

/-- The full help text. -/
def help (manual : Manual) : String :=
  unlines (manual.usage ++ "" :: manual.details)

/-- The report of a usage error. -/
def report (manual : Manual) (message : String) : String :=
  unlines (manual.usage ++ [manual.program ++ ": error: " ++ message])

end Manual

/-- The manual of the tool. -/
def mainManual : Manual where
  program := "moduleinterface"
  usage := mainUsage
  details := mainDetails

/-- The manual of the command that generates an interface. -/
def generateManual : Manual where
  program := "moduleinterface generate"
  usage := generateUsage
  details := generateDetails

/-- The manual of the command that removes an interface. -/
def cleanManual : Manual where
  program := "moduleinterface clean"
  usage := cleanUsage
  details := cleanDetails

/-- The manual of the command that shows the version. -/
def versionManual : Manual where
  program := "moduleinterface version"
  usage := versionUsage
  details := versionDetails

end CommandLine

end SwiftInterface
