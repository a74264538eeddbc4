import ApiCatalog.Path
import ApiCatalog.Target

/-!
# Options of the command line

The options with their spellings, what a command line may ask for, and what can
be wrong with it.
-/

namespace ApiCatalog.CommandLine

/-- The options. -/
inductive OptionName where
  | help
  | ignore
  | ext
  | config
  | noConfig
  | format
  | output
  | report
  | strict
  | allowUnsafe
  | verbose
deriving DecidableEq, Repr

namespace OptionName

/-- The spellings of an option. -/
def spellings : OptionName → List String
  | .help => ["-h", "--help"]
  | .ignore => ["--ignore"]
  | .ext => ["--ext"]
  | .config => ["--config"]
  | .noConfig => ["--no-config"]
  | .format => ["--format"]
  | .output => ["--output", "-o"]
  | .report => ["--report"]
  | .strict => ["--strict"]
  | .allowUnsafe => ["--allow-unsafe"]
  | .verbose => ["-v", "--verbose"]

/-- Whether an option is followed by a value. -/
def takesValue : OptionName → Bool
  | .ignore | .ext | .config | .format | .output => true
  | _ => false

/-- The options in the order in which messages list them. -/
def all : List OptionName :=
  [.help, .ignore, .ext, .config, .noConfig, .format, .output, .report, .strict,
    .allowUnsafe, .verbose]

/-- The name of an option in messages. -/
def label (name : OptionName) : String :=
  String.intercalate "/" name.spellings

end OptionName

/-- Every spelling with its option. -/
def spellingTable : List (String × OptionName) :=
  OptionName.all.flatMap fun name => name.spellings.map fun s => (s, name)

/-- What a command line asks for. -/
structure Options where
  root : Path
  ignore : Option String := none
  extensions : Option (List String) := none
  config : Option Path := none
  noConfig : Bool := false
  format : Format := .toml
  output : Option Path := none
  report : Bool := false
  strict : Bool := false
  allowUnsafe : Bool := false
  verbose : Bool := false
deriving DecidableEq, Repr

/-- What is wrong with a command line. -/
inductive UsageError where
  | missingRoot
  | unrecognized (words : List String)
  /-- A word could be short for several spellings. -/
  | ambiguous (word : String) (spellings : List String)
  | missingValue (name : OptionName)
  /-- A value that goes with an option without one. -/
  | unexpectedValue (name : OptionName) (value : String)
  | unknownFormat (value : String)
deriving DecidableEq, Repr

/-- The wording of what is wrong. -/
def UsageError.message : UsageError → String
  | .missingRoot => "the following arguments are required: root"
  | .unrecognized words =>
      "unrecognized arguments: " ++ String.intercalate " " words
  | .ambiguous word spellings =>
      "ambiguous option: " ++ word ++ " could match " ++
        String.intercalate ", " spellings
  | .missingValue name =>
      "argument " ++ name.label ++ ": expected one argument"
  | .unexpectedValue name value =>
      "argument " ++ name.label ++ ": ignored explicit argument " ++
        Text.quoted value
  | .unknownFormat value =>
      "argument --format: invalid choice: " ++ Text.quoted value ++
        " (choose from 'toml', 'json')"

end ApiCatalog.CommandLine
