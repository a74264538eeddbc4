import ApiCatalog.Analysis
import ApiCatalog.CommandLine.Arguments
import ApiCatalog.CommandLine.Help
import ApiCatalog.SettingsFile
import ApiCatalog.Target

/-!
# Running a command line

A command line ends with an exit code: two for wrong usage, settings that cannot
be had or sources that cannot be loaded, one for violations in strict mode, zero
otherwise. Other failures end the program as they are.
-/

namespace ApiCatalog.CommandLine

/-- What a run of the program leaves: the files, what was printed, and the exit
code or the failure that ended it. -/
structure Outcome where
  files : FileSystem
  stdout : String := ""
  stderr : String := ""
  result : Except Failure Nat

/-! ## Settings -/

/-- A flag as a value: one that is not given has no value. -/
def flagValue (given : Bool) (v : Value) : Value :=
  if given then v else .null

/-- The values that a command line gives. -/
def Options.overrides (o : Options) : List (String × Value) :=
  [("root", .path o.root),
    ("ignored", .ofText? o.ignore),
    ("extensions",
      match o.extensions with
      | none => .null
      | some names => .list (names.map .text)),
    ("report_diagnostics", flagValue o.report (.bool true)),
    ("strict", flagValue o.strict (.bool true)),
    ("unsafe_policy", flagValue o.allowUnsafe (.text UnsafePolicy.warn.name))]

/-- The settings file to use: the one that is given, or else the one that is
found, unless that is not wanted. -/
def settingsPath (fs : FileSystem) (o : Options) : Run Failure (Option Path) :=
  match o.config with
  | some path => return some path
  | none =>
      if o.noConfig then return none
      else
        match SettingsFile.discover? fs o.root with
        | none => return none
        | some path => do
            Run.log .info ("Discovered config at: " ++ path.text)
            return some path

/-- The settings of a command line. -/
def resolveSettings (fs : FileSystem) (o : Options) : Run Failure Settings := do
  match ← settingsPath fs o with
  | some path => Run.ofExcept (SettingsFile.load fs path o.overrides)
  | none => Run.ofExcept (SettingsFile.build [] o.overrides)

/-! ## Output -/

/-- What an event puts on the error stream. -/
def eventText (verbose : Bool) : Event → String
  | .log level message =>
      if level == .debug && !verbose then ""
      else level.name ++ ": " ++ message ++ "\n"
  | .diagnostic line => line ++ "\n"

/-- What events put on the error stream. -/
def errorStream (verbose : Bool) (events : List Event) : String :=
  String.join (events.map (eventText verbose))

/-- The exit code for a failure that the program handles, and what it logs. -/
def exitOf? : Failure → Option (Nat × String)
  | .settings f => some (2, f.message)
  | .load f => some (2, f.message)
  | .strict violations => some (1, "Strict mode: " ++ strictMessage violations)
  | _ => none

/-! ## Running -/

/-- The settings of a command line and the catalog they lead to. -/
def survey (parse : List UInt8 → Node) (fs : FileSystem) (o : Options) :
    Run Failure (Settings × Catalog) := do
  let settings ← resolveSettings fs o
  let catalog ← Analysis.analyze parse fs settings
  return (settings, catalog)

/-- The writer of a command line with the records of a catalog. -/
def writerFor (o : Options) (settings : Settings) (catalog : Catalog) : Target :=
  { sink := .writer (some o.format) o.output settings.root.text
    records := catalog.signatures.map Signature.toRecord }

/-- Writes a catalog: to its file, or to the output if there is none. -/
def deliver (fs : FileSystem) (o : Options) (settings : Settings)
    (catalog : Catalog) : FileSystem × Run Failure String :=
  let (files, closing) := (writerFor o settings catalog).close fs
  (files, do
    reportEmitted catalog.signatures.length 1
    let text ← closing
    return if o.output.isNone then text else "")

/-- Runs the program with options. -/
def execute (parse : List UInt8 → Node) (fs : FileSystem) (o : Options) :
    Outcome :=
  let run := survey parse fs o
  match run.result with
  | .error failure =>
      match exitOf? failure with
      | some (code, message) =>
          { files := fs
            stderr := errorStream o.verbose (run.events ++ [.log .error message])
            result := .ok code }
      | none =>
          { files := fs
            stderr := errorStream o.verbose run.events
            result := .error failure }
  | .ok (settings, catalog) =>
      let (files, delivery) := deliver fs o settings catalog
      let stderr := errorStream o.verbose (run.events ++ delivery.events)
      match delivery.result with
      | .ok stdout => { files, stdout, stderr, result := .ok 0 }
      | .error failure => { files, stderr, result := .error failure }

/-- Runs a command line. -/
def run (parse : List UInt8 → Node) (fs : FileSystem) (words : List String) :
    Outcome :=
  match CommandLine.parse words with
  | .error .help => { files := fs, stdout := help, result := .ok 0 }
  | .error (.usage e) =>
      { files := fs, stderr := usageAnswer e, result := .ok 2 }
  | .ok o => execute parse fs o

end ApiCatalog.CommandLine
