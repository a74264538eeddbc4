import ApiCatalog.Analysis
import ApiCatalog.Target

/-!
# Workspaces

A file system and targets by name, and the operations on them. One pass over
signatures can feed several targets; every record goes to all of them before the
next one, and a target that is named twice gets it twice.

An operation that fails keeps every target's records.
-/

namespace ApiCatalog

/-- Files and named targets. -/
structure Workspace where
  files : FileSystem := .empty
  targets : List (String × Target) := []

namespace Workspace

/-- The target of a name. -/
def target? (w : Workspace) (name : String) : Option Target :=
  w.targets.lookup name

/-- A workspace with a target under a name, in place of one that had it. -/
def add (w : Workspace) (name : String) (t : Target) : Workspace :=
  { w with
    targets := w.targets.filter (fun entry => entry.1 != name) ++ [(name, t)] }

/-- Sends a record to the target of a name. -/
def push (w : Workspace) (name : String) (r : Record) : Workspace :=
  { w with
    targets := w.targets.map fun entry =>
      if entry.1 == name then (entry.1, entry.2.receive r) else entry }

/-- Sends a record to the targets of some names, one after the other. -/
def pushAll (w : Workspace) (names : List String) (r : Record) : Workspace :=
  names.foldl (fun w name => w.push name r) w

/-- Sends the records of some signatures to the targets of some names. -/
def deliver (w : Workspace) (names : List String) (signatures : List Signature) :
    Workspace :=
  signatures.foldl (fun w s => w.pushAll names s.toRecord) w

/-- Sends the records of some signatures to the targets of some names, and gives
their number. -/
def emit (w : Workspace) (signatures : List Signature) (names : List String) :
    Workspace × Run Failure Nat :=
  (w.deliver names signatures, do
    reportEmitted signatures.length names.length
    return signatures.length)

/-- Closes the target of a name. -/
def close (w : Workspace) (name : String) : Workspace × Run Failure String :=
  match w.target? name with
  | none => (w, Run.fail (.unknownTarget name))
  | some t =>
      let (files, run) := t.close w.files
      ({ w with files }, run)

/-- Analyzes a source tree and sends the records of its catalog to the targets of
some names. -/
def feed (parse : List UInt8 → Node) (w : Workspace) (s : Settings)
    (names : List String) : Workspace × Run Failure Catalog :=
  let run := Analysis.analyze parse w.files s
  match run.result with
  | .error _ => (w, run)
  | .ok catalog =>
      (w.deliver names catalog.signatures, do
        let catalog ← run
        reportEmitted catalog.signatures.length names.length
        return catalog)

/-- The number of records of every target. -/
def counts (w : Workspace) : List (String × Nat) :=
  w.targets.map fun entry => (entry.1, entry.2.records.length)

end Workspace
end ApiCatalog
