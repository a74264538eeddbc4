import ApiCatalog.Path
import ApiCatalog.Text.Quoted

/-!
# File systems

A file system is a list of places with what is there. A place is the list of
names that leads to it from the working directory, with no `..` after a name;
places above the working directory are written with leading `..`, and absolute
ones start with the name `/`. The directories that everything hangs from (the
working directory, those above it, the root) are always there.

A path is resolved one name at a time. Each step needs a directory to start
from, so a file in the middle of a path is told from a name that is missing.
-/

namespace ApiCatalog

/-- A place in a file system. -/
abbrev Location := List String

/-- What is at a place. -/
inductive Entry where
  | file (bytes : List UInt8)
  | directory
deriving DecidableEq, Repr

/-- Places with what is there; the first entry for a place counts. -/
structure FileSystem where
  entries : List (Location × Entry)
deriving Repr

/-- Why an operation on files was refused. -/
inductive OsCause where
  | notFound
  | exists
  | notDirectory
  | isDirectory
deriving DecidableEq, Repr

/-- A refused operation, with the path it was asked for. -/
structure OsError where
  cause : OsCause
  path : Path
deriving DecidableEq, Repr

/-- The number and the wording of a cause. -/
def OsCause.message : OsCause → String
  | .notFound => "[Errno 2] No such file or directory"
  | .exists => "[Errno 17] File exists"
  | .notDirectory => "[Errno 20] Not a directory"
  | .isDirectory => "[Errno 21] Is a directory"

/-- The wording of a refusal. -/
def OsError.message (e : OsError) : String :=
  e.cause.message ++ ": " ++ Text.quoted e.path.text

namespace Location

/-- Whether a place is there in every file system. -/
def isAnchor (l : Location) : Bool :=
  l.all (· == "..") || l == ["/"]

/-- Whether a directory can hold something of that name. -/
def isName (name : String) : Bool :=
  name != "" && name != "." && name != ".." && !name.toList.contains '/'

theorem isName_iff {name : String} :
    isName name = true ↔ name ≠ "" ∧ name ≠ "." ∧ name ≠ ".." ∧ '/' ∉ name.toList := by
  simp [isName, and_assoc]

theorem isPart_of_isName {name : String} (h : isName name = true) : Path.IsPart name := by
  obtain ⟨hempty, hdot, -, hslash⟩ := isName_iff.mp h
  exact ⟨hempty, hdot, hslash⟩

/-- The place that `..` leads to. -/
def up (l : Location) : Location :=
  if l == ["/"] then l
  else if l.all (· == "..") then l ++ [".."]
  else l.dropLast

end Location

namespace FileSystem

/-- The file system with nothing in the working directory. -/
def empty : FileSystem := ⟨[]⟩

/-- What is at a place. -/
def entry? (fs : FileSystem) (l : Location) : Option Entry :=
  match fs.entries.lookup l with
  | some e => some e
  | none => if Location.isAnchor l then some .directory else none

/-- The place that a name leads to. -/
def step (fs : FileSystem) (l : Location) (name : String) :
    Except OsCause Location :=
  match fs.entry? l with
  | none => .error .notFound
  | some (.file _) => .error .notDirectory
  | some .directory =>
      if name == ".." then .ok (Location.up l)
      else if (fs.entry? (l ++ [name])).isSome then .ok (l ++ [name])
      else .error .notFound

/-- The place where a path starts. -/
def start (p : Path) : Location :=
  if p.isAbsolute then ["/"] else []

/-- The place that names lead to from another one. -/
def walk (fs : FileSystem) (l : Location) (names : List String) :
    Except OsCause Location :=
  names.foldlM fs.step l

/-- The place that a path leads to; there is something at that place. -/
def resolve (fs : FileSystem) (p : Path) : Except OsCause Location :=
  fs.walk (start p) p.parts

/-- What a path leads to. -/
def find? (fs : FileSystem) (p : Path) : Option Entry :=
  match fs.resolve p with
  | .ok l => fs.entry? l
  | .error _ => none

/-- Whether a path leads to a directory. -/
def isDirectory (fs : FileSystem) (p : Path) : Bool :=
  fs.find? p == some .directory

/-- Whether a path leads to a regular file. -/
def isFile (fs : FileSystem) (p : Path) : Bool :=
  match fs.find? p with
  | some (.file _) => true
  | _ => false

/-- The bytes of the file that a path leads to. -/
def read (fs : FileSystem) (p : Path) : Except OsError (List UInt8) :=
  match fs.resolve p with
  | .error cause => .error ⟨cause, p⟩
  | .ok l =>
      match fs.entry? l with
      | some (.file bytes) => .ok bytes
      | some .directory => .error ⟨.isDirectory, p⟩
      | none => .error ⟨.notFound, p⟩

/-- Whether the names lead down from a place to a regular file, through
directories only. What hangs from an anchor above or beside the place is not
below it. -/
def isFileBelow (fs : FileSystem) (base : Location) (names : List String) : Bool :=
  match names with
  | [] =>
      match fs.entry? base with
      | some (.file _) => true
      | _ => false
  | name :: rest =>
      Location.isName name && fs.entry? base == some .directory &&
        fs.isFileBelow (base ++ [name]) rest

theorem isName_of_isFileBelow {fs : FileSystem} {base : Location} {names : List String}
    (h : fs.isFileBelow base names = true) : ∀ name ∈ names, Location.isName name = true := by
  induction names generalizing base with
  | nil => exact List.forall_mem_nil _
  | cons name rest ih =>
      rw [isFileBelow, Bool.and_eq_true, Bool.and_eq_true] at h
      exact List.forall_mem_cons.mpr ⟨h.1.1, ih h.2⟩

/-- The path of the names that lead down from a place to a regular file. -/
def pathBelow? (fs : FileSystem) (base : Location) (names : List String) : Option Path :=
  if h : fs.isFileBelow base names = true then
    some
      { anchor := .here
        parts := names
        proper := fun name hname => Location.isPart_of_isName (isName_of_isFileBelow h name hname) }
  else none

/-- The regular files at any depth below a place, each by its path from there. -/
def filesBelow (fs : FileSystem) (base : Location) : List Path :=
  let below := fs.entries.filterMap fun (l, _) =>
    if base.isPrefixOf l then fs.pathBelow? base (l.drop base.length) else none
  below.eraseDups

/-- Puts something at a place, over what was there. -/
def put (fs : FileSystem) (l : Location) (e : Entry) : FileSystem :=
  ⟨(l, e) :: fs.entries.filter fun entry => entry.1 != l⟩

/-- Creates one directory; its parent has to be there. -/
def makeDirectory (fs : FileSystem) (p : Path) : Except OsCause FileSystem :=
  match p.parts.getLast? with
  | none => .error .exists
  | some name => do
      let l ← fs.resolve p.parent
      match fs.entry? l with
      | some .directory =>
          if name == ".." || (fs.entry? (l ++ [name])).isSome then .error .exists
          else return fs.put (l ++ [name]) .directory
      | some (.file _) => .error .notDirectory
      | none => .error .notFound

/-- Creates a directory and the missing ones above it, given how many names its
path has. A directory that is there already is fine; the refusal names the
directory that could not be made, and those made before it stay. -/
def makeDirectoriesTo (fs : FileSystem) (p : Path) :
    Nat → FileSystem × Except OsError Unit
  | 0 => (fs, .ok ())
  | depth + 1 =>
      let settle := fun (fs : FileSystem) (cause : OsCause) =>
        if fs.isDirectory p then (fs, .ok ())
        else (fs, Except.error (OsError.mk cause p))
      match fs.makeDirectory p with
      | .ok made => (made, .ok ())
      | .error .notFound =>
          match fs.makeDirectoriesTo p.parent depth with
          | (fs, .error e) => (fs, .error e)
          | (fs, .ok ()) =>
              match fs.makeDirectory p with
              | .ok made => (made, .ok ())
              | .error cause => settle fs cause
      | .error cause => settle fs cause

/-- Creates a directory and the missing ones above it. -/
def makeDirectories (fs : FileSystem) (p : Path) :
    FileSystem × Except OsError Unit :=
  fs.makeDirectoriesTo p p.parts.length

/-- Writes a file whose directory is there, over the file that was there. -/
def write (fs : FileSystem) (p : Path) (bytes : List UInt8) :
    Except OsError FileSystem :=
  match p.parts.getLast? with
  | none => .error ⟨.isDirectory, p⟩
  | some name =>
      match fs.resolve p.parent with
      | .error cause => .error ⟨cause, p⟩
      | .ok l =>
          match fs.entry? l with
          | some .directory =>
              let target := if name == ".." then Location.up l else l ++ [name]
              match fs.entry? target with
              | some .directory => .error ⟨.isDirectory, p⟩
              | _ => .ok (fs.put target (.file bytes))
          | some (.file _) => .error ⟨.notDirectory, p⟩
          | none => .error ⟨.notFound, p⟩

/-- Writes a file after creating its directory. Directories made on the way stay
when the file itself is refused. -/
def writeWithParents (fs : FileSystem) (p : Path) (bytes : List UInt8) :
    FileSystem × Except OsError Unit :=
  match fs.makeDirectories p.parent with
  | (fs, .error e) => (fs, .error e)
  | (fs, .ok ()) =>
      match fs.write p bytes with
      | .ok written => (written, .ok ())
      | .error e => (fs, .error e)

/-- Removes what is at a place and everything below it. -/
def remove (fs : FileSystem) (l : Location) : FileSystem :=
  ⟨fs.entries.filter fun entry => !l.isPrefixOf entry.1⟩

end FileSystem
end ApiCatalog
