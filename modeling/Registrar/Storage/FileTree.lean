import Registrar.Storage.FileSystem

/-! A file system in memory: directories and files by their location, and the directory from which
relative paths are walked. -/
namespace Registrar

/-- The names on the way from the root. -/
abbrev Location := List String

structure FileTree where
  directories : List Location := []
  files : List (Location × List UInt8) := []
  workingDirectory : Location := []
  deriving DecidableEq

namespace FileTree

/-- The root is always there. -/
def kindAt (t : FileTree) (here : Location) : Option FileKind :=
  if here = [] ∨ here ∈ t.directories then some .directory
  else if (t.files.lookup here).isSome then some .file
  else none

/-- Names and paths have a greatest length in bytes. -/
def nameLimit : Nat := 255
def pathLimit : Nat := 4095

/-- Goes one segment on from a location, which has to be a directory. What is reached need not be
there. -/
def enter (t : FileTree) (here : Location) (segment : String) : Except StorageFault Location :=
  match t.kindAt here with
  | none => .error .notFound
  | some .file => .error .notADirectory
  | some .directory =>
    if Path.isIdle segment then .ok here
    else if segment = ".." then .ok here.dropLast
    else if nameLimit < segment.utf8ByteSize then .error .nameTooLong
    else .ok (here ++ [segment])

/-- Where a path leads. -/
def locate (t : FileTree) (p : Path) : Except StorageFault Location :=
  if p.text.toList.contains '\x00' then .error .nullInPath
  else if p.text = "" then .error .notFound
  else if pathLimit < p.text.utf8ByteSize then .error .nameTooLong
  else p.segments.foldlM t.enter (if p.isAbsolute then [] else t.workingDirectory)

def kind? (t : FileTree) (p : Path) : Option FileKind :=
  match t.locate p with
  | .ok here => t.kindAt here
  | .error _ => none

def read (t : FileTree) (p : Path) : Except StorageFault (List UInt8) := do
  let here ← t.locate p
  match t.kindAt here with
  | some .directory => throw .isADirectory
  | _ =>
    match t.files.lookup here with
    | some bytes => return bytes
    | none => throw .notFound

/-- Keeps the bytes in the place of those that the location had before, or at the end. -/
def put (t : FileTree) (here : Location) (bytes : List UInt8) : FileTree :=
  if (t.files.lookup here).isSome then
    { t with files := t.files.map fun f => if f.1 = here then (here, bytes) else f }
  else { t with files := t.files ++ [(here, bytes)] }

def write (t : FileTree) (p : Path) (bytes : List UInt8) : Except StorageFault FileTree := do
  let here ← t.locate p
  if t.kindAt here = some .directory then throw .isADirectory
  return t.put here bytes

def makeDirectory (t : FileTree) (p : Path) : Except StorageFault FileTree := do
  let here ← t.locate p
  if (t.kindAt here).isSome then throw .alreadyExists
  return { t with directories := t.directories ++ [here] }

/-- The name of a location, if it is directly in a directory. -/
def nameIn (dir here : Location) : Option String :=
  if here.dropLast = dir then here.getLast? else none

/-- The names of the directories and the files that are directly in a directory. -/
def names (t : FileTree) (p : Path) : List String :=
  match t.locate p with
  | .ok dir => (t.directories ++ t.files.map (·.1)).filterMap (nameIn dir)
  | .error _ => []

/-- Changes the tree, or leaves it as it was where the change fails. -/
def update (change : FileTree → Except StorageFault FileTree) :
    ExceptT StorageFault (StateM FileTree) Unit := fun t =>
  match change t with
  | .ok t => (.ok (), t)
  | .error fault => (.error fault, t)

def fileSystem : FileSystem (StateM FileTree) where
  read p := fun t => (t.read p, t)
  write p bytes := update (·.write p bytes)
  makeDirectory p := update (·.makeDirectory p)
  kind? p := fun t => (t.kind? p, t)
  names p := fun t => (t.names p, t)
  workingDirectory := fun t => (⟨"/" ++ "/".intercalate t.workingDirectory⟩, t)

/-- The files below a location, each with the path that leads there from it, in the order of the
texts of these paths. -/
def filesBelow (t : FileTree) (dir : Location) : List (Path × List UInt8) :=
  let below := t.files.filterMap fun (here, bytes) =>
    if dir.isPrefixOf here then some (⟨"/".intercalate (here.drop dir.length)⟩, bytes) else none
  below.mergeSort fun a b => !(b.1.text < a.1.text)

/-- A tree that holds nothing but a working directory. -/
def ofWorkingDirectory (here : Location) : FileTree where
  directories := (List.range here.length).map fun n => here.take (n + 1)
  workingDirectory := here

end FileTree
end Registrar
