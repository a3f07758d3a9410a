import Registrar.Storage.Fault
import Registrar.Storage.Path

/-! What is asked of a file system, whatever it is. -/
namespace Registrar

inductive FileKind where
  | file
  | directory
  deriving DecidableEq

structure FileSystem (m : Type → Type) where
  read : Path → ExceptT StorageFault m (List UInt8)
  /-- Replaces the file or makes a new one in an existing directory. -/
  write : Path → List UInt8 → ExceptT StorageFault m Unit
  /-- Makes one directory in an existing one. -/
  makeDirectory : Path → ExceptT StorageFault m Unit
  /-- What a path leads to. -/
  kind? : Path → m (Option FileKind)
  /-- The names in a directory, in any order. -/
  names : Path → m (List String)
  workingDirectory : m Path

namespace FileSystem

variable {m : Type → Type} [Monad m] (fs : FileSystem m)

def isFile (p : Path) : m Bool := return (← fs.kind? p) = some .file

def isDirectory (p : Path) : m Bool := return (← fs.kind? p) = some .directory

/-- The text of a file, which has to be UTF-8. -/
def readText (p : Path) : ExceptT StorageFault m String := do
  let bytes ← fs.read p
  match String.fromUTF8? ⟨bytes.toArray⟩ with
  | some text => return text
  | none => throw .notText

/-- An attempt to make a directory does not fail where there is one. -/
def settle (p : Path) (made : Except StorageFault Unit) : ExceptT StorageFault m Unit := do
  match made with
  | .ok () => return
  | .error fault =>
    unless ← ExceptT.lift (fs.isDirectory p) do throw fault

/-- Makes the first of these directories. Each one is inside the next, which is made first where
it is missing; the empty path is where the walker is. -/
def makeNested : List Path → ExceptT StorageFault m Unit
  | [] => throw .notFound
  | p :: outer => do
    if p.text = "" then return
    match ← ExceptT.lift (fs.makeDirectory p).run with
    | .error .notFound =>
      makeNested outer
      fs.settle p (← ExceptT.lift (fs.makeDirectory p).run)
    | made => fs.settle p made

/-- Makes a directory and those that it is in, as far as they are missing. -/
def makeDirectories (p : Path) : ExceptT StorageFault m Unit := fs.makeNested p.enclosing

/-- Writes a file, with the directories that it is in as far as they are missing. -/
def place (p : Path) (bytes : List UInt8) : ExceptT StorageFault m Unit := do
  if let some dir := p.parent? then fs.makeDirectories dir
  fs.write p bytes

end FileSystem
end Registrar
