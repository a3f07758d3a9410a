import Registrar.Artifacts
import Registrar.Storage.FileSystem

/-! Artifacts as files in a directory. The slashes in the name of an artifact make directories. -/
namespace Registrar

structure OutputDirectory where
  root : Path
  deriving DecidableEq

namespace OutputDirectory

def artifactPath (o : OutputDirectory) (name : String) : Path := o.root.join ⟨name ++ ".nfu"⟩

/-- A listing stands beside its artifact. -/
def listingPath (artifact : Path) : Path := artifact.withExtension "listing"

variable {m : Type → Type} [Monad m] (fs : FileSystem m)

/-- Writes an artifact, with the directories that it needs. -/
def store (o : OutputDirectory) (name : String) (bytes : List UInt8) :
    ExceptT StorageFault m Path := do
  let p := o.artifactPath name
  fs.place p bytes
  return p

def sink (o : OutputDirectory) : Sink m where
  write name bytes := do return (← (o.store fs name bytes).run).map fun _ => ()

/-- Writes artifacts until one cannot be written; the paths of those that were. -/
def storeWhileAble (o : OutputDirectory) : List (String × List UInt8) → m (List Path)
  | [] => return []
  | (name, bytes) :: rest => do
    match ← (o.store fs name bytes).run with
    | .ok p => return p :: (← o.storeWhileAble rest)
    | .error _ => return []

end OutputDirectory
end Registrar
