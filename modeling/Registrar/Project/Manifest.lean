import Registrar.Declarations.Format
import Registrar.Glob.Search
import Registrar.Project.Config

/-! Manifests are files with parts of the declarations of a project. Patterns name them, and their
contents are put together in the order in which they are found. -/
namespace Registrar

namespace Path

/-- Adds paths behind those that are there, each path only once, in the spelling that came first. -/
def addNew (paths : List Path) (more : List Path) : List Path :=
  more.foldl (fun paths p => if paths.any (·.steps = p.steps) then paths else paths ++ [p]) paths

end Path

namespace Manifest

variable {m : Type → Type} [Monad m] (fs : FileSystem m)

/-- The files that fit a pattern. -/
def matching (g : Glob) : m (List Path) := do (← g.paths fs).filterM (fs.isFile ·)

/-- The files that fit one of the patterns; a pattern that no file fits is worth a warning. -/
def expand (patterns : List String) : LoggedT m ProjectError (List Path) :=
  patterns.foldlM (fun paths pattern => do
    match Glob.read? pattern with
    | none => throw (.invalidPattern pattern)
    | some g =>
      let found ← LoggedT.silent (ExceptT.lift (matching fs g))
      if found.isEmpty then tell .warn s!"manifest pattern `{pattern}` matched no files"
      return Path.addNew paths found) []

def load (p : Path) : ExceptT ProjectError m Declarations := do
  let text ← ExceptT.adapt (.unreadableManifest p) (fs.readText p)
  match Declarations.codec.read .standard text with
  | .ok d => return d
  | .error fault => throw (.malformedManifest p fault)

/-- All manifests are read before any of them is reported. -/
def loadAll (paths : List Path) : LoggedT m ProjectError Declarations := do
  if paths.isEmpty then throw .noManifests
  let parts ← LoggedT.silent (paths.mapM (load fs))
  (paths.zip parts).foldlM (fun d (p, part) => do
    tell .debug s!"loaded {part.itemCount} declaration items from {p.text}"
    return d ++ part) {}

end Manifest
end Registrar
