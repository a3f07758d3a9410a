import Registrar.Glob.Pattern
import Registrar.Storage.FileSystem

/-! The paths that fit a pattern, directory by directory and by name in each of them. -/
namespace Registrar

/-- A pattern for paths. -/
structure Glob where
  isAbsolute : Bool
  parts : List Glob.Part
  /-- A slash at the end asks for directories. -/
  directoriesOnly : Bool
  deriving DecidableEq

namespace Glob

/-- The text between slashes. One at the end has nothing behind it. -/
def pieces (cs : List Char) : List (List Char) :=
  match cs.splitOn '/' with
  | [] => [[]]
  | [piece] => [piece]
  | split => if split.getLast? = some [] then split.dropLast else split

def read? (text : String) : Option Glob :=
  let cs := text.toList
  let isAbsolute := cs.head? = some '/'
  let inner := if isAbsolute then cs.drop 1 else cs
  ((pieces inner).mapM Part.read?).map fun parts =>
    { isAbsolute, parts, directoriesOnly := cs.getLast? = some '/' }

/-- A path that has been reached. -/
structure Place where
  path : Path
  isDirectory : Bool

section

variable {m : Type → Type} [Monad m] (fs : FileSystem m)

def place (path : Path) : m Place := return ⟨path, ← fs.isDirectory path⟩

/-- A path inside a directory. Where the walker is, the bare name is enough. -/
def inside (dir : Path) (name : String) : Path :=
  if dir.steps = [.here] then ⟨name⟩ else dir.join ⟨name⟩

/-- The contents of a directory by name. -/
def contents (dir : Path) : m (List (String × Place)) := do
  let names := (← fs.names dir).mergeSort fun a b => !(b < a)
  names.mapM fun name => return (name, ← place fs (inside dir name))

/-- The places that a part without wildcards leads to. The names that lead nowhere new are taken
in every directory. -/
def step (p : Place) (name : String) : m (List Place) := do
  let path := inside p.path name
  if name = "." || name = ".." then
    if p.isDirectory then return [← place fs path] else return []
  else if (← fs.kind? path).isSome then return [← place fs path]
  else return []

/-- A name with wildcards fits the special ones only if it starts with a dot itself; they come
first, and the parent directory before the others. -/
def specials (dir : Place) : Part → m (List Place)
  | .name (.char '.' :: tokens) =>
    let fitting := [".." , "."].filter fun name => fits (.char '.' :: tokens) name.toList
    fitting.mapM fun name => place fs (dir.path.join ⟨name⟩)
  | _ => return []

variable (directoriesOnly : Bool)

/-- The paths that are reached from a place by the parts of a pattern. The fuel bounds the number
of parts and of directories inside each other. -/
def search : (fuel : Nat) → List Part → Place → m (List Path)
  | 0, _, _ => return []
  | _ + 1, [], p => return if directoriesOnly && !p.isDirectory then [] else [p.path]
  | fuel + 1, part :: rest, p => do
    match part.literal? with
    | some name => return (← (← step fs p (String.ofList name)).mapM (search fuel rest)).flatten
    | none =>
      if !p.isDirectory then return []
      let fromSpecials ← (← specials fs p part).mapM (search fuel rest)
      let fromContents ← (← contents fs p.path).mapM fun (name, child) => do
        let matching (part : Part) (rest : List Part) : m (List Path) :=
          match part with
          | .name tokens => if fits tokens name.toList then search fuel rest child else return []
          | .deep => return []
        match part with
        | .name _ => matching part rest
        | .deep =>
          let rest := rest.dropWhile (· = .deep)
          let deeper ← if child.isDirectory then search fuel (.deep :: rest) child else pure []
          match rest with
          | [] => return if child.isDirectory then child.path :: deeper else []
          | next :: rest => return (← matching next rest) ++ deeper
      return fromSpecials.flatten ++ fromContents.flatten

end

/-- Directories cannot be deeper than this inside each other, because paths are not longer. -/
def depthLimit : Nat := 4096

/-- All paths that fit. -/
def paths {m : Type → Type} [Monad m] (g : Glob) (fs : FileSystem m) : m (List Path) := do
  let start ← place fs ⟨if g.isAbsolute then "/" else "."⟩
  search fs g.directoriesOnly (g.parts.length + depthLimit) g.parts start

end Glob
end Registrar
