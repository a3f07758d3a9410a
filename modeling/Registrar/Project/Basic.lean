import Registrar.CodeUnit.Decoding
import Registrar.CodeUnit.Listing
import Registrar.Plan.Format
import Registrar.Project.Manifest
import Registrar.Project.Output
import Registrar.Synthesis.Basic

/-! What can be done with a project: a unit is generated for its declarations, their plan is shown,
and the unit of an artifact is listed. -/
namespace Registrar

/-- What was written for a project. -/
structure Generated where
  unit : CodeUnit
  artifact : Path
  listing : Option Path

namespace Config

variable {m : Type → Type} [Monad m] (fs : FileSystem m)

/-- All declarations of a project. -/
def declarations (c : Config) : LoggedT m ProjectError Declarations := do
  let paths ← Manifest.expand fs c.patterns
  tell .info s!"reading {paths.length} declaration manifests"
  Manifest.loadAll fs paths

/-- Writes the listing of a unit beside its artifact. -/
def writeListing (u : CodeUnit) (artifact : Path) : LoggedT m ProjectError Path := do
  let p := OutputDirectory.listingPath artifact
  LoggedT.silent (ExceptT.adapt (.unwrittenListing p) (fs.write p u.listing.toUTF8.toList))
  tell .info s!"wrote {p.text}"
  return p

/-- Generates the unit of a project, with a listing if one is wanted. -/
def generate (c : Config) (withListing : Bool) : LoggedT m ProjectError Generated := do
  let d ← c.declarations fs
  let output : OutputDirectory := ⟨c.output⟩
  let u ← (d.generate c.options (output.sink fs)).because .notSynthesized
  let artifact := output.artifactPath u.name
  tell .info s!"wrote {artifact.text}"
  let listing ← if withListing then some <$> writeListing fs u artifact else pure none
  return { unit := u, artifact, listing }

/-- The plan of a project as JSON text. -/
def plan (c : Config) : LoggedT m ProjectError String := do
  let d ← c.declarations fs
  match d.validate with
  | .error v => throw (.invalidDeclarations v)
  | .ok () => return Json.Library.standard.write (Plan.ofDeclarations d).toJson

end Config

/-- The listing of the unit in an artifact. -/
def inspect {m : Type → Type} [Monad m] (fs : FileSystem m) (artifact : Path) :
    ExceptT ProjectError m String := do
  let bytes ← ExceptT.adapt (.unreadableArtifact artifact) (fs.read artifact)
  match CodeUnit.decode bytes with
  | .ok u => return u.listing
  | .error e => throw (.invalidArtifact artifact e)

end Registrar
