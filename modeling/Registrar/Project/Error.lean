import Registrar.Json.Fault
import Registrar.Log
import Registrar.Storage.Path
import Registrar.Synthesis.Error

/-! Why a command on a project fails, and how that is told: what was to be done comes first, and
behind it what was in the way. -/
namespace Registrar

inductive ProjectError where
  | unreadableConfig (path : Path) (cause : StorageFault)
  | malformedConfig (path : Path) (cause : Json.Fault)
  | invalidPattern (pattern : String)
  | unreadableManifest (path : Path) (cause : StorageFault)
  | malformedManifest (path : Path) (cause : Json.Fault)
  | noManifests
  | unknownLogLevel (text : String)
  | invalidDeclarations (violation : Violation)
  | notSynthesized (cause : SynthesisError)
  | unwrittenListing (path : Path) (cause : StorageFault)
  | unreadableArtifact (path : Path) (cause : StorageFault)
  | invalidArtifact (path : Path) (cause : FormatError)
  deriving DecidableEq

/-- One link in the chain of what is told. -/
inductive Reason where
  | said (text : String)
  | storage (fault : StorageFault)
  | json (fault : Json.Fault)
  | pattern
  deriving DecidableEq

namespace Reason

def text : Reason → String
  | said text => text
  | storage fault => fault.message
  | json .malformed => "the text is not JSON"
  | json .truncated => "the text ends too early"
  | json .mismatched => "the text does not have the expected form"
  | pattern => "the wildcards are not in order"

end Reason

namespace SynthesisError

/-- The error, and what it comes from. -/
def reasons (e : SynthesisError) : List Reason :=
  .said e.message ::
    match e with
    | invalid v => [.said v.message]
    | unencodable cause => [.said cause.message]
    | unwritten _ cause => [.storage cause]
    | _ => []

end SynthesisError

namespace ProjectError

/-- From what was to be done to what was in the way. -/
def reasons : ProjectError → List Reason
  | unreadableConfig p cause => [.said s!"failed to read config `{p.text}`", .storage cause]
  | malformedConfig p cause => [.said s!"malformed config `{p.text}`", .json cause]
  | invalidPattern pattern => [.said s!"invalid manifest pattern `{pattern}`", .pattern]
  | unreadableManifest p cause => [.said s!"failed to read manifest `{p.text}`", .storage cause]
  | malformedManifest p cause => [.said s!"malformed manifest `{p.text}`", .json cause]
  | noManifests => [.said "no declaration manifests given"]
  | unknownLogLevel text => [.said ("invalid log level: " ++ LogLevel.unknownMessage text)]
  | invalidDeclarations v => [.said "invalid declarations", .said v.message]
  | notSynthesized cause => .said "feature synthesis failed" :: cause.reasons
  | unwrittenListing p cause => [.said s!"failed to write listing `{p.text}`", .storage cause]
  | unreadableArtifact p cause => [.said s!"failed to read artifact `{p.text}`", .storage cause]
  | invalidArtifact p cause => [.said s!"`{p.text}` is not a valid unit", .said cause.message]

/-- All of it in one line. -/
def message (e : ProjectError) : String := ": ".intercalate (e.reasons.map (·.text))

end ProjectError
end Registrar
