import Registrar.Artifacts
import Registrar.CodeUnit.FormatError
import Registrar.Declarations.Validity

/-! Why no unit is generated. -/
namespace Registrar

inductive SynthesisError where
  | invalid (violation : Violation)
  | duplicateRoutine (routine unitName : String)
  | undefinedRoutine (routine : String)
  | unencodable (cause : FormatError)
  | unwritten (name : String) (cause : StorageFault)
  deriving DecidableEq

namespace SynthesisError

def message : SynthesisError → String
  | invalid v => "invalid declaration: " ++ v.message
  | duplicateRoutine routine unitName =>
    s!"routine `{routine}` is defined twice in unit `{unitName}`"
  | undefinedRoutine routine => s!"routine `{routine}` was reserved but never defined"
  | unencodable e => "failed to encode the unit: " ++ e.message
  | unwritten name _ => s!"failed to write artifact `{name}`"

end SynthesisError
end Registrar
