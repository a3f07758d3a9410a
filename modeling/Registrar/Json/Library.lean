import Registrar.Json.Printing
import Registrar.Json.Shape

/-! What is asked of a library for JSON text. -/
namespace Registrar.Json

structure Library where
  write : Json → String
  /-- Reads a whole text as a value of the shape, with all members of its records in their order. -/
  read : Shape → String → Except Fault Json

/-- Writing over several lines, and reading from front to back. -/
def Library.standard : Library := ⟨pretty, Shape.read⟩

end Registrar.Json
