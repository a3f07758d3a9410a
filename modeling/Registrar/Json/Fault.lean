/-! What can be wrong with JSON text, as far as it decides what is reported. -/
namespace Registrar.Json

inductive Fault where
  /-- The text is not JSON. -/
  | malformed
  /-- The text ends too early. -/
  | truncated
  /-- The text is JSON for something else. -/
  | mismatched
  deriving DecidableEq

end Registrar.Json
