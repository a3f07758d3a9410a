import Registrar.Json.Codec

/-! How the generated unit is named and what it does besides registering. -/
namespace Registrar

structure Options where
  /-- Internal name of the generated unit, with `/` between its parts. -/
  unitName : String := "io/quarkus/runner/AutoFeature"
  /-- The class that the entry point loads last. -/
  applicationClass : String := "io.quarkus.runner.ApplicationImpl"
  /-- Who is named when a class is to be initialized again. -/
  originator : String := "Quarkus"
  /-- Whether the workers report the faults that they catch. -/
  logWorkerFailures : Bool := false
  deriving DecidableEq

namespace Options

open Json (Codec)

def codec : Codec Options := .struct {} [
  .of "unit_name" .text (·.unitName) fun o v => { o with unitName := v },
  .of "application_class" .text (·.applicationClass) fun o v => { o with applicationClass := v },
  .of "reinitialization_originator" .text (·.originator) fun o v => { o with originator := v },
  .of "log_worker_failures" .flag (·.logWorkerFailures)
    fun o v => { o with logWorkerFailures := v }]

end Options
end Registrar
