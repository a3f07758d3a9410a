import Registrar.Synthesis.Assembly
import Registrar.Synthesis.Region

/-! The dependency of a unit on the feature that serializes, which it declares once. -/
namespace Registrar

open Platform

/-- The routine that names the features that a unit depends on. -/
def requiredFeaturesHead : RoutineHead := { name := "getRequiredFeatures", returns := listType }

def requiredFeatures : Routine := requiredFeaturesHead.routine do
  let feature ← Emit.loadClass serializationFeatureType
  let features ← Emit.invokeStatic singletonList [feature]
  Emit.leave (some features)

/-- Whether the dependency has been declared. -/
structure FeatureWiring where
  declared : Bool := false
  deriving DecidableEq

namespace FeatureWiring

/-- Defines the routine unless this has been done, and says whether it was done now. -/
def ensure (w : FeatureWiring) (a : Assembly) :
    Except SynthesisError (Bool × FeatureWiring × Assembly) :=
  if w.declared then .ok (false, w, a)
  else (a.define requiredFeatures).map fun a => (true, { declared := true }, a)

end FeatureWiring
end Registrar
