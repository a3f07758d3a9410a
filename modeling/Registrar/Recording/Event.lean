import Registrar.Evaluation.Value

/-! What an image builder is asked to register, as a log of events. -/
namespace Registrar

/-- For whom classes and members are registered. -/
inductive Registry where
  | reflection
  | jni
  deriving DecidableEq

inductive Event where
  | registerClasses (registry : Registry) (classes : List String)
  | registerExecutables (registry : Registry) (members : List Member)
  | registerFields (registry : Registry) (fields : List Member)
      (finalFieldsWritable serialization : Bool)
  | unsafeAccessed (className field : String)
  | initializeAtRunTime (classes : List String)
  | initializePackagesAtRunTime (packages : List String)
  | rerunInitialization (className originator : String)
  | proxyClass (interfaces : List String)
  | resource (path : String)
  | resourcePatternExcluded (pattern : String)
  | resourcePatternIncluded (pattern : String)
  | resourceBundle (name : String)
  | cipherRequested (transformation : String)
  | constructorAccessor (className constructorClass : String)
  | serializationReflections (className objectClass : String)
  | failureReported (fault : Fault)
  deriving DecidableEq

/-- The classes that were registered, in the order of their registration. -/
def registeredClasses (registry : Registry) (events : List Event) : List String :=
  events.flatMap fun
    | .registerClasses r classes => if r = registry then classes else []
    | _ => []

def reportedFailures (events : List Event) : List Fault :=
  events.filterMap fun
    | .failureReported f => some f
    | _ => none

end Registrar
