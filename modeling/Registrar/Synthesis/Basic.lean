import Registrar.CodeUnit.Encoding
import Registrar.Log
import Registrar.Synthesis.EntryPoint
import Registrar.Synthesis.Features

/-! From declarations to a unit: they are checked, brought together in a plan, and code is
generated for it, an entry point and one worker for each record. -/
namespace Registrar

open Platform

namespace Assembly

/-- Adds the worker of a class. The first class that is serialized brings the dependency on the
serialization feature with it. -/
def addClassWorker (o : Options) (state : Assembly × FeatureWiring) (item : ClassRecord × Nat) :
    Except SynthesisError (Assembly × FeatureWiring) := do
  let (a, wiring) := state
  let (r, index) := item
  let a ← a.reserve (classWorkerHead index).name
  let (a, wiring) ←
    if r.capabilities.serialization then
      let (_, wiring, a) ← wiring.ensure a
      pure (a, wiring)
    else pure (a, wiring)
  let a ← a.define (r.worker o index)
  return (a, wiring)

def addJniWorker (o : Options) (a : Assembly) (item : JniRecord × Nat) :
    Except SynthesisError Assembly := do
  let (r, index) := item
  let a ← a.reserve (jniWorkerHead index).name
  a.define (r.worker o index)

/-- A unit without routines. -/
def start (o : Options) : Assembly :=
  annotate { name := o.unitName, superClass := objectType, interfaces := [featureType] }
    automaticFeatureType

end Assembly

namespace Plan

/-- The routines of a plan, the entry point in front of the workers that it calls. -/
def assemble (p : Plan) (o : Options) : Except SynthesisError (Assembly × FeatureWiring) := do
  let a ← (Assembly.start o).reserve entryPointHead.name
  let (a, wiring) ← p.classes.records.zipIdx.foldlM (Assembly.addClassWorker o) (a, {})
  let a ← p.jniClasses.zipIdx.foldlM (Assembly.addJniWorker o) a
  let a ← a.define (p.entryPoint o)
  return (a, wiring)

/-- The sizes of the categories, in the order in which they are logged. -/
def sizes (p : Plan) : List (String × Nat) :=
  [("unsafe-accessed fields", p.unsafeAccessedFields.length),
    ("runtime-initialized classes", p.runtimeInitializedClasses.length),
    ("runtime-initialized packages", p.runtimeInitializedPackages.length),
    ("reinitialized classes", p.runtimeReinitializedClasses.length),
    ("proxy definitions", p.proxyDefinitions.length),
    ("resources", p.resources.length),
    ("service descriptors", p.serviceDescriptors.length),
    ("resource pattern sets", p.resourcePatterns.length),
    ("resource bundles", p.resourceBundles.length),
    ("cipher transformations", p.cipherTransformations.toList.length),
    ("reflective classes", p.classes.size),
    ("JNI classes", p.jniClasses.length)]

/-- The unit of a plan; what it is a plan of is not checked. -/
def synthesize (p : Plan) (o : Options) : Logged SynthesisError CodeUnit := do
  for (category, count) in p.sizes do
    if 0 < count then tell .debug s!"{category}: {count}"
  let (a, wiring) ← liftExcept (p.assemble o)
  if wiring.declared then tell .debug "declared serialization feature requirement"
  let u ← liftExcept a.finish
  tell .info (s!"generated {u.name} with {p.classes.size} class workers and " ++
    s!"{p.jniClasses.length} JNI workers")
  return u
where
  liftExcept {α : Type} (x : Except SynthesisError α) : Logged SynthesisError α :=
    ExceptT.mk (pure x)

end Plan

namespace Declarations

/-- The unit of declarations, which have to be valid. -/
def synthesize (d : Declarations) (o : Options) : Logged SynthesisError CodeUnit := do
  match d.validate with
  | .error v =>
    tell .error ("rejected declarations: " ++ v.message)
    throw (.invalid v)
  | .ok () =>
    tell .debug s!"merging {d.itemCount} declaration items"
    (Plan.ofDeclarations d).synthesize o

variable {m : Type → Type} [Monad m]

/-- Synthesizes a unit and writes its encoded form to a sink, under the name of the unit. -/
def generate (d : Declarations) (o : Options) (sink : Sink m) :
    LoggedT m SynthesisError CodeUnit := do
  let u ← (d.synthesize o).lift
  match u.encode with
  | .error e => throw (.unencodable e)
  | .ok bytes =>
    match ← (sink.write u.name bytes : m (Except StorageFault Unit)) with
    | .error e => throw (.unwritten u.name e)
    | .ok () =>
      tell .debug s!"wrote {u.name} ({bytes.length} bytes)"
      return u

end Declarations
end Registrar
