import Registrar.Plan.Record
import Registrar.Synthesis.Options
import Registrar.Synthesis.Region

/-! The routine that registers one class and those of its members that are reached by reflection. -/
namespace Registrar

open Platform

/-- The routine for the record at a place of the plan. -/
def classWorkerHead (index : Nat) : RoutineHead :=
  { name := "registerClass" ++ toString index
    modifiers := { isPrivate := true, isStatic := true } }

/-- What workers do with the faults that they catch. -/
def Options.workerOnFault (o : Options) : OnFault := if o.logWorkerFailures then .report else .drop

namespace Signature

/-- The parameter types as an array of classes. -/
def parameterTypes (s : Signature) : Emission ValueId := do
  let types ← s.params.mapM Emit.loadClass
  Emit.arrayOf classType types

end Signature

/-- Registers one member, or one class, in an array of its own. -/
def registerOne (register : MethodRef) (component : String) (member : ValueId) : Emission Unit := do
  let single ← Emit.arrayOf component [member]
  discard (Emit.invokeStatic register [single])

/-- A constructor for instances of a class that are made without running its own constructors; an
abstract class gets that of a stub. Both cases fill one variable. -/
def serializationConstructor (class_ factory : ValueId) : Emission ValueId := do
  let constructor ← Emit.declare constructorType
  let modifiers ← Emit.invokeVirtual getModifiers class_ []
  let abstract_ ← Emit.invokeStatic isAbstract [modifiers]
  Emit.branch abstract_
    (do
      let stub ← Emit.loadClass stubForAbstractClassType
      let made ← Emit.invokeVirtual newConstructorForSerialization factory [stub]
      Emit.assign constructor made)
    (do
      let made ← Emit.invokeVirtual newConstructorForSerialization factory [class_]
      Emit.assign constructor made)
  return constructor

/-- Serialization gets at the instances of a class through the accessor of such a constructor. -/
def addAccessor (class_ objectClass : ValueId) : Emission Unit := do
  let support ← Emission.singleton serializationRegistryType
  let factory ← Emit.invokeStatic getReflectionFactory []
  let constructor ← serializationConstructor class_ factory
  let constructorClass ← Emit.invokeVirtual getDeclaringClass constructor []
  let reflected ← Emit.loadClass constructorType
  let accessorName ← Emit.str getConstructorAccessor
  let noParams ← Emit.newArray classType 0
  let lookup ← Emit.invokeStatic lookupMethod [reflected, accessorName, noParams]
  let noArgs ← Emit.newArray objectType 0
  let accessor ← Emit.invokeVirtual methodInvoke lookup [constructor, noArgs]
  discard (Emit.invokeVirtual addConstructorAccessor support [class_, constructorClass, accessor])
  discard (Emit.invokeStatic addReflections [class_, objectClass])

namespace ClassRecord

/-- All constructors at once if that is asked for, or else the named ones. -/
def registerConstructors (r : ClassRecord) (class_ : ValueId) (members : Members) :
    Emission Unit :=
  if r.capabilities.constructors then
    discard (Emit.invokeStatic reflectionRegisterExecutables [members.constructors])
  else r.constructors.toList.forM fun s => do
    let params ← s.parameterTypes
    let found ← Emit.invokeVirtual getDeclaredConstructor class_ [params]
    registerOne reflectionRegisterExecutables constructorType found

/-- All methods at once if that is asked for, or else the named ones. -/
def registerMethods (r : ClassRecord) (class_ : ValueId) (members : Members) : Emission Unit :=
  if r.capabilities.methods then
    discard (Emit.invokeStatic reflectionRegisterExecutables [members.methods])
  else r.methods.toList.forM fun s => do
    let name ← Emit.str s.name
    let params ← s.parameterTypes
    let found ← Emit.invokeVirtual getDeclaredMethod class_ [name, params]
    registerOne reflectionRegisterExecutables methodType found

/-- All fields at once if that is asked for, or else the named ones. Whether they may be written
and serialized is said only of all of them. -/
def registerFields (r : ClassRecord) (class_ : ValueId) (members : Members) : Emission Unit :=
  if r.capabilities.fields then do
    let writable ← Emit.bool r.capabilities.finalFieldsWritable
    let serializable ← Emit.bool r.capabilities.serialization
    discard (Emit.invokeStatic reflectionRegisterFieldsWithFlags
      [writable, serializable, members.fields])
  else r.fields.toList.forM fun name => do
    let name ← Emit.str name
    let found ← Emit.invokeVirtual getDeclaredField class_ [name]
    registerOne reflectionRegisterFields fieldType found

/-- Everything that can fail without effect comes first: the class, its members, and the root class
if it will be needed. -/
def register (r : ClassRecord) : Emission Unit := do
  let (class_, loader) ← Emission.resolveClass r.className
  let members ← Members.fetch class_
  if r.capabilities.serialization then
    let objectClass ← Emission.findClass objectType loader
    registerMembers class_ members
    addAccessor class_ objectClass
  else registerMembers class_ members
where
  registerMembers (class_ : ValueId) (members : Members) : Emission Unit := do
    unless r.capabilities.weak do registerOne reflectionRegisterClasses classType class_
    r.registerConstructors class_ members
    r.registerMethods class_ members
    r.registerFields class_ members

/-- The worker of a record, whose faults stay within it. -/
def worker (r : ClassRecord) (o : Options) (index : Nat) : Routine :=
  (classWorkerHead index).routine do
    Emission.isolated o.workerOnFault r.register
    Emit.leave none

end ClassRecord
end Registrar
