import Registrar.Synthesis.ClassWorker

/-! The routine that registers one class and its members for access from native code. -/
namespace Registrar

open Platform

/-- The routine for the JNI record at a place of the plan. -/
def jniWorkerHead (index : Nat) : RoutineHead :=
  { name := "registerJniAccessibleClass" ++ toString index
    modifiers := { isPrivate := true, isStatic := true } }

namespace JniRecord

/-- Of each kind either all members are registered or none. -/
def register (r : JniRecord) : Emission Unit := do
  let (class_, _) ← Emission.resolveClass r.className
  let members ← Members.fetch class_
  registerOne jniRegisterClasses classType class_
  if r.constructors then discard (Emit.invokeStatic jniRegisterExecutables [members.constructors])
  if r.methods then discard (Emit.invokeStatic jniRegisterExecutables [members.methods])
  if r.fields then
    let writable ← Emit.bool r.finalFieldsWritable
    discard (Emit.invokeStatic jniRegisterFields [writable, members.fields])

/-- The worker of a record, whose faults stay within it. -/
def worker (r : JniRecord) (o : Options) (index : Nat) : Routine :=
  (jniWorkerHead index).routine do
    Emission.isolated o.workerOnFault r.register
    Emit.leave none

end JniRecord
end Registrar
