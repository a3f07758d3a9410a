import Registrar.Evaluation.Host

/-! Running the routines of a unit. Calls of the unit's own routines are followed, everything else
is asked of the host. -/
namespace Registrar

inductive EvaluationError where
  | unknownRoutine (name : String)
  | uncaught (routine : String) (fault : Fault)
  | unassignedValue (routine : String) (value : ValueId)
  | notAnArray (routine : String) (value : ValueId)
  | typeMismatch (routine : String) (value : ValueId) (expected : String)
  | missingArgument (routine : String) (index : UInt16)
  deriving DecidableEq

namespace EvaluationError

def message : EvaluationError → String
  | unknownRoutine name => s!"unit has no routine `{name}`"
  | uncaught routine fault => s!"uncaught failure escaped routine `{routine}`: {fault.text}"
  | unassignedValue routine v => s!"value {v.text} read before assignment in `{routine}`"
  | notAnArray routine v => s!"value {v.text} in `{routine}` is not an array"
  | typeMismatch routine v expected => s!"value {v.text} in `{routine}` is not a {expected}"
  | missingArgument routine index => s!"routine `{routine}` has no argument {index.toNat}"

end EvaluationError

/-- Why instructions stop before their end. Only a fault can be caught. -/
inductive Halt where
  | fault (f : Fault)
  | error (e : EvaluationError)
  /-- Calls of own routines are nested deeper than they were allowed to be. -/
  | exhausted
  deriving DecidableEq

/-- A routine while it runs. -/
structure Frame where
  routine : String
  args : List Value
  slots : Array (Option Value)

namespace Frame

/-- A frame with empty slots, as many as the routine says. -/
def enter (r : Routine) (args : List Value) : Frame where
  routine := r.name
  args
  slots := Array.replicate r.valueCount.toNat none

def get? (f : Frame) (v : ValueId) : Option Value := f.slots[v.number.toNat]?.join

/-- Fills a slot; the frame grows if it has no such slot yet. -/
def set (f : Frame) (v : ValueId) (value : Value) : Frame :=
  let index := v.number.toNat
  let slots := f.slots ++ Array.replicate (index + 1 - f.slots.size) none
  { f with slots := slots.setIfInBounds index (some value) }

end Frame

/-- A frame in a world. -/
structure Machine (σ : Type) where
  frame : Frame
  world : World σ

/-- Steps of a machine. What they have changed stays changed if they stop early. -/
abbrev Exec (σ : Type) := ExceptT Halt (StateM (Machine σ))

/-- What the routines of a unit run in. -/
structure Context (σ : Type) where
  host : Host σ
  /-- The binary name of the unit. -/
  self : String
  /-- How own routines are called. -/
  call : (routine : String) → (args : List Value) → World σ → Except Halt Value × World σ

namespace Exec

variable {σ α : Type}

def error (e : String → EvaluationError) : Exec σ α :=
  ExceptT.mk fun m => (.error (.error (e m.frame.routine)), m)

def read (v : ValueId) : Exec σ Value := fun m =>
  match m.frame.get? v with
  | some value => (.ok value, m)
  | none => error (.unassignedValue · v) m

def write (v : ValueId) (value : Value) : Exec σ Unit :=
  modify fun m => { m with frame := m.frame.set v value }

def readParam (index : UInt16) : Exec σ Value := fun m =>
  match m.frame.args[index.toNat]? with
  | some value => (.ok value, m)
  | none => error (.missingArgument · index) m

/-- Asks the host. -/
def ask (question : World σ → Reply σ) : Exec σ Value := fun m =>
  let (answer, world) := question m.world
  (answer.mapError .fault, { m with world })

/-- Calls an own routine, which gets a frame of its own. -/
def call (env : Context σ) (routine : String) (args : List Value) : Exec σ Value := fun m =>
  let (result, world) := env.call routine args m.world
  (result, { m with world })

/-- A new array of a length, with null in every place. -/
def newArray (length : UInt32) : Exec σ Value := fun m =>
  let (cell, store) := m.world.store.alloc (List.replicate length.toNat .null)
  (.ok (.array cell), { m with world.store := store })

/-- Puts a value into an array, which has to have the place. -/
def storeAt (array : ValueId) (index : UInt32) (value : Value) : Exec σ Unit := do
  match ← read array with
  | .array cell => fun m =>
    let values := m.world.store.elements cell
    if index.toNat < values.length then
      (.ok (), { m with world.store := m.world.store.write cell (values.set index.toNat value) })
    else (.error (.fault (.outOfBounds index)), m)
  | _ => error (.notAnArray · array)

/-- Loads a class; the unit knows its own. -/
def loadClass (env : Context σ) (name : String) : Exec σ Value :=
  if name = env.self then pure (.classRef name) else ask (env.host.loadClass name)

/-- A static call of an own method runs the routine of that name. Every other call goes to the
host, and only then is the receiver read. -/
def invoke (env : Context σ) (kind : InvokeKind) (method : MethodRef) (receiver : Option ValueId)
    (args : List ValueId) : Exec σ Value := do
  let args ← args.mapM read
  if kind = .static ∧ method.owner = env.self then call env method.name args
  else
    let receiver ← receiver.mapM read
    ask (env.host.invoke kind method receiver args)

/-- A fault of this type, or any fault if the type is the root of all. -/
def catches (exceptionType : String) (f : Fault) : Bool :=
  exceptionType == throwable || exceptionType == f.exception

end Exec

def Constant.value : Constant → Value
  | null => .null
  | bool b => .bool b
  | int n => .int n
  | str s => .str s

open Exec in
mutual

/-- Runs an instruction. A value as result means that the routine is left with it. -/
def Instruction.exec {σ : Type} (env : Context σ) : Instruction → Exec σ (Option Value)
  | .const dest c => do
    write dest c.value
    return none
  | .loadClass dest name => do
    write dest (← loadClass env name)
    return none
  | .param dest index => do
    write dest (← readParam index)
    return none
  | .invoke dest kind method receiver args => do
    write dest (← invoke env kind method receiver args)
    return none
  | .newInstance dest name => do
    write dest (← ask (env.host.newInstance name))
    return none
  | .newArray dest _ length => do
    write dest (← newArray length)
    return none
  | .store array index value => do
    storeAt array index (← read value)
    return none
  | .declare dest _ => do
    write dest .null
    return none
  | .assign target value => do
    write target (← read value)
    return none
  | .branch condition onTrue onFalse => do
    match ← read condition with
    | .bool true => Block.exec env onTrue
    | .bool false => Block.exec env onFalse
    | _ => error (.typeMismatch · condition "boolean")
  | .isolate body exceptionType caught handler => fun m =>
    match Block.exec env body m with
    | (.error (.fault f), m) =>
      if catches exceptionType f then
        (do write caught (.throwable f); Block.exec env handler) m
      else (.error (.fault f), m)
    | other => other
  | .leave none => return some .null
  | .leave (some value) => return some (← read value)

/-- Runs instructions until one leaves the routine. -/
def Block.exec {σ : Type} (env : Context σ) : List Instruction → Exec σ (Option Value)
  | [] => return none
  | i :: is => do
    match ← Instruction.exec env i with
    | some value => return some value
    | none => Block.exec env is

end

/-- How a run ends. -/
inductive Outcome where
  | returned (value : Value)
  | failed (e : EvaluationError)
  /-- The run was given up. -/
  | exhausted
  deriving DecidableEq

namespace CodeUnit

/-- Calls a routine, from which own routines are called at most `depth` levels deep. A routine that
ends without a value gives null. -/
def call {σ : Type} (u : CodeUnit) (host : Host σ) :
    (depth : Nat) → (routine : String) → (args : List Value) → World σ →
      Except Halt Value × World σ
  | 0, _, _, w => (.error .exhausted, w)
  | depth + 1, name, args, w =>
    match u.routine? name with
    | none => (.error (.error (.unknownRoutine name)), w)
    | some r =>
      let env : Context σ := { host, self := u.binaryName, call := u.call host depth }
      let (result, m) := Block.exec env r.body ⟨.enter r args, w⟩
      (result.map (·.getD .null), m.world)

/-- Runs a routine from outside. -/
def run {σ : Type} (u : CodeUnit) (host : Host σ) (depth : Nat) (routine : String)
    (args : List Value) (w : World σ) : Outcome × World σ :=
  match u.call host depth routine args w with
  | (.ok value, w) => (.returned value, w)
  | (.error (.fault f), w) => (.failed (.uncaught routine f), w)
  | (.error (.error e), w) => (.failed e, w)
  | (.error .exhausted, w) => (.exhausted, w)

end CodeUnit
end Registrar
