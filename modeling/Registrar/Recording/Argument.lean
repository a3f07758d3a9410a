import Registrar.Recording.Catalogue

/-! What a recording host makes of the receiver and the arguments of a call. -/
namespace Registrar

def unsupported (m : MethodRef) : Fault := ⟨"java.lang.UnsupportedOperationException", m.text⟩

/-- Something other was found than is asked for. -/
def unexpected (s : Store) (expected : String) (found : Option Value) : Fault :=
  ⟨"java.lang.IllegalArgumentException",
    "expected " ++ expected ++ ", found " ++ describeOption s found⟩

/-! ### Arguments -/

section

variable (s : Store)

/-- The view of a value, which has to be of the expected kind. -/
def expect {α : Type} (expected : String) (view : Value → Option α) (v : Value) : Except Fault α :=
  match view v with
  | some a => .ok a
  | none => .error (unexpected s expected (some v))

def argument (args : List Value) (index : Nat) : Except Fault Value :=
  match args[index]? with
  | some v => .ok v
  | none => .error (unexpected s ("argument " ++ toString index) none)

def stringArgument (args : List Value) (index : Nat) : Except Fault String :=
  argument s args index >>= expect s "a string" Value.asStr?

def boolArgument (args : List Value) (index : Nat) : Except Fault Bool :=
  argument s args index >>= expect s "a boolean" Value.asBool?

def className (v : Value) : Except Fault String := expect s "a class" Value.asClass? v

def classArgument (args : List Value) (index : Nat) : Except Fault String :=
  argument s args index >>= className s

def elementsArgument (args : List Value) (index : Nat) : Except Fault (List Value) :=
  argument s args index >>= expect s "an array" s.elements?

/-- The names of the classes in an array. -/
def classesArgument (args : List Value) (index : Nat) : Except Fault (List String) := do
  (← elementsArgument s args index).mapM (className s)

def membersArgument (args : List Value) (index : Nat) : Except Fault (List Member) := do
  (← elementsArgument s args index).mapM (expect s "a member" Value.asMember?)

/-- The name of a bundle, which is passed as the first of several values. -/
def bundleName (passed : List Value) : Except Fault String :=
  match passed.head?.bind Value.asStr? with
  | some bundle => .ok bundle
  | none => .error (unexpected s "a bundle name" passed.head?)

/-- The view of a receiver, which has to be of the expected kind. -/
def receiverAs {α : Type} (expected : String) (view : Value → Option α) (receiver : Option Value) :
    Except Fault α :=
  match receiver.bind view with
  | some a => .ok a
  | none => .error (unexpected s expected receiver)

end

end Registrar
