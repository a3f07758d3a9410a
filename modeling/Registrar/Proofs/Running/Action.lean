import Registrar.Evaluation.Basic
import Registrar.Synthesis.Region

/-! Generated code in direct style. An action does what a piece of emitted code does when it runs, but
hands the values themselves on and knows neither slots nor frames. It is a function of the host
alone: which calls it makes, in which order, and what becomes of a fault. -/
namespace Registrar

/-- Why an action stops before its end. -/
inductive Stop where
  | fault (f : Fault)
  /-- The run is given up; no region handles this. -/
  | stuck
  deriving DecidableEq

/-- What a halt of the machine is to an action. -/
def Halt.stop : Halt → Stop
  | fault f => .fault f
  | error _ => .stuck
  | exhausted => .stuck

/-- What a host and the values that it hands out undergo. -/
abbrev Action (σ : Type) := ExceptT Stop (StateM (World σ))

/-- Where actions take place: on a host, as code of a unit of this name. -/
structure Setting (σ : Type) where
  host : Host σ
  self : String

/-- The setting that a routine of a unit runs in. -/
def Context.setting {σ : Type} (env : Context σ) : Setting σ := ⟨env.host, env.self⟩

section

variable {ε τ α β : Type} {x : ExceptT ε (StateM τ) α} {s t : τ}

/-- A program that ends goes on with its result. -/
theorem bind_apply_of_ok {a : α} (h : x s = (.ok a, t)) (f : α → ExceptT ε (StateM τ) β) :
    (x >>= f) s = f a t := by
  simp only [bind, ExceptT.bind, ExceptT.mk, StateT.bind]
  rw [h]
  rfl

/-- A program that stops early takes no further step. -/
theorem bind_apply_of_error {e : ε} (h : x s = (.error e, t)) (f : α → ExceptT ε (StateM τ) β) :
    (x >>= f) s = (.error e, t) := by
  simp only [bind, ExceptT.bind, ExceptT.mk, StateT.bind]
  rw [h]
  rfl

/-- Programs that come to the same go on alike. -/
theorem bind_apply_congr {y : ExceptT ε (StateM τ) α} (h : x s = y t)
    (f : α → ExceptT ε (StateM τ) β) : (x >>= f) s = (y >>= f) t := by
  rcases ran : y t with ⟨e | a, u⟩
  · rw [bind_apply_of_error (h.trans ran), bind_apply_of_error ran]
  · rw [bind_apply_of_ok (h.trans ran), bind_apply_of_ok ran]

theorem pure_apply (a : α) (s : τ) : (pure a : ExceptT ε (StateM τ) α) s = (.ok a, s) := rfl

end

namespace Action

variable {σ α β : Type}

theorem world_discard (d : Action σ α) (w : World σ) :
    ((discard d : Action σ Unit) w).2 = (d w).2 := by
  rcases ran : d w with ⟨e | a, w'⟩
  · have dropped : (discard d : Action σ Unit) w = (.error e, w') := bind_apply_of_error ran _
    rw [dropped]
  · have dropped : (discard d : Action σ Unit) w = (.ok (), w') := bind_apply_of_ok ran _
    rw [dropped]

theorem world_then_return (d : Action σ Unit) (v : Value) (w : World σ) :
    ((do d; return v : Action σ Value) w).2 = (d w).2 := by
  rcases ran : d w with ⟨e | a, w'⟩
  · rw [bind_apply_of_error ran]
  · rw [bind_apply_of_ok ran, pure_apply]

def stuck : Action σ α := fun w => (.error .stuck, w)

def ask (question : World σ → Reply σ) : Action σ Value := fun w =>
  match question w with
  | (.ok value, w) => (.ok value, w)
  | (.error f, w) => (.error (.fault f), w)

/-- Goes one way or the other. -/
def choose (condition : Value) (onTrue onFalse : Action σ α) : Action σ α :=
  match condition with
  | .bool true => onTrue
  | .bool false => onFalse
  | _ => stuck

theorem choose_bool (b : Bool) (onTrue onFalse : Action σ α) :
    choose (.bool b) onTrue onFalse = if b then onTrue else onFalse := by cases b <;> rfl

/-- A new array that holds the values. -/
def newArray (values : List Value) : Action σ Value := fun w =>
  let (cell, store) := w.store.alloc values
  (.ok (.array cell), { w with store })

/-- Puts a value into an array, which has to have the place. -/
def storeAt (array : Value) (index : UInt32) (value : Value) : Action σ Unit :=
  match array with
  | .array cell => fun w =>
    let values := w.store.elements cell
    if index.toNat < values.length then
      (.ok (), { w with store := w.store.write cell (values.set index.toNat value) })
    else (.error (.fault (.outOfBounds index)), w)
  | _ => stuck

/-- Storing in order fills an array from a place on, when each round of the loop stores one value. -/
theorem forM_storeAt {f : Value × Nat → Action σ Unit} {cell : Nat}
    (stores : ∀ p w w', storeAt (.array cell) p.2.toUInt32 p.1 w = (.ok (), w') →
      f p w = (.ok (), w')) (xs : List Value) (filled : List Value) (w : World σ)
    (made : cell < w.store.cells.size) (fits : filled.length + xs.length ≤ UInt32.size)
    (open_ : w.store.elements cell = filled ++ List.replicate xs.length .null) :
    (xs.zipIdx filled.length).forM f w =
      (.ok (), { w with store := w.store.write cell (filled ++ xs) }) := by
  -- Before each round the first elements are filled and those behind them are still null.
  induction xs generalizing filled w with
  | nil =>
    rw [List.append_nil]
    rw [List.length_nil, List.replicate_zero, List.append_nil] at open_
    rw [← open_, Store.write_elements]
    rfl
  | cons x xs ih =>
    have index : filled.length.toUInt32.toNat = filled.length :=
      UInt32.toNat_ofNat_of_lt' (by simp only [List.length_cons] at fits; omega)
    have set : (w.store.elements cell).set filled.length x =
        filled ++ [x] ++ List.replicate xs.length .null := by
      rw [open_, List.length_cons, List.replicate_succ]
      simp
    have room : filled.length < (w.store.elements cell).length := by
      rw [open_]
      simp
    let next : World σ :=
      { w with store := w.store.write cell (filled ++ [x] ++ List.replicate xs.length .null) }
    have stored : storeAt (.array cell) filled.length.toUInt32 x w = (.ok (), next) := by
      simp only [storeAt, index, room, if_true, set, next]
    have rest := ih (filled ++ [x]) next (by simpa [next] using made)
      (by simp at fits ⊢; omega) (by simp [next, made])
    change (f (x, filled.length) >>= fun _ => (xs.zipIdx (filled.length + 1)).forM f) w = _
    rw [bind_apply_of_ok (stores (x, filled.length) w next stored)]
    simpa [next] using rest

/-- An array that is made and then filled. -/
theorem newArray_then_store (f : Value → Value × Nat → Action σ Unit) (xs : List Value)
    (fits : xs.length ≤ UInt32.size)
    (stores : ∀ a p w w', storeAt a p.2.toUInt32 p.1 w = (.ok (), w') → f a p w = (.ok (), w')) :
    (do
      let a ← newArray (List.replicate xs.length .null)
      xs.zipIdx.forM (f a)
      return a) = newArray xs := by
  funext w
  let made : World σ := { w with store := (w.store.alloc (List.replicate xs.length .null)).2 }
  have filled := forM_storeAt (stores (.array w.store.cells.size)) xs [] made
    (by simp [made, Store.alloc]) (by simpa using fits) (by simp [made])
  have start : newArray (List.replicate xs.length .null) w =
      (.ok (.array w.store.cells.size), made) := rfl
  rw [List.length_nil, List.nil_append] at filled
  rw [bind_apply_of_ok start, bind_apply_of_ok filled, pure_apply]
  simp only [made, Store.write_alloc]
  rfl

end Action

namespace Setting

open Registrar.Action

variable {σ : Type} (e : Setting σ)

def loadClass (name : String) : Action σ Value :=
  if name = e.self then pure (.classRef name) else ask (e.host.loadClass name)

def newInstance (name : String) : Action σ Value := ask (e.host.newInstance name)

/-- A unit that takes the name of the owner of a platform method hides the method from itself. -/
def callStatic (m : MethodRef) (args : List Value) : Action σ Value :=
  if m.owner = e.self then stuck else ask (e.host.invoke .static m none args)

def callVirtual (m : MethodRef) (receiver : Value) (args : List Value) : Action σ Value :=
  ask (e.host.invoke .virtual m (some receiver) args)

def callInterface (m : MethodRef) (receiver : Value) (args : List Value) : Action σ Value :=
  ask (e.host.invoke .interface m (some receiver) args)

/-- What a region does with a fault. -/
def handle (onFault : OnFault) (f : Fault) : Action σ Unit :=
  match onFault with
  | .report => discard (e.callVirtual Platform.printStackTrace (.throwable f) [])
  | .drop => pure ()

/-- No fault of the body leaves the region. -/
def isolated (onFault : OnFault) (body : Action σ Unit) : Action σ Unit := fun w =>
  match body w with
  | (.error (.fault f), w) => e.handle onFault f w
  | other => other

section

variable {e} {onFault : OnFault} {body : Action σ Unit} {w w' : World σ}

theorem isolated_of_ok (h : body w = (.ok (), w')) : e.isolated onFault body w = (.ok (), w') := by
  simp only [isolated, h]

theorem isolated_of_fault {f : Fault} (h : body w = (.error (.fault f), w')) :
    e.isolated onFault body w = e.handle onFault f w' := by
  simp only [isolated, h]

theorem isolated_of_stuck (h : body w = (.error .stuck, w')) :
    e.isolated onFault body w = (.error .stuck, w') := by
  simp only [isolated, h]

end

end Setting
end Registrar
