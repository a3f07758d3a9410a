import Registrar.Platform
import Registrar.Proofs.Running.Action

/-! What code in direct style is put together from. All that workers and the entry point do are calls
of the platform, new arrays, regions, and the one choice between the two ways to a constructor for
serialization. What holds of each of these parts and is kept when they are put together holds of the
whole code. -/
namespace Registrar

open Platform

variable {σ : Type}

namespace Setting

/-- The action is put together from what generated code consists of. -/
inductive Composes (e : Setting σ) : {α : Type} → Action σ α → Prop
  | done {α : Type} (a : α) : Composes e (pure a)
  | bind {α β : Type} {d : Action σ α} {g : α → Action σ β} (first : Composes e d)
      (rest : ∀ a, Composes e (g a)) : Composes e (d >>= g)
  | newArray (values : List Value) : Composes e (Action.newArray values)
  | loadClass (name : String) : Composes e (e.loadClass name)
  | newInstance (name : String) : Composes e (e.newInstance name)
  | callStatic {m : MethodRef} (platform : m ∈ methods) (args : List Value) :
      Composes e (e.callStatic m args)
  | callVirtual (m : MethodRef) (receiver : Value) (args : List Value) :
      Composes e (e.callVirtual m receiver args)
  | callInterface (m : MethodRef) (receiver : Value) (args : List Value) :
      Composes e (e.callInterface m receiver args)
  /-- The two sides of a choice, which is made by asking whether something is abstract. -/
  | byAbstractness {α : Type} (args : List Value) {onTrue onFalse : Action σ α}
      (first : Composes e onTrue) (second : Composes e onFalse) :
      Composes e (e.callStatic isAbstract args >>= (Action.choose · onTrue onFalse))
  | isolated (onFault : OnFault) {body : Action σ Unit} (inner : Composes e body) :
      Composes e (e.isolated onFault body)

namespace Composes

variable {e : Setting σ} {α β ι : Type}

theorem forget {d : Action σ α} (h : e.Composes d) : e.Composes (discard d) :=
  bind h fun _ => done ()

/-- A step that may be left out. -/
theorem optional {c : Bool} {d : Action σ Unit} {r : Action σ β} (h : e.Composes d)
    (rest : e.Composes r) : e.Composes (if c then d >>= fun _ => r else r) := by
  cases c
  · exact rest
  · exact bind h fun _ => rest

theorem category {empty : Bool} {d : Action σ Unit} (h : e.Composes d) :
    e.Composes (unless empty do d) := by
  cases empty
  · exact h
  · exact done ()

theorem forM {f : ι → Action σ Unit} (as : List ι) (h : ∀ a, e.Composes (f a)) :
    e.Composes (as.forM f) := by
  induction as with
  | nil => exact done ()
  | cons a as ih => exact bind (h a) fun _ => ih

theorem mapM {f : ι → Action σ α} (as : List ι) (h : ∀ a, e.Composes (f a)) :
    e.Composes (as.mapM f) := by
  induction as with
  | nil => exact done []
  | cons a as ih =>
    rw [List.mapM_cons]
    exact bind (h a) fun b => bind ih fun bs => done (b :: bs)

end Composes
end Setting
end Registrar
