import Registrar.Proofs.Tracing.Trace
import Mathlib.Logic.Function.Basic

/-! The slots of a frame. However many of them a routine asks for, a frame is a map from numbers to
values that starts empty and takes a value under any number. What a unit says about its slots is
therefore never seen, neither in what its routines give nor in what the host is asked. -/
namespace Registrar

variable {σ ε : Type}

namespace Frame

theorem get?_enter (r : Routine) (args : List Value) : (enter r args).get? = fun _ => none := by
  funext v
  simp only [enter, get?, Array.getElem?_replicate]
  split <;> rfl

theorem get?_set (f : Frame) (v : ValueId) (x : Value) :
    (f.set v x).get? = Function.update f.get? v (some x) := by
  funext u
  by_cases same : u = v
  · rw [same, get?_set_self, Function.update_self]
  · rw [get?_set_of_ne f x same, Function.update_of_ne same]

end Frame

namespace Embedding

/-- Each world in itself. -/
def same : Embedding σ σ := .ofHost id

theorem value_same : (same : Embedding σ σ).value = id := value_ofHost _

theorem carries_same (f : World σ → Except ε Value × World σ) : same.Carries f f :=
  (same.carries_iff value_same).2 fun _ => rfl

theorem fits_same (env : Context σ) : same.Fits env env where
  self := rfl
  serves :=
    { loadClass := fun _ => carries_same _
      newInstance := fun _ => carries_same _
      invoke := fun kind m receiver args => by
        rw [value_same, Option.map_id, List.map_id]
        exact carries_same _ }
  call routine args := by
    rw [value_same, List.map_id]
    exact carries_same _

end Embedding

/-- The routine with another number of slots. -/
def Routine.withSlots (r : Routine) (count : UInt32) : Routine := { r with valueCount := count }

theorem Context.run_withSlots (env : Context σ) (r : Routine) (count : UInt32) :
    env.run (r.withSlots count) = env.run r := by
  funext args w
  have named : (r.withSlots count).name = r.name := rfl
  have carries := run_embedded (Embedding.fits_same env) named rfl args
  rw [Embedding.value_same, List.map_id] at carries
  exact (Embedding.same.carries_iff Embedding.value_same).1 carries w

namespace CodeUnit

/-- The unit in which the routine at each place asks for another number of slots. -/
def withSlots (u : CodeUnit) (counts : Nat → UInt32) : CodeUnit :=
  { u with routines := u.routines.mapIdx fun place r => r.withSlots (counts place) }

variable (u : CodeUnit) (counts : Nat → UInt32)

/-- Under each name stands the same routine, up to the number of its slots. -/
theorem routine?_withSlots (name : String) :
    (u.routine? name = none ∧ (u.withSlots counts).routine? name = none) ∨
      ∃ r count, u.routine? name = some r ∧
        (u.withSlots counts).routine? name = some (r.withSlots count) := by
  unfold routine? withSlots
  generalize u.routines = routines
  induction routines generalizing counts with
  | nil => exact .inl ⟨rfl, rfl⟩
  | cons r routines ih =>
    have named : (r.withSlots (counts 0)).name = r.name := rfl
    simp only [List.mapIdx_cons, List.find?_cons, named]
    cases r.name == name with
    | true => exact .inr ⟨r, counts 0, rfl, rfl⟩
    | false => exact ih fun place => counts (place + 1)

/-- Induction on the depth: a routine is left with what its body gives, and calls of own routines
are made one level further down. -/
theorem call_withSlots (host : Host σ) (depth : Nat) :
    (u.withSlots counts).call host depth = u.call host depth := by
  induction depth with
  | zero => rfl
  | succ depth ih =>
    funext name args w
    have env : (u.withSlots counts).context host depth = u.context host depth := by
      rw [context, context, ih]
      rfl
    rcases u.routine?_withSlots counts name with ⟨missing, missing'⟩ | ⟨r, count, found, found'⟩
    · rw [call, call, missing, missing']
    · rw [call_of_found host depth found, call_of_found host depth found', env,
        Context.run_withSlots]

theorem watch_withSlots (host : Host σ) (depth : Nat) :
    (u.withSlots counts).watch host depth = u.watch host depth := by
  induction depth with
  | zero => rfl
  | succ depth ih =>
    funext name args w
    rcases u.routine?_withSlots counts name with ⟨missing, missing'⟩ | ⟨r, count, found, found'⟩
    · rw [watch, watch, missing, missing']
    · rw [watch_of_found depth found, watch_of_found depth found', ih, Context.run_withSlots]
      rfl

/-- The slots of a frame are a map that starts empty, whatever number of them a routine asks for, and
that takes any value under any number. So whatever numbers the routines of a unit ask for, every
call from outside ends in the same way, with the same answer or the same error and in the same
world, and takes the same steps, the questions to the host among them. This holds at each depth to
which own routines may call each other, and so also of whether a call ends at all. -/
theorem withSlots_unseen (host : Host σ) (depth : Nat) (routine : String) (args : List Value)
    (w : World σ) :
    (∀ r : Routine, (Frame.enter r args).get? = fun _ => none) ∧
    (∀ (f : Frame) (v : ValueId) (x : Value),
      (f.set v x).get? = Function.update f.get? v (some x)) ∧
    (u.withSlots counts).run host depth routine args w = u.run host depth routine args w ∧
    (u.withSlots counts).trace host depth routine args w = u.trace host depth routine args w := by
  refine ⟨fun r => Frame.get?_enter r args, Frame.get?_set, ?_, ?_⟩
  · rw [run, run, call_withSlots]
  · rw [trace, trace, watch_withSlots]

end CodeUnit
end Registrar
