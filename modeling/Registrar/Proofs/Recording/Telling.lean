import Mathlib.Data.List.Forall2
import Registrar.Proofs.Recording.Script

/-! Walks against scripts. A walk tells a script if it notes the events of the script and ends at its
first fault. -/
namespace Registrar

open Platform

namespace Walk

/-- The walk notes what the script says, and ends with the fault of the script. -/
def Tells (x : Walk Unit) (s : Script) : Prop := x.events = s.events ∧ x.result = s.result

namespace Tells

variable {x y : Walk Unit} {s t : Script}

theorem done : (pure () : Walk Unit).Tells [] := ⟨rfl, rfl⟩

theorem note (e : Event) : (Walk.note e).Tells [.ok e] := ⟨rfl, rfl⟩

theorem call (m : MethodRef) (platform : m ∈ methods) : (Walk.call m platform).Tells [] :=
  ⟨rfl, rfl⟩

theorem demand (found : Bool) (f : Fault) :
    (Walk.demand found f).Tells (if found then [] else [.error f]) := by
  cases found <;> exact ⟨rfl, rfl⟩

theorem bind (hx : x.Tells s) (hy : y.Tells t) : (x >>= fun _ => y).Tells (s ++ t) := by
  obtain ⟨events, result⟩ := hx
  obtain ⟨events', result'⟩ := hy
  constructor
  · rw [events_bind, Script.events_append, events, result, events']
    cases s.result <;> rfl
  · rw [result_bind, Script.result_append, result, result']

/-- Nothing follows a fault. -/
theorem bind_stop {f : Fault} (hx : x.Tells [.error f]) (y : Walk Unit) :
    (x >>= fun _ => y).Tells [.error f] := by
  obtain ⟨events, result⟩ := hx
  have stopped : x.result = .error f := result
  constructor
  · rw [events_bind, stopped, events]
    rfl
  · rw [result_bind, stopped]
    rfl

/-- A walk that only looks for something lets through what is behind it. -/
theorem gate {found : Bool} {f : Fault} (hx : x.Tells (if found then [] else [.error f]))
    (hy : y.Tells t) : (x >>= fun _ => y).Tells (if found then t else [.error f]) := by
  cases found
  · exact bind_stop hx y
  · exact bind hx hy

/-- What is looked for is noted, or else ends the walk. -/
theorem gate_step {found : Bool} {f : Fault} {e : Event}
    (hx : x.Tells (if found then [] else [.error f])) (hy : y.Tells [.ok e]) :
    (x >>= fun _ => y).Tells [if found then .ok e else .error f] := by
  cases found
  · exact bind_stop hx y
  · exact bind hx hy

/-- A step that is taken only if a flag is set. -/
theorem optional {condition : Bool} (hx : x.Tells s) (hy : y.Tells t) :
    (if condition then x >>= fun _ => y else y).Tells ((if condition then s else []) ++ t) := by
  cases condition
  · exact hy
  · exact bind hx hy

theorem isolated (onFault : OnFault) (h : x.Tells s) :
    (x.isolated onFault).Tells (.sure (s.isolated onFault)) := by
  obtain ⟨events, result⟩ := h
  constructor
  · rw [Script.events_sure, Script.isolated, Walk.isolated, events, result]
    rfl
  · rw [Script.result_sure]
    rfl

/-- What is not found is reported by the region. -/
theorem reported {found : Bool} {f : Fault} {e : Event}
    (h : x.Tells [if found then .ok e else .error f]) :
    (x.isolated .report).Tells [.ok (if found then e else .failureReported f)] := by
  have told := isolated .report h
  cases found <;> exact told

/-- What is not found is left out by the region. -/
theorem dropped {found : Bool} {f : Fault} {e : Event}
    (h : x.Tells [if found then .ok e else .error f]) :
    (x.isolated .drop).Tells (if found then [.ok e] else []) := by
  have told := isolated .drop h
  cases found <;> exact told

section

variable {α : Type} {f : α → Walk Unit}

theorem forM {g : α → Script} (h : ∀ a, (f a).Tells (g a)) (as : List α) :
    (as.forM f).Tells (as.flatMap g) := by
  induction as with
  | nil => exact done
  | cons a as ih => exact (h a).bind ih

theorem forM_sure {α : Type} {f : α → Walk Unit} {g : α → List Event}
    (h : ∀ a, (f a).Tells (.sure (g a))) (as : List α) :
    (as.forM f).Tells (.sure (as.flatMap g)) := by
  rw [Script.sure, List.map_flatMap]
  exact forM h as

/-- Walks one after the other. -/
theorem forM₂ {xs : List (Walk Unit)} {ss : List Script} (h : List.Forall₂ Tells xs ss) :
    (xs.forM id).Tells ss.flatten := by
  induction h with
  | nil => exact done
  | cons first _ ih => exact bind first ih

/-- A loop over steps. -/
theorem forM_step {step : α → Except Fault Event} (h : ∀ a, (f a).Tells [step a]) (as : List α) :
    (as.forM f).Tells (as.map step) := by
  rw [List.map_eq_flatMap]
  exact forM h as

/-- A loop over items of which only some come to an event. -/
theorem forM_filter {noted : α → Bool} {e : α → Event}
    (h : ∀ a, (f a).Tells (if noted a then [.ok (e a)] else [])) (as : List α) :
    (as.forM f).Tells (.sure ((as.filter noted).map e)) := by
  induction as with
  | nil => exact done
  | cons a as ih =>
    have both := bind (h a) ih
    cases known : noted a
    · rw [known] at both
      rw [List.filter_cons_of_neg (by simp [known])]
      exact both
    · rw [known] at both
      rw [List.filter_cons_of_pos (by simp [known])]
      exact both

/-- A loop that only looks for things ends at the first one that is not found. -/
theorem forM_demand {found : α → Bool} {fault : α → Fault}
    (h : ∀ a, (f a).Tells (if found a then [] else [.error (fault a)])) (as : List α) :
    (as.forM f).Tells (match as.find? (!found ·) with
      | some a => [.error (fault a)]
      | none => []) := by
  induction as with
  | nil => exact done
  | cons a as ih =>
    have first := h a
    cases known : found a
    · simp only [known] at first
      rw [List.find?_cons_of_pos (by simp [known])]
      exact first.bind_stop _
    · simp only [known, if_true] at first
      rw [List.find?_cons_of_neg (by simp [known])]
      exact first.bind ih

end

theorem category {α : Type} {as : List α} {es : List Event} (h : x.Tells (.sure es)) :
    (unless as.isEmpty do x).Tells (.sure (if as.isEmpty then [] else es)) := by
  cases as.isEmpty
  · exact h
  · exact done

/-! ### Single steps -/

variable (scene : Scene)

theorem register (m : MethodRef) (e : Event) (platform : m ∈ methods) :
    (Scene.register m e platform).Tells [.ok e] :=
  bind (call m platform) (note e)

theorem findClass (name : String) : (scene.findClass name).Tells
    (if scene.catalogue.knows name then [] else [.error (.classNotFound name)]) :=
  bind (call _ _) (demand _ _)

theorem resolveClass (name : String) : (scene.resolveClass name).Tells
    (if scene.catalogue.knows name then [] else [.error (.classNotFound name)]) :=
  bind (call _ _) (findClass scene name)

theorem find (name : String) : (scene.find name).Tells
    (if scene.catalogue.knows name then [] else [.error (.classNotFound name)]) :=
  bind (call _ _) (demand _ _)

/-- What is done with the instance of a type. -/
theorem lookup (name : String) (hy : y.Tells t) :
    (do scene.lookup name; y).Tells (scene.withSingleton name t) := by
  have found : (scene.lookup name).Tells (if !scene.catalogue.missingSingletons.contains name
      then [] else [.error (.noSingleton name)]) := bind (call _ _) (demand _ _)
  have looked := gate found hy
  unfold Scene.withSingleton
  cases missing : scene.catalogue.missingSingletons.contains name <;> rw [missing] at looked <;>
    exact looked

theorem singleton {name : String} (platform : Catalogue.isPlatformClass name = true)
    (hy : y.Tells t) : (do scene.singleton name; y).Tells (scene.withSingleton name t) := by
  have loaded : scene.load name = pure () := by
    rw [Scene.load, Scene.loads, Catalogue.knows, platform, Bool.or_true, Bool.or_true]
    rfl
  have same : scene.singleton name = scene.lookup name := by
    rw [Scene.singleton, loaded]
    rfl
  rw [same]
  exact lookup scene name hy

end Tells
end Walk
end Registrar
