import Registrar.Declarations.Basic
import Registrar.Plan.Record

/-! The records of all classes, each class once and in the order in which it was named first. -/
namespace Registrar

structure ClassTable where
  records : List ClassRecord
  nodup : (records.map (·.className)).Nodup
  deriving DecidableEq

namespace ClassTable

def empty : ClassTable := ⟨[], List.nodup_nil⟩

def classNames (t : ClassTable) : List String := t.records.map (·.className)

def record? (t : ClassTable) (className : String) : Option ClassRecord :=
  t.records.find? (·.className == className)

def size (t : ClassTable) : Nat := t.records.length

@[simp] theorem classNames_empty : empty.classNames = [] := rfl

/-- Adds an empty record for a class that has none. -/
def claim (t : ClassTable) (className : String) : ClassTable :=
  if h : className ∈ t.records.map (·.className) then t
  else ⟨t.records ++ [{ className := className }], by
    simp only [List.map_append, List.map_cons, List.map_nil, List.nodup_append, t.nodup]
    refine ⟨trivial, List.nodup_cons.2 ⟨List.not_mem_nil, List.nodup_nil⟩, ?_⟩
    intro a ha b hb e
    exact h (by simp_all)⟩

/-- Changes the record of one class in all but its name. -/
def revise (t : ClassTable) (className : String) (f : ClassRecord → ClassRecord) : ClassTable where
  records := t.records.map fun r =>
    if r.className = className then { f r with className } else r
  nodup := by
    have h : t.records.map ((·.className) ∘ fun r =>
        if r.className = className then { f r with className } else r) =
        t.records.map (·.className) := by
      apply List.map_congr_left
      intro r _
      simp only [Function.comp]
      split <;> simp_all
    simpa [List.map_map, h] using t.nodup

/-- Changes the record of a class, which gets one first if it has none. -/
def update (t : ClassTable) (className : String) (f : ClassRecord → ClassRecord) : ClassTable :=
  (t.claim className).revise className f

@[simp] theorem classNames_revise (t : ClassTable) (c : String) (f : ClassRecord → ClassRecord) :
    (t.revise c f).classNames = t.classNames := by
  simp only [classNames, revise, List.map_map]
  apply List.map_congr_left
  intro r _
  simp only [Function.comp]
  split <;> simp_all

theorem classNames_update (t : ClassTable) (c : String) (f : ClassRecord → ClassRecord) :
    (t.update c f).classNames = if c ∈ t.classNames then t.classNames else t.classNames ++ [c] := by
  rw [update, classNames_revise, claim]
  split <;> simp_all [classNames]

/-- Adds capabilities to those of a class. -/
def addClass (t : ClassTable) (className : String) (added : Capabilities) : ClassTable :=
  t.update className fun r => { r with capabilities := r.capabilities ∪ added }

def addReflectiveClass (t : ClassTable) (c : ReflectiveClass) : ClassTable :=
  let added : Capabilities :=
    { constructors := c.constructors, methods := c.methods, fields := c.fields,
      finalFieldsWritable := c.finalFieldsWritable, weak := c.weak,
      serialization := c.serialization }
  c.classNames.foldl (fun t name => t.addClass name added) t

def addReflectiveField (t : ClassTable) (f : ReflectiveField) : ClassTable :=
  t.update f.declaringClass fun r => { r with fields := r.fields.insert f.name }

/-- A constructor is kept apart from the methods. -/
def addReflectiveMethod (t : ClassTable) (m : ReflectiveMethod) : ClassTable :=
  let signature : Signature := ⟨m.name, m.params⟩
  t.update m.declaringClass fun r =>
    if m.isConstructor then { r with constructors := r.constructors.insert signature }
    else { r with methods := r.methods.insert signature }

/-- The providers of a service are instantiated, for which each needs its constructors. -/
def addServiceProvider (t : ClassTable) (s : ServiceProvider) : ClassTable :=
  s.providers.foldl (fun t name => t.addClass name { constructors := true }) t

/-- Classes come first, then fields, methods and service providers. -/
def ofDeclarations (d : Declarations) : ClassTable :=
  let t := d.reflectiveClasses.foldl addReflectiveClass empty
  let t := d.reflectiveFields.foldl addReflectiveField t
  let t := d.reflectiveMethods.foldl addReflectiveMethod t
  d.serviceProviders.foldl addServiceProvider t

end ClassTable
end Registrar
