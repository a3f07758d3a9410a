import Registrar.Storage.Fault

/-! Where generated units are written to, each under a name. -/
namespace Registrar

/-- A way to write to a store, which may fail. -/
structure Sink (m : Type → Type) where
  write : (name : String) → List UInt8 → m (Except StorageFault Unit)

/-- Written artifacts in the order in which their names came first. -/
structure Artifacts where
  entries : List (String × List UInt8)
  nodup : (entries.map (·.1)).Nodup
  deriving DecidableEq

namespace Artifacts

def empty : Artifacts := ⟨[], List.nodup_nil⟩

def names (a : Artifacts) : List String := a.entries.map (·.1)

def size (a : Artifacts) : Nat := a.entries.length

def get? (a : Artifacts) (name : String) : Option (List UInt8) := a.entries.lookup name

/-- Keeps the bytes in the place of those that the name had before, or at the end. -/
def put (a : Artifacts) (name : String) (bytes : List UInt8) : Artifacts :=
  if h : name ∈ a.entries.map (·.1) then
    { entries := a.entries.map fun e => if e.1 = name then (name, bytes) else e
      nodup := by
        have : a.entries.map ((·.1) ∘ fun e => if e.1 = name then (name, bytes) else e) =
            a.entries.map (·.1) := by
          apply List.map_congr_left
          intro e _
          simp only [Function.comp]
          split <;> simp_all
        simpa [List.map_map, this] using a.nodup }
  else
    { entries := a.entries ++ [(name, bytes)]
      nodup := by
        simp only [List.map_append, List.map_cons, List.map_nil, List.nodup_append, a.nodup]
        refine ⟨trivial, List.nodup_cons.2 ⟨List.not_mem_nil, List.nodup_nil⟩, ?_⟩
        intro n hn m hm e
        exact h (by simp_all) }

theorem entries_put (a : Artifacts) (name : String) (bytes : List UInt8) :
    (a.put name bytes).entries =
      if name ∈ a.names then a.entries.map fun e => if e.1 = name then (name, bytes) else e
      else a.entries ++ [(name, bytes)] := by
  by_cases h : name ∈ a.entries.map (·.1)
  · simp only [names, put, h, dite_true, if_true]
  · simp only [names, put, h, dite_false, if_false]

theorem names_put (a : Artifacts) (name : String) (bytes : List UInt8) :
    (a.put name bytes).names = if name ∈ a.names then a.names else a.names ++ [name] := by
  rw [names, entries_put]
  by_cases h : name ∈ a.names
  · rw [if_pos h, if_pos h, List.map_map, names]
    apply List.map_congr_left
    intro e _
    by_cases replaced : e.1 = name <;> simp [replaced]
  · rw [if_neg h, if_neg h, List.map_append, names]
    rfl

theorem get?_eq_none {a : Artifacts} {name : String} : a.get? name = none ↔ name ∉ a.names := by
  simp only [get?, names, List.lookup_eq_none_iff, List.mem_map, not_exists, not_and]
  refine forall₂_congr fun e _ => ?_
  rw [bne_iff_ne, ne_comm]

theorem lookup_cons_ite (e : String × List UInt8) (entries : List (String × List UInt8))
    (name : String) :
    (e :: entries).lookup name = if name = e.1 then some e.2 else entries.lookup name := by
  rw [List.lookup_cons]
  by_cases h : name = e.1
  · rw [beq_iff_eq.2 h, if_pos h]
  · rw [beq_false_of_ne h, if_neg h]

/-- What replaces the bytes under a name is found under this name only. -/
theorem lookup_replaced (entries : List (String × List UInt8)) (name : String)
    (bytes : List UInt8) (other : String) :
    (entries.map fun e => if e.1 = name then (name, bytes) else e).lookup other =
      if other = name then (entries.lookup name).map fun _ => bytes else entries.lookup other := by
  induction entries with
  | nil => simp
  | cons e entries ih =>
    rw [List.map_cons, lookup_cons_ite, lookup_cons_ite, lookup_cons_ite, ih]
    by_cases here : e.1 = name
    · by_cases same : other = name <;> simp [here, same]
    · by_cases same : other = name <;> simp [here, same, Ne.symm here]

theorem get?_put (a : Artifacts) (name : String) (bytes : List UInt8) (other : String) :
    (a.put name bytes).get? other = if other = name then some bytes else a.get? other := by
  rw [get?, entries_put]
  by_cases h : name ∈ a.names
  · obtain ⟨old, found⟩ : ∃ old, a.entries.lookup name = some old := by
      rw [← Option.ne_none_iff_exists']
      exact fun absent => get?_eq_none.1 absent h
    rw [if_pos h, lookup_replaced, found]
    rfl
  · have absent : a.entries.lookup name = none := get?_eq_none.2 h
    rw [if_neg h, List.lookup_append, lookup_cons_ite, get?]
    by_cases same : other = name
    · simp [same, absent]
    · simp [same]

/-- A sink that keeps everything but what is written under refused names. -/
def sink (refused : List String) : Sink (StateM Artifacts) where
  write name bytes := fun a =>
    if refused.contains name then (.error (.refused "refused"), a) else (.ok (), a.put name bytes)

section

variable {refused : List String} {name : String}

theorem write_of_mem (h : name ∈ refused) (bytes : List UInt8) (a : Artifacts) :
    (sink refused).write name bytes a = (.error (.refused "refused"), a) := by
  simp [sink, h]

theorem write_of_not_mem (h : name ∉ refused) (bytes : List UInt8) (a : Artifacts) :
    (sink refused).write name bytes a = (.ok (), a.put name bytes) := by
  simp [sink, h]

end

end Artifacts
end Registrar
