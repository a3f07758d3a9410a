import Mathlib.Data.List.Perm.Basic
import Registrar.Plan.ClassTable

/-! The class table as what its additions come to. Each declaration adds something to the records of
the classes that it names. What a table has of one class is then told by the additions for this class
alone, in the order in which they were made. -/
namespace Registrar

/-! ### Additions to a record -/

/-- What is added to the record of one class. -/
structure Addition where
  className : String
  capabilities : Capabilities := {}
  constructors : List Signature := []
  methods : List Signature := []
  fields : List String := []

namespace ClassRecord

def add (r : ClassRecord) (a : Addition) : ClassRecord :=
  { r with
    capabilities := r.capabilities ∪ a.capabilities
    constructors := a.constructors.foldl OrderedSet.insert r.constructors
    methods := a.methods.foldl OrderedSet.insert r.methods
    fields := a.fields.foldl OrderedSet.insert r.fields }

variable (r : ClassRecord) (as : List Addition)

/-- What many additions come to, part by part. -/
theorem foldl_add : as.foldl add r =
    { className := r.className
      capabilities := as.foldl (fun k a => k ∪ a.capabilities) r.capabilities
      constructors := (as.flatMap (·.constructors)).foldl OrderedSet.insert r.constructors
      methods := (as.flatMap (·.methods)).foldl OrderedSet.insert r.methods
      fields := (as.flatMap (·.fields)).foldl OrderedSet.insert r.fields } := by
  induction as generalizing r with
  | nil => rfl
  | cons a as ih =>
    simp only [List.foldl_cons, List.flatMap_cons, List.foldl_append, ih]
    rfl

/-- A capability that comes with either of two comes with any of many. -/
theorem capability_foldl_add {capability : Capabilities → Bool}
    (union : ∀ a b, capability (a ∪ b) = (capability a || capability b)) :
    capability (as.foldl add r).capabilities =
      (capability r.capabilities || as.any (capability ·.capabilities)) := by
  induction as generalizing r with
  | nil => simp
  | cons a as ih => rw [List.foldl_cons, ih, add, union, Bool.or_assoc, List.any_cons]

/-- Capabilities come to the same in any order. -/
theorem foldl_capabilities_of_perm {as bs : List Addition} (moved : as.Perm bs) (k : Capabilities) :
    as.foldl (fun k a => k ∪ a.capabilities) k = bs.foldl (fun k a => k ∪ a.capabilities) k := by
  have : RightCommutative fun (k : Capabilities) (a : Addition) => k ∪ a.capabilities :=
    ⟨fun k a b => by
      rw [Capabilities.union_assoc, Capabilities.union_comm a.capabilities,
        ← Capabilities.union_assoc]⟩
  exact moved.foldl_eq k

/-- Additions may be made in any order, as far as their members stay in place. -/
theorem foldl_add_of_perm {as bs : List Addition} (moved : as.Perm bs)
    (constructors : as.flatMap (·.constructors) = bs.flatMap (·.constructors))
    (methods : as.flatMap (·.methods) = bs.flatMap (·.methods))
    (fields : as.flatMap (·.fields) = bs.flatMap (·.fields)) :
    as.foldl add r = bs.foldl add r := by
  rw [foldl_add, foldl_add, foldl_capabilities_of_perm moved, constructors, methods, fields]

end ClassRecord

/-! ### Additions to a table -/

namespace ClassTable

def add (t : ClassTable) (a : Addition) : ClassTable := t.update a.className (·.add a)

variable (t : ClassTable)

theorem record?_claim (c c' : String) : (t.claim c).record? c' =
    (t.record? c').or (if c' = c then some { className := c } else none) := by
  unfold claim record?
  split
  next known =>
    split
    next same =>
      subst same
      obtain ⟨r, listed, named⟩ := List.mem_map.1 known
      have found : (t.records.find? (·.className == c')).isSome :=
        List.find?_isSome.2 ⟨r, listed, by simpa using named⟩
      exact (Option.or_of_isSome found).symm
    next => exact Option.or_none.symm
  next =>
    rw [List.find?_append, List.find?_singleton]
    by_cases same : c' = c
    · simp [same]
    · simp [same, Ne.symm same]

theorem record?_revise (c c' : String) (f : ClassRecord → ClassRecord) :
    (t.revise c f).record? c' =
      if c' = c then (t.record? c).map fun r => { f r with className := c } else t.record? c' := by
  unfold revise record?
  rw [List.find?_map]
  have kept : ((fun r : ClassRecord => r.className == c') ∘ fun r =>
      if r.className = c then { f r with className := c } else r) = (·.className == c') := by
    funext r
    simp only [Function.comp]
    split <;> simp_all
  rw [kept]
  split
  next same =>
    subst same
    cases found : t.records.find? (·.className == c') with
    | none => rfl
    | some r =>
      have named : r.className = c' := by simpa using List.find?_some found
      simp [named]
  next other =>
    cases found : t.records.find? (·.className == c') with
    | none => rfl
    | some r =>
      have named : r.className = c' := by simpa using List.find?_some found
      simp [named, other]

theorem record?_add (a : Addition) (c : String) : (t.add a).record? c =
    if c = a.className then some (((t.record? c).getD { className := c }).add a)
    else t.record? c := by
  rw [add, update, record?_revise]
  split
  next same =>
    subst same
    rw [record?_claim, if_pos rfl]
    cases found : t.record? a.className with
    | none => rfl
    | some r =>
      have named : r.className = a.className := by simpa using List.find?_some found
      rw [Option.some_or, Option.map_some, Option.getD_some, ← named]
      rfl
  next other => rw [record?_claim, if_neg other, Option.or_none]

/-- The additions for a class, made one after the other, to an empty record if there is none. -/
theorem record?_foldl_add (as : List Addition) (c : String) : (as.foldl add t).record? c =
    (as.filter (·.className == c)).foldl (fun r a => some ((r.getD { className := c }).add a))
      (t.record? c) := by
  induction as generalizing t with
  | nil => rfl
  | cons a as ih =>
    rw [List.foldl_cons, ih, record?_add]
    by_cases own : c = a.className
    · rw [if_pos own, List.filter_cons_of_pos (by simp [own]), List.foldl_cons]
    · rw [if_neg own, List.filter_cons_of_neg (by simpa using fun same => own same.symm)]

/-- A class has a record exactly if there is an addition for it. -/
theorem record?_additions (as : List Addition) (c : String) : (as.foldl add empty).record? c =
    if c ∈ as.map (·.className) then
      some ((as.filter (·.className == c)).foldl ClassRecord.add { className := c })
    else none := by
  have later (own : List Addition) (r : ClassRecord) :
      own.foldl (fun r a => some ((r.getD { className := c }).add a)) (some r) =
        some (own.foldl ClassRecord.add r) := by
    induction own generalizing r with
    | nil => rfl
    | cons a own ih => exact ih _
  rw [record?_foldl_add]
  cases own : as.filter (·.className == c) with
  | nil =>
    have unnamed : c ∉ as.map (·.className) := by
      intro named
      obtain ⟨a, listed, rfl⟩ := List.mem_map.1 named
      simpa using List.filter_eq_nil_iff.1 own a listed
    rw [if_neg unnamed]
    rfl
  | cons a own' =>
    have listed : a ∈ as.filter (·.className == c) := own ▸ List.mem_cons_self
    obtain ⟨mem, named⟩ := List.mem_filter.1 listed
    rw [if_pos (List.mem_map.2 ⟨a, mem, by simpa using named⟩), List.foldl_cons]
    exact later own' _

/-- Classes come in the order in which they were named first. -/
theorem classNames_foldl_add (as : List Addition) :
    (as.foldl add t).classNames = (t.classNames ++ as.map (·.className)).eraseDups := by
  induction as generalizing t with
  | nil =>
    have once : t.classNames.eraseDups = t.classNames := OrderedSet.eraseDups_of_nodup t.nodup
    rw [List.map_nil, List.append_nil, once, List.foldl_nil]
  | cons a as ih =>
    rw [List.foldl_cons, ih, add, classNames_update, List.map_cons,
      OrderedSet.eraseDups_append_cons]

theorem record?_eq_some_iff (c : String) (r : ClassRecord) :
    t.record? c = some r ↔ r ∈ t.records ∧ r.className = c := by
  unfold record?
  constructor
  · intro found
    exact ⟨List.mem_of_find?_eq_some found, by simpa using List.find?_some found⟩
  · rintro ⟨listed, rfl⟩
    obtain ⟨before, after, split⟩ := List.append_of_mem listed
    have nodup := t.nodup
    rw [split, List.map_append, List.map_cons, List.nodup_append] at nodup
    rw [split, List.find?_append]
    have none : before.find? (·.className == r.className) = none :=
      List.find?_eq_none.2 fun s mem same =>
        nodup.2.2 s.className (List.mem_map_of_mem mem) r.className List.mem_cons_self
          (by simpa using same)
    simp [none]

end ClassTable
end Registrar
