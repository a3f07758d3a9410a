import Registrar.Proofs.Planning.Additions

/-! The class table of declarations is their union. A class has a record exactly if something is
declared for it, and its record has what any of the declarations for it asks for, and no more. -/
namespace Registrar

/-! ### What declarations add -/

theorem flatMap_filter {α β : Type} (p : α → Bool) (f : α → List β) (as : List α) :
    (as.filter p).flatMap f = as.flatMap fun a => if p a then f a else [] := by
  induction as with
  | nil => rfl
  | cons a as ih => cases h : p a <;> simp [h, ih]

namespace ReflectiveClass

def capabilities (item : ReflectiveClass) : Capabilities where
  constructors := item.constructors
  methods := item.methods
  fields := item.fields
  finalFieldsWritable := item.finalFieldsWritable
  weak := item.weak
  serialization := item.serialization

def additions (item : ReflectiveClass) : List Addition :=
  item.classNames.map fun className => { className, capabilities := item.capabilities }

end ReflectiveClass

def ReflectiveField.addition (f : ReflectiveField) : Addition where
  className := f.declaringClass
  fields := [f.name]

namespace ReflectiveMethod

def signature (m : ReflectiveMethod) : Signature := ⟨m.name, m.params⟩

def addition (m : ReflectiveMethod) : Addition where
  className := m.declaringClass
  constructors := if m.isConstructor then [m.signature] else []
  methods := if m.isConstructor then [] else [m.signature]

end ReflectiveMethod

def ServiceProvider.additions (s : ServiceProvider) : List Addition :=
  s.providers.map fun className => { className, capabilities := { constructors := true } }

namespace Declarations

variable (d : Declarations)

def additions : List Addition :=
  d.reflectiveClasses.flatMap (·.additions) ++ d.reflectiveFields.map (·.addition) ++
    d.reflectiveMethods.map (·.addition) ++ d.serviceProviders.flatMap (·.additions)

/-- The classes that are named for reflection, as often as they are. -/
def classMentions : List String :=
  d.reflectiveClasses.flatMap (·.classNames) ++ d.reflectiveFields.map (·.declaringClass) ++
    d.reflectiveMethods.map (·.declaringClass) ++ d.serviceProviders.flatMap (·.providers)

/-- The class declarations that name a class. -/
def naming (className : String) : List ReflectiveClass :=
  d.reflectiveClasses.filter (className ∈ ·.classNames)

/-- Some service is provided by the class. -/
def provides (className : String) : Bool :=
  d.serviceProviders.any (className ∈ ·.providers)

def fieldsOf (className : String) : List ReflectiveField :=
  d.reflectiveFields.filter (·.declaringClass == className)

/-- The methods and the constructors that are named of a class. -/
def methodsOf (className : String) : List ReflectiveMethod :=
  d.reflectiveMethods.filter (·.declaringClass == className)

@[simp] theorem className_additions : d.additions.map (·.className) = d.classMentions := by
  simp [additions, classMentions, ReflectiveClass.additions, ServiceProvider.additions,
    ReflectiveField.addition, ReflectiveMethod.addition, List.map_flatMap, Function.comp_def]

/-- The additions for one class. -/
def additionsFor (className : String) : List Addition :=
  d.additions.filter (·.className == className)

/-- The capabilities that are added for a class are those of the class declarations that name it, and
the constructors if it provides a service. -/
theorem any_additionsFor (c : String) {capability : Capabilities → Bool}
    (none : capability {} = false) : (d.additionsFor c).any (capability ·.capabilities) =
      ((d.naming c).any (capability ·.capabilities) ||
        d.provides c && capability { constructors := true }) := by
  have named (names : List String) (k : Bool) :
      (names.any fun n => n == c && k) = (decide (c ∈ names) && k) := by
    cases k
    · simp
    · simp [List.any_beq', List.contains_eq_mem]
  have never {α : Type} (as : List α) : (as.any fun _ => false) = false := by simp
  simp only [additionsFor, additions, naming, provides, ReflectiveClass.additions,
    ReflectiveField.addition, ReflectiveMethod.addition, ServiceProvider.additions, none, named,
    never, List.any_flatMap, List.any_filter, List.any_append, List.any_map, Function.comp_def,
    Bool.and_false, Bool.or_false]
  cases capability { constructors := true } <;> simp

/-- Only the declarations of members add members. -/
theorem flatMap_additionsFor (c : String) {β : Type} {part : Addition → List β}
    (none : ∀ k, part ⟨c, k, [], [], []⟩ = []) : (d.additionsFor c).flatMap part =
      ((d.fieldsOf c).flatMap fun f => part f.addition) ++
        (d.methodsOf c).flatMap fun m => part m.addition := by
  have classes (names : List String) (k : Capabilities) :
      (names.flatMap fun n => if n == c then part ⟨n, k, [], [], []⟩ else []) = [] := by
    refine List.flatMap_eq_nil_iff.2 fun n _ => ?_
    split
    next same =>
      rw [beq_iff_eq.1 same]
      exact none k
    next => rfl
  have nothing {α : Type} (as : List α) : as.flatMap (fun _ => ([] : List β)) = [] := by simp
  simp only [additionsFor, additions, fieldsOf, methodsOf, flatMap_filter, List.flatMap_append,
    List.flatMap_assoc, List.flatMap_map, ReflectiveClass.additions, ServiceProvider.additions,
    classes, nothing, List.append_nil, List.nil_append]
  rfl

/-- Constructors and methods are named in the same way, and told apart by their name. -/
theorem constructors_additionsFor (c : String) : (d.additionsFor c).flatMap (·.constructors) =
    ((d.methodsOf c).filter (·.isConstructor)).map (·.signature) := by
  rw [flatMap_additionsFor d c fun _ => rfl, List.map_eq_flatMap, flatMap_filter]
  have none : ((d.fieldsOf c).flatMap fun f => f.addition.constructors) = [] := by
    simp [ReflectiveField.addition]
  rw [none, List.nil_append]
  rfl

theorem methods_additionsFor (c : String) : (d.additionsFor c).flatMap (·.methods) =
    ((d.methodsOf c).filter (!·.isConstructor)).map (·.signature) := by
  rw [flatMap_additionsFor d c fun _ => rfl, List.map_eq_flatMap, flatMap_filter]
  have none : ((d.fieldsOf c).flatMap fun f => f.addition.methods) = [] := by
    simp [ReflectiveField.addition]
  rw [none, List.nil_append]
  congr 1
  funext m
  unfold ReflectiveMethod.addition
  cases m.isConstructor <;> rfl

theorem fields_additionsFor (c : String) :
    (d.additionsFor c).flatMap (·.fields) = (d.fieldsOf c).map (·.name) := by
  rw [flatMap_additionsFor d c fun _ => rfl, List.map_eq_flatMap]
  have none : ((d.methodsOf c).flatMap fun m => m.addition.fields) = [] := by
    simp [ReflectiveMethod.addition]
  rw [none, List.append_nil]
  rfl

end Declarations

namespace ClassTable

variable (t : ClassTable)

theorem addClass_eq (c : String) (added : Capabilities) :
    t.addClass c added = t.add { className := c, capabilities := added } := rfl

theorem addReflectiveClass_eq (item : ReflectiveClass) :
    t.addReflectiveClass item = item.additions.foldl add t := by
  rw [ReflectiveClass.additions, List.foldl_map]
  rfl

theorem addReflectiveField_eq (f : ReflectiveField) :
    t.addReflectiveField f = t.add f.addition := by
  unfold addReflectiveField add ClassRecord.add
  simp only [ReflectiveField.addition, Capabilities.union_none]
  rfl

theorem addReflectiveMethod_eq (m : ReflectiveMethod) :
    t.addReflectiveMethod m = t.add m.addition := by
  unfold addReflectiveMethod add ClassRecord.add
  simp only [ReflectiveMethod.addition, Capabilities.union_none]
  cases m.isConstructor <;> rfl

theorem addServiceProvider_eq (s : ServiceProvider) :
    t.addServiceProvider s = s.additions.foldl add t := by
  rw [ServiceProvider.additions, List.foldl_map]
  rfl

/-- The table is what the additions come to. -/
theorem ofDeclarations_eq (d : Declarations) : ofDeclarations d = d.additions.foldl add empty := by
  have classes : addReflectiveClass = fun t item => item.additions.foldl add t :=
    funext₂ addReflectiveClass_eq
  have fields : addReflectiveField = fun t f => t.add f.addition := funext₂ addReflectiveField_eq
  have methods : addReflectiveMethod = fun t m => t.add m.addition :=
    funext₂ addReflectiveMethod_eq
  have providers : addServiceProvider = fun t s => s.additions.foldl add t :=
    funext₂ addServiceProvider_eq
  simp only [Declarations.additions, List.foldl_append, List.foldl_flatMap, List.foldl_map,
    ofDeclarations, classes, fields, methods, providers]

/-- The record of a class is what the additions for it come to. -/
theorem record?_ofDeclarations (d : Declarations) (c : String) :
    (ofDeclarations d).record? c = if c ∈ d.classMentions then
      some ((d.additionsFor c).foldl ClassRecord.add { className := c }) else none := by
  rw [ofDeclarations_eq, record?_additions, Declarations.className_additions]
  rfl

end ClassTable

/-- The record has exactly what is declared for its class: a capability if any declaration asks for
it, and each member once, where it was named first. -/
structure ClassRecord.Unites (r : ClassRecord) (d : Declarations) : Prop where
  /-- Providers of services are instantiated. -/
  allConstructors : r.capabilities.constructors =
    ((d.naming r.className).any (·.constructors) || d.provides r.className)
  allMethods : r.capabilities.methods = (d.naming r.className).any (·.methods)
  allFields : r.capabilities.fields = (d.naming r.className).any (·.fields)
  finalFieldsWritable : r.capabilities.finalFieldsWritable =
    (d.naming r.className).any (·.finalFieldsWritable)
  weak : r.capabilities.weak = (d.naming r.className).any (·.weak)
  serialization : r.capabilities.serialization = (d.naming r.className).any (·.serialization)
  constructors : r.constructors.toList =
    (((d.methodsOf r.className).filter (·.name = constructorName)).map (·.signature)).eraseDups
  methods : r.methods.toList =
    (((d.methodsOf r.className).filter (·.name ≠ constructorName)).map (·.signature)).eraseDups
  fields : r.fields.toList = ((d.fieldsOf r.className).map (·.name)).eraseDups

namespace ClassTable

/-- To an empty record the additions for its class bring what is declared. -/
theorem unites_additionsFor (d : Declarations) (c : String) :
    ((d.additionsFor c).foldl ClassRecord.add { className := c }).Unites d := by
  let r : ClassRecord := { className := c }
  have own : ((d.additionsFor c).foldl ClassRecord.add r).className = c :=
    by rw [ClassRecord.foldl_add]
  have asked (capability : Capabilities → Bool) (none : capability {} = false)
      (union : ∀ a b, capability (a ∪ b) = (capability a || capability b)) :
      capability ((d.additionsFor c).foldl ClassRecord.add r).capabilities =
        ((d.naming c).any (capability ·.capabilities) ||
          d.provides c && capability { constructors := true }) := by
    rw [ClassRecord.capability_foldl_add _ _ union, d.any_additionsFor c none, none, Bool.false_or]
  have plain (capability : Capabilities → Bool) (none : capability {} = false)
      (union : ∀ a b, capability (a ∪ b) = (capability a || capability b))
      (other : capability { constructors := true } = false) :
      capability ((d.additionsFor c).foldl ClassRecord.add r).capabilities =
        (d.naming c).any (capability ·.capabilities) := by
    rw [asked _ none union, other, Bool.and_false, Bool.or_false]
  constructor <;> rw [own]
  case allConstructors =>
    have all := asked (·.constructors) rfl fun _ _ => rfl
    rwa [Bool.and_true] at all
  case allMethods => exact plain (·.methods) rfl (fun _ _ => rfl) rfl
  case allFields => exact plain (·.fields) rfl (fun _ _ => rfl) rfl
  case finalFieldsWritable =>
    exact plain (·.finalFieldsWritable) rfl (fun _ _ => rfl) rfl
  case weak => exact plain (·.weak) rfl (fun _ _ => rfl) rfl
  case serialization => exact plain (·.serialization) rfl (fun _ _ => rfl) rfl
  case constructors =>
    rw [ClassRecord.foldl_add, d.constructors_additionsFor, OrderedSet.toList_foldl_insert]
    rfl
  case methods =>
    have apart : (fun m : ReflectiveMethod => !m.isConstructor) =
        fun m => decide (m.name ≠ constructorName) := by
      funext m
      rw [decide_not]
      rfl
    rw [ClassRecord.foldl_add, d.methods_additionsFor, OrderedSet.toList_foldl_insert, apart]
    rfl
  case fields =>
    rw [ClassRecord.foldl_add, d.fields_additionsFor, OrderedSet.toList_foldl_insert]
    rfl

theorem unites_of_mem {d : Declarations} {r : ClassRecord}
    (listed : r ∈ (ofDeclarations d).records) : r.Unites d := by
  have found := (record?_eq_some_iff _ _ r).2 ⟨listed, rfl⟩
  rw [record?_ofDeclarations] at found
  split at found
  next => exact Option.some.inj found ▸ unites_additionsFor d r.className
  next => cases found

/-- The table has a record for each class that some declaration names, and for no other. The classes
come in the order in which they are named first, and under the name of each stands its record, which
has what the declarations for the class ask for. -/
theorem ofDeclarations_unites (d : Declarations) :
    (∀ c, ((ofDeclarations d).record? c).isSome ↔
      (∃ item ∈ d.reflectiveClasses, c ∈ item.classNames) ∨
      (∃ f ∈ d.reflectiveFields, f.declaringClass = c) ∨
      (∃ m ∈ d.reflectiveMethods, m.declaringClass = c) ∨
      ∃ s ∈ d.serviceProviders, c ∈ s.providers) ∧
    (ofDeclarations d).classNames = d.classMentions.eraseDups ∧
    (∀ c r, (ofDeclarations d).record? c = some r ↔
      r ∈ (ofDeclarations d).records ∧ r.className = c) ∧
    ∀ r ∈ (ofDeclarations d).records, r.Unites d := by
  refine ⟨fun c => ?_, ?_, record?_eq_some_iff _, fun r listed => unites_of_mem listed⟩
  · rw [record?_ofDeclarations, Option.isSome_ite]
    simp [Declarations.classMentions]
  · rw [ofDeclarations_eq, classNames_foldl_add, Declarations.className_additions]
    rfl

end ClassTable
end Registrar
