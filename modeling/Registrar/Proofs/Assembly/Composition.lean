import Registrar.Proofs.Assembly.Numbering
import Registrar.Proofs.Running.Emission
import Registrar.Synthesis.Region

/-! What generated code consists of. All code of a unit is put together from few operations: it names
types of the platform and those that signatures mention, calls methods of the platform, and has flags
and texts as constants. Only the calls of its own workers are added to this in the entry point. -/
namespace Registrar

open Platform

/-- The types that generated code itself names. -/
def Platform.namedTypes : List String :=
  [objectType, stringType, classType, constructorType, methodType, fieldType, arrayListType,
   runtimeClassInitializationSupportType, dynamicProxyRegistryType, localizationFeatureType,
   resourcesRegistryType, serializationFeatureType, serializationRegistryType,
   stubForAbstractClassType]

/-- The constants that generated code has: flags and texts. -/
inductive Constant.Usual : Constant → Prop
  | bool (b : Bool) : Usual (.bool b)
  | str (s : String) : Usual (.str s)

/-- An operation as all generated code has it. It calls the platform, and every type that it names has
the property. No static method is called that neither takes nor returns anything. -/
inductive Operation.Usual (named : String → Prop) : Operation → Prop
  | constant {value : Constant} (usual : value.Usual) : Usual named (.constant value)
  | loadClass {className : String} (h : named className) : Usual named (.loadClass className)
  | param (index : UInt16) : Usual named (.param index)
  | invokeStatic {m : MethodRef} {args : List ValueId} (platform : m ∈ methods)
      (passes : m.returns = void → args ≠ []) : Usual named (.invokeStatic m args)
  | invokeVirtual {m : MethodRef} {receiver : ValueId} {args : List ValueId}
      (platform : m ∈ methods) : Usual named (.invokeVirtual m receiver args)
  | invokeInterface {m : MethodRef} {receiver : ValueId} {args : List ValueId}
      (platform : m ∈ methods) : Usual named (.invokeInterface m receiver args)
  | newInstance {className : String} (h : named className) : Usual named (.newInstance className)
  | newArray {component : String} (h : named component) (length : Nat) :
      Usual named (.newArray component length)
  | declare {typeName : String} (h : named typeName) : Usual named (.declare typeName)

/-- An operation as the entry point has it, which calls the workers besides. -/
inductive Operation.Entering (named : String → Prop) (workers : List MethodRef) : Operation → Prop
  | usual {op : Operation} (h : op.Usual named) : Entering named workers op
  | call {m : MethodRef} (listed : m ∈ workers) : Entering named workers (.invokeStatic m [])

namespace Emission

/-- The emission is put together from such operations and from steps that bring no value, in branches
and in regions that handle every fault. It takes at most so many numbers, one for each value. -/
inductive Consists (P : Operation → Prop) : {α : Type} → Nat → Emission α → Prop
  | done {α : Type} (a : α) : Consists P 0 (pure a)
  | bind {α β : Type} {j k : Nat} {x : Emission α} {f : α → Emission β} (first : Consists P j x)
      (rest : ∀ a, Consists P k (f a)) : Consists P (j + k) (x >>= f)
  | operation {op : Operation} (h : P op) : Consists P 1 op.emit
  | statement (s : Statement) : Consists P 0 s.emit
  | branch {j k : Nat} (condition : ValueId) {onTrue onFalse : Emission Unit}
      (first : Consists P j onTrue) (second : Consists P k onFalse) :
      Consists P (j + k) (Emit.branch condition onTrue onFalse)
  /-- The fault that is caught takes a number as well. -/
  | isolate {j k : Nat} {body : Emission Unit} {handler : ValueId → Emission Unit}
      (inner : Consists P j body) (handling : ∀ caught, Consists P k (handler caught)) :
      Consists P (j + 1 + k) (Emit.isolate throwable body handler)
  | atMost {α : Type} {j k : Nat} {x : Emission α} (h : Consists P j x) (le : j ≤ k) :
      Consists P k x

namespace Consists

variable {P R : Operation → Prop} {α β ι κ : Type} {j k : Nat}

theorem mono {x : Emission α} (h : Consists P k x) (imp : ∀ op, P op → R op) : Consists R k x := by
  induction h with
  | done a => exact .done a
  | bind _ _ first rest => exact .bind first rest
  | operation h => exact .operation (imp _ h)
  | statement s => exact .statement s
  | branch condition _ _ first second => exact .branch condition first second
  | isolate _ _ inner handling => exact .isolate inner handling
  | atMost _ le ih => exact .atMost ih le

/-- Wherever the emission starts, it comes no further than by the numbers that it takes. -/
theorem next_le {x : Emission α} (h : Consists P k x) (n : Nat) : (x n).next ≤ n + k := by
  induction h generalizing n with
  | done a => exact le_rfl
  | @bind _ _ _ _ x f _ _ first rest =>
    have before := first n
    have behind := rest (x.value n) (x n).next
    rw [Emit.next_bind]
    omega
  | @operation op _ =>
    rw [op.emit_eq]
    exact le_rfl
  | statement s =>
    rw [s.emit_eq]
    exact le_rfl
  | @branch _ _ condition onTrue _ _ _ first second =>
    have before := first n
    have behind := second (onTrue n).next
    rw [Emit.next_branch]
    omega
  | @isolate _ _ body handler _ _ inner handling =>
    have within := inner n
    have behind := handling ⟨(body n).next.toUInt32⟩ ((body n).next + 1)
    rw [Emit.next_isolate]
    omega
  | atMost _ le ih => exact (ih n).trans (Nat.add_le_add_left le n)

theorem forget {x : Emission α} (h : Consists P k x) : Consists P k (discard x) :=
  bind h fun _ => done ()

/-- A step that may be left out. -/
theorem optional {c : Bool} {x : Emission Unit} {y : Emission β} (h : Consists P j x)
    (rest : Consists P k y) : Consists P (j + k) (if c then x >>= fun _ => y else y) := by
  cases c
  · exact rest.atMost (Nat.le_add_left k j)
  · exact bind h fun _ => rest

theorem category {empty : Bool} {x : Emission Unit} (h : Consists P k x) :
    Consists P k (unless empty do x) := by
  cases empty
  · exact h
  · exact (done ()).atMost (Nat.zero_le k)

/-- A loop takes so many numbers for each of its items, and for each of their parts. -/
theorem forM {f : ι → Emission Unit} (c d : Nat) (parts : ι → List κ) (as : List ι)
    (h : ∀ a ∈ as, Consists P (c + d * (parts a).length) (f a)) :
    Consists P (c * as.length + d * (as.flatMap parts).length) (as.forM f) := by
  induction as with
  | nil => exact done ()
  | cons a as ih =>
    have rest := ih fun b listed => h b (List.mem_cons_of_mem _ listed)
    refine (bind (h a List.mem_cons_self) fun _ => rest).atMost ?_
    rw [List.flatMap_cons, List.length_append, List.length_cons, Nat.mul_add, Nat.mul_add]
    omega

theorem loop {f : ι → Emission Unit} (as : List ι) (h : ∀ a ∈ as, Consists P k (f a)) :
    Consists P (k * as.length) (as.forM f) := by
  have each := forM k 0 (fun _ => [()]) as fun a listed => (h a listed).atMost (Nat.le_add_right ..)
  exact each.atMost (by omega)

theorem mapM {f : ι → Emission α} (as : List ι) (h : ∀ a ∈ as, Consists P k (f a)) :
    Consists P (k * as.length) (as.mapM f) := by
  induction as with
  | nil => exact done []
  | cons a as ih =>
    have rest := ih fun b listed => h b (List.mem_cons_of_mem _ listed)
    rw [List.mapM_cons]
    refine (bind (h a List.mem_cons_self) fun b => bind rest fun bs => done (b :: bs)).atMost ?_
    rw [List.length_cons, Nat.mul_add]
    omega

theorem leave (value : Option ValueId) : Consists P 0 (Emit.leave value) :=
  statement (.leave value)

/-! ### Operations -/

variable {named : String → Prop}

theorem bool (b : Bool) : Consists (Operation.Usual named) 1 (Emit.bool b) :=
  operation (Operation.Usual.constant (.bool b))

theorem str (s : String) : Consists (Operation.Usual named) 1 (Emit.str s) :=
  operation (Operation.Usual.constant (.str s))

theorem param (index : UInt16) : Consists (Operation.Usual named) 1 (Emit.param index) :=
  operation (Operation.Usual.param index)

theorem loadClass {name : String} (h : named name) :
    Consists (Operation.Usual named) 1 (Emit.loadClass name) :=
  operation (Operation.Usual.loadClass h)

theorem newArray {component : String} (h : named component) (length : Nat) :
    Consists (Operation.Usual named) 1 (Emit.newArray component length) :=
  operation (Operation.Usual.newArray h length)

section

variable {m : MethodRef} {receiver : ValueId} {args : List ValueId} (platform : m ∈ methods)

include platform

theorem callStatic (passes : m.returns = void → args ≠ []) :
    Consists (Operation.Usual named) 1 (Emit.invokeStatic m args) :=
  operation (Operation.Usual.invokeStatic platform passes)

/-- A static method that is called with arguments. -/
theorem pass {arg : ValueId} {args : List ValueId} :
    Consists (Operation.Usual named) 1 (Emit.invokeStatic m (arg :: args)) :=
  callStatic platform fun _ => List.cons_ne_nil arg args

theorem callVirtual : Consists (Operation.Usual named) 1 (Emit.invokeVirtual m receiver args) :=
  operation (Operation.Usual.invokeVirtual platform)

theorem callInterface : Consists (Operation.Usual named) 1 (Emit.invokeInterface m receiver args) :=
  operation (Operation.Usual.invokeInterface platform)

end

theorem arrayOf {component : String} (h : named component) (values : List ValueId) :
    Consists (Operation.Usual named) 1 (Emit.arrayOf component values) := by
  have stored (array : ValueId) := loop (P := Operation.Usual named) values.zipIdx
    fun item _ => statement (.store array item.2 item.1)
  have filled := bind (newArray h values.length) fun array => bind (stored array) fun _ => done array
  exact filled.atMost (by omega)

theorem handler (onFault : OnFault) (caught : ValueId) :
    Consists (Operation.Usual named) 1 (Emission.handler onFault caught) := by
  cases onFault with
  | report => exact forget (callVirtual (by simp [methods]))
  | drop => exact (done ()).atMost (Nat.zero_le 1)

theorem isolated (onFault : OnFault) {body : Emission Unit}
    (inner : Consists (Operation.Usual named) k body) :
    Consists (Operation.Usual named) (k + 2) (Emission.isolated onFault body) :=
  isolate inner (handler onFault)

end Consists
end Emission
end Registrar
