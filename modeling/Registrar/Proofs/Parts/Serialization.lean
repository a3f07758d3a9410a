import Registrar.Proofs.Parts.Common

/-! Classes that are serialized. Serialization gets an accessor for a constructor which makes instances
without running the constructors of their class. -/
namespace Registrar

open Platform

variable {σ : Type}

/-! ### In direct style -/

namespace Setting

open Registrar.Action

variable (e : Setting σ)

/-- A constructor for instances that are made without running the constructors of their class. -/
def serializationConstructor (class_ factory : Value) : Action σ Value := do
  let modifiers ← e.callVirtual getModifiers class_ []
  let abstract_ ← e.callStatic isAbstract [modifiers]
  choose abstract_
    (do
      let stub ← e.loadClass stubForAbstractClassType
      e.callVirtual newConstructorForSerialization factory [stub])
    (e.callVirtual newConstructorForSerialization factory [class_])

def addAccessor (class_ objectClass : Value) : Action σ Unit := do
  let support ← e.singleton serializationRegistryType
  let factory ← e.callStatic getReflectionFactory []
  let constructor ← e.serializationConstructor class_ factory
  let constructorClass ← e.callVirtual getDeclaringClass constructor []
  let reflected ← e.loadClass constructorType
  let noParams ← newArray []
  let lookup ← e.callStatic lookupMethod [reflected, .str getConstructorAccessor, noParams]
  let noArgs ← newArray []
  let accessor ← e.callVirtual methodInvoke lookup [constructor, noArgs]
  discard (e.callVirtual addConstructorAccessor support [class_, constructorClass, accessor])
  discard (e.callStatic addReflections [class_, objectClass])

namespace Composes

variable {e}

theorem serializationConstructor (class_ factory : Value) :
    e.Composes (e.serializationConstructor class_ factory) :=
  bind (callVirtual ..) fun _ => byAbstractness _
    (bind (loadClass _) fun _ => callVirtual ..) (callVirtual ..)

theorem addAccessor (class_ objectClass : Value) :
    e.Composes (e.addAccessor class_ objectClass) := by
  refine bind (singleton _) fun _ => bind (callStatic (by simp [methods]) _) fun factory =>
    bind (serializationConstructor class_ factory) fun _ => bind (callVirtual ..) fun _ => ?_
  refine bind (loadClass _) fun _ => bind (newArray _) fun _ =>
    bind (callStatic (by simp [methods]) _) fun _ => ?_
  exact bind (newArray _) fun _ => bind (callVirtual ..) fun _ =>
    bind (forget (callVirtual ..)) fun _ => forget (callStatic (by simp [methods]) _)

end Composes
end Setting

/-! ### What the code consists of -/

namespace Emission.Consists

variable {named : String → Prop} (types : ∀ t ∈ namedTypes, named t)

include types

theorem serializationConstructor (class_ factory : ValueId) :
    Consists (Operation.Usual named) 6 (Registrar.serializationConstructor class_ factory) := by
  have declared : Consists (Operation.Usual named) 1 (Emit.declare constructorType) :=
    operation (Operation.Usual.declare (types _ (by simp [namedTypes])))
  refine bind (k := 5) declared fun target => ?_
  refine bind (k := 4) (callVirtual (by simp [methods])) fun modifiers => ?_
  refine bind (k := 3) (pass (by simp [methods])) fun abstract_ => ?_
  refine bind (branch (j := 2) (k := 1) abstract_ ?_ ?_) fun _ => done target
  · refine bind (k := 1) (loadClass (types _ (by simp [namedTypes]))) fun stub => ?_
    exact bind (callVirtual (by simp [methods])) fun made => statement (.assign target made)
  · exact bind (callVirtual (by simp [methods])) fun made => statement (.assign target made)

/-- Each step says how many numbers are left for those behind it. -/
theorem addAccessor (class_ objectClass : ValueId) :
    Consists (Operation.Usual named) 18 (Registrar.addAccessor class_ objectClass) := by
  refine bind (k := 16) (singleton (types _ (by simp [namedTypes]))) fun support => ?_
  refine bind (k := 15) (callStatic (by simp [methods]) (by decide)) fun factory => ?_
  refine bind (k := 9) (serializationConstructor types class_ factory) fun constructor => ?_
  refine bind (k := 8) (callVirtual (by simp [methods])) fun constructorClass => ?_
  refine bind (k := 7) (loadClass (types _ (by simp [namedTypes]))) fun reflected => ?_
  refine bind (k := 6) (str _) fun accessorName => ?_
  refine bind (k := 5) (newArray (types _ (by simp [namedTypes])) 0) fun noParams => ?_
  refine bind (k := 4) (pass (by simp [methods])) fun lookup => ?_
  refine bind (k := 3) (newArray (types _ (by simp [namedTypes])) 0) fun noArgs => ?_
  refine bind (k := 2) (callVirtual (by simp [methods])) fun accessor => ?_
  refine bind (k := 1) (forget (callVirtual (by simp [methods]))) fun _ => ?_
  exact forget (pass (by simp [methods]))

end Emission.Consists

/-! ### What the code does -/

namespace Emission.Performs

variable {env : Context σ} {s : Site} (hidden : env.Hides)

include hidden in
/-- The variable is declared in front of the branch, behind the site that the emission starts from,
so either side may fill it. -/
theorem serializationConstructor {v f : ValueId} {x y : Value} (class_held : s.Holds v x)
    (factory_held : s.Holds f y) :
    Performs env s (Registrar.serializationConstructor v f)
      (env.setting.serializationConstructor x y) s holding := by
  refine silent (b := Value.null) le_rfl (declare constructorType) fun t target keep declared => ?_
  refine bind keep (callVirtual (class_held.mono keep) .nil) fun u _ _ keep' modifiers => ?_
  refine bind (keep.trans keep') (callStatic hidden (by simp [methods]) (.cons modifiers .nil))
    fun r condition b keep'' held => ?_
  have since := keep'.trans keep''
  have later := keep.trans since
  -- What both sides end with: the variable gets what they have made.
  have fills : ∀ {r' : Site} {made : ValueId} {z : Value}, r ≤ r' → r'.Holds made z →
      Performs env s (Emit.assign target made) (pure z) r' fun t _ z => t.Holds target z :=
    fun le held => assign (later.trans le) declared.1
      (declared.2.trans_le (since.trans le).1) held
  have onTrue : Performs env s (do
      let stub ← Emit.loadClass stubForAbstractClassType
      let made ← Emit.invokeVirtual newConstructorForSerialization f [stub]
      Emit.assign target made) (do
      let stub ← env.setting.loadClass stubForAbstractClassType
      env.setting.callVirtual newConstructorForSerialization y [stub]) r
      fun t _ z => t.Holds target z := by
    refine bind later (loadClass stubForAbstractClassType) fun p stub _ le stub_held => ?_
    rw [← bind_pure (env.setting.callVirtual _ _ _)]
    refine bind (later.trans le) (callVirtual (factory_held.mono (later.trans le))
      (.cons stub_held .nil)) fun q _ _ le' made => ?_
    exact fills (le.trans le') made
  have onFalse : ∀ p, r ≤ p → Performs env s (do
      let made ← Emit.invokeVirtual newConstructorForSerialization f [v]
      Emit.assign target made)
      (env.setting.callVirtual newConstructorForSerialization y [x]) p
      fun t _ z => t.Holds target z := by
    intro p le
    rw [← bind_pure (env.setting.callVirtual _ _ _)]
    refine bind (later.trans le) (callVirtual (factory_held.mono (later.trans le))
      (.cons (class_held.mono (later.trans le)) .nil)) fun q _ _ le' made => ?_
    exact fills (le.trans le') made
  rw [← bind_pure (Action.choose _ _ _)]
  refine bind_within (branch held onTrue onFalse later) fun p _ _ le filled => ?_
  exact done le filled

include hidden in
theorem addAccessor {v o : ValueId} {x y : Value} (class_held : s.Holds v x)
    (object_held : s.Holds o y) :
    Performs env s (Registrar.addAccessor v o) (env.setting.addAccessor x y) s unrelated := by
  refine bind le_rfl (singleton hidden _) fun s₁ support _ k₁ support_held => ?_
  refine bind k₁ (callStatic hidden (by simp [methods]) .nil) fun s₂ _ _ k₂ factory => ?_
  have l₂ := k₁.trans k₂
  refine bind l₂ (serializationConstructor hidden (class_held.mono l₂) factory)
    fun s₃ _ _ k₃ constructor => ?_
  have l₃ := l₂.trans k₃
  refine bind l₃ (callVirtual constructor .nil) fun s₄ _ _ k₄ constructorClass => ?_
  have l₄ := l₃.trans k₄
  refine bind l₄ (loadClass _) fun s₅ _ _ k₅ reflected => ?_
  have l₅ := l₄.trans k₅
  refine silent l₅ (str _) fun s₆ _ k₆ name => ?_
  have l₆ := l₅.trans k₆
  refine bind l₆ (newArray _ _) fun s₇ _ _ k₇ noParams => ?_
  have l₇ := l₆.trans k₇
  refine bind l₇ (callStatic hidden (by simp [methods])
    (.cons (reflected.mono (k₆.trans k₇)) (.cons (name.mono k₇) (.cons noParams .nil))))
    fun s₈ _ _ k₈ lookup => ?_
  have l₈ := l₇.trans k₈
  refine bind l₈ (newArray _ _) fun s₉ _ _ k₉ noArgs => ?_
  have l₉ := l₈.trans k₉
  have constructor' := constructor.mono (k₄.trans (k₅.trans (k₆.trans (k₇.trans (k₈.trans k₉)))))
  refine bind l₉ (callVirtual (lookup.mono k₉) (.cons constructor' (.cons noArgs .nil)))
    fun s₁₀ _ _ k₁₀ accessor => ?_
  have l₁₀ := l₉.trans k₁₀
  have made := constructorClass.mono
    (k₅.trans (k₆.trans (k₇.trans (k₈.trans (k₉.trans k₁₀)))))
  have support' := support_held.mono (k₂.trans (k₃.trans (k₄.trans
    (k₅.trans (k₆.trans (k₇.trans (k₈.trans (k₉.trans k₁₀))))))))
  refine bind l₁₀ (callVirtual support' (.cons (class_held.mono l₁₀) (.cons made (.cons accessor
    .nil)))).forget fun s₁₁ _ _ k₁₁ _ => ?_
  have l₁₁ := l₁₀.trans k₁₁
  exact ((callStatic hidden (by simp [methods]) (.cons (class_held.mono l₁₁)
    (.cons (object_held.mono l₁₁) .nil))).last l₁₁).forget

end Emission.Performs

/-! ### What the recording host notes -/

namespace Scene

open Walk

variable (s : Scene)

def addAccessor (className : String) : Walk Unit := do
  s.singleton serializationRegistryType
  call getReflectionFactory
  call isAbstract
  call lookupMethod
  note (.constructorAccessor className (s.constructorClass className))
  register addReflections (.serializationReflections className objectType)

end Scene

namespace Follows

variable {scene : Scene} {s : Store}

theorem serializationConstructor (name : String) :
    Follows scene s
      (scene.setting.serializationConstructor (.classRef name) (.object reflectionFactoryType))
      (Walk.call isAbstract) s
      fun _ a _ => a = .member (.constructor (scene.constructorClass name) []) := by
  let word := HostedClass.modifiers (scene.catalogue.class? name)
  refine silent (b := ()) le_rfl (call_answer (v := .int word) rfl) fun t _ k is => ?_
  subst is
  refine ((static_answer _ (scene.catalogue.respond_isAbstract t name)).last k).then_silent
    fun u abstract_ _ k' is => ?_
  subst is
  rw [Action.choose_bool, Scene.constructorClass]
  by_cases isAbstract : scene.catalogue.isAbstractClass name
  · rw [if_pos isAbstract, if_pos isAbstract]
    refine silent k' (loadPlatform (by decide)) fun v class_ k'' is => ?_
    subst is
    exact (call_answer rfl).last (k'.trans k'')
  · rw [if_neg isAbstract, if_neg isAbstract]
    exact (call_answer rfl).last k'

theorem addAccessor (name : String) :
    Follows scene s (scene.setting.addAccessor (.classRef name) (.classRef objectType))
      (scene.addAccessor name) s unrelated := by
  refine bind le_rfl (singleton serializationRegistryType) fun s₁ support _ k₁ is => ?_
  subst is
  refine bind k₁ (static_answer _ rfl) fun s₂ factory _ k₂ is => ?_
  subst is
  have l₂ := k₁.trans k₂
  refine bind l₂ (serializationConstructor name) fun s₃ constructor _ k₃ is => ?_
  subst is
  have l₃ := l₂.trans k₃
  have declaring : Follows scene s₃ (scene.setting.callVirtual getDeclaringClass
      (.member (.constructor (scene.constructorClass name) [])) []) (pure ()) s₃
      fun _ a _ => a = .classRef (scene.constructorClass name) := call_answer rfl
  refine silent l₃ declaring fun s₄ constructorClass k₄ is => ?_
  subst is
  have l₄ := l₃.trans k₄
  refine silent l₄ (loadPlatform (by decide)) fun s₅ reflected k₅ is => ?_
  subst is
  have l₅ := l₄.trans k₅
  refine silent (b := ()) l₅ (newArray []) fun s₆ noParams k₆ none_ => ?_
  have l₆ := l₅.trans k₆
  refine bind l₆ (static_answer _ (scene.catalogue.respond_lookupMethod [] none_
    constructorType getConstructorAccessor)) fun s₇ lookup _ k₇ is => ?_
  subst is
  have l₇ := l₆.trans k₇
  refine silent (b := ()) l₇ (newArray []) fun s₈ noArgs k₈ _ => ?_
  have l₈ := l₇.trans k₈
  have invoked : Follows scene s₈ (scene.setting.callVirtual methodInvoke
      (.member (.method constructorType getConstructorAccessor []))
      [.member (.constructor (scene.constructorClass name) []), noArgs]) (pure ()) s₈
      fun _ a _ => a = .object "jdk.internal.reflect.ConstructorAccessor" :=
    call_answer rfl
  refine silent l₈ invoked fun s₉ accessor k₉ is => ?_
  subst is
  have l₉ := l₈.trans k₉
  refine bind l₉ (call_record rfl) fun s₁₀ _ _ k₁₀ _ => ?_
  exact (static_record _ rfl).last (l₉.trans k₁₀)

end Follows

namespace Walk.Tells

variable (scene : Scene)

theorem addAccessor (name : String) :
    (scene.addAccessor name).Tells (scene.accessorScript name) := by
  refine singleton scene (by decide) (bind (call _ _) (bind (call _ _) (bind (call _ _) ?_)))
  exact bind (note _) (register _ _ _)

end Walk.Tells
end Registrar
