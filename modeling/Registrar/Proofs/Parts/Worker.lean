import Registrar.Proofs.Parts.Members
import Registrar.Proofs.Parts.Serialization
import Registrar.Synthesis.JniWorker

/-! The workers of a unit: one for each class that is reached by reflection, and one for each that is
reached from native code. -/
namespace Registrar

open Platform

variable {σ : Type}

/-! ### In direct style -/

namespace Setting

open Registrar.Action

variable (e : Setting σ)

def registerClass (r : ClassRecord) : Action σ Unit := do
  let (class_, loader) ← e.resolveClass r.className
  let members ← e.fetchMembers class_
  if r.capabilities.serialization then
    let objectClass ← e.findClass objectType loader
    e.registerMembers r class_ members
    e.addAccessor class_ objectClass
  else e.registerMembers r class_ members

def registerJniClass (r : JniRecord) : Action σ Unit := do
  let (class_, _) ← e.resolveClass r.className
  let members ← e.fetchMembers class_
  e.registerOne jniRegisterClasses class_
  if r.constructors then discard (e.callStatic jniRegisterExecutables [members.1])
  if r.methods then discard (e.callStatic jniRegisterExecutables [members.2.1])
  if r.fields then
    discard (e.callStatic jniRegisterFields [.bool r.finalFieldsWritable, members.2.2])

namespace Composes

variable {e}

theorem registerClass (r : ClassRecord) : e.Composes (e.registerClass r) := by
  refine bind (resolveClass r.className) fun found => bind (fetchMembers _) fun members => ?_
  split
  · exact bind (findClass _ _) fun _ => bind (registerMembers r found.1 members) fun _ =>
      addAccessor _ _
  · exact registerMembers r found.1 members

theorem registerJniClass (r : JniRecord) : e.Composes (e.registerJniClass r) := by
  refine bind (resolveClass r.className) fun found => bind (fetchMembers _) fun members =>
    bind (registerOne (by simp [methods]) _) fun _ => ?_
  refine optional (forget (callStatic (by simp [methods]) _))
    (optional (forget (callStatic (by simp [methods]) _)) ?_)
  split
  · exact forget (callStatic (by simp [methods]) _)
  · exact done ()

end Composes
end Setting

/-! ### What the code consists of -/

namespace Emission.Consists

variable {named : String → Prop} (types : ∀ t ∈ namedTypes, named t)

include types

theorem registerClass {r : ClassRecord}
    (params : ∀ s, s ∈ r.constructors.toList ∨ s ∈ r.methods.toList → ∀ t ∈ s.params, named t) :
    Consists (Operation.Usual named) (5 * r.memberNames.length + 36) r.register := by
  have rest (found : ValueId × ValueId) (members : Members) :
      Consists (Operation.Usual named) (5 * r.memberNames.length + 28)
        (if r.capabilities.serialization then do
          let objectClass ← Emission.findClass objectType found.2
          ClassRecord.register.registerMembers r found.1 members
          Registrar.addAccessor found.1 objectClass
        else ClassRecord.register.registerMembers r found.1 members) := by
    have registered := registerMembers types found.1 members params
    split
    · refine (bind (findClass _ _) fun objectClass => bind registered fun _ =>
        addAccessor types found.1 objectClass).atMost ?_
      omega
    · exact registered.atMost (by omega)
  refine (bind (resolveClass r.className) fun found => bind (fetchMembers found.1) fun members =>
    rest found members).atMost ?_
  omega

theorem registerJniClass (r : JniRecord) :
    Consists (Operation.Usual named) 14 r.register := by
  have all (executables : ValueId) : Consists (Operation.Usual named) 1
      (discard (Emit.invokeStatic jniRegisterExecutables [executables])) :=
    forget (pass (by simp [methods]))
  have fields (members : Members) : Consists (Operation.Usual named) 2
      (if r.fields then do
        let writable ← Emit.bool r.finalFieldsWritable
        discard (Emit.invokeStatic jniRegisterFields [writable, members.fields])
      else pure ()) := by
    split
    · exact bind (bool _) fun _ => forget (pass (by simp [methods]))
    · exact (done ()).atMost (Nat.zero_le 2)
  refine bind (k := 9) (resolveClass r.className) fun found => ?_
  refine bind (k := 6) (fetchMembers found.1) fun members => ?_
  refine bind (k := 4) (registerOne types (by simp [methods]) (by simp [namedTypes])) fun _ => ?_
  exact optional (all _) (optional (all _) (fields members))

end Emission.Consists

/-! ### What the code does -/

namespace Emission.Performs

variable {env : Context σ} {s : Site} (hidden : env.Hides)

include hidden in
theorem registerClass (r : ClassRecord) :
    Performs env s r.register (env.setting.registerClass r) s unrelated := by
  unfold ClassRecord.register Setting.registerClass
  refine bind le_rfl (resolveClass hidden r.className) fun t v x k resolved => ?_
  obtain ⟨class_, loader⟩ := v
  obtain ⟨class_held, loader_held⟩ := resolved
  refine bind k (fetchMembers class_held) fun u members xs k' fetched => ?_
  obtain ⟨constructors, methods, fields⟩ := fetched
  have l := k.trans k'
  split
  · refine bind l (findClass hidden objectType (loader_held.mono k')) fun p _ _ k'' object => ?_
    refine bind (l.trans k'') (registerMembers hidden (class_held.mono (k'.trans k''))
      (constructors.mono k'') (methods.mono k'') (fields.mono k'')) fun q _ _ k₃ _ => ?_
    exact (addAccessor hidden (class_held.mono (k'.trans (k''.trans k₃)))
      (object.mono k₃)).last (l.trans (k''.trans k₃))
  · exact (registerMembers hidden (class_held.mono k') constructors methods fields).last l

include hidden in
theorem registerJniClass (r : JniRecord) :
    Performs env s r.register (env.setting.registerJniClass r) s unrelated := by
  unfold JniRecord.register Setting.registerJniClass
  refine bind le_rfl (resolveClass hidden r.className) fun t v x k resolved => ?_
  obtain ⟨class_held, -⟩ := resolved
  refine bind k (fetchMembers class_held) fun u members xs k' fetched => ?_
  obtain ⟨constructors, methods, fields⟩ := fetched
  have l := k.trans k'
  refine bind l (registerOne hidden _ (by simp [Platform.methods]) (class_held.mono k'))
    fun p _ _ k'' _ => ?_
  have held : p.Holds members.constructors xs.1 ∧ p.Holds members.methods xs.2.1 ∧
      p.Holds members.fields xs.2.2 :=
    ⟨constructors.mono k'', methods.mono k'', fields.mono k''⟩
  refine optional (l.trans k'') ((callStatic hidden (by simp [Platform.methods])
    (.cons held.1 .nil)).forget) fun q k₃ => ?_
  refine optional (l.trans (k''.trans k₃)) ((callStatic hidden (by simp [Platform.methods])
    (.cons (held.2.1.mono k₃) .nil)).forget) fun q' k₄ => ?_
  have l₄ := l.trans (k''.trans (k₃.trans k₄))
  split
  · refine silent l₄ (bool _) fun q'' _ k₅ writable => ?_
    exact ((callStatic hidden (by simp [Platform.methods]) (.cons writable
      (.cons (held.2.2.mono (k₃.trans (k₄.trans k₅))) .nil))).last (l₄.trans k₅)).forget
  · exact done l₄ trivial

end Emission.Performs

/-! ### What the recording host notes -/

namespace Scene

open Walk

variable (s : Scene)

def registerClass (r : ClassRecord) : Walk Unit := do
  s.resolveClass r.className
  if r.capabilities.serialization then
    s.findClass objectType
    s.registerMembers r
    s.addAccessor r.className
  else s.registerMembers r

def registerJniClass (r : JniRecord) : Walk Unit := do
  s.resolveClass r.className
  register jniRegisterClasses (.registerClasses .jni [r.className])
  if r.constructors then
    register jniRegisterExecutables
      (.registerExecutables .jni (s.catalogue.constructors r.className))
  if r.methods then
    register jniRegisterExecutables
      (.registerExecutables .jni (s.catalogue.methods r.className))
  if r.fields then
    register jniRegisterFields
      (.registerFields .jni (s.catalogue.fields r.className) r.finalFieldsWritable false)

end Scene

namespace Follows

variable {scene : Scene} {s : Store}

theorem registerClass (r : ClassRecord) :
    Follows scene s (scene.setting.registerClass r) (scene.registerClass r) s unrelated := by
  unfold Setting.registerClass Scene.registerClass
  refine bind le_rfl (resolveClass r.className) fun t x _ k resolved => ?_
  obtain ⟨class_, loader⟩ := x
  subst resolved
  refine silent k (fetchMembers r.className) fun u xs k' fetched => ?_
  obtain ⟨constructors, methods, fields⟩ := fetched
  have l := k.trans k'
  split
  · refine bind l (findClass objectType loader) fun v object _ k'' is => ?_
    subst is
    refine bind (l.trans k'') (registerMembers r (constructors.mono k'') (methods.mono k'')
      (fields.mono k'')) fun w _ _ k₃ _ => ?_
    exact (addAccessor r.className).last (l.trans (k''.trans k₃))
  · exact (registerMembers r constructors methods fields).last l

theorem registerJniClass (r : JniRecord) :
    Follows scene s (scene.setting.registerJniClass r) (scene.registerJniClass r) s unrelated := by
  unfold Setting.registerJniClass Scene.registerJniClass
  refine bind le_rfl (resolveClass r.className) fun t x _ k resolved => ?_
  obtain ⟨class_, loader⟩ := x
  subst resolved
  refine silent k (fetchMembers r.className) fun u xs k' fetched => ?_
  obtain ⟨constructors, methods, fields⟩ := fetched
  have l := k.trans k'
  refine bind l (registerOne _ fun q a single =>
    scene.catalogue.respond_registerClasses .jni [_] single) fun v _ _ k'' _ => ?_
  have l' := l.trans k''
  refine optional l' (static_record _ (scene.catalogue.respond_registerExecutables .jni _
    (constructors.mono k''))) fun w k₃ => ?_
  refine optional (l'.trans k₃) (static_record _ (scene.catalogue.respond_registerExecutables .jni _
    (methods.mono (k''.trans k₃)))) fun q k₄ => ?_
  have l₄ := l'.trans (k₃.trans k₄)
  split
  · exact (static_record _ (scene.catalogue.respond_registerFieldsWithFlag .jni _
      (fields.mono (k''.trans (k₃.trans k₄))) _)).last l₄
  · exact done l₄ trivial

end Follows

namespace Walk.Tells

variable (scene : Scene)

/-- Every host knows the common supertype, so that looking for it ends nothing. -/
theorem registerClass (r : ClassRecord) : (scene.registerClass r).Tells (scene.classScript r) := by
  have members := registerMembers scene r
  unfold Scene.registerClass Scene.classScript
  refine gate (resolveClass scene r.className) ?_
  cases r.capabilities.serialization
  · simpa only [Bool.false_eq_true, if_false, List.append_nil] using members
  · have object := findClass scene objectType
    have known : scene.catalogue.knows objectType = true := by
      rw [Catalogue.knows, Bool.or_eq_true]
      right
      decide
    rw [known] at object
    have whole := bind object (bind members (addAccessor scene r.className))
    simpa only [if_true, List.nil_append, List.append_assoc] using whole

theorem registerJniClass (r : JniRecord) :
    (scene.registerJniClass r).Tells (scene.jniScript r) := by
  unfold Scene.registerJniClass Scene.jniScript
  refine gate (resolveClass scene r.className) (bind (register _ _ _) ?_)
  refine optional (register _ _ _) (optional (register _ _ _) ?_)
  cases r.fields
  · exact done
  · exact register _ _ _

end Walk.Tells
end Registrar
