import Registrar.Proofs.Parts.Common

/-! The members of a class that are reached by reflection: all of a kind at once, or those that were
named, one by one. -/
namespace Registrar

open Platform

variable {σ : Type}

/-! ### In direct style -/

namespace Setting

variable (e : Setting σ)

def registerConstructors (r : ClassRecord) (class_ constructors : Value) : Action σ Unit :=
  if r.capabilities.constructors then
    discard (e.callStatic reflectionRegisterExecutables [constructors])
  else r.constructors.toList.forM fun s => do
    let params ← e.parameterTypes s
    let found ← e.callVirtual getDeclaredConstructor class_ [params]
    e.registerOne reflectionRegisterExecutables found

def registerMethods (r : ClassRecord) (class_ methods : Value) : Action σ Unit :=
  if r.capabilities.methods then discard (e.callStatic reflectionRegisterExecutables [methods])
  else r.methods.toList.forM fun s => do
    let params ← e.parameterTypes s
    let found ← e.callVirtual getDeclaredMethod class_ [.str s.name, params]
    e.registerOne reflectionRegisterExecutables found

def registerFields (r : ClassRecord) (class_ fields : Value) : Action σ Unit :=
  if r.capabilities.fields then
    discard (e.callStatic reflectionRegisterFieldsWithFlags
      [.bool r.capabilities.finalFieldsWritable, .bool r.capabilities.serialization, fields])
  else r.fields.toList.forM fun name => do
    let found ← e.callVirtual getDeclaredField class_ [.str name]
    e.registerOne reflectionRegisterFields found

def registerMembers (r : ClassRecord) (class_ : Value) (members : Value × Value × Value) :
    Action σ Unit := do
  unless r.capabilities.weak do e.registerOne reflectionRegisterClasses class_
  e.registerConstructors r class_ members.1
  e.registerMethods r class_ members.2.1
  e.registerFields r class_ members.2.2

namespace Composes

variable {e}

theorem registerConstructors (r : ClassRecord) (class_ constructors : Value) :
    e.Composes (e.registerConstructors r class_ constructors) := by
  unfold Setting.registerConstructors
  split
  · exact forget (callStatic (by simp [methods]) _)
  · exact forM _ fun s => bind (parameterTypes s) fun _ => bind (callVirtual ..) fun _ =>
      registerOne (by simp [methods]) _

theorem registerMethods (r : ClassRecord) (class_ methods : Value) :
    e.Composes (e.registerMethods r class_ methods) := by
  unfold Setting.registerMethods
  split
  · exact forget (callStatic (by simp [Platform.methods]) _)
  · exact forM _ fun s => bind (parameterTypes s) fun _ => bind (callVirtual ..) fun _ =>
      registerOne (by simp [Platform.methods]) _

theorem registerFields (r : ClassRecord) (class_ fields : Value) :
    e.Composes (e.registerFields r class_ fields) := by
  unfold Setting.registerFields
  split
  · exact forget (callStatic (by simp [methods]) _)
  · exact forM _ fun _ => bind (callVirtual ..) fun _ => registerOne (by simp [methods]) _

theorem registerMembers (r : ClassRecord) (class_ : Value) (members : Value × Value × Value) :
    e.Composes (e.registerMembers r class_ members) := by
  have rest : e.Composes (do
      e.registerConstructors r class_ members.1
      e.registerMethods r class_ members.2.1
      e.registerFields r class_ members.2.2) :=
    bind (registerConstructors ..) fun _ => bind (registerMethods ..) fun _ => registerFields ..
  unfold Setting.registerMembers
  split
  · exact rest
  · exact bind (registerOne (by simp [methods]) _) fun _ => rest

end Composes
end Setting

/-! ### What the code consists of -/

/-- The names in a record, but for that of its class. -/
def ClassRecord.memberNames (r : ClassRecord) : List String :=
  r.constructors.toList.flatMap Signature.names ++ r.methods.toList.flatMap Signature.names ++
    r.fields.toList

namespace Emission.Consists

variable {named : String → Prop} (types : ∀ t ∈ namedTypes, named t) {r : ClassRecord}
  (class_ : ValueId) (members : Members)

include types

theorem registerConstructors (params : ∀ s ∈ r.constructors.toList, ∀ t ∈ s.params, named t) :
    Consists (Operation.Usual named) (5 * (r.constructors.toList.flatMap Signature.names).length + 1)
      (r.registerConstructors class_ members) := by
  unfold ClassRecord.registerConstructors
  split
  · exact (forget (pass (by simp [methods]))).atMost (Nat.le_add_left ..)
  · refine (forM 0 5 Signature.names _ fun s listed => ?_).atMost (by omega)
    refine (bind (parameterTypes types (params s listed)) fun _ =>
      bind (callVirtual (by simp [methods])) fun _ =>
      registerOne types (by simp [methods]) (by simp [namedTypes])).atMost ?_
    rw [Signature.names, List.length_cons]
    omega

theorem registerMethods (params : ∀ s ∈ r.methods.toList, ∀ t ∈ s.params, named t) :
    Consists (Operation.Usual named) (5 * (r.methods.toList.flatMap Signature.names).length + 1)
      (r.registerMethods class_ members) := by
  unfold ClassRecord.registerMethods
  split
  · exact (forget (pass (by simp [methods]))).atMost (Nat.le_add_left ..)
  · refine (forM 0 5 Signature.names _ fun s listed => ?_).atMost (by omega)
    refine (bind (str _) fun _ => bind (parameterTypes types (params s listed)) fun _ =>
      bind (callVirtual (by simp [methods])) fun _ =>
      registerOne types (by simp [methods]) (by simp [namedTypes])).atMost ?_
    rw [Signature.names, List.length_cons]
    omega

theorem registerFields : Consists (Operation.Usual named) (4 * r.fields.toList.length + 3)
    (r.registerFields class_ members) := by
  unfold ClassRecord.registerFields
  split
  · refine (bind (bool _) fun _ => bind (bool _) fun _ => forget (pass ?_)).atMost
      (Nat.le_add_left ..)
    simp [methods]
  · refine (loop r.fields.toList fun name _ => ?_).atMost (Nat.le_add_right ..)
    exact bind (str _) fun _ => bind (callVirtual (by simp [methods])) fun _ =>
      registerOne types (by simp [methods]) (by simp [namedTypes])

theorem registerMembers
    (params : ∀ s, s ∈ r.constructors.toList ∨ s ∈ r.methods.toList → ∀ t ∈ s.params, named t) :
    Consists (Operation.Usual named) (5 * r.memberNames.length + 7)
      (ClassRecord.register.registerMembers r class_ members) := by
  have rest :=
    bind (registerConstructors types class_ members fun s listed => params s (.inl listed)) fun _ =>
    bind (registerMethods types class_ members fun s listed => params s (.inr listed)) fun _ =>
    registerFields (r := r) types class_ members
  unfold ClassRecord.register.registerMembers
  split
  · refine rest.atMost ?_
    simp only [ClassRecord.memberNames, List.length_append]
    omega
  · refine (bind (registerOne types (by simp [methods]) (by simp [namedTypes])) fun _ =>
      rest).atMost ?_
    simp only [ClassRecord.memberNames, List.length_append]
    omega

end Emission.Consists

/-! ### What the code does -/

namespace Emission.Performs

variable {env : Context σ} {s : Site} (hidden : env.Hides)

include hidden in
theorem registerConstructors {r : ClassRecord} {v : ValueId} {x : Value} {members : Members}
    {cs : Value} (class_held : s.Holds v x) (held : s.Holds members.constructors cs) :
    Performs env s (r.registerConstructors v members) (env.setting.registerConstructors r x cs) s
      unrelated := by
  unfold ClassRecord.registerConstructors Setting.registerConstructors
  split
  · exact (callStatic hidden (by simp [methods]) (.cons held .nil)).forget
  · refine forM _ fun sig _ t le => ?_
    refine bind le_rfl (parameterTypes sig) fun u _ _ keep params => ?_
    refine bind keep (callVirtual (class_held.mono (le.trans keep)) (.cons params .nil))
      fun p _ _ keep' found => ?_
    exact (registerOne hidden _ (by simp [methods]) found).last (keep.trans keep')

include hidden in
theorem registerMethods {r : ClassRecord} {v : ValueId} {x : Value} {members : Members}
    {ms : Value} (class_held : s.Holds v x) (held : s.Holds members.methods ms) :
    Performs env s (r.registerMethods v members) (env.setting.registerMethods r x ms) s
      unrelated := by
  unfold ClassRecord.registerMethods Setting.registerMethods
  split
  · exact (callStatic hidden (by simp [methods]) (.cons held .nil)).forget
  · refine forM _ fun sig _ t le => ?_
    refine silent le_rfl (str sig.name) fun t' _ k name => ?_
    refine bind k (parameterTypes sig) fun u _ _ keep params => ?_
    refine bind (k.trans keep) (callVirtual (class_held.mono (le.trans (k.trans keep)))
      (.cons (name.mono keep) (.cons params .nil))) fun p _ _ keep' found => ?_
    exact (registerOne hidden _ (by simp [methods]) found).last (k.trans (keep.trans keep'))

include hidden in
theorem registerFields {r : ClassRecord} {v : ValueId} {x : Value} {members : Members}
    {fs : Value} (class_held : s.Holds v x) (held : s.Holds members.fields fs) :
    Performs env s (r.registerFields v members) (env.setting.registerFields r x fs) s
      unrelated := by
  unfold ClassRecord.registerFields Setting.registerFields
  split
  · refine silent le_rfl (bool _) fun t _ keep writable => ?_
    refine silent keep (bool _) fun u _ keep' serializable => ?_
    have later := keep.trans keep'
    exact ((callStatic hidden (by simp [methods]) (.cons (writable.mono keep')
      (.cons serializable (.cons (held.mono later) .nil)))).last later).forget
  · refine forM _ fun field _ t le => ?_
    refine silent le_rfl (str field) fun u _ keep name => ?_
    refine bind keep (callVirtual (class_held.mono (le.trans keep)) (.cons name .nil))
      fun p _ _ keep' found => ?_
    exact (registerOne hidden _ (by simp [methods]) found).last (keep.trans keep')

include hidden in
theorem registerMembers {r : ClassRecord} {v : ValueId} {x : Value} {members : Members}
    {xs : Value × Value × Value} (class_held : s.Holds v x)
    (constructors : s.Holds members.constructors xs.1) (methods : s.Holds members.methods xs.2.1)
    (fields : s.Holds members.fields xs.2.2) :
    Performs env s (ClassRecord.register.registerMembers r v members)
      (env.setting.registerMembers r x xs) s unrelated := by
  have rest : ∀ t, s ≤ t → Performs env s (do
      r.registerConstructors v members
      r.registerMethods v members
      r.registerFields v members) (do
      env.setting.registerConstructors r x xs.1
      env.setting.registerMethods r x xs.2.1
      env.setting.registerFields r x xs.2.2) t unrelated := by
    intro t k
    refine bind k (registerConstructors hidden (class_held.mono k) (constructors.mono k))
      fun u _ _ k' _ => ?_
    have l := k.trans k'
    refine bind l (registerMethods hidden (class_held.mono l) (methods.mono l))
      fun p _ _ k'' _ => ?_
    have l' := l.trans k''
    exact (registerFields hidden (class_held.mono l') (fields.mono l')).last l'
  unfold ClassRecord.register.registerMembers Setting.registerMembers
  by_cases weak : r.capabilities.weak
  · simp only [weak, if_true]
    exact rest s le_rfl
  · simp only [weak]
    refine bind le_rfl (registerOne hidden _ (by simp [Platform.methods]) class_held)
      fun t _ _ k _ => rest t k

end Emission.Performs

/-! ### What the recording host notes -/

namespace Scene

open Walk

variable (s : Scene) (r : ClassRecord)

def registerConstructors : Walk Unit :=
  if r.capabilities.constructors then
    register reflectionRegisterExecutables
      (.registerExecutables .reflection (s.catalogue.constructors r.className))
  else r.constructors.toList.forM fun sig => do
    sig.params.forM s.load
    demand (s.catalogue.hasConstructor r.className sig.params)
      (.noSuchMethod r.className (Catalogue.signatureText constructorName sig.params))
    register reflectionRegisterExecutables
      (.registerExecutables .reflection [.constructor r.className sig.params])

def registerMethods : Walk Unit :=
  if r.capabilities.methods then
    register reflectionRegisterExecutables
      (.registerExecutables .reflection (s.catalogue.methods r.className))
  else r.methods.toList.forM fun sig => do
    sig.params.forM s.load
    demand (s.catalogue.hasMethod r.className sig.name sig.params)
      (.noSuchMethod r.className (Catalogue.signatureText sig.name sig.params))
    register reflectionRegisterExecutables
      (.registerExecutables .reflection [.method r.className sig.name sig.params])

def registerFields : Walk Unit :=
  if r.capabilities.fields then
    register reflectionRegisterFieldsWithFlags
      (.registerFields .reflection (s.catalogue.fields r.className)
        r.capabilities.finalFieldsWritable r.capabilities.serialization)
  else r.fields.toList.forM fun name => do
    demand (s.catalogue.hasField r.className name) (.noSuchField r.className name)
    register reflectionRegisterFields
      (.registerFields .reflection [.field r.className name] false false)

def registerMembers : Walk Unit := do
  unless r.capabilities.weak do
    register reflectionRegisterClasses (.registerClasses .reflection [r.className])
  s.registerConstructors r
  s.registerMethods r
  s.registerFields r

end Scene

namespace Follows

variable {scene : Scene} {s : Store}

theorem registerConstructors (r : ClassRecord) {cs : Value}
    (held : s.Holds cs ((scene.catalogue.constructors r.className).map .member)) :
    Follows scene s (scene.setting.registerConstructors r (.classRef r.className) cs)
      (scene.registerConstructors r) s unrelated := by
  unfold Setting.registerConstructors Scene.registerConstructors
  split
  · exact static_record _ (scene.catalogue.respond_registerExecutables .reflection _ held)
  · refine forM _ fun sig _ t _ => ?_
    refine bind le_rfl (parameterTypes sig) fun u params _ keep types => ?_
    refine bind keep (call_demand
      (scene.catalogue.respond_getDeclaredConstructor _ types r.className))
      fun v found _ keep' is => ?_
    subst is
    refine (registerOne _ fun q a single => ?_).last (keep.trans keep')
    exact scene.catalogue.respond_registerExecutables .reflection [_] single

theorem registerMethods (r : ClassRecord) {ms : Value}
    (held : s.Holds ms ((scene.catalogue.methods r.className).map .member)) :
    Follows scene s (scene.setting.registerMethods r (.classRef r.className) ms)
      (scene.registerMethods r) s unrelated := by
  unfold Setting.registerMethods Scene.registerMethods
  split
  · exact static_record _ (scene.catalogue.respond_registerExecutables .reflection _ held)
  · refine forM _ fun sig _ t _ => ?_
    refine bind le_rfl (parameterTypes sig) fun u params _ keep types => ?_
    refine bind keep (call_demand
      (scene.catalogue.respond_getDeclaredMethod _ types r.className sig.name))
      fun v found _ keep' is => ?_
    subst is
    refine (registerOne _ fun q a single => ?_).last (keep.trans keep')
    exact scene.catalogue.respond_registerExecutables .reflection [_] single

theorem registerFields (r : ClassRecord) {fs : Value}
    (held : s.Holds fs ((scene.catalogue.fields r.className).map .member)) :
    Follows scene s (scene.setting.registerFields r (.classRef r.className) fs)
      (scene.registerFields r) s unrelated := by
  unfold Setting.registerFields Scene.registerFields
  split
  · exact static_record _ (scene.catalogue.respond_registerFieldsWithFlags .reflection _ held _ _)
  · refine forM _ fun name _ t _ => ?_
    refine bind le_rfl (call_demand
      (scene.catalogue.respond_getDeclaredField r.className name)) fun u found _ keep is => ?_
    subst is
    refine (registerOne _ fun q a single => ?_).last keep
    exact scene.catalogue.respond_registerFields .reflection [_] single

theorem registerMembers (r : ClassRecord) {xs : Value × Value × Value}
    (constructors : s.Holds xs.1 ((scene.catalogue.constructors r.className).map .member))
    (methods : s.Holds xs.2.1 ((scene.catalogue.methods r.className).map .member))
    (fields : s.Holds xs.2.2 ((scene.catalogue.fields r.className).map .member)) :
    Follows scene s (scene.setting.registerMembers r (.classRef r.className) xs)
      (scene.registerMembers r) s unrelated := by
  have rest : ∀ t, s ≤ t → Follows scene s (do
      scene.setting.registerConstructors r (.classRef r.className) xs.1
      scene.setting.registerMethods r (.classRef r.className) xs.2.1
      scene.setting.registerFields r (.classRef r.className) xs.2.2) (do
      scene.registerConstructors r
      scene.registerMethods r
      scene.registerFields r) t unrelated := by
    intro t k
    refine bind k (registerConstructors r (constructors.mono k)) fun u _ _ k' _ => ?_
    have l := k.trans k'
    refine bind l (registerMethods r (methods.mono l)) fun v _ _ k'' _ => ?_
    exact (registerFields r (fields.mono (l.trans k''))).last (l.trans k'')
  unfold Setting.registerMembers Scene.registerMembers
  by_cases weak : r.capabilities.weak
  · simp only [weak, if_true]
    exact rest s le_rfl
  · simp only [weak]
    refine bind le_rfl (registerOne _ fun q a single => ?_) fun t _ _ k _ => rest t k
    exact scene.catalogue.respond_registerClasses .reflection [_] single

end Follows

namespace Walk.Tells

variable {y : Walk Unit} (scene : Scene)

theorem memberStep (params : List String) (found : Bool) (missing : Fault) {e : Event}
    (hy : y.Tells [.ok e]) : (do
      params.forM scene.load
      Walk.demand found missing
      y).Tells [scene.memberStep params found missing e] := by
  have load (name : String) : (scene.load name).Tells
      (if scene.loads name then [] else [.error (.classNotFound name)]) := demand _ _
  have loads := forM_demand load params
  unfold Scene.memberStep
  cases unknown : params.find? (!scene.loads ·) with
  | some param =>
    rw [unknown] at loads
    exact bind_stop loads _
  | none =>
    rw [unknown] at loads
    exact bind loads (gate_step (demand found missing) hy)

theorem registerConstructors (r : ClassRecord) :
    (scene.registerConstructors r).Tells (scene.constructorScript r) := by
  unfold Scene.registerConstructors Scene.constructorScript
  split
  · exact register _ _ _
  · exact forM_step (fun _ => memberStep scene _ _ _ (register _ _ _)) _

theorem registerMethods (r : ClassRecord) :
    (scene.registerMethods r).Tells (scene.methodScript r) := by
  unfold Scene.registerMethods Scene.methodScript
  split
  · exact register _ _ _
  · exact forM_step (fun _ => memberStep scene _ _ _ (register _ _ _)) _

theorem registerFields (r : ClassRecord) :
    (scene.registerFields r).Tells (scene.fieldScript r) := by
  unfold Scene.registerFields Scene.fieldScript
  split
  · exact register _ _ _
  · exact forM_step (fun _ => gate_step (demand _ _) (register _ _ _)) _

theorem registerMembers (r : ClassRecord) : (scene.registerMembers r).Tells
    ((if r.capabilities.weak then [] else [.ok (.registerClasses .reflection [r.className])]) ++
      (scene.constructorScript r ++ (scene.methodScript r ++ scene.fieldScript r))) := by
  have rest := bind (registerConstructors scene r)
    (bind (registerMethods scene r) (registerFields scene r))
  unfold Scene.registerMembers
  cases r.capabilities.weak
  · exact bind (register _ _ _) rest
  · exact rest

end Walk.Tells
end Registrar
