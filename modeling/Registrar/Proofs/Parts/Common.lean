import Registrar.Proofs.Assembly.Composition
import Registrar.Proofs.Recording.Requests
import Registrar.Proofs.Recording.Telling
import Registrar.Proofs.Running.Composition
import Registrar.Proofs.Running.Performance
import Registrar.Synthesis.ClassWorker

/-! The parts that the routines of a unit have in common: what each is in direct style, what it
consists of, that the emitted code does just this, and which walk it follows on a recording host. -/
namespace Registrar

open Platform

variable {σ : Type}

/-! ### In direct style -/

namespace Setting

open Registrar.Action

variable (e : Setting σ)

def findClass (name : String) (loader : Value) : Action σ Value :=
  e.callStatic forNameWithLoader [.str name, .bool false, loader]

def resolveClass (name : String) : Action σ (Value × Value) := do
  let thread ← e.callStatic currentThread []
  let loader ← e.callVirtual getContextClassLoader thread []
  let class_ ← e.findClass name loader
  return (class_, loader)

/-- The unit finds its own class by itself. -/
def unitLoader : Action σ Value := e.callVirtual getClassLoader (.classRef e.self) []

def singleton (typeName : String) : Action σ Value := do
  let type ← e.loadClass typeName
  e.callStatic imageSingletonsLookup [type]

/-- Constructors, methods and fields of a class. -/
def fetchMembers (class_ : Value) : Action σ (Value × Value × Value) := do
  let constructors ← e.callVirtual getDeclaredConstructors class_ []
  let methods ← e.callVirtual getDeclaredMethods class_ []
  let fields ← e.callVirtual getDeclaredFields class_ []
  return (constructors, methods, fields)

def registerOne (register : MethodRef) (member : Value) : Action σ Unit := do
  let single ← newArray [member]
  discard (e.callStatic register [single])

def parameterTypes (s : Signature) : Action σ Value := do
  let types ← s.params.mapM e.loadClass
  newArray types

namespace Composes

variable {e}

theorem findClass (name : String) (loader : Value) : e.Composes (e.findClass name loader) :=
  callStatic (by simp [methods]) _

theorem resolveClass (name : String) : e.Composes (e.resolveClass name) :=
  bind (callStatic (by simp [methods]) _) fun _ => bind (callVirtual ..) fun loader =>
    bind (findClass name loader) fun _ => done _

theorem unitLoader : e.Composes e.unitLoader := callVirtual ..

theorem singleton (typeName : String) : e.Composes (e.singleton typeName) :=
  bind (loadClass _) fun _ => callStatic (by simp [methods]) _

theorem fetchMembers (class_ : Value) : e.Composes (e.fetchMembers class_) :=
  bind (callVirtual ..) fun _ => bind (callVirtual ..) fun _ => bind (callVirtual ..) fun _ =>
    done _

theorem registerOne {register : MethodRef} (platform : register ∈ methods) (member : Value) :
    e.Composes (e.registerOne register member) :=
  bind (newArray _) fun _ => forget (callStatic platform _)

theorem parameterTypes (s : Signature) : e.Composes (e.parameterTypes s) :=
  bind (mapM _ fun _ => loadClass _) fun _ => newArray _

end Composes
end Setting

/-! ### What the code consists of -/

def Signature.names (s : Signature) : List String := s.name :: s.params

namespace Emission.Consists

variable {named : String → Prop}

theorem findClass (name : String) (loader : ValueId) :
    Consists (Operation.Usual named) 3 (Emission.findClass name loader) :=
  bind (str _) fun _ => bind (bool _) fun _ => pass (by simp [methods])

theorem resolveClass (name : String) :
    Consists (Operation.Usual named) 5 (Emission.resolveClass name) :=
  bind (callStatic (by simp [methods]) (by decide)) fun _ =>
    bind (callVirtual (by simp [methods])) fun _ => bind (findClass _ _) fun _ => done _

theorem unitLoader {unitName : String} (h : named (dotted unitName)) :
    Consists (Operation.Usual named) 2 (Emission.unitLoader unitName) :=
  bind (loadClass h) fun _ => callVirtual (by simp [methods])

theorem singleton {typeName : String} (h : named typeName) :
    Consists (Operation.Usual named) 2 (Emission.singleton typeName) :=
  bind (loadClass h) fun _ => pass (by simp [methods])

theorem fetchMembers (class_ : ValueId) :
    Consists (Operation.Usual named) 3 (Members.fetch class_) :=
  bind (callVirtual (by simp [methods])) fun _ => bind (callVirtual (by simp [methods])) fun _ =>
    bind (callVirtual (by simp [methods])) fun _ => done _

variable (types : ∀ t ∈ namedTypes, named t)

include types

theorem registerOne {register : MethodRef} {component : String} {member : ValueId}
    (platform : register ∈ methods) (type : component ∈ namedTypes) :
    Consists (Operation.Usual named) 2 (Registrar.registerOne register component member) :=
  bind (arrayOf (types _ type) _) fun _ => forget (pass platform)

theorem parameterTypes {s : Signature} (params : ∀ t ∈ s.params, named t) :
    Consists (Operation.Usual named) s.names.length s.parameterTypes := by
  have loaded := mapM s.params fun name listed => loadClass (params name listed)
  refine (bind loaded fun vs => arrayOf (types _ (by simp [namedTypes])) vs).atMost ?_
  rw [Signature.names, List.length_cons, Nat.one_mul]

end Emission.Consists

/-! ### What the code does -/

namespace Emission.Performs

variable {env : Context σ} {s : Site} (hidden : env.Hides)

include hidden in
theorem findClass {loader : ValueId} {l : Value} (name : String) (held : s.Holds loader l) :
    Performs env s (Emission.findClass name loader) (env.setting.findClass name l) s holding := by
  refine silent le_rfl (str name) fun t n keep n_held => ?_
  refine silent keep (bool false) fun u early keep' early_held => ?_
  have later := keep.trans keep'
  refine (callStatic hidden (by simp [methods]) ?_).last later
  exact .cons (n_held.mono keep') (.cons early_held (.cons (held.mono later) .nil))

include hidden in
theorem resolveClass (name : String) :
    Performs env s (Emission.resolveClass name) (env.setting.resolveClass name) s
      fun t v x => t.Holds v.1 x.1 ∧ t.Holds v.2 x.2 := by
  refine bind le_rfl (callStatic hidden (by simp [methods]) .nil) fun t thread _ keep held => ?_
  refine bind keep (callVirtual held .nil) fun u loader _ keep' loader_held => ?_
  refine bind (keep.trans keep') (findClass hidden name loader_held) fun r _ _ keep'' held' => ?_
  exact done (keep.trans (keep'.trans keep'')) ⟨held', loader_held.mono keep''⟩

theorem unitLoader {unitName : String} (own : dotted unitName = env.self) :
    Performs env s (Emission.unitLoader unitName) env.setting.unitLoader s holding := by
  refine silent le_rfl (loadOwn own) fun t _ keep held => ?_
  exact (callVirtual held .nil).last keep

include hidden in
theorem singleton (typeName : String) :
    Performs env s (Emission.singleton typeName) (env.setting.singleton typeName) s holding := by
  refine bind le_rfl (loadClass typeName) fun t _ _ keep held => ?_
  exact (callStatic hidden (by simp [methods]) (.cons held .nil)).last keep

theorem fetchMembers {v : ValueId} {x : Value} (held : s.Holds v x) :
    Performs env s (Members.fetch v) (env.setting.fetchMembers x) s fun t members xs =>
      t.Holds members.constructors xs.1 ∧ t.Holds members.methods xs.2.1 ∧
        t.Holds members.fields xs.2.2 := by
  refine bind le_rfl (callVirtual held .nil) fun t _ _ keep constructors => ?_
  refine bind keep (callVirtual (held.mono keep) .nil) fun u _ _ keep' methods => ?_
  have later := keep.trans keep'
  refine bind later (callVirtual (held.mono later) .nil) fun r _ _ keep'' fields => ?_
  exact done (later.trans keep'')
    ⟨constructors.mono (keep'.trans keep''), methods.mono keep'', fields⟩

include hidden in
theorem registerOne {register : MethodRef} {member : ValueId} {x : Value} (component : String)
    (platform : register ∈ methods) (held : s.Holds member x) :
    Performs env s (Registrar.registerOne register component member)
      (env.setting.registerOne register x) s unrelated := by
  refine bind le_rfl (arrayOf component (.cons held .nil) held.pos) fun t _ _ keep single => ?_
  exact (callStatic hidden platform (.cons single .nil)).last keep |>.forget

theorem parameterTypes (sig : Signature) :
    Performs env s sig.parameterTypes (env.setting.parameterTypes sig) s holding := by
  have loaded : Performs env s (sig.params.mapM Emit.loadClass)
      (sig.params.mapM env.setting.loadClass) s fun t vs xs => List.Forall₂ t.Holds vs xs :=
    mapM _ fun name _ _ _ => loadClass name
  refine bind le_rfl loaded.known fun t vs xs keep found => ?_
  obtain ⟨next, rfl, held⟩ := found
  have counted := Emit.length_value_mapM (f := Emit.loadClass) (fun _ n => Nat.lt_succ_self n)
    sig.params s.next
  exact (arrayOf classType held (by omega)).last keep

end Emission.Performs

/-! ### What the recording host notes -/

namespace Follows

variable {scene : Scene} {s : Store}

theorem loadClass (name : String) :
    Follows scene s (scene.setting.loadClass name) (scene.load name) s
      fun _ a _ => a = .classRef name := by
  unfold Setting.loadClass Scene.load Scene.loads
  by_cases own : name = scene.self
  · rw [if_pos (show name = scene.setting.self from own), beq_iff_eq.2 own]
    exact done le_rfl rfl
  · rw [if_neg (show ¬name = scene.setting.self from own), beq_eq_false_iff_ne.2 own]
    exact ask_demand fun _ => Recorder.host_loadClass ..

/-- Every host knows the types of the platform. -/
theorem loadPlatform {name : String} (platform : Catalogue.isPlatformClass name = true) :
    Follows scene s (scene.setting.loadClass name) (pure ()) s
      fun _ a _ => a = .classRef name := by
  have known : scene.loads name = true := by
    rw [Scene.loads, Catalogue.knows, platform, Bool.or_true, Bool.or_true]
  have loaded : scene.load name = pure () := by
    rw [Scene.load, known]
    rfl
  rw [← loaded]
  exact loadClass name

theorem findClass (name : String) (loader : Value) :
    Follows scene s (scene.setting.findClass name loader) (scene.findClass name) s
      fun _ a _ => a = .classRef name :=
  callStatic _ (call_demand rfl)

theorem resolveClass (name : String) :
    Follows scene s (scene.setting.resolveClass name) (scene.resolveClass name) s
      fun _ a _ => a.1 = .classRef name := by
  refine bind le_rfl (static_answer _ rfl) fun t thread _ keep _ => ?_
  refine silent (b := ()) keep (call_answer rfl) fun u loader keep' _ => ?_
  exact ((findClass name loader).last (keep.trans keep')).map (·, loader) fun _ _ _ rel => rel

theorem forName (name : String) :
    Follows scene s (scene.setting.callStatic forName [.str name]) (scene.find name) s
      fun _ a _ => a = .classRef name :=
  callStatic _ (call_demand rfl)

theorem unitLoader :
    Follows scene s scene.setting.unitLoader (pure ()) s
      fun _ a _ => a = .object classLoaderType := by
  unfold Setting.unitLoader
  exact call_answer rfl

theorem lookup (typeName : String) :
    Follows scene s (scene.setting.callStatic imageSingletonsLookup [.classRef typeName])
      (scene.lookup typeName) s fun _ a _ => a = .object typeName := by
  refine callStatic _ (call_demand ?_)
  change (if scene.catalogue.missingSingletons.contains typeName then _ else _) = _
  cases scene.catalogue.missingSingletons.contains typeName <;> rfl

theorem singleton (typeName : String) :
    Follows scene s (scene.setting.singleton typeName) (scene.singleton typeName) s
      fun _ a _ => a = .object typeName := by
  refine bind le_rfl (loadClass typeName) fun t _ _ keep loaded => ?_
  subst loaded
  exact (lookup typeName).last keep

theorem fetchMembers (name : String) :
    Follows scene s (scene.setting.fetchMembers (.classRef name)) (pure ()) s fun t a _ =>
      t.Holds a.1 ((scene.catalogue.constructors name).map .member) ∧
        t.Holds a.2.1 ((scene.catalogue.methods name).map .member) ∧
        t.Holds a.2.2 ((scene.catalogue.fields name).map .member) := by
  let listed (m : MethodRef) (ms : List Member) : Prop := ∀ t, Follows scene t
    (scene.setting.callVirtual m (.classRef name) []) (pure ()) t fun u a _ =>
      u.Holds a (ms.map .member)
  have constructors : listed getDeclaredConstructors (scene.catalogue.constructors name) :=
    fun _ => call_array rfl
  have methods : listed getDeclaredMethods (scene.catalogue.methods name) :=
    fun _ => call_array rfl
  have fields : listed getDeclaredFields (scene.catalogue.fields name) :=
    fun _ => call_array rfl
  refine silent le_rfl (constructors s) fun t _ k constructors => ?_
  refine silent k (methods t) fun u _ k' methods => ?_
  refine silent (k.trans k') (fields u) fun v _ k'' fields => ?_
  exact done (k.trans (k'.trans k''))
    ⟨constructors.mono (k'.trans k''), methods.mono k'', fields⟩

theorem registerOne {register : MethodRef} {x : Value} {e : Event} (platform : register ∈ methods)
    (h : ∀ t a, Store.Holds t a [x] →
      scene.catalogue.respond t register none [a] = Response.record e) :
    Follows scene s (scene.setting.registerOne register x) (Scene.register register e platform) s
      unrelated := by
  refine silent (b := ()) le_rfl (newArray [x]) fun t a keep single => ?_
  exact (static_record platform (h t a single)).last keep

theorem parameterTypes (sig : Signature) :
    Follows scene s (scene.setting.parameterTypes sig) (sig.params.forM scene.load) s
      fun t a _ => t.Holds a (sig.params.map .classRef) := by
  have loaded : Follows scene s (sig.params.mapM scene.setting.loadClass)
      (sig.params.forM scene.load) s fun _ xs _ => xs = sig.params.map .classRef :=
    mapM _ _ fun name _ => loadClass name
  refine loaded.then_silent fun t xs _ le found => ?_
  subst found
  exact (newArray _).last le

end Follows
end Registrar
