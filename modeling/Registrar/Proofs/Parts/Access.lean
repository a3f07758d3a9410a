import Registrar.Proofs.Parts.Common
import Registrar.Synthesis.EntryPoint

/-! Fields that are accessed without checks, proxies for interfaces, and ciphers that are asked for so
that their providers are found. -/
namespace Registrar

open Platform

variable {σ : Type}

/-! ### In direct style -/

namespace Setting

open Registrar.Action

variable (e : Setting σ)

def registerUnsafe (access : Value) (f : UnsafeAccessedField) : Action σ Unit :=
  e.isolated .report do
    let class_ ← e.callStatic forName [.str f.declaringClass]
    let handle ← e.callVirtual getDeclaredField class_ [.str f.fieldName]
    discard (e.callInterface registerAsUnsafeAccessed access [handle])

def addProxy (registry : Value) (d : ProxyDefinition) : Action σ Unit := do
  let interfaces ← d.interfaces.mapM fun name => e.callStatic forName [.str name]
  let interfaces ← newArray interfaces
  discard (e.callInterface addProxyClass registry [interfaces])

def addProxies (definitions : List ProxyDefinition) : Action σ Unit :=
  unless definitions.isEmpty do
    let registry ← e.singleton dynamicProxyRegistryType
    definitions.forM (e.addProxy registry)

def requestCipher (transformation : String) : Action σ Unit :=
  e.isolated .drop (discard (e.callStatic cipherGetInstance [.str transformation]))

namespace Composes

variable {e}

theorem registerUnsafe (access : Value) (f : UnsafeAccessedField) :
    e.Composes (e.registerUnsafe access f) :=
  isolated .report <| bind (callStatic (by simp [methods]) _) fun _ => bind (callVirtual ..) fun _ =>
    forget (callInterface ..)

theorem addProxy (registry : Value) (d : ProxyDefinition) : e.Composes (e.addProxy registry d) :=
  bind (mapM _ fun _ => callStatic (by simp [methods]) _) fun _ => bind (newArray _) fun _ =>
    forget (callInterface ..)

theorem addProxies (definitions : List ProxyDefinition) : e.Composes (e.addProxies definitions) :=
  category <| bind (singleton _) fun registry => forM _ fun d => addProxy registry d

theorem requestCipher (transformation : String) : e.Composes (e.requestCipher transformation) :=
  isolated .drop (forget (callStatic (by simp [methods]) _))

end Composes
end Setting

/-! ### What the code consists of -/

namespace Emission.Consists

variable {named : String → Prop}

theorem registerUnsafe (f : UnsafeAccessedField) (access : ValueId) :
    Consists (Operation.Usual named) 7 (f.register access) := by
  refine isolated (k := 5) .report ?_
  refine bind (k := 4) (str _) fun className => ?_
  refine bind (k := 3) (pass (by simp [methods])) fun class_ => ?_
  refine bind (k := 2) (str _) fun fieldName => ?_
  refine bind (k := 1) (callVirtual (by simp [methods])) fun handle => ?_
  exact forget (callInterface (by simp [methods]))

theorem requestCiphers (p : Plan) : Consists (Operation.Usual named)
    (4 * p.cipherTransformations.toList.length) p.requestCiphers :=
  loop _ fun _ _ => isolated .drop (bind (str _) fun _ => forget (pass (by simp [methods])))

theorem addProxies (types : ∀ t ∈ namedTypes, named t) (p : Plan) : Consists (Operation.Usual named)
    (2 * p.proxyDefinitions.length +
      2 * (p.proxyDefinitions.flatMap ProxyDefinition.interfaces).length + 2) p.addProxies := by
  have find (name : String) : Consists (Operation.Usual named) 2 (do
      let name ← Emit.str name
      Emit.invokeStatic forName [name]) := bind (str _) fun _ => pass (by simp [methods])
  refine (category <| bind (singleton (types _ (by simp [namedTypes]))) fun registry =>
    forM 2 2 ProxyDefinition.interfaces _ fun d _ => ?_).atMost ?_
  · refine (bind (mapM _ fun name _ => find name) fun found =>
      bind (arrayOf (types _ (by simp [namedTypes])) found) fun _ =>
      forget (callInterface (by simp [methods]))).atMost ?_
    omega
  · omega

end Emission.Consists

/-! ### What the code does -/

namespace Emission.Performs

variable {env : Context σ} {s : Site} (hidden : env.Hides)

include hidden in
theorem registerUnsafe {access : ValueId} {a : Value} (f : UnsafeAccessedField)
    (held : s.Holds access a) :
    Performs env s (f.register access) (env.setting.registerUnsafe a f) s unrelated := by
  apply isolated
  refine silent le_rfl (str _) fun t _ k name => ?_
  refine bind k (callStatic hidden (by simp [methods]) (.cons name .nil)) fun u _ _ k' class_ => ?_
  have l := k.trans k'
  refine silent l (str _) fun v _ k'' field => ?_
  have l' := l.trans k''
  refine bind l' (callVirtual (class_.mono k'') (.cons field .nil)) fun r _ _ k₃ handle => ?_
  have l₃ := l'.trans k₃
  exact ((callInterface (held.mono l₃) (.cons handle .nil)).last l₃).forget

include hidden in
theorem addProxies (p : Plan) :
    Performs env s p.addProxies (env.setting.addProxies p.proxyDefinitions) s unrelated := by
  apply category
  refine bind le_rfl (singleton hidden _) fun t _ _ k registry => ?_
  refine (forM p.proxyDefinitions fun d _ u le => ?_).last k
  let find (name : String) : Emission ValueId := do
    let name ← Emit.str name
    Emit.invokeStatic forName [name]
  have takes : ∀ name n, n < (find name n).next := by
    intro name n
    have filled : (find name n).next = n + 2 := by
      simp [find, Emit.str, Emit.constant, Emit.invokeStatic]
    omega
  have loaded : Performs env u (d.interfaces.mapM find)
      (d.interfaces.mapM fun name => env.setting.callStatic forName [.str name]) u
      fun t vs xs => List.Forall₂ t.Holds vs xs := by
    refine mapM _ fun name _ v _ => ?_
    refine silent le_rfl (str name) fun r _ keep held => ?_
    exact (callStatic hidden (by simp [methods]) (.cons held .nil)).last keep
  refine bind le_rfl loaded.known fun v vs xs k' found => ?_
  obtain ⟨next, rfl, held⟩ := found
  have counted := Emit.length_value_mapM takes d.interfaces u.next
  refine bind k' (arrayOf classType held (by omega)) fun r _ _ k'' interfaces => ?_
  have l := k'.trans k''
  exact ((callInterface (registry.mono (le.trans l)) (.cons interfaces .nil)).last l).forget

include hidden in
theorem requestCipher (transformation : String) :
    Performs env s (Emission.isolated .drop do
      let name ← Emit.str transformation
      discard (Emit.invokeStatic cipherGetInstance [name]))
      (env.setting.requestCipher transformation) s unrelated := by
  apply isolated
  refine silent le_rfl (str transformation) fun t _ keep held => ?_
  exact ((callStatic hidden (by simp [methods]) (.cons held .nil)).last keep).forget

end Emission.Performs

/-! ### What the recording host notes -/

namespace Scene

open Walk

variable (s : Scene)

def registerUnsafe (f : UnsafeAccessedField) : Walk Unit := isolated .report do
  s.find f.declaringClass
  demand (s.catalogue.hasField f.declaringClass f.fieldName)
    (.noSuchField f.declaringClass f.fieldName)
  note (.unsafeAccessed f.declaringClass f.fieldName)

def addProxy (d : ProxyDefinition) : Walk Unit := do
  d.interfaces.forM s.find
  note (.proxyClass d.interfaces)

def addProxies (definitions : List ProxyDefinition) : Walk Unit :=
  unless definitions.isEmpty do
    s.singleton dynamicProxyRegistryType
    definitions.forM s.addProxy

def requestCipher (transformation : String) : Walk Unit := isolated .drop do
  call cipherGetInstance
  demand (s.catalogue.ciphers.contains transformation)
    ⟨"java.security.NoSuchAlgorithmException", transformation⟩
  note (.cipherRequested transformation)

end Scene

namespace Follows

variable {scene : Scene} {s : Store}

theorem registerUnsafe (access : Value) (f : UnsafeAccessedField) :
    Follows scene s (scene.setting.registerUnsafe access f) (scene.registerUnsafe f) s
      unrelated := by
  refine isolated .report (bind le_rfl (forName f.declaringClass) fun t class_ _ k is => ?_)
  subst is
  refine bind k (call_demand
    (scene.catalogue.respond_getDeclaredField f.declaringClass f.fieldName))
    fun u handle _ k' is => ?_
  subst is
  exact (call_record rfl).last (k.trans k')

theorem addProxy (registry : Value) (d : ProxyDefinition) :
    Follows scene s (scene.setting.addProxy registry d) (scene.addProxy d) s unrelated := by
  have loaded : Follows scene s
      (d.interfaces.mapM fun name => scene.setting.callStatic Platform.forName [.str name])
      (d.interfaces.forM scene.find) s fun _ xs _ => xs = d.interfaces.map .classRef :=
    mapM _ _ fun name _ => forName name
  refine bind le_rfl loaded fun t xs _ k is => ?_
  subst is
  refine silent (b := ()) k (newArray _) fun u interfaces k' held => ?_
  have response := scene.catalogue.respond_addProxyClass _ held registry
  exact (call_record response).last (k.trans k')

theorem addProxies (definitions : List ProxyDefinition) :
    Follows scene s (scene.setting.addProxies definitions) (scene.addProxies definitions) s
      unrelated := by
  apply category
  refine bind le_rfl (singleton dynamicProxyRegistryType) fun t registry _ k _ => ?_
  exact (forM definitions fun d _ u _ => addProxy registry d).last k

theorem requestCipher (transformation : String) :
    Follows scene s (scene.setting.requestCipher transformation)
      (scene.requestCipher transformation) s unrelated := by
  have response := scene.catalogue.respond_cipherGetInstance s transformation
  exact isolated .drop (callStatic _ (call_noted response)).forget

end Follows

namespace Walk.Tells

variable (scene : Scene)

theorem registerUnsafe (f : UnsafeAccessedField) : (scene.registerUnsafe f).Tells
    (.sure ((scene.unsafeScript f).isolated .report)) :=
  isolated .report (gate (find scene _) (gate_step (demand _ _) (note _)))

theorem addProxy (d : ProxyDefinition) : (scene.addProxy d).Tells [scene.proxyStep d] := by
  have found := forM_demand (find scene) d.interfaces
  unfold Scene.addProxy Scene.proxyStep
  cases unknown : d.interfaces.find? (!scene.catalogue.knows ·) with
  | some name =>
    rw [unknown] at found
    exact bind_stop found _
  | none =>
    rw [unknown] at found
    exact bind found (note _)

theorem addProxies (definitions : List ProxyDefinition) :
    (scene.addProxies definitions).Tells (scene.proxyScript definitions) := by
  unfold Scene.addProxies Scene.proxyScript
  cases definitions.isEmpty
  · exact singleton scene (by decide) (forM_step (addProxy scene) definitions)
  · exact done

theorem requestCipher (transformation : String) : (scene.requestCipher transformation).Tells
    (if scene.catalogue.ciphers.contains transformation then
      [.ok (.cipherRequested transformation)] else []) :=
  dropped (bind (call _ _) (gate_step (demand _ _) (note _)))

end Walk.Tells
end Registrar
