import Registrar.Proofs.Parts.Common
import Registrar.Synthesis.EntryPoint

/-! Resources: those that are declared by their paths, the patterns that keep others or leave them out,
and bundles. -/
namespace Registrar

open Platform

variable {σ : Type}

/-! ### In direct style -/

namespace Setting

open Registrar.Action

variable (e : Setting σ)

def registerResource (path : String) : Action σ Unit :=
  discard (e.callStatic registerResources [.str path])

def addResourcePatterns (patterns : List ResourcePatterns) : Action σ Unit :=
  unless patterns.isEmpty do
    e.isolated .report do
      let registry ← e.singleton resourcesRegistryType
      (patterns.flatMap (·.excludes)).forM fun pattern =>
        discard (e.callInterface ignoreResources registry [.str pattern])
      (patterns.flatMap (·.includes)).forM fun pattern =>
        discard (e.callInterface addResources registry [.str pattern])

def addBundle (addBundle support : Value) (b : ResourceBundle) : Action σ Unit :=
  e.isolated .drop do
    let args ← newArray [.str b.bundleName]
    discard (e.callVirtual methodInvoke addBundle [support, args])

def addResourceBundles (bundles : List ResourceBundle) : Action σ Unit :=
  unless bundles.isEmpty do
    e.isolated .report do
      let localization ← e.loadClass localizationFeatureType
      let stringClass ← e.loadClass stringType
      let params ← newArray [stringClass]
      let found ← e.callVirtual getDeclaredMethod localization [.str addBundleToCache, params]
      discard (e.callVirtual setAccessible found [.bool true])
      let support ← e.callStatic imageSingletonsLookup [localization]
      bundles.forM (e.addBundle found support)

namespace Composes

variable {e}

theorem registerResource (path : String) : e.Composes (e.registerResource path) :=
  forget (callStatic (by simp [methods]) _)

theorem addResourcePatterns (patterns : List ResourcePatterns) :
    e.Composes (e.addResourcePatterns patterns) :=
  category <| isolated .report <| bind (singleton _) fun _ =>
    bind (forM _ fun _ => forget (callInterface ..)) fun _ =>
    forM _ fun _ => forget (callInterface ..)

theorem addBundle (addBundle support : Value) (b : ResourceBundle) :
    e.Composes (e.addBundle addBundle support b) :=
  isolated .drop (bind (newArray _) fun _ => forget (callVirtual ..))

theorem addResourceBundles (bundles : List ResourceBundle) :
    e.Composes (e.addResourceBundles bundles) := by
  refine category (isolated .report ?_)
  refine bind (loadClass _) fun localization => bind (loadClass _) fun stringClass => ?_
  refine bind (newArray _) fun params => bind (callVirtual ..) fun found => ?_
  refine bind (forget (callVirtual ..)) fun _ => ?_
  refine bind (callStatic (by simp [methods]) _) fun support => ?_
  exact forM _ fun b => addBundle found support b

end Composes
end Setting

/-! ### What the code consists of -/

namespace Emission.Consists

variable {named : String → Prop}

theorem registerResources (p : Plan) : Consists (Operation.Usual named)
    (2 * (p.resources.length + p.serviceDescriptors.length)) p.registerResources := by
  rw [← List.length_append]
  exact loop (p.resources ++ p.serviceDescriptors) fun path _ =>
    bind (str _) fun _ => forget (pass (by simp [methods]))

variable (types : ∀ t ∈ namedTypes, named t) (p : Plan)

include types

theorem addResourcePatterns : Consists (Operation.Usual named)
    (2 * (p.resourcePatterns.flatMap (·.excludes)).length +
      2 * (p.resourcePatterns.flatMap (·.includes)).length + 4) p.addResourcePatterns := by
  have each {m : MethodRef} (platform : m ∈ methods) (registry : ValueId) (pattern : String) :
      Consists (Operation.Usual named) 2 (do
        let pattern ← Emit.str pattern
        discard (Emit.invokeInterface m registry [pattern])) :=
    bind (str _) fun _ => forget (callInterface platform)
  refine (category <| isolated .report <|
    bind (singleton (types _ (by simp [namedTypes]))) fun registry =>
    bind (loop _ fun pattern _ => each (by simp [methods]) registry pattern) fun _ =>
    loop _ fun pattern _ => each (by simp [methods]) registry pattern).atMost ?_
  omega

theorem addResourceBundles : Consists (Operation.Usual named)
    (5 * p.resourceBundles.length + 10) p.addResourceBundles := by
  have add (addBundle support : ValueId) (b : ResourceBundle) :
      Consists (Operation.Usual named) 5 (Emission.isolated .drop do
        let name ← Emit.str b.bundleName
        let args ← Emit.arrayOf objectType [name]
        discard (Emit.invokeVirtual methodInvoke addBundle [support, args])) :=
    isolated .drop (bind (str _) fun name =>
      bind (arrayOf (types _ (by simp [namedTypes])) [name]) fun args =>
      forget (callVirtual (by simp [methods])))
  refine (category <| isolated .report <|
    bind (loadClass (types _ (by simp [namedTypes]))) fun localization =>
    bind (loadClass (types _ (by simp [namedTypes]))) fun stringClass =>
    bind (arrayOf (types _ (by simp [namedTypes])) [stringClass]) fun params =>
    bind (str _) fun name => bind (callVirtual (by simp [methods])) fun addBundle =>
    bind (bool _) fun accessible => bind (forget (callVirtual (by simp [methods]))) fun _ =>
    bind (pass (by simp [methods])) fun support =>
    loop _ fun b _ => add addBundle support b).atMost ?_
  omega

end Emission.Consists

/-! ### What the code does -/

namespace Emission.Performs

variable {env : Context σ} {s : Site} (hidden : env.Hides)

include hidden in
theorem registerResource (path : String) :
    Performs env s (do
      let path ← Emit.str path
      discard (Emit.invokeStatic registerResources [path]))
      (env.setting.registerResource path) s unrelated := by
  refine silent le_rfl (str path) fun t _ keep held => ?_
  exact ((callStatic hidden (by simp [methods]) (.cons held .nil)).last keep).forget

include hidden in
theorem addResourcePatterns (p : Plan) :
    Performs env s p.addResourcePatterns (env.setting.addResourcePatterns p.resourcePatterns) s
      unrelated := by
  apply category
  apply isolated
  refine bind le_rfl (singleton hidden _) fun t registry a k held => ?_
  have passed : ∀ (m : MethodRef) (pattern : String) (u : Site), t ≤ u → Performs env u (do
      let pattern ← Emit.str pattern
      discard (Emit.invokeInterface m registry [pattern]))
      (discard (env.setting.callInterface m a [.str pattern])) u unrelated := by
    intro m pattern u le
    refine silent le_rfl (str pattern) fun v _ keep pattern_held => ?_
    exact ((callInterface (held.mono (le.trans keep)) (.cons pattern_held .nil)).last keep).forget
  refine bind k (forM _ fun pattern _ u le => passed ignoreResources pattern u le)
    fun u _ _ k' _ => ?_
  exact (forM _ fun pattern _ v le => passed addResources pattern v (k'.trans le)).last (k.trans k')

include hidden in
theorem addResourceBundles (p : Plan) :
    Performs env s p.addResourceBundles (env.setting.addResourceBundles p.resourceBundles) s
      unrelated := by
  apply category
  apply isolated
  refine bind le_rfl (loadClass _) fun s₁ _ _ k₁ localization => ?_
  refine bind k₁ (loadClass _) fun s₂ _ _ k₂ stringClass => ?_
  have l₂ := k₁.trans k₂
  refine bind l₂ (arrayOf classType (.cons stringClass .nil) stringClass.pos)
    fun s₃ _ _ k₃ params => ?_
  have l₃ := l₂.trans k₃
  refine silent l₃ (str _) fun s₄ _ k₄ name => ?_
  have l₄ := l₃.trans k₄
  refine bind l₄ (callVirtual (localization.mono (k₂.trans (k₃.trans k₄)))
    (.cons name (.cons (params.mono k₄) .nil))) fun s₅ addBundle _ k₅ found => ?_
  have l₅ := l₄.trans k₅
  refine silent l₅ (bool true) fun s₆ _ k₆ accessible => ?_
  have l₆ := l₅.trans k₆
  refine bind l₆ (callVirtual (found.mono k₆) (.cons accessible .nil)).forget
    fun s₇ _ _ k₇ _ => ?_
  have l₇ := l₆.trans k₇
  have localization' := localization.mono (k₂.trans (k₃.trans (k₄.trans (k₅.trans
    (k₆.trans k₇)))))
  refine bind l₇ (callStatic hidden (by simp [methods]) (.cons localization' .nil))
    fun s₈ support _ k₈ support_held => ?_
  refine (forM p.resourceBundles fun b _ t le => ?_).last (l₇.trans k₈)
  apply isolated
  refine silent le_rfl (str _) fun u _ k name => ?_
  refine bind k (arrayOf objectType (.cons name .nil) name.pos) fun v _ _ k' args => ?_
  have since := le.trans (k.trans k')
  exact ((callVirtual (found.mono (k₆.trans (k₇.trans (k₈.trans since))))
    (.cons (support_held.mono since) (.cons args .nil))).last (k.trans k')).forget

end Emission.Performs

/-! ### What the recording host notes -/

namespace Scene

open Walk

variable (s : Scene)

def registerResource (path : String) : Walk Unit :=
  register registerResources (.resource path)

def addResourcePatterns (patterns : List ResourcePatterns) : Walk Unit :=
  unless patterns.isEmpty do
    isolated .report do
      s.singleton resourcesRegistryType
      (patterns.flatMap (·.excludes)).forM fun p => note (.resourcePatternExcluded p)
      (patterns.flatMap (·.includes)).forM fun p => note (.resourcePatternIncluded p)

def addBundle (b : ResourceBundle) : Walk Unit := isolated .drop do
  demand (s.catalogue.bundles.contains b.bundleName)
    ⟨"java.util.MissingResourceException", "Can't find bundle for base name " ++ b.bundleName⟩
  note (.resourceBundle b.bundleName)

def addResourceBundles (bundles : List ResourceBundle) : Walk Unit :=
  unless bundles.isEmpty do
    isolated .report do
      demand (s.catalogue.hasMethod localizationFeatureType addBundleToCache [stringType])
        (.noSuchMethod localizationFeatureType
          (Catalogue.signatureText addBundleToCache [stringType]))
      s.lookup localizationFeatureType
      bundles.forM s.addBundle

end Scene

namespace Follows

variable {scene : Scene} {s : Store}

theorem registerResource (path : String) :
    Follows scene s (scene.setting.registerResource path) (Scene.registerResource path) s
      unrelated := static_record _ rfl

theorem addResourcePatterns (patterns : List ResourcePatterns) :
    Follows scene s (scene.setting.addResourcePatterns patterns)
      (scene.addResourcePatterns patterns) s unrelated := by
  apply category
  apply isolated
  refine bind le_rfl (singleton resourcesRegistryType) fun t registry _ k _ => ?_
  refine bind k (forM _ fun pattern _ u _ => call_record rfl) fun u _ _ k' _ => ?_
  exact (forM _ fun pattern _ v _ => call_record rfl).last (k.trans k')

theorem addBundle (support : Value) (b : ResourceBundle) :
    Follows scene s (scene.setting.addBundle
      (.member (.method localizationFeatureType addBundleToCache [stringType])) support b)
      (scene.addBundle b) s unrelated := by
  refine isolated .drop (silent (b := ()) le_rfl (newArray _) fun t args k held => ?_)
  have response := scene.catalogue.respond_addBundle held support
  exact (call_noted response).forget.last k

theorem addResourceBundles (bundles : List ResourceBundle) :
    Follows scene s (scene.setting.addResourceBundles bundles) (scene.addResourceBundles bundles) s
      unrelated := by
  apply category
  apply isolated
  refine silent le_rfl (loadPlatform (by decide)) fun t _ k is => ?_
  subst is
  refine silent k (loadPlatform (by decide)) fun u _ k' is => ?_
  subst is
  have l := k.trans k'
  refine silent (b := ()) l (newArray _) fun v params k'' held => ?_
  have l' := l.trans k''
  refine bind l' (call_demand
    (scene.catalogue.respond_getDeclaredMethod [_] held _ _)) fun w found _ k₃ is => ?_
  subst is
  have l₃ := l'.trans k₃
  refine silent (b := ()) l₃ (call_answer (v := .null) rfl).forget fun q _ k₄ _ => ?_
  have l₄ := l₃.trans k₄
  refine bind l₄ (lookup localizationFeatureType) fun q' support _ k₅ _ => ?_
  exact (forM bundles fun b _ r _ => addBundle support b).last (l₄.trans k₅)

end Follows

namespace Walk.Tells

variable (scene : Scene)

theorem registerResources (paths : List String) :
    (paths.forM Scene.registerResource).Tells (.sure (paths.map .resource)) := by
  rw [Script.sure, List.map_map]
  exact forM_step (fun _ => register _ _ _) paths

theorem addResourcePatterns (patterns : List ResourcePatterns) :
    (scene.addResourcePatterns patterns).Tells (.sure (scene.patternEvents patterns)) := by
  refine category (isolated .report (singleton scene (by decide) ?_))
  rw [Script.sure, List.map_append, List.map_map, List.map_map]
  exact bind (forM_step (fun _ => note _) _) (forM_step (fun _ => note _) _)

theorem addBundle (b : ResourceBundle) : (scene.addBundle b).Tells
    (if scene.catalogue.bundles.contains b.bundleName then [.ok (.resourceBundle b.bundleName)]
      else []) :=
  dropped (gate_step (demand _ _) (note _))

theorem addResourceBundles (bundles : List ResourceBundle) :
    (scene.addResourceBundles bundles).Tells (.sure (scene.bundleEvents bundles)) :=
  category (isolated .report (gate (demand _ _)
    (lookup scene _ (forM_filter (addBundle scene) bundles))))

end Walk.Tells
end Registrar
