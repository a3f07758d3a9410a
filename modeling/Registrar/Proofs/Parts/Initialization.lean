import Registrar.Proofs.Parts.Common
import Registrar.Synthesis.EntryPoint

/-! Classes and packages that are initialized when the image runs, and classes that are initialized
once more. -/
namespace Registrar

open Platform

variable {σ : Type}

/-! ### In direct style -/

namespace Setting

open Registrar.Action

variable (e : Setting σ)

/-- Finds a class and adds it to a list. -/
def collectClass (loader list : Value) (c : RuntimeInitializedClass) : Action σ Unit :=
  e.isolated .report do
    let class_ ← e.findClass c.className loader
    discard (e.callInterface listAdd list [class_])

def initializeClasses (classes : List RuntimeInitializedClass) : Action σ Unit :=
  unless classes.isEmpty do
    let loader ← e.unitLoader
    let resolved ← e.newInstance arrayListType
    classes.forM (e.collectClass loader resolved)
    let template ← newArray []
    let found ← e.callInterface listToArray resolved [template]
    discard (e.callStatic initializeClassesAtRunTime [found])

def initializePackages (packages : List RuntimeInitializedPackage) : Action σ Unit :=
  unless packages.isEmpty do
    let names ← newArray (packages.map (.str ·.packageName))
    discard (e.callStatic initializePackagesAtRunTime [names])

def reinitializeClass (originator : String) (loader support : Value)
    (c : RuntimeReinitializedClass) : Action σ Unit :=
  e.isolated .report do
    let class_ ← e.findClass c.className loader
    discard (e.callInterface rerunInitialization support [class_, .str originator])

def reinitializeClasses (classes : List RuntimeReinitializedClass) (originator : String) :
    Action σ Unit :=
  unless classes.isEmpty do
    e.isolated .report do
      let loader ← e.unitLoader
      let support ← e.singleton runtimeClassInitializationSupportType
      classes.forM (e.reinitializeClass originator loader support)

namespace Composes

variable {e}

theorem initializeClasses (classes : List RuntimeInitializedClass) :
    e.Composes (e.initializeClasses classes) := by
  refine category <| bind unitLoader fun _ => bind (newInstance _) fun _ =>
    bind (forM _ fun _ => ?_) fun _ => bind (newArray _) fun _ => bind (callInterface ..) fun _ => ?_
  · exact isolated .report <| bind (findClass _ _) fun _ => forget (callInterface ..)
  · exact forget (callStatic (by simp [methods]) _)

theorem initializePackages (packages : List RuntimeInitializedPackage) :
    e.Composes (e.initializePackages packages) :=
  category <| bind (newArray _) fun _ => forget (callStatic (by simp [methods]) _)

theorem reinitializeClasses (classes : List RuntimeReinitializedClass) (originator : String) :
    e.Composes (e.reinitializeClasses classes originator) :=
  category <| isolated .report <| bind unitLoader fun _ => bind (singleton _) fun _ =>
    forM _ fun _ => isolated .report <| bind (findClass _ _) fun _ => forget (callInterface ..)

end Composes
end Setting

/-! ### What the code consists of -/

namespace Emission.Consists

variable {named : String → Prop}

/-- Finds a class and hands it to something. -/
theorem passClass {m : MethodRef} (platform : m ∈ methods) (name : String)
    (loader receiver : ValueId) (args : ValueId → List ValueId) :
    Consists (Operation.Usual named) 6 (Emission.isolated .report do
      let class_ ← Emission.findClass name loader
      discard (Emit.invokeInterface m receiver (args class_))) :=
  isolated .report (bind (findClass _ _) fun _ => forget (callInterface platform))

variable (types : ∀ t ∈ namedTypes, named t) (p : Plan) {o : Options}

include types

theorem initializePackages : Consists (Operation.Usual named)
    (3 * p.runtimeInitializedPackages.length + 2) p.initializePackages := by
  have store (packages : ValueId) (item : RuntimeInitializedPackage × Nat) :
      Consists (Operation.Usual named) 3 (Emission.isolated .report do
        let name ← Emit.str item.1.packageName
        Emit.store packages item.2 name) :=
    isolated .report (bind (str _) fun name => statement (.store packages item.2 name))
  refine (category <| bind (newArray (types _ (by simp [namedTypes])) _) fun packages =>
    bind (loop _ fun item _ => store packages item) fun _ =>
    forget (pass (by simp [methods]))).atMost ?_
  rw [List.length_zipIdx]
  omega

variable (own : named (dotted o.unitName))

include own

theorem initializeClasses : Consists (Operation.Usual named)
    (6 * p.runtimeInitializedClasses.length + 6) (p.initializeClasses o) := by
  refine (category <| bind (unitLoader own) fun loader =>
    bind (operation (Operation.Usual.newInstance (types _ (by simp [namedTypes])))) fun resolved =>
    bind (loop _ fun c _ => passClass (by simp [methods]) c.className loader resolved fun class_ =>
      [class_]) fun _ =>
    bind (newArray (types _ (by simp [namedTypes])) _) fun _ =>
    bind (callInterface (by simp [methods])) fun _ =>
    forget (pass (by simp [methods]))).atMost ?_
  omega

theorem reinitializeClasses : Consists (Operation.Usual named)
    (6 * p.runtimeReinitializedClasses.length + 7) (p.reinitializeClasses o) := by
  refine (category <| isolated .report <| bind (unitLoader own) fun loader =>
    bind (singleton (types _ (by simp [namedTypes]))) fun support =>
    bind (str _) fun originator => loop _ fun c _ =>
      passClass (by simp [methods]) c.className loader support fun class_ =>
        [class_, originator]).atMost ?_
  omega

end Emission.Consists

/-! ### What the code does -/

namespace Emission.Performs

variable {env : Context σ} {s : Site} (hidden : env.Hides)

include hidden in
theorem initializeClasses (p : Plan) (o : Options) (own : dotted o.unitName = env.self) :
    Performs env s (p.initializeClasses o)
      (env.setting.initializeClasses p.runtimeInitializedClasses) s unrelated := by
  apply category
  refine bind le_rfl (unitLoader own) fun t _ _ k loader => ?_
  refine bind k (newInstance _) fun u list _ k' list_held => ?_
  have l := k.trans k'
  refine bind l (forM p.runtimeInitializedClasses fun c _ v le => ?_) fun v _ _ k'' _ => ?_
  · refine isolated .report (bind le_rfl (findClass hidden c.className (loader.mono (k'.trans le)))
      fun r _ _ keep class_ => ?_)
    exact ((callInterface (list_held.mono (le.trans keep)) (.cons class_ .nil)).last keep).forget
  have l' := l.trans k''
  refine bind l' (newArray _ _) fun r _ _ k₃ template => ?_
  have l₃ := l'.trans k₃
  refine bind l₃ (callInterface (list_held.mono (k''.trans k₃)) (.cons template .nil))
    fun q _ _ k₄ classes => ?_
  exact ((callStatic hidden (by simp [methods]) (.cons classes .nil)).last (l₃.trans k₄)).forget

/-- A region numbers the fault that it catches. -/
theorem lt_next_isolated (onFault : OnFault) (body : Emission Unit) (n : Nat) :
    n < (Emission.isolated onFault body n).next := by
  have inner := body.le_next n
  have outer := (handler onFault ⟨(body n).next.toUInt32⟩).le_next ((body n).next + 1)
  rw [Emission.isolated, Emit.next_isolate]
  omega

include hidden in
theorem initializePackages (p : Plan) :
    Performs env s p.initializePackages
      (env.setting.initializePackages p.runtimeInitializedPackages) s unrelated := by
  apply category
  let items := p.runtimeInitializedPackages
  let round (array : ValueId) (item : RuntimeInitializedPackage × Nat) : Emission Unit :=
    Emission.isolated .report do
      let name ← Emit.str item.1.packageName
      Emit.store array item.2 name
  intro fits
  have counted : items.length < UInt32.size := by
    have looped := Emit.length_le_next_forM
      (f := round ⟨s.next.toUInt32⟩) (fun _ n => lt_next_isolated _ _ n) items.zipIdx (s.next + 1)
    have rest : (items.zipIdx.forM (round ⟨s.next.toUInt32⟩) (s.next + 1)).next ≤ UInt32.size := by
      rw [Emit.next_bind] at fits
      exact (Emit.next_le_bind _ _ _).trans fits
    rw [List.length_zipIdx] at looped
    omega
  have filled : Performs env s (do
      let array ← Emit.newArray stringType items.length
      items.zipIdx.forM (round array)
      return array) (Action.newArray (items.map (.str ·.packageName))) s holding := by
    refine filledArray (P := fun item x => x = .str item.packageName)
      (fun a p => env.setting.isolated .report (Action.storeAt a p.2.toUInt32 p.1)) ?_
      (fun _ _ _ _ stored => Setting.isolated_of_ok stored) ?_ fun _ => counted
    · rw [List.forall₂_map_right_iff]
      exact List.forall₂_same.2 fun _ _ => rfl
    · rintro t array a item _ i _ held rfl
      apply isolated
      refine silent le_rfl (str _) fun u _ keep name => ?_
      exact (store i (held.mono keep) name).last keep
  have performed := bind (f := fun array => discard (Emit.invokeStatic
      initializePackagesAtRunTime [array])) le_rfl filled fun t _ _ keep held =>
    ((callStatic hidden (by simp [methods]) (.cons held .nil)).last keep).forget
  simp only [bind_assoc, pure_bind] at performed
  exact performed fits

include hidden in
theorem reinitializeClasses (p : Plan) (o : Options) (own : dotted o.unitName = env.self) :
    Performs env s (p.reinitializeClasses o)
      (env.setting.reinitializeClasses p.runtimeReinitializedClasses o.originator) s
      unrelated := by
  apply category
  apply isolated
  refine bind le_rfl (unitLoader own) fun t _ _ k loader => ?_
  refine bind k (singleton hidden _) fun u _ _ k' support => ?_
  have l := k.trans k'
  refine silent l (str _) fun v _ k'' originator => ?_
  have l' := l.trans k''
  refine (forM p.runtimeReinitializedClasses fun c _ r le => ?_).last l'
  apply isolated
  refine bind le_rfl (findClass hidden c.className (loader.mono (k'.trans (k''.trans le))))
    fun q _ _ keep class_ => ?_
  have l'' := le.trans keep
  exact ((callInterface (support.mono (k''.trans l''))
    (.cons class_ (.cons (originator.mono l'') .nil))).last keep).forget

end Emission.Performs

/-! ### What the recording host notes -/

namespace Scene

open Walk

variable (s : Scene)

def initializeClasses (classes : List RuntimeInitializedClass) : Walk Unit :=
  unless classes.isEmpty do
    classes.forM fun c => isolated .report (s.findClass c.className)
    register initializeClassesAtRunTime
      (.initializeAtRunTime ((classes.map (·.className)).filter s.catalogue.knows))

def initializePackages (packages : List RuntimeInitializedPackage) : Walk Unit :=
  unless packages.isEmpty do
    register initializePackagesAtRunTime
      (.initializePackagesAtRunTime (packages.map (·.packageName)))

def reinitializeClasses (classes : List RuntimeReinitializedClass) (originator : String) :
    Walk Unit :=
  unless classes.isEmpty do
    isolated .report do
      s.singleton runtimeClassInitializationSupportType
      classes.forM fun c => isolated .report do
        s.findClass c.className
        note (.rerunInitialization c.className originator)

end Scene

namespace Follows

variable {scene : Scene} {base s : Store}

theorem listAdd {l : Value} {xs : List Value} (x : Value) (le : base ≤ s)
    (held : base.Collects s l xs) :
    Follows scene base (discard (scene.setting.callInterface listAdd l [x])) (pure ()) s
      fun t _ _ => base.Collects t l (xs ++ [x]) := by
  obtain ⟨cell, made, behind, rfl, rfl⟩ := held
  intro es
  refine .inr ⟨Walk.not_meets_pure, s.append cell x, Store.le_write le behind _, (), ?_,
    cell, ?_, behind, rfl, ?_⟩
  · rw [Walk.events_pure, List.append_nil]
    rfl
  · rw [Store.append, Store.size_write]
    exact made
  · rw [Store.append, Store.elements_write_self _ _ made]

theorem listToArray {l template : Value} {xs : List Value} (held : base.Collects s l xs) :
    Follows scene s (scene.setting.callInterface listToArray l [template]) (pure ()) s
      fun t a _ => t.Holds a xs := by
  obtain ⟨cell, -, -, rfl, rfl⟩ := held
  exact call_array rfl

/-- The list grows by the class if the host knows it, and stays as it is otherwise. -/
theorem collectClass {l : Value} {xs : List Value} (loader : Value) (c : RuntimeInitializedClass)
    (le : base ≤ s) (held : base.Collects s l xs) :
    Follows scene base (scene.setting.collectClass loader l c)
      (Walk.isolated .report (scene.findClass c.className)) s fun t _ _ =>
        base.Collects t l (xs ++ if scene.catalogue.knows c.className
          then [.classRef c.className] else []) := by
  have ends := scene.result_findClass c.className
  have found : Follows scene s (scene.setting.findClass c.className loader)
      (scene.findClass c.className) s fun _ a _ => a = .classRef c.className :=
    findClass c.className loader
  by_cases known : scene.catalogue.knows c.className
  · rw [if_pos known] at ends ⊢
    refine isolated_of_ok .report ends ((found.within le).then_silent fun t class_ _ k is => ?_)
    obtain ⟨keep, rfl⟩ := is
    exact listAdd _ k (held.mono keep)
  · rw [if_neg known] at ends ⊢
    have body : Follows scene s (do
        let class_ ← scene.setting.findClass c.className loader
        discard (scene.setting.callInterface Platform.listAdd l [class_]))
        (scene.findClass c.className) s unrelated := by
      refine found.known.then_silent fun t class_ _ _ is => ?_
      rw [ends] at is
      cases is.1
    rw [List.append_nil]
    exact ((isolated .report body).within le).mono fun t _ _ is => held.mono is.1

/-- The induction is on the classes that are still to come. -/
theorem collectClasses {l : Value} (found : List String) (loader : Value)
    (classes : List RuntimeInitializedClass) (le : base ≤ s)
    (held : base.Collects s l (found.map .classRef)) :
    Follows scene base (classes.forM (scene.setting.collectClass loader l))
      (classes.forM fun c => Walk.isolated .report (scene.findClass c.className)) s fun t _ _ =>
        base.Collects t l ((found ++
          (classes.map (·.className)).filter scene.catalogue.knows).map .classRef) := by
  induction classes generalizing s found with
  | nil => exact done le (by simpa using held)
  | cons c classes ih =>
    refine bind_within (collectClass loader c le held) fun t _ _ k grown => ?_
    have next : base.Collects t l
        ((found ++ [c.className].filter scene.catalogue.knows).map .classRef) := by
      cases known : scene.catalogue.knows c.className <;> simpa [known] using grown
    refine (ih _ k next).mono fun u _ _ all => ?_
    cases known : scene.catalogue.knows c.className <;> simpa [known] using all

theorem initializeClasses (classes : List RuntimeInitializedClass) :
    Follows scene s (scene.setting.initializeClasses classes) (scene.initializeClasses classes) s
      unrelated := by
  apply category
  refine silent le_rfl unitLoader fun t loader k _ => ?_
  have made : Follows scene t (scene.setting.newInstance arrayListType) (pure ()) t
      fun u l _ => t.Collects u l [] := ask_list fun _ => rfl
  refine (silent le_rfl made fun u l k' empty => ?_).last k
  refine bind_within (collectClasses [] loader classes k' empty) fun v _ _ k'' all => ?_
  refine silent (b := ()) k'' (newArray []) fun w template k₃ _ => ?_
  refine silent (k''.trans k₃) (listToArray (all.mono k₃)) fun q found k₄ held => ?_
  exact (static_record _ (scene.catalogue.respond_initializeClasses _ held)).last
    (k''.trans (k₃.trans k₄))

theorem initializePackages (packages : List RuntimeInitializedPackage) :
    Follows scene s (scene.setting.initializePackages packages) (Scene.initializePackages packages)
      s unrelated := by
  apply category
  refine silent (b := ()) le_rfl (newArray _) fun t names k held => ?_
  refine (static_record _ ?_).last k
  have texts := scene.catalogue.respond_initializePackages (packages.map (·.packageName))
    (s := t) (a := names)
  rw [List.map_map] at texts
  exact texts held

theorem reinitializeClass (originator : String) (loader support : Value)
    (c : RuntimeReinitializedClass) :
    Follows scene s (scene.setting.reinitializeClass originator loader support c)
      (Walk.isolated .report do
        scene.findClass c.className
        Walk.note (.rerunInitialization c.className originator)) s unrelated := by
  refine isolated .report (bind le_rfl (findClass c.className loader) fun t class_ _ k is => ?_)
  subst is
  exact (call_record rfl).last k

theorem reinitializeClasses (classes : List RuntimeReinitializedClass) (originator : String) :
    Follows scene s (scene.setting.reinitializeClasses classes originator)
      (scene.reinitializeClasses classes originator) s unrelated := by
  apply category
  apply isolated
  refine silent le_rfl unitLoader fun t loader k _ => ?_
  refine bind k (singleton runtimeClassInitializationSupportType) fun u support _ k' _ => ?_
  exact (forM classes fun c _ v _ => reinitializeClass originator loader support c).last
    (k.trans k')

end Follows

namespace Walk.Tells

variable (scene : Scene)

/-- One report for each class that is not found. -/
theorem findClasses (classes : List RuntimeInitializedClass) :
    (classes.forM fun c => Walk.isolated .report (scene.findClass c.className)).Tells
      (.sure (((classes.map (·.className)).filter (!scene.catalogue.knows ·)).map
        (.failureReported <| .classNotFound ·))) := by
  rw [List.filter_map, List.map_map]
  refine forM_filter (fun c => ?_) classes
  have found := isolated .report (findClass scene c.className)
  simp only [Function.comp]
  cases known : scene.catalogue.knows c.className <;> rw [known] at found <;> exact found

theorem initializeClasses (classes : List RuntimeInitializedClass) :
    (scene.initializeClasses classes).Tells (.sure (scene.runtimeClassEvents classes)) := by
  refine category ?_
  have both := bind (findClasses scene classes) (register initializeClassesAtRunTime
    (.initializeAtRunTime ((classes.map (·.className)).filter scene.catalogue.knows))
    (by simp [methods]))
  rw [Script.sure, List.map_append]
  exact both

theorem initializePackages (packages : List RuntimeInitializedPackage) :
    (Scene.initializePackages packages).Tells (.sure (Scene.runtimePackageEvents packages)) :=
  category (register _ _ _)

theorem reinitializeClasses (classes : List RuntimeReinitializedClass) (originator : String) :
    (scene.reinitializeClasses classes originator).Tells
      (.sure (scene.reinitializedEvents classes originator)) := by
  refine category (isolated .report (singleton scene (by decide) ?_))
  rw [Script.sure, List.map_map]
  refine forM_step (fun c => ?_) classes
  exact reported (gate_step (findClass scene c.className) (note _))

end Walk.Tells
end Registrar
