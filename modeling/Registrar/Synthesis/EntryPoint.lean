import Registrar.Plan.Basic
import Registrar.Synthesis.JniWorker

/-! The entry point of a unit. It makes the general registrations category by category, calls every
worker, and loads the application class at the end. All but the last is in one region that
reports faults, so that none leaves the unit. -/
namespace Registrar

open Platform Emission

def entryPointHead : RoutineHead :=
  { name := "beforeAnalysis", params := [beforeAnalysisAccessType] }

/-- A field that cannot be found is reported and left out. -/
def UnsafeAccessedField.register (f : UnsafeAccessedField) (access : ValueId) : Emission Unit :=
  isolated .report do
    let className ← Emit.str f.declaringClass
    let class_ ← Emit.invokeStatic forName [className]
    let fieldName ← Emit.str f.fieldName
    let handle ← Emit.invokeVirtual getDeclaredField class_ [fieldName]
    discard (Emit.invokeInterface registerAsUnsafeAccessed access [handle])

namespace Plan

/-- The classes that are found are collected in a list first, so that the one call for all of them
gets no others. -/
def initializeClasses (p : Plan) (o : Options) : Emission Unit :=
  unless p.runtimeInitializedClasses.isEmpty do
    let loader ← unitLoader o.unitName
    let resolved ← Emit.newInstance arrayListType
    p.runtimeInitializedClasses.forM fun c => isolated .report do
      let class_ ← findClass c.className loader
      discard (Emit.invokeInterface listAdd resolved [class_])
    let template ← Emit.newArray classType 0
    let classes ← Emit.invokeInterface listToArray resolved [template]
    discard (Emit.invokeStatic initializeClassesAtRunTime [classes])

def initializePackages (p : Plan) : Emission Unit :=
  unless p.runtimeInitializedPackages.isEmpty do
    let packages ← Emit.newArray stringType p.runtimeInitializedPackages.length
    p.runtimeInitializedPackages.zipIdx.forM fun (item, index) => isolated .report do
      let name ← Emit.str item.packageName
      Emit.store packages index name
    discard (Emit.invokeStatic initializePackagesAtRunTime [packages])

/-- Without the singleton that takes them, all classes of this category are left out. -/
def reinitializeClasses (p : Plan) (o : Options) : Emission Unit :=
  unless p.runtimeReinitializedClasses.isEmpty do
    isolated .report do
      let loader ← unitLoader o.unitName
      let support ← singleton runtimeClassInitializationSupportType
      let originator ← Emit.str o.originator
      p.runtimeReinitializedClasses.forM fun c => isolated .report do
        let class_ ← findClass c.className loader
        discard (Emit.invokeInterface rerunInitialization support [class_, originator])

/-- A broken definition ends everything that the outer region holds. -/
def addProxies (p : Plan) : Emission Unit :=
  unless p.proxyDefinitions.isEmpty do
    let registry ← singleton dynamicProxyRegistryType
    p.proxyDefinitions.forM fun definition => do
      let interfaces ← definition.interfaces.mapM fun name => do
        let name ← Emit.str name
        Emit.invokeStatic forName [name]
      let interfaces ← Emit.arrayOf classType interfaces
      discard (Emit.invokeInterface addProxyClass registry [interfaces])

/-- Declared resources come before the descriptors of services. -/
def registerResources (p : Plan) : Emission Unit :=
  (p.resources ++ p.serviceDescriptors).forM fun path => do
    let path ← Emit.str path
    discard (Emit.invokeStatic Platform.registerResources [path])

/-- All patterns that leave resources out come before those that keep some. -/
def addResourcePatterns (p : Plan) : Emission Unit :=
  unless p.resourcePatterns.isEmpty do
    isolated .report do
      let registry ← singleton resourcesRegistryType
      (p.resourcePatterns.flatMap (·.excludes)).forM fun pattern => do
        let pattern ← Emit.str pattern
        discard (Emit.invokeInterface ignoreResources registry [pattern])
      (p.resourcePatterns.flatMap (·.includes)).forM fun pattern => do
        let pattern ← Emit.str pattern
        discard (Emit.invokeInterface addResources registry [pattern])

/-- A bundle that is not found is left out without a report. -/
def addResourceBundles (p : Plan) : Emission Unit :=
  unless p.resourceBundles.isEmpty do
    isolated .report do
      let localization ← Emit.loadClass localizationFeatureType
      let stringClass ← Emit.loadClass stringType
      let params ← Emit.arrayOf classType [stringClass]
      let name ← Emit.str addBundleToCache
      let addBundle ← Emit.invokeVirtual getDeclaredMethod localization [name, params]
      let accessible ← Emit.bool true
      discard (Emit.invokeVirtual setAccessible addBundle [accessible])
      let support ← Emit.invokeStatic imageSingletonsLookup [localization]
      p.resourceBundles.forM fun bundle => isolated .drop do
        let name ← Emit.str bundle.bundleName
        let args ← Emit.arrayOf objectType [name]
        discard (Emit.invokeVirtual methodInvoke addBundle [support, args])

def requestCiphers (p : Plan) : Emission Unit :=
  p.cipherTransformations.toList.forM fun transformation => isolated .drop do
    let name ← Emit.str transformation
    discard (Emit.invokeStatic cipherGetInstance [name])

/-- The workers of the unit in the order in which they are called. -/
def workers (p : Plan) (o : Options) : List MethodRef :=
  let owner := dotted o.unitName
  (List.range p.classes.size).map (fun i => (classWorkerHead i).methodRef owner) ++
    (List.range p.jniClasses.length).map fun i => (jniWorkerHead i).methodRef owner

/-- All registrations, the general ones first, and then those of the workers. -/
def registerAll (p : Plan) (o : Options) (access : ValueId) : Emission Unit := do
  p.unsafeAccessedFields.forM fun f => f.register access
  p.initializeClasses o
  p.initializePackages
  p.reinitializeClasses o
  p.addProxies
  p.registerResources
  p.addResourcePatterns
  p.addResourceBundles
  p.requestCiphers
  (p.workers o).forM fun worker => discard (Emit.invokeStatic worker [])

def enter (p : Plan) (o : Options) : Emission Unit := do
  let access ← Emit.param 0
  isolated .report (p.registerAll o access)
  discard (Emit.loadClass o.applicationClass)

/-- The routine that the image builder calls. -/
def entryPoint (p : Plan) (o : Options) : Routine := entryPointHead.routine do
  p.enter o
  Emit.leave none

end Plan
end Registrar
