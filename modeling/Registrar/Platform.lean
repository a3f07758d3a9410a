import Registrar.CodeUnit.Basic

/-! The types and methods of the platform, and of the image builder on it, that generated code
calls. -/
namespace Registrar.Platform

/-! ### Types -/

def booleanType : String := "boolean"
def intType : String := "int"
def objectType : String := "java.lang.Object"
def objectArrayType : String := "java.lang.Object[]"
def stringType : String := "java.lang.String"
def stringArrayType : String := "java.lang.String[]"
def classType : String := "java.lang.Class"
def classArrayType : String := "java.lang.Class[]"
def classLoaderType : String := "java.lang.ClassLoader"
def threadType : String := "java.lang.Thread"
def constructorType : String := "java.lang.reflect.Constructor"
def constructorArrayType : String := "java.lang.reflect.Constructor[]"
def methodType : String := "java.lang.reflect.Method"
def methodArrayType : String := "java.lang.reflect.Method[]"
def fieldType : String := "java.lang.reflect.Field"
def fieldArrayType : String := "java.lang.reflect.Field[]"
def executableArrayType : String := "java.lang.reflect.Executable[]"
def accessibleObjectType : String := "java.lang.reflect.AccessibleObject"
def modifierType : String := "java.lang.reflect.Modifier"
def listType : String := "java.util.List"
def arrayListType : String := "java.util.ArrayList"
def collectionsType : String := "java.util.Collections"
def cipherType : String := "javax.crypto.Cipher"
def featureType : String := "org.graalvm.nativeimage.hosted.Feature"
def beforeAnalysisAccessType : String :=
  "org.graalvm.nativeimage.hosted.Feature$BeforeAnalysisAccess"
def automaticFeatureType : String := "com.oracle.svm.core.annotate.AutomaticFeature"
def imageSingletonsType : String := "org.graalvm.nativeimage.ImageSingletons"
def runtimeClassInitializationType : String :=
  "org.graalvm.nativeimage.hosted.RuntimeClassInitialization"
def runtimeClassInitializationSupportType : String :=
  "org.graalvm.nativeimage.impl.RuntimeClassInitializationSupport"
def runtimeReflectionType : String := "org.graalvm.nativeimage.hosted.RuntimeReflection"
def jniRuntimeAccessType : String := "com.oracle.svm.core.jni.JNIRuntimeAccess"
def dynamicProxyRegistryType : String := "com.oracle.svm.core.jdk.proxy.DynamicProxyRegistry"
def localizationFeatureType : String := "com.oracle.svm.core.jdk.LocalizationFeature"
def resourcesRegistryType : String := "com.oracle.svm.core.configure.ResourcesRegistry"
def resourceHelperType : String := "io.quarkus.runtime.ResourceHelper"
def serializationFeatureType : String :=
  "com.oracle.svm.reflect.serialize.hosted.SerializationFeature"
def serializationRegistryType : String := "com.oracle.svm.core.jdk.serialize.SerializationRegistry"
def serializationSupportType : String := "com.oracle.svm.reflect.serialize.SerializationSupport"
def stubForAbstractClassType : String :=
  "com.oracle.svm.reflect.serialize.SerializationSupport$StubForAbstractClass"
def reflectionFactoryType : String := "sun.reflect.ReflectionFactory"
def reflectionUtilType : String := "com.oracle.svm.util.ReflectionUtil"

/-- The method of the localization feature that adds a bundle. -/
def addBundleToCache : String := "addBundleToCache"

/-- The method of constructors that gives their accessor. -/
def getConstructorAccessor : String := "getConstructorAccessor"

/-! ### Methods -/

def forName : MethodRef := ⟨classType, "forName", [stringType], classType⟩

def forNameWithLoader : MethodRef :=
  ⟨classType, "forName", [stringType, booleanType, classLoaderType], classType⟩

def getClassLoader : MethodRef := ⟨classType, "getClassLoader", [], classLoaderType⟩

def currentThread : MethodRef := ⟨threadType, "currentThread", [], threadType⟩

def getContextClassLoader : MethodRef := ⟨threadType, "getContextClassLoader", [], classLoaderType⟩

def getDeclaredConstructors : MethodRef :=
  ⟨classType, "getDeclaredConstructors", [], constructorArrayType⟩

def getDeclaredMethods : MethodRef := ⟨classType, "getDeclaredMethods", [], methodArrayType⟩

def getDeclaredFields : MethodRef := ⟨classType, "getDeclaredFields", [], fieldArrayType⟩

def getDeclaredConstructor : MethodRef :=
  ⟨classType, "getDeclaredConstructor", [classArrayType], constructorType⟩

def getDeclaredMethod : MethodRef :=
  ⟨classType, "getDeclaredMethod", [stringType, classArrayType], methodType⟩

def getDeclaredField : MethodRef := ⟨classType, "getDeclaredField", [stringType], fieldType⟩

def getModifiers : MethodRef := ⟨classType, "getModifiers", [], intType⟩

def isAbstract : MethodRef := ⟨modifierType, "isAbstract", [intType], booleanType⟩

def printStackTrace : MethodRef := ⟨throwable, "printStackTrace", [], void⟩

def imageSingletonsLookup : MethodRef := ⟨imageSingletonsType, "lookup", [classType], objectType⟩

def registerAsUnsafeAccessed : MethodRef :=
  ⟨beforeAnalysisAccessType, "registerAsUnsafeAccessed", [fieldType], void⟩

def initializeClassesAtRunTime : MethodRef :=
  ⟨runtimeClassInitializationType, "initializeAtRunTime", [classArrayType], void⟩

def initializePackagesAtRunTime : MethodRef :=
  ⟨runtimeClassInitializationType, "initializeAtRunTime", [stringArrayType], void⟩

def rerunInitialization : MethodRef :=
  ⟨runtimeClassInitializationSupportType, "rerunInitialization", [classType, stringType], void⟩

def listAdd : MethodRef := ⟨listType, "add", [objectType], booleanType⟩

def listToArray : MethodRef := ⟨listType, "toArray", [objectArrayType], objectArrayType⟩

def addProxyClass : MethodRef := ⟨dynamicProxyRegistryType, "addProxyClass", [classArrayType], void⟩

def registerResources : MethodRef := ⟨resourceHelperType, "registerResources", [stringType], void⟩

def addResources : MethodRef := ⟨resourcesRegistryType, "addResources", [stringType], void⟩

def ignoreResources : MethodRef := ⟨resourcesRegistryType, "ignoreResources", [stringType], void⟩

def setAccessible : MethodRef := ⟨accessibleObjectType, "setAccessible", [booleanType], void⟩

def methodInvoke : MethodRef := ⟨methodType, "invoke", [objectType, objectArrayType], objectType⟩

def cipherGetInstance : MethodRef := ⟨cipherType, "getInstance", [stringType], cipherType⟩

def reflectionRegisterClasses : MethodRef :=
  ⟨runtimeReflectionType, "register", [classArrayType], void⟩

def reflectionRegisterExecutables : MethodRef :=
  ⟨runtimeReflectionType, "register", [executableArrayType], void⟩

def reflectionRegisterFieldsWithFlags : MethodRef :=
  ⟨runtimeReflectionType, "register", [booleanType, booleanType, fieldArrayType], void⟩

def reflectionRegisterFields : MethodRef :=
  ⟨runtimeReflectionType, "register", [fieldArrayType], void⟩

def jniRegisterClasses : MethodRef := ⟨jniRuntimeAccessType, "register", [classArrayType], void⟩

def jniRegisterExecutables : MethodRef :=
  ⟨jniRuntimeAccessType, "register", [executableArrayType], void⟩

def jniRegisterFields : MethodRef :=
  ⟨jniRuntimeAccessType, "register", [booleanType, fieldArrayType], void⟩

def singletonList : MethodRef := ⟨collectionsType, "singletonList", [objectType], listType⟩

def getReflectionFactory : MethodRef :=
  ⟨reflectionFactoryType, "getReflectionFactory", [], reflectionFactoryType⟩

def newConstructorForSerialization : MethodRef :=
  ⟨reflectionFactoryType, "newConstructorForSerialization", [classType], constructorType⟩

def getDeclaringClass : MethodRef := ⟨constructorType, "getDeclaringClass", [], classType⟩

def lookupMethod : MethodRef :=
  ⟨reflectionUtilType, "lookupMethod", [classType, stringType, classArrayType], methodType⟩

def addConstructorAccessor : MethodRef :=
  ⟨serializationSupportType, "addConstructorAccessor", [classType, classType, objectType],
    objectType⟩

def addReflections : MethodRef :=
  ⟨serializationFeatureType, "addReflections", [classType, classType], void⟩

/-- Every method that generated code calls outside its own unit. -/
def methods : List MethodRef :=
  [forName, forNameWithLoader, getClassLoader, currentThread, getContextClassLoader,
   getDeclaredConstructors, getDeclaredMethods, getDeclaredFields, getDeclaredConstructor,
   getDeclaredMethod, getDeclaredField, getModifiers, isAbstract, printStackTrace,
   imageSingletonsLookup, registerAsUnsafeAccessed, initializeClassesAtRunTime,
   initializePackagesAtRunTime, rerunInitialization, listAdd, listToArray, addProxyClass,
   registerResources, addResources, ignoreResources, setAccessible, methodInvoke,
   cipherGetInstance, reflectionRegisterClasses, reflectionRegisterExecutables,
   reflectionRegisterFieldsWithFlags, reflectionRegisterFields, jniRegisterClasses,
   jniRegisterExecutables, jniRegisterFields, singletonList, getReflectionFactory,
   newConstructorForSerialization, getDeclaringClass, lookupMethod, addConstructorAccessor,
   addReflections]

end Registrar.Platform
