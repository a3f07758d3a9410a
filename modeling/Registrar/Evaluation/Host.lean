import Registrar.CodeUnit.Basic
import Registrar.Evaluation.Value

/-! What a unit runs on: something that loads classes, makes instances, and answers calls. -/
namespace Registrar

/-- The state of a host together with the arrays and lists that are shared with it. -/
structure World (σ : Type) where
  host : σ
  store : Store

/-- An answer or a fault, and the world afterwards. -/
abbrev Reply (σ : Type) := Except Fault Value × World σ

/-- Any host whatever. -/
structure Host (σ : Type) where
  loadClass : (name : String) → World σ → Reply σ
  newInstance : (name : String) → World σ → Reply σ
  invoke : InvokeKind → MethodRef → (receiver : Option Value) → (args : List Value) → World σ →
    Reply σ

end Registrar
