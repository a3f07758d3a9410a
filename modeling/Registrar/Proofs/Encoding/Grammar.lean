import Registrar.CodeUnit.Encoding

/-! The grammar of encoded units: which bytes are a form of what. Most things have more forms than the
one that is written for them. A pool may hold a string twice or for nothing, any byte but zero says
that a value follows or that a constant is true, and bits of modifiers that have no meaning may be
set. -/
namespace Registrar

/-- Forms of the items of a list, one behind the other. -/
inductive Row {α : Type} (form : α → List UInt8 → Prop) : List α → List UInt8 → Prop
  | nil : Row form [] []
  | cons {a : α} {as : List α} {front back : List UInt8} (first : form a front)
      (rest : Row form as back) : Row form (a :: as) (front ++ back)

/-- A list stands behind its length, which is a word. -/
inductive Counted {α : Type} (form : α → List UInt8 → Prop) : List α → List UInt8 → Prop
  | row (count : UInt32) {as : List α} {bytes : List UInt8} (length : as.length = count.toNat)
      (items : Row form as bytes) : Counted form as (wordBytes count ++ bytes)

/-- A text of the pool: how many bytes of UTF-8 it takes, and these bytes. -/
inductive TextForm : String → List UInt8 → Prop
  | utf8 (count : UInt32) {s : String} (length : (textBytes s).length = count.toNat) :
      TextForm s (wordBytes count ++ textBytes s)

/-- Zero says that there is no value, any other byte that one follows. -/
inductive OptionalForm : Option ValueId → List UInt8 → Prop
  | absent : OptionalForm none [0]
  | present {flag : UInt8} (set : flag ≠ 0) (v : ValueId) : OptionalForm (some v) (flag :: v.bytes)

/-- Of the sixteen bits three have a meaning. -/
inductive ModifiersForm : Modifiers → List UInt8 → Prop
  | bits (word : UInt16) {m : Modifiers} (isPublic : m.isPublic = word.toNat.testBit 0)
      (isPrivate : m.isPrivate = word.toNat.testBit 1)
      (isStatic : m.isStatic = word.toNat.testBit 3) : ModifiersForm m (halfBytes word)

section

variable (pool : List String)

/-- A string is given by a place in the pool where it stands. -/
inductive StringForm : String → List UInt8 → Prop
  | place (index : UInt32) {s : String} (there : pool[index.toNat]? = some s) :
      StringForm s (wordBytes index)

inductive MethodForm : MethodRef → List UInt8 → Prop
  | parts {m : MethodRef} {owner name params returns : List UInt8}
      (ownerForm : StringForm pool m.owner owner) (nameForm : StringForm pool m.name name)
      (paramsForm : Counted (StringForm pool) m.params params)
      (returnsForm : StringForm pool m.returns returns) :
      MethodForm m (owner ++ (name ++ (params ++ returns)))

/-- An opcode with its operands, of which some are blocks of instructions. -/
inductive InstructionForm : Instruction → List UInt8 → Prop
  | constNull (d : ValueId) : InstructionForm (.const d .null) (0x01 :: d.bytes)
  | constFalse (d : ValueId) : InstructionForm (.const d (.bool false)) (0x02 :: (d.bytes ++ [0]))
  | constTrue (d : ValueId) {flag : UInt8} (set : flag ≠ 0) :
      InstructionForm (.const d (.bool true)) (0x02 :: (d.bytes ++ [flag]))
  | constInt (d : ValueId) (n : Int32) :
      InstructionForm (.const d (.int n)) (0x03 :: (d.bytes ++ wordBytes n.toUInt32))
  | constStr (d : ValueId) {s : String} {text : List UInt8} (textForm : StringForm pool s text) :
      InstructionForm (.const d (.str s)) (0x04 :: (d.bytes ++ text))
  | loadClass (d : ValueId) {c : String} {name : List UInt8} (nameForm : StringForm pool c name) :
      InstructionForm (.loadClass d c) (0x05 :: (d.bytes ++ name))
  | param (d : ValueId) (index : UInt16) :
      InstructionForm (.param d index) (0x06 :: (d.bytes ++ halfBytes index))
  | invoke (d : ValueId) (k : InvokeKind) {m : MethodRef} {r : Option ValueId} {as : List ValueId}
      {method receiver args : List UInt8} (methodForm : MethodForm pool m method)
      (receiverForm : OptionalForm r receiver)
      (argsForm : Counted (fun v bytes => bytes = ValueId.bytes v) as args) :
      InstructionForm (.invoke d k m r as)
        (0x07 :: (d.bytes ++ k.code :: (method ++ (receiver ++ args))))
  | newInstance (d : ValueId) {c : String} {name : List UInt8} (nameForm : StringForm pool c name) :
      InstructionForm (.newInstance d c) (0x08 :: (d.bytes ++ name))
  | newArray (d : ValueId) {c : String} {component : List UInt8} (length : UInt32)
      (componentForm : StringForm pool c component) :
      InstructionForm (.newArray d c length) (0x09 :: (d.bytes ++ (component ++ wordBytes length)))
  | store (array : ValueId) (index : UInt32) (v : ValueId) :
      InstructionForm (.store array index v)
        (0x0A :: (array.bytes ++ (wordBytes index ++ v.bytes)))
  | declare (d : ValueId) {t : String} {name : List UInt8} (nameForm : StringForm pool t name) :
      InstructionForm (.declare d t) (0x0B :: (d.bytes ++ name))
  | assign (target v : ValueId) :
      InstructionForm (.assign target v) (0x0C :: (target.bytes ++ v.bytes))
  | branch (condition : ValueId) {onTrue onFalse : List Instruction} {first second : List UInt8}
      (onTrueForm : Counted InstructionForm onTrue first)
      (onFalseForm : Counted InstructionForm onFalse second) :
      InstructionForm (.branch condition onTrue onFalse)
        (0x0D :: (condition.bytes ++ (first ++ second)))
  | isolate {body handler : List Instruction} {e : String} (caught : ValueId)
      {first type second : List UInt8} (bodyForm : Counted InstructionForm body first)
      (typeForm : StringForm pool e type) (handlerForm : Counted InstructionForm handler second) :
      InstructionForm (.isolate body e caught handler)
        (0x0E :: (first ++ (type ++ (caught.bytes ++ second))))
  | leave {v : Option ValueId} {value : List UInt8} (valueForm : OptionalForm v value) :
      InstructionForm (.leave v) (0x0F :: value)

inductive RoutineForm : Routine → List UInt8 → Prop
  | parts {r : Routine} {name modifiers params returns body : List UInt8}
      (nameForm : StringForm pool r.name name) (modifiersForm : ModifiersForm r.modifiers modifiers)
      (paramsForm : Counted (StringForm pool) r.params params)
      (returnsForm : StringForm pool r.returns returns)
      (bodyForm : Counted (InstructionForm pool) r.body body) :
      RoutineForm r
        (name ++ (modifiers ++ (params ++ (returns ++ (wordBytes r.valueCount ++ body)))))

/-- A unit whose strings are places in this pool. -/
inductive BodyForm : CodeUnit → List UInt8 → Prop
  | parts {u : CodeUnit} {name superClass interfaces annotations routines : List UInt8}
      (nameForm : StringForm pool u.name name) (superForm : StringForm pool u.superClass superClass)
      (interfacesForm : Counted (StringForm pool) u.interfaces interfaces)
      (annotationsForm : Counted (StringForm pool) u.annotations annotations)
      (routinesForm : Counted (RoutineForm pool) u.routines routines) :
      BodyForm u (name ++ (superClass ++ (interfaces ++ (annotations ++ routines))))

end

/-- Magic bytes, version and pool, and then the unit itself with nothing behind it. -/
inductive UnitForm : CodeUnit → List UInt8 → Prop
  | parts {u : CodeUnit} (pool : List String) {texts body : List UInt8}
      (poolForm : Counted TextForm pool texts) (bodyForm : BodyForm pool u body) :
      UnitForm u (magic ++ (wordBytes formatVersion ++ (texts ++ body)))

end Registrar
