import Registrar.Proofs.Running.Action
import Mathlib.Data.List.Forall2
import Mathlib.Order.Nat

/-! Where emitted instructions stand: the numbers that were given away so far, and the frame that
the instructions run in. As the instructions go on, slots that are filled keep their values. -/
namespace Registrar

variable {σ α : Type}

/-! ### Frames -/

namespace Frame

@[simp] theorem get?_set_self (f : Frame) (v : ValueId) (x : Value) :
    (f.set v x).get? v = some x := by
  simp [get?, set]
  grind

theorem get?_set_of_ne (f : Frame) {v u : ValueId} (x : Value) (h : u ≠ v) :
    (f.set v x).get? u = f.get? u := by
  have ne : v.number.toNat ≠ u.number.toNat := by
    intro e
    apply h
    cases u
    cases v
    simp_all [UInt32.toNat_inj]
  simp only [get?, set, Array.getElem?_setIfInBounds_ne ne, Array.getElem?_append]
  grind

end Frame

/-- Where an emission stands: the next free number, and the frame that its instructions run in. -/
structure Site where
  next : Nat
  frame : Frame

namespace Site

/-- A later site of the same run has all slots that were filled before. -/
instance : Preorder Site where
  le s t := s.next ≤ t.next ∧ t.frame.args = s.frame.args ∧
    ∀ v : ValueId, v.number.toNat < s.next → t.frame.get? v = s.frame.get? v
  le_refl s := ⟨le_rfl, rfl, fun _ _ => rfl⟩
  le_trans s t u h g := ⟨h.1.trans g.1, g.2.1.trans h.2.1, fun v hv =>
    (g.2.2 v (hv.trans_le h.1)).trans (h.2.2 v hv)⟩

/-- Numbers may be given away without instructions. -/
theorem le_advance {s : Site} {next : Nat} (h : s.next ≤ next) : s ≤ ⟨next, s.frame⟩ :=
  ⟨h, rfl, fun _ _ => rfl⟩

/-- A slot that has been filled, with its value. -/
def Holds (s : Site) (v : ValueId) (x : Value) : Prop :=
  v.number.toNat < s.next ∧ s.frame.get? v = some x

theorem Holds.mono {s t : Site} {v : ValueId} {x : Value} (h : s.Holds v x) (le : s ≤ t) :
    t.Holds v x :=
  ⟨h.1.trans_le le.1, (le.2.2 v h.1).trans h.2⟩

theorem Holds.pos {s : Site} {v : ValueId} {x : Value} (h : s.Holds v x) : 0 < s.next :=
  Nat.zero_lt_of_lt h.1

/-- The next slot gets a value. -/
theorem holds_set {s : Site} (h : s.next < UInt32.size) (x : Value) :
    s ≤ ⟨s.next + 1, s.frame.set ⟨s.next.toUInt32⟩ x⟩ ∧
      Holds ⟨s.next + 1, s.frame.set ⟨s.next.toUInt32⟩ x⟩ ⟨s.next.toUInt32⟩ x := by
  have number : s.next.toUInt32.toNat = s.next := UInt32.toNat_ofNat_of_lt' h
  refine ⟨⟨Nat.le_succ _, rfl, fun v hv => ?_⟩, by simp [number], by simp⟩
  apply Frame.get?_set_of_ne
  rintro rfl
  simp [number] at hv

end Site

/-! ### Own routines -/

namespace Context

/-- Calling the own routine of this name with these arguments does what the action does. -/
def Answers (env : Context σ) (routine : String) (args : List Value) (d : Action σ Value) : Prop :=
  ∀ w, match d w with
    | (.ok x, w') => env.call routine args w = (.ok x, w')
    | (.error e, w') => ∃ h : Halt, h.stop = e ∧ env.call routine args w = (.error h, w')

/-- A unit that bears the name of the owner of a platform method has no routine of that name, so
that calls of the method come to nothing. -/
def Hides (env : Context σ) : Prop :=
  ∀ m ∈ Platform.methods, m.owner = env.self → ∀ args, env.Answers m.name args Action.stuck

end Context

/-! ### Reading -/

namespace Exec

/-- In this frame, the step finds out what the action does; the frame stays as it is. -/
def Finds (f : Frame) (y : Exec σ α) (d : Action σ α) : Prop :=
  ∀ w, match d w with
    | (.ok a, w') => y ⟨f, w⟩ = (.ok a, ⟨f, w'⟩)
    | (.error e, w') => ∃ h : Halt, h.stop = e ∧ y ⟨f, w⟩ = (.error h, ⟨f, w'⟩)

theorem read_apply {s : Site} {v : ValueId} {x : Value} (h : s.Holds v x) (w : World σ) :
    read v ⟨s.frame, w⟩ = (.ok x, ⟨s.frame, w⟩) := by
  simp [read, h.2]

theorem mapM_read_apply {s : Site} {vs : List ValueId} {xs : List Value}
    (h : List.Forall₂ s.Holds vs xs) (w : World σ) :
    vs.mapM read ⟨s.frame, w⟩ = (.ok xs, ⟨s.frame, w⟩) := by
  induction h with
  | nil => rfl
  | cons held _ ih =>
    rw [List.mapM_cons, bind_apply_of_ok (read_apply held w), bind_apply_of_ok ih]
    rfl

theorem ask_finds (f : Frame) (question : World σ → Reply σ) :
    Finds f (ask question) (Action.ask question) := by
  intro w
  simp only [Action.ask, ask]
  rcases question w with ⟨a | a, w'⟩
  · exact ⟨.fault a, rfl, rfl⟩
  · rfl

theorem loadClass_finds (env : Context σ) (f : Frame) (name : String) :
    Finds f (loadClass env name) (env.setting.loadClass name) := by
  unfold loadClass Setting.loadClass
  by_cases own : name = env.self
  · simp only [Context.setting, own, if_true]
    exact fun w => rfl
  · simp only [Context.setting, own, if_false]
    exact ask_finds f _

theorem newArray_finds (f : Frame) (length : UInt32) :
    Finds (σ := σ) f (newArray length) (Action.newArray (List.replicate length.toNat .null)) :=
  fun _ => rfl

theorem storeAt_finds {s : Site} {array : ValueId} {a : Value} (index : UInt32) (x : Value)
    (held : s.Holds array a) :
    Finds (σ := σ) s.frame (storeAt array index x) (Action.storeAt a index x) := by
  intro w
  unfold storeAt
  rw [bind_apply_of_ok (read_apply held w)]
  cases a with
  | array cell =>
    by_cases room : index.toNat < (w.store.elements cell).length
    · simp only [Action.storeAt, room, if_true]
    · simp only [Action.storeAt, room, if_false]
      exact ⟨.fault (.outOfBounds index), rfl, rfl⟩
  | _ => exact ⟨.error (.notAnArray s.frame.routine array), rfl, rfl⟩

theorem call_finds {env : Context σ} {routine : String} {args : List Value} {d : Action σ Value}
    (answers : env.Answers routine args d) (f : Frame) : Finds f (call env routine args) d := by
  intro w
  have here := answers w
  have called : call env routine args ⟨f, w⟩ =
      ((env.call routine args w).1, ⟨f, (env.call routine args w).2⟩) := rfl
  rcases hd : d w with ⟨e | x, w'⟩
  · simp only [hd] at here
    obtain ⟨h, stop, answer⟩ := here
    exact ⟨h, stop, by rw [called, answer]⟩
  · simp only [hd] at here
    simp only [called, here]

/-- A call of a method on something goes to the host. -/
theorem ask_on_finds {s : Site} {v : ValueId} {y : Value} (held : s.Holds v y)
    (question : Option Value → World σ → Reply σ) :
    Finds s.frame (do ask (question (← (some v).mapM read))) (Action.ask (question (some y))) := by
  intro w
  have here := ask_finds s.frame (question (some y)) w
  have found : (some v).mapM read ⟨s.frame, w⟩ = (.ok (some y), ⟨s.frame, w⟩) := by
    rw [Option.mapM_some, map_eq_pure_bind, bind_apply_of_ok (read_apply held w)]
    rfl
  rw [bind_apply_of_ok found]
  exact here

/-- Arguments are read before a call is made. -/
theorem invoke_finds {env : Context σ} {s : Site} {kind : InvokeKind} {m : MethodRef}
    {receiver : Option ValueId} {vs : List ValueId} {xs : List Value} {d : Action σ Value}
    (held : List.Forall₂ s.Holds vs xs)
    (rest : Finds s.frame (if kind = .static ∧ m.owner = env.self then call env m.name xs
      else do ask (env.host.invoke kind m (← receiver.mapM read) xs)) d) :
    Finds s.frame (invoke env kind m receiver vs) d := by
  intro w
  have here := rest w
  unfold invoke
  rw [bind_apply_of_ok (mapM_read_apply held w)]
  exact here

end Exec

end Registrar

