import Registrar.Platform
import Registrar.Recording.Event
import Registrar.Synthesis.Region

/-! Walks over a plan with a catalogue at hand. A walk ends with a result or at a fault. It notes the
events that a recording host would note, and which platform methods would be called statically. -/
namespace Registrar

structure Walk (α : Type) where
  result : Except Fault α
  events : List Event
  /-- The static calls. A unit that bears the name of the owner of one of them cannot make it. -/
  calls : List MethodRef
  platform : ∀ m ∈ calls, m ∈ Platform.methods

namespace Walk

variable {α β : Type}

protected def pure (a : α) : Walk α := ⟨.ok a, [], [], fun _ h => nomatch h⟩

/-- The second walk goes on where the first one ends, unless that is at a fault. -/
protected def bind (x : Walk α) (f : α → Walk β) : Walk β where
  result := x.result.bind fun a => (f a).result
  events := x.events ++ match x.result with
    | .ok a => (f a).events
    | .error _ => []
  calls := x.calls ++ match x.result with
    | .ok a => (f a).calls
    | .error _ => []
  platform m h := by
    rcases List.mem_append.1 h with first | second
    · exact x.platform m first
    · cases hx : x.result with
      | ok a =>
        rw [hx] at second
        exact (f a).platform m second
      | error e =>
        rw [hx] at second
        cases second

instance : Monad Walk where
  pure := Walk.pure
  bind := Walk.bind

def stop (f : Fault) : Walk α := ⟨.error f, [], [], fun _ h => nomatch h⟩

def note (e : Event) : Walk Unit := ⟨.ok (), [e], [], fun _ h => nomatch h⟩

def call (m : MethodRef) (platform : m ∈ Platform.methods := by rw [Platform.methods]; simp) :
    Walk Unit where
  result := .ok ()
  events := []
  calls := [m]
  platform _ h := List.mem_singleton.1 h ▸ platform

/-- Goes on only if something was found. -/
def demand (found : Bool) (f : Fault) : Walk Unit := if found then pure () else stop f

/-- What is noted when a region catches a fault. -/
def caught (onFault : OnFault) (f : Fault) : List Event :=
  match onFault with
  | .report => [.failureReported f]
  | .drop => []

/-- Goes on behind a region in any case. -/
def isolated (onFault : OnFault) (x : Walk Unit) : Walk Unit where
  result := .ok ()
  events := x.events ++ match x.result with
    | .ok _ => []
    | .error f => caught onFault f
  calls := x.calls
  platform := x.platform

/-- One of the static calls is of a method of the type of this name. -/
def Meets (x : Walk α) (name : String) : Prop := ∃ m ∈ x.calls, m.owner = name

section

variable (x : Walk α) (f : α → Walk β)

@[simp] theorem events_pure (a : α) : (pure a : Walk α).events = [] := rfl

@[simp] theorem result_bind : (x >>= f).result = x.result.bind fun a => (f a).result := rfl

@[simp] theorem events_bind : (x >>= f).events = x.events ++ match x.result with
    | .ok a => (f a).events
    | .error _ => [] := rfl

/-- Nothing is added behind the end. -/
theorem bind_pure (x : Walk α) : x >>= pure = x := by
  obtain ⟨result, events, calls, platform⟩ := x
  change Walk.bind _ Walk.pure = _
  cases result <;> simp [Walk.bind, Walk.pure, Except.bind]

end

theorem meets_bind {x : Walk α} {f : α → Walk β} {name : String} :
    (x >>= f).Meets name ↔ x.Meets name ∨ ∃ a, x.result = .ok a ∧ (f a).Meets name := by
  have calls : (x >>= f).calls = x.calls ++ match x.result with
    | .ok a => (f a).calls
    | .error _ => [] := rfl
  cases h : x.result <;> simp [Meets, calls, h, or_and_right, exists_or]

theorem not_meets_pure {a : α} {name : String} : ¬(pure a : Walk α).Meets name := by
  rintro ⟨m, called, -⟩
  cases called

theorem not_meets_stop {f : Fault} {name : String} : ¬(stop f : Walk α).Meets name := by
  rintro ⟨m, called, -⟩
  cases called

theorem not_meets_note {e : Event} {name : String} : ¬(note e).Meets name := by
  rintro ⟨m, called, -⟩
  cases called

theorem meets_isolated {onFault : OnFault} {x : Walk Unit} {name : String} :
    (isolated onFault x).Meets name ↔ x.Meets name := Iff.rfl

theorem meets_call {m : MethodRef} {h : m ∈ Platform.methods} {name : String} :
    (call m h).Meets name ↔ m.owner = name := by
  simp [Meets, call]

@[simp] theorem result_stop (f : Fault) : (stop f : Walk α).result = .error f := rfl
@[simp] theorem events_stop (f : Fault) : (stop f : Walk α).events = [] := rfl

@[simp] theorem result_call {m : MethodRef} (h : m ∈ Platform.methods) :
    (call m h).result = .ok () := rfl

@[simp] theorem result_isolated (onFault : OnFault) (x : Walk Unit) :
    (isolated onFault x).result = .ok () := rfl

/-- A walk does not meet a name that no platform method is owned by. -/
theorem not_meets {x : Walk α} {name : String}
    (h : name ∉ Platform.methods.map (·.owner)) : ¬x.Meets name := by
  rintro ⟨m, called, rfl⟩
  exact h (List.mem_map_of_mem (x.platform m called))

end Walk
end Registrar
