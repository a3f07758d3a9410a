import Registrar.Proofs.Running.Embedding

/-! What can be seen of a run: the questions that the host is asked, with its answers, and where own
routines are entered and left. The steps of a run are kept beside the state of the host. The run
itself is none the wiser, so that they are the steps of any run on that host. -/
namespace Registrar

variable {σ : Type}

/-- What a host is asked. -/
inductive Question where
  | loadClass (name : String)
  | newInstance (name : String)
  | invoke (kind : InvokeKind) (method : MethodRef) (receiver : Option Value) (args : List Value)

inductive Step where
  | asked (question : Question) (answer : Except Fault Value)
  | entered (routine : String) (args : List Value)
  | left (routine : String) (result : Except Halt Value)

/-- The host is asked something. -/
def Step.OfHost (s : Step) : Prop := ∃ question answer, s = .asked question answer

/-- The state of a host with the steps that were seen so far. -/
structure Watched (σ : Type) where
  host : σ
  steps : List Step

namespace World

/-- The world without the steps that were seen in it. -/
def unwatched (w : World (Watched σ)) : World σ := ⟨w.host.host, w.store⟩

/-- The world when some steps have been seen. -/
def watched (w : World σ) (steps : List Step) : World (Watched σ) := ⟨⟨w.host, steps⟩, w.store⟩

/-- One more step is seen. -/
def see (w : World (Watched σ)) (s : Step) : World (Watched σ) :=
  { w with host.steps := w.host.steps ++ [s] }

end World

namespace Host

/-- Asks the host and sees what comes of it. -/
def watch (question : Question) (ask : World σ → Reply σ) (w : World (Watched σ)) :
    Reply (Watched σ) :=
  let (answer, next) := ask w.unwatched
  (answer, next.watched (w.host.steps ++ [.asked question answer]))

/-- The host, seen from outside. -/
def watched (h : Host σ) : Host (Watched σ) where
  loadClass name := watch (.loadClass name) (h.loadClass name)
  newInstance name := watch (.newInstance name) (h.newInstance name)
  invoke kind m receiver args :=
    watch (.invoke kind m receiver args) (h.invoke kind m receiver args)

end Host

/-- Running code only adds to what was seen. -/
def Context.Adds (env : Context (Watched σ)) : Prop :=
  ∀ is m, ∃ new, (Block.exec env is m).2.world.host.steps = m.world.host.steps ++ new

namespace CodeUnit

/-- What routines run in when calls of own routines are seen as well. -/
def watching (u : CodeUnit) (host : Host σ)
    (call : String → List Value → World (Watched σ) → Except Halt Value × World (Watched σ)) :
    Context (Watched σ) where
  host := host.watched
  self := u.binaryName
  call routine args w :=
    let (result, w) := call routine args (w.see (.entered routine args))
    (result, w.see (.left routine result))

/-- Calls a routine and sees the steps that this takes. -/
def watch (u : CodeUnit) (host : Host σ) : (depth : Nat) → (routine : String) →
    (args : List Value) → World (Watched σ) → Except Halt Value × World (Watched σ)
  | 0, _, _, w => (.error .exhausted, w)
  | depth + 1, name, args, w =>
    match u.routine? name with
    | none => (.error (.error (.unknownRoutine name)), w)
    | some r => (u.watching host (u.watch host depth)).run r args w

/-- The steps of a run from this world on. -/
def trace (u : CodeUnit) (host : Host σ) (depth : Nat) (routine : String) (args : List Value)
    (w : World σ) : List Step :=
  (u.watch host depth routine args (w.watched [])).2.host.steps

variable {u : CodeUnit} {host : Host σ}

theorem watch_of_found {name : String} {r : Routine} (depth : Nat)
    (found : u.routine? name = some r) :
    u.watch host (depth + 1) name = (u.watching host (u.watch host depth)).run r := by
  funext args w
  rw [watch, found]

/-! ### Watching changes nothing -/

/-- The state of a host without the steps that are kept beside it. -/
def unseen : Embedding (Watched σ) σ := .ofHost (·.host)

theorem value_unseen : (unseen : Embedding (Watched σ) σ).value = id := Embedding.value_ofHost _

theorem unseen_carries_watch (question : Question) (ask : World σ → Reply σ) :
    unseen.Carries (Host.watch question ask) ask :=
  (unseen.carries_iff value_unseen).2 fun _ => rfl

theorem unseen_serves (host : Host σ) : unseen.Serves host.watched host where
  loadClass name := unseen_carries_watch _ _
  newInstance name := unseen_carries_watch _ _
  invoke kind m receiver args := by
    rw [value_unseen, Option.map_id, List.map_id]
    exact unseen_carries_watch _ _

/-- Watching at one level of calls, if watching changes nothing further down. -/
theorem unseen_fits (depth : Nat)
    (inner : ∀ name args, unseen.Carries (u.watch host depth name args)
      (u.call host depth name args)) :
    unseen.Fits (u.watching host (u.watch host depth)) (u.context host depth) where
  self := rfl
  serves := unseen_serves host
  call routine args := by
    rw [value_unseen, List.map_id]
    exact fun w => inner routine args (w.see (.entered routine args))

theorem unseen_carries_run (depth : Nat)
    (inner : ∀ name args, unseen.Carries (u.watch host depth name args)
      (u.call host depth name args)) (r : Routine) (args : List Value) :
    unseen.Carries ((u.watching host (u.watch host depth)).run r args)
      ((u.context host depth).run r args) := by
  have ran := Context.run_embedded (unseen_fits depth inner) (r := r) rfl rfl args
  rwa [value_unseen, List.map_id] at ran

/-- A run that is watched takes the same course as one that is not. -/
theorem unseen_carries_call (u : CodeUnit) (host : Host σ) (depth : Nat) (name : String)
    (args : List Value) :
    unseen.Carries (u.watch host depth name args) (u.call host depth name args) := by
  induction depth generalizing name args with
  | zero => exact fun _ => rfl
  | succ depth ih =>
    cases found : u.routine? name with
    | none =>
      intro w
      rw [watch, call, found]
      rfl
    | some r =>
      rw [watch_of_found depth found, call_of_found host depth found]
      exact unseen_carries_run depth ih r args

section

variable (u : CodeUnit) (host : Host σ) (depth : Nat)

theorem watch_result (name : String) (args : List Value) (w : World σ) (steps : List Step) :
    (u.watch host depth name args (w.watched steps)).1 = (u.call host depth name args w).1 := by
  have same := (unseen.carries_iff value_unseen).1 (unseen_carries_call u host depth name args)
  exact (congrArg Prod.fst (same (w.watched steps))).symm

theorem watching_run_result (r : Routine) (args : List Value) (w : World σ) (steps : List Step) :
    ((u.watching host (u.watch host depth)).run r args (w.watched steps)).1 =
      ((u.context host depth).run r args w).1 := by
  have same := (unseen.carries_iff value_unseen).1
    (unseen_carries_run depth (unseen_carries_call u host depth) r args)
  exact (congrArg Prod.fst (same (w.watched steps))).symm

end

/-! ### What was seen before makes no difference -/

/-- More steps were seen before. -/
def preceded (seen : List Step) : Embedding (Watched σ) (Watched σ) :=
  .ofHost fun s => ⟨s.host, seen ++ s.steps⟩

theorem value_preceded (seen : List Step) :
    (preceded seen : Embedding (Watched σ) (Watched σ)).value = id := Embedding.value_ofHost _

theorem world_preceded_see (seen : List Step) (w : World (Watched σ)) (s : Step) :
    (preceded seen).world (w.see s) = ((preceded seen).world w).see s := by
  simp only [Embedding.world, preceded, Embedding.ofHost, World.see, List.append_assoc]

theorem preceded_carries_watch (seen : List Step) (question : Question)
    (ask : World σ → Reply σ) :
    (preceded seen).Carries (Host.watch question ask) (Host.watch question ask) := by
  rw [Embedding.carries_iff _ (value_preceded seen)]
  intro w
  exact congrArg (Prod.mk _)
    (world_preceded_see seen ((ask w.unwatched).2.watched w.host.steps) _).symm

theorem preceded_serves (seen : List Step) (host : Host σ) :
    (preceded seen).Serves host.watched host.watched where
  loadClass name := preceded_carries_watch seen _ _
  newInstance name := preceded_carries_watch seen _ _
  invoke kind m receiver args := by
    rw [value_preceded, Option.map_id, List.map_id]
    exact preceded_carries_watch seen _ _

/-- The settings of one level of calls, if this holds further down. -/
theorem preceded_fits (seen : List Step) (depth : Nat)
    (inner : ∀ name args, (preceded seen).Carries (u.watch host depth name args)
      (u.watch host depth name args)) :
    (preceded seen).Fits (u.watching host (u.watch host depth))
      (u.watching host (u.watch host depth)) where
  self := rfl
  serves := preceded_serves seen host
  call routine args := by
    rw [value_preceded, List.map_id, Embedding.carries_iff _ (value_preceded seen)]
    intro w
    have ran := ((preceded seen).carries_iff (value_preceded seen)).1 (inner routine args)
      (w.see (.entered routine args))
    rw [world_preceded_see] at ran
    simp only [watching, ran, world_preceded_see]

theorem preceded_carries_call (u : CodeUnit) (host : Host σ) (seen : List Step) (depth : Nat)
    (name : String) (args : List Value) :
    (preceded seen).Carries (u.watch host depth name args) (u.watch host depth name args) := by
  induction depth generalizing name args with
  | zero => exact fun _ => rfl
  | succ depth ih =>
    cases found : u.routine? name with
    | none =>
      intro w
      rw [watch, watch, found]
      rfl
    | some r =>
      have ran := Context.run_embedded (preceded_fits seen depth ih) (r := r) rfl rfl args
      rw [value_preceded, List.map_id] at ran
      rw [watch_of_found depth found]
      exact ran

theorem watching_adds (u : CodeUnit) (host : Host σ) (depth : Nat) :
    (u.watching host (u.watch host depth)).Adds := by
  intro is m
  -- The machine before anything was seen.
  let fresh : Machine (Watched σ) := ⟨m.frame, ⟨⟨m.world.host.host, []⟩, m.world.store⟩⟩
  have whole : m.world = (preceded m.world.host.steps).world fresh.world := by
    simp [fresh, Embedding.world, preceded, Embedding.ofHost]
  have ran := Block.exec_embedded (preceded_fits m.world.host.steps depth
    (preceded_carries_call u host _ depth)) is fresh m ⟨.refl (value_preceded _) _, whole⟩
  rw [ran.2.world]
  exact ⟨_, rfl⟩

end CodeUnit

end Registrar
