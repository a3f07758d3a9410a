import Registrar.Proofs.Recording.Following
import Registrar.Proofs.Tracing.Trace

/-! What one call can do to a recording host. A call that ends in a fault has done nothing, wherever
in its arguments the fault was found. A call that is answered notes one event at most, and of the
arrays and lists that are there it touches none but a list that it is asked to add to. -/
namespace Registrar

open Platform

variable {σ α : Type}

/-- Puts a question to a host. -/
def Host.ask (h : Host σ) : Question → World σ → Reply σ
  | .loadClass name => h.loadClass name
  | .newInstance name => h.newInstance name
  | .invoke kind m receiver args => h.invoke kind m receiver args

/-- The list and the value that it is asked to take at its end. -/
def Question.addition? : Question → Option (Nat × Value)
  | .invoke _ m (some (.list cell)) (v :: _) =>
    if m.named listAdd.owner listAdd.name then some (cell, v) else none
  | _ => none

/-- What a cell is asked to take at its end. -/
def Question.addedTo (q : Question) (cell : Nat) : List Value :=
  match q.addition? with
  | some (list, v) => if list = cell then [v] else []
  | none => []

/-! ### Responses that leave all cells as they are -/

namespace Response

/-- The response adds to no list. -/
def Spares (r : Response) : Prop := ∀ cell v, r ≠ .ok (.append cell v)

theorem spares_error (f : Fault) : Spares (.error f) := nofun

theorem spares_answer (v : Value) : (answer v).Spares := nofun

theorem spares_record (event : Event) : (record event).Spares := nofun

theorem spares_members (ms : List Member) : (members ms).Spares := nofun

namespace Spares

theorem bind {x : Except Fault α} {f : α → Response} (rest : ∀ a, (f a).Spares) :
    Spares (x >>= f) := by
  cases x with
  | error fault => exact spares_error fault
  | ok a => exact rest a

theorem ite {p : Prop} [Decidable p] {r r' : Response} (onTrue : r.Spares) (onFalse : r'.Spares) :
    (if p then r else r').Spares := by
  split
  · exact onTrue
  · exact onFalse

end Spares
end Response

namespace Catalogue

open Response

variable (c : Catalogue) (s : Store) (m : MethodRef) (receiver : Option Value) (args : List Value)

theorem spares_loadClass (name : String) : (c.loadClass name).Spares :=
  .ite (spares_answer _) (spares_error _)

theorem spares_newInstance (name : String) : (c.newInstance name).Spares :=
  .ite nofun (.ite (spares_answer _) (spares_error _))

theorem spares_invokeClass : (c.invokeClass s m receiver args).Spares := by
  unfold invokeClass
  split
  · exact .bind fun name => c.spares_loadClass name
  · exact spares_answer _
  · exact .bind fun h => spares_members _
  · exact .bind fun h => spares_members _
  · exact .bind fun h => spares_members _
  · exact .bind fun params => .bind fun h => .ite (spares_answer _) (spares_error _)
  · exact .bind fun sought => .bind fun params => .bind fun h =>
      .ite (spares_answer _) (spares_error _)
  · exact .bind fun sought => .bind fun h => .ite (spares_answer _) (spares_error _)
  · exact .bind fun h => spares_answer _
  · exact spares_error _

theorem spares_invokeRegistry (registry : Registry) : (invokeRegistry s registry m args).Spares := by
  unfold invokeRegistry
  refine .ite (.bind fun classes => spares_record _) ?_
  refine .ite (.bind fun members => spares_record _) ?_
  refine .ite (.bind fun writable => .bind fun serialization => .bind fun fields =>
    spares_record _) ?_
  refine .ite (.bind fun writable => .bind fun fields => spares_record _) ?_
  exact .ite (.bind fun fields => spares_record _) (spares_error _)

theorem spares_invokeFound : (c.invokeFound s receiver args).Spares := by
  unfold invokeFound
  refine .bind fun found => .ite (.bind fun passed => .bind fun bundle => ?_)
    (.ite (spares_answer _) (spares_answer _))
  exact .ite (spares_record _) (spares_error _)

/-- One case for each method, in the order in which they are told apart. -/
theorem spares_respond (other : m.named listAdd.owner listAdd.name = false) :
    (c.respond s m receiver args).Spares := by
  unfold respond
  refine .ite (c.spares_invokeClass s m receiver args) ?_
  refine .ite (spares_answer _) ?_
  refine .ite (spares_answer _) ?_
  refine .ite (.bind fun word => spares_answer _) ?_
  refine .ite (.bind fun f => spares_record _) ?_
  refine .ite (.bind fun type => .ite (spares_error _) (spares_answer _)) ?_
  refine .ite (.bind fun field => spares_record _) ?_
  refine .ite (.bind fun values => .ite (spares_record _) (spares_record _)) ?_
  refine .ite (.bind fun class_ => .bind fun originator => spares_record _) ?_
  rw [if_neg (by simp [other])]
  refine .ite (.bind fun cell => nofun) ?_
  refine .ite (.bind fun interfaces => spares_record _) ?_
  refine .ite (.bind fun path => spares_record _) ?_
  refine .ite (.bind fun pattern => spares_record _) ?_
  refine .ite (.bind fun pattern => spares_record _) ?_
  refine .ite (spares_answer _) ?_
  refine .ite (c.spares_invokeFound s receiver args) ?_
  refine .ite (.bind fun transformation => .ite nofun (spares_error _)) ?_
  refine .ite (spares_invokeRegistry s m args _) ?_
  refine .ite (spares_invokeRegistry s m args _) ?_
  refine .ite (.bind fun v => nofun) ?_
  refine .ite (spares_answer _) ?_
  refine .ite (.bind fun class_ => spares_answer _) ?_
  refine .ite (.bind fun declaringClass => spares_answer _) ?_
  refine .ite (.bind fun class_ => .bind fun name => .bind fun params => spares_answer _) ?_
  refine .ite (.bind fun class_ => .bind fun constructorClass => spares_record _) ?_
  exact .ite (.bind fun class_ => .bind fun objectClass => spares_record _) (spares_error _)

/-- Adding needs a list and a value; then it cannot fail. -/
theorem respond_add (named : m.named listAdd.owner listAdd.name = true) :
    c.respond s m receiver args = (do
      let cell ← receiverAs s "a list receiver" Value.asList? receiver
      return .append cell (← argument s args 0)) := by
  obtain ⟨owner, name, params, returns⟩ := m
  simp only [MethodRef.named, Bool.and_eq_true, beq_iff_eq] at named
  obtain ⟨rfl, rfl⟩ := named
  rfl

end Catalogue

theorem Store.elements_append (s : Store) (v : Value) {list cell : Nat} (made : cell < s.cells.size) :
    (s.append list v).elements cell = s.elements cell ++ if list = cell then [v] else [] := by
  unfold append
  split
  · next same =>
    subst same
    exact elements_write_self s _ made
  · next other => rw [elements_write_of_ne s _ other, List.append_nil]

namespace Recorder

/-- What comes of a call that adds to no list: nothing, or one event at most and new cells. -/
theorem reply_of_spares {r : Response} (spares : r.Spares) (w : World Recorder) :
    (∃ f, reply r w = (.error f, w)) ∨ ∃ (v : Value) (noted : Option Event) (store : Store),
      w.store ≤ store ∧
        reply r w = (.ok v, ⟨⟨w.host.catalogue, w.host.events ++ noted.toList⟩, store⟩) := by
  rcases r with f | effect
  · exact .inl ⟨f, rfl⟩
  · right
    have unnoted : w.host.events ++ (none : Option Event).toList = w.host.events :=
      List.append_nil _
    cases effect with
    | answer v =>
      refine ⟨v, none, w.store, le_rfl, ?_⟩
      rw [unnoted]
      rfl
    | record event v => exact ⟨v, some event, w.store, le_rfl, rfl⟩
    | makeArray vs =>
      refine ⟨.array w.store.cells.size, none, _, w.store.le_alloc vs, ?_⟩
      rw [unnoted]
      rfl
    | makeList vs =>
      refine ⟨.list w.store.cells.size, none, _, w.store.le_alloc vs, ?_⟩
      rw [unnoted]
      rfl
    | append cell v => exact absurd rfl (spares cell v)

/-- A call either adds to a list, or its response leaves all cells as they are. -/
theorem ask_eq (q : Question) (w : World Recorder) :
    (∃ list v, q.addition? = some (list, v) ∧
      host.ask q w = (.ok (.bool true), { w with store := w.store.append list v })) ∨
    q.addition? = none ∧ ∃ r : Response, r.Spares ∧ host.ask q w = reply r w := by
  cases q with
  | loadClass name =>
    exact .inr ⟨rfl, _, Catalogue.spares_loadClass _ name, host_loadClass name w⟩
  | newInstance name =>
    exact .inr ⟨rfl, _, Catalogue.spares_newInstance _ name, host_newInstance name w⟩
  | invoke kind m receiver args =>
    have asked : host.ask (.invoke kind m receiver args) w =
      reply (w.host.catalogue.respond w.store m receiver args) w :=
        host_invoke w kind m receiver args
    cases named : m.named listAdd.owner listAdd.name with
    | false =>
      refine .inr ⟨?_, _, Catalogue.spares_respond _ _ _ _ _ named, asked⟩
      unfold Question.addition?
      split
      · next eq =>
        cases eq
        rw [named, if_neg Bool.false_ne_true]
      · rfl
    | true =>
      rw [Catalogue.respond_add _ _ _ _ _ named] at asked
      rcases receiver with _ | v
      · exact .inr ⟨rfl, _, Response.spares_error _, asked⟩
      cases v with
      | list cell =>
        rcases args with _ | ⟨x, rest⟩
        · exact .inr ⟨rfl, _, Response.spares_error _, asked⟩
        · exact .inl ⟨cell, x, if_pos named, asked⟩
      | _ => exact .inr ⟨rfl, _, Response.spares_error _, asked⟩

/-- A call that ends in a fault leaves the host and all arrays and lists as they were. A call that
is answered keeps the catalogue, notes one event at most behind those that are there, and changes no
array or list that is there, but for a list that it is asked to add to: this one has the value at
its end, and nothing is noted. To add a value to a list never fails. -/
theorem ask_isolated (q : Question) (w : World Recorder) :
    match host.ask q w with
    | (.error _, after) => after = w ∧ q.addition? = none
    | (.ok answer, after) =>
      after.host.catalogue = w.host.catalogue ∧
      (∃ noted : Option Event, after.host.events = w.host.events ++ noted.toList ∧
        (q.addition? = none ∨ noted = none ∧ answer = .bool true)) ∧
      w.store.cells.size ≤ after.store.cells.size ∧
      ∀ cell < w.store.cells.size,
        after.store.elements cell = w.store.elements cell ++ q.addedTo cell := by
  rcases ask_eq q w with ⟨list, v, adds, asked⟩ | ⟨idle, r, spares, asked⟩
  · rw [asked]
    refine ⟨rfl, ⟨none, (List.append_nil _).symm, .inr ⟨rfl, rfl⟩⟩, ?_, fun cell made => ?_⟩
    · exact (Store.size_write ..).ge
    · rw [Question.addedTo, adds]
      exact w.store.elements_append v made
  · rcases reply_of_spares spares w with ⟨f, done⟩ | ⟨v, noted, store, le, done⟩
    · rw [asked, done]
      exact ⟨rfl, idle⟩
    · rw [asked, done]
      refine ⟨rfl, ⟨noted, rfl, .inl idle⟩, le.1, fun cell made => ?_⟩
      rw [Question.addedTo, idle, List.append_nil]
      exact le.2 cell made

end Recorder
end Registrar
