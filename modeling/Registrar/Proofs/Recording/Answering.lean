import Registrar.Proofs.Recording.Response

/-! The steps of a call come to its response. Whatever a call looks at, it looks at before it does
anything; then it does one thing at most, and does not fault any more. -/
namespace Registrar

open Platform

namespace HostStep

variable {α β : Type} {w : World Recorder}

/-- In this world the step finds something out or faults, and leaves the world as it is. -/
def Looks (w : World Recorder) (x : HostStep α) (r : Except Fault α) : Prop := x.run.run w = (r, w)

/-- In this world the step comes to the response. -/
def Answers (w : World Recorder) (x : HostStep Value) (r : Response) : Prop :=
  x.reply w = Recorder.reply r w

theorem Looks.bind {x : HostStep α} {r : Except Fault α} {next : α → HostStep β}
    {f : α → Except Fault β} (first : Looks w x r) (rest : ∀ a, Looks w (next a) (f a)) :
    Looks w (x >>= next) (r >>= f) := by
  unfold Looks at first ⊢
  rw [ExceptT.run_bind, StateT.run_bind, first]
  cases r with
  | error f => rfl
  | ok a => exact rest a

theorem looks_decode (view : Store → Except Fault α) : Looks w (decode view) (view w.store) := by
  have got : Looks w get (.ok w) := rfl
  refine got.bind (f := fun w' => view w'.store) fun w' => ?_
  cases view w'.store with
  | error f => rfl
  | ok a => rfl

namespace Answers

theorem bind {x : HostStep α} {r : Except Fault α} {next : α → HostStep Value} {f : α → Response}
    (first : Looks w x r) (rest : ∀ a, Answers w (next a) (f a)) :
    Answers w (x >>= next) (r >>= f) := by
  unfold Looks at first
  unfold Answers reply
  rw [ExceptT.run_bind, StateT.run_bind, first]
  cases r with
  | error f => rfl
  | ok a => exact rest a

theorem ite {p : Prop} [Decidable p] {x y : HostStep Value} {r r' : Response}
    (onTrue : Answers w x r) (onFalse : Answers w y r') :
    Answers w (if p then x else y) (if p then r else r') := by
  split
  · exact onTrue
  · exact onFalse

end Answers

variable (m : MethodRef) (receiver : Option Value) (args : List Value)

theorem answers_return (v : Value) : Answers w (pure v) (Response.answer v) := rfl

theorem answers_throw (f : Fault) : Answers w (throw f) (.error f) := rfl

theorem answers_record (event : Event) : Answers w (record event) (Response.record event) := rfl

theorem answers_makeMembers (ms : List Member) :
    Answers w (makeMembers ms) (Response.members ms) := rfl

theorem answers_loadClass (name : String) :
    Answers w (loadClass name) (w.host.catalogue.loadClass name) :=
  .ite (answers_return _) (answers_throw _)

theorem answers_newInstance (name : String) :
    Answers w (newInstance name) (w.host.catalogue.newInstance name) :=
  .ite rfl (.ite (answers_return _) (answers_throw _))

theorem looks_hosted :
    Looks w (hosted receiver) (w.host.catalogue.hosted w.store receiver) :=
  .bind (looks_decode _) fun _ => rfl

theorem answers_invokeClass :
    Answers w (invokeClass m receiver args)
      (w.host.catalogue.invokeClass w.store m receiver args) := by
  have hosted := looks_hosted (w := w) receiver
  unfold invokeClass Catalogue.invokeClass
  generalize m.name = name
  split
  · exact .bind (looks_decode _) fun name => answers_loadClass name
  · exact answers_return _
  · exact .bind hosted fun h => answers_makeMembers _
  · exact .bind hosted fun h => answers_makeMembers _
  · exact .bind hosted fun h => answers_makeMembers _
  · exact .bind (looks_decode _) fun params => .bind hosted fun h =>
      .ite (answers_return _) (answers_throw _)
  · exact .bind (looks_decode _) fun sought => .bind (looks_decode _) fun params =>
      .bind hosted fun h => .ite (answers_return _) (answers_throw _)
  · exact .bind (looks_decode _) fun sought => .bind hosted fun h =>
      .ite (answers_return _) (answers_throw _)
  · exact .bind hosted fun h => answers_return _
  · simp only [*]
    exact answers_throw _

theorem answers_invokeRegistry (registry : Registry) :
    Answers w (invokeRegistry registry m args)
      (Catalogue.invokeRegistry w.store registry m args) := by
  unfold invokeRegistry Catalogue.invokeRegistry
  refine .ite (.bind (looks_decode _) fun classes => answers_record _) ?_
  refine .ite (.bind (looks_decode _) fun members => answers_record _) ?_
  refine .ite (.bind (looks_decode _) fun writable => .bind (looks_decode _) fun serialization =>
    .bind (looks_decode _) fun fields => answers_record _) ?_
  refine .ite (.bind (looks_decode _) fun writable => .bind (looks_decode _) fun fields =>
    answers_record _) ?_
  exact .ite (.bind (looks_decode _) fun fields => answers_record _) (answers_throw _)

theorem answers_invokeFound :
    Answers w (invokeFound receiver args)
      (w.host.catalogue.invokeFound w.store receiver args) := by
  unfold invokeFound Catalogue.invokeFound
  refine .bind (looks_decode _) fun found => .ite (.bind (looks_decode _) fun passed => ?_)
    (.ite (answers_return _) (answers_return _))
  refine .bind (looks_decode _) fun bundle => ?_
  exact .ite (answers_record _) (answers_throw _)

theorem answers_lookup : Answers w (lookup args) (w.host.catalogue.lookup w.store args) :=
  .bind (looks_decode _) fun _ => .ite (answers_throw _) (answers_return _)

theorem answers_initializeAtRunTime :
    Answers w (initializeAtRunTime m args) (Catalogue.initializeAtRunTime w.store m args) :=
  .bind (looks_decode _) fun _ => .ite (answers_record _) (answers_record _)

theorem answers_getCipher : Answers w (getCipher args) (w.host.catalogue.getCipher w.store args) :=
  .bind (looks_decode _) fun _ => .ite rfl (answers_throw _)

/-- One case for each method, in the order in which they are told apart. -/
theorem answers_invoke :
    Answers w (invoke m receiver args) (w.host.catalogue.respond w.store m receiver args) := by
  unfold invoke Catalogue.respond
  refine .ite (answers_invokeClass m receiver args) ?_
  refine .ite (answers_return _) ?_
  refine .ite (answers_return _) ?_
  refine .ite (.bind (looks_decode _) fun word => answers_return _) ?_
  refine .ite (.bind (looks_decode _) fun fault => answers_record _) ?_
  refine .ite (answers_lookup args) ?_
  refine .ite (.bind (looks_decode _) fun field => answers_record _) ?_
  refine .ite (answers_initializeAtRunTime m args) ?_
  refine .ite (.bind (looks_decode _) fun class_ => .bind (looks_decode _) fun originator =>
    answers_record _) ?_
  refine .ite (.bind (looks_decode _) fun cell => .bind (looks_decode _) fun value => rfl) ?_
  refine .ite (.bind (looks_decode _) fun cell => rfl) ?_
  refine .ite (.bind (looks_decode _) fun interfaces => answers_record _) ?_
  refine .ite (.bind (looks_decode _) fun path => answers_record _) ?_
  refine .ite (.bind (looks_decode _) fun pattern => answers_record _) ?_
  refine .ite (.bind (looks_decode _) fun pattern => answers_record _) ?_
  refine .ite (answers_return _) ?_
  refine .ite (answers_invokeFound receiver args) ?_
  refine .ite (answers_getCipher args) ?_
  refine .ite (answers_invokeRegistry m args _) ?_
  refine .ite (answers_invokeRegistry m args _) ?_
  refine .ite (.bind (looks_decode _) fun value => rfl) ?_
  refine .ite (answers_return _) ?_
  refine .ite (.bind (looks_decode _) fun class_ => answers_return _) ?_
  refine .ite (.bind (looks_decode _) fun declaringClass => answers_return _) ?_
  refine .ite (.bind (looks_decode _) fun class_ => .bind (looks_decode _) fun name =>
    .bind (looks_decode _) fun params => answers_return _) ?_
  refine .ite (.bind (looks_decode _) fun class_ => .bind (looks_decode _) fun constructorClass =>
    answers_record _) ?_
  exact .ite (.bind (looks_decode _) fun class_ => .bind (looks_decode _) fun objectClass =>
    answers_record _) (answers_throw _)

end HostStep

/-! ### The host -/

namespace Recorder

variable (name : String) (w : World Recorder)

theorem host_loadClass : host.loadClass name w = reply (w.host.catalogue.loadClass name) w :=
  HostStep.answers_loadClass name

theorem host_newInstance : host.newInstance name w = reply (w.host.catalogue.newInstance name) w :=
  HostStep.answers_newInstance name

theorem host_invoke (kind : InvokeKind) (m : MethodRef) (receiver : Option Value)
    (args : List Value) : host.invoke kind m receiver args w =
      reply (w.host.catalogue.respond w.store m receiver args) w :=
  HostStep.answers_invoke m receiver args

end Recorder
end Registrar
