import Registrar.Proofs.Recording.Answering
import Registrar.Proofs.Running.Depth
import Registrar.Proofs.Running.Embedding
import Mathlib.Order.Monotone.Basic

/-! Runs on a recording host that was used before. What the host has noted, and the arrays and lists
that earlier runs have made, are never looked at: a run does what it would do on a new host, and
leaves all of them as they are. -/
namespace Registrar

open Platform

variable {σ τ α β γ δ : Type}

namespace Embedding

variable (e : Embedding σ τ) (s : Store)

/-! ### Values in fault texts -/

theorem size_store : (e.store s).cells.size = e.cell s.cells.size :=
  congrArg Prod.fst (e.alloc s [])

theorem elements?_value (v : Value) :
    (e.store s).elements? (e.value v) = (s.elements? v).map (List.map e.value) := by
  cases v with
  | array n => exact congrArg some (e.elements s n)
  | list n => exact congrArg some (e.elements s n)
  | _ => rfl

/-- Induction on the cells that are shown: inside a cell there is one less. -/
theorem describeAmong_value (v : Value) {cells cells' : List Nat}
    (shown : ∀ n, e.cell n ∈ cells' ↔ n ∈ cells) :
    (e.value v).describeAmong (e.store s) cells' = v.describeAmong s cells := by
  -- A cell that is shown is left out of what is shown inside of it, so that the cells get fewer.
  induction length : cells.length using Nat.strong_induction_on generalizing v cells cells' with
  | _ length ih =>
    have cell (n : Nat) : Value.describeCell (e.store s) cells' (e.cell n) =
        Value.describeCell s cells n := by
      rw [Value.describeCell, Value.describeCell]
      by_cases listed : n ∈ cells
      · rw [if_pos listed, if_pos ((shown n).2 listed), e.elements, List.map_map]
        have fewer : (cells.filter (· ≠ n)).length < cells.length :=
          List.length_filter_lt_length_iff_exists.2 ⟨n, listed, by simp⟩
        have rest : ∀ m, e.cell m ∈ cells'.filter (· ≠ e.cell n) ↔ m ∈ cells.filter (· ≠ n) := by
          intro m
          simp [shown, e.strictMono.injective.eq_iff]
        have inner (x : Value) :
            (e.value x).describeAmong (e.store s) (cells'.filter (· ≠ e.cell n)) =
              x.describeAmong s (cells.filter (· ≠ n)) :=
          ih _ (length ▸ fewer) x rest rfl
        simp only [Function.comp_def, inner]
      · rw [if_neg listed, if_neg (mt (shown n).1 listed)]
    cases v <;> simp only [Value.mapCell, Value.describeAmong, cell]

theorem describe_value (v : Value) : (e.value v).describe (e.store s) = v.describe s := by
  apply e.describeAmong_value s v
  intro n
  rw [List.mem_range, List.mem_range, e.size_store]
  exact e.strictMono.lt_iff_lt

theorem unexpected_value (expected : String) (found : Option Value) :
    unexpected (e.store s) expected (found.map e.value) = unexpected s expected found := by
  cases found with
  | none => rfl
  | some v =>
    have same : describeOption (e.store s) (some (e.value v)) = describeOption s (some v) := by
      rw [describeOption, describeOption, describe_value]
    rw [Option.map_some, unexpected, unexpected, same]

end Embedding

/-! ### Arguments -/

/-- The same result up to a translation, or the same fault. -/
def Translates (φ : α → β) (x : Except Fault α) (x' : Except Fault β) : Prop := x' = x.map φ

namespace Translates

theorem bind {φ : α → β} {ψ : γ → δ} {x : Except Fault α} {x' : Except Fault β}
    {f : α → Except Fault γ} {g : β → Except Fault δ} (first : Translates φ x x')
    (rest : ∀ a, Translates ψ (f a) (g (φ a))) : Translates ψ (x >>= f) (x' >>= g) := by
  cases first
  cases x with
  | error f => rfl
  | ok a => exact rest a

theorem ite {φ : α → β} {x y : Except Fault α} {x' y' : Except Fault β} {p : Prop} [Decidable p]
    (onTrue : Translates φ x x') (onFalse : Translates φ y y') :
    Translates φ (if p then x else y) (if p then x' else y') := by
  split
  · exact onTrue
  · exact onFalse

theorem mapM {φ : α → β} {ψ : γ → δ} {f : α → Except Fault γ} {g : β → Except Fault δ}
    (h : ∀ a, Translates ψ (f a) (g (φ a))) (as : List α) :
    Translates (List.map ψ) (as.mapM f) ((as.map φ).mapM g) := by
  induction as with
  | nil => rfl
  | cons a as ih =>
    rw [List.map_cons, List.mapM_cons, List.mapM_cons]
    exact bind (h a) fun c => bind ih fun cs => rfl

end Translates

namespace Embedding

variable (e : Embedding σ τ) (s : Store)

section

variable {view : Value → Option α} {view' : Value → Option β} {φ : α → β}

theorem expect_value (same : ∀ v, view' (e.value v) = (view v).map φ) (expected : String)
    (v : Value) :
    Translates φ (expect s expected view v) (expect (e.store s) expected view' (e.value v)) := by
  unfold expect
  rw [same]
  cases view v with
  | none => exact congrArg Except.error (e.unexpected_value s expected (some v))
  | some a => rfl

theorem receiverAs_value (same : ∀ v, view' (e.value v) = (view v).map φ) (expected : String)
    (receiver : Option Value) :
    Translates φ (receiverAs s expected view receiver)
      (receiverAs (e.store s) expected view' (receiver.map e.value)) := by
  unfold receiverAs
  rw [e.unexpected_value]
  cases receiver with
  | none => rfl
  | some v =>
    rw [Option.map_some, Option.bind_some, Option.bind_some, same]
    cases view v <;> rfl

end

/-- A view that shows no cells shows the same. -/
theorem view_value {view : Value → Option α} (array : ∀ n, view (.array n) = none)
    (list : ∀ n, view (.list n) = none) (v : Value) : view (e.value v) = (view v).map id := by
  rw [Option.map_id_apply]
  cases v with
  | array n => exact (array _).trans (array n).symm
  | list n => exact (list _).trans (list n).symm
  | _ => rfl

theorem asClass?_value (v : Value) : (e.value v).asClass? = v.asClass?.map id :=
  e.view_value (fun _ => rfl) (fun _ => rfl) v

theorem asStr?_value (v : Value) : (e.value v).asStr? = v.asStr?.map id :=
  e.view_value (fun _ => rfl) (fun _ => rfl) v

theorem asBool?_value (v : Value) : (e.value v).asBool? = v.asBool?.map id :=
  e.view_value (fun _ => rfl) (fun _ => rfl) v

theorem asMember?_value (v : Value) : (e.value v).asMember? = v.asMember?.map id :=
  e.view_value (fun _ => rfl) (fun _ => rfl) v

theorem bind_value {view : Value → Option α} (same : ∀ v, view (e.value v) = (view v).map id)
    (x : Option Value) : (x.map e.value).bind view = x.bind view := by
  cases x with
  | none => rfl
  | some v => exact (same v).trans (Option.map_id_apply ..)

variable (args : List Value) (index : Nat)

theorem argument_value :
    Translates e.value (argument s args index) (argument (e.store s) (args.map e.value) index) := by
  unfold argument
  rw [List.getElem?_map]
  cases args[index]? with
  | none => exact congrArg Except.error (e.unexpected_value s _ none)
  | some v => rfl

theorem stringArgument_value : Translates id (stringArgument s args index)
    (stringArgument (e.store s) (args.map e.value) index) :=
  .bind (e.argument_value s args index) (e.expect_value s e.asStr?_value _)

theorem boolArgument_value : Translates id (boolArgument s args index)
    (boolArgument (e.store s) (args.map e.value) index) :=
  .bind (e.argument_value s args index) (e.expect_value s e.asBool?_value _)

theorem classArgument_value : Translates id (classArgument s args index)
    (classArgument (e.store s) (args.map e.value) index) :=
  .bind (e.argument_value s args index) (e.expect_value s e.asClass?_value _)

theorem elementsArgument_value : Translates (List.map e.value) (elementsArgument s args index)
    (elementsArgument (e.store s) (args.map e.value) index) :=
  .bind (e.argument_value s args index) (e.expect_value s (e.elements?_value s) _)

theorem classesArgument_value : Translates id (classesArgument s args index)
    (classesArgument (e.store s) (args.map e.value) index) := by
  rw [← List.map_id_fun]
  exact .bind (e.elementsArgument_value s args index)
    (Translates.mapM (e.expect_value s e.asClass?_value _))

theorem membersArgument_value : Translates id (membersArgument s args index)
    (membersArgument (e.store s) (args.map e.value) index) := by
  rw [← List.map_id_fun]
  exact .bind (e.elementsArgument_value s args index)
    (Translates.mapM (e.expect_value s e.asMember?_value _))

theorem bundleName_value (passed : List Value) :
    Translates id (bundleName s passed) (bundleName (e.store s) (passed.map e.value)) := by
  unfold bundleName
  rw [List.head?_map, e.bind_value e.asStr?_value, e.unexpected_value]
  cases passed.head?.bind Value.asStr? <;> rfl

/-! ### Responses -/

/-- The same effect on the cells that belong to these. -/
def effect : Effect → Effect
  | .answer v => .answer (e.value v)
  | .record event v => .record event (e.value v)
  | .makeArray vs => .makeArray (vs.map e.value)
  | .makeList vs => .makeList (vs.map e.value)
  | .append n v => .append (e.cell n) (e.value v)

/-- The response to the same call in the larger world. -/
abbrev Responds (r r' : Response) : Prop := Translates e.effect r r'

theorem responds_members (ms : List Member) :
    e.Responds (Response.members ms) (Response.members ms) := by
  have same : (ms.map Value.member).map e.value = ms.map Value.member := List.map_map
  exact congrArg (fun vs => Except.ok (Effect.makeArray vs)) same.symm

variable (c : Catalogue) (m : MethodRef) (receiver : Option Value)

theorem responds_loadClass (name : String) : e.Responds (c.loadClass name) (c.loadClass name) :=
  .ite rfl rfl

theorem responds_newInstance (name : String) :
    e.Responds (c.newInstance name) (c.newInstance name) :=
  .ite rfl (.ite rfl rfl)

theorem hosted_value : Translates id (c.hosted s receiver)
    (c.hosted (e.store s) (receiver.map e.value)) :=
  .bind (e.receiverAs_value s e.asClass?_value "a class receiver" receiver) fun _ => rfl

theorem responds_invokeClass : e.Responds (c.invokeClass s m receiver args)
    (c.invokeClass (e.store s) m (receiver.map e.value) (args.map e.value)) := by
  have hosted := e.hosted_value s c receiver
  unfold Catalogue.invokeClass
  rw [e.bind_value e.asClass?_value]
  split
  · exact .bind (e.stringArgument_value s args 0) fun name => e.responds_loadClass c name
  · rfl
  · exact .bind hosted fun h => e.responds_members _
  · exact .bind hosted fun h => e.responds_members _
  · exact .bind hosted fun h => e.responds_members _
  · exact .bind (e.classesArgument_value s args 0) fun params => .bind hosted fun h => .ite rfl rfl
  · exact .bind (e.stringArgument_value s args 0) fun sought =>
      .bind (e.classesArgument_value s args 1) fun params => .bind hosted fun h => .ite rfl rfl
  · exact .bind (e.stringArgument_value s args 0) fun sought => .bind hosted fun h => .ite rfl rfl
  · exact .bind hosted fun h => rfl
  · rfl

theorem responds_invokeRegistry (registry : Registry) :
    e.Responds (Catalogue.invokeRegistry s registry m args)
      (Catalogue.invokeRegistry (e.store s) registry m (args.map e.value)) := by
  unfold Catalogue.invokeRegistry
  refine .ite (.bind (e.classesArgument_value s args 0) fun _ => rfl) ?_
  refine .ite (.bind (e.membersArgument_value s args 0) fun _ => rfl) ?_
  refine .ite (.bind (e.boolArgument_value s args 0) fun _ =>
    .bind (e.boolArgument_value s args 1) fun _ =>
    .bind (e.membersArgument_value s args 2) fun _ => rfl) ?_
  refine .ite (.bind (e.boolArgument_value s args 0) fun _ =>
    .bind (e.membersArgument_value s args 1) fun _ => rfl) ?_
  exact .ite (.bind (e.membersArgument_value s args 0) fun _ => rfl) rfl

theorem responds_invokeFound : e.Responds (c.invokeFound s receiver args)
    (c.invokeFound (e.store s) (receiver.map e.value) (args.map e.value)) := by
  unfold Catalogue.invokeFound
  refine .bind (e.receiverAs_value s (e.view_value (fun _ => rfl) fun _ => rfl) _ _) fun found => ?_
  refine .ite (.bind (e.elementsArgument_value s args 1) fun passed => ?_) (.ite rfl rfl)
  exact .bind (e.bundleName_value s passed) fun bundle => .ite rfl rfl

theorem responds_lookup : e.Responds (c.lookup s args)
    (c.lookup (e.store s) (args.map e.value)) :=
  .bind (e.classArgument_value s args 0) fun _ => .ite rfl rfl

theorem filterMap_value {view : Value → Option α} (same : ∀ v, view (e.value v) = (view v).map id)
    (vs : List Value) : (vs.map e.value).filterMap view = vs.filterMap view := by
  rw [List.filterMap_map]
  congr 1
  funext v
  exact (same v).trans (Option.map_id_apply ..)

theorem responds_initializeAtRunTime : e.Responds (Catalogue.initializeAtRunTime s m args)
    (Catalogue.initializeAtRunTime (e.store s) m (args.map e.value)) := by
  unfold Catalogue.initializeAtRunTime
  refine .bind (e.elementsArgument_value s args 0) fun values => ?_
  rw [e.filterMap_value e.asStr?_value, e.filterMap_value e.asClass?_value]
  exact .ite rfl rfl

theorem responds_getCipher : e.Responds (c.getCipher s args)
    (c.getCipher (e.store s) (args.map e.value)) :=
  .bind (e.stringArgument_value s args 0) fun _ => .ite rfl rfl

theorem responds_isAbstract : e.Responds (Catalogue.isAbstract s args)
    (Catalogue.isAbstract (e.store s) (args.map e.value)) := by
  refine .bind (.bind (e.argument_value s args 0) ?_) fun word => rfl
  exact e.expect_value s (e.view_value (fun _ => rfl) fun _ => rfl) _

/-- One case for each method, in the order in which they are told apart. -/
theorem responds_respond : e.Responds (c.respond s m receiver args)
    (c.respond (e.store s) m (receiver.map e.value) (args.map e.value)) := by
  have ofString (event : String → Event) : e.Responds
      (do Response.record (event (← stringArgument s args 0)))
      (do Response.record (event (← stringArgument (e.store s) (args.map e.value) 0))) :=
    .bind (e.stringArgument_value s args 0) fun _ => rfl
  have ofTwoClasses (event : String → String → Event) : e.Responds
      (do Response.record (event (← classArgument s args 0) (← classArgument s args 1)))
      (do Response.record (event (← classArgument (e.store s) (args.map e.value) 0)
        (← classArgument (e.store s) (args.map e.value) 1))) :=
    .bind (e.classArgument_value s args 0) fun _ =>
      .bind (e.classArgument_value s args 1) fun _ => rfl
  have list : Translates e.cell (receiverAs s "a list receiver" Value.asList? receiver)
      (receiverAs (e.store s) "a list receiver" Value.asList? (receiver.map e.value)) :=
    e.receiverAs_value s (fun v => by cases v <;> rfl) _ _
  unfold Catalogue.respond
  refine .ite (e.responds_invokeClass s args c m receiver) ?_
  refine .ite rfl ?_
  refine .ite rfl ?_
  refine .ite (e.responds_isAbstract s args) ?_
  refine .ite (.bind (e.receiverAs_value s (e.view_value (fun _ => rfl) fun _ => rfl) _ _)
    fun f => rfl) ?_
  refine .ite (e.responds_lookup s args c) ?_
  refine .ite (.bind (.bind (e.argument_value s args 0)
    (e.expect_value s (e.view_value (fun _ => rfl) fun _ => rfl) _)) fun field => rfl) ?_
  refine .ite (e.responds_initializeAtRunTime s args m) ?_
  refine .ite (.bind (e.classArgument_value s args 0) fun class_ =>
    .bind (e.stringArgument_value s args 1) fun originator => rfl) ?_
  refine .ite (.bind list fun n => .bind (e.argument_value s args 0) fun v => rfl) ?_
  refine .ite (.bind list fun n => ?_) ?_
  · exact congrArg (fun vs => Except.ok (Effect.makeArray vs)) (e.elements s n)
  refine .ite (.bind (e.classesArgument_value s args 0) fun interfaces => rfl) ?_
  refine .ite (ofString _) ?_
  refine .ite (ofString _) ?_
  refine .ite (ofString _) ?_
  refine .ite rfl ?_
  refine .ite (e.responds_invokeFound s args c receiver) ?_
  refine .ite (e.responds_getCipher s args c) ?_
  refine .ite (e.responds_invokeRegistry s args m _) ?_
  refine .ite (e.responds_invokeRegistry s args m _) ?_
  refine .ite (.bind (e.argument_value s args 0) fun v => rfl) ?_
  refine .ite rfl ?_
  refine .ite (.bind (e.classArgument_value s args 0) fun class_ => rfl) ?_
  refine .ite (.bind (e.receiverAs_value s (e.view_value (fun _ => rfl) fun _ => rfl) _ _)
    fun class_ => rfl) ?_
  refine .ite (.bind (e.classArgument_value s args 0) fun class_ =>
    .bind (e.stringArgument_value s args 1) fun name =>
    .bind (e.classesArgument_value s args 2) fun params => rfl) ?_
  exact .ite (ofTwoClasses _) (.ite (ofTwoClasses _) rfl)

end Embedding

/-! ### Recorders that have noted something before -/

namespace Recorder

/-- Asks a recorder with this catalogue and these events; only the events are handed back. -/
def consult (c : Catalogue) (question : World Recorder → Reply Recorder) (w : World (List Event)) :
    Reply (List Event) :=
  let (answer, x) := question ⟨⟨c, w.host⟩, w.store⟩
  (answer, ⟨x.host.events, x.store⟩)

/-- A host with a fixed catalogue. Events are all that there is to its state. -/
def noting (c : Catalogue) : Host (List Event) where
  loadClass name := consult c (host.loadClass name)
  newInstance name := consult c (host.newInstance name)
  invoke kind m receiver args := consult c (host.invoke kind m receiver args)

/-- The recorder with this catalogue that has noted other events before, and that shares other
arrays and lists as well. -/
def later (c : Catalogue) (log : List Event) (old : Store) : Embedding (List Event) Recorder :=
  .behind old fun events => ⟨c, log ++ events⟩

variable (c : Catalogue) (log : List Event) (old : Store)

theorem apply_later (effect : Effect) (w : World (List Event)) :
    let done := apply ⟨⟨c, w.host⟩, w.store⟩ effect
    apply ((later c log old).world w) ((later c log old).effect effect) =
      ((later c log old).value done.1,
        (later c log old).world ⟨done.2.host.events, done.2.store⟩) := by
  have made (vs : List Value) := (later c log old).alloc w.store vs
  cases effect with
  | answer v => rfl
  | record event v =>
    simp only [apply, Embedding.effect, Embedding.world, later, Embedding.behind, List.append_assoc]
  | makeArray vs =>
    simp only [apply, Embedding.effect, Embedding.world_store, made]
    rfl
  | makeList vs =>
    simp only [apply, Embedding.effect, Embedding.world_store, made]
    rfl
  | append n v =>
    have written := (later c log old).write w.store n (w.store.elements n ++ [v])
    rw [List.map_append, ← (later c log old).elements] at written
    simp only [apply, Embedding.effect, Embedding.world_store, Store.append]
    rw [← List.map_singleton, written]
    rfl

theorem later_carries {question question' : World Recorder → Reply Recorder}
    {response response' : World Recorder → Response}
    (answers : ∀ w, question w = reply (response w) w)
    (answers' : ∀ w, question' w = reply (response' w) w)
    (responds : ∀ w : World (List Event), (later c log old).Responds
      (response ⟨⟨c, w.host⟩, w.store⟩) (response' ((later c log old).world w))) :
    (later c log old).Carries (consult c question) question' := by
  intro w
  have same := responds w
  simp only [consult, answers, answers', Translates] at same ⊢
  rw [same]
  cases response ⟨⟨c, w.host⟩, w.store⟩ with
  | error f => rfl
  | ok effect =>
    have done := apply_later c log old effect w
    simp only [reply, Except.map, done]

/-- What a recorder has noted does not show in its answers, and its catalogue stays as it is. -/
theorem later_serves : (later c log old).Serves (noting c) host where
  loadClass name := later_carries c log old (host_loadClass name) (host_loadClass name) fun _ =>
    (later c log old).responds_loadClass c name
  newInstance name :=
    later_carries c log old (host_newInstance name) (host_newInstance name) fun _ =>
      (later c log old).responds_newInstance c name
  invoke kind m receiver args :=
    later_carries c log old (fun w => host_invoke w kind m receiver args)
      (fun w => host_invoke w kind m _ _) fun w =>
      (later c log old).responds_respond w.store args c m receiver

end Recorder

/-! ### Runs one after the other -/

/-- What is done with a host: units are run on it, and its events are taken. -/
inductive HostUse where
  | run (u : CodeUnit) (depth : Nat)
  | take

namespace CodeUnit

variable (u : CodeUnit) (depth : Nat)

/-- Runs the entry point of a unit, whose routines may call each other to this depth. -/
def runEntryPointTo (w : World Recorder) : Outcome × World Recorder :=
  u.run Recorder.host depth entryPointHead.name [.object beforeAnalysisAccessType] w

example : u.runEntryPoint = u.runEntryPointTo callDepth := rfl

/-- The run on a host with this catalogue that nothing was done with before. -/
def firstRun (c : Catalogue) : Outcome × World (List Event) :=
  u.run (Recorder.noting c) depth entryPointHead.name [.object beforeAnalysisAccessType] ⟨[], {}⟩

/-- Every run is the first one, behind all that was there. -/
theorem runEntryPointTo_eq (c : Catalogue) (log : List Event) (old : Store) :
    u.runEntryPointTo depth ⟨⟨c, log⟩, old⟩ =
      ((u.firstRun depth c).1.mapCell (old.cells.size + ·),
        ⟨⟨c, log ++ (u.firstRun depth c).2.host⟩, (u.firstRun depth c).2.store.behind old⟩) := by
  have start : (Recorder.later c log old).world ⟨[], {}⟩ = ⟨⟨c, log⟩, old⟩ := by
    simp [Embedding.world, Recorder.later, Embedding.behind, Store.behind]
  have ran := run_embedded (Recorder.later_serves c log old) u depth entryPointHead.name
    [.object beforeAnalysisAccessType] ⟨[], {}⟩
  rw [start] at ran
  exact ran

end CodeUnit

namespace HostUse

def apply (w : World Recorder) : HostUse → World Recorder
  | run u depth => (u.runEntryPointTo depth w).2
  | take => { w with host.events := [] }

theorem catalogue_apply (w : World Recorder) (use : HostUse) :
    (use.apply w).host.catalogue = w.host.catalogue := by
  cases use with
  | run u depth => rw [apply, CodeUnit.runEntryPointTo_eq]
  | take => rfl

theorem catalogue_foldl (w : World Recorder) (uses : List HostUse) :
    (uses.foldl apply w).host.catalogue = w.host.catalogue := by
  induction uses generalizing w with
  | nil => rfl
  | cons use uses ih =>
    rw [List.foldl_cons, ih]
    exact catalogue_apply w use

end HostUse

/-- Whatever was done with a host before, and whatever events it has noted, a run of the entry point
has the same outcome, notes the same events behind those that are there, and changes neither the
catalogue nor any array or list of an earlier run. Values are the same up to the numbers of the
arrays and lists that the run makes, which come behind all others. If the run ends at all, then it
does not matter how deep its routines may call each other, as long as this depth is enough. -/
theorem CodeUnit.runs_repeat (u : CodeUnit) (depth : Nat) (c : Catalogue) :
    ∃ (o : Outcome) (made : Store) (events : List Event),
      ∀ (log : List Event) (old : Store) (uses : List HostUse) (more : Nat),
        let w := uses.foldl HostUse.apply ⟨⟨c, log⟩, old⟩
        w.host.catalogue = c ∧
        u.runEntryPointTo depth w = (o.mapCell (w.store.cells.size + ·),
          ⟨⟨c, w.host.events ++ events⟩, made.behind w.store⟩) ∧
        (o = .exhausted ∨ u.runEntryPointTo (depth + more) w = u.runEntryPointTo depth w) := by
  refine ⟨(u.firstRun depth c).1, (u.firstRun depth c).2.store, (u.firstRun depth c).2.host, ?_⟩
  intro log old uses more w
  have kept : w.host.catalogue = c := HostUse.catalogue_foldl ⟨⟨c, log⟩, old⟩ uses
  have ran : u.runEntryPointTo depth w = _ :=
    u.runEntryPointTo_eq depth w.host.catalogue w.host.events w.store
  rw [kept] at ran
  refine ⟨kept, ran, ?_⟩
  rcases u.run_add Recorder.host depth more entryPointHead.name _ w with exhausted | same
  · left
    change (u.runEntryPointTo depth w).1 = .exhausted at exhausted
    rw [ran] at exhausted
    exact Outcome.mapCell_eq_exhausted.1 exhausted
  · exact .inr same

end Registrar
