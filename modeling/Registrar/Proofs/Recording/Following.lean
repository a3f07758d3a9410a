import Registrar.Proofs.Recording.Answering
import Registrar.Proofs.Recording.Scene
import Registrar.Proofs.Running.Action
import Mathlib.Data.List.Forall2
import Mathlib.Order.Nat

/-! Actions on a recording host against walks. An action follows a walk if on the host it comes to the
same end, makes the host note the events of the walk, and keeps the arrays that were there before.
If the walk meets the name of the unit, the action gets stuck. -/
namespace Registrar

variable {α β γ δ : Type}

namespace Store

/-- A later store of the same run has all cells of the earlier one. -/
instance : Preorder Store where
  le s t := s.cells.size ≤ t.cells.size ∧ ∀ cell < s.cells.size, t.elements cell = s.elements cell
  le_refl s := ⟨le_rfl, fun _ _ => rfl⟩
  le_trans s t u h g := ⟨h.1.trans g.1, fun cell lt =>
    (g.2 cell (lt.trans_le h.1)).trans (h.2 cell lt)⟩

theorem le_alloc (s : Store) (xs : List Value) : s ≤ (s.alloc xs).2 :=
  ⟨by simp [alloc], fun _ lt => elements_alloc_of_lt s xs lt⟩

/-- A cell that was made behind the base may be written to. -/
theorem le_write {base s : Store} (le : base ≤ s) {cell : Nat} (behind : base.cells.size ≤ cell)
    (xs : List Value) : base ≤ s.write cell xs :=
  ⟨by simpa using le.1, fun other lt =>
    (elements_write_of_ne s xs (by omega)).trans (le.2 other lt)⟩

/-- The value is an array of these elements. -/
def Holds (s : Store) (a : Value) (xs : List Value) : Prop :=
  ∃ cell < s.cells.size, a = .array cell ∧ s.elements cell = xs

theorem Holds.mono {s t : Store} {a : Value} {xs : List Value} (h : s.Holds a xs) (le : s ≤ t) :
    t.Holds a xs := by
  obtain ⟨cell, lt, rfl, held⟩ := h
  exact ⟨cell, lt.trans_le le.1, rfl, (le.2 cell lt).trans held⟩

theorem Holds.elements? {s : Store} {a : Value} {xs : List Value} (h : s.Holds a xs) :
    s.elements? a = some xs := by
  obtain ⟨cell, -, rfl, held⟩ := h
  rw [Store.elements?, held]

theorem holds_alloc (s : Store) (xs : List Value) :
    (s.alloc xs).2.Holds (.array s.cells.size) xs :=
  ⟨_, by simp [alloc], rfl, elements_alloc_self s xs⟩

/-- The value is a list of these elements, which was made behind the base. -/
def Collects (base s : Store) (l : Value) (xs : List Value) : Prop :=
  ∃ cell < s.cells.size, base.cells.size ≤ cell ∧ l = .list cell ∧ s.elements cell = xs

theorem Collects.mono {base s t : Store} {l : Value} {xs : List Value} (h : base.Collects s l xs)
    (le : s ≤ t) : base.Collects t l xs := by
  obtain ⟨cell, lt, behind, rfl, held⟩ := h
  exact ⟨cell, lt.trans_le le.1, behind, rfl, (le.2 cell lt).trans held⟩

theorem collects_alloc (s : Store) (xs : List Value) :
    s.Collects (s.alloc xs).2 (.list s.cells.size) xs :=
  ⟨_, by simp [alloc], le_rfl, rfl, elements_alloc_self s xs⟩

end Store

namespace Scene

/-- How actions of the unit take place on the recording host. -/
def setting (scene : Scene) : Setting Recorder := ⟨Recorder.host, scene.self⟩

/-- A world in which the host has this catalogue. -/
def world (scene : Scene) (events : List Event) (s : Store) : World Recorder :=
  ⟨⟨scene.catalogue, events⟩, s⟩

end Scene

/-- From a store on, the action comes to the end of the walk and has its events noted. It keeps what
an earlier store had, the base, and the results are related in the store that it ends with. -/
def Follows (scene : Scene) (base : Store) (d : Action Recorder α) (x : Walk β) (s : Store)
    (R : Store → α → β → Prop) : Prop :=
  ∀ es, (x.Meets scene.self ∧ ∃ w, d (scene.world es s) = (.error .stuck, w)) ∨
    ¬x.Meets scene.self ∧ ∃ t, base ≤ t ∧ match x.result with
      | .ok b => ∃ a, d (scene.world es s) = (.ok a, scene.world (es ++ x.events) t) ∧ R t a b
      | .error f => d (scene.world es s) = (.error (.fault f), scene.world (es ++ x.events) t)

namespace Follows

/-- Nothing is said of the results. -/
def unrelated : Store → α → β → Prop := fun _ _ _ => True

variable {scene : Scene} {base s : Store} {R : Store → α → β → Prop} {S : Store → γ → δ → Prop}
  {d : Action Recorder α} {x : Walk β} {g : α → Action Recorder γ} {f : β → Walk δ}

theorem done {a : α} {b : β} (le : base ≤ s) (h : R s a b) :
    Follows scene base (pure a) (pure b) s R := by
  intro es
  refine .inr ⟨Walk.not_meets_pure, s, le, a, ?_, h⟩
  rw [pure_apply, Walk.events_pure, List.append_nil]

/-- The base may be an earlier one, and the relation one that follows from all that is known at the
end: the store, and the result of the walk. -/
theorem conseq {base' : Store} {R' : Store → α → β → Prop} (h : Follows scene base d x s R)
    (le : base' ≤ base)
    (imp : ∀ t a b, base ≤ t → x.result = .ok b → R t a b → R' t a b) :
    Follows scene base' d x s R' := by
  intro es
  rcases h es with stuck | ⟨apart, t, keep, ran⟩
  · exact .inl stuck
  · refine .inr ⟨apart, t, le.trans keep, ?_⟩
    cases result : x.result with
    | error e => simpa only [result] using ran
    | ok b =>
      simp only [result] at ran
      obtain ⟨a, run, rel⟩ := ran
      exact ⟨a, run, imp t a b keep result rel⟩

theorem mono {R' : Store → α → β → Prop} (h : Follows scene base d x s R)
    (imp : ∀ t a b, R t a b → R' t a b) : Follows scene base d x s R' :=
  h.conseq le_rfl fun t a b _ _ rel => imp t a b rel

/-- The result is the one that the walk ends with. -/
theorem known (h : Follows scene base d x s R) :
    Follows scene base d x s fun t a b => x.result = .ok b ∧ R t a b :=
  h.conseq le_rfl fun _ _ _ _ result rel => ⟨result, rel⟩

theorem within (le : base ≤ s) (h : Follows scene s d x s R) :
    Follows scene base d x s fun t a b => s ≤ t ∧ R t a b :=
  h.conseq le fun _ _ _ keep _ rel => ⟨keep, rel⟩

theorem bind_within (hx : Follows scene base d x s R)
    (hf : ∀ t a b, base ≤ t → R t a b → Follows scene base (g a) (f b) t S) :
    Follows scene base (d >>= g) (x >>= f) s S := by
  intro es
  -- The second part goes on from the events of the first, if the first comes to its end.
  rcases hx es with ⟨meets, w, stuck⟩ | ⟨apart, t, keep, ran⟩
  · exact .inl ⟨Walk.meets_bind.2 (.inl meets), w, bind_apply_of_error stuck _⟩
  · cases result : x.result with
    | error e =>
      simp only [result] at ran
      refine .inr ⟨?_, t, keep, ?_⟩
      · rw [Walk.meets_bind, not_or]
        exact ⟨apart, by simp [result]⟩
      · simp only [Walk.result_bind, Walk.events_bind, result, Except.bind, List.append_nil]
        exact bind_apply_of_error ran _
    | ok b =>
      simp only [result] at ran
      obtain ⟨a, run, rel⟩ := ran
      have events : (x >>= f).events = x.events ++ (f b).events := by
        rw [Walk.events_bind, result]
      have ends : (x >>= f).result = (f b).result := by
        rw [Walk.result_bind, result]
        rfl
      have meets : (x >>= f).Meets scene.self ↔ (f b).Meets scene.self := by
        simp [Walk.meets_bind, apart, result]
      rw [bind_apply_of_ok run, events, ends, meets, ← List.append_assoc]
      exact hf t a b keep rel (es ++ x.events)

/-- Actions one after the other follow walks one after the other. -/
theorem bind (le : base ≤ s) (hx : Follows scene s d x s R)
    (hf : ∀ t a b, s ≤ t → R t a b → Follows scene base (g a) (f b) t S) :
    Follows scene base (d >>= g) (x >>= f) s S :=
  bind_within (hx.within le) fun t a b _ rel => hf t a b rel.1 rel.2

theorem last (le : base ≤ s) (hx : Follows scene s d x s R) : Follows scene base d x s R :=
  (hx.within le).mono fun _ _ _ rel => rel.2

/-- A last step that the walk has no counterpart of. -/
theorem then_silent {S : Store → γ → β → Prop} (hx : Follows scene base d x s R)
    (hf : ∀ t a b, base ≤ t → R t a b → Follows scene base (g a) (pure b : Walk β) t S) :
    Follows scene base (d >>= g) x s S := by
  have whole : Follows scene base (d >>= g) (x >>= pure) s S := bind_within hx hf
  rwa [Walk.bind_pure] at whole

/-- What is made of the result in the end. -/
theorem map {S : Store → γ → β → Prop} (h : Follows scene base d x s R) (k : α → γ)
    (imp : ∀ t a b, R t a b → S t (k a) b) :
    Follows scene base (d >>= fun a => pure (k a)) x s S :=
  h.then_silent fun t a b le rel => done le (imp t a b rel)

theorem forget (h : Follows scene base d x s R) : Follows scene base (discard d) x s unrelated :=
  h.map (fun _ => ()) fun _ _ _ _ => trivial

/-- A step of the action that the walk has no counterpart of. -/
theorem silent {b : β} {e : Walk δ} (le : base ≤ s)
    (hx : Follows scene s d (pure b) s R)
    (hf : ∀ t a, s ≤ t → R t a b → Follows scene base (g a) e t S) :
    Follows scene base (d >>= g) e s S := by
  have given : Follows scene s d (pure b) s fun t a _ => R t a b := by
    refine hx.conseq le_rfl fun t a c _ result rel => ?_
    cases result
    exact rel
  have whole : Follows scene base (d >>= g) (pure b >>= fun _ => e) s S :=
    bind le given fun t a _ keep rel => hf t a keep rel
  exact whole

/-- A step that may be left out. -/
theorem optional {condition : Bool} {d' : Action Recorder Unit} {x' : Walk Unit}
    {rest : Action Recorder Unit} {more : Walk Unit} (le : base ≤ s)
    (hx : Follows scene s d' x' s unrelated)
    (hf : ∀ t, s ≤ t → Follows scene base rest more t unrelated) :
    Follows scene base (if condition then d' >>= fun _ => rest else rest)
      (if condition then x' >>= fun _ => more else more) s unrelated := by
  cases condition
  · exact hf s le_rfl
  · exact bind le hx fun t _ _ keep _ => hf t keep

/-- A category that is left out if nothing is declared for it. -/
theorem category {empty : Bool} {d : Action Recorder Unit} {x : Walk Unit}
    (h : Follows scene s d x s unrelated) :
    Follows scene s (unless empty do d) (unless empty do x) s unrelated := by
  cases empty
  · exact h
  · exact done le_rfl trivial

/-! ### Regions and loops -/

/-- Handling a fault never fails on this host. -/
theorem handle (onFault : OnFault) (f : Fault) (es : List Event) :
    scene.setting.handle onFault f (scene.world es s) =
      (.ok (), scene.world (es ++ Walk.caught onFault f) s) := by
  cases onFault with
  | report => rfl
  | drop => rw [Walk.caught, List.append_nil]; rfl

theorem isolated {d : Action Recorder Unit} {x : Walk Unit} (onFault : OnFault)
    (h : Follows scene base d x s unrelated) :
    Follows scene base (scene.setting.isolated onFault d) (x.isolated onFault) s unrelated := by
  intro es
  rw [Walk.meets_isolated]
  rcases h es with ⟨meets, w, stuck⟩ | ⟨apart, t, keep, ran⟩
  · exact .inl ⟨meets, w, Setting.isolated_of_stuck stuck⟩
  · refine .inr ⟨apart, t, keep, (), ?_, trivial⟩
    cases result : x.result with
    | error f =>
      simp only [result] at ran
      rw [Setting.isolated_of_fault ran, handle]
      simp [Walk.isolated, result]
    | ok b =>
      simp only [result] at ran
      obtain ⟨a, run, -⟩ := ran
      rw [Setting.isolated_of_ok run]
      simp [Walk.isolated, result]

/-- What is known of the store that a region ends with if its body comes to an end. -/
theorem isolated_of_ok {d : Action Recorder Unit} {x : Walk Unit} {P : Store → Prop}
    (onFault : OnFault) (ok : x.result = .ok ()) (h : Follows scene base d x s fun t _ _ => P t) :
    Follows scene base (scene.setting.isolated onFault d) (x.isolated onFault) s
      fun t _ _ => P t := by
  intro es
  have events : (x.isolated onFault).events = x.events := by
    simp only [Walk.isolated, ok, List.append_nil]
  rw [Walk.meets_isolated, events, Walk.result_isolated]
  rcases h es with ⟨meets, w, stuck⟩ | ⟨apart, t, keep, ran⟩
  · exact .inl ⟨meets, w, Setting.isolated_of_stuck stuck⟩
  · simp only [ok] at ran
    obtain ⟨a, run, held⟩ := ran
    exact .inr ⟨apart, t, keep, (), Setting.isolated_of_ok run, held⟩

section

variable {ι κ : Type}

theorem forM₂ {as : List ι} {bs : List κ} {g : ι → Action Recorder Unit} {f : κ → Walk Unit}
    (h : List.Forall₂ (fun a b => ∀ t, base ≤ t → Follows scene t (g a) (f b) t unrelated) as bs)
    (le : base ≤ s) : Follows scene s (as.forM g) (bs.forM f) s unrelated := by
  induction h generalizing s with
  | nil => exact done le_rfl trivial
  | cons first _ ih =>
    refine bind le_rfl (first s le) fun t _ _ keep _ => ?_
    exact (ih (le.trans keep)).last keep

theorem forM (as : List ι) {g : ι → Action Recorder Unit} {f : ι → Walk Unit}
    (h : ∀ a ∈ as, ∀ t, s ≤ t → Follows scene t (g a) (f a) t unrelated) :
    Follows scene s (as.forM g) (as.forM f) s unrelated :=
  forM₂ (List.forall₂_same.2 h) le_rfl

/-- A loop that collects values which the items tell. -/
theorem mapM (as : List ι) {g : ι → Action Recorder Value} {f : ι → Walk Unit} (v : ι → Value)
    (h : ∀ a t, Follows scene t (g a) (f a) t fun _ x _ => x = v a) :
    Follows scene s (as.mapM g) (as.forM f) s fun _ xs _ => xs = as.map v := by
  induction as generalizing s with
  | nil => exact done le_rfl rfl
  | cons a as ih =>
    rw [List.mapM_cons]
    refine bind le_rfl (h a s) fun t x _ keep found => ?_
    subst found
    exact (ih.last keep).map (v a :: ·) fun _ _ _ rest => by rw [rest, List.map_cons]

end

/-! ### Answers of the host -/

section

variable {question : World Recorder → Reply Recorder} {v : Value} {fault : Fault} {e : Event}

/-- The host answers and notes nothing. -/
theorem ask_answer (h : ∀ es, question (scene.world es s) =
      Recorder.reply (Response.answer v) (scene.world es s)) :
    Follows scene s (Action.ask question) (pure ()) s fun _ a _ => a = v := by
  intro es
  refine .inr ⟨Walk.not_meets_pure, s, le_rfl, v, ?_, rfl⟩
  simp only [Action.ask, h]
  simp [Recorder.reply, Response.answer, Recorder.apply]

theorem ask_fault {R : Store → Value → β → Prop} (h : ∀ es, question (scene.world es s) =
      Recorder.reply (.error fault) (scene.world es s)) :
    Follows scene s (Action.ask question) (Walk.stop fault : Walk β) s R := by
  intro es
  refine .inr ⟨Walk.not_meets_stop, s, le_rfl, ?_⟩
  simp only [Action.ask, h, Walk.result_stop]
  simp [Recorder.reply]

/-- The host notes an event. -/
theorem ask_record (h : ∀ es, question (scene.world es s) =
      Recorder.reply (.ok (.record e v)) (scene.world es s)) :
    Follows scene s (Action.ask question) (Walk.note e) s unrelated := by
  intro es
  refine .inr ⟨Walk.not_meets_note, s, le_rfl, v, ?_, trivial⟩
  simp only [Action.ask, h]
  rfl

/-- The host makes an array. -/
theorem ask_array {xs : List Value} (h : ∀ es, question (scene.world es s) =
      Recorder.reply (.ok (.makeArray xs)) (scene.world es s)) :
    Follows scene s (Action.ask question) (pure ()) s fun t a _ => t.Holds a xs := by
  intro es
  refine .inr ⟨Walk.not_meets_pure, _, s.le_alloc xs, _, ?_, s.holds_alloc xs⟩
  simp only [Action.ask, h, Walk.events_pure, List.append_nil]
  rfl

/-- The host makes a list. -/
theorem ask_list {xs : List Value} (h : ∀ es, question (scene.world es s) =
      Recorder.reply (.ok (.makeList xs)) (scene.world es s)) :
    Follows scene s (Action.ask question) (pure ()) s fun t a _ => s.Collects t a xs := by
  intro es
  refine .inr ⟨Walk.not_meets_pure, _, s.le_alloc xs, _, ?_, s.collects_alloc xs⟩
  simp only [Action.ask, h, Walk.events_pure, List.append_nil]
  rfl

/-- The host notes an event if it finds something, or else throws. -/
theorem ask_noted {found : Bool} (h : ∀ es, question (scene.world es s) =
      Recorder.reply (if found then .ok (.record e v) else .error fault) (scene.world es s)) :
    Follows scene s (Action.ask question) (do Walk.demand found fault; Walk.note e) s
      unrelated := by
  cases found
  · exact ask_fault h
  · exact ask_record h

/-- The host answers if it finds something, or else throws. -/
theorem ask_demand {found : Bool} (h : ∀ es, question (scene.world es s) =
      Recorder.reply (if found then Response.answer v else .error fault) (scene.world es s)) :
    Follows scene s (Action.ask question) (Walk.demand found fault) s fun _ a _ => a = v := by
  cases found
  · exact ask_fault h
  · exact ask_answer h

end

/-- A new array that the action makes itself. -/
theorem newArray (xs : List Value) :
    Follows scene s (Action.newArray xs) (pure ()) s fun t a _ => t.Holds a xs := by
  intro es
  refine .inr ⟨Walk.not_meets_pure, _, s.le_alloc xs, _, ?_, s.holds_alloc xs⟩
  rw [Walk.events_pure, List.append_nil]
  rfl

section

variable {kind : InvokeKind} {m : MethodRef} {receiver : Option Value} {args : List Value}
  {v : Value} {e : Event} {fault : Fault} {found : Bool}

theorem call_answer (h : scene.catalogue.respond s m receiver args = Response.answer v) :
    Follows scene s (Action.ask (Recorder.host.invoke kind m receiver args)) (pure ()) s
      fun _ a _ => a = v :=
  ask_answer fun _ =>
    (Recorder.host_invoke ..).trans (congrArg (Recorder.reply · _) h)

theorem call_array {xs : List Value}
    (h : scene.catalogue.respond s m receiver args = .ok (.makeArray xs)) :
    Follows scene s (Action.ask (Recorder.host.invoke kind m receiver args)) (pure ()) s
      fun t a _ => t.Holds a xs :=
  ask_array fun _ =>
    (Recorder.host_invoke ..).trans (congrArg (Recorder.reply · _) h)

theorem call_demand (h : scene.catalogue.respond s m receiver args =
      if found then Response.answer v else .error fault) :
    Follows scene s (Action.ask (Recorder.host.invoke kind m receiver args))
      (Walk.demand found fault) s fun _ a _ => a = v :=
  ask_demand fun _ =>
    (Recorder.host_invoke ..).trans (congrArg (Recorder.reply · _) h)

theorem call_record (h : scene.catalogue.respond s m receiver args = Response.record e) :
    Follows scene s (discard (Action.ask (Recorder.host.invoke kind m receiver args)))
      (Walk.note e) s unrelated := by
  have asked : Follows scene s (Action.ask (Recorder.host.invoke kind m receiver args))
      (Walk.note e) s unrelated := ask_record fun _ =>
    (Recorder.host_invoke ..).trans (congrArg (Recorder.reply · _) h)
  exact asked.forget

theorem call_noted (h : scene.catalogue.respond s m receiver args =
      if found then .ok (.record e v) else .error fault) :
    Follows scene s (Action.ask (Recorder.host.invoke kind m receiver args))
      (do Walk.demand found fault; Walk.note e) s unrelated :=
  ask_noted fun _ =>
    (Recorder.host_invoke ..).trans (congrArg (Recorder.reply · _) h)

/-! ### Static calls -/

/-- A static call comes to nothing if the unit bears the name of the owner. -/
theorem callStatic {x : Walk β} {R : Store → Value → β → Prop}
    (platform : m ∈ Platform.methods)
    (h : Follows scene base (Action.ask (Recorder.host.invoke .static m none args)) x s R) :
    Follows scene base (scene.setting.callStatic m args) (do Walk.call m platform; x) s R := by
  intro es
  have meets : (do Walk.call m platform; x).Meets scene.self ↔
      m.owner = scene.self ∨ x.Meets scene.self := by
    rw [Walk.meets_bind, Walk.meets_call]
    simp
  have ends : (do Walk.call m platform; x).result = x.result := rfl
  have events : (do Walk.call m platform; x).events = x.events := rfl
  unfold Setting.callStatic
  by_cases own : m.owner = scene.self
  · refine .inl ⟨meets.2 (.inl own), scene.world es s, ?_⟩
    rw [if_pos (show m.owner = scene.setting.self from own)]
    rfl
  · rw [if_neg (show ¬m.owner = scene.setting.self from own), meets, ends, events]
    simp only [own, false_or]
    exact h es

theorem static_answer (platform : m ∈ Platform.methods)
    (h : scene.catalogue.respond s m none args = Response.answer v) :
    Follows scene s (scene.setting.callStatic m args) (Walk.call m platform) s
      fun _ a _ => a = v :=
  callStatic platform (call_answer h)

/-- A static call that registers something. -/
theorem static_record (platform : m ∈ Platform.methods)
    (h : scene.catalogue.respond s m none args = Response.record e) :
    Follows scene s (discard (scene.setting.callStatic m args)) (Scene.register m e platform) s
      unrelated := by
  have asked : Follows scene s (Action.ask (Recorder.host.invoke .static m none args))
      (Walk.note e) s unrelated := ask_record fun _ =>
    (Recorder.host_invoke ..).trans (congrArg (Recorder.reply · _) h)
  exact (callStatic platform asked).forget

end

end Follows
end Registrar
