import Registrar.Proofs.Running.Unit
import Mathlib.Order.Monotone.Defs

/-! Code that runs in two worlds. One of them may hold the arrays and lists of the other under other
numbers, with more of its own beside them, and its host may be in another state. As long as this
host answers as the other does, up to these numbers, all code does the same in both worlds. -/
namespace Registrar

variable {σ τ ε α β γ δ : Type}

namespace Value

/-- The value whose array or list is found under another number. -/
def mapCell (cell : Nat → Nat) : Value → Value
  | array n => .array (cell n)
  | list n => .list (cell n)
  | v => v

variable (cell : Nat → Nat)

@[simp] theorem mapCell_null : null.mapCell cell = null := rfl

@[simp] theorem mapCell_array (n : Nat) : (array n).mapCell cell = array (cell n) := rfl

@[simp] theorem mapCell_id : mapCell id = id := by
  funext v
  cases v <;> rfl

end Value

/-- The same end, with a value that may be found under another number. -/
def Outcome.mapCell (cell : Nat → Nat) : Outcome → Outcome
  | returned v => .returned (v.mapCell cell)
  | failed e => .failed e
  | exhausted => .exhausted

theorem Outcome.mapCell_eq_exhausted {cell : Nat → Nat} {o : Outcome} :
    o.mapCell cell = .exhausted ↔ o = .exhausted := by
  cases o <;> simp [mapCell]

/-- How one world is contained in another: the numbers of its cells, the store that they become a
part of, and the state that belongs to a state of its host. -/
structure Embedding (σ τ : Type) where
  cell : Nat → Nat
  store : Store → Store
  host : σ → τ
  strictMono : StrictMono cell
  alloc : ∀ s vs, (store s).alloc (vs.map (.mapCell cell)) =
    (cell s.cells.size, store (s.alloc vs).2)
  elements : ∀ s n, (store s).elements (cell n) = (s.elements n).map (.mapCell cell)
  write : ∀ s n vs, (store s).write (cell n) (vs.map (.mapCell cell)) = store (s.write n vs)

namespace Embedding

/-- The same cells, and a host in another state. -/
def ofHost (host : σ → τ) : Embedding σ τ where
  cell := id
  store := id
  host
  strictMono := strictMono_id
  alloc s vs := by
    rw [Value.mapCell_id, List.map_id]
    rfl
  elements s n := by
    rw [Value.mapCell_id, List.map_id]
    rfl
  write s n vs := by
    rw [Value.mapCell_id, List.map_id]
    rfl

section

variable (e : Embedding σ τ)

abbrev value : Value → Value := Value.mapCell e.cell

def world (w : World σ) : World τ := ⟨e.host w.host, e.store w.store⟩

@[simp] theorem world_store (w : World σ) : (e.world w).store = e.store w.store := rfl

theorem value_ofHost (host : σ → τ) : (ofHost host).value = id := Value.mapCell_id

theorem value_constant (c : Constant) : e.value c.value = c.value := by cases c <;> rfl

/-- From the frame `g`, the same is read as from `f`. They may have room for different slots. -/
structure Reads (f g : Frame) : Prop where
  routine : g.routine = f.routine
  args : g.args = f.args.map e.value
  get? : ∀ v, g.get? v = (f.get? v).map e.value

/-- The machine `n` stands in the larger world as `m` does in the smaller one. -/
structure Holds (m : Machine σ) (n : Machine τ) : Prop where
  frame : e.Reads m.frame n.frame
  world : n.world = e.world m.world

/-- In the larger world, `g` does what `f` does in the smaller one. -/
def Carries (f : World σ → Except ε Value × World σ) (g : World τ → Except ε Value × World τ) :
    Prop :=
  ∀ w, g (e.world w) = ((f w).1.map e.value, e.world (f w).2)

/-- If the cells have the same numbers, then the results are the same as well. -/
theorem carries_iff (same : e.value = id) {f : World σ → Except ε Value × World σ}
    {g : World τ → Except ε Value × World τ} :
    e.Carries f g ↔ ∀ w, g (e.world w) = ((f w).1, e.world (f w).2) := by
  simp only [Carries, same, Except.map_id, id]

/-- The hosts give the same answers. -/
structure Serves (host : Host σ) (host' : Host τ) : Prop where
  loadClass : ∀ name, e.Carries (host.loadClass name) (host'.loadClass name)
  newInstance : ∀ name, e.Carries (host.newInstance name) (host'.newInstance name)
  invoke : ∀ kind m receiver args, e.Carries (host.invoke kind m receiver args)
    (host'.invoke kind m (receiver.map e.value) (args.map e.value))

/-- All that is asked from outside of a routine is answered in the same way. -/
structure Fits (env : Context σ) (env' : Context τ) : Prop where
  self : env'.self = env.self
  serves : e.Serves env.host env'.host
  call : ∀ routine args, e.Carries (env.call routine args) (env'.call routine (args.map e.value))

/-- In the larger world, `z` does what `y` does in the smaller one; what comes of it may have to be
translated. -/
def Runs (φ : α → β) (y : Exec σ α) (z : Exec τ β) : Prop :=
  ∀ m n, e.Holds m n → (z n).1 = (y m).1.map φ ∧ e.Holds (y m).2 (z n).2

end

variable {e : Embedding σ τ}

namespace Reads

theorem refl (same : e.value = id) (f : Frame) : e.Reads f f where
  routine := rfl
  args := by rw [same, List.map_id]
  get? v := by rw [same, Option.map_id, id]

theorem set {f g : Frame} (h : e.Reads f g) (v : ValueId) (x : Value) :
    e.Reads (f.set v x) (g.set v (e.value x)) where
  routine := h.routine
  args := h.args
  get? u := by
    by_cases same : u = v
    · rw [same, Frame.get?_set_self, Frame.get?_set_self, Option.map_some]
    · rw [Frame.get?_set_of_ne f x same, Frame.get?_set_of_ne g _ same]
      exact h.get? u

/-- When a routine is entered, all slots are empty, however many there are. -/
theorem enter {r r' : Routine} (named : r'.name = r.name) (args : List Value) :
    e.Reads (.enter r args) (.enter r' (args.map e.value)) where
  routine := named
  args := rfl
  get? v := by
    have empty (r : Routine) (args : List Value) : (Frame.enter r args).get? v = none := by
      simp only [Frame.enter, Frame.get?, Array.getElem?_replicate]
      split <;> rfl
    rw [empty, empty, Option.map_none]

end Reads

namespace Runs

theorem of_ok {φ : α → β} {y : Exec σ α} {z : Exec τ β} (h : e.Runs φ y z) {m m' : Machine σ}
    {n : Machine τ} (holds : e.Holds m n) {a : α} (ran : y m = (.ok a, m')) :
    ∃ n', z n = (.ok (φ a), n') ∧ e.Holds m' n' := by
  have same := h m n holds
  rw [ran] at same
  exact ⟨(z n).2, Prod.ext same.1 rfl, same.2⟩

theorem of_error {φ : α → β} {y : Exec σ α} {z : Exec τ β} (h : e.Runs φ y z) {m m' : Machine σ}
    {n : Machine τ} (holds : e.Holds m n) {halt : Halt} (ran : y m = (.error halt, m')) :
    ∃ n', z n = (.error halt, n') ∧ e.Holds m' n' := by
  have same := h m n holds
  rw [ran] at same
  exact ⟨(z n).2, Prod.ext same.1 rfl, same.2⟩

theorem pure {φ : α → β} (a : α) : e.Runs φ (pure a) (pure (φ a)) :=
  fun _ _ holds => ⟨rfl, holds⟩

theorem bind {φ : α → β} {ψ : γ → δ} {y : Exec σ α} {z : Exec τ β} {f : α → Exec σ γ}
    {g : β → Exec τ δ} (first : e.Runs φ y z) (rest : ∀ a, e.Runs ψ (f a) (g (φ a))) :
    e.Runs ψ (y >>= f) (z >>= g) := by
  intro m n holds
  rcases ran : y m with ⟨halt | a, m'⟩
  · obtain ⟨n', ran', after⟩ := first.of_error holds ran
    rw [bind_apply_of_error ran, bind_apply_of_error ran']
    exact ⟨rfl, after⟩
  · obtain ⟨n', ran', after⟩ := first.of_ok holds ran
    rw [bind_apply_of_ok ran, bind_apply_of_ok ran']
    exact rest a m' n' after

theorem mapM {ι : Type} {φ : α → β} (is : List ι) {f : ι → Exec σ α} {g : ι → Exec τ β}
    (h : ∀ i, e.Runs φ (f i) (g i)) : e.Runs (List.map φ) (is.mapM f) (is.mapM g) := by
  induction is with
  | nil => exact pure []
  | cons i is ih =>
    rw [List.mapM_cons, List.mapM_cons]
    exact bind (h i) fun a => bind ih fun as => pure (a :: as)

theorem error {φ : α → β} (error : String → EvaluationError) :
    e.Runs φ (Exec.error error) (Exec.error error) := by
  intro m n holds
  refine ⟨?_, holds⟩
  change Except.error (Halt.error (error n.frame.routine)) =
    Except.error (Halt.error (error m.frame.routine))
  rw [holds.frame.routine]

theorem read (v : ValueId) : e.Runs e.value (Exec.read v) (Exec.read v) := by
  intro m n holds
  unfold Exec.read
  rw [holds.frame.get?]
  cases m.frame.get? v with
  | none => exact error _ m n holds
  | some x => exact ⟨rfl, holds⟩

theorem write (v : ValueId) (x : Value) :
    e.Runs id (Exec.write v x) (Exec.write v (e.value x)) :=
  fun _ _ holds => ⟨rfl, holds.frame.set v x, holds.world⟩

theorem readParam (index : UInt16) :
    e.Runs e.value (Exec.readParam index) (Exec.readParam index) := by
  intro m n holds
  unfold Exec.readParam
  rw [holds.frame.args, List.getElem?_map]
  cases m.frame.args[index.toNat]? with
  | none => exact error _ m n holds
  | some x => exact ⟨rfl, holds⟩

theorem ask {f : World σ → Reply σ} {g : World τ → Reply τ} (carries : e.Carries f g) :
    e.Runs e.value (Exec.ask f) (Exec.ask g) := by
  intro m n holds
  simp only [Exec.ask, holds.world, carries m.world]
  refine ⟨?_, holds.frame, rfl⟩
  cases (f m.world).1 <;> rfl

theorem newArray (length : UInt32) :
    e.Runs e.value (Exec.newArray length) (Exec.newArray length) := by
  intro m n holds
  have made := e.alloc m.world.store (List.replicate length.toNat .null)
  rw [List.map_replicate, Value.mapCell_null] at made
  simp only [Exec.newArray, holds.world, world_store]
  rw [made]
  exact ⟨rfl, holds.frame, rfl⟩

theorem storeAt (array : ValueId) (index : UInt32) (x : Value) :
    e.Runs id (Exec.storeAt array index x) (Exec.storeAt array index (e.value x)) := by
  refine bind (read array) fun a => ?_
  cases a with
  | array cell =>
    intro m n holds
    have stored := e.write m.world.store cell ((m.world.store.elements cell).set index.toNat x)
    rw [List.map_set] at stored
    simp only [Value.mapCell_array, holds.world, world_store, e.elements, List.length_map]
    split
    · rw [stored]
      exact ⟨rfl, holds.frame, rfl⟩
    · exact ⟨rfl, holds⟩
  | _ => exact error _

section

variable {env : Context σ} {env' : Context τ} (fits : e.Fits env env')

include fits

theorem call (routine : String) (args : List Value) :
    e.Runs e.value (Exec.call env routine args) (Exec.call env' routine (args.map e.value)) := by
  intro m n holds
  simp only [Exec.call, holds.world, fits.call routine args m.world]
  exact ⟨trivial, holds.frame, rfl⟩

theorem loadClass (name : String) :
    e.Runs e.value (Exec.loadClass env name) (Exec.loadClass env' name) := by
  unfold Exec.loadClass
  rw [fits.self]
  split
  · exact pure _
  · exact ask (fits.serves.loadClass name)

theorem invoke (kind : InvokeKind) (m : MethodRef) (receiver : Option ValueId)
    (args : List ValueId) :
    e.Runs e.value (Exec.invoke env kind m receiver args)
      (Exec.invoke env' kind m receiver args) := by
  refine bind (mapM args read) fun xs => ?_
  rw [fits.self]
  split
  · exact call fits m.name xs
  · refine bind (φ := Option.map e.value) ?_ fun y => ask (fits.serves.invoke kind m y xs)
    cases receiver with
    | none => exact pure none
    | some v =>
      rw [Option.mapM_some, Option.mapM_some, map_eq_pure_bind, map_eq_pure_bind]
      exact bind (read v) fun y => pure (some y)

end

/-- A region does the same if its body and its handler do: it ends in the same fault, which is caught
or not, or in no fault. -/
theorem isolate {env : Context σ} {env' : Context τ} {body handler : Block}
    (tried : e.Runs (Option.map e.value) (Block.exec env body) (Block.exec env' body))
    (handled : e.Runs (Option.map e.value) (Block.exec env handler) (Block.exec env' handler))
    (exceptionType : String) (caught : ValueId) :
    e.Runs (Option.map e.value)
      (Instruction.exec env (.isolate body exceptionType caught handler))
      (Instruction.exec env' (.isolate body exceptionType caught handler)) := by
  intro m n holds
  rcases ran : Block.exec env body m with ⟨r, m'⟩
  by_cases fault : ∃ f, r = .error (.fault f)
  · obtain ⟨f, rfl⟩ := fault
    obtain ⟨n', ran', after⟩ := tried.of_error holds ran
    rw [Instruction.exec, Instruction.exec]
    simp only [ran, ran']
    split
    · exact bind (write caught (.throwable f)) (fun _ => handled) m' n' after
    · exact ⟨rfl, after⟩
  · have same := tried m n holds
    rcases ran' : Block.exec env' body n with ⟨r', n'⟩
    rw [ran, ran'] at same
    obtain ⟨rfl, after⟩ := same
    have ne : ∀ f, r ≠ .error (.fault f) := fun f same => fault ⟨f, same⟩
    have ne' : ∀ f, r.map (Option.map e.value) ≠ .error (.fault f) := by
      intro f same
      cases r with
      | error halt =>
        cases same
        exact ne f rfl
      | ok x => cases same
    rw [Instruction.exec_isolate_of_ne ran ne, Instruction.exec_isolate_of_ne ran' ne']
    exact ⟨rfl, after⟩

end Runs
end Embedding

open Embedding.Runs in
mutual

theorem Instruction.exec_embedded {e : Embedding σ τ} {env : Context σ} {env' : Context τ}
    (fits : e.Fits env env') : (i : Instruction) →
      e.Runs (Option.map e.value) (Instruction.exec env i) (Instruction.exec env' i)
  | .const dest c => by
    rw [Instruction.exec, Instruction.exec]
    have written := write (e := e) dest c.value
    rw [e.value_constant] at written
    exact bind written fun _ => pure none
  | .loadClass dest name => by
    rw [Instruction.exec, Instruction.exec]
    exact bind (loadClass fits name) fun x => bind (write dest x) fun _ => pure none
  | .param dest index => by
    rw [Instruction.exec, Instruction.exec]
    exact bind (readParam index) fun x => bind (write dest x) fun _ => pure none
  | .invoke dest kind m receiver args => by
    rw [Instruction.exec, Instruction.exec]
    exact bind (invoke fits kind m receiver args) fun x => bind (write dest x) fun _ => pure none
  | .newInstance dest name => by
    rw [Instruction.exec, Instruction.exec]
    exact bind (ask (fits.serves.newInstance name)) fun x => bind (write dest x) fun _ => pure none
  | .newArray dest _ length => by
    rw [Instruction.exec, Instruction.exec]
    exact bind (newArray length) fun x => bind (write dest x) fun _ => pure none
  | .store array index v => by
    rw [Instruction.exec, Instruction.exec]
    exact bind (read v) fun x => bind (storeAt array index x) fun _ => pure none
  | .declare dest _ => by
    rw [Instruction.exec, Instruction.exec]
    exact bind (write dest .null) fun _ => pure none
  | .assign target v => by
    rw [Instruction.exec, Instruction.exec]
    exact bind (read v) fun x => bind (write target x) fun _ => pure none
  | .branch condition onTrue onFalse => by
    rw [Instruction.exec, Instruction.exec]
    refine bind (read condition) fun x => ?_
    cases x with
    | bool b =>
      cases b with
      | true => exact Block.exec_embedded fits onTrue
      | false => exact Block.exec_embedded fits onFalse
    | _ => exact error _
  | .isolate body exceptionType caught handler =>
    isolate (Block.exec_embedded fits body) (Block.exec_embedded fits handler) exceptionType caught
  | .leave none => by
    rw [Instruction.exec, Instruction.exec]
    exact pure _
  | .leave (some v) => by
    rw [Instruction.exec, Instruction.exec]
    exact bind (read v) fun x => pure (some x)

/-- Whatever the code is, it does the same. -/
theorem Block.exec_embedded {e : Embedding σ τ} {env : Context σ} {env' : Context τ}
    (fits : e.Fits env env') : (is : List Instruction) →
      e.Runs (Option.map e.value) (Block.exec env is) (Block.exec env' is)
  | [] => by
    rw [Block.exec, Block.exec]
    exact pure none
  | i :: is => by
    rw [Block.exec, Block.exec]
    refine bind (Instruction.exec_embedded fits i) fun x => ?_
    cases x with
    | none => exact Block.exec_embedded fits is
    | some x => exact pure (some x)

end

/-! ### Routines and units -/

variable {e : Embedding σ τ}

/-- The number of slots that a routine asks for does not matter. -/
theorem Context.run_embedded {env : Context σ} {env' : Context τ} (fits : e.Fits env env')
    {r r' : Routine} (named : r'.name = r.name) (body : r'.body = r.body) (args : List Value) :
    e.Carries (env.run r args) (env'.run r' (args.map e.value)) := by
  intro w
  have entered : e.Holds ⟨.enter r args, w⟩ ⟨.enter r' (args.map e.value), e.world w⟩ :=
    ⟨.enter named args, rfl⟩
  have same := Block.exec_embedded fits r.body _ _ entered
  unfold Context.run
  rw [body]
  rcases ran : Block.exec env r.body ⟨.enter r args, w⟩ with ⟨result, m⟩
  rcases ran' : Block.exec env' r.body ⟨.enter r' (args.map e.value), e.world w⟩ with ⟨result', n⟩
  rw [ran, ran'] at same
  obtain ⟨rfl, after⟩ := same
  refine Prod.ext ?_ after.world
  rcases result with halt | _ | x <;> rfl

namespace CodeUnit

variable {host : Host σ} {host' : Host τ} (serves : e.Serves host host') (u : CodeUnit)

include serves

/-- Induction on the depth: own routines are called one level further down. -/
theorem call_embedded (depth : Nat) (name : String) (args : List Value) :
    e.Carries (u.call host depth name args) (u.call host' depth name (args.map e.value)) := by
  induction depth generalizing name args with
  | zero => exact fun _ => rfl
  | succ depth ih =>
    cases found : u.routine? name with
    | none =>
      intro w
      rw [call, call, found]
      rfl
    | some r =>
      have fits : e.Fits (u.context host depth) (u.context host' depth) := ⟨rfl, serves, ih⟩
      rw [call_of_found host depth found, call_of_found host' depth found]
      exact Context.run_embedded fits rfl rfl args

theorem run_embedded (depth : Nat) (name : String) (args : List Value) (w : World σ) :
    u.run host' depth name (args.map e.value) (e.world w) =
      ((u.run host depth name args w).1.mapCell e.cell,
        e.world (u.run host depth name args w).2) := by
  unfold run
  rw [call_embedded serves u depth name args w]
  rcases u.call host depth name args w with ⟨(f | error | _) | x, w'⟩ <;> rfl

end CodeUnit

/-! ### Behind the cells of another store -/

namespace Store

/-- The store with all cells of another in front of its own. -/
def behind (s old : Store) : Store where
  cells := old.cells ++ s.cells.map (List.map (.mapCell (old.cells.size + ·)))

variable (s old : Store)

theorem elements_behind (n : Nat) : (s.behind old).elements (old.cells.size + n) =
    (s.elements n).map (.mapCell (old.cells.size + ·)) := by
  simp only [behind, elements, Array.getElem?_append_right (Nat.le_add_right ..),
    Nat.add_sub_cancel_left, Array.getElem?_map]
  cases s.cells[n]? <;> rfl

theorem alloc_behind (vs : List Value) :
    (s.behind old).alloc (vs.map (.mapCell (old.cells.size + ·))) =
      (old.cells.size + s.cells.size, (s.alloc vs).2.behind old) := by
  simp [behind, alloc]

theorem write_behind (n : Nat) (vs : List Value) :
    (s.behind old).write (old.cells.size + n) (vs.map (.mapCell (old.cells.size + ·))) =
      (s.write n vs).behind old := by
  simp only [behind, write, Store.mk.injEq]
  rw [Array.setIfInBounds_append_right (Nat.le_add_right ..), Nat.add_sub_cancel_left,
    Array.map_setIfInBounds]

end Store

/-- The same cells behind those of an old store. -/
def Embedding.behind (old : Store) (host : σ → τ) : Embedding σ τ where
  cell n := old.cells.size + n
  store s := s.behind old
  host
  strictMono _ _ h := Nat.add_lt_add_left h _
  alloc s vs := s.alloc_behind old vs
  elements s n := s.elements_behind old n
  write s n vs := s.write_behind old n vs

end Registrar
