import Registrar.Proofs.Running.Emission

/-! What emitted instructions do when they run. An emission performs an action if its instructions
take the host through the same calls as the action, with the same outcome, and leave the slots as
they were that had been filled before. This goes through the ways in which emissions are put
together, so that a routine is followed piece by piece. -/
namespace Registrar

variable {σ : Type} {α β γ δ : Type}

namespace Emission

/-! ### Emissions and actions -/

/-- From a site on, the emitted instructions do what the action does. They keep what had been
filled at an earlier site, the base, and the results are related at the site that they end at. -/
def Performs (env : Context σ) (base : Site) (x : Emission α) (d : Action σ β) (s : Site)
    (R : Site → α → β → Prop) : Prop :=
  (x s.next).next ≤ UInt32.size → ∀ w,
    match d w with
    | (.ok b, w') => ∃ t, base ≤ t ∧ t.next = (x s.next).next ∧
        Block.exec env (x s.next).block ⟨s.frame, w⟩ = (.ok none, ⟨t.frame, w'⟩) ∧
        R t (x.value s.next) b
    | (.error e, w') => ∃ t h, base ≤ t ∧ t.next = (x s.next).next ∧ Halt.stop h = e ∧
        Block.exec env (x s.next).block ⟨s.frame, w⟩ = (.error h, ⟨t.frame, w'⟩)

/-- Nothing is said of the results. -/
def unrelated : Site → α → β → Prop := fun _ _ _ => True

/-- The slot of the result has been filled with the other result. -/
abbrev holding : Site → ValueId → Value → Prop := Site.Holds

namespace Performs

variable {env : Context σ} {base s : Site} {R : Site → α → β → Prop} {S : Site → γ → δ → Prop}
  {x : Emission α} {d : Action σ β} {f : α → Emission γ} {g : β → Action σ δ}

theorem done {a : α} {b : β} (le : base ≤ s) (h : R s a b) :
    Performs env base (pure a) (pure b) s R :=
  fun _ _ => ⟨s, le, rfl, rfl, h⟩

/-- The base may be an earlier one, and the relation one that follows from all that is known at the
end: the site, its number, and the result that the emission tells. -/
theorem conseq {base' : Site} {R' : Site → α → β → Prop} (h : Performs env base x d s R)
    (le : base' ≤ base)
    (imp : ∀ t b, base ≤ t → t.next = (x s.next).next → R t (x.value s.next) b →
      R' t (x.value s.next) b) : Performs env base' x d s R' := by
  intro fits w
  have ran := h fits w
  rcases hd : d w with ⟨e | b, w'⟩
  · simp only [hd] at ran ⊢
    obtain ⟨t, h, keep, rest⟩ := ran
    exact ⟨t, h, le.trans keep, rest⟩
  · simp only [hd] at ran ⊢
    obtain ⟨t, keep, next, exec, rel⟩ := ran
    exact ⟨t, le.trans keep, next, exec, imp t b keep next rel⟩

theorem mono {R' : Site → α → β → Prop} (h : Performs env base x d s R)
    (imp : ∀ t a b, R t a b → R' t a b) : Performs env base x d s R' :=
  h.conseq le_rfl fun t b _ _ rel => imp t _ b rel

/-- Which site is reached, and with which result, the emission tells. -/
theorem known (h : Performs env base x d s R) :
    Performs env base x d s fun t a b =>
      t.next = (x s.next).next ∧ a = x.value s.next ∧ R t a b :=
  h.conseq le_rfl fun _ _ _ next rel => ⟨next, rfl, rel⟩

/-- Instructions that keep all that is filled keep what had been filled before. -/
theorem within (le : base ≤ s) (h : Performs env s x d s R) :
    Performs env base x d s fun t a b => s ≤ t ∧ R t a b :=
  h.conseq le fun _ _ keep _ rel => ⟨keep, rel⟩

theorem bind_within (hx : Performs env base x d s R)
    (hf : ∀ t a b, base ≤ t → R t a b → Performs env base (f a) (g b) t S) :
    Performs env base (x >>= f) (d >>= g) s S := by
  intro fits w
  rw [Emit.next_bind] at fits ⊢
  have further := (f (x.value s.next)).le_next (x s.next).next
  have ran := hx (further.trans fits) w
  rcases hd : d w with ⟨e | b, w'⟩
  · simp only [hd] at ran
    obtain ⟨t, h, keep, next, stop, exec⟩ := ran
    rw [← next] at further
    rw [bind_apply_of_error hd, Emit.block_bind, ← next]
    exact ⟨⟨_, t.frame⟩, h, keep.trans (Site.le_advance further), rfl, stop,
      Block.exec_append_of_error exec⟩
  · simp only [hd] at ran
    obtain ⟨t, keep, next, exec, rel⟩ := ran
    have rest := hf t _ _ keep rel
    rw [bind_apply_of_ok hd, Emit.block_bind, Block.exec_append_of_ok exec, Emit.value_bind,
      ← next]
    exact rest (next ▸ fits) w'

/-- Emissions one behind the other perform the actions one behind the other. -/
theorem bind (le : base ≤ s) (hx : Performs env s x d s R)
    (hf : ∀ t a b, s ≤ t → R t a b → Performs env base (f a) (g b) t S) :
    Performs env base (x >>= f) (d >>= g) s S :=
  bind_within (hx.within le) fun t a b _ rel => hf t a b rel.1 rel.2

/-- An emission that the host does not notice. -/
theorem silent {b : β} {e : Action σ δ} (le : base ≤ s)
    (hx : Performs env s x (pure b : Action σ β) s R)
    (hf : ∀ t a, s ≤ t → R t a b → Performs env base (f a) e t S) :
    Performs env base (x >>= f) e s S := by
  have given : Performs env s x (pure b : Action σ β) s fun t a c => c = b ∧ R t a b := by
    intro fits w
    obtain ⟨t, keep, next, exec, rel⟩ := hx fits w
    exact ⟨t, keep, next, exec, rfl, rel⟩
  rw [← pure_bind b fun _ => e]
  exact bind le given fun t a _ keep rel => hf t a keep rel.2

/-- An emission at the end. -/
theorem last (le : base ≤ s) (hx : Performs env s x d s R) : Performs env base x d s R :=
  (hx.within le).mono fun _ _ _ rel => rel.2

theorem forget (h : Performs env base x d s R) :
    Performs env base (discard x) (discard d) s unrelated := by
  have ends : Performs env base (x >>= fun _ => pure ()) (d >>= fun _ => pure ()) s
      unrelated :=
    bind_within h fun t _ _ le _ => done le trivial
  exact ends

/-- A step that is taken only if a flag is set. -/
theorem optional {c : Bool} {x : Emission Unit} {d : Action σ Unit} {e : Emission γ}
    {r : Action σ δ} (le : base ≤ s) (hx : Performs env s x d s unrelated)
    (rest : ∀ t, s ≤ t → Performs env base e r t S) :
    Performs env base (if c then x >>= fun _ => e else e) (if c then d >>= fun _ => r else r) s
      S := by
  cases c
  · exact rest s le_rfl
  · exact bind le hx fun t _ _ keep _ => rest t keep

/-- A category that is left out if nothing is declared for it. -/
theorem category {empty : Bool} {x : Emission Unit} {d : Action σ Unit}
    (h : Performs env s x d s unrelated) :
    Performs env s (unless empty do x) (unless empty do d) s unrelated := by
  cases empty
  · exact h
  · exact done le_rfl trivial

/-! ### Single instructions -/

/-- An instruction that fills a new slot with what it finds out. -/
theorem fill {i : ValueId → Instruction} {y : Exec σ Value} {d : Action σ Value}
    (exec : ∀ dest, Instruction.exec env (i dest) = do Exec.write dest (← y); return none)
    (finds : Exec.Finds s.frame y d) : Performs env s (Emit.fill i) d s holding := by
  intro fits w
  have room : s.next < UInt32.size := fits
  have ran := finds w
  rcases hd : d w with ⟨e | b, w'⟩
  · simp only [hd] at ran
    obtain ⟨h, stop, found⟩ := ran
    refine ⟨_, h, Site.le_advance (Nat.le_succ _), rfl, stop, ?_⟩
    apply Block.exec_cons_of_error
    rw [exec, bind_apply_of_error found]
  · simp only [hd] at ran
    obtain ⟨keep, held⟩ := Site.holds_set room b
    refine ⟨_, keep, rfl, ?_, held⟩
    have filled : Instruction.exec env (i ⟨s.next.toUInt32⟩) ⟨s.frame, w⟩ =
        (.ok none, ⟨s.frame.set ⟨s.next.toUInt32⟩ b, w'⟩) := by
      rw [exec, bind_apply_of_ok ran]
      rfl
    rw [Emit.fill_run, Block.exec_cons_of_ok filled]
    rfl

theorem constant (c : Constant) : Performs env s (Emit.constant c) (pure c.value) s holding :=
  fill (y := pure c.value) (fun _ => rfl) fun _ => rfl

theorem bool (b : Bool) : Performs env s (Emit.bool b) (pure (.bool b) : Action σ Value) s holding :=
  constant (.bool b)

theorem str (t : String) : Performs env s (Emit.str t) (pure (.str t) : Action σ Value) s holding :=
  constant (.str t)

theorem param {index : UInt16} {y : Value} (passed : s.frame.args[index.toNat]? = some y) :
    Performs env s (Emit.param index) (pure y) s holding :=
  fill (fun dest => by rw [Instruction.exec]) fun w => by simp [Exec.readParam, passed, pure_apply]

theorem loadClass (name : String) :
    Performs env s (Emit.loadClass name) (env.setting.loadClass name) s holding :=
  fill (fun dest => by rw [Instruction.exec]) (Exec.loadClass_finds env s.frame name)

/-- The unit knows its own class. -/
theorem loadOwn {name : String} (own : name = env.self) :
    Performs env s (Emit.loadClass name) (pure (.classRef env.self)) s holding := by
  subst own
  have loaded : Performs env s (Emit.loadClass env.self) _ s holding := loadClass env.self
  rwa [Setting.loadClass, if_pos (show env.self = env.setting.self from rfl)] at loaded

theorem newInstance (name : String) :
    Performs env s (Emit.newInstance name) (env.setting.newInstance name) s holding :=
  fill (fun dest => by rw [Instruction.exec]) (Exec.ask_finds s.frame (env.host.newInstance name))

theorem newArray (component : String) (length : Nat) :
    Performs env s (Emit.newArray component length)
      (Action.newArray (List.replicate length.toUInt32.toNat .null)) s holding :=
  fill (fun dest => by rw [Instruction.exec]) (Exec.newArray_finds s.frame _)

theorem store {array v : ValueId} {a b : Value} (index : Nat) (array_held : s.Holds array a)
    (held : s.Holds v b) :
    Performs env s (Emit.store array index v) (Action.storeAt a index.toUInt32 b) s unrelated := by
  intro fits w
  have ran := Exec.storeAt_finds index.toUInt32 b array_held w
  have started : Instruction.exec env (.store array index.toUInt32 v) ⟨s.frame, w⟩ =
      (do Exec.storeAt array index.toUInt32 b; return none) ⟨s.frame, w⟩ := by
    rw [Instruction.exec, bind_apply_of_ok (Exec.read_apply held w)]
  rcases hd : Action.storeAt a index.toUInt32 b w with ⟨e | b, w'⟩
  · simp only [hd] at ran
    obtain ⟨h, stop, found⟩ := ran
    refine ⟨s, h, le_rfl, rfl, stop, ?_⟩
    apply Block.exec_cons_of_error
    rw [started, bind_apply_of_error found]
  · simp only [hd] at ran
    refine ⟨s, le_rfl, rfl, ?_, trivial⟩
    apply Block.exec_cons_of_ok
    rw [started, bind_apply_of_ok ran]
    rfl

/-! ### Calls -/

section

variable {m : MethodRef} {v : ValueId} {y : Value} {vs : List ValueId} {xs : List Value}

theorem callVirtual (receiver : s.Holds v y) (args : List.Forall₂ s.Holds vs xs) :
    Performs env s (Emit.invokeVirtual m v vs) (env.setting.callVirtual m y xs) s holding := by
  refine fill (fun dest => by rw [Instruction.exec]) (Exec.invoke_finds args ?_)
  rw [if_neg (fun h => by cases h.1)]
  exact Exec.ask_on_finds receiver fun y => env.host.invoke .virtual m y xs

theorem callInterface (receiver : s.Holds v y) (args : List.Forall₂ s.Holds vs xs) :
    Performs env s (Emit.invokeInterface m v vs) (env.setting.callInterface m y xs) s holding := by
  refine fill (fun dest => by rw [Instruction.exec]) (Exec.invoke_finds args ?_)
  rw [if_neg (fun h => by cases h.1)]
  exact Exec.ask_on_finds receiver fun y => env.host.invoke .interface m y xs

theorem callOwn {d : Action σ Value} (own : m.owner = env.self)
    (answers : env.Answers m.name xs d) (args : List.Forall₂ s.Holds vs xs) :
    Performs env s (Emit.invokeStatic m vs) d s holding := by
  refine fill (fun dest => by rw [Instruction.exec]) (Exec.invoke_finds args ?_)
  rw [if_pos ⟨rfl, own⟩]
  exact Exec.call_finds answers s.frame

theorem callStatic (hidden : env.Hides) (platform : m ∈ Platform.methods)
    (args : List.Forall₂ s.Holds vs xs) :
    Performs env s (Emit.invokeStatic m vs) (env.setting.callStatic m xs) s holding := by
  unfold Setting.callStatic
  by_cases own : m.owner = env.self
  · rw [if_pos (show m.owner = env.setting.self from own)]
    exact callOwn own (hidden m platform own xs) args
  · rw [if_neg (show ¬m.owner = env.setting.self from own)]
    refine fill (fun dest => by rw [Instruction.exec]) (Exec.invoke_finds args ?_)
    rw [if_neg (fun h => own h.2)]
    exact Exec.ask_finds s.frame (env.host.invoke .static m none xs)

end

/-! ### Regions -/

/-- Handling a caught fault. -/
theorem handle {caught : ValueId} {fault : Fault} (onFault : OnFault)
    (held : s.Holds caught (.throwable fault)) :
    Performs env s (Emission.handler onFault caught) (env.setting.handle onFault fault) s
      unrelated := by
  cases onFault with
  | report => exact (callVirtual held .nil).forget
  | drop => exact done le_rfl trivial

theorem isolated {body : Emission Unit} {d : Action σ Unit} (onFault : OnFault)
    (h : Performs env s body d s unrelated) :
    Performs env s (Emission.isolated onFault body) (env.setting.isolated onFault d) s
      unrelated := by
  intro fits w
  rw [Emission.isolated, Emit.next_isolate] at fits
  have further := (Emission.handler onFault ⟨(body s.next).next.toUInt32⟩).le_next
    ((body s.next).next + 1)
  rw [Emission.isolated, Emit.block_isolate, Emit.next_isolate, Block.exec_singleton]
  have ran := h (by omega) w
  rcases hd : d w with ⟨e | b, w'⟩
  · simp only [hd] at ran
    obtain ⟨t, h, keep, next, stop, exec⟩ := ran
    rw [← next] at fits further ⊢
    cases h with
    | fault f =>
      -- What the handler runs with: the slots of the body, and the fault in the next one.
      obtain ⟨keep', held⟩ := Site.holds_set (show t.next < UInt32.size by omega) (.throwable f)
      have handled : Performs env s _ _ _ unrelated :=
        (handle onFault held).last (keep.trans keep')
      have ended := handled fits w'
      rw [Setting.isolated_of_fault (stop ▸ hd), Instruction.exec_isolate_of_fault exec]
      exact ended
    | error | exhausted =>
      rw [Setting.isolated_of_stuck (stop ▸ hd),
        Instruction.exec_isolate_of_ne exec (fun _ e => by cases e)]
      exact ⟨⟨_, t.frame⟩, _, keep.trans (Site.le_advance (Nat.le_of_succ_le further)), rfl, rfl, rfl⟩
  · simp only [hd] at ran
    obtain ⟨t, keep, next, exec, -⟩ := ran
    rw [← next] at further ⊢
    rw [Setting.isolated_of_ok hd, Instruction.exec_isolate_of_ne exec (fun _ e => by cases e)]
    exact ⟨⟨_, t.frame⟩, keep.trans (Site.le_advance (Nat.le_of_succ_le further)), rfl, rfl, trivial⟩

theorem declare (typeName : String) :
    Performs env s (Emit.declare typeName) (pure Value.null) s fun t v _ =>
      s.next ≤ v.number.toNat ∧ v.number.toNat < t.next := by
  intro fits w
  have room : s.next < UInt32.size := fits
  have number : s.next.toUInt32.toNat = s.next := UInt32.toNat_ofNat_of_lt' room
  obtain ⟨keep, -⟩ := Site.holds_set room .null
  refine ⟨_, keep, rfl, ?_, by simp [Emit.declare, number]⟩
  apply Block.exec_cons_of_ok
  rw [Instruction.exec]
  rfl

/-- A variable that was declared behind the base may be given a value. -/
theorem assign {target v : ValueId} {y : Value} (le : base ≤ s)
    (behind : base.next ≤ target.number.toNat) (declared : target.number.toNat < s.next)
    (held : s.Holds v y) :
    Performs env base (Emit.assign target v) (pure y) s fun t _ z => t.Holds target z := by
  intro fits w
  refine ⟨⟨s.next, s.frame.set target y⟩, ⟨le.1, le.2.1, fun u hu => ?_⟩, rfl, ?_, declared, ?_⟩
  · rw [Frame.get?_set_of_ne _ _ (by rintro rfl; omega)]
    exact le.2.2 u hu
  · apply Block.exec_cons_of_ok
    rw [Instruction.exec, bind_apply_of_ok (Exec.read_apply held w)]
    rfl
  · exact Frame.get?_set_self _ _ _

/-- Both sides of a branch fill the variable that is its result. -/
theorem branch {condition target : ValueId} {y : Value} {onTrue onFalse : Emission Unit}
    {dTrue dFalse : Action σ Value} (held : s.Holds condition y)
    (hTrue : Performs env base onTrue dTrue s fun t _ z => t.Holds target z)
    (hFalse : ∀ t, s ≤ t → Performs env base onFalse dFalse t fun t _ z => t.Holds target z)
    (le : base ≤ s) :
    Performs env base (Emit.branch condition onTrue onFalse) (Action.choose y dTrue dFalse) s
      fun t _ z => t.Holds target z := by
  intro fits w
  rw [Emit.next_branch] at fits
  -- Whichever block runs, the numbers of both have been taken.
  have further := onFalse.le_next (onTrue s.next).next
  rw [Emit.block_branch, Emit.next_branch, Block.exec_singleton, Instruction.exec,
    bind_apply_of_ok (Exec.read_apply held w)]
  cases y with
  | bool b =>
    cases b with
    | true =>
      have ran := hTrue (further.trans fits) w
      simp only [Action.choose]
      rcases hd : dTrue w with ⟨e | z, w'⟩
      · simp only [hd] at ran
        obtain ⟨t, h, keep, next, stop, exec⟩ := ran
        rw [← next] at further ⊢
        exact ⟨⟨_, t.frame⟩, h, keep.trans (Site.le_advance further), rfl, stop, exec⟩
      · simp only [hd] at ran
        obtain ⟨t, keep, next, exec, filled⟩ := ran
        rw [← next] at further ⊢
        exact ⟨⟨_, t.frame⟩, keep.trans (Site.le_advance further), rfl, exec,
          filled.mono (Site.le_advance further)⟩
    | false => exact hFalse ⟨_, s.frame⟩ (Site.le_advance (onTrue.le_next _)) fits w
  | _ =>
    have later := le.trans (Site.le_advance ((onTrue.le_next s.next).trans further))
    exact ⟨⟨_, s.frame⟩, .error (.typeMismatch s.frame.routine condition "boolean"), later, rfl,
      rfl, rfl⟩

/-! ### Loops -/

section

variable {ι κ : Type}

theorem forM₂ {as : List ι} {bs : List κ} {f : ι → Emission Unit} {g : κ → Action σ Unit}
    (h : List.Forall₂ (fun a b => ∀ t, base ≤ t → Performs env t (f a) (g b) t unrelated) as bs)
    (le : base ≤ s) : Performs env s (as.forM f) (bs.forM g) s unrelated := by
  induction h generalizing s with
  | nil => exact done le_rfl trivial
  | cons first _ ih =>
    refine bind le_rfl (first s le) fun t _ _ keep _ => ?_
    exact (ih (le.trans keep)).last keep

theorem forM (as : List ι) {f : ι → Emission Unit} {g : ι → Action σ Unit}
    (h : ∀ a ∈ as, ∀ t, s ≤ t → Performs env t (f a) (g a) t unrelated) :
    Performs env s (as.forM f) (as.forM g) s unrelated :=
  forM₂ (List.forall₂_same.2 h) le_rfl

theorem mapM (as : List ι) {f : ι → Emission ValueId} {g : ι → Action σ Value}
    (h : ∀ a ∈ as, ∀ t, s ≤ t → Performs env t (f a) (g a) t holding) :
    Performs env s (as.mapM f) (as.mapM g) s fun t vs xs => List.Forall₂ t.Holds vs xs := by
  induction as generalizing s with
  | nil => exact done le_rfl .nil
  | cons a as ih =>
    rw [List.mapM_cons, List.mapM_cons]
    refine bind le_rfl (h a (by simp) s le_rfl) fun t v x keep held => ?_
    have rest := ih fun b hb u le => h b (by simp [hb]) u (keep.trans le)
    refine bind keep rest fun u vs xs keep' helds => ?_
    exact done (keep.trans keep') (.cons (held.mono keep') helds)

end

/-! ### Arrays -/

theorem forall₂_zipIdx {ι κ : Type} {P : ι → κ → Prop} {as : List ι} {bs : List κ}
    (h : List.Forall₂ P as bs) (k : Nat) :
    List.Forall₂ (fun a b => P a.1 b.1 ∧ a.2 = b.2) (as.zipIdx k) (bs.zipIdx k) := by
  induction h generalizing k with
  | nil => exact .nil
  | cons first _ ih => exact .cons ⟨first, rfl⟩ (ih (k + 1))

/-- A new array and a loop that stores a value in each round. -/
theorem filledArray {ι : Type} {items : List ι} {xs : List Value} {P : ι → Value → Prop}
    {component : String} {f : ValueId → ι × Nat → Emission Unit}
    (g : Value → Value × Nat → Action σ Unit) (related : List.Forall₂ P items xs)
    (stores : ∀ a p w w', Action.storeAt a p.2.toUInt32 p.1 w = (.ok (), w') →
      g a p w = (.ok (), w'))
    (round : ∀ t array a y x i, s ≤ t → t.Holds array a → P y x →
      Performs env t (f array (y, i)) (g a (x, i)) t unrelated)
    (numbered : s.next < UInt32.size → items.length < UInt32.size) :
    Performs env s (do
        let array ← Emit.newArray component items.length
        items.zipIdx.forM (f array)
        return array) (Action.newArray xs) s holding := by
  intro fits
  have room : s.next < UInt32.size := (Emit.next_le_bind _ _ s.next).trans fits
  have length : items.length.toUInt32.toNat = items.length :=
    UInt32.toNat_ofNat_of_lt' (numbered room)
  have made : Performs env s (Emit.newArray component items.length)
      (Action.newArray (List.replicate xs.length .null)) s holding := by
    have made : Performs env s (Emit.newArray component items.length) _ s holding := newArray _ _
    rw [length] at made
    rwa [← related.length_eq]
  -- An array of all values is an array of nulls into which the values are stored one by one.
  rw [← Action.newArray_then_store g xs (by rw [← related.length_eq]; exact (numbered room).le)
    stores]
  refine (bind le_rfl made fun t array a keep held => ?_ : Performs env s _ _ s holding) fits
  refine bind keep (forM₂ ?_ le_rfl) fun u _ _ keep' _ =>
    done (keep.trans keep') (held.mono keep')
  refine (forall₂_zipIdx related 0).imp fun p q h u le => ?_
  obtain ⟨y, i⟩ := p
  obtain ⟨x, j⟩ := q
  obtain ⟨rel, rfl⟩ := h
  exact round u array a y x i (keep.trans le) (held.mono le) rel

/-- A new array that is filled with values at once; there is a number for each of them. -/
theorem arrayOf {vs : List ValueId} {xs : List Value} (component : String)
    (held : List.Forall₂ s.Holds vs xs) (numbered : vs.length ≤ s.next) :
    Performs env s (Emit.arrayOf component vs) (Action.newArray xs) s holding :=
  filledArray (fun a p => Action.storeAt a p.2.toUInt32 p.1) held (fun _ _ _ _ h => h)
    (fun _ _ _ _ _ i le array_held held => store i array_held (held.mono le)) numbered.trans_lt

end Performs
end Emission
end Registrar
