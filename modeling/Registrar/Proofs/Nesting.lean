import Registrar.CodeUnit.Traversal

/-! Where instructions stand in nested blocks. A place is the way that leads to an instruction, and
places come one before the other as the instructions were emitted. Visiting a block shows the
instruction at each of its places once, in this order, so that an instruction is shown before all
that is nested in it; the invoked methods are those of the instructions that are shown. -/
namespace Registrar

/-- The kinds of blocks that an instruction can hold. -/
inductive Inner where
  | onTrue
  | onFalse
  | body
  | handler

/-- The block of this kind that the instruction holds. -/
def Instruction.inner? : Instruction → Inner → Option Block
  | .branch _ onTrue _, .onTrue => some onTrue
  | .branch _ _ onFalse, .onFalse => some onFalse
  | .isolate body _ _ _, .body => some body
  | .isolate _ _ _ handler, .handler => some handler
  | _, _ => none

/-- The way that leads to an instruction from the start of a block. -/
inductive Place where
  /-- The first instruction of the block. -/
  | here
  /-- A place in one of the blocks that the first instruction holds. -/
  | inside (inner : Inner) (place : Place)
  /-- A place behind the first instruction. -/
  | later (place : Place)

/-- The instruction at a place of the block, if the way leads to one. -/
def Block.instruction? : Block → Place → Option Instruction
  | i :: _, .here => some i
  | i :: _, .inside k p => (i.inner? k).bind (Block.instruction? · p)
  | _ :: is, .later p => Block.instruction? is p
  | [], _ => none

namespace Place

/-- The second place lies in a block of the instruction at the first one, however deep. -/
inductive Holds : Place → Place → Prop
  | block (k : Inner) (p : Place) : Holds here (inside k p)
  | inside (k : Inner) {p q : Place} (below : Holds p q) : Holds (inside k p) (inside k q)
  | later {p q : Place} (behind : Holds p q) : Holds (later p) (later q)

/-- The instruction at the first place was emitted before the one at the second. An instruction
comes before its blocks and these before what is behind it; of its two blocks the one that runs
first, or runs when the condition holds, comes first. -/
inductive Before : Place → Place → Prop
  | block (k : Inner) (p : Place) : Before here (inside k p)
  | behind (p : Place) : Before here (later p)
  | left (k : Inner) (p q : Place) : Before (inside k p) (later q)
  | branches (p q : Place) : Before (inside .onTrue p) (inside .onFalse q)
  | region (p q : Place) : Before (inside .body p) (inside .handler q)
  | inside (k : Inner) {p q : Place} (below : Before p q) : Before (inside k p) (inside k q)
  | later {p q : Place} (behind : Before p q) : Before (later p) (later q)

variable {p q : Place}

theorem Before.asymm (h : p.Before q) : ¬ q.Before p := by
  induction h with
  | inside _ _ ih =>
    intro back
    cases back with
    | inside _ back => exact ih back
  | later _ ih =>
    intro back
    cases back with
    | later back => exact ih back
  | _ => nofun

theorem Holds.before (h : p.Holds q) : p.Before q := by
  induction h with
  | block k p => exact .block k p
  | inside k _ ih => exact .inside k ih
  | later _ ih => exact .later ih

/-- In a list of places in their order, a place that comes before another stands in front of it. -/
theorem Before.sublist {places : List Place} (ordered : places.Pairwise Before) (h : p.Before q)
    (first : p ∈ places) (second : q ∈ places) : [p, q].Sublist places := by
  obtain ⟨front, back, rfl⟩ := List.append_of_mem first
  obtain ⟨-, -, crossing⟩ := List.pairwise_append.1 ordered
  have behind : q ∈ back := by
    -- Anything in front of `p`, and `p` itself, would come before `p`, which comes before `q`.
    rcases List.mem_append.1 second with inFront | inBack
    · exact absurd (crossing q inFront p List.mem_cons_self) h.asymm
    · rcases List.mem_cons.1 inBack with rfl | inBack
      · exact absurd h h.asymm
      · exact inBack
  exact .trans (.cons_cons p (List.singleton_sublist.2 behind)) (List.sublist_append_right front _)

theorem nodup_of_pairwise {places : List Place} (ordered : places.Pairwise Before) :
    places.Nodup :=
  ordered.imp fun h same => (same ▸ h).asymm (same ▸ h)

end Place

/-- Where there is an instruction inside of another, there is that other one. -/
theorem Block.isSome_instruction?_of_holds {p q : Place} (h : p.Holds q) {is : Block}
    (there : (is.instruction? q).isSome) : (is.instruction? p).isSome := by
  induction h generalizing is with
  | block k p =>
    cases is with
    | nil => cases there
    | cons i is => rfl
  | inside k _ ih =>
    cases is with
    | nil => cases there
    | cons i is =>
      rw [instruction?] at there ⊢
      cases inner : i.inner? k with
      | none => rw [inner] at there; cases there
      | some js => rw [inner] at there; exact ih there
  | later _ ih =>
    cases is with
    | nil => cases there
    | cons i is => exact ih there

/-! ### The places of a block -/

mutual

/-- The places that an instruction takes up at the start of a block. -/
def Instruction.places : Instruction → List Place
  | .branch _ a b => .here ::
    ((Block.places a).map (.inside .onTrue) ++ (Block.places b).map (.inside .onFalse))
  | .isolate b _ _ h => .here ::
    ((Block.places b).map (.inside .body) ++ (Block.places h).map (.inside .handler))
  | _ => [.here]

/-- The places of all instructions in a block, in the order in which they were emitted. -/
def Block.places : List Instruction → List Place
  | [] => []
  | i :: is => Instruction.places i ++ (Block.places is).map .later

end

namespace Instruction

theorem here_mem_places (i : Instruction) : .here ∈ i.places := by
  cases i <;> simp [places]

theorem inside_mem_places (i : Instruction) (k : Inner) (p : Place) :
    .inside k p ∈ i.places ↔ ∃ js, i.inner? k = some js ∧ p ∈ Block.places js := by
  cases i <;> cases k <;> simp [places, inner?]

theorem later_not_mem_places (i : Instruction) (p : Place) : .later p ∉ i.places := by
  cases i <;> simp [places]

end Instruction

/-- The places of a block are those that lead to an instruction. -/
theorem Block.mem_places (is : Block) (p : Place) :
    p ∈ Block.places is ↔ (is.instruction? p).isSome := by
  induction p generalizing is with
  | here => cases is <;> simp [places, instruction?, Instruction.here_mem_places]
  | inside k p ih =>
    cases is with
    | nil => simp [places, instruction?]
    | cons i is =>
      simp only [places, List.mem_append, List.mem_map, reduceCtorEq, and_false, exists_false,
        or_false, Instruction.inside_mem_places, ih, instruction?]
      cases i.inner? k <;> simp
  | later p ih =>
    cases is with
    | nil => simp [places, instruction?]
    | cons i is =>
      simp [places, instruction?, Instruction.later_not_mem_places, ih]

/-- The places that an instruction takes up, where those in its two blocks are in their order. -/
theorem Place.pairwise_blocks {j k : Inner}
    (apart : ∀ p q : Place, Before (inside j p) (inside k q)) {ps qs : List Place}
    (first : ps.Pairwise Before) (second : qs.Pairwise Before) :
    (here :: (ps.map (inside j) ++ qs.map (inside k))).Pairwise Before := by
  refine List.pairwise_cons.2 ⟨fun r inBlock => ?_, List.pairwise_append.2
    ⟨first.map _ fun _ _ => .inside j, second.map _ fun _ _ => .inside k, ?_⟩⟩
  · rcases List.mem_append.1 inBlock with inFirst | inSecond
    · obtain ⟨p, -, rfl⟩ := List.mem_map.1 inFirst
      exact .block j p
    · obtain ⟨q, -, rfl⟩ := List.mem_map.1 inSecond
      exact .block k q
  · intro r inFirst t inSecond
    obtain ⟨p, -, rfl⟩ := List.mem_map.1 inFirst
    obtain ⟨q, -, rfl⟩ := List.mem_map.1 inSecond
    exact apart p q

theorem Instruction.before_later {i : Instruction} {p : Place} (own : p ∈ i.places) (q : Place) :
    p.Before (.later q) := by
  cases p with
  | here => exact .behind q
  | inside k p => exact .left k p q
  | later p => exact absurd own (i.later_not_mem_places p)

mutual

theorem Instruction.pairwise_places (i : Instruction) : i.places.Pairwise Place.Before := by
  cases i with
  | branch _ a b =>
    exact Place.pairwise_blocks .branches (Block.pairwise_places a) (Block.pairwise_places b)
  | isolate b _ _ h =>
    exact Place.pairwise_blocks .region (Block.pairwise_places b) (Block.pairwise_places h)
  | _ => exact List.pairwise_singleton ..

theorem Block.pairwise_places (is : List Instruction) :
    (Block.places is).Pairwise Place.Before := by
  cases is with
  | nil => exact .nil
  | cons i is =>
    refine List.pairwise_append.2 ⟨Instruction.pairwise_places i,
      (Block.pairwise_places is).map _ fun _ _ => .later, fun p own r behind => ?_⟩
    obtain ⟨q, -, rfl⟩ := List.mem_map.1 behind
    exact Instruction.before_later own q

end

/-- A region in the second block of a branch: its handler stands behind its body. -/
example (c v : ValueId) : Block.places
    [.branch c [] [.isolate [.leave none] throwable v [.leave (some v)]], .leave none] =
      [.here, .inside .onFalse .here, .inside .onFalse (.inside .body .here),
        .inside .onFalse (.inside .handler .here), .later .here] := rfl

/-! ### The traversals -/

mutual

theorem Instruction.instruction?_places (i : Instruction) (is : Block) :
    i.places.map (Block.instruction? (i :: is)) = i.visit.map some := by
  cases i with
  | branch c a b =>
    simp [Instruction.places, Instruction.visit, Block.instruction?, Function.comp_def,
      Instruction.inner?, Block.instruction?_places a, Block.instruction?_places b]
  | isolate b e v h =>
    simp [Instruction.places, Instruction.visit, Block.instruction?, Function.comp_def,
      Instruction.inner?, Block.instruction?_places b, Block.instruction?_places h]
  | _ => rfl

/-- Visiting shows the instructions at the places of a block, one after the other. -/
theorem Block.instruction?_places (is : List Instruction) :
    (Block.places is).map (Block.instruction? is) = (Block.visit is).map some := by
  cases is with
  | nil => rfl
  | cons i is =>
    simp [Block.places, Block.visit, Block.instruction?, Function.comp_def,
      Instruction.instruction?_places i is, Block.instruction?_places is]

end

mutual

theorem Instruction.invokedMethods_eq_visit (i : Instruction) :
    i.invokedMethods = i.visit.filterMap Instruction.method? := by
  cases i with
  | branch _ a b =>
    rw [Instruction.invokedMethods, Instruction.visit, List.filterMap_cons_none rfl,
      List.filterMap_append, Block.invokedMethods_eq_visit a, Block.invokedMethods_eq_visit b]
  | isolate b _ _ h =>
    rw [Instruction.invokedMethods, Instruction.visit, List.filterMap_cons_none rfl,
      List.filterMap_append, Block.invokedMethods_eq_visit b, Block.invokedMethods_eq_visit h]
  | _ => rfl

theorem Block.invokedMethods_eq_visit (is : List Instruction) :
    Block.invokedMethods is = (Block.visit is).filterMap Instruction.method? := by
  cases is with
  | nil => rfl
  | cons i is =>
    rw [Block.invokedMethods, Block.visit, List.filterMap_append,
      Instruction.invokedMethods_eq_visit i, Block.invokedMethods_eq_visit is]

end

/-- Every visitor is shown the same instructions, and the invoked methods are those of the
instructions it is shown. Each place of the block at which an instruction stands is come to once,
in the order in which the instructions were emitted; each instruction is shown before those in its
blocks, however deep. -/
theorem Block.visit_passes_each (is : Block) :
    (∀ (m : Type → Type _) [Monad m] [LawfulMonad m] (visitor : Instruction → m Unit),
      Block.visitM visitor is = (Block.visit is).forM visitor) ∧
    Block.invokedMethods is = (Block.visit is).filterMap Instruction.method? ∧
    ∃ places : List Place,
      places.map is.instruction? = (Block.visit is).map some ∧
      (∀ p, p ∈ places ↔ (is.instruction? p).isSome) ∧
      places.Nodup ∧
      (∀ p q, p.Holds q → q ∈ places → [p, q].Sublist places) ∧
      places.Pairwise Place.Before := by
  have ordered := Block.pairwise_places is
  refine ⟨fun _ _ _ visitor => Block.visitM_eq_forM visitor is, Block.invokedMethods_eq_visit is,
    Block.places is, Block.instruction?_places is, Block.mem_places is,
    Place.nodup_of_pairwise ordered, fun p q holds second => ?_, ordered⟩
  have first : p ∈ Block.places is := by
    rw [Block.mem_places] at second ⊢
    exact Block.isSome_instruction?_of_holds holds second
  exact holds.before.sublist ordered first second

end Registrar
