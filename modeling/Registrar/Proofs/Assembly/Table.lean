import Registrar.Synthesis.Basic
import Mathlib.Data.List.Nodup

/-! The routine table of an assembled unit: which routines there are, in which order, and that each
is found by its name. -/
namespace Registrar

/-! ### Names -/

theorem toString_injective {i j : Nat} (h : toString i = toString j) : i = j := by
  have digits := congrArg (fun s => Nat.ofDigitChars 10 s.toList 0) h
  simpa [Nat.toList_repr] using digits

theorem classWorker_name_inj {i j : Nat} :
    (classWorkerHead i).name = (classWorkerHead j).name ↔ i = j :=
  ⟨fun h => toString_injective (String.append_right_inj _ |>.1 h), fun h => h ▸ rfl⟩

theorem jniWorker_name_inj {i j : Nat} :
    (jniWorkerHead i).name = (jniWorkerHead j).name ↔ i = j :=
  ⟨fun h => toString_injective (String.append_right_inj _ |>.1 h), fun h => h ▸ rfl⟩

/-- How the names of workers start. -/
theorem classWorker_name_toList (i : Nat) :
    "registerClass".toList <+: (classWorkerHead i).name.toList :=
  ⟨(toString i).toList, (String.toList_append ..).symm⟩

theorem jniWorker_name_toList (i : Nat) :
    "registerJniAccessibleClass".toList <+: (jniWorkerHead i).name.toList :=
  ⟨(toString i).toList, (String.toList_append ..).symm⟩

theorem classWorker_name_ne_jniWorker_name (i j : Nat) :
    (classWorkerHead i).name ≠ (jniWorkerHead j).name := by
  intro h
  have first := classWorker_name_toList i
  rw [h] at first
  have short : "registerClass".toList.length ≤ "registerJniAccessibleClass".toList.length := by
    decide
  have differ : ¬"registerClass".toList <+: "registerJniAccessibleClass".toList := by decide
  exact differ (List.prefix_of_prefix_length_le first (jniWorker_name_toList j) short)

/-- The names of the entry point and of the routine that names the required features. -/
theorem classWorker_name_ne_fixed (i : Nat) :
    (classWorkerHead i).name ≠ entryPointHead.name ∧
      (classWorkerHead i).name ≠ requiredFeaturesHead.name := by
  have first := classWorker_name_toList i
  have differ : ¬"registerClass".toList <+: entryPointHead.name.toList ∧
      ¬"registerClass".toList <+: requiredFeaturesHead.name.toList := by decide
  exact ⟨fun h => differ.1 (h ▸ first), fun h => differ.2 (h ▸ first)⟩

theorem jniWorker_name_ne_fixed (i : Nat) :
    (jniWorkerHead i).name ≠ entryPointHead.name ∧
      (jniWorkerHead i).name ≠ requiredFeaturesHead.name := by
  have first := jniWorker_name_toList i
  have differ : ¬"registerJniAccessibleClass".toList <+: entryPointHead.name.toList ∧
      ¬"registerJniAccessibleClass".toList <+: requiredFeaturesHead.name.toList := by decide
  exact ⟨fun h => differ.1 (h ▸ first), fun h => differ.2 (h ▸ first)⟩

/-! Routines are called what their heads say. -/

theorem ClassRecord.worker_name (r : ClassRecord) (o : Options) (index : Nat) :
    (r.worker o index).name = (classWorkerHead index).name := by
  rw [worker, RoutineHead.routine_eq]

theorem JniRecord.worker_name (r : JniRecord) (o : Options) (index : Nat) :
    (r.worker o index).name = (jniWorkerHead index).name := by
  rw [worker, RoutineHead.routine_eq]

theorem requiredFeatures_name : requiredFeatures.name = requiredFeaturesHead.name := by
  rw [requiredFeatures, RoutineHead.routine_eq]

theorem Plan.entryPoint_name (p : Plan) (o : Options) :
    (p.entryPoint o).name = entryPointHead.name := by
  rw [entryPoint, RoutineHead.routine_eq]

/-! ### Claiming names -/

namespace Assembly

variable {a : Assembly} {r : Routine}

/-- The slots of routines that have been defined. -/
def filled (rs : List Routine) : List (String × Option Routine) := rs.map fun r => (r.name, some r)

theorem names_filled (rs : List Routine) : (filled rs).map (·.1) = rs.map (·.name) := by
  simp [filled]

theorem reserve_of_new {name : String} (new : name ∉ a.slots.map (·.1)) :
    a.reserve name = .ok { a with slots := a.slots ++ [(name, none)] } := by
  have free : a.claims name = false := by
    rw [claims, List.any_eq_false]
    intro s hs
    simp only [beq_iff_eq]
    intro h
    exact new (h ▸ List.mem_map_of_mem hs)
  rw [reserve, free]
  rfl

theorem lookup_eq_none {slots : List (String × Option Routine)} {name : String}
    (new : name ∉ slots.map (·.1)) : slots.lookup name = none := by
  rw [List.lookup_eq_none_iff]
  intro s hs
  simp only [bne_iff_ne]
  intro h
  exact new (h ▸ List.mem_map_of_mem hs)

theorem define_of_new (new : r.name ∉ a.slots.map (·.1)) :
    a.define r = .ok { a with slots := a.slots ++ [(r.name, some r)] } := by
  rw [define, lookup_eq_none new]

/-- A routine is put where its name was claimed. -/
theorem define_of_reserved {before after : List (String × Option Routine)}
    (slots : a.slots = before ++ (r.name, none) :: after) (hb : r.name ∉ before.map (·.1))
    (ha : r.name ∉ after.map (·.1)) :
    a.define r = .ok { a with slots := before ++ (r.name, some r) :: after } := by
  have claimed : a.slots.lookup r.name = some none := by
    rw [slots, List.lookup_append, lookup_eq_none hb]
    simp
  have others : ∀ l : List (String × Option Routine), r.name ∉ l.map (·.1) →
      (l.map fun s => if s.1 = r.name then (s.1, some r) else s) = l := by
    intro l absent
    refine (List.map_congr_left (g := id) fun s hs => ?_).trans (List.map_id l)
    exact if_neg fun (h : s.1 = r.name) => absent (h ▸ List.mem_map_of_mem hs)
  rw [define, claimed, slots]
  simp [others before hb, others after ha]

/-- A name is claimed, other routines are defined, and then the routine of the name is. -/
theorem define_claimed {head : List (String × Option Routine)} {rs after : List Routine}
    (slots : a.slots = head ++ filled rs) (fresh : r.name ∉ a.slots.map (·.1))
    (absent : r.name ∉ after.map (·.name)) :
    define { a with slots := a.slots ++ [(r.name, none)] ++ filled after } r =
      .ok { a with slots := head ++ filled (rs ++ r :: after) } := by
  rw [← names_filled] at absent
  rw [define_of_reserved (List.append_assoc ..) fresh absent]
  simp [slots, filled]

/-- Nothing is defined between the name and its routine. -/
theorem define_alone {head : List (String × Option Routine)} {rs : List Routine}
    (slots : a.slots = head ++ filled rs) (fresh : r.name ∉ a.slots.map (·.1)) :
    define { a with slots := a.slots ++ [(r.name, none)] } r =
      .ok { a with slots := head ++ filled (rs ++ [r]) } := by
  have between : r.name ∉ ([] : List Routine).map (·.name) := List.not_mem_nil
  simpa [filled] using define_claimed slots fresh between

theorem routines_filled (rs : List Routine) : routines (filled rs) = .ok rs := by
  induction rs with
  | nil => rfl
  | cons r rs ih =>
    change (routines (filled rs)).map (r :: ·) = _
    rw [ih]
    rfl

end Assembly

/-! ### The table of a plan -/

/-- What a class brings into the unit: its worker, and the routine that names the required features
if nobody has declared them yet. -/
def ClassRecord.routines (r : ClassRecord) (o : Options) (index : Nat) (declared : Bool) :
    List Routine :=
  r.worker o index ::
    if r.capabilities.serialization && !declared then [requiredFeatures] else []

/-- The routines of classes, the first of which has this index. -/
def classRoutines (o : Options) : (declared : Bool) → (index : Nat) → List ClassRecord →
    List Routine
  | _, _, [] => []
  | declared, index, r :: rs =>
    r.routines o index declared ++
      classRoutines o (declared || r.capabilities.serialization) (index + 1) rs

def jniRoutines (o : Options) : (index : Nat) → List JniRecord → List Routine
  | _, [] => []
  | index, r :: rs => r.worker o index :: jniRoutines o (index + 1) rs

namespace Plan

/-- The routines of a plan in order. -/
def routines (p : Plan) (o : Options) : List Routine :=
  p.entryPoint o :: classRoutines o false 0 p.classes.records ++ jniRoutines o 0 p.jniClasses

end Plan

namespace Assembly

/-- One class after some routines. -/
theorem addClassWorker_eq {o : Options} {a : Assembly} {w : FeatureWiring} {rs : List Routine}
    {head : List (String × Option Routine)} {r : ClassRecord} {index : Nat}
    (slots : a.slots = head ++ filled rs)
    (new : (head.map (·.1) ++ (rs ++ r.routines o index w.declared).map (·.name)).Nodup) :
    addClassWorker o (a, w) (r, index) =
      .ok ({ a with slots := head ++ filled (rs ++ r.routines o index w.declared) },
        { declared := w.declared || r.capabilities.serialization }) := by
  obtain ⟨declared⟩ := w
  have names : a.slots.map (·.1) = head.map (·.1) ++ rs.map (·.name) := by
    rw [slots, List.map_append, names_filled]
  rw [List.map_append, ← List.append_assoc, ← names, ClassRecord.routines, List.map_cons,
    List.nodup_middle, List.nodup_cons] at new
  obtain ⟨fresh, rest⟩ := new
  rw [List.mem_append, not_or] at fresh
  have reserved := reserve_of_new fresh.1
  have alone := define_alone slots fresh.1
  unfold addClassWorker
  dsimp only
  rw [← r.worker_name o index]
  -- The required features, if they are still to be declared, come between the name of the worker and
  -- the worker itself, but the worker stands where its name is.
  cases serialized : r.capabilities.serialization with
  | false =>
    simp only [reserved, bind, Except.bind, pure, Except.pure, Bool.or_false, Bool.false_eq_true,
      if_false, alone]
    simp [ClassRecord.routines, serialized]
  | true =>
    cases declared with
    | true =>
      simp only [reserved, bind, Except.bind, pure, Except.pure, FeatureWiring.ensure, if_true,
        alone]
      simp [ClassRecord.routines, serialized]
    | false =>
      simp only [serialized, Bool.not_false, Bool.and_true, if_true] at fresh rest
      have absent : requiredFeatures.name ∉ a.slots.map (·.1) :=
        (List.nodup_cons.1 (List.nodup_middle.1 rest)).1 ∘ List.mem_append_left _
      have added : define { a with slots := a.slots ++ [((r.worker o index).name, none)] }
          requiredFeatures = .ok { a with slots :=
            a.slots ++ [((r.worker o index).name, none)] ++ filled [requiredFeatures] } := by
        apply define_of_new
        rw [List.map_append, List.mem_append, not_or]
        refine ⟨absent, ?_⟩
        simpa [r.worker_name, requiredFeatures_name] using (classWorker_name_ne_fixed index).2.symm
      simp only [reserved, bind, Except.bind, pure, Except.pure, FeatureWiring.ensure, added,
        Except.map, Bool.false_eq_true, if_false, define_claimed slots fresh.1 fresh.2]
      simp [ClassRecord.routines, serialized]

/-- All classes after some routines. -/
theorem foldlM_addClassWorker {o : Options} {a : Assembly} {w : FeatureWiring}
    {head : List (String × Option Routine)} (rs : List Routine) (records : List ClassRecord)
    (index : Nat) (slots : a.slots = head ++ filled rs)
    (new : (head.map (·.1) ++
      (rs ++ classRoutines o w.declared index records).map (·.name)).Nodup) :
    (records.zipIdx index).foldlM (addClassWorker o) (a, w) =
      .ok ({ a with slots := head ++ filled (rs ++ classRoutines o w.declared index records) },
        { declared := w.declared || records.any (·.capabilities.serialization) }) := by
  induction records generalizing a w rs index with
  | nil => simp [classRoutines, ← slots, pure, Except.pure]
  | cons r records ih =>
    rw [classRoutines, ← List.append_assoc] at new
    have first := addClassWorker_eq slots <|
      List.Nodup.of_append_left (by simpa [List.append_assoc] using new)
    rw [List.zipIdx_cons, List.foldlM_cons, first, classRoutines, List.any_cons,
      ← List.append_assoc, ← Bool.or_assoc]
    exact ih _ (index + 1) rfl new

theorem addJniWorker_eq {o : Options} {a : Assembly} {rs : List Routine}
    {head : List (String × Option Routine)} {r : JniRecord} {index : Nat}
    (slots : a.slots = head ++ filled rs)
    (new : (head.map (·.1) ++ (rs ++ [r.worker o index]).map (·.name)).Nodup) :
    addJniWorker o a (r, index) =
      .ok { a with slots := head ++ filled (rs ++ [r.worker o index]) } := by
  have fresh : (r.worker o index).name ∉ a.slots.map (·.1) := by
    rw [slots, List.map_append, names_filled]
    rw [List.map_append, ← List.append_assoc, List.map_singleton, List.nodup_middle,
      List.nodup_cons, List.append_nil] at new
    exact new.1
  unfold addJniWorker
  dsimp only
  rw [← r.worker_name o index]
  simp only [reserve_of_new fresh, bind, Except.bind, define_alone slots fresh]

theorem foldlM_addJniWorker {o : Options} {a : Assembly} {head : List (String × Option Routine)}
    (rs : List Routine) (records : List JniRecord) (index : Nat) (slots : a.slots = head ++ filled rs)
    (new : (head.map (·.1) ++ (rs ++ jniRoutines o index records).map (·.name)).Nodup) :
    (records.zipIdx index).foldlM (addJniWorker o) a =
      .ok { a with slots := head ++ filled (rs ++ jniRoutines o index records) } := by
  induction records generalizing a rs index with
  | nil => simp [jniRoutines, ← slots, pure, Except.pure]
  | cons r records ih =>
    rw [jniRoutines, List.append_cons] at new
    have first := addJniWorker_eq slots <|
      List.Nodup.of_append_left (by simpa [List.append_assoc] using new)
    rw [List.zipIdx_cons, List.foldlM_cons, first, jniRoutines]
    have rest := ih (a := { a with slots := head ++ filled (rs ++ [r.worker o index]) }) _
      (index + 1) rfl new
    rw [List.append_assoc, List.singleton_append] at rest
    exact rest

end Assembly

/-! ### Distinct names -/

theorem mem_routines {o : Options} {r : Routine} {c : ClassRecord} {index : Nat} {declared : Bool}
    (h : r ∈ c.routines o index declared) :
    r.name = (classWorkerHead index).name ∨
      declared = false ∧ c.capabilities.serialization = true ∧
        r.name = requiredFeaturesHead.name := by
  rw [ClassRecord.routines, List.mem_cons] at h
  rcases h with rfl | wired
  · exact .inl (c.worker_name o index)
  · split at wired
    · rename_i first
      rw [List.mem_singleton] at wired
      subst wired
      rw [Bool.and_eq_true, Bool.not_eq_true'] at first
      exact .inr ⟨first.2, first.1, requiredFeatures_name⟩
    · cases wired

theorem mem_classRoutines {o : Options} {r : Routine} {declared : Bool} {index : Nat}
    {records : List ClassRecord} (h : r ∈ classRoutines o declared index records) :
    (∃ j, index ≤ j ∧ r.name = (classWorkerHead j).name) ∨
      declared = false ∧ r.name = requiredFeaturesHead.name := by
  induction records generalizing declared index with
  | nil => cases h
  | cons c records ih =>
    rw [classRoutines, List.mem_append] at h
    rcases h with own | later
    · rcases mem_routines own with named | ⟨open_, -, named⟩
      · exact .inl ⟨index, Nat.le_refl _, named⟩
      · exact .inr ⟨open_, named⟩
    · rcases ih later with ⟨j, le, named⟩ | ⟨open_, named⟩
      · exact .inl ⟨j, by omega, named⟩
      · exact .inr ⟨by simp_all, named⟩

theorem mem_jniRoutines {o : Options} {r : Routine} {index : Nat} {records : List JniRecord}
    (h : r ∈ jniRoutines o index records) :
    ∃ j, index ≤ j ∧ r.name = (jniWorkerHead j).name := by
  induction records generalizing index with
  | nil => cases h
  | cons c records ih =>
    rw [jniRoutines, List.mem_cons] at h
    rcases h with rfl | later
    · exact ⟨index, Nat.le_refl _, c.worker_name o index⟩
    · obtain ⟨j, le, named⟩ := ih later
      exact ⟨j, by omega, named⟩

theorem nodup_classRoutines (o : Options) (declared : Bool) (index : Nat)
    (records : List ClassRecord) :
    ((classRoutines o declared index records).map (·.name)).Nodup := by
  induction records generalizing declared index with
  | nil => exact List.nodup_nil
  | cons r records ih =>
    rw [classRoutines, List.map_append, List.nodup_append']
    refine ⟨?_, ih _ _, ?_⟩
    · rw [ClassRecord.routines]
      split
      · simp [r.worker_name, requiredFeatures_name, (classWorker_name_ne_fixed index).2]
      · exact List.nodup_singleton _
    · intro name own later
      obtain ⟨r₁, mem₁, rfl⟩ := List.mem_map.1 own
      obtain ⟨r₂, mem₂, same⟩ := List.mem_map.1 later
      rcases mem_routines mem₁ with named | ⟨-, serialized, named⟩ <;>
        rcases mem_classRoutines mem₂ with ⟨j, le, named'⟩ | ⟨open_, named'⟩
      · rw [named, named', classWorker_name_inj] at same
        omega
      · rw [named, named'] at same
        exact (classWorker_name_ne_fixed index).2 same.symm
      · rw [named, named'] at same
        exact (classWorker_name_ne_fixed j).2 same
      · simp [serialized] at open_

theorem nodup_jniRoutines (o : Options) (index : Nat) (records : List JniRecord) :
    ((jniRoutines o index records).map (·.name)).Nodup := by
  induction records generalizing index with
  | nil => exact List.nodup_nil
  | cons r records ih =>
    rw [jniRoutines, List.map_cons, List.nodup_cons]
    refine ⟨fun h => ?_, ih _⟩
    obtain ⟨later, mem, named⟩ := List.mem_map.1 h
    obtain ⟨j, le, named'⟩ := mem_jniRoutines mem
    rw [r.worker_name, named', jniWorker_name_inj] at named
    omega

namespace Plan

/-- All routines have distinct names. -/
theorem nodup_routines (p : Plan) (o : Options) : ((p.routines o).map (·.name)).Nodup := by
  rw [routines, List.cons_append, List.map_cons, List.map_append, List.nodup_cons,
    List.nodup_append']
  refine ⟨?_, nodup_classRoutines .., nodup_jniRoutines .., ?_⟩
  · rw [p.entryPoint_name, List.mem_append, not_or, List.mem_map, List.mem_map]
    constructor
    · rintro ⟨r, mem, named⟩
      rcases mem_classRoutines mem with ⟨j, -, named'⟩ | ⟨-, named'⟩
      · exact (classWorker_name_ne_fixed j).1 (named'.symm.trans named)
      · rw [named'] at named
        revert named
        decide
    · rintro ⟨r, mem, named⟩
      obtain ⟨j, -, named'⟩ := mem_jniRoutines mem
      exact (jniWorker_name_ne_fixed j).1 (named'.symm.trans named)
  · intro name own later
    obtain ⟨r₁, mem₁, rfl⟩ := List.mem_map.1 own
    obtain ⟨r₂, mem₂, same⟩ := List.mem_map.1 later
    obtain ⟨i, -, named'⟩ := mem_jniRoutines mem₂
    rw [named'] at same
    rcases mem_classRoutines mem₁ with ⟨j, -, named⟩ | ⟨-, named⟩
    · exact classWorker_name_ne_jniWorker_name j i (named.symm.trans same.symm)
    · exact (jniWorker_name_ne_fixed i).2 (same.trans named)

/-- The assembly of a plan has just these routines. -/
theorem assemble_eq (p : Plan) (o : Options) :
    p.assemble o = .ok
      ({ Assembly.start o with slots := Assembly.filled (p.routines o) },
        { declared := p.requiresSerialization }) := by
  have distinct := p.nodup_routines o
  rw [routines, List.cons_append, List.map_cons, p.entryPoint_name] at distinct
  let head : List (String × Option Routine) := [(entryPointHead.name, none)]
  generalize hj : jniRoutines o 0 p.jniClasses = js at distinct
  generalize hc : classRoutines o false 0 p.classes.records = cs at distinct
  have empty : (Assembly.start o).slots = [] := rfl
  unfold assemble
  generalize Assembly.start o = a at empty ⊢
  have claimed : a.reserve entryPointHead.name = .ok { a with slots := head } := by
    rw [Assembly.reserve_of_new (by simp [empty]), empty]
    rfl
  have classes := Assembly.foldlM_addClassWorker (a := { a with slots := head }) (w := {}) (o := o)
    [] p.classes.records 0 (List.append_nil head).symm <| by
      rw [List.map_append, ← List.cons_append] at distinct
      rw [List.nil_append, hc]
      exact distinct.of_append_left
  have jniClasses := Assembly.foldlM_addJniWorker (o := o)
    (a := { a with slots := head ++ Assembly.filled cs }) cs p.jniClasses 0 rfl (by rwa [hj])
  have own : (p.entryPoint o).name ∉ (Assembly.filled (cs ++ js)).map (·.1) := by
    rw [Assembly.names_filled, p.entryPoint_name]
    exact (List.nodup_cons.1 distinct).1
  have table : Assembly.filled (p.routines o) =
      ((p.entryPoint o).name, some (p.entryPoint o)) :: Assembly.filled (cs ++ js) := by
    rw [routines, hc, hj]
    rfl
  have entry : Assembly.define { a with slots := head ++ Assembly.filled (cs ++ js) }
      (p.entryPoint o) = .ok { a with slots := Assembly.filled (p.routines o) } := by
    rw [table]
    exact Assembly.define_of_reserved (a := { a with slots := head ++ Assembly.filled (cs ++ js) })
      (by rw [p.entryPoint_name]; exact (List.nil_append _).symm) List.not_mem_nil own
  rw [List.nil_append, hc] at classes
  rw [hj] at jniClasses
  simp only [claimed, classes, jniClasses, entry, bind, Except.bind, pure, Except.pure,
    Bool.false_or, requiresSerialization]

end Plan

end Registrar
