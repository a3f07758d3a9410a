import Registrar.Proofs.Assembly.Table
import Registrar.Proofs.Distinct

/-! The table of an assembly under any requests. Whoever builds a unit may reserve names, define
routines and ask for the required features in any order, and may go on after a refusal. A name is
claimed once and filled once, and the table stays in the order of the claims. -/
namespace Registrar

/-- What may be asked for while a unit is built. -/
inductive Request where
  | reserve (name : String)
  | define (r : Routine)
  | ensureFeatures

namespace Request

/-- The name that is claimed. -/
def name : Request → String
  | reserve name => name
  | define r => r.name
  | ensureFeatures => requiredFeaturesHead.name

/-- The routine that is offered under this name. -/
def routine? : Request → Option Routine
  | reserve _ => none
  | define r => some r
  | ensureFeatures => some requiredFeatures

theorem name_of_routine? {c : Request} {r : Routine} (h : c.routine? = some r) :
    r.name = c.name := by
  cases c with
  | reserve name => cases h
  | define r' => cases h; rfl
  | ensureFeatures => cases h; exact requiredFeatures_name

end Request

/-- An assembly and the wiring of its features, which are worked on together. -/
structure Draft where
  assembly : Assembly
  wiring : FeatureWiring

/-- Steps on a draft in place: what was changed before a fault stays changed. -/
abbrev Drafting := ExceptT SynthesisError (StateM Draft)

namespace Draft

/-- The answer, which says whether the request has been taken into the table, and the draft
afterwards. -/
def serve (d : Draft) : Request → Except SynthesisError Bool × Draft
  | .reserve name =>
    match d.assembly.reserve name with
    | .ok a => (.ok true, { d with assembly := a })
    | .error e => (.error e, d)
  | .define r =>
    match d.assembly.define r with
    | .ok a => (.ok true, { d with assembly := a })
    | .error e => (.error e, d)
  | .ensureFeatures =>
    match d.wiring.ensure d.assembly with
    | .ok (added, w, a) => (.ok added, { assembly := a, wiring := w })
    | .error e => (.error e, d)

/-- Replaces the table unless this fails. -/
def update (f : Assembly → Except SynthesisError Assembly) : Drafting Unit := do
  match f (← get).assembly with
  | .ok a => modify fun d => { d with assembly := a }
  | .error e => throw e

/-- The requests in place: the features are marked as declared only behind their definition. -/
def serveInPlace : Request → Drafting Bool
  | .reserve name => do
    update (·.reserve name)
    return true
  | .define r => do
    update (·.define r)
    return true
  | .ensureFeatures => do
    if (← get).wiring.declared then return false
    update (·.define requiredFeatures)
    modify fun d => { d with wiring := { declared := true } }
    return true

def after (d : Draft) (cs : List Request) : Draft := cs.foldl (fun d c => (d.serve c).2) d

/-- The requests that were taken into the table, in order. -/
def taken (d : Draft) : List Request → List Request
  | [] => []
  | c :: cs =>
    match (d.serve c).1 with
    | .ok true => c :: taken (d.serve c).2 cs
    | _ => taken (d.serve c).2 cs

/-- A draft of a unit with these properties, in which nothing has been claimed. -/
def start (name superClass : String) (interfaces annotations : List String) : Draft where
  assembly := { name, superClass, interfaces, annotations }
  wiring := {}

/-! ### What the requests leave behind -/

theorem update_then {α : Type} (f : Assembly → Except SynthesisError Assembly) (k : Drafting α)
    (d : Draft) :
    (update f >>= fun _ => k).run.run d =
      match f d.assembly with
      | .ok a => k.run.run { d with assembly := a }
      | .error e => (.error e, d) := by
  have inner : (update f >>= fun _ => k).run.run d =
      ((match f d.assembly with
        | .ok a => modify fun d => { d with assembly := a }
        | .error e => throw e : Drafting Unit) >>= fun _ => k).run.run d := rfl
  rw [inner]
  cases f d.assembly <;> rfl

/-- A request that is refused has changed nothing by then. -/
theorem serveInPlace_eq (d : Draft) (c : Request) : (serveInPlace c).run.run d = d.serve c := by
  cases c with
  | reserve name => exact update_then ..
  | define r => exact update_then ..
  | ensureFeatures =>
    obtain ⟨a, ⟨declared⟩⟩ := d
    cases declared with
    | true => rfl
    | false =>
      have declare := update_then (·.define requiredFeatures)
        (do modify fun d => { d with wiring := { declared := true } }; return true)
        { assembly := a, wiring := {} }
      refine declare.trans ?_
      cases h : a.define requiredFeatures with
      | error e => simp [serve, FeatureWiring.ensure, h, Except.map]
      | ok a' =>
        simp only [serve, FeatureWiring.ensure, h, Except.map, Bool.false_eq_true, if_false]
        rfl

/-- The requests that were taken, each behind those before it. -/
theorem taken_concat (d : Draft) (cs : List Request) (c : Request) :
    d.taken (cs ++ [c]) =
      if ((d.after cs).serve c).1 = .ok true then d.taken cs ++ [c] else d.taken cs := by
  induction cs generalizing d with
  | nil => cases h : (d.serve c).1 with
    | error e => simp [taken, after, h]
    | ok added => cases added <;> simp [taken, after, h]
  | cons b cs ih =>
    have next := ih (d.serve b).2
    rw [List.cons_append]
    simp only [taken, after, List.foldl_cons] at next ⊢
    split
    · rw [next]
      exact apply_ite (b :: ·) _ _ _
    · exact next

/-! ### The table of the requests that were taken -/

section Table

variable (taken : List Request)

/-- The claimed names, in the order of the claims. -/
def claimed : List String := taken.map Request.name

/-- The routines, in the order in which they came. -/
def offered : List Routine := taken.filterMap Request.routine?

/-- The first routine of a name. -/
def firstOffered (name : String) : Option Routine := (offered taken).find? (·.name == name)

/-- Each name at the place of its first claim, with the first routine of this name. -/
def table : List (String × Option Routine) :=
  (claimed taken).eraseDups.map fun name => (name, firstOffered taken name)

variable {taken} {c : Request} {name : String}

theorem isSome_firstOffered : (firstOffered taken name).isSome ↔ name ∈ (offered taken).map (·.name) := by
  simp [firstOffered, List.find?_isSome]

theorem claimed_of_offered (h : name ∈ (offered taken).map (·.name)) : name ∈ claimed taken := by
  obtain ⟨r, listed, rfl⟩ := List.mem_map.1 h
  obtain ⟨c, hc, offers⟩ := List.mem_filterMap.1 listed
  exact List.mem_map.2 ⟨c, hc, (Request.name_of_routine? offers).symm⟩

theorem firstOffered_of_unclaimed (h : name ∉ claimed taken) : firstOffered taken name = none := by
  rw [← Option.not_isSome_iff_eq_none, isSome_firstOffered]
  exact fun offers => h (claimed_of_offered offers)

/-- A routine that comes later is the first of its name only if there was none. -/
theorem firstOffered_concat :
    firstOffered (taken ++ [c]) name =
      (firstOffered taken name).or (if c.name = name then c.routine? else none) := by
  rw [firstOffered, offered, List.filterMap_append, List.find?_append]
  congr 1
  cases h : c.routine? with
  | none => simp [h]
  | some r => simp [h, List.find?_singleton, Request.name_of_routine? h]

theorem names_table : (table taken).map (·.1) = (claimed taken).eraseDups := by
  simp [table, Function.comp_def]

theorem mem_names_table : name ∈ (table taken).map (·.1) ↔ name ∈ claimed taken := by
  rw [names_table, List.mem_eraseDups]

theorem lookup_table (h : name ∈ claimed taken) :
    (table taken).lookup name = some (firstOffered taken name) := by
  rw [← List.mem_eraseDups] at h
  rw [table]
  generalize (claimed taken).eraseDups = names at h
  induction names with
  | nil => cases h
  | cons n names ih =>
    rw [List.map_cons, List.lookup_cons]
    by_cases same : name = n
    · simp [same]
    · rw [beq_eq_false_iff_ne.2 same]
      exact ih ((List.mem_cons.1 h).resolve_left same)

/-- A new name takes the last place. -/
theorem table_concat_of_new (new : c.name ∉ claimed taken) :
    table (taken ++ [c]) = table taken ++ [(c.name, c.routine?)] := by
  have names : (claimed (taken ++ [c])).eraseDups = (claimed taken).eraseDups ++ [c.name] := by
    rw [claimed, List.map_append, List.map_singleton, eraseDups_concat]
    exact if_neg new
  rw [table, names, List.map_append, List.map_singleton, firstOffered_concat, firstOffered_of_unclaimed new]
  congr 1
  · refine List.map_congr_left fun name listed => ?_
    have other : c.name ≠ name := fun same => new (same ▸ List.mem_eraseDups.1 listed)
    rw [firstOffered_concat, if_neg other, Option.or_none]
  · simp

/-- A reserved name keeps its place and gets its routine. -/
theorem table_concat_of_reserved {r : Routine} (reserved : r.name ∈ claimed taken)
    (free : firstOffered taken r.name = none) (offers : c.routine? = some r) :
    table (taken ++ [c]) =
      (table taken).map fun s => if s.1 = r.name then (s.1, some r) else s := by
  have named := Request.name_of_routine? offers
  have names : (claimed (taken ++ [c])).eraseDups = (claimed taken).eraseDups := by
    rw [claimed, List.map_append, List.map_singleton, eraseDups_concat, ← named]
    exact if_pos reserved
  rw [table, names, table, List.map_map]
  refine List.map_congr_left fun name _ => ?_
  rw [firstOffered_concat, ← named, offers]
  by_cases same : name = r.name
  · subst same
    simp [free]
  · simp [same, Ne.symm same]

end Table

/-! ### One request -/

/-- The draft of this assembly holds the table of the requests that were taken, of which at most one
has brought the features. -/
structure Keeps (a : Assembly) (taken : List Request) (d : Draft) : Prop where
  assembly : d.assembly = { a with slots := table taken }
  declared : d.wiring.declared = true ↔ .ensureFeatures ∈ taken
  once : taken.countP (· matches .ensureFeatures) ≤ 1

namespace Keeps

variable {a : Assembly} {taken : List Request} {d : Draft} {r : Routine}

theorem unitName (k : Keeps a taken d) : d.assembly.name = a.name := by
  rw [k.assembly]

theorem slots (k : Keeps a taken d) : d.assembly.slots = table taken := by
  rw [k.assembly]

theorem serve_reserve_refused {name : String} (k : Keeps a taken d) (old : name ∈ claimed taken) :
    d.serve (.reserve name) = (.error (.duplicateRoutine name a.name), d) := by
  have claims : d.assembly.claims name = true := by
    rw [← mem_names_table, List.mem_map] at old
    obtain ⟨slot, listed, same⟩ := old
    rw [Assembly.claims, k.slots, List.any_eq_true]
    exact ⟨slot, listed, beq_iff_eq.2 same⟩
  have refused : d.assembly.reserve name = .error (.duplicateRoutine name a.name) := by
    rw [Assembly.reserve, claims, k.unitName]
    rfl
  rw [serve, refused]

theorem serve_reserve {name : String} (k : Keeps a taken d) (new : name ∉ claimed taken) :
    (d.serve (.reserve name)).1 = .ok true ∧
      Keeps a (taken ++ [.reserve name]) (d.serve (.reserve name)).2 := by
  have fresh : name ∉ d.assembly.slots.map (·.1) := by rwa [k.slots, mem_names_table]
  rw [serve, Assembly.reserve_of_new fresh]
  refine ⟨rfl, ?_, ?_, ?_⟩
  · rw [k.assembly, table_concat_of_new new]
    rfl
  · simpa using k.declared
  · simpa using k.once

theorem define_of_offered (k : Keeps a taken d) (old : r.name ∈ (offered taken).map (·.name)) :
    d.assembly.define r = .error (.duplicateRoutine r.name a.name) := by
  obtain ⟨r', found⟩ := Option.isSome_iff_exists.1 (isSome_firstOffered.2 old)
  rw [Assembly.define, k.slots, lookup_table (claimed_of_offered old), found, ← k.unitName]

theorem define_of_unoffered (k : Keeps a taken d) {c : Request} (offers : c.routine? = some r)
    (new : r.name ∉ (offered taken).map (·.name)) :
    d.assembly.define r = .ok { a with slots := table (taken ++ [c]) } := by
  have free : firstOffered taken r.name = none := by
    rwa [← Option.not_isSome_iff_eq_none, isSome_firstOffered]
  by_cases reserved : r.name ∈ claimed taken
  · rw [Assembly.define, k.slots, lookup_table reserved, free,
      table_concat_of_reserved reserved free offers, k.assembly]
  · have fresh : r.name ∉ d.assembly.slots.map (·.1) := by rwa [k.slots, mem_names_table]
    have named := Request.name_of_routine? offers
    rw [Assembly.define_of_new fresh, table_concat_of_new (named ▸ reserved), offers, named,
      k.assembly]

theorem serve_define_refused (k : Keeps a taken d) (old : r.name ∈ (offered taken).map (·.name)) :
    d.serve (.define r) = (.error (.duplicateRoutine r.name a.name), d) := by
  rw [serve, k.define_of_offered old]

theorem serve_define (k : Keeps a taken d) (new : r.name ∉ (offered taken).map (·.name)) :
    (d.serve (.define r)).1 = .ok true ∧
      Keeps a (taken ++ [.define r]) (d.serve (.define r)).2 := by
  have offers : (Request.define r).routine? = some r := rfl
  rw [serve, k.define_of_unoffered offers new]
  refine ⟨rfl, rfl, ?_, ?_⟩
  · simpa using k.declared
  · simpa using k.once

theorem serve_ensure_again (k : Keeps a taken d) (again : .ensureFeatures ∈ taken) :
    d.serve .ensureFeatures = (.ok false, d) := by
  rw [serve, FeatureWiring.ensure, k.declared.2 again]
  rfl

theorem serve_ensure_refused (k : Keeps a taken d) (first : .ensureFeatures ∉ taken)
    (old : requiredFeaturesHead.name ∈ (offered taken).map (·.name)) :
    d.serve .ensureFeatures =
      (.error (.duplicateRoutine requiredFeaturesHead.name a.name), d) := by
  rw [← requiredFeatures_name] at old ⊢
  have undeclared : ¬d.wiring.declared = true := fun h => first (k.declared.1 h)
  rw [serve, FeatureWiring.ensure, if_neg undeclared, k.define_of_offered old]
  rfl

theorem serve_ensure (k : Keeps a taken d) (first : .ensureFeatures ∉ taken)
    (new : requiredFeaturesHead.name ∉ (offered taken).map (·.name)) :
    (d.serve .ensureFeatures).1 = .ok true ∧
      Keeps a (taken ++ [.ensureFeatures]) (d.serve .ensureFeatures).2 := by
  rw [← requiredFeatures_name] at new
  have undeclared : ¬d.wiring.declared = true := fun h => first (k.declared.1 h)
  have offers : Request.ensureFeatures.routine? = some requiredFeatures := rfl
  rw [serve, FeatureWiring.ensure, if_neg undeclared, k.define_of_unoffered offers new]
  refine ⟨rfl, rfl, ?_, ?_⟩
  · simp [Except.map]
  · have none : taken.countP (· matches .ensureFeatures) = 0 := by
      rw [List.countP_eq_zero]
      rintro (_ | _ | _) listed <;> simp_all
    simp [none]

/-- What is taken extends the table, and what is not leaves the draft as it was. -/
theorem step (k : Keeps a taken d) (c : Request) :
    ((d.serve c).1 = .ok true ∧ Keeps a (taken ++ [c]) (d.serve c).2) ∨
      ((d.serve c).1 ≠ .ok true ∧ (d.serve c).2 = d) := by
  cases c with
  | reserve name =>
    by_cases old : name ∈ claimed taken
    · exact .inr (by simp [k.serve_reserve_refused old])
    · exact .inl (k.serve_reserve old)
  | define r =>
    by_cases old : r.name ∈ (offered taken).map (·.name)
    · exact .inr (by simp [k.serve_define_refused old])
    · exact .inl (k.serve_define old)
  | ensureFeatures =>
    by_cases again : .ensureFeatures ∈ taken
    · exact .inr (by simp [k.serve_ensure_again again])
    · by_cases old : requiredFeaturesHead.name ∈ (offered taken).map (·.name)
      · exact .inr (by simp [k.serve_ensure_refused again old])
      · exact .inl (k.serve_ensure again old)

end Keeps

/-- The table after any requests. -/
theorem keeps_start (name superClass : String) (interfaces annotations : List String)
    (cs : List Request) :
    Keeps { name, superClass, interfaces, annotations }
      ((start name superClass interfaces annotations).taken cs)
      ((start name superClass interfaces annotations).after cs) := by
  generalize first : start name superClass interfaces annotations = d
  induction cs using List.reverseRecOn with
  | nil =>
    subst first
    refine ⟨rfl, ?_, ?_⟩
    · simp [after, taken, start]
    · simp [taken]
  | append_singleton cs c ih =>
    have served : d.after (cs ++ [c]) = ((d.after cs).serve c).2 := by simp [after]
    rw [served, taken_concat]
    obtain ⟨accepted, next⟩ | ⟨refused, same⟩ := ih.step c
    · rwa [if_pos accepted]
    · rwa [if_neg refused, same]

/-! ### Finishing -/

/-- The first name without a routine stops the unit. -/
theorem routines_map (f : String → Option Routine) (names : List String) :
    Assembly.routines (names.map fun name => (name, f name)) =
      match names.find? fun name => (f name).isNone with
      | some name => .error (.undefinedRoutine name)
      | none => .ok (names.filterMap f) := by
  induction names with
  | nil => rfl
  | cons name names ih =>
    cases h : f name with
    | none => simp [Assembly.routines, h]
    | some r =>
      rw [List.map_cons, h, Assembly.routines, ih]
      simp only [List.find?_cons, List.filterMap_cons, h, Option.isNone_some]
      cases names.find? fun name => (f name).isNone <;> rfl

theorem map_filterMap {names : List String} {f : String → Option Routine}
    (h : ∀ name ∈ names, ∃ r, f name = some r ∧ r.name = name) :
    (names.filterMap f).map (·.name) = names := by
  induction names with
  | nil => rfl
  | cons name names ih =>
    obtain ⟨r, found, named⟩ := h name List.mem_cons_self
    rw [List.filterMap_cons_some found, List.map_cons, named,
      ih fun name listed => h name (List.mem_cons_of_mem _ listed)]

theorem isNone_firstOffered {taken : List Request} {name : String} :
    (firstOffered taken name).isNone = decide (name ∉ (offered taken).map (·.name)) := by
  rw [Bool.eq_iff_iff, decide_eq_true_iff, ← isSome_firstOffered, Option.not_isSome_iff_eq_none,
    Option.isNone_iff_eq_none]

/-- What is claimed is reserved or has a routine. -/
theorem claimed_cases {taken : List Request} {name : String} (h : name ∈ claimed taken) :
    .reserve name ∈ taken ∨ name ∈ (offered taken).map (·.name) := by
  obtain ⟨c, listed, rfl⟩ := List.mem_map.1 h
  cases offers : c.routine? with
  | none =>
    cases c with
    | reserve name => exact .inl listed
    | define r => cases offers
    | ensureFeatures => cases offers
  | some r =>
    rw [← Request.name_of_routine? offers]
    exact .inr (List.mem_map_of_mem (List.mem_filterMap.2 ⟨c, listed, offers⟩))

namespace Keeps

variable {a : Assembly} {taken : List Request} {d : Draft}

theorem finish_eq (k : Keeps a taken d) :
    d.assembly.finish =
      match (claimed taken).eraseDups.find? (· ∉ (offered taken).map (·.name)) with
      | some name => .error (.undefinedRoutine name)
      | none => .ok
        { name := a.name, superClass := a.superClass, interfaces := a.interfaces
          annotations := a.annotations
          routines := (claimed taken).eraseDups.filterMap (firstOffered taken) } := by
  rw [Assembly.finish, k.slots, table, routines_map, k.assembly]
  simp only [isNone_firstOffered]
  split <;> rfl

theorem finish_ok_iff (k : Keeps a taken d) :
    (∃ u, d.assembly.finish = .ok u) ↔
      ∀ name, .reserve name ∈ taken → name ∈ (offered taken).map (·.name) := by
  rw [k.finish_eq]
  constructor
  · rintro ⟨u, finished⟩ name reserved
    split at finished
    · cases finished
    · rename_i all
      have claims : name ∈ (claimed taken).eraseDups :=
        List.mem_eraseDups.2 (List.mem_map.2 ⟨_, reserved, rfl⟩)
      simpa using List.find?_eq_none.1 all name claims
  · intro all
    have none : (claimed taken).eraseDups.find? (· ∉ (offered taken).map (·.name)) = none := by
      refine List.find?_eq_none.2 fun name listed => ?_
      simpa using (claimed_cases (List.mem_eraseDups.1 listed)).elim (all name) id
    rw [none]
    exact ⟨_, rfl⟩

theorem finished {u : CodeUnit} (k : Keeps a taken d) (h : d.assembly.finish = .ok u) :
    u.routineNames = (claimed taken).eraseDups ∧
      ∀ r ∈ u.routines, firstOffered taken r.name = some r := by
  rw [k.finish_eq] at h
  split at h
  · cases h
  · rename_i all
    cases h
    have named {name : String} {r : Routine} (first : firstOffered taken name = some r) :
        r.name = name := by
      simpa using List.find?_some first
    constructor
    · refine map_filterMap fun name listed => ?_
      have defined : name ∈ (offered taken).map (·.name) := by
        simpa using List.find?_eq_none.1 all name listed
      obtain ⟨r, first⟩ := Option.isSome_iff_exists.1 (isSome_firstOffered.2 defined)
      exact ⟨r, first, named first⟩
    · intro r listed
      obtain ⟨name, _, first⟩ := List.mem_filterMap.1 listed
      rwa [named first]

end Keeps

/-- Whatever is asked for: a name can be reserved unless it has been claimed and defined unless it
has a routine; the features are brought once at most, which the wiring remembers; what is refused
changes nothing. The unit is finished when every reserved name has been defined, with one routine
for each name, in the order of the first claims. -/
theorem start_serves (name superClass : String) (interfaces annotations : List String)
    (before : List Request) :
    let first := start name superClass interfaces annotations
    let d := first.after before
    let taken := first.taken before
    let names := (claimed taken).eraseDups
    let defined := (offered taken).map (·.name)
    (∀ n, (d.serve (.reserve n)).1 =
      if n ∈ names then .error (.duplicateRoutine n name) else .ok true) ∧
    (∀ r, (d.serve (.define r)).1 =
      if r.name ∈ defined then .error (.duplicateRoutine r.name name) else .ok true) ∧
    -- The features.
    (.ensureFeatures ∈ taken → (d.serve .ensureFeatures).1 = .ok false) ∧
    (.ensureFeatures ∉ taken → (d.serve .ensureFeatures).1 =
      if requiredFeatures.name ∈ defined then .error (.duplicateRoutine requiredFeatures.name name)
      else .ok true) ∧
    taken.countP (· matches .ensureFeatures) ≤ 1 ∧
    (d.wiring.declared = true ↔ .ensureFeatures ∈ taken) ∧
    -- Refusals.
    (∀ c, (serveInPlace c).run.run d = d.serve c) ∧
    (∀ c e, (d.serve c).1 = .error e → (d.serve c).2 = d) ∧
    -- The unit.
    ((∃ u, d.assembly.finish = .ok u) ↔ ∀ n, .reserve n ∈ taken → n ∈ defined) ∧
    (∀ n, names.find? (· ∉ defined) = some n → d.assembly.finish = .error (.undefinedRoutine n)) ∧
    ∀ u, d.assembly.finish = .ok u →
      u.routineNames.Nodup ∧ u.routineNames = names ∧
        ∀ r ∈ u.routines, (offered taken).find? (·.name == r.name) = some r := by
  intro first d taken names defined
  have k := keeps_start name superClass interfaces annotations before
  refine ⟨fun n => ?_, fun r => ?_, fun again => ?_, fun fresh => ?_, k.once, k.declared,
    d.serveInPlace_eq, fun c e refused => ?_, k.finish_ok_iff, fun n undefined => ?_,
    fun u finished => ?_⟩
  · split
    case isTrue old => rw [k.serve_reserve_refused (List.mem_eraseDups.1 old)]
    case isFalse new => exact (k.serve_reserve fun old => new (List.mem_eraseDups.2 old)).1
  · split
    case isTrue old => rw [k.serve_define_refused old]
    case isFalse new => exact (k.serve_define new).1
  · rw [k.serve_ensure_again again]
  · rw [requiredFeatures_name]
    split
    case isTrue old => rw [k.serve_ensure_refused fresh old]
    case isFalse new => exact (k.serve_ensure fresh new).1
  · obtain ⟨accepted, _⟩ | ⟨_, same⟩ := k.step c
    · rw [accepted] at refused
      cases refused
    · exact same
  · rw [k.finish_eq, undefined]
  · obtain ⟨order, firsts⟩ := k.finished finished
    exact ⟨order ▸ nodup_eraseDups _, order, firsts⟩

/-- The features fill a name that was merely reserved. -/
example : ((start "t/Unit" "java.lang.Object" [] []).after
      [.reserve "getRequiredFeatures", .reserve "a", .ensureFeatures, .ensureFeatures]).assembly.slots.map
      (fun slot => (slot.1, slot.2.isSome)) =
    [("getRequiredFeatures", true), ("a", false)] := by
  decide +kernel

end Draft
end Registrar
