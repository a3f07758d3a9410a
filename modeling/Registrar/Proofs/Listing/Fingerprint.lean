import Registrar.Proofs.Assembly.Wiring
import Registrar.Proofs.Listing.Blocks
import Registrar.Proofs.Listing.Names

/-! The listing as a fingerprint. Under fixed options a synthesized unit is told by its listing: the
signature of a routine names it, its body is read up to the closing brace, and what follows is read as
further routines. Only the end of the entry point is not read but compared, as any text may be the
name of the application class. -/
namespace Registrar

open Text Platform

/-! ### Signatures -/

namespace RoutineHead

variable {h h' : RoutineHead}

/-- The signature of a routine, which does not depend on its body. -/
def signature (h : RoutineHead) : String :=
  String.join (h.modifiers.keywords.map (· ++ " ")) ++ "routine " ++ h.name ++ "(" ++
    ", ".intercalate h.params ++ ") -> " ++ h.returns ++ " \x7b"

theorem signature_routine (h : RoutineHead) (x : Emission Unit) :
    (h.routine x).signature = h.signature := by
  rw [routine_eq]
  rfl

theorem toList_signature (h : RoutineHead) : h.signature.toList =
    ((String.join (h.modifiers.keywords.map (· ++ " "))).toList ++ "routine".toList ++
      ' ' :: h.name.toList) ++ '(' :: (", ".intercalate h.params ++ ") -> " ++ h.returns ++
        " \x7b").toList := by
  have routine : "routine ".toList = "routine".toList ++ [' '] := by decide
  simp [signature, routine]

namespace Generated

theorem name_inj (hh : h.Generated) (hh' : h'.Generated) (same : h.name = h'.name) : h = h' := by
  cases hh with
  | entryPoint =>
    cases hh' with
    | entryPoint => rfl
    | requiredFeatures => exact absurd same (by decide)
    | classWorker i => exact absurd same.symm (classWorker_name_ne_fixed i).1
    | jniWorker i => exact absurd same.symm (jniWorker_name_ne_fixed i).1
  | requiredFeatures =>
    cases hh' with
    | entryPoint => exact absurd same (by decide)
    | requiredFeatures => rfl
    | classWorker i => exact absurd same.symm (classWorker_name_ne_fixed i).2
    | jniWorker i => exact absurd same.symm (jniWorker_name_ne_fixed i).2
  | classWorker i =>
    cases hh' with
    | entryPoint => exact absurd same (classWorker_name_ne_fixed i).1
    | requiredFeatures => exact absurd same (classWorker_name_ne_fixed i).2
    | classWorker j => rw [classWorker_name_inj.1 same]
    | jniWorker j => exact absurd same (classWorker_name_ne_jniWorker_name i j)
  | jniWorker i =>
    cases hh' with
    | entryPoint => exact absurd same (jniWorker_name_ne_fixed i).1
    | requiredFeatures => exact absurd same (jniWorker_name_ne_fixed i).2
    | classWorker j => exact absurd same.symm (classWorker_name_ne_jniWorker_name j i)
    | jniWorker j => rw [jniWorker_name_inj.1 same]

/-- Names have no punctuation. -/
theorem name_plain (hh : h.Generated) : h.name.toList.all Char.isAlphanum := by
  have word (s : String) (i : Nat) (letters : s.toList.all Char.isAlphanum) :
      (s ++ toString i).toList.all Char.isAlphanum := by
    rw [String.toList_append, toList_toString, List.all_append, letters, Bool.true_and]
    refine List.all_eq_true.2 fun c digit => ?_
    simp [Char.isAlphanum, isDigit_of_mem digit]
  cases hh with
  | entryPoint => decide
  | requiredFeatures => decide
  | classWorker i => exact word _ i (by decide)
  | jniWorker i => exact word _ i (by decide)

theorem not_mem_name (hh : h.Generated) {c : Char} (other : ¬c.isAlphanum) : c ∉ h.name.toList :=
  fun listed => other (List.all_eq_true.1 hh.name_plain c listed)

/-- The modifiers in front, each with a blank behind it. -/
theorem not_mem_modifiers (m : Modifiers) :
    '\n' ∉ (String.join (m.keywords.map (· ++ " "))).toList ∧
      '(' ∉ (String.join (m.keywords.map (· ++ " "))).toList := by
  obtain ⟨a, b, c⟩ := m
  cases a <;> cases b <;> cases c <;> decide

theorem oneLine_signature (hh : h.Generated) : OneLine h.signature := by
  have types : (∀ t ∈ h.params, OneLine t) ∧ OneLine h.returns := by
    cases hh with
    | entryPoint => exact ⟨List.forall_mem_singleton.2 (.of _ (by decide)), .of _ (by decide)⟩
    | requiredFeatures => exact ⟨List.forall_mem_nil _, .of _ (by decide)⟩
    | classWorker i => exact ⟨List.forall_mem_nil _, (by decide : OneLine void)⟩
    | jniWorker i => exact ⟨List.forall_mem_nil _, (by decide : OneLine void)⟩
  have modifiers : OneLine _ := (not_mem_modifiers h.modifiers).1
  have name : OneLine h.name := hh.not_mem_name (by decide)
  exact ((((((modifiers.append (by decide)).append name).append (by decide)).append
    (.join types.1)).append (by decide)).append types.2).append (by decide)

/-- The name stands between the last blank in front of the parameters and their bracket. -/
theorem signature_inj (hh : h.Generated) (hh' : h'.Generated) (same : h.signature = h'.signature) :
    h = h' := by
  have front {h : RoutineHead} (hh : h.Generated) :
      '(' ∉ (String.join (h.modifiers.keywords.map (· ++ " "))).toList ++ "routine".toList ++
        ' ' :: h.name.toList := by
    have modifiers := (not_mem_modifiers h.modifiers).2
    have name := hh.not_mem_name (c := '(') (by decide)
    simp only [List.mem_append, List.mem_cons, not_or]
    exact ⟨⟨modifiers, by decide⟩, by decide, name⟩
  have texts := congrArg String.toList same
  rw [toList_signature, toList_signature] at texts
  obtain ⟨named, -⟩ := cut_inj (front hh) (front hh') texts
  obtain ⟨-, names⟩ :=
    cut_last_inj (hh.not_mem_name (by decide)) (hh'.not_mem_name (by decide)) named
  exact hh.name_inj hh' (String.toList_inj.1 names)

end Generated

theorem rendering_routine (h : RoutineHead) (x : Emission Unit) : (h.routine x).rendering =
    h.signature.toList ++ '\n' :: (Block.rendering 1 (h.routine x).body ++ lineAt 0 "\x7d") := by
  rw [Routine.rendering, ← Routine.signature_eq, signature_routine, lineAt]
  simp [indentation]

end RoutineHead

/-! ### Routines -/

variable {o : Options} {s t : List Char}

/-- The entry point is a region between the parameter and the application class. -/
theorem Plan.entryPoint_laid (p : Plan) (line : OneLine (dotted o.unitName)) :
    ∃ b k handler l, Laid (dotted o.unitName) 1 b k ∧ Laid (dotted o.unitName) (k + 1) handler l ∧
      p.entryPoint o =
        { name := entryPointHead.name, modifiers := entryPointHead.modifiers
          params := entryPointHead.params, returns := entryPointHead.returns
          valueCount := (l + 1).toUInt32
          body := [.param ⟨0⟩ 0, .isolate b throwable ⟨k.toUInt32⟩ handler,
            .loadClass ⟨l.toUInt32⟩ o.applicationClass, .leave none] } := by
  let x := p.registerAll o ⟨0⟩
  let caught : ValueId := ⟨(x 1).next.toUInt32⟩
  refine ⟨(x 1).block, (x 1).next, _, _,
    (Emission.Consists.registerAll oneLine_namedTypes p line ⟨0⟩).laid (fun _ h n => h.shown n) 1,
    (Emission.Consists.handler .report caught).laid (fun _ h n => h.shown n) ((x 1).next + 1), ?_⟩
  have first : Nat.toUInt32 0 = 0 := rfl
  have load (n : Nat) : (discard (Emit.loadClass o.applicationClass) : Emission Unit) n =
      ⟨.ok (), [.loadClass ⟨n.toUInt32⟩ o.applicationClass], n + 1⟩ := rfl
  have leave (n : Nat) : (Emit.leave none : Emission Unit) n = ⟨.ok (), [.leave none], n⟩ := rfl
  rw [entryPoint, RoutineHead.routine_eq]
  simp only [enter, Emit.param, Emission.isolated, Emit.block_bind, Emit.next_bind, Emit.fill_run,
    Emit.value_fill, Emit.block_isolate, Emit.next_isolate, load, leave, List.cons_append,
    List.nil_append, Nat.zero_add, first]
  rfl

/-- What is the same in all entry points need not be read. -/
theorem Plan.entryPoint_inj {p q : Plan} (line : OneLine (dotted o.unitName))
    (same : Block.rendering 1 (p.entryPoint o).body ++ s =
      Block.rendering 1 (q.entryPoint o).body ++ t) : p.entryPoint o = q.entryPoint o ∧ s = t := by
  obtain ⟨b, k, handler, l, body, handling, eq⟩ := p.entryPoint_laid line
  obtain ⟨b', k', handler', l', body', handling', eq'⟩ := q.entryPoint_laid line
  rw [eq, eq'] at same ⊢
  simp only [Block.rendering, Instruction.rendering, List.append_assoc, List.nil_append] at same
  have opened := List.append_cancel_left (List.append_cancel_left same)
  obtain ⟨rfl, rfl, caught⟩ := body.read line body' (.catching _) (.catching _) opened
  obtain ⟨rfl, rfl, closed⟩ := handling.read line handling' (.lineAt rfl _) (.lineAt rfl _)
    (List.append_cancel_left caught)
  have rest := List.append_cancel_left (List.append_cancel_left (List.append_cancel_left closed))
  exact ⟨rfl, rest⟩

/-- A routine as it is generated with these options. -/
inductive Routine.Generated (o : Options) : Routine → Prop
  | entryPoint (p : Plan) : Generated o (p.entryPoint o)
  | usual {h : RoutineHead} {x : Emission Unit} {k : Nat} (head : h.Generated)
      (other : h ≠ entryPointHead) (body : Emission.Consists (Operation.Usual OneLine) k x) :
      Generated o (h.routine x)

namespace Routine

variable {r r' : Routine}

/-- Routines are read one after the other. -/
theorem Generated.read (line : OneLine (dotted o.unitName)) (h : r.Generated o)
    (h' : r'.Generated o) (same : r.rendering ++ s = r'.rendering ++ t) : r = r' ∧ s = t := by
  -- A signature ends where its line does; only the entry point has one of its own.
  have heads {a b : RoutineHead} {x y : Emission Unit} (ha : a.Generated) (hb : b.Generated)
      (same : (a.routine x).rendering ++ s = (b.routine y).rendering ++ t) :
      a = b ∧ Block.rendering 1 (a.routine x).body ++ (lineAt 0 "\x7d" ++ s) =
        Block.rendering 1 (b.routine y).body ++ (lineAt 0 "\x7d" ++ t) := by
    simp only [RoutineHead.rendering_routine, List.append_assoc, List.cons_append] at same
    obtain ⟨signatures, rest⟩ := cut_inj ha.oneLine_signature hb.oneLine_signature same
    exact ⟨ha.signature_inj hb (String.toList_inj.1 signatures), rest⟩
  cases h with
  | entryPoint p =>
    cases h' with
    | entryPoint q =>
      obtain ⟨eq, rest⟩ := Plan.entryPoint_inj line (heads .entryPoint .entryPoint same).2
      exact ⟨eq, List.append_cancel_left rest⟩
    | usual head other => exact absurd (heads .entryPoint head same).1.symm other
  | @usual a x _ head other body =>
    cases h' with
    | entryPoint q => exact absurd (heads head .entryPoint same).1 other
    | @usual b y _ head' other' body' =>
      obtain ⟨rfl, rest⟩ := heads head head' same
      rw [RoutineHead.routine_eq, RoutineHead.routine_eq] at rest ⊢
      have laid {x : Emission Unit} {k : Nat}
          (usual : Emission.Consists (Operation.Usual OneLine) k x) :
          Laid (dotted o.unitName) 0 (x 0).block (x 0).next :=
        usual.laid (fun _ h n => h.shown n) 0
      obtain ⟨blocks, counts, rest⟩ :=
        (laid body).read line (laid body') (.lineAt rfl _) (.lineAt rfl _) rest
      rw [blocks, counts]
      exact ⟨rfl, List.append_cancel_left rest⟩

/-- The last character before the final break is the closing brace. -/
theorem rendering_ends (r : Routine) : ∃ front, r.rendering = front ++ ['\x7d', '\n'] :=
  ⟨lineAt 0 r.heading ++ Block.rendering 1 r.body, rfl⟩

end Routine

/-! ### Units -/

namespace Plan

variable {p q : Plan}

/-- The types that the members of recorded classes take have names that stay on their lines. -/
def Lined (p : Plan) : Prop :=
  ∀ r ∈ p.classes.records, ∀ s, s ∈ r.constructors.toList ∨ s ∈ r.methods.toList →
    ∀ t ∈ s.params, OneLine t

theorem Lined.generated (h : p.Lined) : ∀ r ∈ p.routines o, r.Generated o := by
  intro r listed
  rw [routines, List.cons_append, List.mem_cons, List.mem_append] at listed
  rcases listed with rfl | inner
  · exact .entryPoint p
  · obtain ⟨head, x, k, generated, other, usual, rfl⟩ := usual_of_mem oneLine_namedTypes h inner
    exact .usual generated other usual

/-- All of the text of a unit is in its listing. -/
theorem listing_unit (p : Plan) (o : Options) :
    (p.unit o).listing = String.ofList (p.unit o).rendering := by
  obtain ⟨front, ends⟩ : ∃ front, (p.unit o).rendering = front ++ ['\x7d', '\n'] := by
    have filled : p.routines o ≠ [] := List.cons_ne_nil _ _
    obtain ⟨last, eq⟩ := ((p.routines o).getLast filled).rendering_ends
    have parts : (p.unit o).routines = (p.routines o).dropLast ++ [(p.routines o).getLast filled] :=
      (List.dropLast_append_getLast filled).symm
    rw [CodeUnit.rendering, parts, List.flatMap_append, List.flatMap_singleton, eq]
    simp only [← List.append_assoc]
    exact ⟨_, rfl⟩
  exact (p.unit o).page_stands.render_of_ends (by decide) ends

theorem listing_inj (line : OneLine o.unitName) (hp : p.Lined) (hq : q.Lined)
    (same : (p.unit o).listing = (q.unit o).listing) : p.unit o = q.unit o := by
  have front : (p.unit o).annotations = (q.unit o).annotations ∧
      (p.unit o).heading = (q.unit o).heading := by
    rw [CodeUnit.heading, CodeUnit.heading]
    exact ⟨rfl, rfl⟩
  rw [listing_unit, listing_unit, String.ofList_inj, CodeUnit.rendering, CodeUnit.rendering,
    front.1, front.2] at same
  have routines : p.routines o = q.routines o := by
    refine flatMap_inj (fun r => ?_) (fun h h' same => ?_) hp.generated hq.generated
      (List.append_cancel_left same)
    · exact List.append_ne_nil_of_left_ne_nil (List.append_ne_nil_of_right_ne_nil _ (by simp)) _
    · rw [List.append_assoc, List.append_assoc] at same
      exact h.read (oneLine_dotted line) h' (List.append_cancel_left same)
  rw [unit, unit, routines]

end Plan

theorem Declarations.lined {d : Declarations} (valid : d.validate = .ok ()) :
    (Plan.ofDeclarations d).Lined := fun _ listed _ member =>
  ClassTable.oneLine_params valid listed member

/-- Under options whose unit name has no line break, units that are synthesized from valid
declarations are the same if their listings are. -/
theorem Declarations.listing_determines {o : Options} (line : '\n' ∉ o.unitName.toList)
    {d e : Declarations} (hd : d.validate = .ok ()) (he : e.validate = .ok ()) (log log' : Log) :
    ∃ u v, ((d.synthesize o).run.run log).1 = .ok u ∧ ((e.synthesize o).run.run log').1 = .ok v ∧
      (u.listing = v.listing → u = v) :=
  ⟨_, _, synthesize_of_valid hd o log, synthesize_of_valid he o log',
    Plan.listing_inj line (lined hd) (lined he)⟩

/-- A constructor that takes an array of arrays, and nothing at all. -/
theorem Declarations.listing_determines_constructor :
    let o : Options := { unitName := "com/acme/Registrations" }
    let d : Declarations := { reflectiveMethods := [.constructor "com.acme.Grid" ["int[][]"]] }
    '\n' ∉ o.unitName.toList ∧ d.validate = .ok () ∧ ({} : Declarations).validate = .ok () ∧
    ∃ u v, ((d.synthesize o).run.run ⟨.info, []⟩).1 = .ok u ∧
      ((synthesize {} o).run.run ⟨.info, []⟩).1 = .ok v ∧ (u.listing = v.listing → u = v) := by
  intro o d
  have line : '\n' ∉ o.unitName.toList := by decide
  have valid : d.validate = .ok () := by decide
  have nothing : ({} : Declarations).validate = .ok () := rfl
  exact ⟨line, valid, nothing, listing_determines line valid nothing ⟨.info, []⟩ ⟨.info, []⟩⟩

end Registrar
