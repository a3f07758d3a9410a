import Registrar.Proofs.Assembly.Wiring
import Registrar.Proofs.Distinct
import Registrar.Proofs.Encoding.RoundTrip

/-! Units that are generated into artifacts, call after call. A call keeps the encoded unit that it
returns, or fails and keeps nothing; so after any calls there is one artifact for each name under
which a unit was returned, and the last of these units comes back from it. -/
namespace Registrar

/-! ### One call -/

namespace Declarations

variable {τ : Type} {d : Declarations} {o : Options} {log log' : Log} {u : CodeUnit}

/-- Without a unit, nothing is written. -/
theorem generate_of_error {e : SynthesisError}
    (ran : (d.synthesize o).run.run log = (.error e, log')) (sink : Sink (StateM τ)) (s : τ) :
    (d.generate o sink).run.run log s = ((.error e, log'), s) :=
  LoggedT.bind_of_error (Logged.lift_apply ran s) _

theorem generate_of_unencodable {e : FormatError}
    (ran : (d.synthesize o).run.run log = (.ok u, log')) (failed : u.encode = .error e)
    (sink : Sink (StateM τ)) (s : τ) :
    (d.generate o sink).run.run log s = ((.error (.unencodable e), log'), s) := by
  rw [generate, LoggedT.bind_of_ok (Logged.lift_apply ran s), failed]
  rfl

/-- With an encoded unit, all is up to the sink. -/
theorem generate_of_encoded {bytes : List UInt8}
    (ran : (d.synthesize o).run.run log = (.ok u, log')) (encoded : u.encode = .ok bytes)
    (sink : Sink (StateM τ)) (s : τ) :
    (d.generate o sink).run.run log s = match sink.write u.name bytes s with
      | (.error e, s') => ((.error (.unwritten u.name e), log'), s')
      | (.ok (), s') =>
        ((.ok u, log'.push ⟨.debug, s!"wrote {u.name} ({bytes.length} bytes)"⟩), s') := by
  rw [generate, LoggedT.bind_of_ok (Logged.lift_apply ran s), encoded]
  dsimp only
  rw [LoggedT.bind_of_ok (LoggedT.liftM_apply _ log' s)]
  rcases sink.write u.name bytes s with ⟨e | ⟨⟩, s'⟩
  · rfl
  · rfl

end Declarations

/-- A call for a unit: what it is generated from, the log that takes the messages, and the names that
are refused while it lasts. -/
structure Generation where
  declarations : Declarations
  options : Options
  log : Log
  refused : List String

namespace Generation

/-- What is returned, and what becomes of the artifacts. -/
def call (g : Generation) : StateM Artifacts (Except SynthesisError CodeUnit) := fun kept =>
  let ((result, _), after) :=
    (g.declarations.generate g.options (Artifacts.sink g.refused)).run.run g.log kept
  (result, after)

/-- The unit that is called for. -/
def unit (g : Generation) : CodeUnit := (Plan.ofDeclarations g.declarations).unit g.options

/-- The result of the call: the unit, or the first thing that stands in the way of it. -/
def outcome (g : Generation) : Except SynthesisError CodeUnit :=
  match g.declarations.validate with
  | .error v => .error (.invalid v)
  | .ok () => match g.unit.encode with
    | .error e => .error (.unencodable e)
    | .ok _ =>
      if g.options.unitName ∈ g.refused then
        .error (.unwritten g.options.unitName (.refused "refused"))
      else .ok g.unit

variable {g : Generation} {kept kept' : Artifacts} {log : Log}

theorem call_of_run {r : Except SynthesisError CodeUnit}
    (ran : (g.declarations.generate g.options (Artifacts.sink g.refused)).run.run g.log kept =
      ((r, log), kept')) : g.call kept = (r, kept') := by
  rw [call, ran]

/-- What a call does: the unit is kept if there is one, and otherwise nothing happens. -/
theorem call_eq (g : Generation) (kept : Artifacts) :
    g.call kept = match g.outcome with
      | .error e => (.error e, kept)
      | .ok u => (.ok u, kept.put u.name u.bytes) := by
  have result := g.declarations.synthesize_result g.options g.log
  rcases ran : (g.declarations.synthesize g.options).run.run g.log with ⟨r, log⟩
  rw [ran] at result
  rw [outcome]
  cases valid : g.declarations.validate with
  | error v =>
    rw [valid] at result
    subst result
    exact call_of_run (Declarations.generate_of_error ran _ kept)
  | ok =>
    rw [valid] at result
    obtain rfl : r = .ok g.unit := result
    cases encoded : g.unit.encode with
    | error e => exact call_of_run (Declarations.generate_of_unencodable ran encoded _ kept)
    | ok bytes =>
      have generated :=
        Declarations.generate_of_encoded ran encoded (Artifacts.sink g.refused) kept
      have name_eq : g.unit.name = g.options.unitName := rfl
      rw [name_eq] at generated
      by_cases refused : g.options.unitName ∈ g.refused
      · rw [Artifacts.write_of_mem refused] at generated
        simp only [refused, if_true]
        exact call_of_run generated
      · rw [Artifacts.write_of_not_mem refused, (CodeUnit.encode_eq_ok_iff.1 encoded).2]
          at generated
        simp only [refused, if_false]
        exact call_of_run generated

theorem encode_of_outcome {u : CodeUnit} (h : g.outcome = .ok u) :
    u = g.unit ∧ u.encode = .ok u.bytes := by
  rw [outcome] at h
  split at h
  · cases h
  · split at h
    · cases h
    next bytes encoded =>
      split at h
      · cases h
      · cases h
        obtain ⟨fits, -⟩ := CodeUnit.encode_eq_ok_iff.1 encoded
        exact ⟨rfl, CodeUnit.encode_eq_ok_iff.2 ⟨fits, rfl⟩⟩

/-! ### Calls one after the other -/

theorem mapM_cons_apply {τ α β : Type} (f : α → StateM τ β) (a : α) (as : List α) (s : τ) :
    (a :: as).mapM f s = ((f a s).1 :: (as.mapM f (f a s).2).1, (as.mapM f (f a s).2).2) := by
  rw [List.mapM_cons]
  rfl

/-- What the calls return, in their order, and what becomes of the artifacts. -/
def calls (gs : List Generation) : StateM Artifacts (List (Except SynthesisError CodeUnit)) :=
  gs.mapM call

theorem calls_nil (kept : Artifacts) : calls [] kept = ([], kept) := rfl

theorem calls_cons (g : Generation) (gs : List Generation) (kept : Artifacts) :
    calls (g :: gs) kept =
      ((g.call kept).1 :: (calls gs (g.call kept).2).1, (calls gs (g.call kept).2).2) :=
  mapM_cons_apply call g gs kept

/-- The units among the results. -/
def returned (results : List (Except SynthesisError CodeUnit)) : List CodeUnit :=
  results.filterMap Except.toOption

theorem returned_cons (r : Except SynthesisError CodeUnit)
    (results : List (Except SynthesisError CodeUnit)) :
    returned (r :: results) = returned [r] ++ returned results := by
  rw [returned, returned, returned, ← List.filterMap_append, List.singleton_append]

end Generation

/-- The artifacts are these units: they have the names of the units, each in the place where it came
first, and from each comes back the last unit of its name. -/
structure Artifacts.Holds (kept : Artifacts) (units : List CodeUnit) : Prop where
  names : kept.names = (units.map (·.name)).eraseDups
  last : ∀ name, (kept.get? name).map CodeUnit.decode =
    (units.findRev? (·.name = name)).map .ok

namespace Artifacts

namespace Holds

theorem empty : Artifacts.empty.Holds [] where
  names := rfl
  last _ := rfl

theorem put {kept : Artifacts} {units : List CodeUnit} (h : kept.Holds units) {u : CodeUnit}
    (encoded : u.encode = .ok u.bytes) :
    (kept.put u.name u.bytes).Holds (units ++ [u]) where
  names := by
    rw [names_put, List.map_append, List.map_cons, List.map_nil, eraseDups_concat]
    simp only [h.names, List.mem_eraseDups]
  last name := by
    rw [get?_put, List.findRev?_eq_find?_reverse, List.reverse_append]
    by_cases same : u.name = name
    · simp [same, CodeUnit.decode_of_encode encoded]
    · rw [if_neg (Ne.symm same), h.last, List.findRev?_eq_find?_reverse]
      simp [same]

end Holds

end Artifacts

namespace Generation

theorem call_holds {kept : Artifacts} {units : List CodeUnit} (h : kept.Holds units)
    (g : Generation) : (g.call kept).2.Holds (units ++ returned [g.outcome]) := by
  rw [call_eq]
  cases result : g.outcome with
  | error e =>
    have none : returned [.error e] = [] := rfl
    rwa [none, List.append_nil]
  | ok u => exact h.put (encode_of_outcome result).2

/-- Each call does what it does alone. -/
theorem results_calls (gs : List Generation) (kept : Artifacts) :
    (calls gs kept).1 = gs.map outcome := by
  induction gs generalizing kept with
  | nil => rfl
  | cons g gs ih =>
    have first : (g.call kept).1 = g.outcome := by
      rw [call_eq]
      cases g.outcome <;> rfl
    rw [calls_cons, ih, first, List.map_cons]

theorem calls_holds {kept : Artifacts} {units : List CodeUnit} (h : kept.Holds units)
    (gs : List Generation) :
    (calls gs kept).2.Holds (units ++ returned (gs.map outcome)) := by
  induction gs generalizing kept units with
  | nil => simpa [calls_nil, returned] using h
  | cons g gs ih =>
    have later := ih (call_holds h g)
    rw [List.append_assoc, ← returned_cons] at later
    rwa [calls_cons, List.map_cons]

/-- Generation keeps all or nothing. A call that fails changes nothing, whatever was kept before, and
one that does not fail returns the unit of its own name. After any calls there is one artifact for
each name under which a unit was returned, in the order in which these names came first, and from it
comes back the last unit of this name. -/
theorem calls_keep (gs : List Generation) :
    let results := (calls gs Artifacts.empty).1
    let kept := (calls gs Artifacts.empty).2
    (∀ (g : Generation) (before : Artifacts) (e : SynthesisError),
      (g.call before).1 = .error e → (g.call before).2 = before) ∧
    List.Forall₂ (fun g r => r = g.outcome ∧ ∀ u, r = .ok u → u.name = g.options.unitName)
      gs results ∧
    kept.names = ((returned results).map (·.name)).eraseDups ∧
    ∀ name, (kept.get? name).map CodeUnit.decode =
      ((returned results).findRev? (·.name = name)).map .ok := by
  have holds := calls_holds .empty gs
  rw [List.nil_append] at holds
  dsimp only
  rw [results_calls]
  refine ⟨fun g before e failed => ?_, ?_, holds.names, holds.last⟩
  · rw [call_eq] at failed ⊢
    cases result : g.outcome with
    | error e => rfl
    | ok u =>
      rw [result] at failed
      cases failed
  · rw [List.forall₂_map_right_iff, List.forall₂_same]
    intro g _
    refine ⟨rfl, fun u returns => ?_⟩
    obtain ⟨rfl, -⟩ := encode_of_outcome returns
    rfl

end Generation

end Registrar
