import Registrar.Proofs.Storage.Confinement

/-! What storing an artifact does to a file tree. Directories are made on the way, and the bytes stand
where the path of the artifact leads; no other file is touched. -/
namespace Registrar

namespace FileTree

/-! ### Steps that write no file -/

/-- Nothing but new directories tells the second tree from the first. -/
structure Grows (t t' : FileTree) : Prop where
  files : t'.files = t.files
  workingDirectory : t'.workingDirectory = t.workingDirectory
  directories : t.directories <+: t'.directories

variable {t t' t'' : FileTree}

theorem Grows.refl (t : FileTree) : t.Grows t := ⟨rfl, rfl, List.prefix_rfl⟩

theorem Grows.trans (first : t.Grows t') (second : t'.Grows t'') : t.Grows t'' where
  files := second.files.trans first.files
  workingDirectory := second.workingDirectory.trans first.workingDirectory
  directories := first.directories.trans second.directories

theorem grows_of_makeDirectory {p : Path} (made : t.makeDirectory p = .ok t') : t.Grows t' := by
  simp only [makeDirectory, bind, Except.bind] at made
  split at made
  · cases made
  · split at made
    · cases made
    · obtain rfl := Except.ok.inj made
      exact ⟨rfl, rfl, List.prefix_append ..⟩

/-- Work on a file tree that may fail. -/
abbrev Work (α : Type) := ExceptT StorageFault (StateM FileTree) α

/-- Wherever the work starts, it leaves a tree that has grown, also if it fails. -/
def Building {α : Type} (x : Work α) : Prop := ∀ t : FileTree, t.Grows (x.run.run t).2

namespace Building

variable {α β : Type}

theorem pure (a : α) : Building (Pure.pure a) := Grows.refl

theorem throw (fault : StorageFault) : Building (throw fault : Work α) := Grows.refl

theorem bind {x : Work α} {f : α → Work β} (first : Building x) (rest : ∀ a, Building (f a)) :
    Building (x >>= f) := by
  intro t
  have start := first t
  rw [ExceptT.run_bind, StateT.run_bind]
  rcases ran : x.run.run t with ⟨result, t'⟩
  rw [ran] at start
  cases result with
  | error fault => exact start
  | ok a => exact start.trans (rest a t')

/-- Asking changes nothing. -/
theorem isDirectory (p : Path) : Building (ExceptT.lift (fileSystem.isDirectory p)) := Grows.refl

/-- An attempt to make a directory, whose fault is looked at later. -/
theorem makeDirectory (p : Path) :
    Building (ExceptT.lift (fileSystem.makeDirectory p).run) := by
  intro t
  change t.Grows (update (·.makeDirectory p) t).2
  unfold update
  split
  · next made => exact grows_of_makeDirectory made
  · exact Grows.refl t

theorem settle (p : Path) (made : Except StorageFault Unit) : Building (fileSystem.settle p made) := by
  unfold FileSystem.settle
  split
  · exact pure ()
  · refine bind (isDirectory p) fun found => ?_
    split
    · exact pure ()
    · exact throw _

theorem makeNested (ps : List Path) : Building (fileSystem.makeNested ps) := by
  induction ps with
  | nil => exact throw .notFound
  | cons p outer ih =>
    unfold FileSystem.makeNested
    split
    · exact pure ()
    · refine bind (makeDirectory p) fun made => ?_
      split
      · exact bind ih fun _ => bind (makeDirectory p) fun made => settle p made
      · exact settle p _

end Building

/-! ### The file that is written -/

theorem lookup_replace (files : List (Location × List UInt8)) (here there : Location)
    (bytes : List UInt8) :
    (files.map fun f => if f.1 = here then (here, bytes) else f).lookup there =
      if there = here then (files.lookup there).map fun _ => bytes else files.lookup there := by
  induction files with
  | nil => simp
  | cons f files ih =>
    obtain ⟨place, old⟩ := f
    rw [List.map_cons, List.lookup_cons]
    by_cases same : there = place
    · subst same
      by_cases put : there = here <;> simp [put]
    · have other : (there == place) = false := by simpa using same
      by_cases put : place = here
      · subst put
        simpa [List.lookup_cons, other, same] using ih
      · simpa [List.lookup_cons, other, put] using ih

theorem lookup_put (t : FileTree) (here there : Location) (bytes : List UInt8) :
    (t.put here bytes).files.lookup there =
      if there = here then some bytes else t.files.lookup there := by
  unfold put
  split
  · next known =>
    rw [lookup_replace]
    split
    · next same =>
      obtain ⟨old, found⟩ := Option.isSome_iff_exists.1 known
      rw [same, found, Option.map_some]
    · rfl
  · next unknown =>
    rw [List.lookup_append]
    by_cases same : there = here
    · subst same
      rw [Option.not_isSome_iff_eq_none.1 unknown]
      simp
    · have other : (there == here) = false := by simpa using same
      simp [List.lookup_cons, other, same]

/-- A file is written where its path leads. -/
theorem write_eq_ok {p : Path} {bytes : List UInt8} (written : t.write p bytes = .ok t') :
    t' = t.put (p.location t.workingDirectory) bytes := by
  simp only [write, bind, Except.bind] at written
  split at written
  · cases written
  · next here found =>
    rw [← p.location_of_locate found]
    split at written
    · cases written
    · exact (Except.ok.inj written).symm

/-- The outcome of writing a file: it stands where its path leads, behind directories that were made
for it, or the attempt has failed and there are only these. -/
def Placed (t : FileTree) (p : Path) (bytes : List UInt8) :
    Except StorageFault Unit × FileTree → Prop
  | (.error _, t') => t.Grows t'
  | (.ok (), t') => ∃ t₁, t.Grows t₁ ∧ t' = t₁.put (p.location t.workingDirectory) bytes

theorem Building.write {x : Work Unit} (ready : Building x) (p : Path) (bytes : List UInt8)
    (t : FileTree) :
    t.Placed p bytes ((x >>= fun _ => fileSystem.write p bytes).run.run t) := by
  have grown := ready t
  rw [ExceptT.run_bind, StateT.run_bind]
  rcases ran : x.run.run t with ⟨result, t₁⟩
  rw [ran] at grown
  cases result with
  | error fault => exact grown
  | ok =>
    change t.Placed p bytes (update (·.write p bytes) t₁)
    cases written : t₁.write p bytes with
    | error fault =>
      rw [update, written]
      exact grown
    | ok t' =>
      rw [update, written]
      refine ⟨t₁, grown, ?_⟩
      rw [← grown.workingDirectory]
      exact write_eq_ok written

theorem placed_place (p : Path) (bytes : List UInt8) (t : FileTree) :
    t.Placed p bytes ((fileSystem.place p bytes).run.run t) := by
  unfold FileSystem.place
  split
  · exact (Building.makeNested _).write p bytes t
  · exact (Building.pure ()).write p bytes t

end FileTree

namespace OutputDirectory

open FileTree

/-- An artifact that is stored stands at the location of its path; every other file is what it was,
and no directory is gone. An attempt that fails leaves all files as they were. -/
theorem store_places (o : OutputDirectory) (name : String) (bytes : List UInt8) (t : FileTree) :
    match (o.store fileSystem name bytes).run.run t with
    | (.error _, t') => t.Grows t'
    | (.ok p, t') => p = o.artifactPath name ∧ t.directories <+: t'.directories ∧
        ∀ here, t'.files.lookup here =
          if here = (o.artifactPath name).location t.workingDirectory then some bytes
          else t.files.lookup here := by
  have placed := placed_place (o.artifactPath name) bytes t
  change match ((fileSystem.place (o.artifactPath name) bytes >>= fun _ =>
    pure (o.artifactPath name)).run.run t) with | (.error _, t') => _ | (.ok p, t') => _
  rw [ExceptT.run_bind, StateT.run_bind]
  rcases ran : (fileSystem.place (o.artifactPath name) bytes).run.run t with ⟨result, t'⟩
  rw [ran] at placed
  cases result with
  | error fault => exact placed
  | ok =>
    obtain ⟨t₁, grown, rfl⟩ := placed
    refine ⟨rfl, ?_, fun here => ?_⟩
    · unfold put
      split <;> exact grown.directories
    · rw [lookup_put, grown.files]

end OutputDirectory
end Registrar
