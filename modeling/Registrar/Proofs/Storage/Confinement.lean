import Registrar.Project.Output
import Registrar.Storage.FileTree
import Mathlib.Data.List.Infix
import Mathlib.Data.List.TakeWhile

/-! Where the files of an output directory are found. A path leads to a location by its names alone:
a dot stays where it is, two dots go up, and the root is its own parent. The name of an artifact is
walked from the output directory, so that it may lead out of it. -/
namespace Registrar

namespace Location

/-- Where a segment leads. -/
def after (here : Location) (segment : String) : Location :=
  if Path.isIdle segment then here
  else if segment = ".." then here.dropLast
  else here ++ [segment]

/-- Where the segments of a text lead, one after the other. -/
def walk (here : Location) (cs : List Char) : Location :=
  ((cs.splitOn '/').map String.ofList).foldl after here

/-- The location is properly below a directory. -/
def Inside (here dir : Location) : Prop := dir <+: here ∧ here ≠ dir

instance (here dir : Location) : Decidable (here.Inside dir) :=
  inferInstanceAs (Decidable (_ ∧ _))

variable (here dir : Location)

/-- Only dots lead elsewhere than to a name. -/
theorem after_of_length {cs : List Char} (long : 2 < cs.length) :
    after here (String.ofList cs) = here ++ [String.ofList cs] := by
  have ne {dots : String} (short : dots.toList.length ≤ 2) : String.ofList cs ≠ dots := by
    rintro rfl
    rw [String.toList_ofList] at short
    omega
  unfold after
  rw [if_neg, if_neg (ne (by decide))]
  simp [Path.isIdle, ne]

theorem eq_after_of_enter {t : FileTree} {here there : Location} {segment : String}
    (gone : t.enter here segment = .ok there) : there = after here segment := by
  unfold FileTree.enter at gone
  unfold after
  split at gone <;> grind

theorem eq_walk_of_foldlM {t : FileTree} {here there : Location} {segments : List String}
    (gone : segments.foldlM t.enter here = .ok there) : there = segments.foldl after here := by
  induction segments generalizing here with
  | nil => exact (Except.ok.inj gone).symm
  | cons segment segments ih =>
    rw [List.foldlM_cons] at gone
    cases first : t.enter here segment with
    | error f =>
      rw [first] at gone
      cases gone
    | ok next =>
      rw [first] at gone
      rw [List.foldl_cons, ← eq_after_of_enter first]
      exact ih gone

@[simp] theorem walk_nil : walk here [] = here := rfl

theorem inside_concat (name : String) : Inside (here ++ [name]) dir ↔ dir <+: here := by
  unfold Inside
  rw [List.prefix_concat_iff]
  constructor
  · rintro ⟨same | above, other⟩
    · exact absurd same.symm other
    · exact above
  · intro above
    refine ⟨.inr above, fun same => ?_⟩
    have shorter := above.length_le
    rw [← same, List.length_append, List.length_singleton] at shorter
    omega

theorem walk_of_not_mem {cs : List Char} (single : '/' ∉ cs) :
    walk here cs = after here (String.ofList cs) := by
  rw [walk, List.splitOn_eq_singleton single]
  rfl

/-- Behind a slash, the walk goes on from where it has led so far. -/
theorem walk_append (cs rest : List Char) :
    walk here (cs ++ '/' :: rest) = walk (walk here cs) rest := by
  rw [walk, walk, walk, List.splitOn_append_cons_self, List.map_append, List.foldl_append]

end Location

namespace Path

open Location

/-- Where a path leads to from a directory. -/
def location (p : Path) (base : Location) : Location :=
  walk (if p.isAbsolute then [] else base) p.text.toList

variable (p : Path) (base : Location)

/-- What is found in a file tree is found at its location. -/
theorem location_of_locate {t : FileTree} {here : Location} (found : t.locate p = .ok here) :
    here = p.location t.workingDirectory := by
  unfold FileTree.locate at found
  split at found
  · cases found
  split at found
  · cases found
  split at found
  · cases found
  · exact eq_walk_of_foldlM found

theorem location_of_absolute (absolute : p.isAbsolute = true) :
    p.location base = walk [] p.text.toList := by
  rw [location, if_pos absolute]

theorem location_of_relative (relative : p.isAbsolute = false) :
    p.location base = walk base p.text.toList := by
  rw [location, if_neg (by simp [relative])]

/-- Behind a slash, the walk goes on from where the path up to the slash leads. -/
theorem location_append (cs rest : List Char) :
    (⟨String.ofList (cs ++ '/' :: rest)⟩ : Path).location base =
      walk ((⟨String.ofList (cs ++ ['/'])⟩ : Path).location base) rest := by
  have absolute : (⟨String.ofList (cs ++ '/' :: rest)⟩ : Path).isAbsolute =
      (⟨String.ofList (cs ++ ['/'])⟩ : Path).isAbsolute := by
    cases cs <;> simp [isAbsolute]
  rw [location, location, absolute, String.toList_ofList, String.toList_ofList, walk_append,
    walk_append, walk_nil]

/-- A slash at the end makes no difference, except that it makes the root. -/
theorem location_concat {cs : List Char} (nonempty : cs ≠ []) :
    (⟨String.ofList (cs ++ ['/'])⟩ : Path).location base =
      (⟨String.ofList cs⟩ : Path).location base := by
  obtain ⟨c, cs, rfl⟩ := List.exists_cons_of_ne_nil nonempty
  have absolute : (⟨String.ofList (c :: cs ++ ['/'])⟩ : Path).isAbsolute =
      (⟨String.ofList (c :: cs)⟩ : Path).isAbsolute := by
    simp [isAbsolute]
  rw [location, location, absolute, String.toList_ofList, String.toList_ofList, walk_append,
    walk_nil]

/-- A path that starts in another one is walked from where that one leads. -/
theorem location_join (dir : Path) :
    (dir.join p).location base = p.location (dir.location base) := by
  cases absolute : p.isAbsolute with
  | true => rw [join_absolute dir absolute, location_of_absolute p _ absolute,
      location_of_absolute p _ absolute]
  | false =>
    obtain ⟨dir⟩ := dir
    obtain ⟨cs, rfl⟩ : ∃ cs, dir = String.ofList cs := ⟨dir.toList, String.ofList_toList.symm⟩
    rw [location_of_relative p _ absolute, join, if_neg (by simp [absolute])]
    -- A slash is put between, unless the first path is empty or ends in one.
    rcases List.eq_nil_or_concat' cs with rfl | ⟨cs, c, rfl⟩
    · have joined : (⟨String.ofList [] ++ p.text⟩ : Path) = p := by simp
      rw [if_pos (by decide), joined, location_of_relative p _ absolute]
      rfl
    by_cases slash : c = '/'
    · subst slash
      have joined : (⟨String.ofList (cs ++ ['/']) ++ p.text⟩ : Path) =
          ⟨String.ofList (cs ++ '/' :: p.text.toList)⟩ := by
        simp [← String.toList_inj]
      rw [if_pos (by simp [endsOpen]), joined, location_append]
    · have joined : (⟨String.ofList (cs ++ [c]) ++ "/" ++ p.text⟩ : Path) =
          ⟨String.ofList (cs ++ [c] ++ '/' :: p.text.toList)⟩ := by
        simp [← String.toList_inj]
      rw [if_neg (by simp [endsOpen, slash, ← String.toList_inj]), joined, location_append,
        location_concat _ (by simp)]

/-! ### The name at the end -/

/-- The directory of the file that a path names, with the slash behind it. -/
def folder (p : Path) : Path := ⟨String.ofList p.splitName.1⟩

/-- What stands behind the last slash. -/
def lastName (p : Path) : String := String.ofList p.splitName.2

/-- A text that is empty or ends in a slash. -/
def IsOpen (dir : List Char) : Prop := dir = [] ∨ ∃ cs, dir = cs ++ ['/']

theorem splitName_of_isOpen {dir name : List Char} (isOpen : IsOpen dir) (single : '/' ∉ name) :
    (⟨String.ofList (dir ++ name)⟩ : Path).splitName = (dir, name) := by
  have inName : ∀ c ∈ name.reverse, (c != '/') = true := by
    intro c listed
    rw [bne_iff_ne]
    rintro rfl
    exact single (List.mem_reverse.1 listed)
  have taken : dir.reverse.takeWhile (· != '/') = [] := by
    rcases isOpen with rfl | ⟨cs, rfl⟩ <;> simp
  have dropped : dir.reverse.dropWhile (· != '/') = dir.reverse := by
    rcases isOpen with rfl | ⟨cs, rfl⟩ <;> simp
  rw [splitName, String.toList_ofList, List.reverse_append, List.dropWhile_append_of_pos inName,
    List.takeWhile_append_of_pos inName, taken, dropped]
  simp

theorem isOpen_splitName : IsOpen p.splitName.1 := by
  have stops := List.head?_dropWhile_not (· != '/') p.text.toList.reverse
  have same : p.splitName.1 = (p.text.toList.reverse.dropWhile (· != '/')).reverse := rfl
  rw [same]
  cases kept : p.text.toList.reverse.dropWhile (· != '/') with
  | nil => exact .inl rfl
  | cons c cs =>
    rw [kept] at stops
    obtain rfl : c = '/' := by simpa using stops
    exact .inr ⟨cs.reverse, List.reverse_cons⟩

theorem not_mem_splitName : '/' ∉ p.splitName.2 := by
  intro listed
  have held := List.mem_takeWhile_imp (List.mem_reverse.1 listed)
  simp at held

theorem splitName_append : p.splitName.1 ++ p.splitName.2 = p.text.toList := by
  rw [splitName, ← List.reverse_append, List.takeWhile_append_dropWhile, List.reverse_reverse]

/-- A path leads to its last name in its folder. -/
theorem location_eq : p.location base = (p.folder.location base).after p.lastName := by
  have text : p = ⟨String.ofList (p.splitName.1 ++ p.splitName.2)⟩ := by
    rw [splitName_append, String.ofList_toList]
  have single := p.not_mem_splitName
  rw [folder, lastName, ← walk_of_not_mem _ single]
  rcases p.isOpen_splitName with empty | ⟨cs, slash⟩
  · rw [empty, List.nil_append] at text
    have relative : p.isAbsolute = false := by
      rw [text]
      cases first : p.splitName.2 with
      | nil => rfl
      | cons c cs =>
        rw [first] at single
        simpa [isAbsolute] using Ne.symm (List.ne_of_not_mem_cons single)
    rw [location_of_relative p _ relative, empty, ← p.splitName_append, empty]
    rfl
  · rw [slash, ← location_append]
    rw [slash, List.append_assoc] at text
    exact congrArg (fun q => location q base) text

theorem isOpen_join {dir : Path} (isOpen : IsOpen p.text.toList) :
    IsOpen (dir.join p).text.toList := by
  unfold join
  split
  · exact isOpen
  · split
    · next ends =>
      rw [String.toList_append]
      rcases isOpen with empty | ⟨cs, slash⟩
      · rw [empty, List.append_nil]
        simp only [endsOpen, Bool.or_eq_true, decide_eq_true_eq] at ends
        rcases ends with empty | slash
        · exact .inl (by simp [empty])
        · exact .inr (List.getLast?_eq_some_iff.1 slash)
      · exact .inr ⟨dir.text.toList ++ cs, by rw [slash, List.append_assoc]⟩
    · rw [String.toList_append, String.toList_append]
      rcases isOpen with empty | ⟨cs, slash⟩
      · exact .inr ⟨dir.text.toList, by rw [empty, List.append_nil]; rfl⟩
      · exact .inr ⟨dir.text.toList ++ "/".toList ++ cs, by rw [slash, ← List.append_assoc]⟩

/-- A path that never goes up leads further down. -/
theorem prefix_location (relative : p.isAbsolute = false) (down : ".." ∉ p.segments) :
    base <+: p.location base := by
  rw [location_of_relative p _ relative, walk]
  change base <+: p.segments.foldl after base
  generalize p.segments = segments at down
  induction segments generalizing base with
  | nil => exact List.prefix_rfl
  | cons segment segments ih =>
    have one : base <+: base.after segment := by
      unfold after
      split
      · exact List.prefix_rfl
      · rw [if_neg fun up : segment = ".." => down (up ▸ List.mem_cons_self)]
        exact List.prefix_append ..
    exact one.trans (ih _ fun listed => down (List.mem_cons_of_mem _ listed))

end Path

namespace OutputDirectory

open Registrar.Path

variable (o : OutputDirectory) (name : String)

/-- The artifact stands in the folder of its name, seen from the root. -/
theorem splitName_artifactPath : (o.artifactPath name).splitName =
    ((o.root.join (⟨name⟩ : Path).folder).text.toList,
      (⟨name⟩ : Path).splitName.2 ++ ['.', 'n', 'f', 'u']) := by
  obtain ⟨dir, last, split⟩ : ∃ dir last, (⟨name⟩ : Path).splitName = (dir, last) := ⟨_, _, rfl⟩
  have isOpen := (⟨name⟩ : Path).isOpen_splitName
  have single := (⟨name⟩ : Path).not_mem_splitName
  have text := (⟨name⟩ : Path).splitName_append
  rw [folder, split]
  rw [split] at isOpen single text
  dsimp only at isOpen single text ⊢
  have single' : '/' ∉ last ++ ['.', 'n', 'f', 'u'] := by simpa using single
  have named : name ++ ".nfu" = String.ofList (dir ++ (last ++ ['.', 'n', 'f', 'u'])) := by
    simp [← String.toList_inj, ← text]
  -- Whether a name replaces the output directory is told by its folder alone.
  have absolute : (⟨String.ofList (dir ++ (last ++ ['.', 'n', 'f', 'u']))⟩ : Path).isAbsolute =
      (⟨String.ofList dir⟩ : Path).isAbsolute := by
    rcases isOpen with rfl | ⟨cs, rfl⟩
    · cases last with
      | nil => decide
      | cons c last => simpa [isAbsolute] using Ne.symm (List.ne_of_not_mem_cons single)
    · cases cs <;> simp [isAbsolute]
  have joined : o.artifactPath name =
      ⟨String.ofList ((o.root.join ⟨String.ofList dir⟩).text.toList ++
        (last ++ ['.', 'n', 'f', 'u']))⟩ := by
    rw [artifactPath, named, join, join, absolute]
    split
    · rw [String.toList_ofList]
    · split <;> simp [← String.toList_inj]
  rw [joined]
  exact splitName_of_isOpen (isOpen_join _ (by rwa [String.toList_ofList])) single'

theorem stem?_append (last : List Char) : stem? (last ++ ['.', 'n', 'f', 'u']) =
    if last = [] then none else some last := by
  have ne : last ++ ['.', 'n', 'f', 'u'] ≠ ['.', '.'] := by
    intro same
    have ends := congrArg List.getLast? same
    simp at ends
  rcases List.eq_nil_or_concat' last with rfl | ⟨cs, c, rfl⟩
  · decide
  · simpa [stem?] using ne

/-- How the listing is named whose artifact is named so, before the extension of the artifact. A dot
becomes the two dots of the parent. -/
def listingName : List Char → List Char
  | [] => ".nfu.listing".toList
  | ['.'] => "..".toList
  | last => last ++ ".listing".toList

/-- The listing stands in the same folder as the artifact, as far as it has a name. -/
theorem splitName_listingPath {p : Path} {dir last : List Char}
    (split : p.splitName = (dir, last ++ ['.', 'n', 'f', 'u'])) :
    (listingPath p).splitName = (dir, listingName last) := by
  have isOpen := p.isOpen_splitName
  have single := p.not_mem_splitName
  rw [split] at isOpen single
  dsimp only at isOpen single
  have named : listingPath p = ⟨String.ofList (dir ++ listingName last)⟩ ∧
      '/' ∉ listingName last := by
    rw [listingPath, withExtension, split]
    dsimp only
    rw [stem?_append]
    by_cases empty : last = []
    · subst empty
      rw [if_pos rfl]
      dsimp only
      rw [if_neg (by decide)]
      refine ⟨?_, by decide⟩
      rw [Path.mk.injEq, ← String.toList_inj]
      simp only [String.toList_append, String.toList_ofList, List.nil_append, List.append_assoc]
      rfl
    -- The stem of `..nfu` is a dot, and `..` is what becomes of it.
    by_cases dot : last = ['.']
    · subst dot
      rw [if_neg empty]
      exact ⟨rfl, by decide⟩
    have kept : listingName last = last ++ ".listing".toList := by
      unfold listingName
      split <;> first | contradiction | rfl
    rw [if_neg empty, kept]
    constructor
    · split
      · next same => exact absurd (Option.some.inj same) dot
      · next same =>
        obtain rfl := Option.some.inj same
        simp [← String.toList_inj]
      · next none => cases none
    · simpa using fun listed => single (List.mem_append_left _ listed)
  rw [named.1]
  exact splitName_of_isOpen isOpen named.2

variable (base : Location)

theorem location_artifactPath : (o.artifactPath name).location base =
    (⟨name⟩ : Path).folder.location (o.root.location base) ++
      [String.ofList ((⟨name⟩ : Path).splitName.2 ++ ['.', 'n', 'f', 'u'])] := by
  rw [location_eq, folder, lastName, splitName_artifactPath, String.ofList_toList, location_join,
    Location.after_of_length]
  simp

theorem location_listingPath : (listingPath (o.artifactPath name)).location base =
    ((⟨name⟩ : Path).folder.location (o.root.location base)).after
      (String.ofList (listingName (⟨name⟩ : Path).splitName.2)) := by
  rw [location_eq, folder, lastName, splitName_listingPath (o.splitName_artifactPath name),
    String.ofList_toList, location_join]

theorem after_listingName (here : Location) (last : List Char) :
    here.after (String.ofList (listingName last)) =
      if last = ['.'] then here.dropLast else here ++ [String.ofList (listingName last)] := by
  split
  · next dot =>
    subst dot
    rfl
  · next other =>
    apply Location.after_of_length
    unfold listingName
    split
    · decide
    · contradiction
    · simp

/-- The extensions tell an artifact and its listing apart. -/
theorem artifactName_ne_listingName {last : List Char} (other : last ≠ ['.']) :
    String.ofList (last ++ ['.', 'n', 'f', 'u']) ≠ String.ofList (listingName last) := by
  intro same
  have ends := congrArg List.getLast? (String.ofList_injective same)
  unfold listingName at ends
  split at ends
  · exact absurd ends (by decide)
  · contradiction
  · rw [List.getLast?_append_of_ne_nil _ (by decide),
      List.getLast?_append_of_ne_nil _ (by decide)] at ends
    exact absurd ends (by decide)

/-- Where the artifact of a name and its listing stand, seen from any directory. They never stand in
the same place. The artifact stands below the output directory if and only if the folder of its
name, walked from there, is not outside of it. So does the listing, unless the name ends in a single
dot: then what is left of it leads to the parent of the folder. A folder that is relative and never
goes up is not outside. -/
theorem generated_inside_iff :
    let root : Location := o.root.location base
    let folder : Location := (⟨name⟩ : Path).folder.location root
    let artifact := (o.artifactPath name).location base
    let listing := (listingPath (o.artifactPath name)).location base
    artifact ≠ listing ∧
    (artifact.Inside root ↔ root <+: folder) ∧
    (listing.Inside root ↔ if (⟨name⟩ : Path).lastName = "." then
      Location.Inside folder.dropLast root else root <+: folder) ∧
    ((⟨name⟩ : Path).folder.isAbsolute = false → ".." ∉ (⟨name⟩ : Path).folder.segments →
      root <+: folder) := by
  intro root folder artifact listing
  have dot : (⟨name⟩ : Path).lastName = "." ↔ (⟨name⟩ : Path).splitName.2 = ['.'] := by
    rw [lastName, ← String.toList_inj, String.toList_ofList]
    rfl
  have artifact_eq : artifact = folder ++ [_] := o.location_artifactPath name base
  have listing_eq : listing = if (⟨name⟩ : Path).splitName.2 = ['.'] then folder.dropLast
      else folder ++ [_] :=
    (o.location_listingPath name base).trans (after_listingName ..)
  refine ⟨?_, ?_, ?_, (⟨name⟩ : Path).folder.prefix_location root⟩
  · intro same
    rw [artifact_eq, listing_eq] at same
    split at same
    · have lengths := congrArg List.length same
      rw [List.length_append, List.length_singleton, List.length_dropLast] at lengths
      omega
    · next other =>
      exact artifactName_ne_listingName other
        (List.singleton_inj.1 (List.append_cancel_left same))
  · rw [artifact_eq, Location.inside_concat]
  · rw [listing_eq]
    simp only [dot]
    split
    · rfl
    · rw [Location.inside_concat]

/-- The name of a parent leads out of the output directory, and a name that is a dot makes the listing
the parent of the artifact. -/
theorem generated_inside_iff_climbing :
    let o : OutputDirectory := ⟨⟨"out"⟩⟩
    ¬((o.artifactPath "../x").location ["home"]).Inside (o.root.location ["home"]) ∧
    ¬((listingPath (o.artifactPath ".")).location ["home"]).Inside (o.root.location ["home"]) := by
  intro o
  rw [(o.generated_inside_iff "../x" ["home"]).2.1, (o.generated_inside_iff "." ["home"]).2.2.1]
  decide

end OutputDirectory
end Registrar
