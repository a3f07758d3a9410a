import Registrar.Declarations.Validity
import Registrar.Proofs.Checking.Names
import Registrar.Proofs.Listing.Lines
import Registrar.Proofs.Planning.Union

/-! The names in a listing. A binary name has no character that would end a line, and the parameter
types of members have such names wherever declarations are valid. -/
namespace Registrar

open Text

namespace ClassName

open scoped Computability

/-- The words of a language are made of good characters. -/
def Over (good : Char → Prop) (l : Language Char) : Prop := ∀ w ∈ l, ∀ c ∈ w, good c

section

variable {good p : Char → Prop} {l k : Language Char}

theorem over_word {w : List Char} (all : ∀ c ∈ w, good c) : Over good {w} := by
  rintro _ rfl
  exact all

theorem over_oneOf (all : ∀ c, p c → good c) : Over good (oneOf p) := by
  rintro _ ⟨c, held, rfl⟩ d listed
  rw [List.mem_singleton.1 listed]
  exact all c held

theorem Over.mul (first : Over good l) (second : Over good k) : Over good (l * k) := by
  rintro _ ⟨v, left, w, right, rfl⟩ c listed
  exact (List.mem_append.1 listed).elim (first v left c) (second w right c)

theorem Over.add (first : Over good l) (second : Over good k) : Over good (l + k) := by
  rintro w (left | right)
  · exact first w left
  · exact second w right

theorem Over.kstar (all : Over good l) : Over good l∗ := by
  rintro _ ⟨words, rfl, each⟩ c listed
  obtain ⟨word, one, mem⟩ := List.mem_flatten.1 listed
  exact all word (each word one) c mem

end

/-- What may stand in a binary name. -/
def InBinary (c : Char) : Prop := c ∈ ['.', ';', '[', ']', '_', '$'] ∨ isLetter c ∨ isNumeral c

theorem over_dottedNames : Over InBinary (dottedNames ['$']) := by
  have identifier : Over InBinary (identifiers ['$']) := by
    apply Over.mul
    · apply over_oneOf
      rintro c (letter | rfl | special)
      · exact .inr (.inl letter)
      · exact .inl (by decide)
      · exact .inl (by simp_all)
    · apply Over.kstar
      apply over_oneOf
      rintro c (letter | numeral | rfl | special)
      · exact .inr (.inl letter)
      · exact .inr (.inr numeral)
      · exact .inl (by decide)
      · exact .inl (by simp_all)
  have dot : Over InBinary {['.']} := over_word (by simp [InBinary])
  exact identifier.mul (dot.mul identifier).kstar

theorem over_binaryNames : Over InBinary (sourceNames + arrayDescriptors) := by
  have pair : Over InBinary {['[', ']']} := over_word (by simp [InBinary])
  have bracket : Over InBinary {['[']} := over_word (by simp [InBinary])
  have letter : Over InBinary {['L']} := over_word (by simp [InBinary]; decide)
  have semicolon : Over InBinary {[';']} := over_word (by simp [InBinary])
  have primitive : Over InBinary (oneOf (· ∈ ['Z', 'B', 'C', 'S', 'I', 'J', 'F', 'D'])) := by
    have letters : ['Z', 'B', 'C', 'S', 'I', 'J', 'F', 'D'].all isLetter := by decide
    exact over_oneOf fun c listed => .inr (.inl (List.all_eq_true.1 letters c listed))
  apply Over.add
  · exact over_dottedNames.mul pair.kstar
  · exact (bracket.mul bracket.kstar).mul
      (((letter.mul over_dottedNames).mul semicolon).add primitive)

/-- A line break is none of the characters of binary names. -/
theorem oneLine_binary {name : String} (h : isBinary name) : OneLine name := by
  intro listed
  rcases over_binaryNames _ (isBinary_iff.1 h) _ listed with mark | letter | numeral
  · exact absurd mark (by decide)
  · exact absurd letter (by decide)
  · exact absurd numeral (by decide)

end ClassName

/-! ### Parameter types -/

theorem ReflectiveMethod.binary_params {m : ReflectiveMethod} (valid : m.violations = []) :
    ∀ t ∈ m.params, ClassName.isBinary t := by
  intro t listed
  have checks := (List.append_eq_nil_iff.1 valid).2
  have passed := List.flatMap_eq_nil_iff.1 checks t listed
  by_contra other
  simp [checkClassName, other] at passed

theorem Declarations.methods_valid {d : Declarations} (valid : d.validate = .ok ()) :
    ∀ m ∈ d.reflectiveMethods, m.violations = [] := by
  have none := d.validate_eq_ok_iff.1 valid
  simp only [violations, List.append_eq_nil_iff, and_assoc] at none
  exact List.flatMap_eq_nil_iff.1 none.2.2.1

namespace ClassTable

variable {d : Declarations} {r : ClassRecord}

/-- The members of a class take parameters with binary names. -/
theorem oneLine_params (valid : d.validate = .ok ()) (listed : r ∈ (ofDeclarations d).records)
    {s : Signature} (member : s ∈ r.constructors.toList ∨ s ∈ r.methods.toList) :
    ∀ t ∈ s.params, OneLine t := by
  have unites := unites_of_mem listed
  rw [unites.constructors, unites.methods, List.mem_eraseDups, List.mem_eraseDups] at member
  obtain ⟨m, declared, rfl⟩ : ∃ m ∈ d.reflectiveMethods, m.signature = s := by
    simp only [Declarations.methodsOf, List.mem_map, List.mem_filter] at member
    rcases member with ⟨m, ⟨⟨declared, -⟩, -⟩, eq⟩ | ⟨m, ⟨⟨declared, -⟩, -⟩, eq⟩
    · exact ⟨m, declared, eq⟩
    · exact ⟨m, declared, eq⟩
  intro t named
  exact ClassName.oneLine_binary
    (ReflectiveMethod.binary_params (Declarations.methods_valid valid m declared) t named)

end ClassTable

/-- Dots in place of slashes keep a name on its line. -/
theorem oneLine_dotted {name : String} (line : OneLine name) : OneLine (dotted name) := by
  rw [OneLine, dotted, String.toList_ofList, List.mem_map]
  rintro ⟨c, listed, eq⟩
  split at eq
  next => exact absurd eq (by decide)
  next => exact line (eq ▸ listed)

end Registrar
