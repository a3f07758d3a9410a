import Registrar.ClassName
import Registrar.Proofs.Checking.Matching

/-! The languages of names. Identifiers, dotted names, dimensions and array descriptors are regular
languages, and the patterns for names are found in exactly the words of them, whatever matcher looks
for them. -/
namespace Registrar.ClassName

open Text
open scoped Computability

/-! ### Languages -/

/-- A letter, `_` or one of the further characters, and behind it any number of these and of
numerals. -/
def identifiers (more : List Char) : Language Char :=
  oneOf (fun c => isLetter c ∨ c = '_' ∨ c ∈ more) *
    (oneOf fun c => isLetter c ∨ isNumeral c ∨ c = '_' ∨ c ∈ more)∗

/-- Identifiers with single dots between them. -/
def dottedNames (more : List Char) : Language Char :=
  identifiers more * ({['.']} * identifiers more)∗

/-- A dotted name that any number of `[]` follows. -/
def sourceNames : Language Char := dottedNames ['$'] * {['[', ']']}∗

/-- What an array descriptor says of its elements: `L`, a dotted name and a semicolon, or the letter
of a primitive type. -/
def elementTypes : Language Char :=
  {['L']} * dottedNames ['$'] * {[';']} +
    oneOf (· ∈ ['Z', 'B', 'C', 'S', 'I', 'J', 'F', 'D'])

/-- One or more `[`, and the type of the elements. -/
def arrayDescriptors : Language Char := {['[']} * {['[']}∗ * elementTypes

/-! ### The words of the patterns -/

theorem words_identifier (more : List Char) : (identifier more).words = identifiers more := by
  change Pattern.words (.oneOf _) * (Pattern.words (.oneOf _))∗ = _
  simp [Pattern.words, identifiers, ClassItem.holds]

theorem words_dotted (more : List Char) : (dotted more).words = dottedNames more := by
  change (identifier more).words * ({['.']} * (identifier more).words)∗ = _
  rw [words_identifier, dottedNames]

theorem words_sourceName : sourceName.words = sourceNames := by
  have pair : ({['[']} * {[']']} : Language Char) = {['[', ']']} := Set.image2_singleton
  change (dotted ['$']).words * ({['[']} * {[']']})∗ = _
  rw [words_dotted, pair, sourceNames]

theorem words_arrayDescriptor : arrayDescriptor.words = arrayDescriptors := by
  have letters : Pattern.words (.oneOf (primitiveLetters.map .char)) =
      oneOf (· ∈ primitiveLetters) := by
    simp [Pattern.words, ClassItem.holds]
  change {['[']} * {['[']}∗ *
    ({['L']} * (dotted ['$']).words * {[';']} + Pattern.words (.oneOf _)) = _
  rw [words_dotted, letters, arrayDescriptors, elementTypes, primitiveLetters]

theorem plain_dotted (more : List Char) : (dotted more).Plain :=
  have identifier : (identifier more).Plain := ⟨trivial, trivial⟩
  ⟨identifier, trivial, identifier⟩

/-! ### Recognition -/

section

variable {m : Matcher} (documented : m.Documented) {name : String}
include documented

theorem isBinaryBy_iff : isBinaryBy m name ↔ name.toList ∈ sourceNames + arrayDescriptors := by
  have plain : (Pattern.group (.alt sourceName arrayDescriptor)).Plain :=
    ⟨⟨plain_dotted _, trivial, trivial⟩, trivial, ⟨⟨trivial, plain_dotted _⟩, trivial⟩, trivial⟩
  rw [isBinaryBy, documented, binaryName, Pattern.foundIn_start_stop plain, Pattern.words,
    Pattern.words, words_sourceName, words_arrayDescriptor]

theorem isPackageBy_iff : isPackageBy m name ↔ name.toList ∈ dottedNames [] := by
  rw [isPackageBy, documented, packageName, Pattern.foundIn_start_stop (plain_dotted []),
    words_dotted]

end

variable {name : String}

theorem isBinary_iff : isBinary name ↔ name.toList ∈ sourceNames + arrayDescriptors :=
  isBinaryBy_iff Matcher.standard_documented

theorem isPackage_iff : isPackage name ↔ name.toList ∈ dottedNames [] :=
  isPackageBy_iff Matcher.standard_documented

/-- With any matcher that keeps to what is documented, the checks accept exactly the words of the
languages: a binary name is a source name or an array descriptor, and the name of a package is a
dotted name without `$`. So it does not matter which one validation uses. -/
theorem names_recognized (m : Matcher) (documented : m.Documented) (name : String) :
    (isBinaryBy m name ↔ name.toList ∈ sourceNames + arrayDescriptors) ∧
      (isPackageBy m name ↔ name.toList ∈ dottedNames []) ∧
      isBinaryBy m name = isBinary name ∧ isPackageBy m name = isPackage name := by
  have binary : isBinaryBy m name ↔ _ := isBinaryBy_iff documented
  have package : isPackageBy m name ↔ _ := isPackageBy_iff documented
  exact ⟨binary, package, Bool.eq_iff_iff.2 (binary.trans isBinary_iff.symm),
    Bool.eq_iff_iff.2 (package.trans isPackage_iff.symm)⟩

/-- Dimensions follow a name, but not a descriptor. -/
theorem names_recognized_dimensions :
    Matcher.standard.Documented ∧ "int[]".toList ∈ sourceNames + arrayDescriptors ∧
      "[I[]".toList ∉ sourceNames + arrayDescriptors := by
  have recognized := names_recognized .standard Matcher.standard_documented
  exact ⟨Matcher.standard_documented, (recognized "int[]").1.1 (by decide),
    fun listed => absurd ((recognized "[I[]").1.2 listed) (by decide)⟩

end Registrar.ClassName
