import Registrar.Text.Pattern

/-! The names by which classes and packages are declared. -/
namespace Registrar.ClassName

open Text

/-- A letter, `_` or one of the further characters; behind it also numerals. -/
def identifier (more : List Char) : Pattern :=
  .oneOf (.letter :: .char '_' :: more.map .char) ++
    .many (.oneOf (.letter :: .numeral :: .char '_' :: more.map .char))

/-- Identifiers with single dots between them. -/
def dotted (more : List Char) : Pattern :=
  identifier more ++ .many (.group (.char '.' ++ identifier more))

/-- The letters of the primitive types in array descriptors. -/
def primitiveLetters : List Char := ['Z', 'B', 'C', 'S', 'I', 'J', 'F', 'D']

/-- A qualified name that any number of `[]` follows. -/
def sourceName : Pattern := dotted ['$'] ++ .many (.group (.char '[' ++ .char ']'))

/-- Brackets, and behind them a qualified name between `L` and a semicolon or the letter of a
primitive type. -/
def arrayDescriptor : Pattern :=
  .some (.char '[') ++ .group (.alt (.char 'L' ++ dotted ['$'] ++ .char ';')
    (.oneOf (primitiveLetters.map .char)))

/-- The whole text is a source name or an array descriptor. -/
def binaryName : Pattern := .start ++ .group (.alt sourceName arrayDescriptor) ++ .stop

/-- The whole text is made of identifiers without `$`, with single dots between them. -/
def packageName : Pattern := .start ++ dotted [] ++ .stop

/-- How the patterns are written. -/
example :
    let identifier := "[\\p\x7bL\x7d_$][\\p\x7bL\x7d\\p\x7bN\x7d_$]*"
    let qualified := identifier ++ "(?:\\." ++ identifier ++ ")*"
    binaryName.text = "^(?:" ++ qualified ++ "(?:\\[\\])*|\\[+(?:L" ++ qualified ++
      ";|[ZBCSIJFD]))$" := by rfl

example :
    let identifier := "[\\p\x7bL\x7d_][\\p\x7bL\x7d\\p\x7bN\x7d_]*"
    packageName.text = "^" ++ identifier ++ "(?:\\." ++ identifier ++ ")*$" := by rfl

variable (m : Matcher) (name : String)

def isBinaryBy : Bool := m.isMatch binaryName name

def isPackageBy : Bool := m.isMatch packageName name

def isBinary : Bool := isBinaryBy .standard name

def isPackage : Bool := isPackageBy .standard name

end Registrar.ClassName
