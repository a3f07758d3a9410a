/-! File paths. A path is kept as it was written; what it means is read off its steps. -/
namespace Registrar

structure Path where
  text : String
  deriving DecidableEq

namespace Path

/-- A path is walked from the root or from where the walker is. -/
inductive Step where
  | root
  | here
  | up
  | name (text : String)
  deriving DecidableEq

/-- The text between the slashes. -/
def segments (p : Path) : List String := (p.text.toList.splitOn '/').map String.ofList

def isAbsolute (p : Path) : Bool := p.text.toList.head? = some '/'

/-- Segments that lead nowhere else. -/
def isIdle (segment : String) : Bool := segment = "" || segment = "."

def step (segment : String) : Step := if segment = ".." then .up else .name segment

/-- Doubled slashes and single dots do not count, but for a dot in front. -/
def steps (p : Path) : List Step :=
  let behind (rest : List String) : List Step := (rest.filter (!isIdle ·)).map step
  match p.segments with
  | [] => []
  | [""] => []
  | "" :: rest => .root :: behind rest
  | "." :: rest => .here :: behind rest
  | first :: rest => step first :: behind rest

/-- The root is absolute, and nothing else that has a slash behind it needs another one. -/
def endsOpen (p : Path) : Bool := p.text = "" || p.text.toList.getLast? = some '/'

/-- A path as it is seen from a directory. An absolute one stays what it is. -/
def join (dir p : Path) : Path :=
  if p.isAbsolute then p
  else if dir.endsOpen then ⟨dir.text ++ p.text⟩
  else ⟨dir.text ++ "/" ++ p.text⟩

/-- The path without its last step. The root and the empty path have none. -/
def parent? (p : Path) : Option Path :=
  match p.segments with
  | [] => none
  | first :: rest =>
    match rest.reverse.dropWhile isIdle with
    | [] => if first = "" then none else some ⟨""⟩
    | _ :: before =>
      match (before.dropWhile isIdle).reverse with
      | [] => some ⟨if first = "" then "/" else first⟩
      | kept => some ⟨"/".intercalate (first :: kept)⟩

/-- The path and those that it is in, innermost first. -/
def enclosing (p : Path) : List Path := go p.text.length p
where
  go : Nat → Path → List Path
    | 0, p => [p]
    | n + 1, p =>
      match p.parent? with
      | none => [p]
      | some outer => p :: go n outer

/-- What stands before the last slash, with the slash, and the name behind it. -/
def splitName (p : Path) : List Char × List Char :=
  let cs := p.text.toList.reverse
  ((cs.dropWhile (· != '/')).reverse, (cs.takeWhile (· != '/')).reverse)

/-- What stands before the last dot of a name. A dot in front does not count. -/
def stem? (name : List Char) : Option (List Char) :=
  match name.reverse.dropWhile (· != '.') with
  | [] => none
  | [_] => none
  | _ :: before => if name = ['.', '.'] then none else some before.reverse

/-- Replaces the extension of the file name, or adds one. Where only dots that lead upwards would
be left of the name, it is left with them. -/
def withExtension (p : Path) (extension : String) : Path :=
  let (dir, name) := p.splitName
  let named (stem : List Char) : Path :=
    ⟨String.ofList (dir ++ stem ++ ['.']) ++ extension⟩
  match stem? name with
  | some ['.'] => ⟨String.ofList (dir ++ ['.', '.'])⟩
  | some stem => named stem
  | none => if name = ['.', '.'] then p else named name

@[simp] theorem join_absolute (dir : Path) {p : Path} (h : p.isAbsolute = true) :
    dir.join p = p := by
  simp [join, h]

end Path
end Registrar
