/-! The words of a command line, sorted into options and operands. -/
namespace Registrar.CommandLine

/-- How often an option may be given, and whether a value belongs to it. -/
inductive OptionKind where
  | switch
  /-- With a value, at most once. -/
  | single
  /-- With a value, any number of times. -/
  | repeated
  /-- Asks for help, whatever follows. -/
  | help
  /-- Asks for the version, whatever follows. -/
  | version
  deriving DecidableEq

structure OptionSpec where
  long : String
  short : Option Char := none
  kind : OptionKind
  deriving DecidableEq

/-- Why the words are not read to their end. -/
inductive Stop where
  | misuse
  | help
  | version
  deriving DecidableEq

/-- Options with their values, and operands, in the order in which they were given. -/
structure Given where
  options : List (String × String) := []
  operands : List String := []
  deriving DecidableEq

namespace Given

def has (g : Given) (long : String) : Bool := g.options.any (·.1 = long)

def values (g : Given) (long : String) : List String :=
  (g.options.filter (·.1 = long)).map (·.2)

def value? (g : Given) (long : String) : Option String := g.options.lookup long

/-- Only some options may be given again. -/
def add (g : Given) (s : OptionSpec) (value : String) : Except Stop Given :=
  if s.kind ≠ .repeated ∧ g.has s.long then .error .misuse
  else .ok { g with options := g.options ++ [(s.long, value)] }

def addOperand (limit : Nat) (g : Given) (word : String) : Except Stop Given :=
  if g.operands.length < limit then .ok { g with operands := g.operands ++ [word] }
  else .error .misuse

end Given

/-- A word that starts with a dash, other than the dash alone, cannot be the value of an option. -/
def isOptionLike (word : String) : Bool :=
  match word.toList with
  | '-' :: _ :: _ => true
  | _ => false

/-- An option that waits for its value, and what was given before. -/
abbrev Pending := Option OptionSpec × Given

/-- A long option, with the value behind an equals sign if there is one. -/
def addLong (specs : List OptionSpec) (g : Given) (name : String) (value? : Option String) :
    Except Stop Pending :=
  match specs.find? (·.long = name) with
  | none => .error .misuse
  | some s =>
    match s.kind, value? with
    | .help, none => .error .help
    | .version, none => .error .version
    | .switch, none => (g.add s "").map (none, ·)
    | .single, some v => (g.add s v).map (none, ·)
    | .repeated, some v => (g.add s v).map (none, ·)
    | .single, none => .ok (some s, g)
    | .repeated, none => .ok (some s, g)
    | _, some _ => .error .misuse

/-- Short options in one word. The first one that takes a value takes all that follows it, without
an equals sign in front. -/
def addShort (specs : List OptionSpec) (g : Given) : List Char → Except Stop Pending
  | [] => .ok (none, g)
  | c :: cs =>
    match specs.find? (·.short = some c) with
    | none => .error .misuse
    | some s =>
      match s.kind with
      | .help => .error .help
      | .version => .error .version
      | .switch =>
        match g.add s "" with
        | .ok g => addShort specs g cs
        | .error stop => .error stop
      | _ =>
        match cs with
        | [] => .ok (some s, g)
        | '=' :: cs => (g.add s (String.ofList cs)).map (none, ·)
        | cs => (g.add s (String.ofList cs)).map (none, ·)

/-- What stands before the first equals sign, and what stands behind it if there is one. -/
def splitEquals (cs : List Char) : String × Option String :=
  let name := cs.takeWhile (· != '=')
  (String.ofList name,
    if name.length < cs.length then some (String.ofList (cs.drop (name.length + 1))) else none)

/-- Reads words as options and at most so many operands. Behind two dashes there are only operands.
-/
def readWords (specs : List OptionSpec) (limit : Nat) : Pending → List String → Except Stop Given
  | (none, g), [] => .ok g
  | (some _, _), [] => .error .misuse
  | (some s, g), word :: words =>
    if isOptionLike word then .error .misuse
    else do readWords specs limit (none, ← g.add s word) words
  | (none, g), word :: words =>
    match word.toList with
    | ['-', '-'] => words.foldlM (Given.addOperand limit) g
    | '-' :: '-' :: cs => do
      let (name, value?) := splitEquals cs
      readWords specs limit (← addLong specs g name value?) words
    | '-' :: c :: cs => do readWords specs limit (← addShort specs g (c :: cs)) words
    | _ => do readWords specs limit (none, ← g.addOperand limit word) words

end Registrar.CommandLine
