import Registrar.CommandLine.Basic

/-! The program on the files of the machine it runs on. -/
namespace Registrar

/-- A file where a directory was looked for, or the other way round. -/
def StorageFault.ofWrongKind (code : UInt32) : StorageFault :=
  if code = 20 then .notADirectory else .isADirectory

/-- The fault that stands for an error of the machine. -/
def StorageFault.ofError : IO.Error → StorageFault
  | .noFileOrDirectory .. => .notFound
  | .inappropriateType _ code _ => .ofWrongKind code
  | .alreadyExists .. => .alreadyExists
  | .invalidArgument _ 36 _ => .nameTooLong
  | e => .refused (toString e)

/-- Work on files, with its errors as faults. -/
def attempted {α : Type} (work : IO α) : ExceptT StorageFault IO α := ExceptT.mk do
  try return .ok (← work)
  catch e => return .error (.ofError e)

/-- What a path leads to; the empty path leads nowhere. -/
def kindOnMachine? (p : Path) : IO (Option FileKind) := do
  if p.text = "" then return none
  try
    let data ← ((← IO.currentDir) / p.text).metadata
    match data.type with
    | .dir => return some .directory
    | _ => return some .file
  catch _ => return none

def machine : FileSystem IO where
  read p := attempted do return (← IO.FS.readBinFile p.text).toList
  write p bytes := attempted (IO.FS.writeBinFile p.text ⟨bytes.toArray⟩)
  makeDirectory p := attempted (IO.FS.createDir p.text)
  kind? := kindOnMachine?
  names p := do
    let entries ← ((← IO.currentDir) / p.text).readDir
    return entries.toList.map (·.fileName)
  workingDirectory := return ⟨(← IO.currentDir).toString⟩

end Registrar

/-- Prints what a run leaves and ends with its code. -/
def main (arguments : List String) : IO UInt32 := do
  let c ← Registrar.CommandLine.run Registrar.machine arguments
  IO.print c.stdout
  IO.eprint c.stderr
  return c.code
