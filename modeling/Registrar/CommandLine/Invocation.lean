import Registrar.CommandLine.Arguments

/-! What a command line asks for. -/
namespace Registrar.CommandLine

/-- What is said about a project in place of its configuration. -/
structure Settings where
  config : Option String := none
  manifests : List String := []
  logLevel : Option String := none
  unitName : Option String := none
  output : Option String := none
  deriving DecidableEq

inductive Invocation where
  | generate (settings : Settings) (withListing : Bool)
  | plan (settings : Settings)
  | inspect (artifact : String)
  deriving DecidableEq

def helpOption : OptionSpec := { long := "help", short := 'h', kind := .help }

/-- What may stand in the place of a command. -/
def generalOptions : List OptionSpec :=
  [helpOption, { long := "version", short := 'V', kind := .version }]

def projectOptions : List OptionSpec := [helpOption,
  { long := "config", short := 'c', kind := .single },
  { long := "manifest", short := 'm', kind := .repeated },
  { long := "log-level", kind := .single },
  { long := "unit-name", kind := .single }]

def generateOptions : List OptionSpec := projectOptions ++ [
  { long := "output", short := 'o', kind := .single },
  { long := "listing", kind := .switch }]

def commands : List String := ["generate", "plan", "inspect", "help"]

namespace Settings

def ofGiven (g : Given) : Settings where
  config := g.value? "config"
  manifests := g.values "manifest"
  logLevel := g.value? "log-level"
  unitName := g.value? "unit-name"
  output := g.value? "output"

end Settings

namespace Invocation

/-- Help on a command, or on all of them. -/
def readHelp : List String → Stop
  | [] => .help
  | [command] => if commands.contains command then .help else .misuse
  | _ => .misuse

/-- Reads a command and what belongs to it. -/
def ofArguments : List String → Except Stop Invocation
  | "generate" :: words => do
    let g ← readWords generateOptions 0 (none, {}) words
    return .generate (.ofGiven g) (g.has "listing")
  | "plan" :: words => do
    let g ← readWords projectOptions 0 (none, {}) words
    return .plan (.ofGiven g)
  | "inspect" :: words => do
    let g ← readWords [helpOption] 1 (none, {}) words
    match g.operands with
    | [artifact] => return .inspect artifact
    | _ => throw .misuse
  | "help" :: words => throw (readHelp words)
  | words => do
    let _ ← readWords generalOptions 0 (none, {}) words
    throw .misuse

end Invocation
end Registrar.CommandLine
