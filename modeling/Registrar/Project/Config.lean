import Registrar.Project.Error
import Registrar.Storage.FileSystem
import Registrar.Synthesis.Options

/-! The configuration of a project, as it stands in a file at its root. -/
namespace Registrar

structure Config where
  options : Options := {}
  /-- Patterns of the manifests, as they are seen from the base. -/
  manifests : List String := []
  outputDirectory : Option String := none
  logLevel : LogLevel := .info
  /-- The directory that relative paths start from; empty for the working directory. -/
  base : Path := ⟨""⟩

namespace Config

open Json (Codec)

/-- The name of a configuration file. -/
def fileName : String := "nfc.json"

def defaultOutput : String := "target/native-features"

def logLevels : List LogLevel := [.debug, .info, .warn, .error]

/-- Levels stand by their names. -/
def levelCodec : Codec LogLevel :=
  ⟨.choice (logLevels.map (·.name)), fun l => .text l.name,
    fun j => (logLevels.find? (·.name = j.asText)).getD .info⟩

/-- The base does not stand in the file. -/
def codec : Codec Config := .struct {} [
  .of "synthesis" Options.codec (·.options) fun c v => { c with options := v },
  .of "manifests" .texts (·.manifests) fun c v => { c with manifests := v },
  .of "output_dir" .optionalText (·.outputDirectory) fun c v => { c with outputDirectory := v },
  .of "log_level" levelCodec (·.logLevel) fun c v => { c with logLevel := v }]

/-- A path as it is seen from the base. -/
def resolve (c : Config) (p : Path) : Path := if c.base.text = "" then p else c.base.join p

/-- The patterns of the manifests, as they are seen from the working directory. -/
def patterns (c : Config) : List String := c.manifests.map fun p => (c.resolve ⟨p⟩).text

def output (c : Config) : Path := c.resolve ⟨c.outputDirectory.getD defaultOutput⟩

section

variable {m : Type → Type} [Monad m] (fs : FileSystem m)

/-- Reads a configuration file, whose directory becomes the base. -/
def load (p : Path) : ExceptT ProjectError m Config := do
  let text ← ExceptT.adapt (.unreadableConfig p) (fs.readText p)
  match codec.read .standard text with
  | .ok c => return { c with base := p.parent?.getD ⟨"."⟩ }
  | .error fault => throw (.malformedConfig p fault)

/-- The configuration file of a directory. -/
def discover (dir : Path) : m (Option Path) := do
  let candidate := dir.join ⟨fileName⟩
  return if ← fs.isFile candidate then some candidate else none

end

end Config
end Registrar
