import Registrar.CommandLine.Invocation
import Registrar.Project.Basic
import Registrar.Version

/-! The program as it is called: what it does with a file system, and what it prints. -/
namespace Registrar.CommandLine

/-- What is left of a run for its caller. -/
structure Completion where
  code : UInt32
  stdout : String := ""
  stderr : String := ""
  deriving DecidableEq

def programName : String := "nfc"

/-- How a level is called in front of a message. -/
def label : LogLevel → String
  | .debug => "DEBUG"
  | .info => "INFO"
  | .warn => "WARN"
  | .error => "ERROR"

def entryLine (e : LogEntry) : String := s!"[{programName} {label e.level}] {e.message}\n"

def entryLines (es : List LogEntry) : String := String.join (es.map entryLine)

/-- Progress is shown with the results, all other messages with the errors. -/
def logged (log : Log) : Completion where
  code := 0
  stdout := entryLines (log.entries.filter (·.level = .info))
  stderr := entryLines (log.entries.filter (·.level ≠ .info))

def hint : ProjectError → String
  | .noManifests =>
    s!"hint: list manifest patterns in {Config.fileName} or pass --manifest\n"
  | _ => ""

/-- The completion of work that ended like this, behind what it has logged. -/
def concluded (result : Except ProjectError String) (log : Log) : Completion :=
  let c := logged log
  match result with
  | .ok text => { c with stdout := c.stdout ++ text }
  | .error e => { c with code := 1, stderr := c.stderr ++ s!"Error: {e.message}\n" ++ hint e }

def help : String :=
  s!"Usage: {programName} generate|plan|inspect [OPTIONS] [FILE]\n"

def stopped : Stop → Completion
  | .misuse => { code := 2, stderr := help }
  | .help => { code := 0, stdout := help }
  | .version => { code := 0, stdout := s!"{programName} {Version.current.full}\n" }

section

variable {m : Type → Type} [Monad m] (fs : FileSystem m)

/-- The configuration that the settings name, the one in the working directory, or none. -/
def baseConfig (s : Settings) : ExceptT ProjectError m Config := do
  let path? ← match s.config with
    | some path => pure (some ⟨path⟩)
    | none => ExceptT.lift (Config.discover fs ⟨"."⟩)
  match path? with
  | some path => Config.load fs path
  | none => return {}

/-- The configuration with the settings in it. Their paths start from the working directory. -/
def configured (s : Settings) : ExceptT ProjectError m Config := do
  let c ← baseConfig fs s
  let here ← ExceptT.lift fs.workingDirectory
  let absolute (p : String) : String := (here.join ⟨p⟩).text
  let logLevel ← match s.logLevel with
    | none => pure c.logLevel
    | some text =>
      match LogLevel.read text with
      | .ok level => pure level
      | .error other => throw (.unknownLogLevel other)
  return { c with
    manifests := if s.manifests.isEmpty then c.manifests else s.manifests.map absolute
    logLevel
    options := { c.options with unitName := s.unitName.getD c.options.unitName }
    outputDirectory := s.output.elim c.outputDirectory fun dir => some (absolute dir) }

/-- Work on a configured project; a log starts once it is known at which level. -/
def onProject (s : Settings) (work : Config → LoggedT m ProjectError String) : m Completion := do
  match ← (configured fs s).run with
  | .error e => return concluded (.error e) { level := .error }
  | .ok c =>
    let (result, log) ← (work c).run.run { level := c.logLevel }
    return concluded result log

def perform : Invocation → m Completion
  | .generate s withListing => onProject fs s fun c => do
    return (← c.generate fs withListing).artifact.text ++ "\n"
  | .plan s => onProject fs s fun c => do return (← c.plan fs) ++ "\n"
  | .inspect artifact => do
    return concluded (← (inspect fs ⟨artifact⟩).run) { level := .error }

/-- The whole program, from its arguments on. -/
def run (arguments : List String) : m Completion :=
  match Invocation.ofArguments arguments with
  | .ok invocation => perform fs invocation
  | .error stop => return stopped stop

end

end Registrar.CommandLine
