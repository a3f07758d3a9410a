/-! Messages about the progress of the work, each at a level. -/
namespace Registrar

inductive LogLevel where
  | debug
  | info
  | warn
  | error
  deriving DecidableEq

namespace LogLevel

def name : LogLevel → String
  | debug => "debug"
  | info => "info"
  | warn => "warn"
  | error => "error"

/-- The more urgent the messages, the higher the level. -/
def rank : LogLevel → Nat
  | debug => 0
  | info => 1
  | warn => 2
  | error => 3

/-- A log that is kept at this level takes messages of the other one. -/
def admits (level message : LogLevel) : Bool := level.rank ≤ message.rank

/-- Reads a level in any case of its ASCII letters; what is refused is given back in lowercase. -/
def read (text : String) : Except String LogLevel :=
  match String.ofList (text.toList.map Char.toLower) with
  | "debug" => .ok debug
  | "info" => .ok info
  | "warn" => .ok warn
  | "warning" => .ok warn
  | "error" => .ok error
  | other => .error other

/-- What is said of a text that names no level. -/
def unknownMessage (text : String) : String := s!"unknown log level `{text}`"

@[simp] theorem admits_self (level : LogLevel) : level.admits level = true := by
  simp [admits]

end LogLevel

structure LogEntry where
  level : LogLevel
  message : String
  deriving DecidableEq

/-- The messages that a log of some level has taken. -/
structure Log where
  level : LogLevel
  entries : List LogEntry := []

namespace Log

def push (log : Log) (entry : LogEntry) : Log :=
  if log.level.admits entry.level then { log with entries := log.entries ++ [entry] } else log

/-- The messages of one level. -/
def messages (log : Log) (level : LogLevel) : List String :=
  (log.entries.filter (·.level = level)).map (·.message)

/-- The level of a log that keeps nothing. -/
def silentLevel : LogLevel := .error

end Log

/-- Work that may fail; its log is kept also if it does. -/
abbrev LoggedT (m : Type → Type) (ε : Type) := ExceptT ε (StateT Log m)

/-- Work that touches nothing but its log. -/
abbrev Logged (ε : Type) := LoggedT Id ε

section

variable {m : Type → Type} [Monad m] {ε α : Type}

def tell (level : LogLevel) (message : String) : LoggedT m ε Unit :=
  modify (·.push ⟨level, message⟩)

/-- Work that has no log of its own. -/
def LoggedT.silent (x : ExceptT ε m α) : LoggedT m ε α := ExceptT.mk (StateT.lift x.run)

/-- Work in the place of a larger one. -/
def Logged.lift (x : Logged ε α) : LoggedT m ε α := ExceptT.mk fun log => pure (x.run log)

/-- The same work, whose faults are seen as causes of others. -/
def LoggedT.because {ε' : Type} (cause : ε → ε') (x : LoggedT m ε α) : LoggedT m ε' α :=
  ExceptT.adapt cause x

end

section

variable {ε τ α β : Type} {x : LoggedT (StateM τ) ε α} {log log' : Log} {s s' : τ}

/-- Work that ends goes on with its result. -/
theorem LoggedT.bind_of_ok {a : α} (ran : x.run.run log s = ((.ok a, log'), s'))
    (f : α → LoggedT (StateM τ) ε β) : (x >>= f).run.run log s = (f a).run.run log' s' := by
  simp only [bind, ExceptT.bind, ExceptT.mk, ExceptT.run, StateT.bind, StateT.run] at ran ⊢
  rw [ran]
  rfl

/-- Work that fails is not gone on with. -/
theorem LoggedT.bind_of_error {e : ε} (ran : x.run.run log s = ((.error e, log'), s'))
    (f : α → LoggedT (StateM τ) ε β) : (x >>= f).run.run log s = ((.error e, log'), s') := by
  simp only [bind, ExceptT.bind, ExceptT.mk, ExceptT.run, StateT.bind, StateT.run] at ran ⊢
  rw [ran]
  rfl

/-- Work on the log alone leaves everything else as it is. -/
theorem Logged.lift_apply {x : Logged ε α} {r : Except ε α} (ran : x.run.run log = (r, log'))
    (s : τ) : (x.lift (m := StateM τ)).run.run log s = ((r, log'), s) :=
  congrArg (·, s) ran

theorem LoggedT.liftM_apply (x : StateM τ α) (log : Log) (s : τ) :
    (liftM x : LoggedT (StateM τ) ε α).run.run log s = ((.ok (x s).1, log), (x s).2) := rfl

end

end Registrar
