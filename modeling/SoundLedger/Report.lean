import SoundLedger.Failure

/-!
# Reports

What an operation has to tell: the messages it logged, in order, and its result. Messages logged
before a failure are kept.
-/

namespace SoundLedger

/-- How much a message matters. -/
inductive Severity where
  | debug
  | info
  | warn
deriving DecidableEq, Repr

/-- The name of a severity at the front of a log line. -/
def Severity.name : Severity → String
  | .debug => "DEBUG"
  | .info => "INFO"
  | .warn => "WARN"

/-- A logged message. -/
structure Message where
  severity : Severity
  text : String
deriving DecidableEq, Repr

/-- The line of a message. -/
def Message.line (m : Message) : String := m.severity.name ++ " " ++ m.text

/-- The messages of an operation and its result. -/
structure Report (α : Type) where
  log : List Message
  result : Except Failure α

namespace Report

/-- Nothing to tell but a value. -/
protected def pure (value : α) : Report α := ⟨[], .ok value⟩

/-- Goes on with the value, if there is one, and joins the logs. -/
protected def bind (r : Report α) (next : α → Report β) : Report β :=
  match r.result with
  | .error failure => ⟨r.log, .error failure⟩
  | .ok value => ⟨r.log ++ (next value).log, (next value).result⟩

instance : Monad Report where
  pure := Report.pure
  bind := Report.bind

/-- A failure without a message. -/
def fail (failure : Failure) : Report α := ⟨[], .error failure⟩

/-- A single message. -/
def note (severity : Severity) (text : String) : Report Unit := ⟨[⟨severity, text⟩], .ok ()⟩

/-- A result without a message. -/
def ofExcept (result : Except Failure α) : Report α := ⟨[], result⟩

end Report

end SoundLedger
