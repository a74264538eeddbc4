/-!
# Events and runs

An analysis reports while it works: log messages, and one line for every
violation when diagnostics are asked for. A run is the list of its events with
its result. Events that came before a failure stay.
-/

namespace ApiCatalog

/-- How much a log message matters. -/
inductive Level where
  | debug
  | info
  | warning
  | error
deriving DecidableEq, Repr

/-- The name of a level. -/
def Level.name : Level → String
  | .debug => "DEBUG"
  | .info => "INFO"
  | .warning => "WARNING"
  | .error => "ERROR"

/-- Something a run reports. -/
inductive Event where
  | log (level : Level) (message : String)
  /-- A line of the diagnostic stream, without its line end. -/
  | diagnostic (line : String)
deriving DecidableEq, Repr

namespace Event

/-- The log line of an event. -/
def logLine? : Event → Option String
  | .log level message => some (level.name ++ ": " ++ message)
  | .diagnostic _ => none

/-- What an event adds to the diagnostic stream. -/
def diagnosticText : Event → String
  | .log .. => ""
  | .diagnostic line => line ++ "\n"

end Event

/-- The log lines among some events. -/
def logLines (events : List Event) : List String :=
  events.filterMap Event.logLine?

/-- The diagnostic stream of some events. -/
def diagnosticStream (events : List Event) : String :=
  String.join (events.map Event.diagnosticText)

/-- A computation with its events and its result. -/
structure Run (ε α : Type) where
  events : List Event
  result : Except ε α

namespace Run

/-- Goes on with the result of a run, unless it failed. -/
def andThen {ε α β : Type} (r : Run ε α) (next : α → Run ε β) : Run ε β :=
  match r.result with
  | .ok a =>
      let s := next a
      ⟨r.events ++ s.events, s.result⟩
  | .error e => ⟨r.events, .error e⟩

instance {ε : Type} : Monad (Run ε) where
  pure a := ⟨[], .ok a⟩
  bind := andThen

/-- The run with one event. -/
def emit {ε : Type} (event : Event) : Run ε Unit :=
  ⟨[event], .ok ()⟩

/-- The run with one log message. -/
def log {ε : Type} (level : Level) (message : String) : Run ε Unit :=
  emit (.log level message)

/-- The run that fails at once. -/
def fail {ε α : Type} (e : ε) : Run ε α :=
  ⟨[], .error e⟩

/-- A result without events. -/
def ofExcept {ε α : Type} (result : Except ε α) : Run ε α :=
  ⟨[], result⟩

/-- A run whose failure is seen as another kind of failure. -/
def mapError {ε ε' α : Type} (f : ε → ε') (r : Run ε α) : Run ε' α :=
  ⟨r.events, r.result.mapError f⟩

end Run
end ApiCatalog
