/-!
# Log events

What a run reports about itself: a level, the part of the program that reports,
and a message.
-/

namespace DriverUplift.Log

inductive Level where
  | error
  | warn
  | info
  | debug
  | trace
  deriving DecidableEq, Repr

namespace Level

def rank : Level → Nat
  | error => 1
  | warn => 2
  | info => 3
  | debug => 4
  | trace => 5

def name : Level → String
  | error => "ERROR"
  | warn => "WARN"
  | info => "INFO"
  | debug => "DEBUG"
  | trace => "TRACE"

end Level

inductive Source where
  /-- The steps of an uplift. -/
  | uplift
  /-- The requests of the API client. -/
  | client
  /-- The connections that carry the requests. -/
  | connection
  deriving DecidableEq, Repr

namespace Source

def target : Source → String
  | uplift => "igfx_uplift::uplift"
  | client => "igfx_uplift::github"
  | connection => "attohttpc"

/-- The fields of an event; those behind the message say where in a program it arose. -/
def fields : Source → List String
  | uplift => ["message"]
  | client => ["message"]
  | connection => ["message", "log.target", "log.module_path", "log.file", "log.line"]

end Source

structure Event where
  level : Level
  source : Source
  message : String
  deriving DecidableEq, Repr

namespace Event

def ofUplift (level : Level) (message : String) : Event :=
  ⟨level, .uplift, message⟩

def ofRequest (url : String) : Event :=
  ⟨.debug, .client, "GET " ++ url⟩

def ofConnection (host : String) (port : Nat) : Event :=
  ⟨.debug, .connection, "trying to connect to " ++ host ++ ":" ++ toString port⟩

/-- Whether an event tells of the work itself, and not of the connections below it. -/
def isOwn (event : Event) : Bool :=
  event.source != .connection

def target (event : Event) : String :=
  event.source.target

end Event

end DriverUplift.Log
