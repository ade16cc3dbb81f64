import DriverUplift.Platform
import DriverUplift.Transport

/-!
# Sessions

A session asks a transport, reports events and revises the components of a
platform.  It never reads the platform: a revision is recorded as an edit, and
the edits are applied afterwards.  Everything that was recorded before a
failure stays recorded.
-/

namespace DriverUplift

structure Edit where
  component : Component
  attr : Attribute
  value : String
  deriving DecidableEq, Repr

structure Trace where
  requests : List String := []
  events : List Log.Event := []
  edits : List Edit := []
  deriving DecidableEq, Repr

def Edit.apply (platform : Platform) (edit : Edit) : Platform :=
  platform.set edit.component ((platform.get edit.component).set edit.attr edit.value)

def Platform.revise (platform : Platform) (edits : List Edit) : Platform :=
  edits.foldl Edit.apply platform

/-- Apply the edits of one component to a dependency. -/
def Dependency.revise (dependency : Dependency) (component : Component) (edits : List Edit) :
    Dependency :=
  (edits.filter (·.component = component)).foldl
    (fun revised edit => revised.set edit.attr edit.value) dependency

/-- A computation that may fail and that keeps a trace in any case. -/
abbrev Session (α : Type) := ExceptT Failure (StateM Trace) α

namespace Session

def after {α : Type} (trace : Trace) (session : Session α) : Except Failure α × Trace :=
  session.run trace

def report (event : Log.Event) : Session Unit :=
  modify fun trace => { trace with events := trace.events ++ [event] }

def say (level : Log.Level) (message : String) : Session Unit :=
  report (.ofUplift level message)

def edit (edits : List Edit) : Session Unit :=
  modify fun trace => { trace with edits := trace.edits ++ edits }

def ofExcept {α : Type} (result : Except Failure α) : Session α :=
  match result with
  | .ok value => pure value
  | .error failure => throw failure

def fetch (transport : Transport) (url : String) : Session String := do
  let trace ← get
  set { trace with
    requests := trace.requests ++ [url]
    events := trace.events ++ transport.notice url }
  ofExcept (transport.answer trace.requests url)

end Session

end DriverUplift
