import DriverUplift.Dependency

/-!
# Platform sections

A platform section names five managed components.  Other dependencies of the
platform are carried along in their order.
-/

namespace DriverUplift

/-- The managed components of a platform, in the order in which they are written. -/
inductive Component where
  | computeRuntime
  | igc
  | igcDev
  | cm
  | levelZero
  deriving DecidableEq, Repr

namespace Component

def all : List Component := [computeRuntime, igc, igcDev, cm, levelZero]

def key : Component → String
  | computeRuntime => "compute_runtime"
  | igc => "igc"
  | igcDev => "igc_dev"
  | cm => "cm"
  | levelZero => "level_zero"

def isKey (key : String) : Bool :=
  all.any (·.key == key)

end Component

structure Platform where
  computeRuntime : Dependency
  igc : Dependency
  igcDev : Dependency
  cm : Dependency
  levelZero : Dependency
  extra : Members Json := []

namespace Platform

def get (platform : Platform) : Component → Dependency
  | .computeRuntime => platform.computeRuntime
  | .igc => platform.igc
  | .igcDev => platform.igcDev
  | .cm => platform.cm
  | .levelZero => platform.levelZero

def set (platform : Platform) (component : Component) (dependency : Dependency) : Platform :=
  match component with
  | .computeRuntime => { platform with computeRuntime := dependency }
  | .igc => { platform with igc := dependency }
  | .igcDev => { platform with igcDev := dependency }
  | .cm => { platform with cm := dependency }
  | .levelZero => { platform with levelZero := dependency }

@[simp]
theorem get_set (platform : Platform) (component other : Component) (dependency : Dependency) :
    (platform.set component dependency).get other =
      if other = component then dependency else platform.get other := by
  cases component <;> cases other <;> rfl

@[simp]
theorem extra_set (platform : Platform) (component : Component) (dependency : Dependency) :
    (platform.set component dependency).extra = platform.extra := by
  cases component <;> rfl

def managedMembers (platform : Platform) : Members Json :=
  Component.all.map fun component => (component.key, (platform.get component).toJson)

/-- The members of the section: the components first, then everything else. -/
def toMembers (platform : Platform) : Members Json :=
  Members.putAll platform.managedMembers platform.extra

def toJson (platform : Platform) : Json :=
  .obj platform.toMembers

def memberProblem? (member : String × Json) : Option Json.Problem :=
  if Component.isKey member.1 then
    match Dependency.ofJson member.2 with
    | .error problem => some problem
    | .ok _ => none
  else none

def entry (members : Members Json) (component : Component) : Dependency :=
  match Members.get? component.key members with
  | some (.obj entry) => Dependency.ofMembers entry
  | _ => {}

def ofMembers (members : Members Json) : Platform where
  computeRuntime := entry members .computeRuntime
  igc := entry members .igc
  igcDev := entry members .igcDev
  cm := entry members .cm
  levelZero := entry members .levelZero
  extra := members.filter fun member => !Component.isKey member.1

/-- The first component that a section lacks; only an object can lack one. -/
def missing? : Json → Option Component
  | .obj members => Component.all.find? fun component => !Members.has component.key members
  | _ => none

/-- Read a section that lacks no component; of several problems the first in the text is reported. -/
def ofJson : Json → Except Json.Problem Platform
  | .obj members =>
      match members.findSome? memberProblem? with
      | some problem => .error problem
      | none => .ok (ofMembers members)
  | other => .error (.wrongType other.found "struct PlatformDeps")

/-- Equality that ignores the order of what is carried along. -/
def same (a b : Platform) : Bool :=
  (Component.all.all fun component => (a.get component).same (b.get component)) &&
    Json.sameObject a.extra b.extra

end Platform

end DriverUplift
