import DriverUplift.Json.Fault

/-!
# Dependency entries

An entry of a platform section has four managed attributes, each of which may
be left out, be an explicit null, or hold a text.  Everything else in the entry
is carried along in its order.
-/

namespace DriverUplift

/-- The managed attributes of a dependency, in the order in which they are written. -/
inductive Attribute where
  | githubTag
  | version
  | updatedAt
  | url
  deriving DecidableEq, Repr

namespace Attribute

def all : List Attribute := [githubTag, version, updatedAt, url]

def key : Attribute → String
  | githubTag => "github_tag"
  | version => "version"
  | updatedAt => "updated_at"
  | url => "url"

def isKey (key : String) : Bool :=
  all.any (·.key == key)

end Attribute

inductive Field where
  | absent
  | null
  | text (value : String)
  deriving DecidableEq, Repr

namespace Field

def text? : Field → Option String
  | text value => some value
  | _ => none

/-- The value that is written; an absent attribute writes nothing. -/
def toJson? : Field → Option Json
  | absent => none
  | null => some .null
  | text value => some (.str value)

def ofJson? : Option Json → Field
  | none => absent
  | some (.str value) => text value
  | some _ => null

/-- Only a null and a text can be the value of an attribute. -/
def problem? : Json → Option Json.Problem
  | .null => none
  | .str _ => none
  | other => some (.wrongType other.found "a string")

end Field

structure Dependency where
  githubTag : Field := .absent
  version : Field := .absent
  updatedAt : Field := .absent
  url : Field := .absent
  extra : Members Json := []

namespace Dependency

def get (dependency : Dependency) : Attribute → Field
  | .githubTag => dependency.githubTag
  | .version => dependency.version
  | .updatedAt => dependency.updatedAt
  | .url => dependency.url

def set (dependency : Dependency) (attr : Attribute) (value : String) : Dependency :=
  match attr with
  | .githubTag => { dependency with githubTag := .text value }
  | .version => { dependency with version := .text value }
  | .updatedAt => { dependency with updatedAt := .text value }
  | .url => { dependency with url := .text value }

@[simp]
theorem get_set (dependency : Dependency) (attr other : Attribute) (value : String) :
    (dependency.set attr value).get other =
      if other = attr then .text value else dependency.get other := by
  cases attr <;> cases other <;> rfl

@[simp]
theorem extra_set (dependency : Dependency) (attr : Attribute) (value : String) :
    (dependency.set attr value).extra = dependency.extra := by
  cases attr <;> rfl

def managedMembers (dependency : Dependency) : Members Json :=
  Attribute.all.filterMap fun attr =>
    (dependency.get attr).toJson?.map fun value => (attr.key, value)

/-- The members of the entry: the attributes first, then everything else. -/
def toMembers (dependency : Dependency) : Members Json :=
  Members.putAll dependency.managedMembers dependency.extra

def toJson (dependency : Dependency) : Json :=
  .obj dependency.toMembers

def memberProblem? (member : String × Json) : Option Json.Problem :=
  if Attribute.isKey member.1 then Field.problem? member.2 else none

def ofMembers (members : Members Json) : Dependency where
  githubTag := .ofJson? (Members.get? Attribute.githubTag.key members)
  version := .ofJson? (Members.get? Attribute.version.key members)
  updatedAt := .ofJson? (Members.get? Attribute.updatedAt.key members)
  url := .ofJson? (Members.get? Attribute.url.key members)
  extra := members.filter fun member => !Attribute.isKey member.1

/-- Read an entry; of several problems the first in the text is reported. -/
def ofJson : Json → Except Json.Problem Dependency
  | .obj members =>
      match members.findSome? memberProblem? with
      | some problem => .error problem
      | none => .ok (ofMembers members)
  | other => .error (.wrongType other.found "struct Dependency")

/-- Equality that ignores the order of what is carried along. -/
def same (a b : Dependency) : Bool :=
  (Attribute.all.all fun attr => a.get attr == b.get attr) &&
    Json.sameObject a.extra b.extra

end Dependency

end DriverUplift
