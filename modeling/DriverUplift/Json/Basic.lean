import DriverUplift.Members
import DriverUplift.Number.Binary64

/-!
# JSON values

Objects keep the order of their members.  Numbers are integers, where the text
has neither a fraction nor an exponent and the value fits, and doubles
elsewhere; the two kinds are never equal.
-/

namespace DriverUplift

inductive Json.Number where
  | integer (value : Int)
  | real (value : Binary64)
  deriving DecidableEq, Repr

inductive Json where
  | null
  | bool (value : Bool)
  | num (value : Json.Number)
  | str (value : String)
  | arr (items : List Json)
  | obj (members : List (String × Json))

namespace Json

/-- Numeric equality within one kind of numbers. -/
def Number.same : Number → Number → Bool
  | integer a, integer b => a == b
  | real a, real b => a.same b
  | _, _ => false

mutual

/-- Equality of values that ignores the order of object members. -/
def same : Json → Json → Bool
  | null, null => true
  | bool a, bool b => a == b
  | num a, num b => a.same b
  | str a, str b => a == b
  | arr a, arr b => sameItems a b
  | obj a, obj b => a.length == b.length && sameMembers a b
  | _, _ => false

def sameItems : List Json → List Json → Bool
  | [], [] => true
  | a :: as, b :: bs => same a b && sameItems as bs
  | _, _ => false

def sameMembers : List (String × Json) → List (String × Json) → Bool
  | [], _ => true
  | (key, a) :: rest, others =>
      (match Members.get? key others with
        | some b => same a b
        | none => false) && sameMembers rest others

end

def sameObject (a b : Members Json) : Bool :=
  same (obj a) (obj b)

end Json

end DriverUplift
