import DriverUplift.Failure
import DriverUplift.Log.Event

/-!
# Transports

A transport turns a web address into the body of the answer, or a failure.  It
may take into account what was asked before, and it may report each request.
-/

namespace DriverUplift

structure Transport where
  /-- The answer for an address, after the given earlier requests. -/
  answer : List String → String → Except Failure String
  /-- What is reported about a request. -/
  notice : String → List Log.Event

namespace Transport

def fixed (answer : String → Except Failure String) : Transport where
  answer _ url := answer url
  notice _ := []

/-- A prepared answer: a body, or a status code, which is always a failure. -/
inductive Reply where
  | body (text : String)
  | status (code : Nat)

def Reply.toExcept : Reply → Except Failure String
  | body text => .ok text
  | status code => .error (.http (.status code))

def scripted (replies : Members Reply) : Transport :=
  fixed fun url =>
    match Members.get? url replies with
    | some reply => reply.toExcept
    | none => .error (.file url (.other "unscripted URL"))

end Transport

end DriverUplift
