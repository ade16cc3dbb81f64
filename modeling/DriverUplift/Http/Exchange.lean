import DriverUplift.Http.Url
import DriverUplift.Transport

/-!
# Web requests

A request goes to an address and follows redirections, a limited number of
them.  What remains is the body of a successful answer, decoded leniently, or
the reason why there is none.
-/

namespace DriverUplift.Http

structure Answer where
  status : Nat
  headers : List (String × String)
  body : ByteArray

def redirectLimit : Nat := 5

def isRedirect (status : Nat) : Bool :=
  [301, 302, 303, 307, 308].contains status

/-- The value of a header; its name may be written in any case. -/
def Answer.header? (answer : Answer) (name : String) : Option String :=
  (answer.headers.find? fun header => header.1.toLower == name).map (·.2)

def Answer.text (answer : Answer) : Except HttpError String :=
  if isSuccess answer.status then .ok (Text.decodeLenient answer.body)
  else .error (.status answer.status)

def Answer.next? (answer : Answer) (url : Url) : Except HttpError Url :=
  match answer.header? "location" with
  | none => .error .missingLocation
  | some location =>
      match url.join? location with
      | none => .error .missingHost
      | some next => .ok next

/--
Request an address from servers, following at most so many redirections.  The
result comes with the addresses whose hosts were contacted, in order.
-/
def request (serve : Url → Except HttpError Answer) (limit : Nat) (url : Url) :
    Except HttpError String × List Url :=
  match url.endpoint with
  | .error error => (.error error, [])
  | .ok _ =>
      if !Url.isWeb url.scheme then (.error .invalidBase, [url])
      else
        match serve url with
        | .error error => (.error error, [url])
        | .ok answer =>
            if isRedirect answer.status then
              match limit with
              | 0 => (.error .tooManyRedirects, [url])
              | limit + 1 =>
                  match answer.next? url with
                  | .error error => (.error error, [url])
                  | .ok next =>
                      let (result, more) := request serve limit next
                      (result, url :: more)
            else (answer.text, [url])

def get (serve : Url → Except HttpError Answer) (text : String) :
    Except HttpError String × List Url :=
  match Url.parse? text with
  | none => (.error .missingHost, [])
  | some url => request serve redirectLimit url

/-- The addresses that are requested for one that is given as a text, in order. -/
def requested (serve : Url → Except HttpError Answer) (text : String) : List Url :=
  (get serve text).2.filter fun url => Url.isWeb url.scheme

def contactEvent? (url : Url) : Option Log.Event :=
  match url.endpoint with
  | .ok (host, port) => some (.ofConnection host port)
  | .error _ => none

/-- A transport that sends web requests and reports each of them, and each contact with a host. -/
def transport (serve : Url → Except HttpError Answer) : Transport where
  answer _ url :=
    match (get serve url).1 with
    | .ok body => .ok body
    | .error error => .error (.http error)
  notice url := .ofRequest url :: (get serve url).2.filterMap contactEvent?

def unreachable (_ : Url) : Except HttpError Answer :=
  .error (.noConnection "no server can be reached")

def site (base : Url) (routes : Members Answer) (url : Url) : Except HttpError Answer :=
  if url.host = base.host ∧ url.port = base.port then
    .ok ((Members.get? url.target routes).getD ⟨404, [], ByteArray.empty⟩)
  else unreachable url

def userAgent : String := "igfx-uplift/0.3.0"

def accepted : String := "application/vnd.github+json"

end DriverUplift.Http
