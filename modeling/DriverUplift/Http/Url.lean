import DriverUplift.Failure
import DriverUplift.Http.Host

/-!
# Web addresses

An address is split into its scheme, its authority, its path and its query.
Paths are kept as segments without dots, and characters that may not stand in
an address are written by their bytes.  The host is kept as a text, which is
empty where an address leads to no other machine.
-/

namespace DriverUplift.Http

/-- The parts of an address; the fragment is dropped. -/
structure Url where
  scheme : String
  host : String
  port : Option Nat
  segments : List String
  query : Option String
  deriving DecidableEq, Repr

namespace Url

def defaultPort? : String → Option Nat
  | "http" => some 80
  | "https" => some 443
  | "ws" => some 80
  | "wss" => some 443
  | "ftp" => some 21
  | _ => none

/-- Whether an address of this scheme always has an authority. -/
def isSpecial (scheme : String) : Bool :=
  (defaultPort? scheme).isSome || scheme == "file"

def isWeb (scheme : String) : Bool :=
  scheme == "http" || scheme == "https"

/-- A text without surrounding controls and blanks, and without tabs and line ends inside. -/
def cleaned (text : List Char) : List Char :=
  let outer := fun c : Char => c.toNat ≤ 0x20
  let inner := ((text.dropWhile outer).reverse.dropWhile outer).reverse
  inner.filter fun c => c != '\t' && c != '\n' && c != '\r'

def isSchemeChar (c : Char) : Bool :=
  c.isAlphanum || c == '+' || c == '-' || c == '.'

def splitScheme? (text : List Char) : Option (String × List Char) :=
  match text with
  | c :: _ =>
      if !c.isAlpha then none
      else
        match text.dropWhile isSchemeChar with
        | ':' :: rest => some (String.ofList ((text.takeWhile isSchemeChar).map Char.toLower), rest)
        | _ => none
  | [] => none

def isSlash (special : Bool) (c : Char) : Bool :=
  c == '/' || (special && c == '\\')

def endsAuthority (special : Bool) (c : Char) : Bool :=
  isSlash special c || c == '?' || c == '#'

def afterLastAt (text : List Char) : List Char :=
  (text.reverse.takeWhile (· != '@')).reverse

def splitPort (text : List Char) : List Char × List Char :=
  match text with
  | '[' :: rest =>
      let inside := rest.takeWhile (· != ']')
      let behind := (rest.dropWhile (· != ']')).drop 1
      ('[' :: inside ++ [']'], behind.drop 1)
  | _ => (text.takeWhile (· != ':'), (text.dropWhile (· != ':')).drop 1)

/-- The number that the digits at the start of a text write; no digits write none. -/
def number? (text : List Char) : Option Nat :=
  let digits := text.takeWhile Char.isDigit
  if digits.isEmpty then none
  else some (digits.foldl (fun n c => n * 10 + (c.toNat - '0'.toNat)) 0)

def isDrive : List Char → Bool
  | [letter, mark] => letter.isAlpha && (mark == ':' || mark == '|')
  | _ => false

/--
The authority of an address, behind its colon, and what follows it.  Slashes
may be repeated where an authority is needed, and a file address without one
may start with a drive.
-/
def splitAuthority? (scheme : String) (text : List Char) : Option (List Char × List Char) :=
  let special := isSpecial scheme
  let slash := isSlash special
  let rest? :=
    match text with
    | a :: b :: rest => if slash a && slash b then some rest else none
    | _ => none
  let behind? :=
    if special && scheme != "file" then some (text.dropWhile slash) else rest?
  behind?.map fun behind =>
    let authority := behind.takeWhile (!endsAuthority special ·)
    if scheme == "file" && isDrive authority then ([], behind)
    else (authority, behind.dropWhile (!endsAuthority special ·))

def pathSet : List Char := ['"', '#', '<', '>', '?', '^', '\x60', '\x7b', '\x7d']

def querySet : List Char := ['"', '#', '<', '>', '\'']

def isDot (segment : String) : Bool :=
  [".", "%2e"].contains segment.toLower

def isDoubleDot (segment : String) : Bool :=
  ["..", ".%2e", "%2e.", "%2e%2e"].contains segment.toLower

def splitPath (special : Bool) (text : List Char) : List (List Char) :=
  Text.splitWhere (isSlash special) text

def walk : List String → List String → List String
  | done, [] => done
  | done, segment :: more =>
      if isDoubleDot segment then
        walk (if more.isEmpty then done.dropLast ++ [""] else done.dropLast) more
      else if isDot segment then walk (if more.isEmpty then done ++ [""] else done) more
      else walk (done ++ [segment]) more

def segmentsOf (text : List Char) : List String :=
  (splitPath true text).map fun segment => String.ofList (percentEncode pathSet segment)

def splitQuery (text : List Char) : List Char × Option (List Char) :=
  let text := text.takeWhile (· != '#')
  match text.dropWhile (· != '?') with
  | _ :: query => (text.takeWhile (· != '?'), some query)
  | [] => (text, none)

def queryOf (query : Option (List Char)) : Option String :=
  query.map fun text => String.ofList (percentEncode querySet text)

def isBehindDrive (segment : List Char) : Bool :=
  isDrive (segment.take 2) && segment[1]? == some ':' && 2 < segment.length

/-- The folders of a file address without the last one; a drive cannot be left. -/
def leave (done : List (List Char)) : List (List Char) :=
  if (done.getLast?.map isDrive).getD false then done else done.dropLast

/--
Whether the segments of a file address, behind those that are left of the ones
before, have a drive in the first place at some time.  A segment that only
starts with a drive is split behind it, and then keeps the first place.
-/
def reachesDrive : List (List Char) → List (List Char) → Bool
  | _, [] => false
  | done, segment :: more =>
      if isDoubleDot (String.ofList segment) then reachesDrive (leave done) more
      else if isDot (String.ofList segment) then reachesDrive done more
      else if done.isEmpty && isDrive segment then true
      else if done.isEmpty && isBehindDrive segment then false
      else reachesDrive (done ++ [segment]) more

/--
The host of a file address.  This machine is none, and neither is a host with a
drive, because drives belong to this machine.
-/
def fileHost (host path : List Char) : String :=
  let text := (Host.ofName host).text
  if text == "localhost" || reachesDrive [] (splitPath true (path.drop 1)) then "" else text

def hostText (scheme : String) (host path : List Char) : String :=
  if host.isEmpty then ""
  else if scheme == "file" then fileHost host path
  else if isSpecial scheme then (Host.ofName host).text
  else (Host.ofLiteral host).text

def ofAuthority (scheme : String) (authority rest : List Char) : Url :=
  let (host, port) := splitPort (afterLastAt authority)
  let (path, query) := splitQuery rest
  let segments := match segmentsOf path with
    | "" :: more => more
    | more => more
  { scheme
    host := hostText scheme host path
    port := (number? port).filter fun p => some p != defaultPort? scheme
    segments := walk [] segments
    query := queryOf query }

/-- Read an address; one without an authority has no parts. -/
def parse? (text : String) : Option Url :=
  match splitScheme? (cleaned text.toList) with
  | none => none
  | some (scheme, rest) =>
      (splitAuthority? scheme rest).map fun (authority, rest) => ofAuthority scheme authority rest

def target (url : Url) : String :=
  let path := "/" ++ String.intercalate "/" url.segments
  match url.query with
  | some query => path ++ "?" ++ query
  | none => path

def relative (base : Url) (text : List Char) : Url :=
  let (path, query) := splitQuery text
  match path with
  | [] =>
      match query with
      | none => base
      | some _ => { base with query := queryOf query }
  | c :: rest =>
      let segments :=
        if isSlash true c then walk [] (segmentsOf rest)
        else walk base.segments.dropLast (segmentsOf path)
      { base with segments, query := queryOf query }

def join? (base : Url) (reference : String) : Option Url :=
  let text := cleaned reference.toList
  match splitScheme? text with
  | some _ => parse? (String.ofList text)
  | none =>
      match text with
      | a :: b :: rest =>
          if isSlash true a && isSlash true b then
            parse? (base.scheme ++ "://" ++ String.ofList rest)
          else some (base.relative text)
      | _ => some (base.relative text)

def knownPort? (url : Url) : Option Nat :=
  url.port.or (defaultPort? url.scheme)

def endpoint (url : Url) : Except HttpError (String × Nat) :=
  if url.host = "" then .error .missingHost
  else
    match url.knownPort? with
    | none => .error .missingPort
    | some port => .ok (url.host, port)

end Url

end DriverUplift.Http
