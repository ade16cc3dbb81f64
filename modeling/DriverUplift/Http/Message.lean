import DriverUplift.Http.Exchange

/-!
# Messages between client and server

The text of a request, and the reading of an answer from the bytes that a
server sends until it closes the connection.
-/

namespace DriverUplift.Http

/-- The host and the port, if it is not the usual one, of an address. -/
def Url.authority (url : Url) : String :=
  match url.port with
  | some port => url.host ++ ":" ++ toString port
  | none => url.host

def requestText (url : Url) : String :=
  String.intercalate "\r\n"
    ["GET " ++ url.target ++ " HTTP/1.1",
     "Host: " ++ url.authority,
     "User-Agent: " ++ userAgent,
     "Accept: " ++ accepted,
     "Connection: close",
     "", ""]

def splitLine? : List UInt8 → Option (List UInt8 × List UInt8)
  | [] => none
  | 13 :: 10 :: rest => some ([], rest)
  | byte :: rest => (splitLine? rest).map fun (line, behind) => (byte :: line, behind)

def lineText (line : List UInt8) : String :=
  Text.decodeLenient ⟨line.toArray⟩

def headerOf (line : String) : String × String :=
  let chars := line.toList
  (String.ofList (chars.takeWhile (· != ':')),
    String.ofList (((chars.dropWhile (· != ':')).drop 1).dropWhile (· == ' ')))

/-- Read header lines up to the empty one; there are at most so many. -/
def readHeaders : Nat → List UInt8 → Option (List (String × String) × List UInt8)
  | 0, _ => none
  | limit + 1, bytes =>
      match splitLine? bytes with
      | none => none
      | some ([], rest) => some ([], rest)
      | some (line, rest) =>
          (readHeaders limit rest).map fun (headers, behind) =>
            (headerOf (lineText line) :: headers, behind)

def chunkSize? (line : String) : Option Nat :=
  let digits := line.toList.takeWhile Text.isHexDigit
  if digits.isEmpty then none
  else some (Text.hexNumber digits)

def joinChunks : Nat → List UInt8 → Option (List UInt8)
  | 0, _ => none
  | limit + 1, bytes =>
      match splitLine? bytes with
      | none => none
      | some (line, rest) =>
          match chunkSize? (lineText line) with
          | none => none
          | some 0 => some []
          | some size =>
              (joinChunks limit (rest.drop (size + 2))).map fun more => rest.take size ++ more

def bodyOf (headers : List (String × String)) (bytes : List UInt8) : Option (List UInt8) :=
  let value (name : String) : Option String :=
    (headers.find? fun header => header.1.toLower == name).map (·.2)
  if ((value "transfer-encoding").map String.toLower) == some "chunked" then
    joinChunks (bytes.length + 1) bytes
  else
    match (value "content-length").bind String.toNat? with
    | some length => some (bytes.take length)
    | none => some bytes

def statusOf? (line : String) : Option Nat :=
  match line.splitOn " " with
  | _ :: code :: _ => code.toNat?
  | _ => none

def Answer.ofBytes? (bytes : ByteArray) : Option Answer := do
  let (line, rest) ← splitLine? bytes.toList
  let status ← statusOf? (lineText line)
  let (headers, rest) ← readHeaders (bytes.size + 1) rest
  let body ← bodyOf headers rest
  pure ⟨status, headers, ⟨body.toArray⟩⟩

end DriverUplift.Http
