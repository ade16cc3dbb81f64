import DriverUplift.Http.Message
import DriverUplift.Program
import Std.Async.DNS
import Std.Async.TCP

/-!
# The executable

The outer layer of the program: it reads the environment and the manifest file,
sends the requests that the program asks for, writes the file, and prints the
report.  All decisions are made by `Program` and `Uplift`.
-/

namespace DriverUplift.Executable

open Http (Answer Url)
open Std.Async Std.Net

def watched : List String :=
  [Program.apiVariable, Program.filterVariable, Program.plainVariable, Program.styledVariable]

def readEnvironment : IO (Members String) := do
  let values ← watched.mapM fun name => do
    pure ((← IO.getEnv name).map fun value => (name, value))
  pure (values.filterMap id)

/-- The number of a system error, whatever its sign. -/
def systemCode (code : UInt32) : Nat :=
  if code ≤ 0x7fffffff then code.toNat else (0 - code).toNat

def fileError : IO.Error → FileError
  | .noFileOrDirectory _ _ _ => .notFound
  | .inappropriateType _ code _ => if systemCode code = 20 then .notFolder else .isFolder
  | .invalidArgument _ code _ => if systemCode code = 36 then .nameTooLong else .nulInName
  | .permissionDenied _ code _ =>
      .other ("Permission denied (os error " ++ toString (systemCode code) ++ ")")
  | error => .other (toString error)

def readText (path : String) : IO (Except FileError String) := do
  try
    match Content.ofBytes (← IO.FS.readBinFile path) with
    | .text value => pure (.ok value)
    | .bytes _ => pure (.error .notText)
  catch error => pure (.error (fileError error))

def writeText (path text : String) : IO (Except FileError Unit) := do
  try
    IO.FS.writeFile path text
    pure (.ok ())
  catch error => pure (.error (fileError error))

partial def receiveAll (socket : TCP.Socket.Client) (received : ByteArray) : Async ByteArray := do
  match ← socket.recv? 65536 with
  | some bytes => receiveAll socket (received ++ bytes)
  | none => pure received

def socketAddress (address : IPAddr) (port : UInt16) : SocketAddress :=
  match address with
  | .v4 address => .v4 ⟨address, port⟩
  | .v6 address => .v6 ⟨address, port⟩

def send (url : Url) : IO (Except HttpError Answer) := do
  if url.scheme ≠ "http" then
    return .error (.noConnection "secure connections are not supported")
  try
    let port := UInt16.ofNat (url.port.getD 80)
    let addresses ← (DNS.getAddrInfo url.host (toString port)).block
    match addresses[0]? with
    | none => pure (.error (.noConnection "the host has no address"))
    | some address =>
        let socket ← TCP.Socket.Client.mk
        (socket.connect (socketAddress address port)).block
        (socket.send (Http.requestText url).toUTF8).block
        let bytes ← (receiveAll socket ByteArray.empty).block
        match Answer.ofBytes? bytes with
        | some answer => pure (.ok answer)
        | none => pure (.error (.noConnection "the answer cannot be read"))
  catch error => pure (.error (.noConnection (toString error)))

abbrev Received := List (Url × Except HttpError Answer)

def Received.serve (received : Received) (url : Url) : Except HttpError Answer :=
  (received.lookup url).getD (.error (.noConnection "not asked yet"))

/-- The first address that a request needs and that has not been asked yet. -/
def Received.missing? (received : Received) (requests : List String) : Option Url :=
  let needed := requests.flatMap (Http.requested received.serve)
  needed.find? fun url => (received.lookup url).isNone

/--
Revise a manifest.  A revision is a function of the answers, so it is repeated
with one answer more until no answer is missing.
-/
partial def revise (options : CommandLine.Options) (environment : Members String)
    (config : Uplift.Config) (source : Except FileError String) (received : Received) :
    IO (Except Failure Uplift.Revision × Trace) := do
  let client := Program.client (Http.transport received.serve) options environment
  let (result, trace) := Uplift.revise client config source
  match received.missing? trace.requests with
  | some url => revise options environment config source (received ++ [(url, ← send url)])
  | none => pure (result, trace)

def runOptions (options : CommandLine.Options) (environment : Members String)
    (location : Program.Location) : IO Program.Report := do
  match Program.manifestPath options location with
  | .error reason => pure (.ofError "" reason)
  | .ok path =>
      let config := Program.config options path
      let source ← readText config.manifestPath
      let (result, trace) ← revise options environment config source []
      match result with
      | .error failure => pure (.ofRun options.verbose environment (.error failure) trace)
      | .ok revision =>
          let written ← writeText config.manifestPath revision.manifest.render
          let (result, trace) := Uplift.conclude config revision trace written
          pure (.ofRun options.verbose environment result trace)

def executableLocation : IO Program.Location := do
  try
    let path ← IO.FS.realPath (← IO.appPath)
    pure (match path.parent with
      | some folder => .folder folder.toString
      | none => .parentless)
  catch error => pure (.lost (fileError error))

end DriverUplift.Executable

def main (arguments : List String) : IO UInt32 := do
  let environment ← DriverUplift.Executable.readEnvironment
  let report ← match DriverUplift.CommandLine.parse arguments with
    | .error error => pure (DriverUplift.Program.Report.ofUsage environment error)
    | .ok options =>
        DriverUplift.Executable.runOptions options environment
          (← DriverUplift.Executable.executableLocation)
  IO.print report.output
  IO.eprint report.errors
  pure (UInt32.ofNat report.exitCode)
