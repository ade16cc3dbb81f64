import DriverUplift.CommandLine.Parse
import DriverUplift.Log.Filter
import DriverUplift.Log.Line
import DriverUplift.Uplift.Run

/-!
# The program

The whole program as a function: from its arguments, its environment and the
disk to what it prints, its exit code and the disk afterwards.  Only the new
version goes to standard output; everything else is an error or a log line.
-/

namespace DriverUplift.Program

open CommandLine (Options)

def apiVariable : String := "IGFX_UPLIFT_API_URL"

def filterVariable : String := "RUST_LOG"

def plainVariable : String := "NO_COLOR"

/-- The environment variable that asks for colours even where there is no terminal. -/
def styledVariable : String := "CLICOLOR_FORCE"

/-- What is known of the place of the executable. -/
inductive Location where
  | folder (path : String)
  | lost (error : FileError)
  | parentless
  deriving DecidableEq, Repr

instance : Coe String Location := ⟨.folder⟩

structure Call where
  arguments : List String
  environment : Members String
  location : Location

structure Report where
  exitCode : Nat
  output : String
  errors : String
  deriving DecidableEq, Repr

def defaultManifest : String := "../dependencies.json"

/-- The path of something in a folder; only the root and the empty path need no slash in between. -/
def join (folder name : String) : String :=
  match folder.toList.getLast? with
  | none | some '/' => folder ++ name
  | some _ => folder ++ "/" ++ name

/-- The manifest next to the executable, or why it cannot be told where that is. -/
def Location.manifest : Location → Except String String
  | folder path => .ok (join path defaultManifest)
  | lost error => .error ("Failed to locate the running executable: " ++ error.words)
  | parentless => .error "Executable path has no parent directory"

/-- The manifest to uplift.  The executable is looked for only if no manifest is given. -/
def manifestPath (options : Options) (location : Location) : Except String String :=
  match options.manifest with
  | some path => .ok path
  | none => location.manifest

/-- The root of the API: as given, as in the environment, or the usual one. -/
def apiBase (options : Options) (environment : Members String) : String :=
  match options.apiUrl with
  | some url => url
  | none => (Members.get? apiVariable environment).getD Project.defaultApiBase

def config (options : Options) (path : String) : Uplift.Config where
  manifestPath := path
  platform := options.platform
  policy := if options.strict then .strict else .lenient

def usualFilter (verbose : Bool) : Log.Filter :=
  .ofLevel (if verbose then .debug else .warn)

def filter (verbose : Bool) (environment : Members String) : Log.Filter :=
  match Members.get? filterVariable environment with
  | none => usualFilter verbose
  | some text => (Log.Filter.parse? text).getD (usualFilter verbose)

def isColoured (environment : Members String) : Bool :=
  (Members.get? plainVariable environment).getD "" == ""

/-- Whether answers and usage errors have colours, although they go to no terminal. -/
def isStyled (environment : Members String) : Bool :=
  isColoured environment && (Members.get? styledVariable environment).getD "0" != "0"

def logLines (verbose : Bool) (environment : Members String) (events : List Log.Event) : String :=
  let shown := events.filter (Log.Filter.shows (filter verbose environment))
  String.join (shown.map (Log.Event.line (isColoured environment)))

def usageText (environment : Members String) (error : CommandLine.UsageError) : String :=
  if isStyled environment then error.text.coloured else error.text.plain .suspends

def Report.ofUsage (environment : Members String) (error : CommandLine.UsageError) : Report :=
  let text := usageText environment error
  if error.isAnswer then ⟨0, text, ""⟩ else ⟨2, "", text⟩

def Report.ofError (log message : String) : Report :=
  ⟨1, "", log ++ "error: " ++ message ++ "\n"⟩

def Report.ofRun (verbose : Bool) (environment : Members String)
    (result : Except Failure String) (trace : Trace) : Report :=
  let log := logLines verbose environment trace.events
  match result with
  | .ok version => ⟨0, version ++ "\n", log⟩
  | .error failure => .ofError log failure.message

structure Result where
  report : Report
  trace : Trace
  disk : Disk

def client (transport : Transport) (options : Options) (environment : Members String) :
    Github.Client :=
  ⟨transport, apiBase options environment⟩

def runOptions (transport : Transport) (call : Call) (options : Options) (disk : Disk) : Result :=
  match manifestPath options call.location with
  | .error reason => ⟨.ofError "" reason, {}, disk⟩
  | .ok path =>
      let outcome :=
        Uplift.run (client transport options call.environment) (config options path) disk
      ⟨.ofRun options.verbose call.environment outcome.result outcome.trace, outcome.trace,
        outcome.disk⟩

def run (transport : Transport) (call : Call) (disk : Disk) : Result :=
  match CommandLine.parse call.arguments with
  | .ok options => runOptions transport call options disk
  | .error error => ⟨.ofUsage call.environment error, {}, disk⟩

end DriverUplift.Program
