import DriverUplift.Disk
import DriverUplift.Uplift.Steps

/-!
# Uplifting a manifest file

A revision turns what reading a manifest file gave into what is to be written,
and asks for nothing before the section of its platform has been read.  A run
is a revision between reading and writing a file of a disk; the file is only
written when every step has succeeded.
-/

namespace DriverUplift

namespace Manifest

def ofSource (path : String) (source : Except FileError String) : Except Failure Manifest :=
  match source with
  | .error error => .error (.file path error)
  | .ok text =>
      match parse text with
      | .error error => .error (.manifest error)
      | .ok manifest => .ok manifest

def load (disk : Disk) (path : String) : Except Failure Manifest :=
  ofSource path (disk.read path)

def save (manifest : Manifest) (disk : Disk) (path : String) : Except Failure Disk :=
  match disk.write path (.text manifest.render) with
  | .error error => .error (.file path error)
  | .ok written => .ok written

end Manifest

namespace Uplift

structure Config where
  manifestPath : String
  platform : String
  policy : Policy
  deriving DecidableEq, Repr

def prepare (config : Config) (source : Except FileError String) :
    Except Failure (Manifest × Platform) :=
  match Manifest.ofSource config.manifestPath source with
  | .error failure => .error failure
  | .ok manifest =>
      match manifest.platform config.platform with
      | .error error => .error (.manifest error)
      | .ok platform => .ok (manifest, platform)

def opening (config : Config) : Log.Event :=
  .ofUplift .debug ("Loading manifest " ++ config.manifestPath)

def closing (config : Config) : Log.Event :=
  .ofUplift .info ("Updated " ++ config.manifestPath)

/-- A manifest that is to be written, and the compute runtime version in it. -/
structure Revision where
  manifest : Manifest
  version : String

def store (config : Config) (manifest : Manifest) (platform : Platform) :
    Except Failure Revision :=
  match manifest.setPlatform config.platform platform with
  | .error error => .error (.manifest error)
  | .ok revised => .ok ⟨revised, platform.computeRuntime.version.text?.getD ""⟩

def revise (client : Github.Client) (config : Config) (source : Except FileError String) :
    Except Failure Revision × Trace :=
  let start : Trace := { events := [opening config] }
  match prepare config source with
  | .error failure => (.error failure, start)
  | .ok (manifest, platform) =>
      match (upliftPlatform client config.policy).after start with
      | (.error failure, trace) => (.error failure, trace)
      | (.ok (), trace) => (store config manifest (platform.revise trace.edits), trace)

def conclude (config : Config) (revision : Revision) (trace : Trace) :
    Except FileError Unit → Except Failure String × Trace
  | .error error => (.error (.file config.manifestPath error), trace)
  | .ok () => (.ok revision.version, { trace with events := trace.events ++ [closing config] })

structure Outcome where
  result : Except Failure String
  trace : Trace
  disk : Disk

/-- Uplift one platform of a manifest file; the result is the new compute runtime version. -/
def run (client : Github.Client) (config : Config) (disk : Disk) : Outcome :=
  match revise client config (disk.read config.manifestPath) with
  | (.error failure, trace) => ⟨.error failure, trace, disk⟩
  | (.ok revision, trace) =>
      match disk.write config.manifestPath (.text revision.manifest.render) with
      | .error error =>
          let (result, trace) := conclude config revision trace (.error error)
          ⟨result, trace, disk⟩
      | .ok written =>
          let (result, trace) := conclude config revision trace (.ok ())
          ⟨result, trace, written⟩

end Uplift

end DriverUplift
