import DriverUplift.Failure
import DriverUplift.Text.Occurrence
import DriverUplift.Text.Split

/-!
# Folders and files

A disk is the folder that a program works in.  Paths are looked up part by
part; `..` leaves a folder, and above the disk there is nothing to be found.
Reading wants a text file, and writing creates a file in a folder that exists
or replaces one.
-/

namespace DriverUplift

/-- What a file holds: a text, or bytes that are not one. -/
inductive Content where
  | text (value : String)
  | bytes (value : ByteArray)

def Content.ofBytes (value : ByteArray) : Content :=
  match String.fromUTF8? value with
  | some decoded => .text decoded
  | none => .bytes value

inductive Node where
  | file (content : Content)
  | folder (entries : List (String × Node))

/-- The working folder: its absolute name and what is in it. -/
structure Disk where
  root : String
  entries : Members Node

namespace Node

def find? : List String → Node → Option Node
  | [], node => some node
  | name :: names, folder entries =>
      match Members.get? name entries with
      | some node => find? names node
      | none => none
  | _ :: _, file _ => none

/-- Put a file at the end of a list of names; folders on the way must be there. -/
def putFile (content : Content) : List String → Node → Node
  | [], _ => file content
  | name :: names, folder entries =>
      folder (Members.put name
        (putFile content names ((Members.get? name entries).getD (file content))) entries)
  | _ :: _, file old => file old

end Node

namespace Disk

def node (disk : Disk) : Node :=
  .folder disk.entries

/-- Where a look-up has come to: below the working folder, or outside of it. -/
inductive Place where
  | inside (names : List String)
  | outside
  deriving DecidableEq

inductive Target where
  | folder
  | file (names : List String) (content : Content)
  /-- A name that is not there in a folder that is. -/
  | free (names : List String)
  /-- A name that is not there and is asked for as a folder. -/
  | freeFolder

def nameLimit : Nat := 255

def pathLimit : Nat := 4095

def Place.up : Place → Place
  | inside [] => outside
  | inside names => inside names.dropLast
  | outside => outside

def follow (disk : Disk) : Place → List String → Except FileError Target
  | _, [] => .ok .folder
  | place, part :: parts =>
      if part = "" ∨ part = "." then follow disk place parts
      else if part = ".." then follow disk place.up parts
      else if nameLimit < part.utf8ByteSize then .error .nameTooLong
      else
        match place with
        | .outside => .error .notFound
        | .inside names =>
            match disk.node.find? (names ++ [part]) with
            | some (.folder _) => follow disk (.inside (names ++ [part])) parts
            | some (.file content) =>
                if parts.isEmpty then .ok (.file (names ++ [part]) content)
                else .error .notFolder
            | none =>
                if parts.isEmpty then .ok (.free (names ++ [part]))
                else if parts.all (· == "") then .ok .freeFolder
                else .error .notFound

def parts (path : String) : List String :=
  (Text.splitWhere (· == '/') path.toList).map String.ofList

def start (disk : Disk) (path : String) : Place × List String :=
  if path = disk.root then (.inside [], [])
  else
    match Text.strip? (disk.root ++ "/").toList path.toList with
    | some rest => (.inside [], parts (String.ofList rest))
    | none =>
        if path.toList.head? = some '/' then (.outside, parts path) else (.inside [], parts path)

def lookUp (disk : Disk) (path : String) : Except FileError Target :=
  if path.toList.contains '\x00' then .error .nulInName
  else if path = "" then .error .notFound
  else if pathLimit < path.utf8ByteSize then .error .nameTooLong
  else
    let (place, rest) := disk.start path
    disk.follow place rest

def read (disk : Disk) (path : String) : Except FileError String :=
  match disk.lookUp path with
  | .error error => .error error
  | .ok .folder => .error .isFolder
  | .ok (.file _ (.text text)) => .ok text
  | .ok (.file _ (.bytes _)) => .error .notText
  | .ok (.free _) => .error .notFound
  | .ok .freeFolder => .error .notFound

def putFile (disk : Disk) (names : List String) (content : Content) : Disk :=
  match Node.putFile content names disk.node with
  | .folder entries => { disk with entries }
  | .file _ => disk

def write (disk : Disk) (path : String) (content : Content) : Except FileError Disk :=
  match disk.lookUp path with
  | .error error => .error error
  | .ok .folder => .error .isFolder
  | .ok .freeFolder => .error .isFolder
  | .ok (.file names _) => .ok (disk.putFile names content)
  | .ok (.free names) => .ok (disk.putFile names content)

def makeFolder (disk : Disk) (name : String) : Except FileError Disk :=
  match Members.get? name disk.entries with
  | some (.folder _) => .ok disk
  | some (.file _) => .error .alreadyThere
  | none => .ok { disk with entries := Members.put name (.folder []) disk.entries }

end Disk

end DriverUplift
