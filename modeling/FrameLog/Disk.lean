import FrameLog.Disk.Path
import FrameLog.Failure
import FrameLog.Bytes

/-!
# Disks

A name leads to the number of a file and the number to its contents, so a file whose name
was removed is still there for whoever has it open. Every step of a walk along a path needs
a directory to stand in; what it stumbles over decides the cause of the failure.
-/

set_option autoImplicit false

namespace FrameLog

abbrev FileNumber := Nat

inductive Node where
  | directory
  | file (number : FileNumber)
  deriving DecidableEq, Repr

structure Disk where
  /-- Where relative paths start. It exists, like every directory above it. -/
  workingDirectory : Location := []
  /-- All directories but the root. -/
  directories : List Location := []
  names : List (Location × FileNumber) := []
  /-- The contents of file number `n` stand at place `n`. -/
  contents : List Bytes := []
  deriving Repr

namespace Disk

/-! ## Walking -/

def emptyAt (workingDirectory : Location) : Disk where
  workingDirectory
  directories := (List.range workingDirectory.length).map fun above =>
    workingDirectory.take (above + 1)

def nodeAt? (disk : Disk) (location : Location) : Option Node :=
  if location = [] ∨ location ∈ disk.directories then some .directory
  else (disk.names.lookup location).map .file

/-- Follows the names from a place that need not exist. The place arrived at need not exist
either, but the directory that would hold it does. -/
def walk (disk : Disk) : Location → List String → Except IoCause Location
  | here, [] => .ok here
  | here, part :: parts =>
      match disk.nodeAt? here with
      | none => .error .notFound
      | some (.file _) => .error .notADirectory
      | some .directory =>
          if part = "." then disk.walk here parts
          else if part = ".." then disk.walk here.dropLast parts
          else disk.walk (here ++ [part]) parts

def startOf (disk : Disk) (path : Path) : Location :=
  if path.absolute then [] else disk.workingDirectory

def locate (disk : Disk) (text : String) : Except IoCause (Location × Node) :=
  match Path.ofString? text with
  | none => .error .notFound
  | some path =>
      let behind := if path.directoryOnly then ["."] else []
      match disk.walk (disk.startOf path) (path.parts ++ behind) with
      | .error cause => .error cause
      | .ok location =>
          match disk.nodeAt? location with
          | none => .error .notFound
          | some node => .ok (location, node)

def lookup (disk : Disk) (text : String) : Except IoCause Node :=
  (disk.locate text).map Prod.snd

def lookupFile (disk : Disk) (text : String) : Except IoCause FileNumber :=
  match disk.lookup text with
  | .error cause => .error cause
  | .ok .directory => .error .isADirectory
  | .ok (.file number) => .ok number

/-! ## Contents -/

def read (disk : Disk) (number : FileNumber) : Bytes := disk.contents.getD number []

def store (disk : Disk) (number : FileNumber) (contents : Bytes) : Disk :=
  { disk with contents := disk.contents.set number contents }

inductive Status where
  | missing
  | directory
  | file (size : Nat)
  deriving DecidableEq, Repr

def status (disk : Disk) (text : String) : Status :=
  match disk.lookup text with
  | .error _ => .missing
  | .ok .directory => .directory
  | .ok (.file number) => .file (disk.read number).length

/-! ## Creating and removing -/

def addFile (disk : Disk) (location : Location) : FileNumber × Disk :=
  (disk.contents.length,
    { disk with
      names := (location, disk.contents.length) :: disk.names
      contents := disk.contents ++ [[]] })

/-- The file that a path names, created empty if its directory is there and it is not. A
path that ends in a slash can never name a file. -/
def openFile (disk : Disk) (text : String) : Except IoCause (FileNumber × Disk) :=
  match Path.ofString? text with
  | none => .error .notFound
  | some path =>
      match disk.walk (disk.startOf path) path.parts with
      | .error cause => .error cause
      | .ok location =>
          if path.directoryOnly then .error .isADirectory
          else match disk.nodeAt? location with
            | some .directory => .error .isADirectory
            | some (.file number) => .ok (number, disk)
            | none => .ok (disk.addFile location)

def makeDirectory (disk : Disk) (start : Location) (parts : List String) : Except IoCause Disk :=
  match disk.walk start parts with
  | .error cause => .error cause
  | .ok location =>
      match disk.nodeAt? location with
      | some _ => .error .alreadyExists
      | none => .ok { disk with directories := location :: disk.directories }

def ensureDirectory (disk : Disk) (start : Location) (parts : List String) :
    Except IoCause Disk :=
  match disk.makeDirectory start parts with
  | .error .alreadyExists =>
      match (disk.walk start parts).map disk.nodeAt? with
      | .ok (some .directory) => .ok disk
      | _ => .error .alreadyExists
  | outcome => outcome

/-- Creates a directory and all that are missing above it. The names come last one first.
What was created before a failure stays. -/
def makeDirectoriesFrom (disk : Disk) (start : Location) :
    List String → Except IoCause Unit × Disk
  | [] => (.ok (), disk)
  | last :: above =>
      match disk.ensureDirectory start (above.reverse ++ [last]) with
      | .ok disk => (.ok (), disk)
      | .error .notFound =>
          match disk.makeDirectoriesFrom start above with
          | (.error cause, disk) => (.error cause, disk)
          | (.ok (), disk) =>
              match disk.ensureDirectory start (above.reverse ++ [last]) with
              | .ok disk => (.ok (), disk)
              | .error cause => (.error cause, disk)
      | .error cause => (.error cause, disk)

def makeDirectories (disk : Disk) (path : Path) : Except IoCause Unit × Disk :=
  disk.makeDirectoriesFrom (disk.startOf path) path.parts.reverse

def removeFile (disk : Disk) (text : String) : Except IoCause Disk :=
  match disk.locate text with
  | .error cause => .error cause
  | .ok (_, .directory) => .error .isADirectory
  | .ok (location, .file _) =>
      .ok { disk with names := disk.names.filter (·.1 ≠ location) }

end Disk

end FrameLog
