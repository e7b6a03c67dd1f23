import SessionGateway.Disk.Entry
import SessionGateway.Disk.Path

/-!
# A file tree

Files and directories below a root, with paths written as text. The way back from the root leads to
the root. Paths that do not begin with a slash start from the working directory.
-/

namespace SessionGateway

structure Disk where
  entries : List (String × Disk.Entry)
  /-- The place of the working directory. -/
  base : List String

namespace Disk

/-- A tree with an empty root directory, which is the working directory. -/
def empty : Disk :=
  ⟨[], []⟩

def at? (d : Disk) (place : List String) : Option Entry :=
  Entry.find? d.entries place

def isDirectory (d : Disk) (place : List String) : Bool :=
  match d.at? place with
  | some (.directory _) => true
  | _ => false

def alter (d : Disk) (place : List String) (new : Option Entry) : Disk :=
  { d with entries := Entry.alter new d.entries place }

/-- The place that steps lead to from a place. Every step starts from a directory. -/
def walk (d : Disk) (place : List String) : List String → Option (List String)
  | [] => some place
  | step :: rest =>
    if !d.isDirectory place then none
    else if step = ".." then d.walk place.dropLast rest
    else if step.utf8ByteSize ≤ Path.nameLimit then d.walk (place ++ [step]) rest
    else none

def start (d : Disk) (path : Path) : List String :=
  if path.absolute then [] else d.base

def admits (d : Disk) (path : Path) : Bool :=
  path.isUsable && d.isDirectory (d.start path)

def place? (d : Disk) (path : Path) : Option (List String) :=
  if d.admits path then d.walk (d.start path) path.steps else none

def entry? (d : Disk) (path : Path) : Option Entry :=
  ((d.place? path).bind d.at?).filter fun
    | .directory _ => true
    | .file _ => !path.asksDirectory

def contains (d : Disk) (text : String) : Bool :=
  (d.entry? (.ofText text)).isSome

def read? (d : Disk) (text : String) : Option Wire.Bytes :=
  match d.entry? (.ofText text) with
  | some (.file content) => some content
  | _ => none

/-- Makes the directories that are missing along steps from a directory, up to one that cannot be
made. The flag tells whether all are there. -/
def makeAlong (d : Disk) (place : List String) : List String → Bool × Disk
  | [] => (true, d)
  | step :: rest =>
    if step = ".." then d.makeAlong place.dropLast rest
    else if Path.nameLimit < step.utf8ByteSize then (false, d)
    else
      let next := place ++ [step]
      match d.at? next with
      | some (.directory _) => d.makeAlong next rest
      | some (.file _) => (false, d)
      | none => (d.alter next (some (.directory []))).makeAlong next rest

/-- Makes the directory at a path and those above it; the empty path needs none. A path that ends in a
dot makes those above it only. -/
def makePath (d : Disk) (path : Path) : Bool × Disk :=
  if path.size = 0 then (true, d)
  else if !d.admits path then (false, d)
  else if path.endsInDot then
    let (made, d) := d.makeAlong (d.start path) path.steps.dropLast
    (made && (d.entry? path).isSome, d)
  else d.makeAlong (d.start path) path.steps

def makeDirectory (d : Disk) (text : String) : Bool × Disk :=
  d.makePath (.ofText text)

/-- Makes the directory that the last step of a path starts from. -/
def makeParent (d : Disk) (text : String) : Bool × Disk :=
  d.makePath (Path.ofText text).parent

/-- Writes a file, in place of an earlier one; its directory must be there. -/
def write? (d : Disk) (text : String) (content : Wire.Bytes) : Option Disk :=
  let path := Path.ofText text
  if path.asksDirectory then none
  else (d.place? path).bind fun place =>
    if d.isDirectory place then none else some (d.alter place (some (.file content)))

def remove? (d : Disk) (text : String) : Option Disk :=
  let path := Path.ofText text
  match d.entry? path with
  | some (.file _) => (d.place? path).map (d.alter · none)
  | _ => none

end Disk

end SessionGateway
