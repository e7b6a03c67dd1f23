/-!
# Paths

Paths to files and directories, as they are written. A path that begins with a slash starts from the
root, and any other one from the working directory; slashes separate its parts. Most parts are names;
an empty part and `.` stay where they are, and `..` leads back. The empty parts and the dots are kept,
because a path that ends in one asks for a directory, and because they count towards its size.
-/

namespace SessionGateway.Disk

def isAbsolute (path : String) : Bool :=
  path.toList.head? = some '/'

/-- Puts a written path behind another one; an absolute path stands for itself. -/
def join (base path : String) : String :=
  if isAbsolute path then path
  else if base.toList.getLast? = some '/' then base ++ path
  else base ++ "/" ++ path

/-- A path: where it starts from, and the parts between its slashes. -/
structure Path where
  absolute : Bool
  parts : List String
  deriving DecidableEq, Repr

namespace Path

def nameLimit : Nat := 255

def sizeLimit : Nat := 4095

def splitSlashes (cs : List Char) : List String :=
  let (word, parts) := cs.foldr (fun c (word, parts) =>
    if c = '/' then ([], String.ofList word :: parts) else (c :: word, parts)) ([], [])
  String.ofList word :: parts

def ofText (text : String) : Path :=
  match text.toList with
  | '/' :: cs => ⟨true, splitSlashes cs⟩
  | cs => ⟨false, splitSlashes cs⟩

/-- Whether a part stays where it is. -/
def isIdle (part : String) : Bool :=
  part = "" || part = "."

/-- The steps of a path: its names, and `..` for a step back. -/
def steps (p : Path) : List String :=
  p.parts.filter (!isIdle ·)

/-- A path without the idle parts at its end. A dot that a path from the working directory begins
with stays. -/
def trimmed (p : Path) : Path :=
  let lead := if !p.absolute && p.parts.head? = some "." then 1 else 0
  ⟨p.absolute, p.parts.take lead ++ ((p.parts.drop lead).reverse.dropWhile isIdle).reverse⟩

def parent (p : Path) : Path :=
  trimmed ⟨p.absolute, p.trimmed.parts.dropLast⟩

/-- Whether a path can only be that of a directory, because an idle part ends it. -/
def asksDirectory (p : Path) : Bool :=
  p.parts.getLast?.any isIdle

/-- Whether a path ends in a dot, be it with slashes behind it. Such a path leads into a directory
and cannot be the name of a new one. -/
def endsInDot (p : Path) : Bool :=
  (p.parts.filter (· ≠ "")).getLast? = some "."

def size (p : Path) : Nat :=
  p.parts.foldl (fun size part => size + part.utf8ByteSize)
    (p.absolute.toNat + (p.parts.length - 1))

def isUsable (p : Path) : Bool :=
  0 < p.size && p.size ≤ sizeLimit && p.parts.all (·.toList.all (·.toNat ≠ 0))

end Path

end SessionGateway.Disk
